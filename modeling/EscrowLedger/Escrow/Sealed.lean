import EscrowLedger.Text.Space

/-!
# Sealed artifacts

The content of an encrypted artifact. It is never blank, and it is shown in logs by its size only.

## Main definitions

* `Sealed` — a text that is not blank.
* `Sealed.ofText?` — seals a text unless it is blank.
-/

namespace EscrowLedger

/-- The content of an encrypted artifact. -/
structure Sealed where
  text : String
  not_blank : Text.isBlank text = false
deriving DecidableEq

namespace Sealed

/-- Seals a text unless it is blank. -/
def ofText? (s : String) : Option Sealed :=
  if h : Text.isBlank s = false then some ⟨s, h⟩ else none

def describe (s : Sealed) : String := "Sealed(" ++ toString s.text.utf8ByteSize ++ " bytes)"

theorem ofText?_eq_some_iff {t : String} {s : Sealed} : ofText? t = some s ↔ t = s.text := by
  unfold ofText?
  constructor
  · intro h
    split at h
    · cases h
      rfl
    · cases h
  · rintro rfl
    rw [dif_pos s.not_blank]

@[simp] theorem ofText?_text (s : Sealed) : ofText? s.text = some s :=
  ofText?_eq_some_iff.2 rfl

end Sealed

end EscrowLedger
