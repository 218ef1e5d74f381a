/-!
# Slices of texts

A text cut at offsets that count bytes. An offset can fall inside a character that takes several
bytes; the text cannot be cut there.

## Main definitions

* `Text.takeBytes?`, `Text.dropBytes?` — the two sides of a cut.
* `Text.slice?` — what lies between two cuts.
-/

namespace EscrowLedger.Text

/-- The characters in front of an offset, if the text can be cut there. -/
def takeBytes? : List Char → Nat → Option (List Char)
  | _, 0 => some []
  | [], _ + 1 => none
  | c :: cs, n + 1 =>
    if c.utf8Size ≤ n + 1 then (takeBytes? cs (n + 1 - c.utf8Size)).map (c :: ·) else none

/-- The characters behind an offset, if the text can be cut there. -/
def dropBytes? : List Char → Nat → Option (List Char)
  | cs, 0 => some cs
  | [], _ + 1 => none
  | c :: cs, n + 1 => if c.utf8Size ≤ n + 1 then dropBytes? cs (n + 1 - c.utf8Size) else none

/-- The characters between two offsets, if the text can be cut at both. -/
def slice? (cs : List Char) (start stop : Nat) : Option (List Char) := do
  takeBytes? (← dropBytes? cs start) (stop - start)

end EscrowLedger.Text
