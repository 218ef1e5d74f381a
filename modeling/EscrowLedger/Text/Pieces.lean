/-!
# Pieces of a text

A text that is a list of pieces with a separator between them. There is always at least one piece,
and a piece can be empty.

## Main definitions

* `Text.pieces` — the pieces between all occurrences of a separator.
-/

namespace EscrowLedger.Text

/-- Cuts a text at every occurrence of a character. -/
def pieces (separator : Char) : List Char → List (List Char)
  | [] => [[]]
  | c :: cs =>
    if c = separator then [] :: pieces separator cs
    else
      match pieces separator cs with
      | first :: rest => (c :: first) :: rest
      | [] => [[c]]

end EscrowLedger.Text
