import EscrowLedger.Text.Printable

/-!
# Quotations

A text inside a message stands between quotes, and every character of the quotation can be seen:
quote and backslash are escaped, so are the end of a line, the return, the tabulator and the null
character, and other characters that are not printable appear by their code point.

## Main definitions

* `Text.quotation` — a text as messages quote it.
-/

namespace EscrowLedger.Text

def quotedChar (c : Char) : List Char :=
  if c = '"' then ['\\', '"']
  else if c = '\\' then ['\\', '\\']
  else if c = '\n' then ['\\', 'n']
  else if c = '\r' then ['\\', 'r']
  else if c = '\t' then ['\\', 't']
  else if c.toNat = 0 then ['\\', '0']
  else if isPrintable c then [c]
  else '\\' :: 'u' :: '\x7b' :: (Nat.toDigits 16 c.toNat ++ ['\x7d'])

def quotation (s : String) : String :=
  String.ofList ('"' :: (s.toList.flatMap quotedChar ++ ['"']))

end EscrowLedger.Text
