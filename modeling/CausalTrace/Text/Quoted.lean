/-
Text between quotation marks, as messages show it.

* `quoteMark`: the apostrophe, or the double mark for a text that holds
  apostrophes and no double marks;
* `quoted`: the text between its marks, with the backslash, the mark and
  all that cannot be printed escaped.
-/
import CausalTrace.Text.Hex
import CausalTrace.Text.Printable

namespace CausalTrace

/-- The apostrophe. -/
def apostrophe : Char := Char.ofNat 39

/-- The mark that encloses a text. -/
def quoteMark (text : List Char) : Char :=
  if text.contains apostrophe && !text.contains '"' then '"' else apostrophe

/-- One character between quotation marks. -/
def quotedChar (mark c : Char) : List Char :=
  if c = mark ∨ c = '\\' then ['\\', c]
  else if c = '\n' then ['\\', 'n']
  else if c = '\r' then ['\\', 'r']
  else if c = '\t' then ['\\', 't']
  else if isPrintable c then [c]
  else if c.toNat < 0x100 then '\\' :: 'x' :: hexNumber 2 c.toNat
  else if c.toNat < 0x10000 then '\\' :: 'u' :: hexNumber 4 c.toNat
  else '\\' :: 'U' :: hexNumber 8 c.toNat

/-- A text between quotation marks. -/
def quoted (text : List Char) : List Char :=
  let mark := quoteMark text
  mark :: (text.flatMap (quotedChar mark) ++ [mark])

end CausalTrace
