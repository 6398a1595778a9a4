/-
Integer numerals: white space, a sign, and decimal digits of any script
that single underscores may separate.

* `readInteger`: the integer that a text denotes, or the reason why it
  denotes none;
* `NumeralError`: the two reasons;
* `writeInteger?`: the numeral of an integer, if it is not too long, and
  `unwritableMessage`, what is said if it is;
* `isWritable_iff`: what is not too long is below a power of ten.
-/
import CausalTrace.Text.Blank
import CausalTrace.Text.DecimalDigit

namespace CausalTrace

attribute [local instance (high)] instPowNat

/-! ### Reading -/

/-- Why a text denotes no integer. -/
inductive NumeralError where
  | malformed
  | tooLong (digits : Nat)
deriving DecidableEq, Repr

/-- The most digits that a numeral may have. -/
def digitLimit : Nat := 4300

/-- The digits of groups that single underscores separate. Each group
has at least one digit. -/
def groupedDigits? (text : List Char) : Option (List Nat) :=
  ((text.splitOn '_').mapM fun (group : List Char) =>
    if group.isEmpty then none else group.mapM decimalDigit?).map List.flatten

/-- The number that decimal digits write. -/
def ofDigits (digits : List Nat) : Nat :=
  digits.foldl (fun n d => 10 * n + d) 0

/-- Characters of which a numeral consists. -/
def isNumeral (c : Char) : Bool :=
  c = '_' || (decimalDigit? c).isSome

/-- Whether a text starts with a minus sign, and the text behind its
sign. -/
def splitSign : List Char → Bool × List Char
  | '-' :: rest => (true, rest)
  | '+' :: rest => (false, rest)
  | rest => (false, rest)

/-- The integer with a sign and a magnitude. -/
def signed (negative : Bool) (magnitude : Nat) : Int :=
  if negative then -magnitude else magnitude

/-- The integer that a text denotes. The digits are counted before
anything behind them is looked at. -/
def readInteger (text : List Char) : Except NumeralError Int :=
  let (negative, body) := splitSign (text.dropWhile isWhiteSpace)
  match groupedDigits? (body.takeWhile isNumeral) with
  | none => .error .malformed
  | some digits =>
    if digitLimit < digits.length then .error (.tooLong digits.length)
    else if (body.dropWhile isNumeral).all isWhiteSpace then
      .ok (signed negative (ofDigits digits))
    else .error .malformed

/-! ### Writing -/

/-- Whether an integer has no more digits than a numeral may have. -/
def isWritable (value : Int) : Bool :=
  (Nat.toDigits 10 value.natAbs).length ≤ digitLimit

/-- The numeral of an integer, in decimal digits behind a minus sign if it
is negative. An integer of too many digits has none. -/
def writeInteger? (value : Int) : Option String :=
  if isWritable value then some (toString value) else none

/-- What is said of an integer that has no numeral. -/
def unwritableMessage : String :=
  "Exceeds the limit (4300 digits) for integer string conversion; " ++
    "use sys.set_int_max_str_digits() to increase the limit"

/-- The integers that are not too long are those below a power of ten. -/
theorem isWritable_iff (value : Int) :
    isWritable value = true ↔ value.natAbs < 10 ^ digitLimit := by
  simp only [isWritable, decide_eq_true_eq]
  exact Nat.length_toDigits_le_iff (by decide) (by decide)

end CausalTrace
