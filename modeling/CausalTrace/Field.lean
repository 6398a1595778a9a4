/-
Values given by name, and what is wrong with them.

* `fieldInteger?`, `fieldFloat?`: numbers written in the text of a field;
* `FieldError`: a named value with a fault;
* `readInt`, `readFloat`, `readText`: a value as an integer, a
  floating-point value or a text;
* `pairFields`: two values, or the errors of both.
-/
import CausalTrace.Attribute.Basic
import CausalTrace.Number.Decimal
import CausalTrace.Text.Numeral

namespace CausalTrace

/-! ### Numbers in fields -/

/-- Text without underscores, if it has some, none of them at an end or
beside another. -/
def withoutUnderscores? (text : List Char) : Option (List Char) :=
  let groups := text.splitOn '_'
  if groups.length < 2 || groups.any List.isEmpty then none else some groups.flatten

/-- An integer in ASCII digits: a minus sign if it is negative, no zero in
front of other digits, and no more digits than a numeral may have. -/
def plainInteger? (text : List Char) : Option Int :=
  let (negative, digits) := match text with
    | '-' :: rest => (true, rest)
    | _ => (false, text)
  if digits.isEmpty || !digits.all Char.isDigit || (digits.head? = some '0' && digits.length ≠ 1)
    || digitLimit < digits.length
  then none
  else some (signed negative (Nat.ofDigitChars 10 digits 0))

/-- Whether a text starts with an integer in ASCII digits that has more
digits than a numeral may have. -/
def startsTooLong (text : List Char) : Bool :=
  let digits := match text with
    | '-' :: rest => rest
    | _ => text
  digits.head? ≠ some '0' && digitLimit < (digits.takeWhile Char.isDigit).length

/-- Text without zeros in front of its digits, underscores among the zeros
included. A zero that stands alone or before the point stays. The text has
to start with a digit, and a digit or a minus sign has to follow the
zeros. -/
def withoutLeadingZeros? (text : List Char) : Option (List Char) :=
  match text with
  | [] => none
  | '0' :: rest =>
    let isFiller (c : Char) : Bool := c = '0' || c = '_'
    let lastFiller := (rest.takeWhile isFiller).getLastD '0'
    match rest.dropWhile isFiller with
    | [] => some [lastFiller]
    | '.' :: more => some (lastFiller :: '.' :: more)
    | c :: more => if c.isDigit || c = '-' then some (c :: more) else none
  | c :: _ => if c.isDigit then some text else none

/-- Text without zeros in front of its digits, which may follow a minus
sign. -/
def withoutPadding? : List Char → Option (List Char)
  | '-' :: text => (withoutLeadingZeros? text).map ('-' :: ·)
  | text => withoutLeadingZeros? text

/-- Text without a plus sign in front; a minus sign may not follow it. -/
def withoutPlus? : List Char → Option (List Char)
  | '+' :: '-' :: _ => none
  | '+' :: rest => some rest
  | text => some text

/-- Text without its fraction, if that is a point and at least one zero
and nothing else. -/
def withoutZeroFraction (text : List Char) : List Char :=
  match text.dropWhile (· ≠ '.') with
  | '.' :: fraction =>
    if !fraction.isEmpty && fraction.all (· = '0') then text.takeWhile (· ≠ '.') else text
  | _ => text

/-- The plain form of an integer that is written with white space around
it, a plus sign, zeros in front, a fraction of zeros or underscores. -/
def plainForm? (text : List Char) : Option (List Char) := do
  let text ← withoutPlus? (trimBoth isWhiteSpace text)
  let text ← withoutPadding? text
  let text := withoutZeroFraction text
  return (withoutUnderscores? text).getD text

/-- The integer written in the text of a field. -/
def fieldInteger? (text : String) : Option Int :=
  let chars := text.toList
  (plainInteger? chars).or ((plainForm? chars).bind plainInteger?)

/-- The names of special values. -/
def specialFloats : List (List Char × (Bool → Binary64)) :=
  [("inf".toList, .infinite), ("infinity".toList, .infinite), ("nan".toList, fun _ => .nan)]

/-- A decimal number behind its sign: digits with or without a point, at
least one of them, and perhaps an exponent. -/
def plainDecimal? (negative : Bool) (text : List Char) : Option Binary64 :=
  let isDecimal (c : Char) : Bool := c.isDigit || c = '.'
  let digitsOf (text : List Char) : Option (List Char) :=
    if text.isEmpty || !text.all Char.isDigit then none else some text
  let mantissa := text.takeWhile isDecimal
  let whole := mantissa.takeWhile (· ≠ '.')
  let fraction := (mantissa.dropWhile (· ≠ '.')).drop 1
  let exponent? : Option Int := match text.dropWhile isDecimal with
    | [] => some 0
    | letter :: rest =>
      if letter = 'e' ∨ letter = 'E' then
        let (below, digits) := splitSign rest
        (digitsOf digits).map fun digits => signed below (Nat.ofDigitChars 10 digits 0)
      else none
  match digitsOf (whole ++ fraction), exponent? with
  | some digits, some exponent =>
    some (Binary64.ofDecimal negative (Nat.ofDigitChars 10 digits 0) (exponent - fraction.length))
  | _, _ => none

/-- A floating-point value in its plain form: a sign, then a special value
in letters of either case or a decimal number. -/
def plainFloat? (text : List Char) : Option Binary64 :=
  let (negative, body) := splitSign text
  match specialFloats.find? (·.1 = body.map Char.toLower) with
  | some (_, value) => some (value negative)
  | none => plainDecimal? negative body

/-- The floating-point value written in the text of a field. -/
def fieldFloat? (text : String) : Option Binary64 :=
  let chars := text.toList
  (plainFloat? (trimBoth isWhiteSpace chars)).or ((withoutUnderscores? chars).bind plainFloat?)

/-! ### Faults -/

/-- What is wrong with a named value. -/
inductive FieldFault where
  | missing
  | unknownLabel
  | otherLabel
  | badInteger
  | tooManyDigits
  | badFloat
  | fractional
  | notFinite
  | notInteger
  | notFloat
  | notText
  | notList
  | notPair
  | tooLong
deriving DecidableEq, Repr

/-- The code by which a fault is known. -/
def FieldFault.code : FieldFault → String
  | missing => "missing"
  | unknownLabel => "enum"
  | otherLabel => "literal_error"
  | badInteger => "int_parsing"
  | tooManyDigits => "int_parsing_size"
  | badFloat => "float_parsing"
  | fractional => "int_from_float"
  | notFinite => "finite_number"
  | notInteger => "int_type"
  | notFloat => "float_type"
  | notText => "string_type"
  | notList => "list_type"
  | notPair => "tuple_type"
  | tooLong => "too_long"

/-- A named value with a fault. -/
structure FieldError where
  field : String
  fault : FieldFault
deriving DecidableEq, Repr

/-- Field errors in the order of their names, then of their codes. -/
def sortFieldErrors (errors : List FieldError) : List FieldError :=
  errors.mergeSort fun a b =>
    decide (a.field < b.field) || (a.field == b.field && decide (a.fault.code ≤ b.fault.code))

/-! ### Reading -/

/-- The integer of a finite value, if it is whole. -/
def wholeOf (field : String) : Binary64 → Except (List FieldError) Int
  | .finite negative units _ =>
    if units % Binary64.one = 0 then .ok (signed negative (units / Binary64.one))
    else .error [⟨field, .fractional⟩]
  | _ => .error [⟨field, .notFinite⟩]

/-- An integer in the text of a field. Its length is a fault of its own
only where the text starts with a plain integer that is too long. -/
def integerText (field text : String) : Except (List FieldError) Int :=
  match fieldInteger? text with
  | some n => .ok n
  | none => .error [⟨field, if startsTooLong text.toList then .tooManyDigits else .badInteger⟩]

/-- A floating-point value in the text of a field. -/
def floatText (field text : String) : Except (List FieldError) Binary64 :=
  match fieldFloat? text with
  | some x => .ok x
  | none => .error [⟨field, .badFloat⟩]

/-- A value as an integer. -/
def readInt (field : String) : Option Attribute → Except (List FieldError) Int
  | none => .error [⟨field, .missing⟩]
  | some (.int n) => .ok n
  | some (.bool b) => .ok b.toInt
  | some (.float x) => wholeOf field x
  | some (.text text) => integerText field text
  | some _ => .error [⟨field, .notInteger⟩]

/-- A value as a floating-point value. -/
def readFloat (field : String) : Option Attribute → Except (List FieldError) Binary64
  | none => .error [⟨field, .missing⟩]
  | some (.float x) => .ok x
  | some (.int n) =>
    match Binary64.ofInt? n with
    | some x => .ok x
    | none => .error [⟨field, .notFloat⟩]
  | some (.bool b) => .ok (.ofNat b.toNat)
  | some (.text text) => floatText field text
  | some _ => .error [⟨field, .notFloat⟩]

/-- A value as a text. -/
def readText (field : String) : Option Attribute → Except (List FieldError) String
  | none => .error [⟨field, .missing⟩]
  | some (.text text) => .ok text
  | some _ => .error [⟨field, .notText⟩]

/-- A value as a list of texts; what is wrong with an item is reported
under the position of the item. -/
def readTexts (field : String) : Attribute → Except (List FieldError) (List String)
  | .list items =>
    let texts := items.filterMap fun item => match item with
      | .text text => some text
      | _ => none
    let errors := items.zipIdx.filterMap fun (item, position) => match item with
      | .text _ => none
      | _ => some ⟨field ++ "." ++ toString position, .notText⟩
    if errors.isEmpty then .ok texts else .error errors
  | _ => .error [⟨field, .notList⟩]

/-- Two values, or the errors of both. -/
def pairFields {α β : Type} (a : Except (List FieldError) α) (b : Except (List FieldError) β) :
    Except (List FieldError) (α × β) :=
  match a, b with
  | .ok x, .ok y => .ok (x, y)
  | .error e, .error f => .error (e ++ f)
  | .error e, _ => .error e
  | _, .error f => .error f

end CausalTrace
