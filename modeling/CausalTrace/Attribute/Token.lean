/-
The tokens of attribute text: what each token is written as, and how
text is cut into tokens.

* `Token.write`: the text of a token, ASCII only; `Token.hasText`: whether it
  has one;
* `Token.scan`: the tokens of a text, blanks between them skipped, or
  nothing if some part of the text is no token;
* `Token.next?_length`: taking a token shortens the text.
-/
import CausalTrace.Number.Shortest
import CausalTrace.Text.Hex
import CausalTrace.Text.Numeral

namespace CausalTrace

/-- A token of attribute text. -/
inductive Token where
  | openList
  | closeList
  | openMap
  | closeMap
  | comma
  | colon
  | null
  | bool (value : Bool)
  | int (value : Int)
  | float (value : Binary64)
  | quoted (value : String)
deriving DecidableEq

namespace Token

/-! ### Units of escaped text -/

/-- The 16-bit units that stand for a character in an escape. -/
def unitsOf (c : Char) : List Nat :=
  let n := c.toNat
  if n < 0x10000 then [n]
  else [0xD800 + (n - 0x10000) / 0x400, 0xDC00 + (n - 0x10000) % 0x400]

/-- The first unit of a pair. -/
def isHighUnit (u : Nat) : Bool := 0xD800 ≤ u && u < 0xDC00

/-- The second unit of a pair. -/
def isLowUnit (u : Nat) : Bool := 0xDC00 ≤ u && u < 0xE000

/-- The character of a unit by itself; half a pair becomes the
replacement character. -/
def charOfUnit (u : Nat) : Char :=
  if isHighUnit u || isLowUnit u then Char.ofNat 0xFFFD else Char.ofNat u

/-- The characters that units stand for, pairs joined. -/
def joinUnits : List Nat → List Char
  | high :: low :: rest =>
    if isHighUnit high && isLowUnit low then
      Char.ofNat (0x10000 + (high - 0xD800) * 0x400 + (low - 0xDC00)) :: joinUnits rest
    else charOfUnit high :: joinUnits (low :: rest)
  | [unit] => [charOfUnit unit]
  | [] => []

/-- A character is the join of its units. -/
theorem joinUnits_unitsOf (c : Char) (rest : List Nat) :
    joinUnits (unitsOf c ++ rest) = c :: joinUnits rest := by
  have hvalid := c.valid
  simp only [UInt32.isValidChar, Nat.isValidChar] at hvalid
  have hnat : c.val.toNat = c.toNat := rfl
  rw [hnat] at hvalid
  by_cases hsmall : c.toNat < 0x10000
  · have hhigh : isHighUnit c.toNat = false := by simp [isHighUnit]; omega
    have hlow : isLowUnit c.toNat = false := by simp [isLowUnit]; omega
    have hchar : charOfUnit c.toNat = c := by simp [charOfUnit, hhigh, hlow]
    cases rest with
    | nil => simp [unitsOf, hsmall, joinUnits, hchar]
    | cons unit rest => simp [unitsOf, hsmall, joinUnits, hhigh, hchar]
  · have hhigh : isHighUnit (0xD800 + (c.toNat - 0x10000) / 0x400) = true := by
      simp [isHighUnit]; omega
    have hlow : isLowUnit (0xDC00 + (c.toNat - 0x10000) % 0x400) = true := by
      simp [isLowUnit]; omega
    have hjoin : 0x10000 + (0xD800 + (c.toNat - 0x10000) / 0x400 - 0xD800) * 0x400
        + (0xDC00 + (c.toNat - 0x10000) % 0x400 - 0xDC00) = c.toNat := by omega
    simp only [unitsOf, hsmall, if_false, List.cons_append, List.nil_append, joinUnits, hhigh,
      hlow, Bool.and_self, if_true, hjoin, Char.ofNat_toNat]

/-! ### Writing -/

/-- The letters of the short escapes and what they stand for. -/
def shortEscapes : List (Char × Char) :=
  [('"', '"'), ('\\', '\\'), ('n', '\n'), ('r', '\r'), ('t', '\t'), ('b', '\x08'),
   ('f', '\x0c')]

/-- A character inside quotation marks: by its short escape, as it is
from the space to the tilde, else by its units. -/
def escapeChar (c : Char) : List Char :=
  match shortEscapes.find? (·.2 = c) with
  | some (letter, _) => ['\\', letter]
  | none =>
    if 0x20 ≤ c.toNat ∧ c.toNat < 0x7F then [c]
    else (unitsOf c).flatMap fun unit => '\\' :: 'u' :: hexNumber 4 unit

/-- Numbers are positional from 0.0001 to below 10 ^ 16, and an exponent
has at least two digits. -/
def numberLayout : Layout where
  firstPositional := -4
  firstScientific := 16
  exponentWidth := 2
  infinity := "Infinity"
  nan := "NaN"

/-- The text of a token. -/
def write : Token → List Char
  | openList => ['[']
  | closeList => [']']
  | openMap => ['\x7b']
  | closeMap => ['\x7d']
  | comma => [',']
  | colon => [':']
  | null => "null".toList
  | bool value => if value then "true".toList else "false".toList
  | int value => (if value < 0 then ['-'] else []) ++ Nat.toDigits 10 value.natAbs
  | float value => numberLayout.write value
  | quoted value => '"' :: (value.toList.flatMap escapeChar ++ ['"'])

/-- Whether a token has a text: an integer has none if it is too long. -/
def hasText : Token → Bool
  | int value => isWritable value
  | _ => true

/-! ### Reading -/

/-- The text behind a word, if the text starts with it. -/
def behind? : List Char → List Char → Option (List Char)
  | [], text => some text
  | c :: word, d :: text => if c = d then behind? word text else none
  | _ :: _, [] => none

/-- Taking a word shortens the text by its length. -/
theorem behind?_length {word text rest : List Char} (h : behind? word text = some rest) :
    rest.length + word.length = text.length := by
  fun_induction behind? word text with
  | case1 text => simp_all
  | case2 c word text ih => have := ih h; simp; omega
  | case3 => simp at h
  | case4 => simp at h

/-- The number that four hexadecimal digits write. -/
def hexUnit? (a b c d : Char) : Option Nat := do
  let w ← hexDigit? a
  let x ← hexDigit? b
  let y ← hexDigit? c
  let z ← hexDigit? d
  return 0x1000 * w + 0x100 * x + 0x10 * y + z

/-- What the letter of an escape stands for; a slash may be escaped
too. -/
def unescape? (letter : Char) : Option Char :=
  if letter = '/' then some '/'
  else (shortEscapes.find? (·.1 = letter)).map (·.2)

/-- The units of a quoted text up to its closing mark, and what follows.
Control characters may not stand there as they are. -/
def readUnits : List Char → Option (List Nat × List Char)
  | [] => none
  | '"' :: rest => some ([], rest)
  | '\\' :: 'u' :: a :: b :: c :: d :: rest => do
    let unit ← hexUnit? a b c d
    let (units, behind) ← readUnits rest
    return (unit :: units, behind)
  | '\\' :: letter :: rest => do
    let c ← unescape? letter
    let (units, behind) ← readUnits rest
    return (c.toNat :: units, behind)
  | c :: rest =>
    if c.toNat < 0x20 then none
    else do
      let (units, behind) ← readUnits rest
      return (c.toNat :: units, behind)

/-- Reading a quoted text shortens the text. -/
theorem readUnits_length {text : List Char} : ∀ {units : List Nat} {rest : List Char},
    readUnits text = some (units, rest) → rest.length < text.length := by
  fun_induction readUnits text with
  | case1 => intro units rest h; simp at h
  | case2 rest => intro units behind h; simp at h; simp [h.2]
  | case3 a b c d rest ih =>
    intro units behind h
    simp only [Option.bind_eq_bind, Option.bind_eq_some_iff, Option.pure_def,
      Option.some.injEq, Prod.mk.injEq] at h
    obtain ⟨unit, _, ⟨more, tail⟩, hread, _, rfl⟩ := h
    have := ih hread
    simp
    omega
  | case4 letter rest _ ih =>
    intro units behind h
    simp only [Option.bind_eq_bind, Option.bind_eq_some_iff, Option.pure_def,
      Option.some.injEq, Prod.mk.injEq] at h
    obtain ⟨c, _, ⟨more, tail⟩, hread, _, rfl⟩ := h
    have := ih hread
    simp
    omega
  | case5 => intro units rest h; simp at h
  | case6 c rest _ _ _ _ ih =>
    intro units behind h
    simp only [Option.bind_eq_bind, Option.bind_eq_some_iff, Option.pure_def,
      Option.some.injEq, Prod.mk.injEq] at h
    obtain ⟨⟨more, tail⟩, hread, _, rfl⟩ := h
    have := ih hread
    simp
    omega

/-- The digits behind a decimal point, if there are any, and what
follows. -/
def readFraction (text : List Char) : List Char × List Char :=
  match text with
  | '.' :: rest =>
    if (rest.takeWhile Char.isDigit).isEmpty then ([], text)
    else (rest.takeWhile Char.isDigit, rest.dropWhile Char.isDigit)
  | _ => ([], text)

/-- The exponent behind its letter, if there is one, and what follows. -/
def readExponent (text : List Char) : Option Int × List Char :=
  match text with
  | letter :: rest =>
    let (negative, body) := splitSign rest
    let digits := body.takeWhile Char.isDigit
    if (letter = 'e' ∨ letter = 'E') ∧ !digits.isEmpty then
      (some (signed negative (Nat.ofDigitChars 10 digits 0)), body.dropWhile Char.isDigit)
    else (none, text)
  | [] => (none, text)

/-- A number behind its sign. Without fraction and exponent it is an
integer, which may not have more digits than a numeral; a leading zero
stands alone. -/
def readNumber? (negative : Bool) (text : List Char) : Option (Token × List Char) :=
  let whole := text.takeWhile Char.isDigit
  let (fraction, rest) := readFraction (text.dropWhile Char.isDigit)
  let (exponent, behind) := readExponent rest
  if whole.isEmpty || (whole.head? = some '0' && whole.length ≠ 1) then none
  else if fraction.isEmpty && exponent.isNone then
    if digitLimit < whole.length then none
    else some (int (signed negative (Nat.ofDigitChars 10 whole 0)), behind)
  else
    let significand := Nat.ofDigitChars 10 (whole ++ fraction) 0
    let scale := exponent.getD 0 - fraction.length
    some (float (Binary64.ofDecimal negative significand scale), behind)

/-- The words that are tokens. -/
def words : List (List Char × Token) :=
  [("null".toList, null), ("true".toList, bool true), ("false".toList, bool false),
   ("NaN".toList, float .nan), ("Infinity".toList, float (.infinite false)),
   ("-Infinity".toList, float (.infinite true))]

/-- The marks that are tokens. -/
def marks : List (Char × Token) :=
  [('[', openList), (']', closeList), ('\x7b', openMap), ('\x7d', closeMap), (',', comma),
   (':', colon)]

/-- The first token of a text and what follows it. -/
def next? (c : Char) (rest : List Char) : Option (Token × List Char) :=
  match marks.find? (·.1 = c) with
  | some (_, mark) => some (mark, rest)
  | none =>
    if c = '"' then
      (readUnits rest).map fun (units, behind) => (quoted (String.ofList (joinUnits units)), behind)
    else
      match words.findSome? fun (word, token) => (behind? word (c :: rest)).map (token, ·) with
      | some found => some found
      | none =>
        if c = '-' then readNumber? true rest
        else if c.isDigit then readNumber? false (c :: rest)
        else none

/-- What follows a fraction is no longer than the text. -/
theorem readFraction_length (text : List Char) : (readFraction text).2.length ≤ text.length := by
  unfold readFraction
  split
  · split
    · simp
    · rename_i rest _
      have := (List.dropWhile_sublist (p := Char.isDigit) (l := rest)).length_le
      simp
      omega
  · simp

/-- What follows a sign is no longer than the text. -/
theorem splitSign_length (text : List Char) : (splitSign text).2.length ≤ text.length := by
  unfold splitSign
  split <;> simp

/-- What follows an exponent is no longer than the text. -/
theorem readExponent_length (text : List Char) : (readExponent text).2.length ≤ text.length := by
  unfold readExponent
  split
  · rename_i letter rest
    simp only
    split
    · have hdrop := (List.dropWhile_sublist (p := Char.isDigit)
        (l := (splitSign rest).2)).length_le
      have hsign := splitSign_length rest
      simp
      omega
    · simp
  · simp

/-- What follows a number is shorter than the text. -/
theorem readNumber?_length {negative : Bool} {text rest : List Char} {token : Token}
    (h : readNumber? negative text = some (token, rest)) : rest.length < text.length := by
  have hsplit := List.takeWhile_append_dropWhile (p := Char.isDigit) (l := text)
  have hlen : (text.takeWhile Char.isDigit).length + (text.dropWhile Char.isDigit).length
      = text.length := by
    rw [← List.length_append, hsplit]
  have hfraction := readFraction_length (text.dropWhile Char.isDigit)
  have hexponent := readExponent_length (readFraction (text.dropWhile Char.isDigit)).2
  simp only [readNumber?] at h
  split at h
  · simp at h
  · rename_i hdigits
    have hpos : 0 < (text.takeWhile Char.isDigit).length := by
      cases hw : text.takeWhile Char.isDigit with
      | nil => simp [hw] at hdigits
      | cons _ _ => simp
    have hrest : rest = (readExponent (readFraction (text.dropWhile Char.isDigit)).2).2 := by
      split at h
      · split at h <;> simp_all
      · simp_all
    rw [hrest]
    omega

/-- Every word has letters. -/
theorem words_ne_nil : ∀ entry ∈ words, 0 < entry.1.length := by
  decide

/-- Taking a token shortens the text. -/
theorem next?_length {c : Char} {rest behind : List Char} {token : Token}
    (h : next? c rest = some (token, behind)) : behind.length < (c :: rest).length := by
  simp only [next?] at h
  split at h
  · simp at h
    simp [h.2]
  · split at h
    · simp only [Option.map_eq_some_iff, Prod.mk.injEq] at h
      obtain ⟨⟨units, tail⟩, hread, _, rfl⟩ := h
      have := readUnits_length hread
      simp
      omega
    · split at h
      · rename_i found hfound
        obtain ⟨⟨word, token'⟩, hmem, hsome⟩ := List.exists_of_findSome?_eq_some hfound
        simp only [Option.map_eq_some_iff] at hsome
        obtain ⟨tail, htail, rfl⟩ := hsome
        have hword := words_ne_nil _ hmem
        have := behind?_length htail
        simp at h hword
        obtain ⟨_, rfl⟩ := h
        simp at this ⊢
        omega
      · split at h
        · have := readNumber?_length h
          simp
          omega
        · split at h
          · exact readNumber?_length h
          · simp at h

/-- Blanks between tokens. -/
def isSpace (c : Char) : Bool :=
  c = ' ' || c = '\t' || c = '\n' || c = '\r'

/-- The tokens of a text. -/
def scan (text : List Char) : Option (List Token) :=
  match text with
  | [] => some []
  | c :: rest =>
    if isSpace c then scan rest
    else
      match _h : next? c rest with
      | none => none
      | some (token, behind) => (scan behind).map (token :: ·)
termination_by text.length
decreasing_by
  · simp
  · exact next?_length _h

end Token
end CausalTrace
