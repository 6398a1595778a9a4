/-
Hexadecimal writing of bytes and numbers.

* `hexDigit?`: the value of a hexadecimal digit, of either case;
* `hexBytes`: two lower-case digits for each byte;
* `bytesOfHex?`: the bytes written by pairs of digits;
* `bytesOfHex?_hexBytes`: reading what was written gives the bytes back.
-/
namespace CausalTrace

/-- The value of a hexadecimal digit. -/
def hexDigit? (c : Char) : Option Nat :=
  if '0' ≤ c ∧ c ≤ '9' then some (c.toNat - '0'.toNat)
  else if 'a' ≤ c ∧ c ≤ 'f' then some (c.toNat - 'a'.toNat + 10)
  else if 'A' ≤ c ∧ c ≤ 'F' then some (c.toNat - 'A'.toNat + 10)
  else none

/-- Digits written in lower case read back. -/
theorem hexDigit?_digitChar {d : Nat} (h : d < 16) : hexDigit? d.digitChar = some d := by
  revert d
  decide

/-- Two lower-case digits for each byte. -/
def hexBytes : List UInt8 → List Char
  | [] => []
  | b :: rest => (b.toNat / 16).digitChar :: (b.toNat % 16).digitChar :: hexBytes rest

/-- The bytes that pairs of hexadecimal digits write. -/
def bytesOfHex? : List Char → Option (List UInt8)
  | [] => some []
  | [_] => none
  | high :: low :: rest => do
    let h ← hexDigit? high
    let l ← hexDigit? low
    let bytes ← bytesOfHex? rest
    return UInt8.ofNat (16 * h + l) :: bytes

/-- Reading what was written gives the bytes back. -/
theorem bytesOfHex?_hexBytes (bytes : List UInt8) :
    bytesOfHex? (hexBytes bytes) = some bytes := by
  induction bytes with
  | nil => rfl
  | cons b rest ih =>
    have hb : b.toNat < 256 := b.toNat_lt
    have hsplit : 16 * (b.toNat / 16) + b.toNat % 16 = b.toNat := by omega
    have hbyte : UInt8.ofNat (16 * (b.toNat / 16) + b.toNat % 16) = b := by
      rw [hsplit, UInt8.ofNat_toNat]
    rw [hexBytes, bytesOfHex?, hexDigit?_digitChar (show b.toNat / 16 < 16 by omega),
      hexDigit?_digitChar (show b.toNat % 16 < 16 by omega), ih]
    show some (UInt8.ofNat (16 * (b.toNat / 16) + b.toNat % 16) :: rest) = some (b :: rest)
    rw [hbyte]

/-- A number in hexadecimal, with zeros in front up to a given width. -/
def hexNumber (width n : Nat) : List Char :=
  let digits := Nat.toDigits 16 n
  List.replicate (width - digits.length) '0' ++ digits

/-- The text of bytes in hexadecimal. -/
def hexText (bytes : List UInt8) : String :=
  String.ofList (hexBytes bytes)

end CausalTrace
