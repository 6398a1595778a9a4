/-
Decimal readings of floating-point values: rounding to decimal places,
writing with a fixed number of places, and reading a decimal number.

* `Binary64.ofDecimal`: the value nearest to a decimal number;
* `Binary64.roundTo?`: the value nearest to the decimal rounding of the
  exact value, a half going to the even neighbour;
* `Binary64.fixed`: the decimal rounding of the exact value, written
  out.
-/
import CausalTrace.Number.Binary64

namespace CausalTrace

-- Powers are those of the natural numbers, whichever others are known.
attribute [local instance (high)] instPowNat

/-- A power of ten as a fraction of natural numbers. -/
def tenPower : Int → Nat × Nat
  | .ofNat n => (10 ^ n, 1)
  | .negSucc n => (1, 10 ^ (n + 1))

namespace Binary64

/-- The value nearest to `significand * 10 ^ exponent`. Numbers of more
than 310 digits before the point are beyond the range, and those with
more than 330 zeros behind it are nearer to zero than to any other
value, so neither is multiplied out. -/
def ofDecimal (negative : Bool) (significand : Nat) (exponent : Int) : Binary64 :=
  let magnitude := (Nat.toDigits 10 significand).length + exponent
  if significand = 0 ∨ magnitude < -330 then zero negative
  else if 310 < magnitude then infinite negative
  else
    let (up, down) := tenPower exponent
    ofMagnitude negative (significand * up * one) down

/-- The value nearest to the decimal rounding to the given number of
places, a negative number of places meaning tens, hundreds and so on;
none when it lies beyond the range. Past 324 places every value stands
already, and past 309 digits before the point all round to zero. -/
def roundTo? (places : Int) : Binary64 → Option Binary64
  | finite negative units _ =>
    let (up, down) := tenPower (max (-309) (min places 324))
    (ofMagnitude negative (nearest (units * up) (one * down) * down * one) up).finite?
  | x => some x

/-- Decimal digits, with zeros in front up to a given width. -/
def paddedDigits (width n : Nat) : List Char :=
  let digits := Nat.toDigits 10 n
  List.replicate (width - digits.length) '0' ++ digits

/-- The value written with a fixed number of decimal places, a half
going to the even neighbour. Negative zero keeps its sign. -/
def fixed (places : Nat) : Binary64 → String
  | finite negative units _ =>
    let scaled := nearest (units * 10 ^ places) one
    let sign := if negative then "-" else ""
    let whole := String.ofList (Nat.toDigits 10 (scaled / 10 ^ places))
    let fraction := String.ofList (paddedDigits places (scaled % 10 ^ places))
    sign ++ whole ++ if places = 0 then "" else "." ++ fraction
  | infinite negative => if negative then "-inf" else "inf"
  | nan => "nan"

end Binary64
end CausalTrace
