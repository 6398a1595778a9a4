/-
Binary floating-point numbers of 64 bits, kept as exact whole numbers
of the smallest unit `2 ^ -1074`.

* `Binary64`: a finite magnitude in units with its sign, an infinity,
  or no number at all;
* `Binary64.ofMagnitude`: the one place where values are rounded, to
  the nearest, ties to even, beyond the range to infinity;
* `Binary64.lt`, `Binary64.le`: the order of the values, false as soon
  as one side is no number;
* `Binary64.quotient?`: the correctly rounded quotient of two integers;
* `Binary64.toBits`, `Binary64.ofBits`: the interchange format.
-/
import CausalTrace.Number.Rounding

namespace CausalTrace

-- Powers are those of the natural numbers, whichever others are known.
attribute [local instance (high)] instPowNat

/-- The first magnitude, in units, beyond the finite values: the number
`2 ^ 1024`. -/
def magnitudeLimit : Nat := 2 ^ (2098 : Nat)

/-- Magnitudes, in units, that a finite value can have: below the limit,
with at most 53 significant binary digits. -/
def Representable (units : Nat) : Prop :=
  units < magnitudeLimit ∧ 2 ^ (bitLength units - 53) ∣ units

/-- Zero is a magnitude. -/
theorem representable_zero : Representable 0 := by
  refine ⟨?_, Nat.dvd_zero _⟩
  unfold magnitudeLimit
  apply Nat.two_pow_pos

instance (units : Nat) : Decidable (Representable units) :=
  inferInstanceAs (Decidable (_ ∧ _))

/-- A floating-point value: a sign and a whole number of units
`2 ^ -1074`, an infinity, or no number. -/
inductive Binary64 where
  | finite (negative : Bool) (units : Nat) (representable : Representable units)
  | infinite (negative : Bool)
  | nan
deriving DecidableEq

namespace Binary64

/-- Units in the number one. -/
def one : Nat := 2 ^ (1074 : Nat)

/-- The value nearest to `num / den` units. -/
def ofMagnitude (negative : Bool) (num den : Nat) : Binary64 :=
  if h : roundSignificant num den < magnitudeLimit then
    finite negative (roundSignificant num den) ⟨h, pow_dvd_roundSignificant num den⟩
  else infinite negative

/-- Zero with a sign. -/
def zero (negative : Bool) : Binary64 :=
  finite negative 0 representable_zero

instance : Inhabited Binary64 := ⟨zero false⟩

/-- A value that is a number below infinity. -/
def isFinite : Binary64 → Bool
  | finite _ _ _ => true
  | _ => false

/-- The value if it is finite. -/
def finite? (x : Binary64) : Option Binary64 :=
  if x.isFinite then some x else none

/-- The value nearest to an integer, if it is not too large. -/
def ofInt? (n : Int) : Option Binary64 :=
  (ofMagnitude (decide (n < 0)) (n.natAbs * one) 1).finite?

/-- The value nearest to a natural number. -/
def ofNat (n : Nat) : Binary64 :=
  ofMagnitude false (n * one) 1

/-- The value nearest to the quotient of two integers, if it is not too
large. -/
def quotient? (num : Int) (den : Nat) : Option Binary64 :=
  (ofMagnitude (decide (num < 0)) (num.natAbs * one) den).finite?

/-! ### Order -/

/-- The place of a value on the number line, in units; the infinities
lie beyond every finite value and what is no number has no place. -/
def position? : Binary64 → Option Int
  | finite negative units _ => some (if negative then -(units : Int) else units)
  | infinite negative => some (if negative then -magnitudeLimit else magnitudeLimit)
  | nan => none

/-- Strictly below, as numbers. -/
def lt (x y : Binary64) : Bool :=
  match x.position?, y.position? with
  | some a, some b => decide (a < b)
  | _, _ => false

/-- Below or equal, as numbers. -/
def le (x y : Binary64) : Bool :=
  match x.position?, y.position? with
  | some a, some b => decide (a ≤ b)
  | _, _ => false

/-! ### Arithmetic -/

/-- The opposite value. -/
def neg : Binary64 → Binary64
  | finite negative units h => finite (!negative) units h
  | infinite negative => infinite (!negative)
  | nan => nan

/-- The rounded sum. A sum of zero is negative only if both terms
are. -/
def add : Binary64 → Binary64 → Binary64
  | finite p a _, finite q b _ =>
    let signed : Bool → Nat → Int := fun negative units => if negative then -units else units
    let sum := signed p a + signed q b
    if sum = 0 then zero (p && q) else ofMagnitude (decide (sum < 0)) sum.natAbs 1
  | finite _ _ _, infinite q => infinite q
  | infinite p, finite _ _ _ => infinite p
  | infinite p, infinite q => if p = q then infinite p else nan
  | nan, _ => nan
  | _, nan => nan

/-- The rounded difference. -/
def sub (x y : Binary64) : Binary64 :=
  add x (neg y)

/-- The rounded product. -/
def mul : Binary64 → Binary64 → Binary64
  | finite p a _, finite q b _ => ofMagnitude (p != q) (a * b) one
  | finite p a _, infinite q => if a = 0 then nan else infinite (p != q)
  | infinite p, finite q b _ => if b = 0 then nan else infinite (p != q)
  | infinite p, infinite q => infinite (p != q)
  | nan, _ => nan
  | _, nan => nan

/-- The rounded quotient. -/
def div : Binary64 → Binary64 → Binary64
  | finite p a _, finite q b _ =>
    if b = 0 then (if a = 0 then nan else infinite (p != q))
    else ofMagnitude (p != q) (a * one) b
  | finite p _ _, infinite q => zero (p != q)
  | infinite p, finite q _ _ => infinite (p != q)
  | infinite _, infinite _ => nan
  | nan, _ => nan
  | _, nan => nan

/-! ### Interchange format -/

/-- The bit of the sign. -/
def signBit : Nat := 2 ^ (63 : Nat)

/-- The lowest bit of the exponent, above all bits of the fraction. -/
def exponentBit : Nat := 2 ^ (52 : Nat)

/-- The fields of a finite magnitude, exponent above fraction. -/
def magnitudeBits (units : Nat) : Nat :=
  let shift := bitLength units - 53
  shift * exponentBit + units / 2 ^ shift

/-- The 64 bits of a value; what is no number has one form. -/
def toBits : Binary64 → Nat
  | finite negative units _ => (if negative then signBit else 0) + magnitudeBits units
  | infinite negative => (if negative then signBit else 0) + 2047 * exponentBit
  | nan => 2047 * exponentBit + exponentBit / 2

/-- The value of 64 bits. -/
def ofBits (bits : Nat) : Binary64 :=
  let negative := bits / signBit % 2 = 1
  let exponent := bits / exponentBit % 2048
  let fraction := bits % exponentBit
  if exponent = 2047 then (if fraction = 0 then infinite negative else nan)
  else if exponent = 0 then ofMagnitude negative fraction 1
  else ofMagnitude negative ((exponentBit + fraction) * 2 ^ (exponent - 1)) 1

end Binary64
end CausalTrace
