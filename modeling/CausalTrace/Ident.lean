/-
Identifiers of traces and spans: byte strings of a fixed size.

* `Ident`: the bytes with their size;
* `Ident.ofBytes?`: an identifier only of bytes of the right size;
* `Ident.ofNat`: the bytes of a number, most significant first.
-/
import CausalTrace.Text.Hex

namespace CausalTrace

/-- An identifier of `size` bytes. -/
structure Ident (size : Nat) where
  bytes : List UInt8
  length_eq : bytes.length = size
deriving DecidableEq

/-- The identifier of a trace. -/
abbrev TraceId := Ident 16

/-- The identifier of a span. -/
abbrev SpanId := Ident 8

namespace Ident

instance (size : Nat) : Hashable (Ident size) := ⟨fun id => hash id.bytes⟩

/-- The identifier with the given bytes. -/
def ofBytes? (size : Nat) (bytes : List UInt8) : Option (Ident size) :=
  if h : bytes.length = size then some ⟨bytes, h⟩ else none

/-- There is an identifier exactly for bytes of the right size. -/
theorem ofBytes?_eq_some_iff {size : Nat} {bytes : List UInt8} {id : Ident size} :
    ofBytes? size bytes = some id ↔ bytes = id.bytes := by
  unfold ofBytes?
  split
  · cases id
    simp
  · rename_i h
    simp only [reduceCtorEq, false_iff]
    rintro rfl
    exact h id.length_eq

/-- Identifiers are told apart by their bytes. -/
theorem bytes_inj {size : Nat} {a b : Ident size} : a.bytes = b.bytes ↔ a = b := by
  cases a
  cases b
  rw [Ident.mk.injEq]

/-- The identifier in hexadecimal. -/
def hex {size : Nat} (id : Ident size) : String :=
  hexText id.bytes

-- Powers are those of the natural numbers, whichever others are known.
attribute [local instance (high)] instPowNat

/-- The bytes of a number, most significant first. -/
def bytesOfNat (size n : Nat) : List UInt8 :=
  ((List.range size).map fun i => UInt8.ofNat (n / 256 ^ i)).reverse

/-- The identifier whose bytes write a number, most significant first. -/
def ofNat (size n : Nat) : Ident size :=
  ⟨bytesOfNat size n, by simp [bytesOfNat]⟩

end Ident

/-- Whether all bytes are zero. -/
def allZero (bytes : List UInt8) : Bool :=
  bytes.all (· == 0)

end CausalTrace
