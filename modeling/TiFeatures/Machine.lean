/-
This file fixes the machine arithmetic of the plugin. Unsigned C integers are
natural numbers kept below their width by an explicit reduction; a `double` is
an element of a type with the operations the code applies to it, and nothing is
assumed about them, so a result stated for every such type holds for the
hardware's rounding as well as for exact arithmetic.
-/

import Mathlib.Algebra.Group.Int.Defs
import Mathlib.Algebra.GroupWithZero.Nat
import Mathlib.Data.Nat.Cast.Defs
import Mathlib.Data.Int.Notation

namespace TiFeatures

/-! ### Unsigned integers -/

/-- Reduction to `unsigned int`. -/
def u32 (value : Nat) : Nat := value % 2 ^ 32

/-- Reduction to `unsigned long` and `unsigned long long`. -/
def u64 (value : Nat) : Nat := value % 2 ^ 64

/-- Subtraction of `unsigned long long` values, modulo `2 ^ 64`. -/
def u64Sub (first second : Nat) : Nat := (first + 2 ^ 64 - second % 2 ^ 64) % 2 ^ 64

theorem u32_lt (value : Nat) : u32 value < 2 ^ 32 := Nat.mod_lt _ (by decide)

theorem u64_lt (value : Nat) : u64 value < 2 ^ 64 := Nat.mod_lt _ (by decide)

theorem u32_of_lt {value : Nat} (small : value < 2 ^ 32) : u32 value = value :=
  Nat.mod_eq_of_lt small

theorem u64_of_lt {value : Nat} (small : value < 2 ^ 64) : u64 value = value :=
  Nat.mod_eq_of_lt small

@[simp] theorem u32_u32 (value : Nat) : u32 (u32 value) = u32 value := Nat.mod_mod _ _

@[simp] theorem u64_u64 (value : Nat) : u64 (u64 value) = u64 value := Nat.mod_mod _ _

theorem u64Sub_lt (first second : Nat) : u64Sub first second < 2 ^ 64 :=
  Nat.mod_lt _ (by decide)

/-- A subtraction that does not borrow is the ordinary one. -/
theorem u64Sub_of_le {first second : Nat} (order : second ≤ first) (small : first < 2 ^ 64) :
    u64Sub first second = first - second := by
  unfold u64Sub
  omega

/-- The value of an `unsigned int` passed as an `int` parameter. -/
def toInt32 (value : Nat) : Int :=
  if value % 2 ^ 32 < 2 ^ 31 then (value % 2 ^ 32 : Nat)
  else (value % 2 ^ 32 : Nat) - (2 ^ 32 : Int)

/-! ### Floating point -/

/-- The `double` operations of the code and of the C mathematics library. -/
class Double (D : Type) extends Zero D, One D, Add D, Sub D, Mul D, Div D, Neg D, NatCast D,
    BEq D where
  /-- The comparison `<`. -/
  blt : D → D → Bool
  /-- `INFINITY`. -/
  infinity : D
  sqrt : D → D
  log : D → D
  log2 : D → D
  pow : D → D → D
  cos : D → D
  sin : D → D
  /-- Conversion to an integer type, toward zero. -/
  truncate : D → Int

namespace Double

variable {D : Type} [Double D]

/-- A literal from two on is a natural number that is cast. Unlike with the instance of Mathlib, no
proof of its size comes into the definitions that have one. -/
instance instOfNat {value : Nat} : OfNat D (value + 2) := ⟨((value + 2 : Nat) : D)⟩

/-- Conversion of a signed integer. -/
def ofInt (value : Int) : D :=
  if value < 0 then -((value.natAbs : Nat) : D) else ((value.natAbs : Nat) : D)

/-- Conversion of a truth value. -/
def ofBool (value : Bool) : D := if value then 1 else 0

def fabs (value : D) : D := if blt value 0 then -value else value

end Double

/-- The hardware's `double`. -/
instance : Double Float where
  zero := 0
  one := 1
  natCast := Float.ofNat
  blt first second := first < second
  infinity := 1 / 0
  sqrt := Float.sqrt
  log := Float.log
  log2 := Float.log2
  pow := Float.pow
  cos := Float.cos
  sin := Float.sin
  truncate value := value.toInt64.toInt

end TiFeatures
