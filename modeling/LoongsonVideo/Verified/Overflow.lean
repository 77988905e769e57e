import Mathlib.Algebra.Order.Group.Nat
import Mathlib.Algebra.Ring.Int.Defs
import Mathlib.Order.Bounds.Basic

/-!
# Overflow

A computation in C has a result for each operation, on `int` or on an unsigned type, where
unbounded arithmetic has another.  A computation is here written once, with its operations in
unbounded integers and each result handed to the type it has in C.

* `int`: overflow of an `int` is undefined.
* `Reading`: a result outside an unsigned type wraps, as in C, or the computation fails.

A computation that succeeds under the second reading is the one that C does, and none of its
operations overflows or wraps: where a number fits both readings keep it, `unsigned_eq`.

`roundUp` is the least multiple from a number on, and rounding up twice is rounding up once.

Nothing here mentions the driver.
-/

namespace LoongsonVideo.Verified.Overflow

/-- The result of an operation on `int`. -/
def int (x : Int) : Option Int := if -2 ^ 31 ≤ x ∧ x < 2 ^ 31 then some x else none

/-- What becomes of a result outside an unsigned type. -/
inductive Reading where
  | wraps
  | fails
  deriving DecidableEq, Repr

/-- The result of an operation on an unsigned type of `width` bits. -/
def unsigned (width : Nat) (x : Int) : Reading → Option Nat
  | .wraps => some (x % 2 ^ width).toNat
  | .fails => if 0 ≤ x ∧ x < 2 ^ width then some x.toNat else none

theorem int_eq_some {x y : Int} : int x = some y ↔ (-2 ^ 31 ≤ x ∧ x < 2 ^ 31) ∧ y = x := by
  unfold int
  split
  · next h => exact ⟨fun hx => ⟨h, (Option.some.inj hx).symm⟩, fun hx => congrArg some hx.2.symm⟩
  · next h => exact ⟨fun hx => (Option.some_ne_none _ hx.symm).elim, fun hx => absurd hx.1 h⟩

theorem int_eq {x : Int} (hlow : -2 ^ 31 ≤ x) (hhigh : x < 2 ^ 31) : int x = some x :=
  int_eq_some.mpr ⟨⟨hlow, hhigh⟩, rfl⟩

/-- A natural number that fits is kept under either reading. -/
theorem unsigned_eq {width : Nat} {n : Nat} (h : n < 2 ^ width) (reading : Reading) :
    unsigned width n reading = some n := by
  have hlt : (n : Int) < 2 ^ width := by exact_mod_cast h
  cases reading with
  | wraps =>
      show some ((n : Int) % 2 ^ width).toNat = some n
      rw [Int.emod_eq_of_lt (Int.natCast_nonneg n) hlt, Int.toNat_natCast]
  | fails =>
      show (if 0 ≤ (n : Int) ∧ (n : Int) < 2 ^ width then some (n : Int).toNat else none) = some n
      rw [if_pos ⟨Int.natCast_nonneg n, hlt⟩, Int.toNat_natCast]

/-- A number taken into 32 bits. -/
theorem toNat_ofInt (x : Int) : ((UInt32.ofInt x).toNat : Int) = x % 2 ^ 32 := by
  rw [UInt32.ofInt, UInt32.toNat_ofNat']
  omega

/-! ## Rounding up -/

/-- `n` rounded up to a multiple of `a`. -/
def roundUp (a n : Nat) : Nat := (n + (a - 1)) / a * a

theorem dvd_roundUp (a n : Nat) : a ∣ roundUp a n := Nat.dvd_mul_left a _

theorem le_roundUp {a : Nat} (ha : 0 < a) (n : Nat) : n ≤ roundUp a n := by
  have hdiv := Nat.lt_div_mul_add (a := n + (a - 1)) ha
  unfold roundUp
  omega

theorem roundUp_le {a n m : Nat} (ha : 0 < a) (hm : a ∣ m) (hn : n ≤ m) : roundUp a n ≤ m := by
  obtain ⟨k, rfl⟩ := hm
  have hk : (n + (a - 1)) / a ≤ k := by
    refine Nat.lt_succ_iff.mp ((Nat.div_lt_iff_lt_mul ha).mpr ?_)
    have hsucc : (k + 1) * a = a * k + a := by rw [Nat.add_mul, Nat.one_mul, Nat.mul_comm]
    rw [Nat.succ_eq_add_one, hsucc]
    omega
  calc roundUp a n ≤ k * a := Nat.mul_le_mul_right a hk
    _ = a * k := Nat.mul_comm k a

/-- **Rounding up** gives the least multiple. -/
theorem roundUp_isLeast {a : Nat} (ha : 0 < a) (n : Nat) :
    IsLeast {m | a ∣ m ∧ n ≤ m} (roundUp a n) :=
  ⟨⟨dvd_roundUp a n, le_roundUp ha n⟩, fun _ hm => roundUp_le ha hm.1 hm.2⟩

/-- Rounding to a finer multiple first changes nothing. -/
theorem roundUp_roundUp {a b : Nat} (hb : 0 < b) (ha : 0 < a) (hab : a ∣ b) (n : Nat) :
    roundUp b (roundUp a n) = roundUp b n := by
  have hle : roundUp a n ≤ roundUp b n :=
    roundUp_le ha (Nat.dvd_trans hab (dvd_roundUp b n)) (le_roundUp hb n)
  refine Nat.le_antisymm (roundUp_le hb (dvd_roundUp b n) hle) ?_
  exact roundUp_le hb (dvd_roundUp b _) ((le_roundUp ha n).trans (le_roundUp hb _))

end LoongsonVideo.Verified.Overflow
