import Mathlib.Algebra.Ring.Nat
import Mathlib.Data.Nat.Basic

/-!
# Blocks of bytes with checked access

A block of memory has a size, and its operations give `none` when they would read or
write outside.  A program that yields `some` has stayed inside all its blocks.

* `memcmpEq` is `memcmp(..) == 0` on a range of each of two blocks.
* `memcpy` copies a range of one block over a range of another.
* `leBytes` and `leValue` are the little-endian form of a number and what it stands for.
* `leRecord` puts numbers of given widths one after the other, `leRead` reads them back.
* `cString` is the string at the start of a buffer, `strncpy` what copying one gives.
-/

namespace LoongsonVideo.Verified

/-- A block of memory. -/
structure Bytes where
  size : Nat
  get : Nat → UInt8

/-- `memcmp(a + i, b + j, len) == 0`. -/
def memcmpEq (a : Bytes) (i : Nat) (b : Bytes) (j len : Nat) : Option Bool :=
  if i + len ≤ a.size ∧ j + len ≤ b.size then
    some (decide (∀ k < len, a.get (i + k) = b.get (j + k)))
  else none

/-- `memcpy(dst + i, src + j, len)`. -/
def memcpy (dst : Bytes) (i : Nat) (src : Bytes) (j len : Nat) : Option Bytes :=
  if i + len ≤ dst.size ∧ j + len ≤ src.size then
    some { dst with
      get := fun k => if i ≤ k ∧ k < i + len then src.get (j + (k - i)) else dst.get k }
  else none

variable {a b : Bytes} {i len : Nat}

/-- Comparing the same range of two blocks. -/
theorem memcmpEq_same (ha : i + len ≤ a.size) (hb : i + len ≤ b.size) :
    memcmpEq a i b i len =
      some (decide (∀ k, i ≤ k → k < i + len → a.get k = b.get k)) := by
  rw [memcmpEq, if_pos ⟨ha, hb⟩]
  refine congrArg some (decide_eq_decide.mpr ⟨fun h k hle hlt => ?_, fun h k hk => ?_⟩)
  · have hk := h (k - i) (by omega)
    rwa [Nat.add_sub_cancel' hle] at hk
  · exact h (i + k) (Nat.le_add_right i k) (by omega)

/-- Copying a range over the same range of another block. -/
theorem memcpy_same (ha : i + len ≤ a.size) (hb : i + len ≤ b.size) :
    memcpy a i b i len =
      some ⟨a.size, fun k => if i ≤ k ∧ k < i + len then b.get k else a.get k⟩ := by
  rw [memcpy, if_pos ⟨ha, hb⟩]
  refine congrArg some (congrArg (Bytes.mk a.size) (funext fun k => ?_))
  by_cases hk : i ≤ k ∧ k < i + len
  · rw [if_pos hk, if_pos hk, Nat.add_sub_cancel' hk.1]
  · rw [if_neg hk, if_neg hk]

/-! ## Little-endian numbers -/

/-- The lowest `k` bytes of a number, the lowest first. -/
def leBytes : Nat → Nat → List UInt8
  | 0, _ => []
  | k + 1, n => UInt8.ofNat n :: leBytes k (n / 256)

/-- The number that bytes stand for. -/
def leValue : List UInt8 → Nat
  | [] => 0
  | b :: bs => b.toNat + 256 * leValue bs

@[simp] theorem length_leBytes (k n : Nat) : (leBytes k n).length = k := by
  induction k generalizing n with
  | zero => rfl
  | succ k ih => rw [leBytes, List.length_cons, ih]

theorem leValue_leBytes (k n : Nat) : leValue (leBytes k n) = n % 256 ^ k := by
  induction k generalizing n with
  | zero => rw [Nat.pow_zero, Nat.mod_one]; rfl
  | succ k ih =>
      have hlow : (UInt8.ofNat n).toNat = n % 256 := UInt8.toNat_ofNat'
      rw [leBytes, leValue, ih, hlow, Nat.pow_succ', Nat.mod_mul]

theorem leValue_append (bs cs : List UInt8) :
    leValue (bs ++ cs) = leValue bs + 256 ^ bs.length * leValue cs := by
  induction bs with
  | nil => simp [leValue]
  | cons b bs ih =>
      rw [List.cons_append, leValue, leValue, ih, List.length_cons, Nat.pow_succ', Nat.mul_add,
        Nat.mul_assoc, Nat.add_assoc]

/-! ## Records -/

/-- Numbers with their widths in bytes, one after the other. -/
def leRecord (fields : List (Nat × Nat)) : List UInt8 :=
  fields.flatMap fun field => leBytes field.1 field.2

/-- The numbers of the given widths, and what comes after them. -/
def leRead : List Nat → List UInt8 → List Nat × List UInt8
  | [], bs => ([], bs)
  | width :: widths, bs =>
      (leValue (bs.take width) :: (leRead widths (bs.drop width)).1,
        (leRead widths (bs.drop width)).2)

theorem leRead_leRecord (fields : List (Nat × Nat)) (rest : List UInt8) :
    leRead (fields.map Prod.fst) (leRecord fields ++ rest) =
      (fields.map fun field => field.2 % 256 ^ field.1, rest) := by
  induction fields with
  | nil => rfl
  | cons field fields ih =>
      have hsplit : leRecord (field :: fields) ++ rest =
          leBytes field.1 field.2 ++ (leRecord fields ++ rest) := by
        rw [leRecord, List.flatMap_cons, List.append_assoc]
        rfl
      have htake : (leBytes field.1 field.2 ++ (leRecord fields ++ rest)).take field.1 =
          leBytes field.1 field.2 := List.take_left' (length_leBytes _ _)
      have hdrop : (leBytes field.1 field.2 ++ (leRecord fields ++ rest)).drop field.1 =
          leRecord fields ++ rest := List.drop_left' (length_leBytes _ _)
      rw [List.map_cons, leRead, hsplit, htake, hdrop, ih, leValue_leBytes, List.map_cons]

/-- Records of the same layout are equal only if their numbers are, and what follows them. -/
theorem leRecord_append_inj {fields fields' : List (Nat × Nat)} {rest rest' : List UInt8}
    (hlayout : fields.map Prod.fst = fields'.map Prod.fst)
    (heq : leRecord fields ++ rest = leRecord fields' ++ rest') :
    (fields.map fun field => field.2 % 256 ^ field.1) =
        (fields'.map fun field => field.2 % 256 ^ field.1) ∧ rest = rest' := by
  have hread := leRead_leRecord fields rest
  rw [hlayout, heq, leRead_leRecord] at hread
  exact ⟨(congrArg Prod.fst hread).symm, (congrArg Prod.snd hread).symm⟩

/-! ## Strings -/

/-- The string that starts a buffer. -/
def cString (bs : List UInt8) : List UInt8 := bs.takeWhile (· ≠ 0)

/-- The `n` bytes that `strncpy` writes for a string. -/
def strncpy (n : Nat) (s : List UInt8) : List UInt8 := s.take n ++ List.replicate (n - s.length) 0

@[simp] theorem length_strncpy (n : Nat) (s : List UInt8) : (strncpy n s).length = n := by
  rw [strncpy, List.length_append, List.length_take, List.length_replicate]
  omega

theorem take_strncpy {m n : Nat} (hmn : m ≤ n) (s : List UInt8) :
    (strncpy n s).take m = strncpy m s := by
  rw [strncpy, strncpy, List.take_append, List.take_take, List.take_replicate, List.length_take]
  have hmin : min m n = m := Nat.min_eq_left hmn
  have hrest : min (m - min n s.length) (n - s.length) = m - s.length := by omega
  rw [hmin, hrest]

theorem zero_notMem_cString (bs : List UInt8) : 0 ∉ cString bs := by
  intro hmem
  have hall : (bs.takeWhile (· ≠ 0)).all (· ≠ 0) = true := List.all_takeWhile
  have hne := List.all_eq_true.mp hall 0 hmem
  simp at hne

/-- A buffer that a short string was copied to has the string. -/
theorem cString_append_zeros {s : List UInt8} (hs : 0 ∉ s) (k : Nat) :
    cString (s ++ List.replicate k 0) = s := by
  have hall : ∀ b ∈ s, (decide (b ≠ 0)) = true := fun b hb =>
    decide_eq_true fun hzero => hs (hzero ▸ hb)
  have hzeros : (List.replicate k (0 : UInt8)).takeWhile (fun b => decide (b ≠ 0)) = [] := by
    cases k with
    | zero => rfl
    | succ k => rfl
  rw [cString, List.takeWhile_append_of_pos hall, hzeros, List.append_nil]

end LoongsonVideo.Verified
