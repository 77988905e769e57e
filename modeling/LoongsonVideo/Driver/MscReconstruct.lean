import LoongsonVideo.Driver.Msc
import Mathlib.Algebra.Ring.Int.Defs
import Mathlib.Algebra.Ring.Nat

/-!
# Reconstruction of vblank counts

`ms_kernel_msc_to_crtc_msc` is fed one sample after the other, each with all 64
bits of a count or with the low 32 only, and the two tracking fields are all it
remembers.

`Tracks t T` says that the fields hold the count `T`.  A full sample makes them
hold it whatever they held before (`tracks_wide`).  A short one does so when they
hold a count at most `2 ^ 30` away on either side (`tracks_short`): the low halves
of two such counts are then either that near or nearly `2 ^ 32` apart, and the
two comparisons tell which.
-/

namespace LoongsonVideo.Driver.MscReconstruct

open LoongsonVideo.Driver.Msc

/-- What the kernel reports of a count. -/
def kernelSequence (count : UInt64) (is64bit : Bool) : UInt64 :=
  if is64bit then count else count.toUInt32.toUInt64

/-- The tracking fields before the `i`-th call. -/
def trackAt (counts : Nat → UInt64) (is64bit : Nat → Bool) : Nat → MscTrack
  | 0 => MscTrack.zero
  | i + 1 =>
      (msKernelMscToCrtcMsc (trackAt counts is64bit i)
        (kernelSequence (counts i) (is64bit i)) (is64bit i)).2

/-- What the `i`-th call returns. -/
def crtcMscAt (counts : Nat → UInt64) (is64bit : Nat → Bool) (i : Nat) : UInt64 :=
  (msKernelMscToCrtcMsc (trackAt counts is64bit i)
    (kernelSequence (counts i) (is64bit i)) (is64bit i)).1

/-- Two counts are at most `2 ^ 30` apart. -/
def Near (a b : UInt64) : Prop := ((b.toNat : Int) - a.toNat).natAbs ≤ 2 ^ 30

/-- The fields hold a count: its high half and its low half. -/
def Tracks (t : MscTrack) (count : UInt64) : Prop :=
  2 ^ 32 ∣ t.mscHigh.toNat ∧ t.mscHigh.toNat + t.mscPrev.toNat = count.toNat

/-- The cast to `int64_t` keeps a 32-bit value. -/
theorem asInt64_toUInt64 (x : UInt32) : asInt64 x.toUInt64 = x.toNat := by
  have hlt := x.toNat_lt
  have hbv : x.toUInt64.toBitVec.toNat = x.toNat := by
    show x.toUInt64.toNat = x.toNat
    exact UInt32.toNat_toUInt64 x
  rw [asInt64, BitVec.toInt_eq_toNat_of_lt]
  · rw [hbv]
  · rw [hbv]
    omega

/-- Clearing the low half. -/
theorem highHalf_toNat (x : UInt64) :
    (x &&& 0xffffffff00000000).toNat = x.toNat / 2 ^ 32 * 2 ^ 32 := by
  have hmask : (0xffffffff00000000 : UInt64).toNat = (2 ^ 32 - 1) * 2 ^ 32 := by decide
  rw [UInt64.toNat_and, hmask]
  apply Nat.eq_of_testBit_eq
  intro i
  rw [Nat.testBit_and, Nat.testBit_mul_two_pow, Nat.testBit_mul_two_pow,
    Nat.testBit_two_pow_sub_one, Nat.testBit_div_two_pow]
  by_cases hlow : 32 ≤ i
  · rw [Nat.sub_add_cancel hlow]
    by_cases htop : i < 64
    · have hi : i - 32 < 32 := by omega
      simp [hlow, hi]
    · have hbit : x.toNat.testBit i = false :=
        Nat.testBit_lt_two_pow (Nat.lt_of_lt_of_le x.toNat_lt
          (Nat.pow_le_pow_right (by decide) (Nat.le_of_not_lt htop)))
      simp [hbit]
  · simp [hlow]

/-- A full sample is passed through, and the fields hold it. -/
theorem tracks_wide (t : MscTrack) (count : UInt64) :
    (msKernelMscToCrtcMsc t (kernelSequence count true) true).1 = count ∧
      Tracks (msKernelMscToCrtcMsc t (kernelSequence count true) true).2 count := by
  refine ⟨rfl, ?_⟩
  show 2 ^ 32 ∣ (count &&& 0xffffffff00000000).toNat ∧
    (count &&& 0xffffffff00000000).toNat + count.toUInt32.toNat = count.toNat
  rw [highHalf_toNat, UInt64.toNat_toUInt32]
  exact ⟨Nat.dvd_mul_left _ _, Nat.div_add_mod' _ _⟩

/-- **A short sample is completed.** The fields hold a count near the sampled one. -/
theorem tracks_short {t : MscTrack} {last count : UInt64} (ht : Tracks t last)
    (hnear : Near last count) :
    (msKernelMscToCrtcMsc t (kernelSequence count false) false).1 = count ∧
      Tracks (msKernelMscToCrtcMsc t (kernelSequence count false) false).2 count := by
  obtain ⟨⟨high, hhigh⟩, hsum⟩ := ht
  have hprev := t.mscPrev.toNat_lt
  have hlow := count.toUInt32.toNat_lt
  have hlowEq : count.toUInt32.toNat = count.toNat % 2 ^ 32 := UInt64.toNat_toUInt32 count
  have hlast := last.toNat_lt
  have hcount := count.toNat_lt
  have hwin : ((count.toNat : Int) - last.toNat).natAbs ≤ 2 ^ 30 := hnear
  -- the high half after both comparisons is that of the sampled count
  have hstep : (msKernelMscToCrtcMsc t (kernelSequence count false) false).2.mscHigh.toNat =
      count.toNat / 2 ^ 32 * 2 ^ 32 := by
    show (if asInt64 count.toUInt32.toUInt64 > (t.mscPrev.toNat : Int) + 0x40000000 then
        (if asInt64 count.toUInt32.toUInt64 < (t.mscPrev.toNat : Int) - 0x40000000 then
          t.mscHigh + 0x100000000 else t.mscHigh) - 0x100000000
        else if asInt64 count.toUInt32.toUInt64 < (t.mscPrev.toNat : Int) - 0x40000000 then
          t.mscHigh + 0x100000000 else t.mscHigh).toNat = _
    rw [asInt64_toUInt64]
    split
    · rw [if_neg (by omega), UInt64.toNat_sub_of_le]
      · show t.mscHigh.toNat - 4294967296 = _
        omega
      · show (4294967296 : Nat) ≤ t.mscHigh.toNat
        omega
    · split
      · rw [UInt64.toNat_add]
        show (t.mscHigh.toNat + 4294967296) % 2 ^ 64 = _
        omega
      · omega
  have hreturn : (msKernelMscToCrtcMsc t (kernelSequence count false) false).1 =
      (msKernelMscToCrtcMsc t (kernelSequence count false) false).2.mscHigh +
        count.toUInt32.toUInt64 := rfl
  have hprev' : (msKernelMscToCrtcMsc t (kernelSequence count false) false).2.mscPrev.toNat =
      count.toNat % 2 ^ 32 := by
    show count.toUInt32.toUInt64.toUInt32.toNat = _
    rw [UInt64.toNat_toUInt32, UInt32.toNat_toUInt64]
    omega
  refine ⟨?_, ?_, ?_⟩
  · rw [hreturn]
    apply UInt64.toNat_inj.mp
    rw [UInt64.toNat_add, hstep, UInt32.toNat_toUInt64]
    omega
  · rw [hstep]
    exact Nat.dvd_mul_left _ _
  · rw [hstep, hprev']
    exact Nat.div_add_mod' _ _

theorem tracks_zero : Tracks MscTrack.zero 0 := ⟨Nat.dvd_zero _, rfl⟩

/-- The fields hold the last count, whichever kind of sample it came by. -/
theorem tracks_sample {t : MscTrack} {last count : UInt64} (ht : Tracks t last) (wide : Bool)
    (hnear : wide = true ∨ Near last count) :
    (msKernelMscToCrtcMsc t (kernelSequence count wide) wide).1 = count ∧
      Tracks (msKernelMscToCrtcMsc t (kernelSequence count wide) wide).2 count := by
  cases wide with
  | true => exact tracks_wide t count
  | false =>
      apply tracks_short ht
      cases hnear with
      | inl hwide => cases hwide
      | inr hnear => exact hnear

/-- **Counts are reconstructed exactly.** A sequence of counts each at most `2 ^ 30`
away from the one before, the first given in full or at most `2 ^ 30`: every call
returns its count, and the fields hold it afterwards. -/
theorem msc_reconstruction_exact (counts : Nat → UInt64) (is64bit : Nat → Bool)
    (hnear : ∀ i, Near (counts i) (counts (i + 1)))
    (hfirst : is64bit 0 = true ∨ (counts 0).toNat ≤ 2 ^ 30) (i : Nat) :
    crtcMscAt counts is64bit i = counts i ∧
      2 ^ 32 ∣ (trackAt counts is64bit (i + 1)).mscHigh.toNat ∧
      (trackAt counts is64bit (i + 1)).mscHigh.toNat +
        (trackAt counts is64bit (i + 1)).mscPrev.toNat = (counts i).toNat := by
  show crtcMscAt counts is64bit i = counts i ∧ Tracks (trackAt counts is64bit (i + 1)) (counts i)
  induction i with
  | zero =>
      apply tracks_sample tracks_zero
      cases hfirst with
      | inl hwide => exact Or.inl hwide
      | inr hsmall =>
          right
          show (((counts 0).toNat : Int) - 0).natAbs ≤ 2 ^ 30
          omega
  | succ i ih => exact tracks_sample ih.2 _ (Or.inr (hnear i))

/-- A count that steps over a multiple of `2 ^ 32` and back, seen by its low half
except for the first sample. -/
theorem msc_reconstruction_exact_wrap :
    crtcMscAt (fun i => if i % 2 = 0 then 0x1fffffffe else 0x200000003) (· == 0) 7 =
      0x200000003 :=
  (msc_reconstruction_exact (fun i => if i % 2 = 0 then 0x1fffffffe else 0x200000003) (· == 0)
    (fun i => by
      show (((if (i + 1) % 2 = 0 then (0x1fffffffe : UInt64) else 0x200000003).toNat : Int) -
        (if i % 2 = 0 then (0x1fffffffe : UInt64) else 0x200000003).toNat).natAbs ≤ 2 ^ 30
      by_cases hi : i % 2 = 0
      · rw [if_pos hi, if_neg (by omega)]
        decide
      · rw [if_neg hi, if_pos (by omega)]
        decide)
    (Or.inl rfl) 7).1

end LoongsonVideo.Driver.MscReconstruct
