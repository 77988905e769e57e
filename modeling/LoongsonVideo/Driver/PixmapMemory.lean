import LoongsonVideo.Driver.ExaPixmapLedger
import LoongsonVideo.Verified.Overflow

/-!
# The memory of a pixmap

`LS_AllocBuf` of `src/loongson_buffer.c` computes the pitch and the size of a `malloc` pixmap
in `int`, `size_t` and `unsigned int`.  `allocSizes` is that computation, operation by
operation; `lsAllocBuf` has its results.

* `allocSizes_eq`: the exact results, which no operation misses.
* `allocBuf_exact`: so the buffer holds every row, at every size that EXA asks for.
-/

namespace LoongsonVideo.Driver.PixmapMemory

open LoongsonVideo.Driver.ExaPixmap
open LoongsonVideo.Driver.ExaPixmapLedger (start)
open LoongsonVideo.Verified.Overflow

/-- `pitch & ~(15)`, as an `unsigned int`. -/
def clearLow (pitch : Nat) : Nat := pitch &&& 0xfffffff0

/-- The pitch and the size in `LS_AllocBuf`.  `FbBits` has 32 bits: `FB_MASK` is 31, `FB_SHIFT`
is 5 and `sizeof(FbBits)` a `size_t`, 4. -/
def allocSizes (width height bpp : Int) (reading : Reading) : Option (Nat × Nat) := do
  let bits ← int (width * bpp)
  let bits ← int (bits + 31)
  let words ← unsigned 64 (bits >>> (5 : Nat)) reading
  let bytes ← unsigned 64 (words * 4 : Nat) reading
  let pitch ← unsigned 32 bytes reading
  let pitch ← unsigned 32 (pitch + 15 : Nat) reading
  let height ← unsigned 32 height reading
  let size ← unsigned 32 (clearLow pitch * height : Nat) reading
  some (clearLow pitch, size)

/-- `ceil(width * bpp / 8)`: the bytes of a row that hold pixels. -/
def rowBytes (width bpp : Nat) : Nat := (width * bpp + 7) / 8

theorem clearLow_eq {pitch : Nat} (h : pitch < 2 ^ 32) : clearLow pitch = pitch / 16 * 16 := by
  have hmask : 0xfffffff0 = (2 ^ 28 - 1) <<< 4 := by decide
  have hround : pitch / 16 * 16 = (pitch >>> 4) <<< 4 := by
    rw [Nat.shiftRight_eq_div_pow, Nat.shiftLeft_eq]
  rw [clearLow, hmask, hround]
  apply Nat.eq_of_testBit_eq
  intro i
  rw [Nat.testBit_and, Nat.testBit_shiftLeft, Nat.testBit_shiftLeft, Nat.testBit_shiftRight,
    Nat.testBit_two_pow_sub_one]
  by_cases hi : 4 ≤ i
  · have hback : 4 + (i - 4) = i := by omega
    by_cases hhigh : i < 32
    · have h28 : i - 4 < 28 := by omega
      simp [hi, h28, hback]
    · have hzero : pitch.testBit i = false :=
        Nat.testBit_lt_two_pow (h.trans_le (Nat.pow_le_pow_right (by decide) (by omega)))
      simp [hi, hzero, hback]
  · simp [hi]

/-! ## The computation and the buffer -/

theorem bufPitch_toNat (width bpp : Int) :
    (bufPitch width bpp).toNat =
      clearLow ((((width * bpp + 31) >>> (5 : Nat) * 4) % 2 ^ 32 + 15) % 2 ^ 32).toNat := by
  have hword := toNat_ofInt ((width * bpp + 31) >>> (5 : Nat) * 4)
  rw [bufPitch, UInt32.toNat_and, UInt32.toNat_add, clearLow]
  congr 1
  show (_ + 15) % 2 ^ 32 = _
  omega

/-- The buffer has what `allocSizes` gives, where no `int` overflows. -/
theorem lsAllocBuf_sizes {width height bpp : Int} {pitch size : Nat}
    (h : allocSizes width height bpp .wraps = some (pitch, size)) (s : ExaState)
    (mallocOk : Bool) :
    (lsAllocBuf s width height bpp mallocOk).2.pitch.toNat = pitch ∧
      (lsAllocBuf s width height bpp mallocOk).2.size.toNat = size := by
  simp only [allocSizes, Option.bind_eq_bind, Option.bind_eq_some_iff] at h
  obtain ⟨bits, hproduct, sum, hsum, h⟩ := h
  obtain ⟨-, rfl⟩ := int_eq_some.mp hproduct
  obtain ⟨-, rfl⟩ := int_eq_some.mp hsum
  simp only [unsigned, Option.some.injEq, exists_eq_left', Prod.mk.injEq] at h
  obtain ⟨hpitch, hsize⟩ := h
  have hbuf : (bufPitch width bpp).toNat = pitch := by
    rw [bufPitch_toNat, ← hpitch]
    congr 2
    omega
  have hrows : (height % 2 ^ 32).toNat = (UInt32.ofInt height).toNat := by
    have hheight := toNat_ofInt height
    omega
  have hproduct : (bufPitch width bpp * UInt32.ofInt height).toNat = size := by
    rw [UInt32.toNat_mul, hbuf, ← hsize, hpitch, hrows]
    norm_cast
  cases mallocOk with
  | false => exact ⟨hbuf, hproduct⟩
  | true => exact ⟨hbuf, hproduct⟩

/-! ## At every size -/

/-- Whole words of 32 bits are the bytes of the pixels rounded up to 4. -/
theorem words_eq (bits : Nat) : (bits + 31) / 32 * 4 = roundUp 4 ((bits + 7) / 8) := by
  unfold roundUp
  omega

/-- **The exact results**, under either reading: none of the operations goes outside its type. -/
theorem allocSizes_eq {width height bpp : Nat} (hwidth : width ≤ 32767) (hheight : height ≤ 32767)
    (hbpp : bpp ≤ 32) (reading : Reading) :
    allocSizes width height bpp reading =
      some (roundUp 16 (rowBytes width bpp), roundUp 16 (rowBytes width bpp) * height) := by
  have hbits : width * bpp ≤ 32767 * 32 := Nat.mul_le_mul hwidth hbpp
  have hproduct : int ((width : Int) * bpp) = some ((width * bpp : Nat) : Int) := by
    rw [← Int.natCast_mul]
    exact int_eq (by omega) (by omega)
  have hsum : int (((width * bpp : Nat) : Int) + 31) = some (((width * bpp : Nat) : Int) + 31) :=
    int_eq (by omega) (by omega)
  have hshift : (((width * bpp : Nat) : Int) + 31) >>> (5 : Nat) =
      ((width * bpp + 31) / 32 : Nat) := by
    rw [Int.shiftRight_eq_div_pow]
    omega
  have hwords : unsigned 64 ((width * bpp + 31) / 32 : Nat) reading =
      some ((width * bpp + 31) / 32) := unsigned_eq (by omega) reading
  have hbytes : unsigned 64 ((width * bpp + 31) / 32 * 4 : Nat) reading =
      some ((width * bpp + 31) / 32 * 4) := unsigned_eq (by omega) reading
  have hstore : unsigned 32 ((width * bpp + 31) / 32 * 4 : Nat) reading =
      some ((width * bpp + 31) / 32 * 4) := unsigned_eq (by omega) reading
  have hadd : unsigned 32 ((width * bpp + 31) / 32 * 4 + 15 : Nat) reading =
      some ((width * bpp + 31) / 32 * 4 + 15) := unsigned_eq (by omega) reading
  have hmask := clearLow_eq (show (width * bpp + 31) / 32 * 4 + 15 < 2 ^ 32 by omega)
  have hpitch : ((width * bpp + 31) / 32 * 4 + 15) / 16 * 16 = roundUp 16 (rowBytes width bpp) := by
    rw [rowBytes, ← roundUp_roundUp (by decide) (by decide) (by decide : 4 ∣ 16), ← words_eq,
      roundUp]
  have hrows : unsigned 32 height reading = some height := unsigned_eq (by omega) reading
  -- The largest pitch is 131072 bytes: the product stays that much below 2^32.
  have hlargest : roundUp 16 (rowBytes width bpp) ≤ 131072 := by
    rw [← hpitch]
    omega
  have hsize : roundUp 16 (rowBytes width bpp) * height ≤ 131072 * 32767 :=
    Nat.mul_le_mul hlargest hheight
  have hmul : unsigned 32 (roundUp 16 (rowBytes width bpp) * height : Nat) reading =
      some (roundUp 16 (rowBytes width bpp) * height) := unsigned_eq (by omega) reading
  simp only [allocSizes, Option.bind_eq_bind]
  rw [hproduct, Option.bind_some, hsum, Option.bind_some, hshift, hwords, Option.bind_some, hbytes,
    Option.bind_some, hstore, Option.bind_some, hadd, Option.bind_some, hrows, Option.bind_some,
    hmask, hpitch, hmul, Option.bind_some]

/-- The rows of the image, `pitch` apart, end inside the buffer. -/
theorem rows_end {height pitch row : Nat} (hheight : 0 < height) (hrow : row ≤ pitch) :
    (height - 1) * pitch + row ≤ pitch * height := by
  obtain ⟨last, rfl⟩ : ∃ last, height = last + 1 := ⟨height - 1, by omega⟩
  rw [Nat.add_sub_cancel, Nat.mul_add, Nat.mul_one, Nat.mul_comm last]
  omega

/-- **The memory of a pixmap is large enough.** At every size that EXA asks for, no operation
of `LS_AllocBuf` overflows or wraps, the pitch is the least multiple of 16 that holds a row, and
the size is exactly that of all the rows. -/
theorem allocBuf_exact {width height bpp : Nat} (hwidth : 1 ≤ width ∧ width ≤ 32767)
    (hheight : 1 ≤ height ∧ height ≤ 32767) (hbpp : 1 ≤ bpp ∧ bpp ≤ 32) (s : ExaState)
    (mallocOk : Bool) :
    let buf := (lsAllocBuf s width height bpp mallocOk).2
    allocSizes width height bpp .fails = some (buf.pitch.toNat, buf.size.toNat) ∧
      IsLeast {pitch | 16 ∣ pitch ∧ rowBytes width bpp ≤ pitch} buf.pitch.toNat ∧
      buf.size.toNat = buf.pitch.toNat * height ∧
      (height - 1) * buf.pitch.toNat + rowBytes width bpp ≤ buf.size.toNat := by
  have hexact := allocSizes_eq hwidth.2 hheight.2 hbpp.2
  obtain ⟨hpitch, hsize⟩ := lsAllocBuf_sizes (hexact .wraps) s mallocOk
  intro buf
  rw [hpitch, hsize]
  refine ⟨hexact .fails, roundUp_isLeast (by decide) _, rfl, ?_⟩
  exact rows_end hheight.1 (le_roundUp (by decide) _)

/-- The largest pixmap ends 128 KiB below `2^32`. -/
theorem allocBuf_exact_largest :
    allocSizes 32767 32767 32 .fails = some (131072, 4294836224) ∧
      let buf := (lsAllocBuf (start true 3) (32767 : Nat) (32767 : Nat) (32 : Nat) true).2
      allocSizes (32767 : Nat) (32767 : Nat) (32 : Nat) .fails =
          some (buf.pitch.toNat, buf.size.toNat) ∧
        IsLeast {pitch | 16 ∣ pitch ∧ rowBytes 32767 32 ≤ pitch} buf.pitch.toNat ∧
        buf.size.toNat = buf.pitch.toNat * 32767 ∧
        (32767 - 1) * buf.pitch.toNat + rowBytes 32767 32 ≤ buf.size.toNat :=
  ⟨by decide, allocBuf_exact (by decide) (by decide) (by decide) (start true 3) true⟩

/-- What `LS_CreateExaPixmap` stores is the buffer of `LS_AllocBuf` and its pitch. -/
theorem lsCreateExaPixmap_buf {s t : ExaState} {c : CreateCall} {p : Nat} {fbPitch : Option Int}
    (hsize : c.hasSize = true) (h : lsCreateExaPixmap s c = (t, some (p, fbPitch))) :
    (t.privs p).buf =
        (lsAllocBuf (newPriv s c.usageHint) c.width c.height c.bitsPerPixel true).2 ∧
      fbPitch = some ((t.privs p).buf.pitch.toNat : Int) := by
  cases hcalloc : c.callocOk with
  | false => simp [lsCreateExaPixmap, hcalloc] at h
  | true =>
      cases hmalloc : c.mallocOk with
      | false => simp [lsCreateExaPixmap, hcalloc, hsize, lsAllocBuf, hmalloc] at h
      | true =>
          simp only [lsCreateExaPixmap, hcalloc, hsize, lsAllocBuf, hmalloc, Bool.not_true,
            Bool.false_eq_true, if_false, if_true, Prod.mk.injEq, Option.some.injEq] at h
          obtain ⟨rfl, rfl, rfl⟩ := h
          simp [ExaState.setPriv, newPriv, lsAllocBuf]

/-- **What EXA gets**: the pitch of the buffer, and room for each byte of each row. -/
theorem lsCreateExaPixmap_room {s t : ExaState} {c : CreateCall} {p width height bpp : Nat}
    {fbPitch : Option Int} (hw : c.width = width) (hh : c.height = height)
    (hb : c.bitsPerPixel = bpp) (hwidth : 1 ≤ width ∧ width ≤ 32767)
    (hheight : 1 ≤ height ∧ height ≤ 32767) (hbpp : 1 ≤ bpp ∧ bpp ≤ 32) (hdepth : 0 < c.depth)
    (h : lsCreateExaPixmap s c = (t, some (p, fbPitch))) :
    fbPitch = some ((t.privs p).buf.pitch.toNat : Int) ∧
      ∀ row byte, row < height → byte < rowBytes width bpp →
        row * (t.privs p).buf.pitch.toNat + byte < (t.privs p).buf.size.toNat := by
  have hsize : c.hasSize = true := by
    simp only [CreateCall.hasSize, hw, hh, hb, Bool.and_eq_true, decide_eq_true_eq]
    omega
  obtain ⟨hbuf, hfb⟩ := lsCreateExaPixmap_buf hsize h
  obtain ⟨hpitch, hbytes⟩ := lsAllocBuf_sizes
    (allocSizes_eq hwidth.2 hheight.2 hbpp.2 .wraps) (newPriv s c.usageHint) true
  rw [hw, hh, hb] at hbuf
  refine ⟨hfb, fun row byte hrow hbyte => ?_⟩
  rw [hbuf, hpitch, hbytes]
  have hend := rows_end hheight.1 (le_roundUp (by decide : 0 < 16) (rowBytes width bpp))
  have hup := Nat.mul_le_mul_right (roundUp 16 (rowBytes width bpp)) (Nat.le_sub_one_of_lt hrow)
  omega

end LoongsonVideo.Driver.PixmapMemory
