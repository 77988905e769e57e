/-!
# Vertical-blank counts

The kernel reports a vblank count either as a full 64-bit number or as its low
32 bits.  `ms_kernel_msc_to_crtc_msc` in `src/vblank.c` turns both into one
64-bit count per CRTC, and remembers the last sample in the CRTC's private
record to recognise a wrap of the short form.
-/

namespace LoongsonVideo.Driver.Msc

/-- The two tracking fields of `drmmode_crtc_private_rec`. -/
structure MscTrack where
  mscPrev : UInt32
  mscHigh : UInt64
  deriving DecidableEq, Repr

/-- A zeroed CRTC record. -/
def MscTrack.zero : MscTrack := ⟨0, 0⟩

/-- The cast `(int64_t) x` of an unsigned 64-bit value. -/
def asInt64 (x : UInt64) : Int := x.toBitVec.toInt

/-- `ms_kernel_msc_to_crtc_msc`: the 64-bit count of a kernel sample, and the
tracking fields after it. -/
def msKernelMscToCrtcMsc (t : MscTrack) (sequence : UInt64) (is64bit : Bool) :
    UInt64 × MscTrack :=
  if is64bit then
    (sequence, ⟨sequence.toUInt32, sequence &&& 0xffffffff00000000⟩)
  else
    let high :=
      if asInt64 sequence < (t.mscPrev.toNat : Int) - 0x40000000 then
        t.mscHigh + 0x100000000
      else t.mscHigh
    let high :=
      if asInt64 sequence > (t.mscPrev.toNat : Int) + 0x40000000 then
        high - 0x100000000
      else high
    (high + sequence, ⟨sequence.toUInt32, high⟩)

end LoongsonVideo.Driver.Msc
