import LoongsonVideo.Driver.ModeBlob
import LoongsonVideo.Verified.Bytes
import Mathlib.Data.List.TakeDrop

/-!
# Kernel modes and display modes

`drmmode_ConvertFromKMode` and `drmmode_ConvertToKMode` of `src/drmmode_display.c`.  The modes of
a connector are offered to the server as display modes, and the one it sets goes back to the
kernel, as an argument of `drmModeSetCrtc` or as the bytes of a property blob.

* `kernel_mode_kept_iff`: what a kernel mode is after the way there and back.
* `display_mode_kept_iff`: which display modes the kernel gets as they are.
* `blob_reused_iff`: which kernel modes share a mode blob.
-/

namespace LoongsonVideo.Driver.KernelModes

open LoongsonVideo.Verified
open LoongsonVideo.Driver.ModeBlob (DrmModeModeInfo drmmodeCompareKModes
  drmmodeCompareKModes_eq_zero)

def DRM_DISPLAY_MODE_LEN : Nat := 32
def DRM_MODE_TYPE_PREFERRED : UInt32 := 0x08
def DRM_MODE_TYPE_DRIVER : UInt32 := 0x40
def M_T_PREFERRED : Int32 := 0x08
def M_T_DRIVER : Int32 := 0x40

/-- `char name[DRM_DISPLAY_MODE_LEN]`. -/
structure ModeName where
  bytes : List UInt8
  length : bytes.length = DRM_DISPLAY_MODE_LEN
  deriving DecidableEq

/-- `drmModeModeInfo`. -/
@[ext] structure KMode where
  clock : UInt32
  hdisplay : UInt16
  hsyncStart : UInt16
  hsyncEnd : UInt16
  htotal : UInt16
  hskew : UInt16
  vdisplay : UInt16
  vsyncStart : UInt16
  vsyncEnd : UInt16
  vtotal : UInt16
  vscan : UInt16
  vrefresh : UInt32
  flags : UInt32
  type : UInt32
  name : ModeName
  deriving DecidableEq

/-- `DisplayModeRec`, less the list links and what `xf86SetModeCrtc` works out from the rest. -/
@[ext] structure DisplayMode where
  status : Int32
  clock : Int32
  hDisplay : Int32
  hSyncStart : Int32
  hSyncEnd : Int32
  hTotal : Int32
  hSkew : Int32
  vDisplay : Int32
  vSyncStart : Int32
  vSyncEnd : Int32
  vTotal : Int32
  vScan : Int32
  flags : Int32
  name : Option (List UInt8)
  type : Int32
  deriving DecidableEq

/-! ## Conversion -/

/-- `int` from `uint16_t`. -/
def wide (x : UInt16) : Int32 := x.toUInt32.toInt32

/-- `uint16_t` from `int`. -/
def narrow (x : Int32) : UInt16 := x.toUInt32.toUInt16

/-- `drmmode_ConvertFromKMode`.  `strdup` may fail. -/
def drmmodeConvertFromKMode (kmode : KMode) (strdupOk : Bool) : DisplayMode where
  status := 0
  clock := kmode.clock.toInt32
  hDisplay := wide kmode.hdisplay
  hSyncStart := wide kmode.hsyncStart
  hSyncEnd := wide kmode.hsyncEnd
  hTotal := wide kmode.htotal
  hSkew := wide kmode.hskew
  vDisplay := wide kmode.vdisplay
  vSyncStart := wide kmode.vsyncStart
  vSyncEnd := wide kmode.vsyncEnd
  vTotal := wide kmode.vtotal
  vScan := wide kmode.vscan
  flags := kmode.flags.toInt32
  name := if strdupOk then some (cString kmode.name.bytes) else none
  type :=
    let type := if kmode.type &&& DRM_MODE_TYPE_DRIVER ≠ 0 then M_T_DRIVER else 0
    if kmode.type &&& DRM_MODE_TYPE_PREFERRED ≠ 0 then type ||| M_T_PREFERRED else type

/-- The name of a kernel mode that was all zero: `strncpy`, and the last byte is zero. -/
def ModeName.copied (name : Option (List UInt8)) : ModeName where
  bytes :=
    let bytes :=
      match name with
      | none => List.replicate DRM_DISPLAY_MODE_LEN 0
      | some name => strncpy DRM_DISPLAY_MODE_LEN name
    bytes.set (DRM_DISPLAY_MODE_LEN - 1) 0
  length := by cases name <;> simp

/-- `drmmode_ConvertToKMode`. -/
def drmmodeConvertToKMode (mode : DisplayMode) : KMode where
  clock := mode.clock.toUInt32
  hdisplay := narrow mode.hDisplay
  hsyncStart := narrow mode.hSyncStart
  hsyncEnd := narrow mode.hSyncEnd
  htotal := narrow mode.hTotal
  hskew := narrow mode.hSkew
  vdisplay := narrow mode.vDisplay
  vsyncStart := narrow mode.vSyncStart
  vsyncEnd := narrow mode.vSyncEnd
  vtotal := narrow mode.vTotal
  vscan := narrow mode.vScan
  vrefresh := 0
  flags := mode.flags.toUInt32
  type := 0
  name := .copied mode.name

/-- The layout of `drmModeModeInfo` up to its name.  There is no padding. -/
def KMode.fields (kmode : KMode) : List (Nat × Nat) :=
  [(4, kmode.clock.toNat), (2, kmode.hdisplay.toNat), (2, kmode.hsyncStart.toNat),
    (2, kmode.hsyncEnd.toNat), (2, kmode.htotal.toNat), (2, kmode.hskew.toNat),
    (2, kmode.vdisplay.toNat), (2, kmode.vsyncStart.toNat), (2, kmode.vsyncEnd.toNat),
    (2, kmode.vtotal.toNat), (2, kmode.vscan.toNat), (4, kmode.vrefresh.toNat),
    (4, kmode.flags.toNat), (4, kmode.type.toNat)]

/-- The bytes of a kernel mode. -/
def KMode.bytes (kmode : KMode) : DrmModeModeInfo := leRecord kmode.fields ++ kmode.name.bytes

example (kmode : KMode) : kmode.bytes.length = 68 := by
  simp [KMode.bytes, KMode.fields, leRecord, kmode.name.length, DRM_DISPLAY_MODE_LEN]

/-! ## Names -/

/-- A name that is followed by zeros. -/
def ModeName.Tidy (name : ModeName) : Prop :=
  ∃ s : List UInt8, 0 ∉ s ∧ s.length < DRM_DISPLAY_MODE_LEN ∧
    name.bytes = s ++ List.replicate (DRM_DISPLAY_MODE_LEN - s.length) 0

theorem copied_bytes (s : List UInt8) :
    (ModeName.copied (some s)).bytes =
      s.take 31 ++ List.replicate (DRM_DISPLAY_MODE_LEN - (s.take 31).length) 0 := by
  have hlt : 31 < (strncpy 32 s).length := by rw [length_strncpy]; decide
  have hdrop : (strncpy 32 s).drop 32 = [] := List.drop_of_length_le (by rw [length_strncpy])
  show (strncpy 32 s).set 31 0 = _
  rw [List.set_eq_take_append_cons_drop, if_pos hlt, take_strncpy (by decide), hdrop, strncpy,
    List.append_assoc, List.length_take]
  have hcount : DRM_DISPLAY_MODE_LEN - min 31 s.length = (31 - s.length) + 1 := by
    rw [DRM_DISPLAY_MODE_LEN]
    omega
  rw [hcount, List.replicate_succ']

/-- What is copied is a tidy name, of at most 31 bytes of the string. -/
theorem cString_copied {s : List UInt8} (hs : 0 ∉ s) :
    cString (ModeName.copied (some s)).bytes = s.take 31 := by
  rw [copied_bytes]
  exact cString_append_zeros (fun hin => hs (List.mem_of_mem_take hin)) _

theorem ModeName.eq_of_bytes {name name' : ModeName} (h : name.bytes = name'.bytes) :
    name = name' := by
  obtain ⟨bytes, _⟩ := name
  obtain ⟨bytes', _⟩ := name'
  cases h
  rfl

theorem copied_inj {s t : List UInt8} (hs : 0 ∉ s) (ht : 0 ∉ t) :
    ModeName.copied (some s) = ModeName.copied (some t) ↔ s.take 31 = t.take 31 := by
  constructor
  · intro heq
    rw [← cString_copied hs, heq, cString_copied ht]
  · intro heq
    refine ModeName.eq_of_bytes ?_
    rw [copied_bytes, copied_bytes, heq]

/-- A tidy name is copied as it is. -/
theorem copied_cString_iff (name : ModeName) :
    ModeName.copied (some (cString name.bytes)) = name ↔ name.Tidy := by
  constructor
  · intro heq
    refine ⟨(cString name.bytes).take 31, fun hin => ?_, ?_, ?_⟩
    · exact zero_notMem_cString _ (List.mem_of_mem_take hin)
    · rw [List.length_take, DRM_DISPLAY_MODE_LEN]
      omega
    · rw [← copied_bytes, heq]
  · rintro ⟨s, hs, hlen, hbytes⟩
    refine ModeName.eq_of_bytes ?_
    have hshort : s.take 31 = s := List.take_of_length_le (Nat.le_of_lt_succ hlen)
    rw [hbytes, cString_append_zeros hs, copied_bytes, hshort]

theorem copied_none : (ModeName.copied none).bytes = List.replicate 32 0 := by decide

/-- Without a copy of the name nothing is left of it. -/
theorem copied_none_iff (name : ModeName) :
    ModeName.copied none = name ↔ name.Tidy ∧ cString name.bytes = [] := by
  constructor
  · rintro rfl
    exact ⟨⟨[], List.not_mem_nil, by decide, by decide⟩, by decide⟩
  · rintro ⟨⟨s, hs, -, hbytes⟩, hempty⟩
    rw [hbytes, cString_append_zeros hs] at hempty
    refine ModeName.eq_of_bytes ?_
    rw [copied_none, hbytes, hempty]
    rfl

/-! ## Numbers -/

@[simp] theorem narrow_wide (x : UInt16) : narrow (wide x) = x := by
  simp [narrow, wide]

/-- An `int` fits into 16 bits. -/
def Fits (x : Int32) : Prop := 0 ≤ x.toInt ∧ x.toInt < 65536

theorem toInt_wide (x : UInt16) : (wide x).toInt = x.toNat := by
  have hlt : x.toNat < 2 ^ 16 := x.toNat_lt
  have hbits : (wide x).toBitVec.toNat = x.toNat := by simp [wide]
  rw [← Int32.toInt_toBitVec, BitVec.toInt_eq_toNat_of_lt (by omega), hbits]

theorem toNat_narrow {x : Int32} (hx : Fits x) : ((narrow x).toNat : Int) = x.toInt := by
  obtain ⟨hnonneg, hlt⟩ := hx
  have hword : x.toUInt32.toNat < 2 ^ 32 := x.toUInt32.toNat_lt
  have hnat : (narrow x).toNat = x.toUInt32.toNat % 2 ^ 16 := by simp [narrow]
  have hint : x.toInt = if 2 * x.toUInt32.toNat < 2 ^ 32 then (x.toUInt32.toNat : Int)
      else (x.toUInt32.toNat : Int) - (2 ^ 32 : Nat) := BitVec.toInt_eq_toNat_cond x.toBitVec
  rw [hnat]
  split at hint <;> omega

theorem wide_narrow_iff (x : Int32) : wide (narrow x) = x ↔ Fits x := by
  constructor
  · intro heq
    have hlt : (narrow x).toNat < 2 ^ 16 := (narrow x).toNat_lt
    rw [Fits, ← heq, toInt_wide]
    omega
  · intro hx
    refine Int32.toInt_inj.mp ?_
    rw [toInt_wide, toNat_narrow hx]

/-! ## Round trips -/

/-- The way to the server and back. -/
theorem convertToKMode_convertFromKMode (kmode : KMode) (strdupOk : Bool) :
    drmmodeConvertToKMode (drmmodeConvertFromKMode kmode strdupOk) =
      { kmode with
        vrefresh := 0
        type := 0
        name := .copied (if strdupOk then some (cString kmode.name.bytes) else none) } := by
  simp [drmmodeConvertToKMode, drmmodeConvertFromKMode]

/-- **The kernel gets its own mode back, but for `vrefresh` and `type`, exactly when the name is
followed by zeros** and could be copied. -/
theorem kernel_mode_kept_iff (kmode : KMode) (strdupOk : Bool) :
    drmmodeConvertToKMode (drmmodeConvertFromKMode kmode strdupOk) =
        { kmode with vrefresh := 0, type := 0 } ↔
      kmode.name.Tidy ∧ (strdupOk = true ∨ cString kmode.name.bytes = []) := by
  rw [convertToKMode_convertFromKMode, KMode.mk.injEq]
  simp only [true_and]
  cases strdupOk with
  | false =>
      rw [if_neg Bool.false_ne_true, copied_none_iff]
      simp
  | true =>
      rw [if_pos rfl, copied_cString_iff]
      simp

/-- The numbers of a display mode that the kernel has 16 bits for. -/
def DisplayMode.sizes (mode : DisplayMode) : List Int32 :=
  [mode.hDisplay, mode.hSyncStart, mode.hSyncEnd, mode.hTotal, mode.hSkew, mode.vDisplay,
    mode.vSyncStart, mode.vSyncEnd, mode.vTotal, mode.vScan]

/-- **A display mode that the server has made itself** always keeps its clock and its flags, and it
is programmed as it is exactly when its numbers fit. -/
theorem display_mode_kept_iff (mode : DisplayMode) (strdupOk : Bool) :
    (drmmodeConvertFromKMode (drmmodeConvertToKMode mode) strdupOk).clock = mode.clock ∧
      (drmmodeConvertFromKMode (drmmodeConvertToKMode mode) strdupOk).flags = mode.flags ∧
      ((drmmodeConvertFromKMode (drmmodeConvertToKMode mode) strdupOk).sizes = mode.sizes ↔
        ∀ x ∈ mode.sizes, Fits x) := by
  have hsizes : (drmmodeConvertFromKMode (drmmodeConvertToKMode mode) strdupOk).sizes =
      mode.sizes.map fun x => wide (narrow x) := rfl
  refine ⟨?_, ?_, ?_⟩
  · simp [drmmodeConvertFromKMode, drmmodeConvertToKMode]
  · simp [drmmodeConvertFromKMode, drmmodeConvertToKMode]
  rw [hsizes]
  have hmap : (mode.sizes.map fun x => wide (narrow x)) = mode.sizes ↔
      ∀ x ∈ mode.sizes, wide (narrow x) = x := by
    conv_lhs => rhs; rw [← List.map_id mode.sizes]
    exact List.map_inj_left
  rw [hmap]
  exact forall₂_congr fun x _ => wide_narrow_iff x

/-! ## Blobs -/

theorem bytes_inj {kmode kmode' : KMode} : kmode.bytes = kmode'.bytes ↔ kmode = kmode' := by
  constructor
  · intro heq
    have hlayout : kmode.fields.map Prod.fst = kmode'.fields.map Prod.fst := rfl
    obtain ⟨hnums, hname⟩ := leRecord_append_inj hlayout heq
    have hwide (x : UInt32) : x.toNat % 256 ^ 4 = x.toNat := Nat.mod_eq_of_lt x.toNat_lt
    have hnarrow (x : UInt16) : x.toNat % 256 ^ 2 = x.toNat := Nat.mod_eq_of_lt x.toNat_lt
    simp only [KMode.fields, List.map_cons, List.map_nil, hwide, hnarrow, List.cons.injEq,
      UInt32.toNat_inj, UInt16.toNat_inj, and_true] at hnums
    obtain ⟨h1, h2, h3, h4, h5, h6, h7, h8, h9, h10, h11, h12, h13, h14⟩ := hnums
    exact KMode.ext h1 h2 h3 h4 h5 h6 h7 h8 h9 h10 h11 h12 h13 h14 (ModeName.eq_of_bytes hname)
  · rintro rfl
    rfl

/-- **Two kernel modes share a mode blob exactly when they differ at most in `vrefresh`, in `type`
and behind the names**, of which 31 bytes count. -/
theorem blob_reused_iff (kmode kmode' : KMode) :
    drmmodeCompareKModes
        (drmmodeConvertToKMode (drmmodeConvertFromKMode kmode true)).bytes
        (drmmodeConvertToKMode (drmmodeConvertFromKMode kmode' true)).bytes = 0 ↔
      { kmode with vrefresh := 0, type := 0, name := kmode'.name } =
          { kmode' with vrefresh := 0, type := 0 } ∧
        (cString kmode.name.bytes).take 31 = (cString kmode'.name.bytes).take 31 := by
  rw [drmmodeCompareKModes_eq_zero, bytes_inj, convertToKMode_convertFromKMode,
    convertToKMode_convertFromKMode, if_pos rfl, if_pos rfl,
    ← copied_inj (zero_notMem_cString _) (zero_notMem_cString _)]
  simp only [KMode.mk.injEq]
  tauto

end LoongsonVideo.Driver.KernelModes
