import Mathlib.Algebra.Ring.Nat
import Mathlib.Logic.Function.Basic

/-!
# The formats of a plane and their modifiers

`populate_format_modifiers` of `src/drmmode_display.c` decodes the `IN_FORMATS` blob of
a plane: for each format the modifiers whose window of 64 formats has its bit set.

The bit is tested with `1 << n`, an `int`.  Up to 30 this is the bit; 31 is the sign,
which the conversion to 64 bits repeats in all bits from 31 on; from 32 on C leaves
the value open, and what the machine gives is a parameter, `wide`.
`decodes_exactly_iff` says for which masks the decoding is right.
-/

namespace LoongsonVideo.Driver.FormatModifiers

/-- `struct drm_format_modifier`. -/
structure DrmFormatModifier where
  formats : BitVec 64
  offset : UInt32
  modifier : UInt64

/-- `struct drm_format_modifier_blob`, with what the memory from its first byte on holds
as a `uint32_t` and as a `struct drm_format_modifier`. -/
structure DrmFormatModifierBlob where
  countFormats : UInt32
  formatsOffset : UInt32
  countModifiers : UInt32
  modifiersOffset : UInt32
  word : Nat → UInt32
  entry : Nat → DrmFormatModifier

/-- `formats_ptr(blob)[i]`. -/
def formatsPtr (blob : DrmFormatModifierBlob) (i : Nat) : UInt32 :=
  blob.word (blob.formatsOffset.toNat + 4 * i)

/-- `modifiers_ptr(blob)[j]`. -/
def modifiersPtr (blob : DrmFormatModifierBlob) (j : Nat) : DrmFormatModifier :=
  blob.entry (blob.modifiersOffset.toNat + 24 * j)

/-- `drmmode_format_rec`. -/
structure DrmmodeFormatRec where
  format : UInt32
  numModifiers : UInt32
  modifiers : List UInt64
  deriving DecidableEq, Repr

/-- `1 << n`, an `int`. -/
def intShift (wide : UInt32 → BitVec 32) (n : UInt32) : BitVec 32 :=
  if n < 32 then 1#32 <<< n.toNat else wide n

/-- `mod->formats & (1 << n)`. -/
def maskedFormats (wide : UInt32 → BitVec 32) (formats : BitVec 64) (n : UInt32) : BitVec 64 :=
  formats &&& (intShift wide n).signExtend 64

/-- The loop over the modifiers for format `i`: `num_modifiers` and `modifiers` at its
end, or `none` when the `realloc` for so many modifiers has failed. -/
def modifierLoop (wide : UInt32 → BitVec 32) (blob : DrmFormatModifierBlob)
    (realloc : UInt32 → Bool) (i : UInt32) :
    List Nat → UInt32 → List UInt64 → Option (UInt32 × List UInt64)
  | [], numModifiers, modifiers => some (numModifiers, modifiers)
  | j :: rest, numModifiers, modifiers =>
      let mod := modifiersPtr blob j
      if i < mod.offset ∨ i > mod.offset + 63 then
        modifierLoop wide blob realloc i rest numModifiers modifiers
      else if maskedFormats wide mod.formats (i - mod.offset) = 0 then
        modifierLoop wide blob realloc i rest numModifiers modifiers
      else if !realloc (numModifiers + 1) then none
      else
        modifierLoop wide blob realloc i rest (numModifiers + 1) (modifiers ++ [mod.modifier])

/-- The loop over the formats: `drmmode_crtc->formats` afterwards and the result. -/
def formatLoop (wide : UInt32 → BitVec 32) (blob : DrmFormatModifierBlob)
    (realloc : Nat → UInt32 → Bool) :
    List Nat → (Nat → DrmmodeFormatRec) → (Nat → DrmmodeFormatRec) × Bool
  | [], formats => (formats, true)
  | i :: rest, formats =>
      match modifierLoop wide blob (realloc i) (UInt32.ofNat i)
          (List.range blob.countModifiers.toNat) 0 [] with
      | none => (formats, false)
      | some (numModifiers, modifiers) =>
          formatLoop wide blob realloc rest
            (Function.update formats i ⟨formatsPtr blob i, numModifiers, modifiers⟩)

/-- `populate_format_modifiers`; `none` is a failed assertion. -/
def populateFormatModifiers (wide : UInt32 → BitVec 32) (numFormats : UInt32)
    (formats : Nat → DrmmodeFormatRec) (blobId : UInt32) (blob : Option DrmFormatModifierBlob)
    (realloc : Nat → UInt32 → Bool) : Option ((Nat → DrmmodeFormatRec) × Bool) :=
  if blobId = 0 then some (formats, false)
  else
    match blob with
    | none => some (formats, false)
    | some blob =>
        if numFormats ≠ blob.countFormats then none
        else some (formatLoop wide blob realloc (List.range blob.countFormats.toNat) formats)

/-! ## The loops -/

section Loops

variable {wide : UInt32 → BitVec 32} {blob : DrmFormatModifierBlob}

/-- What the code lets modifier `j` through on for format `i`. -/
def takes (wide : UInt32 → BitVec 32) (i : UInt32) (mod : DrmFormatModifier) : Bool :=
  ¬ (i < mod.offset ∨ i > mod.offset + 63) ∧
    maskedFormats wide mod.formats (i - mod.offset) ≠ 0

/-- The codes of the modifiers that pass a test, in order. -/
def codes (blob : DrmFormatModifierBlob) (test : DrmFormatModifier → Bool) (js : List Nat) :
    List UInt64 :=
  ((js.map (modifiersPtr blob)).filter test).map DrmFormatModifier.modifier

theorem modifierLoop_eq {realloc : UInt32 → Bool} (hrealloc : ∀ n, realloc n = true)
    (i : UInt32) (js : List Nat) (num : UInt32) (modifiers : List UInt64) :
    modifierLoop wide blob realloc i js num modifiers =
      some (num + UInt32.ofNat (codes blob (takes wide i) js).length,
        modifiers ++ codes blob (takes wide i) js) := by
  induction js generalizing num modifiers with
  | nil => simp [modifierLoop, codes]
  | cons j rest ih =>
      have hskip : takes wide i (modifiersPtr blob j) = false →
          codes blob (takes wide i) (j :: rest) = codes blob (takes wide i) rest := by
        intro hno
        simp [codes, hno]
      have htake : takes wide i (modifiersPtr blob j) = true →
          codes blob (takes wide i) (j :: rest) =
            (modifiersPtr blob j).modifier :: codes blob (takes wide i) rest := by
        intro hyes
        simp [codes, hyes]
      rw [modifierLoop]
      split
      · next hout => rw [ih, hskip (by simp [takes, hout])]
      · next hin =>
          split
          · next hzero => rw [ih, hskip (by simp [takes, hzero])]
          · next hone =>
              rw [hrealloc, htake (decide_eq_true ⟨hin, hone⟩)]
              simp only [Bool.not_true, Bool.false_eq_true, if_false]
              rw [ih, List.length_cons, List.append_assoc, List.singleton_append,
                Nat.add_comm, UInt32.ofNat_add, UInt32.add_assoc]
              rfl

/-- What the loop over the formats leaves. -/
theorem formatLoop_eq (wide : UInt32 → BitVec 32) (blob : DrmFormatModifierBlob)
    {realloc : Nat → UInt32 → Bool} (hrealloc : ∀ i n, realloc i n = true) (is : List Nat) (formats : Nat → DrmmodeFormatRec) :
    (formatLoop wide blob realloc is formats).2 = true ∧
      ∀ i, (formatLoop wide blob realloc is formats).1 i =
        if i ∈ is then
          ⟨formatsPtr blob i,
            UInt32.ofNat (codes blob (takes wide (UInt32.ofNat i))
              (List.range blob.countModifiers.toNat)).length,
            codes blob (takes wide (UInt32.ofNat i)) (List.range blob.countModifiers.toNat)⟩
        else formats i := by
  induction is generalizing formats with
  | nil => exact ⟨rfl, fun i => rfl⟩
  | cons k rest ih =>
      rw [formatLoop, modifierLoop_eq (hrealloc k)]
      refine ⟨(ih _).1, fun i => ?_⟩
      rw [(ih _).2 i]
      by_cases hrest : i ∈ rest
      · rw [if_pos hrest, if_pos (List.mem_cons_of_mem k hrest)]
      · rw [if_neg hrest]
        by_cases hk : i = k
        · subst hk
          rw [Function.update_self, if_pos List.mem_cons_self, UInt32.zero_add, List.nil_append]
        · rw [Function.update_of_ne hk, if_neg (by simp [hk, hrest])]

end Loops

/-! ## The bit -/

section Bit

variable {wide : UInt32 → BitVec 32}

/-- A mask meets the single bit `d` when it has it. -/
theorem and_bit_ne_zero_iff (mask : BitVec 64) (d : Nat) :
    mask &&& (1#64 <<< d) ≠ 0#64 ↔ mask.getLsbD d = true := by
  have hbit : 1#64 <<< d = BitVec.twoPow 64 d := rfl
  rw [hbit, BitVec.and_twoPow]
  split
  · next hset =>
      have hd := BitVec.lt_of_getLsbD hset
      refine iff_of_true (fun hzero => ?_) hset
      have hself := congrArg (fun x => BitVec.getLsbD x d) hzero
      simp only [BitVec.getLsbD_twoPow, hd, BitVec.getLsbD_zero] at hself
      simp at hself
  · next hclear => exact iff_of_false (fun h => h rfl) hclear

/-- Below the sign, the `int` is the bit. -/
theorem signExtend_shift {d : Nat} (hd : d < 31) :
    (1#32 <<< d).signExtend 64 = 1#64 <<< d := by
  have hall : ∀ d < 31, (1#32 <<< d).signExtend 64 = 1#64 <<< d := by decide
  exact hall d hd

/-- The sign is repeated from 31 on. -/
theorem getLsbD_signBit (k : Nat) :
    ((1#32 <<< 31).signExtend 64).getLsbD k = (decide (31 ≤ k) && decide (k < 64)) := by
  rw [BitVec.getLsbD_signExtend]
  by_cases hk : k < 32
  · have hlow : ∀ k < 32, (1#32 <<< 31).getLsbD k = decide (31 ≤ k) := by decide
    rw [if_pos hk, hlow k hk, Bool.and_comm]
  · have hmsb : (1#32 <<< 31).msb = true := by decide
    rw [if_neg hk, hmsb, decide_eq_true (show 31 ≤ k by omega), Bool.and_comm]

/-- **The bit is read right** at distance `d` from the start of the window. -/
def ReadsRight (wide : UInt32 → BitVec 32) (formats : BitVec 64) (d : Nat) : Prop :=
  (d = 31 → formats.toNat < 2 ^ 31 ∨ formats.getLsbD 31 = true) ∧
    (32 ≤ d →
      (formats &&& (wide (UInt32.ofNat d)).signExtend 64 ≠ 0 ↔ formats.getLsbD d = true))

theorem signBit_ne_zero_iff (mask : BitVec 64) :
    mask &&& (1#32 <<< 31).signExtend 64 ≠ 0#64 ↔ 2 ^ 31 ≤ mask.toNat := by
  constructor
  · intro hne
    by_contra hlt
    refine hne (BitVec.eq_of_getLsbD_eq fun k _ => ?_)
    rw [BitVec.getLsbD_and, getLsbD_signBit, BitVec.getLsbD_zero, Bool.and_eq_false_iff]
    by_cases hk : 31 ≤ k
    · have hpow : 2 ^ 31 ≤ 2 ^ k := Nat.pow_le_pow_right (by decide) hk
      exact Or.inl (Nat.testBit_lt_two_pow (by omega))
    · exact Or.inr (by simp [hk])
  · intro hle hzero
    obtain ⟨k, hk, hset⟩ := Nat.exists_ge_and_testBit_of_ge_two_pow hle
    have hlt : k < 64 := BitVec.lt_of_getLsbD (x := mask) hset
    have hself := congrArg (fun x => BitVec.getLsbD x k) hzero
    simp only [BitVec.getLsbD_and, getLsbD_signBit, BitVec.getLsbD_zero] at hself
    have hset' : mask.getLsbD k = true := hset
    rw [hset', Bool.true_and, decide_eq_true hk, decide_eq_true hlt] at hself
    exact Bool.noConfusion hself

/-- The test of the code is the bit exactly when it reads right. -/
theorem masked_ne_zero_iff (wide : UInt32 → BitVec 32) (formats : BitVec 64) {d : Nat} (hd : d < 64) :
    (maskedFormats wide formats (UInt32.ofNat d) ≠ 0 ↔ formats.getLsbD d = true) ↔
      ReadsRight wide formats d := by
  have hnat : (UInt32.ofNat d).toNat = d := UInt32.toNat_ofNat_of_lt' (by show d < 2 ^ 32; omega)
  have hsmall : UInt32.ofNat d < 32 ↔ d < 32 := by
    rw [UInt32.lt_iff_toNat_lt, hnat]
    rfl
  by_cases hnarrow : d < 32
  · rw [maskedFormats, intShift, if_pos (hsmall.mpr hnarrow), hnat]
    by_cases hsign : d = 31
    · subst hsign
      show (formats &&& _ ≠ 0#64 ↔ _) ↔ _
      rw [signBit_ne_zero_iff]
      have hset : formats.getLsbD 31 = true → 2 ^ 31 ≤ formats.toNat := fun h =>
        Nat.ge_two_pow_of_testBit h
      constructor
      · intro hiff
        refine ⟨fun _ => ?_, fun h => absurd h (by decide)⟩
        by_cases hlt : formats.toNat < 2 ^ 31
        · exact Or.inl hlt
        · exact Or.inr (hiff.mp (by omega))
      · intro hright
        refine ⟨fun hle => ?_, hset⟩
        cases hright.1 rfl with
        | inl hlt => omega
        | inr hbit => exact hbit
    · refine iff_of_true ?_ ⟨fun h => absurd h hsign, fun h => absurd h (by omega)⟩
      rw [signExtend_shift (by omega)]
      exact and_bit_ne_zero_iff formats d
  · rw [maskedFormats, intShift, if_neg (mt hsmall.mp hnarrow)]
    exact ⟨fun hiff => ⟨fun h => by omega, fun _ => hiff⟩, fun hright => hright.2 (by omega)⟩

/-- Whatever the machine gives, some mask is misread at every distance from 32 on. -/
theorem wide_misreads (wide : UInt32 → BitVec 32) {d : Nat} (hwide : 32 ≤ d) (hd : d < 64) :
    ∃ formats : BitVec 64, ¬ ReadsRight wide formats d := by
  by_contra hall
  have hright : ∀ formats, ReadsRight wide formats d := by simpa using hall
  have hbit : ∀ k, k < 64 →
      (((wide (UInt32.ofNat d)).signExtend 64).getLsbD k = true ↔ k = d) := by
    intro k hk
    have hread := (hright (1#64 <<< k)).2 hwide
    rw [BitVec.and_comm] at hread
    have hone := (and_bit_ne_zero_iff ((wide (UInt32.ofNat d)).signExtend 64) k).symm.trans hread
    rw [hone]
    have htwo : (1#64 <<< k).getLsbD d = (BitVec.twoPow 64 k).getLsbD d := rfl
    rw [htwo, BitVec.getLsbD_twoPow]
    simp [hk]
  -- Bit `d` comes from the sign, so bit 31 is set as well.
  have hsign := (hbit d hd).mpr rfl
  have hlow := (hbit 31 (by decide)).not.mpr (by omega)
  rw [BitVec.getLsbD_signExtend] at hsign hlow
  rw [if_neg (by omega)] at hsign
  rw [if_pos (by decide)] at hlow
  have hmsb : (wide (UInt32.ofNat d)).msb = true := by simpa [hd] using hsign
  rw [BitVec.msb_eq_getLsbD_last] at hmsb
  exact hlow (by simpa using hmsb)

end Bit

/-! ## The decoded lists -/

section Decoded

variable {wide : UInt32 → BitVec 32} {blob : DrmFormatModifierBlob}

/-- Modifier `mod` is for format `i`: its window holds the format and the mask has its
bit set. -/
def Listed (i : Nat) (mod : DrmFormatModifier) : Prop :=
  mod.offset.toNat ≤ i ∧ i ≤ mod.offset.toNat + 63 ∧
    mod.formats.getLsbD (i - mod.offset.toNat) = true

instance (i : Nat) (mod : DrmFormatModifier) : Decidable (Listed i mod) :=
  inferInstanceAs (Decidable (_ ∧ _ ∧ _))

/-- The offsets leave room for the window. -/
def RoomForWindow (blob : DrmFormatModifierBlob) : Prop :=
  ∀ j < blob.countModifiers.toNat, (modifiersPtr blob j).offset.toNat < 2 ^ 32 - 64

/-- **The decoding is exact**: when all goes well, each format has its modifiers, in
order, with their number. -/
def DecodesExactly (wide : UInt32 → BitVec 32) (blob : DrmFormatModifierBlob) : Prop :=
  ∀ formats blobId realloc, blobId ≠ 0 → (∀ i n, realloc i n = true) →
    ∃ formats', populateFormatModifiers wide blob.countFormats formats blobId (some blob) realloc =
        some (formats', true) ∧
      ∀ i < blob.countFormats.toNat, (formats' i).format = formatsPtr blob i ∧
        (formats' i).modifiers =
          codes blob (fun mod => Listed i mod) (List.range blob.countModifiers.toNat) ∧
        (formats' i).numModifiers.toNat = (formats' i).modifiers.length

/-- No mask is read wrongly: at a distance of 31 or more from the start of a window, the
test is the bit. -/
def ReadsAllRight (wide : UInt32 → BitVec 32) (blob : DrmFormatModifierBlob) : Prop :=
  ∀ i < blob.countFormats.toNat, ∀ j < blob.countModifiers.toNat,
    (modifiersPtr blob j).offset.toNat + 31 ≤ i → i ≤ (modifiersPtr blob j).offset.toNat + 63 →
      ReadsRight wide (modifiersPtr blob j).formats (i - (modifiersPtr blob j).offset.toNat)

/-- The same blob but for the codes of its modifiers. -/
def SameWindows (blob blob' : DrmFormatModifierBlob) : Prop :=
  blob'.countFormats = blob.countFormats ∧ blob'.countModifiers = blob.countModifiers ∧
    ∀ j < blob.countModifiers.toNat,
      (modifiersPtr blob' j).formats = (modifiersPtr blob j).formats ∧
        (modifiersPtr blob' j).offset = (modifiersPtr blob j).offset

/-- The code takes what is listed exactly when it reads right. -/
theorem takes_eq_listed_iff (wide : UInt32 → BitVec 32) {i : Nat} (hi : i < 2 ^ 32)
    (mod : DrmFormatModifier) (hroom : mod.offset.toNat < 2 ^ 32 - 64) :
    takes wide (UInt32.ofNat i) mod = decide (Listed i mod) ↔
      (mod.offset.toNat + 31 ≤ i → i ≤ mod.offset.toNat + 63 →
        ReadsRight wide mod.formats (i - mod.offset.toNat)) := by
  have hnat : (UInt32.ofNat i).toNat = i := UInt32.toNat_ofNat_of_lt' hi
  have hend : (mod.offset + 63).toNat = mod.offset.toNat + 63 := by
    rw [UInt32.toNat_add]
    exact Nat.mod_eq_of_lt (by show mod.offset.toNat + 63 < 2 ^ 32; omega)
  rw [takes, decide_eq_decide, Listed, UInt32.lt_iff_toNat_lt, gt_iff_lt, UInt32.lt_iff_toNat_lt,
    hnat, hend]
  by_cases hin : mod.offset.toNat ≤ i ∧ i ≤ mod.offset.toNat + 63
  · obtain ⟨hlow, hhigh⟩ := hin
    have hsub : UInt32.ofNat i - mod.offset = UInt32.ofNat (i - mod.offset.toNat) := by
      refine UInt32.toNat_inj.mp ?_
      rw [UInt32.toNat_sub_of_le _ _ (UInt32.le_iff_toNat_le.mpr (by omega)), hnat,
        UInt32.toNat_ofNat_of_lt' (by show _ < 2 ^ 32; omega)]
    have hmask := masked_ne_zero_iff wide mod.formats
      (show i - mod.offset.toNat < 64 by omega)
    have hnear : ¬ mod.offset.toNat + 31 ≤ i →
        ReadsRight wide mod.formats (i - mod.offset.toNat) := fun hnot =>
      ⟨fun h => by omega, fun h => by omega⟩
    rw [hsub]
    constructor
    · intro hiff _ _
      refine hmask.mp ⟨fun hne => ?_, fun hbit => ?_⟩
      · exact (hiff.mp ⟨by omega, hne⟩).2.2
      · exact (hiff.mpr ⟨hlow, hhigh, hbit⟩).2
    · intro hread
      have hright : ReadsRight wide mod.formats (i - mod.offset.toNat) := by
        by_cases hfar : mod.offset.toNat + 31 ≤ i
        · exact hread hfar hhigh
        · exact hnear hfar
      have hbit := hmask.mpr hright
      exact ⟨fun h => ⟨hlow, hhigh, hbit.mp h.2⟩, fun h => ⟨by omega, hbit.mpr h.2.2⟩⟩
  · refine iff_of_true ⟨fun h => absurd h.1 (by omega), fun h => absurd ⟨h.1, h.2.1⟩ hin⟩ ?_
    exact fun hlow hhigh => absurd ⟨by omega, hhigh⟩ hin

theorem codes_length_le (blob : DrmFormatModifierBlob) (test : DrmFormatModifier → Bool)
    (js : List Nat) : (codes blob test js).length ≤ js.length := by
  rw [codes, List.length_map]
  exact Nat.le_trans (List.length_filter_le _ _) (Nat.le_of_eq (List.length_map ..))

/-- The decoding is exact when each list is. -/
theorem decodesExactly_iff_codes :
    DecodesExactly wide blob ↔ ∀ i < blob.countFormats.toNat,
      codes blob (takes wide (UInt32.ofNat i)) (List.range blob.countModifiers.toNat) =
        codes blob (fun mod => Listed i mod) (List.range blob.countModifiers.toNat) := by
  have heq : ∀ formats blobId realloc, blobId ≠ 0 →
      populateFormatModifiers wide blob.countFormats formats blobId (some blob) realloc =
        some (formatLoop wide blob realloc (List.range blob.countFormats.toNat) formats) := by
    intro formats blobId realloc hid
    simp [populateFormatModifiers, hid]
  have hfit : ∀ test, (UInt32.ofNat
      (codes blob test (List.range blob.countModifiers.toNat)).length).toNat =
        (codes blob test (List.range blob.countModifiers.toNat)).length := by
    intro test
    have hle := codes_length_le blob test (List.range blob.countModifiers.toNat)
    rw [List.length_range] at hle
    exact UInt32.toNat_ofNat_of_lt' (Nat.lt_of_le_of_lt hle blob.countModifiers.toNat_lt)
  constructor
  · intro hexact i hi
    obtain ⟨formats', hpop, hall⟩ := hexact (fun _ => ⟨0, 0, []⟩) 1 (fun _ _ => true) (by decide)
      fun _ _ => rfl
    rw [heq _ _ _ (by decide)] at hpop
    have hloop := (formatLoop_eq wide blob (show ∀ i n, (fun _ _ => true : Nat → UInt32 → Bool) i n = true from
      fun _ _ => rfl) (List.range blob.countFormats.toNat) fun _ => ⟨0, 0, []⟩).2 i
    rw [Option.some.inj hpop, if_pos (List.mem_range.mpr hi)] at hloop
    have hrec : formats' i = _ := hloop
    have hmods := (hall i hi).2.1
    rw [hrec] at hmods
    exact hmods
  · intro hlists formats blobId realloc hid hrealloc
    have hloop := formatLoop_eq wide blob hrealloc
      (List.range blob.countFormats.toNat) formats
    refine ⟨(formatLoop wide blob realloc (List.range blob.countFormats.toNat) formats).1,
      (heq formats blobId realloc hid).trans (congrArg some (Prod.ext rfl hloop.1)),
      fun i hi => ?_⟩
    have hrec := hloop.2 i
    rw [if_pos (List.mem_range.mpr hi)] at hrec
    rw [hrec]
    exact ⟨rfl, hlists i hi, hfit _⟩

theorem codes_congr {test test' : DrmFormatModifier → Bool} {js : List Nat}
    (h : ∀ j ∈ js, test (modifiersPtr blob j) = test' (modifiersPtr blob j)) :
    codes blob test js = codes blob test' js := by
  rw [codes, codes]
  refine congrArg _ (List.filter_congr fun mod hmod => ?_)
  obtain ⟨j, hj, rfl⟩ := List.mem_map.mp hmod
  exact h j hj

/-- With different codes for different modifiers, the lists tell the tests. -/
theorem test_eq_of_codes {test test' : DrmFormatModifier → Bool} {js : List Nat}
    (hcodes : ∀ j ∈ js, ∀ k ∈ js,
      (modifiersPtr blob j).modifier = (modifiersPtr blob k).modifier → j = k)
    (h : codes blob test js = codes blob test' js) :
    ∀ j ∈ js, test (modifiersPtr blob j) = test' (modifiersPtr blob j) := by
  intro j hj
  have hmem : ∀ test : DrmFormatModifier → Bool,
      (modifiersPtr blob j).modifier ∈ codes blob test js ↔ test (modifiersPtr blob j) = true := by
    intro test
    rw [codes]
    constructor
    · intro hin
      obtain ⟨mod, hmod, hcode⟩ := List.mem_map.mp hin
      obtain ⟨hmod, htest⟩ := List.mem_filter.mp hmod
      obtain ⟨k, hk, rfl⟩ := List.mem_map.mp hmod
      rwa [← hcodes k hk j hj hcode]
    · exact fun htest => List.mem_map_of_mem (List.mem_filter.mpr ⟨List.mem_map_of_mem hj, htest⟩)
  refine Bool.eq_iff_iff.mpr ?_
  rw [← hmem test, h, hmem test']

/-- The blob with the place of each modifier for its code. -/
def numbered (blob : DrmFormatModifierBlob) : DrmFormatModifierBlob :=
  { blob with entry := fun at' => { blob.entry at' with modifier := UInt64.ofNat at' } }

theorem numbered_sameWindows (blob : DrmFormatModifierBlob) : SameWindows blob (numbered blob) :=
  ⟨rfl, rfl, fun _ _ => ⟨rfl, rfl⟩⟩

theorem numbered_codes (blob : DrmFormatModifierBlob) {j k : Nat} (hj : j < 2 ^ 32)
    (hk : k < 2 ^ 32)
    (h : (modifiersPtr (numbered blob) j).modifier = (modifiersPtr (numbered blob) k).modifier) :
    j = k := by
  have hlt := blob.modifiersOffset.toNat_lt
  have hplace : UInt64.ofNat (blob.modifiersOffset.toNat + 24 * j) =
      UInt64.ofNat (blob.modifiersOffset.toNat + 24 * k) := h
  have hnat := congrArg UInt64.toNat hplace
  rw [UInt64.toNat_ofNat_of_lt' (by show _ < 2 ^ 64; omega),
    UInt64.toNat_ofNat_of_lt' (by show _ < 2 ^ 64; omega)] at hnat
  omega

/-- A blob decodes exactly when no mask is read wrongly. -/
theorem readsAllRight_decodes (hroom : RoomForWindow blob) (hright : ReadsAllRight wide blob) :
    DecodesExactly wide blob := by
  refine decodesExactly_iff_codes.mpr fun i hi => codes_congr fun j hj => ?_
  have hj' := List.mem_range.mp hj
  exact (takes_eq_listed_iff wide (Nat.lt_trans hi blob.countFormats.toNat_lt) _ (hroom j hj')).mpr
    (hright i hi j hj')

/-- **`populate_format_modifiers` is exact**, whatever the codes of the modifiers are,
exactly when no mask is read wrongly. -/
theorem decodes_exactly_iff (wide : UInt32 → BitVec 32) (blob : DrmFormatModifierBlob)
    (hroom : RoomForWindow blob) :
    (∀ blob', SameWindows blob blob' → DecodesExactly wide blob') ↔ ReadsAllRight wide blob := by
  constructor
  · intro hall i hi j hj
    have hexact := decodesExactly_iff_codes.mp (hall _ (numbered_sameWindows blob)) i hi
    have htests := test_eq_of_codes (fun j hj k hk => numbered_codes blob
      (Nat.lt_trans (List.mem_range.mp hj) blob.countModifiers.toNat_lt)
      (Nat.lt_trans (List.mem_range.mp hk) blob.countModifiers.toNat_lt)) hexact j
      (List.mem_range.mpr hj)
    exact (takes_eq_listed_iff wide (Nat.lt_trans hi blob.countFormats.toNat_lt)
      (modifiersPtr (numbered blob) j) (hroom j hj)).mp htests
  · rintro hright blob' ⟨hformats, hmodifiers, hsame⟩
    refine readsAllRight_decodes (fun j hj => ?_) fun i hi j hj => ?_
    · rw [hmodifiers] at hj
      rw [(hsame j hj).2]
      exact hroom j hj
    · rw [hformats] at hi
      rw [hmodifiers] at hj
      rw [(hsame j hj).1, (hsame j hj).2]
      exact hright i hi j hj

end Decoded

/-- A plane with `count` formats and one modifier, 7, for the last of them. -/
def lastFormatBlob (count : UInt32) (mask : BitVec 64) : DrmFormatModifierBlob where
  countFormats := count
  formatsOffset := 24
  countModifiers := 1
  modifiersOffset := 160
  word := fun at' => UInt32.ofNat at'
  entry := fun _ => ⟨mask, 0, 7⟩

/-- A machine that shifts by the low five bits of the count. -/
def lowFiveBits (n : UInt32) : BitVec 32 := 1#32 <<< (n.toNat % 32)

/-- With three formats the bit is never near the sign. -/
theorem three_formats_decode :
    ReadsAllRight lowFiveBits (lastFormatBlob 3 4) ∧
      ∀ blob', SameWindows (lastFormatBlob 3 4) blob' → DecodesExactly lowFiveBits blob' := by
  have hright : ReadsAllRight lowFiveBits (lastFormatBlob 3 4) := by
    intro i hi j _ hfar
    have hi' : i < 3 := hi
    have hfar' : 0 + 31 ≤ i := hfar
    omega
  exact ⟨hright, (decodes_exactly_iff lowFiveBits (lastFormatBlob 3 4) fun j _ =>
    (by decide : (0 : UInt32).toNat < 2 ^ 32 - 64)).mpr hright⟩

/-- **The modifier of the 33rd format goes to the 32nd** instead: the test at the sign
meets bit 32, and the shift by 32 tests bit 0. -/
theorem last_format_misread :
    codes (lastFormatBlob 33 (1#64 <<< 32)) (takes lowFiveBits 31) [0] = [7] ∧
      codes (lastFormatBlob 33 (1#64 <<< 32)) (fun mod => Listed 31 mod) [0] = [] ∧
      codes (lastFormatBlob 33 (1#64 <<< 32)) (takes lowFiveBits 32) [0] = [] ∧
      codes (lastFormatBlob 33 (1#64 <<< 32)) (fun mod => Listed 32 mod) [0] = [7] ∧
      ¬ DecodesExactly lowFiveBits (lastFormatBlob 33 (1#64 <<< 32)) := by
  refine ⟨by decide, by decide, by decide, by decide, fun hexact => ?_⟩
  have hlists := decodesExactly_iff_codes.mp hexact 31 (by decide)
  exact absurd hlists (by decide)

end LoongsonVideo.Driver.FormatModifiers
