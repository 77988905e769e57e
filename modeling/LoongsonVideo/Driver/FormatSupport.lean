import Mathlib.Data.Finset.Card

/-!
# Modifiers that are offered and modifiers that are taken

`get_modifiers_set` of `src/drmmode_display.c` collects the modifiers that some enabled CRTC
lists for a format; `get_drawable_modifiers` offers them to clients for flips.
`drmmode_is_format_supported` asks every enabled CRTC when such a buffer is to be flipped.

* `getModifiersSet_spec`: what is collected.
* `isFormatSupported_iff`: what is taken.
* `offered_supported_iff`: when all that is offered is taken.
-/

namespace LoongsonVideo.Driver.FormatSupport

/-- `drmmode_format_rec`; `num_modifiers` is the length of the list. -/
structure DrmmodeFormat where
  format : UInt32
  modifiers : List UInt64
  deriving DecidableEq, Repr

/-- What is read of a CRTC; `num_formats` is the length of the list. -/
structure Crtc where
  enabled : Bool
  formats : List DrmmodeFormat
  deriving DecidableEq, Repr

/-- `DRM_FORMAT_XRGB8888` and so on. -/
def drmFormatXrgb8888 : UInt32 := 0x34325258
def drmFormatArgb8888 : UInt32 := 0x34325241
def drmFormatXrgb2101010 : UInt32 := 0x30335258
def drmFormatArgb2101010 : UInt32 := 0x30335241

/-- `DRM_FORMAT_MOD_INVALID`. -/
def drmFormatModInvalid : UInt64 := 0x00ffffffffffffff

/-- `get_opaque_format`. -/
def getOpaqueFormat (format : UInt32) : UInt32 :=
  if format = drmFormatArgb8888 then drmFormatXrgb8888
  else if format = drmFormatArgb2101010 then drmFormatXrgb2101010
  else format

/-! ## What is taken -/

/-- The loop of `drmmode_is_format_supported` over the formats of a CRTC: `found`.  It stops at
the first entry of the format. -/
def formatFound (format : UInt32) (modifier : UInt64) : List DrmmodeFormat → Bool
  | [] => false
  | iter :: rest =>
      if iter.format ≠ format then formatFound format modifier rest
      else if modifier = drmFormatModInvalid ∨ iter.modifiers = [] then true
      else iter.modifiers.any (· == modifier)

/-- Its loop over the CRTCs. -/
def crtcsSupport (format : UInt32) (modifier : UInt64) : List Crtc → Bool
  | [] => true
  | crtc :: rest =>
      if !crtc.enabled then crtcsSupport format modifier rest
      else if crtc.formats = [] then crtcsSupport format modifier rest
      else if !formatFound format modifier crtc.formats then false
      else crtcsSupport format modifier rest

/-- `drmmode_is_format_supported`. -/
def drmmodeIsFormatSupported (crtcs : List Crtc) (format : UInt32) (modifier : UInt64) : Bool :=
  crtcsSupport (getOpaqueFormat format) modifier crtcs

/-! ## What is offered -/

/-- The loop of `get_modifiers_set` over the modifiers of an entry: `ret`, or `none` when a
`realloc` has failed.  `realloc` says whether so many modifiers can be had. -/
def modifierLoop (excluded : UInt64 → Bool) (realloc : Nat → Bool) :
    List UInt64 → List UInt64 → Option (List UInt64)
  | [], ret => some ret
  | modifier :: rest, ret =>
      if excluded modifier then modifierLoop excluded realloc rest ret
      else if ret.any (modifier == ·) then modifierLoop excluded realloc rest ret
      else if !realloc (ret.length + 1) then none
      else modifierLoop excluded realloc rest (ret ++ [modifier])

/-- Its loop over the formats of a CRTC. -/
def formatLoop (format : UInt32) (excluded : UInt64 → Bool) (realloc : Nat → Bool) :
    List DrmmodeFormat → List UInt64 → Option (List UInt64)
  | [], ret => some ret
  | iter :: rest, ret =>
      if iter.format ≠ format then formatLoop format excluded realloc rest ret
      else
        (modifierLoop excluded realloc iter.modifiers ret).bind
          (formatLoop format excluded realloc rest)

/-- Its loop over the CRTCs. -/
def crtcLoop (enabledCrtcOnly : Bool) (format : UInt32) (excluded : UInt64 → Bool)
    (realloc : Nat → Bool) : List Crtc → List UInt64 → Option (List UInt64)
  | [], ret => some ret
  | crtc :: rest, ret =>
      if enabledCrtcOnly && !crtc.enabled then
        crtcLoop enabledCrtcOnly format excluded realloc rest ret
      else
        (formatLoop format excluded realloc crtc.formats ret).bind
          (crtcLoop enabledCrtcOnly format excluded realloc rest)

/-- `get_modifiers_set`.  `planeCount` is `gbm_device_get_format_modifier_plane_count`. -/
def getModifiersSet (crtcs : List Crtc) (format : UInt32) (enabledCrtcOnly excludeMultiplane : Bool)
    (planeCount : UInt32 → UInt64 → Int) (realloc : Nat → Bool) : List UInt64 :=
  let format := getOpaqueFormat format
  let excluded := fun modifier => excludeMultiplane && decide (planeCount format modifier > 1)
  (crtcLoop enabledCrtcOnly format excluded realloc crtcs []).getD []

/-- What `get_drawable_modifiers` asks before: the window can flip, flips are on, none of DRI2
is pending and the VT is held. -/
structure Flippable where
  presentCanWindowFlip : Bool
  pageflip : Bool
  dri2Flipping : Bool
  vtSema : Bool
  deriving DecidableEq, Repr

/-- `get_drawable_modifiers`. -/
def getDrawableModifiers (draw : Flippable) (crtcs : List Crtc) (format : UInt32)
    (planeCount : UInt32 → UInt64 → Int) (realloc : Nat → Bool) : List UInt64 :=
  if !draw.presentCanWindowFlip || !draw.pageflip || draw.dri2Flipping || !draw.vtSema then []
  else getModifiersSet crtcs format true false planeCount realloc

/-! ## The property and the condition -/

/-- What the tables of the CRTCs list for a format, in order. -/
def listed (enabledCrtcOnly : Bool) (format : UInt32) (excluded : UInt64 → Bool)
    (crtcs : List Crtc) : List UInt64 :=
  (((crtcs.filter fun crtc => !enabledCrtcOnly || crtc.enabled).flatMap Crtc.formats).filter
    fun iter => iter.format = format).flatMap fun iter => iter.modifiers.filter (!excluded ·)

/-- The first entry of a table for a format takes the modifier. -/
def Takes (formats : List DrmmodeFormat) (format : UInt32) (modifier : UInt64) : Prop :=
  ∃ iter, formats.find? (fun iter => iter.format = format) = some iter ∧
    (modifier = drmFormatModInvalid ∨ iter.modifiers = [] ∨ modifier ∈ iter.modifiers)

section Taken

variable {format : UInt32} {modifier : UInt64}

theorem formatFound_iff (formats : List DrmmodeFormat) :
    formatFound format modifier formats = true ↔ Takes formats format modifier := by
  induction formats with
  | nil => simp [formatFound, Takes]
  | cons iter rest ih =>
      rw [formatFound, Takes, List.find?_cons]
      by_cases hformat : iter.format = format
      · rw [if_neg (not_not.mpr hformat), decide_eq_true hformat]
        simp only [Option.some.injEq]
        split
        · next hany =>
            refine iff_of_true rfl ⟨iter, rfl, ?_⟩
            exact hany.imp_right Or.inl
        · next hno =>
            rw [List.any_eq_true]
            constructor
            · intro h
              obtain ⟨m, hm, heq⟩ := h
              exact ⟨iter, rfl, Or.inr (Or.inr (beq_iff_eq.mp heq ▸ hm))⟩
            · intro h
              obtain ⟨_, rfl, hinvalid | hempty | hmem⟩ := h
              · exact absurd (Or.inl hinvalid) hno
              · exact absurd (Or.inr hempty) hno
              · exact ⟨modifier, hmem, beq_iff_eq.mpr rfl⟩
      · rw [if_pos hformat, decide_eq_false hformat, ih]
        rfl

/-- **What is taken**: every enabled CRTC that has a table takes it. -/
theorem isFormatSupported_iff (crtcs : List Crtc) (format : UInt32) :
    drmmodeIsFormatSupported crtcs format modifier = true ↔
      ∀ crtc ∈ crtcs, crtc.enabled = true → crtc.formats ≠ [] →
        Takes crtc.formats (getOpaqueFormat format) modifier := by
  rw [drmmodeIsFormatSupported]
  induction crtcs with
  | nil => simp [crtcsSupport]
  | cons crtc rest ih =>
      rw [crtcsSupport, List.forall_mem_cons, ← ih, ← formatFound_iff]
      cases crtc.enabled with
      | false => simp
      | true =>
          by_cases hempty : crtc.formats = []
          · simp [hempty]
          · cases hfound : formatFound (getOpaqueFormat format) modifier crtc.formats <;>
              simp [hempty]

end Taken

section Offered

variable {format : UInt32} {excluded : UInt64 → Bool} {realloc : Nat → Bool} {modifier : UInt64}

/-- The loop when nothing is excluded: each modifier once. -/
def insertAll (realloc : Nat → Bool) : List UInt64 → List UInt64 → Option (List UInt64) :=
  modifierLoop (fun _ => false) realloc

theorem modifierLoop_eq (modifiers ret : List UInt64) :
    modifierLoop excluded realloc modifiers ret =
      insertAll realloc (modifiers.filter (!excluded ·)) ret := by
  induction modifiers generalizing ret with
  | nil => rfl
  | cons modifier rest ih =>
      rw [modifierLoop]
      cases hexcluded : excluded modifier with
      | true =>
          rw [List.filter_cons_of_neg (by simp [hexcluded])]
          exact ih ret
      | false =>
          rw [List.filter_cons_of_pos (by simp [hexcluded]), insertAll, modifierLoop]
          simp only [ih, insertAll]

theorem insertAll_append (xs ys ret : List UInt64) :
    insertAll realloc (xs ++ ys) ret = (insertAll realloc xs ret).bind (insertAll realloc ys) := by
  unfold insertAll
  induction xs generalizing ret with
  | nil => rfl
  | cons modifier xs ih =>
      rw [List.cons_append, modifierLoop, modifierLoop]
      simp only [Bool.false_eq_true, if_false]
      split
      · exact ih ret
      · split
        · rfl
        · exact ih _

theorem formatLoop_eq (formats : List DrmmodeFormat) (ret : List UInt64) :
    formatLoop format excluded realloc formats ret =
      insertAll realloc ((formats.filter fun iter => iter.format = format).flatMap
        fun iter => iter.modifiers.filter (!excluded ·)) ret := by
  induction formats generalizing ret with
  | nil => rfl
  | cons iter rest ih =>
      rw [formatLoop]
      by_cases hformat : iter.format = format
      · rw [if_neg (not_not.mpr hformat), List.filter_cons_of_pos (by simp [hformat]),
          List.flatMap_cons, insertAll_append, modifierLoop_eq]
        congr 1
        funext next
        exact ih next
      · rw [if_pos hformat, List.filter_cons_of_neg (by simp [hformat])]
        exact ih ret

theorem crtcLoop_eq (enabledCrtcOnly : Bool) (crtcs : List Crtc) (ret : List UInt64) :
    crtcLoop enabledCrtcOnly format excluded realloc crtcs ret =
      insertAll realloc (listed enabledCrtcOnly format excluded crtcs) ret := by
  induction crtcs generalizing ret with
  | nil => rfl
  | cons crtc rest ih =>
      rw [crtcLoop]
      cases hskip : enabledCrtcOnly && !crtc.enabled with
      | true =>
          have hlisted : listed enabledCrtcOnly format excluded (crtc :: rest) =
              listed enabledCrtcOnly format excluded rest := by
            rw [listed, List.filter_cons_of_neg (by revert hskip; cases enabledCrtcOnly <;> simp)]
            rfl
          rw [hlisted]
          exact ih ret
      | false =>
          have hlisted : listed enabledCrtcOnly format excluded (crtc :: rest) =
              ((crtc.formats.filter fun iter => iter.format = format).flatMap
                fun iter => iter.modifiers.filter (!excluded ·)) ++
                listed enabledCrtcOnly format excluded rest := by
            rw [listed, List.filter_cons_of_pos (by revert hskip; cases enabledCrtcOnly <;> simp),
              List.flatMap_cons, List.filter_append, List.flatMap_append]
            rfl
          rw [hlisted, insertAll_append, formatLoop_eq]
          simp only [Bool.false_eq_true, if_false]
          congr 1
          funext next
          exact ih next

theorem insertAll_cons (l ret : List UInt64) :
    insertAll realloc (modifier :: l) ret =
      if modifier ∈ ret then insertAll realloc l ret
      else if realloc (ret.length + 1) = true then insertAll realloc l (ret ++ [modifier])
      else none := by
  have hany : ret.any (modifier == ·) = decide (modifier ∈ ret) := by
    rw [List.any_beq, List.contains_eq_mem]
  rw [insertAll, modifierLoop, hany]
  by_cases hin : modifier ∈ ret
  · simp [hin]
  · cases hrealloc : realloc (ret.length + 1) <;> simp [hin]

theorem nodup_snoc {ret : List UInt64} (hret : ret.Nodup) (hnew : modifier ∉ ret) :
    (ret ++ [modifier]).Nodup :=
  List.nodup_append.mpr ⟨hret, List.nodup_singleton modifier, fun m hm m' hm' heq => by
    rw [heq, List.mem_singleton.mp hm'] at hm
    exact hnew hm⟩

/-- Every modifier is there once, and each was had. -/
theorem insertAll_some {l ret out : List UInt64} (hret : ret.Nodup)
    (h : insertAll realloc l ret = some out) :
    out.Nodup ∧ (∀ m, m ∈ out ↔ m ∈ ret ∨ m ∈ l) ∧
      ∀ n, ret.length < n → n ≤ out.length → realloc n = true := by
  induction l generalizing ret with
  | nil =>
      obtain rfl := Option.some.inj h
      exact ⟨hret, fun m => by simp, fun n hlt hle => by omega⟩
  | cons modifier rest ih =>
      rw [insertAll_cons] at h
      by_cases hin : modifier ∈ ret
      · rw [if_pos hin] at h
        obtain ⟨hnodup, hmem, hhad⟩ := ih hret h
        refine ⟨hnodup, fun m => ?_, hhad⟩
        rw [hmem, List.mem_cons]
        constructor
        · exact fun hm => hm.imp_right Or.inr
        · intro hm
          rcases hm with hm | rfl | hm
          · exact Or.inl hm
          · exact Or.inl hin
          · exact Or.inr hm
      · rw [if_neg hin] at h
        split at h
        · next hrealloc =>
            obtain ⟨hnodup, hmem, hhad⟩ := ih (nodup_snoc hret hin) h
            refine ⟨hnodup, fun m => ?_, fun n hlt hle => ?_⟩
            · rw [hmem, List.mem_append, List.mem_singleton, List.mem_cons, or_assoc]
            · rw [List.length_append, List.length_singleton] at hhad
              by_cases hn : n = ret.length + 1
              · exact hn ▸ hrealloc
              · exact hhad n (by omega) hle
        · cases h

/-- A modifier could not be had. -/
theorem insertAll_none {l ret : List UInt64} (hret : ret.Nodup)
    (h : insertAll realloc l ret = none) :
    ∃ n, ret.length < n ∧ n ≤ (ret ++ l).toFinset.card ∧ realloc n = false := by
  induction l generalizing ret with
  | nil => cases h
  | cons modifier rest ih =>
      rw [insertAll_cons] at h
      by_cases hin : modifier ∈ ret
      · rw [if_pos hin] at h
        obtain ⟨n, hlt, hle, hfails⟩ := ih hret h
        have hsub : (ret ++ rest).toFinset ⊆ (ret ++ modifier :: rest).toFinset := by
          intro m hm
          simp only [List.toFinset_append, List.mem_toFinset, Finset.mem_union,
            List.mem_cons] at hm ⊢
          exact hm.imp_right Or.inr
        exact ⟨n, hlt, hle.trans (Finset.card_le_card hsub), hfails⟩
      · rw [if_neg hin] at h
        have hsnoc := nodup_snoc hret hin
        have hlength : (ret ++ [modifier]).length = ret.length + 1 := by simp
        have hall : ret ++ modifier :: rest = (ret ++ [modifier]) ++ rest := by simp
        rw [hall]
        split at h
        · obtain ⟨n, hlt, hle, hfails⟩ := ih hsnoc h
          exact ⟨n, by omega, hle, hfails⟩
        · next hno =>
            have hcard : (ret ++ [modifier]).toFinset.card = ret.length + 1 := by
              rw [List.toFinset_card_of_nodup hsnoc, hlength]
            have hsub : (ret ++ [modifier]).toFinset ⊆ ((ret ++ [modifier]) ++ rest).toFinset := by
              rw [List.toFinset_append (l := ret ++ [modifier])]
              exact Finset.subset_union_left
            refine ⟨ret.length + 1, Nat.lt_succ_self _, ?_, Bool.eq_false_iff.mpr hno⟩
            rw [← hcard]
            exact Finset.card_le_card hsub

/-- All the modifiers of a list can be had. -/
def AllocsOk (realloc : Nat → Bool) (modifiers : List UInt64) : Prop :=
  ∀ n, 0 < n → n ≤ modifiers.toFinset.card → realloc n = true

/-- What `get_modifiers_set` leaves out. -/
def excludedBy (excludeMultiplane : Bool) (planeCount : UInt32 → UInt64 → Int) (format : UInt32)
    (modifier : UInt64) : Bool :=
  excludeMultiplane && decide (planeCount format modifier > 1)

/-- What the tables list for `get_modifiers_set`. -/
def offers (crtcs : List Crtc) (format : UInt32) (enabledCrtcOnly excludeMultiplane : Bool)
    (planeCount : UInt32 → UInt64 → Int) : List UInt64 :=
  listed enabledCrtcOnly (getOpaqueFormat format)
    (excludedBy excludeMultiplane planeCount (getOpaqueFormat format)) crtcs

/-- **What is offered**: all that is listed, as long as there is memory for it. -/
theorem getModifiersSet_spec (crtcs : List Crtc) (format : UInt32)
    (enabledCrtcOnly excludeMultiplane : Bool) (planeCount : UInt32 → UInt64 → Int)
    (realloc : Nat → Bool) (modifier : UInt64) :
    modifier ∈ getModifiersSet crtcs format enabledCrtcOnly excludeMultiplane planeCount realloc ↔
      AllocsOk realloc (offers crtcs format enabledCrtcOnly excludeMultiplane planeCount) ∧
        modifier ∈ offers crtcs format enabledCrtcOnly excludeMultiplane planeCount := by
  have hset : getModifiersSet crtcs format enabledCrtcOnly excludeMultiplane planeCount realloc =
      (insertAll realloc
        (offers crtcs format enabledCrtcOnly excludeMultiplane planeCount) []).getD [] :=
    congrArg (Option.getD · []) (crtcLoop_eq enabledCrtcOnly crtcs [])
  rw [hset]
  generalize offers crtcs format enabledCrtcOnly excludeMultiplane planeCount = offers
  cases hall : insertAll realloc offers [] with
  | none =>
      obtain ⟨n, hpos, hle, hfails⟩ := insertAll_none List.nodup_nil hall
      refine iff_of_false (by simp) fun h => ?_
      have hhad := h.1 n hpos hle
      rw [hfails] at hhad
      cases hhad
  | some out =>
      obtain ⟨hnodup, hmem, hhad⟩ := insertAll_some List.nodup_nil hall
      have hsame : out.toFinset = offers.toFinset := by
        ext m
        simp [hmem]
      have hallocs : AllocsOk realloc offers := by
        intro n hpos hle
        rw [← hsame, List.toFinset_card_of_nodup hnodup] at hle
        exact hhad n hpos hle
      simp [hmem, hallocs]

end Offered

/-- **The condition**, for a modifier that some enabled CRTC lists for the format: every enabled
CRTC with a table takes it by its first entry for the format. -/
def TakenByAll (crtcs : List Crtc) (format : UInt32) (modifier : UInt64) : Prop :=
  ∀ crtc ∈ crtcs, crtc.enabled = true → crtc.formats ≠ [] →
    Takes crtc.formats (getOpaqueFormat format) modifier

/-- **A modifier that is offered is taken** exactly when all enabled CRTCs that have a table
agree on it, if it is listed and offered at all. -/
theorem offered_supported_iff (crtcs : List Crtc) (format : UInt32) (excludeMultiplane : Bool)
    (planeCount : UInt32 → UInt64 → Int) (realloc : Nat → Bool) (modifier : UInt64) :
    (modifier ∈ getModifiersSet crtcs format true excludeMultiplane planeCount realloc →
        drmmodeIsFormatSupported crtcs format modifier = true) ↔
      (AllocsOk realloc (offers crtcs format true excludeMultiplane planeCount) →
        modifier ∈ offers crtcs format true excludeMultiplane planeCount →
        TakenByAll crtcs format modifier) := by
  rw [getModifiersSet_spec, isFormatSupported_iff, and_imp]
  exact Iff.rfl

/-- `get_drawable_modifiers` offers these or nothing. -/
theorem drawable_modifiers_offered {draw : Flippable} {crtcs : List Crtc} {format : UInt32}
    {planeCount : UInt32 → UInt64 → Int} {realloc : Nat → Bool} {modifier : UInt64}
    (h : modifier ∈ getDrawableModifiers draw crtcs format planeCount realloc) :
    modifier ∈ getModifiersSet crtcs format true false planeCount realloc := by
  rw [getDrawableModifiers] at h
  split at h
  · cases h
  · exact h

/-- Two CRTCs with XRGB8888 tables; the first lists a tiled modifier, the second only linear. -/
def unlikeCrtcs : List Crtc :=
  [⟨true, [⟨drmFormatXrgb8888, [0, 1]⟩]⟩, ⟨true, [⟨drmFormatXrgb8888, [0]⟩]⟩]

/-- **What one CRTC lists is offered, and refused for the other.** -/
theorem offered_modifier_refused :
    1 ∈ getDrawableModifiers ⟨true, true, false, true⟩ unlikeCrtcs drmFormatXrgb8888
        (fun _ _ => 1) (fun _ => true) ∧
      drmmodeIsFormatSupported unlikeCrtcs drmFormatXrgb8888 1 = false := by
  decide

end LoongsonVideo.Driver.FormatSupport
