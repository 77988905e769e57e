import LoongsonVideo.Driver.Scanout
import LoongsonVideo.Verified.Ledger
import LoongsonVideo.Verified.Machine

/-!
# The mode blob of a CRTC

`drm_mode_ensure_blob` of `src/drmmode_display.c` keeps the last mode of a CRTC together
with the property blob that the kernel made of it, and `drmmode_crtc_destroy` gives the
blobs back.  The cache is asked for the contents of the mode only, and is filled whether or
not the kernel has made a blob.

* `ensureBlob_inv`, `destroy_releases`: what every run keeps.
* `ensured_run_iff`: when a zero result means a blob of the mode.
-/

namespace LoongsonVideo.Driver.ModeBlob

open LoongsonVideo.Verified.Ledger
open LoongsonVideo.Verified.Machine
open LoongsonVideo.Driver.Scanout (FbIds)

/-- `drmModeModeInfo`, by its bytes. -/
abbrev DrmModeModeInfo := List UInt8

/-- `drmmode_mode_rec`. -/
structure DrmmodeMode where
  modeInfo : DrmModeModeInfo
  blobId : Nat
  deriving DecidableEq, Repr

/-- A CRTC's modes, newest first, and the blobs that the kernel has.  `log` is what became
of the blobs made for this CRTC. -/
structure CrtcModes where
  atomicModeset : Bool
  currentMode : Option DrmmodeMode
  modeList : List DrmmodeMode
  blobs : List (Nat × DrmModeModeInfo)
  log : List (Act Nat)

/-- `drmmode_CompareKModes`: `memcmp`, of which only zero counts. -/
def drmmodeCompareKModes (kmode other : DrmModeModeInfo) : Int :=
  if kmode = other then 0 else 1

/-- `drmModeCreatePropertyBlob`, with its result: the blob's id, which a failure leaves at
zero.  The kernel numbers blobs as it does framebuffers. -/
def drmModeCreatePropertyBlob (ids : FbIds) (s : CrtcModes) (data : DrmModeModeInfo) (ret : Int) :
    CrtcModes × Nat :=
  if ret = 0 then
    let id := ids.pick (s.blobs.map Prod.fst)
    ({ s with blobs := (id, data) :: s.blobs, log := .acquire id :: s.log }, id)
  else (s, 0)

/-- `drmModeDestroyPropertyBlob`. -/
def drmModeDestroyPropertyBlob (s : CrtcModes) (id : Nat) : CrtcModes :=
  { s with blobs := s.blobs.filter (·.1 ≠ id), log := .release id :: s.log }

/-- A call of `drm_mode_ensure_blob`, with the answers of `calloc` and of the kernel. -/
structure Ensure where
  modeInfo : DrmModeModeInfo
  allocOk : Bool
  createRet : Int
  deriving DecidableEq, Repr

/-- `drm_mode_ensure_blob`. -/
def drmModeEnsureBlob (ids : FbIds) (s : CrtcModes) (c : Ensure) : CrtcModes × Int :=
  if (s.currentMode.any fun mode => drmmodeCompareKModes mode.modeInfo c.modeInfo == 0) then (s, 0)
  else if !c.allocOk then (s, -1)
  else
    let (t, blobId) := drmModeCreatePropertyBlob ids s c.modeInfo c.createRet
    let mode : DrmmodeMode := ⟨c.modeInfo, blobId⟩
    ({ t with currentMode := some mode, modeList := mode :: t.modeList }, c.createRet)

/-- `drm_mode_destroy`. -/
def drmModeDestroy (s : CrtcModes) (mode : DrmmodeMode) : CrtcModes :=
  let s := if mode.blobId ≠ 0 then drmModeDestroyPropertyBlob s mode.blobId else s
  { s with modeList := s.modeList.erase mode }

/-- `drmmode_crtc_destroy`. -/
def drmmodeCrtcDestroy (s : CrtcModes) : CrtcModes :=
  if !s.atomicModeset then s else s.modeList.foldl drmModeDestroy s

/-- One call as a step. -/
def ensure (ids : FbIds) (s : CrtcModes) (c : Ensure) : CrtcModes := (drmModeEnsureBlob ids s c).1

/-- A CRTC that has just been made, with the blobs that others have. -/
def fresh (blobs : List (Nat × DrmModeModeInfo)) : CrtcModes := ⟨true, none, [], blobs, []⟩

/-! ## The property and the condition -/

/-- **A zero result means a blob**: the current mode is the one asked for, and its id that of
a blob of exactly this mode. -/
def Ensured (ids : FbIds) (s : CrtcModes) (c : Ensure) : Prop :=
  (drmModeEnsureBlob ids s c).2 = 0 →
    ∃ mode, (ensure ids s c).currentMode = some mode ∧ mode.modeInfo = c.modeInfo ∧
      mode.blobId ≠ 0 ∧ (ensure ids s c).blobs.lookup mode.blobId = some c.modeInfo

/-- **Every blob is destroyed once** when the CRTC goes. -/
def DestroysAll (s : CrtcModes) : Prop :=
  ∀ id, acquires s.log id ≤ 1 ∧ releases (drmmodeCrtcDestroy s).log id = acquires s.log id

/-- **The condition.**  The call does not ask again for a mode whose blob could not be made. -/
def NotStale (s : CrtcModes) (c : Ensure) : Prop :=
  ∀ mode, s.currentMode = some mode → mode.modeInfo = c.modeInfo → mode.blobId ≠ 0

/-! ## Runs -/

/-- The blobs of a list of modes. -/
def blobIds (modes : List DrmmodeMode) : List Nat := (modes.map DrmmodeMode.blobId).filter (· ≠ 0)

/-- What a run keeps. -/
structure Inv (s : CrtcModes) : Prop where
  atomic : s.atomicModeset = true
  listed : ∀ mode, s.currentMode = some mode → mode ∈ s.modeList
  live : ∀ mode ∈ s.modeList, mode.blobId ≠ 0 →
    s.blobs.lookup mode.blobId = some mode.modeInfo
  owned : Owns s.log (blobIds s.modeList : Multiset Nat)
  unreleased : ∀ id, releases s.log id = 0

section Runs

variable {ids : FbIds} {s : CrtcModes} {c : Ensure}

theorem drmmodeCompareKModes_eq_zero (kmode other : DrmModeModeInfo) :
    drmmodeCompareKModes kmode other = 0 ↔ kmode = other := by
  unfold drmmodeCompareKModes
  split <;> simp_all

/-- The cache answers. -/
def Hit (s : CrtcModes) (c : Ensure) : Prop :=
  ∃ mode, s.currentMode = some mode ∧ mode.modeInfo = c.modeInfo

theorem ensureBlob_hit (h : Hit s c) : drmModeEnsureBlob ids s c = (s, 0) := by
  obtain ⟨mode, hmode, hsame⟩ := h
  have hzero : drmmodeCompareKModes mode.modeInfo c.modeInfo = 0 :=
    (drmmodeCompareKModes_eq_zero _ _).mpr hsame
  simp [drmModeEnsureBlob, hmode, hzero]

/-- What a call does that the cache does not answer. -/
theorem ensureBlob_miss (h : ¬ Hit s c) :
    drmModeEnsureBlob ids s c =
      if !c.allocOk then (s, -1)
      else
        ({ (drmModeCreatePropertyBlob ids s c.modeInfo c.createRet).1 with
            currentMode :=
              some ⟨c.modeInfo, (drmModeCreatePropertyBlob ids s c.modeInfo c.createRet).2⟩
            modeList :=
              ⟨c.modeInfo, (drmModeCreatePropertyBlob ids s c.modeInfo c.createRet).2⟩ ::
                (drmModeCreatePropertyBlob ids s c.modeInfo c.createRet).1.modeList },
          c.createRet) := by
  have hno : (s.currentMode.any fun mode =>
      drmmodeCompareKModes mode.modeInfo c.modeInfo == 0) = false := by
    cases hmode : s.currentMode with
    | none => rfl
    | some mode =>
        have hne : drmmodeCompareKModes mode.modeInfo c.modeInfo ≠ 0 := fun hzero =>
          h ⟨mode, hmode, (drmmodeCompareKModes_eq_zero _ _).mp hzero⟩
        simpa using hne
  rw [drmModeEnsureBlob, hno]
  rfl

theorem lookup_none_of_pick (ids : FbIds) (blobs : List (Nat × DrmModeModeInfo)) :
    blobs.lookup (ids.pick (blobs.map Prod.fst)) = none := by
  refine List.lookup_eq_none_iff.mpr fun blob hin => bne_iff_ne.mpr fun heq => ?_
  exact ids.fresh (blobs.map Prod.fst) (heq ▸ List.mem_map_of_mem hin)

/-- A new id is not that of a mode in the list. -/
theorem Inv.pick_notMem (h : Inv s) (ids : FbIds) :
    ids.pick (s.blobs.map Prod.fst) ∉ blobIds s.modeList := by
  intro hin
  obtain ⟨hmem, hne⟩ := List.mem_filter.mp hin
  obtain ⟨mode, hmode, hid⟩ := List.mem_map.mp hmem
  have hlive := h.live mode hmode (by simpa [hid] using hne)
  rw [hid, lookup_none_of_pick ids s.blobs] at hlive
  cases hlive

/-- A mode is listed with the blob that was made of it. -/
theorem Inv.made (h : Inv s) (ids : FbIds) (data : DrmModeModeInfo) :
    Inv { s with
      currentMode := some ⟨data, ids.pick (s.blobs.map Prod.fst)⟩
      modeList := ⟨data, ids.pick (s.blobs.map Prod.fst)⟩ :: s.modeList
      blobs := (ids.pick (s.blobs.map Prod.fst), data) :: s.blobs
      log := .acquire (ids.pick (s.blobs.map Prod.fst)) :: s.log } where
  atomic := h.atomic
  listed := fun mode hmode => by
    obtain rfl := Option.some.inj hmode
    exact List.mem_cons_self
  live := fun mode hmode hid => by
    cases List.mem_cons.mp hmode with
    | inl hnew =>
        subst hnew
        exact List.lookup_cons_self
    | inr hold =>
        have hlive := h.live mode hold hid
        have hother : mode.blobId ≠ ids.pick (s.blobs.map Prod.fst) := fun heq => by
          rw [heq, lookup_none_of_pick ids s.blobs] at hlive
          cases hlive
        rw [List.lookup_cons, beq_eq_false_iff_ne.mpr hother]
        exact hlive
  owned := by
    have hids : blobIds (⟨data, ids.pick (s.blobs.map Prod.fst)⟩ :: s.modeList) =
        ids.pick (s.blobs.map Prod.fst) :: blobIds s.modeList := by
      simp [blobIds, ids.ne_zero]
    rw [hids]
    exact h.owned.acquire (h.pick_notMem ids)
  unreleased := fun id => by
    rw [releases_acquire]
    exact h.unreleased id

/-- Without a blob it is listed too. -/
theorem Inv.unmade (h : Inv s) (data : DrmModeModeInfo) :
    Inv { s with currentMode := some ⟨data, 0⟩, modeList := ⟨data, 0⟩ :: s.modeList } where
  atomic := h.atomic
  listed := fun mode hmode => by
    obtain rfl := Option.some.inj hmode
    exact List.mem_cons_self
  live := fun mode hmode hid => by
    cases List.mem_cons.mp hmode with
    | inl hnew => exact absurd (hnew ▸ rfl) hid
    | inr hold => exact h.live mode hold hid
  owned := by
    have hids : blobIds (⟨data, 0⟩ :: s.modeList) = blobIds s.modeList := by simp [blobIds]
    rw [hids]
    exact h.owned
  unreleased := h.unreleased

theorem ensureBlob_inv (ids : FbIds) (s : CrtcModes) (c : Ensure) (h : Inv s) :
    Inv (ensure ids s c) := by
  by_cases hhit : Hit s c
  · rw [ensure, ensureBlob_hit hhit]
    exact h
  · rw [ensure, ensureBlob_miss hhit]
    cases hcalloc : c.allocOk with
    | false => exact h
    | true =>
        unfold drmModeCreatePropertyBlob
        by_cases hret : c.createRet = 0
        · rw [if_pos hret]
          exact h.made ids c.modeInfo
        · rw [if_neg hret]
          exact h.unmade c.modeInfo

/-- One call tells the truth exactly when it does not hit a mode without a blob. -/
theorem ensured_iff (ids : FbIds) (s : CrtcModes) (c : Ensure) (h : Inv s) :
    Ensured ids s c ↔ NotStale s c := by
  have hnext := ensureBlob_inv ids s c h
  by_cases hhit : Hit s c
  · obtain ⟨mode, hmode, hsame⟩ := id hhit
    rw [Ensured, ensure, ensureBlob_hit hhit]
    constructor
    · intro hens other hother _
      obtain ⟨found, hfound, -, hne, -⟩ := hens rfl
      rw [Option.some.inj (hother.symm.trans hfound)]
      exact hne
    · intro hstale _
      have hne := hstale mode hmode hsame
      exact ⟨mode, hmode, hsame, hne, hsame ▸ h.live mode (h.listed mode hmode) hne⟩
  · have hnot : NotStale s c := fun mode hmode hsame => absurd ⟨mode, hmode, hsame⟩ hhit
    refine iff_of_true (fun hzero => ?_) hnot
    rw [ensureBlob_miss hhit] at hzero
    cases hcalloc : c.allocOk with
    | false =>
        rw [hcalloc] at hzero
        cases hzero
    | true =>
        rw [hcalloc] at hzero
        have hret : c.createRet = 0 := hzero
        have hcurrent : (ensure ids s c).currentMode =
            some ⟨c.modeInfo, ids.pick (s.blobs.map Prod.fst)⟩ := by
          rw [ensure, ensureBlob_miss hhit, hcalloc, drmModeCreatePropertyBlob, if_pos hret]
          rfl
        have hlive := hnext.live _ (hnext.listed _ hcurrent) (ids.ne_zero _)
        exact ⟨_, hcurrent, rfl, ids.ne_zero _, hlive⟩

theorem foldl_destroy_log (modes : List DrmmodeMode) (s : CrtcModes) :
    (modes.foldl drmModeDestroy s).log = ((blobIds modes).map .release).reverse ++ s.log := by
  induction modes generalizing s with
  | nil => rfl
  | cons mode rest ih =>
      rw [List.foldl_cons, ih]
      by_cases hzero : mode.blobId = 0
      · simp [blobIds, drmModeDestroy, hzero]
      · simp [blobIds, drmModeDestroy, drmModeDestroyPropertyBlob, hzero]

/-- The destruction of a CRTC gives back every blob once. -/
theorem destroy_releases (h : Inv s) : DestroysAll s := by
  have hlog : (drmmodeCrtcDestroy s).log =
      ((blobIds s.modeList).map .release).reverse ++ s.log := by
    rw [drmmodeCrtcDestroy, h.atomic]
    exact foldl_destroy_log s.modeList s
  have howned : Owns s.log (↑(blobIds s.modeList) + (0 : Multiset Nat)) := by
    rw [Multiset.add_zero]
    exact h.owned
  have hend := howned.releases
  rw [← hlog] at hend
  intro id
  have hheld := h.owned.lawful.acquires_eq id
  have hcount := List.nodup_iff_count_le_one.mp h.owned.lawful.held_nodup id
  have hbefore := h.unreleased id
  have hafter := hend.lawful.acquires_eq id
  have hnone : (held (drmmodeCrtcDestroy s).log).count id = 0 :=
    List.count_eq_zero.mpr fun hin => by simpa using hend.mem_held.mp hin
  have hmade : acquires (drmmodeCrtcDestroy s).log id = acquires s.log id := by
    rw [hlog, acquires, List.count_append, List.count_eq_zero.mpr (by simp), Nat.zero_add]
    rfl
  omega

theorem fresh_inv (blobs : List (Nat × DrmModeModeInfo)) : Inv (fresh blobs) where
  atomic := rfl
  listed := fun mode hmode => by cases hmode
  live := fun mode hmode => by cases hmode
  owned := ⟨lawful_nil, rfl⟩
  unreleased := fun _ => rfl

/-- **The cached blob is that of the mode** in a run exactly when no call asks for the current
mode again after its blob could not be made; all blobs go with the CRTC in any case. -/
theorem ensured_run_iff (ids : FbIds) (blobs : List (Nat × DrmModeModeInfo))
    (calls : List Ensure) :
    (Guarded (ensure ids) (Ensured ids) (fresh blobs) calls ∧
        DestroysAll (run (ensure ids) (fresh blobs) calls)) ↔
      Guarded (ensure ids) NotStale (fresh blobs) calls := by
  have hend := run_of_step (ensureBlob_inv ids) (fresh_inv blobs) calls
  rw [and_iff_left (destroy_releases hend)]
  exact guarded_congr (ensureBlob_inv ids) (ensured_iff ids) (fresh_inv blobs) calls

end Runs

/-- **A retry takes the failure for a blob**: the kernel refuses the blob of a mode, and the
next call for this mode returns zero without one. -/
theorem retry_returns_no_blob :
    let refused := drmModeEnsureBlob .above (fresh []) ⟨[1], true, -12⟩
    let retried := drmModeEnsureBlob .above refused.1 ⟨[1], true, 0⟩
    refused.2 = -12 ∧ retried.2 = 0 ∧ retried.1.currentMode = some ⟨[1], 0⟩ ∧
      retried.1.blobs = [] ∧ ¬ Ensured .above refused.1 ⟨[1], true, 0⟩ := by
  refine ⟨by decide, by decide, by decide, by decide, fun h => ?_⟩
  obtain ⟨mode, hmode, -, hne, -⟩ := h (by decide)
  obtain rfl : ⟨[1], 0⟩ = mode := Option.some.inj hmode
  exact hne rfl

end LoongsonVideo.Driver.ModeBlob
