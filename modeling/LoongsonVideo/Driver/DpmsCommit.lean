import LoongsonVideo.Verified.Machine

/-!
# Pending mode sets and DPMS

`drmmode_set_dpms` of `src/drmmode_display.c` builds one atomic request for all CRTCs, makes up
for mode sets that are pending on the way, commits it, and lets the server call the DPMS hooks
of all outputs, which may set a mode again.  Requests have their values here, and every commit
is kept with the kernel's answer.

* `buildDpms_spec`: what the request has for a CRTC whose mode set is made up for.
* `hookStep_cases`: what a hook can do to a pending mode set.
* `pending_forgotten_iff`: when a pending mode set is only forgotten once it was done.
-/

namespace LoongsonVideo.Driver.DpmsCommit

open LoongsonVideo.Verified.Machine

/-- The kernel's objects: the connector of an output, a CRTC and its plane, by their numbers
in the driver. -/
inductive Target where
  | connector (k : Nat)
  | crtc (c : Nat)
  | plane (c : Nat)
  deriving DecidableEq, Repr

/-- The properties of all three. -/
inductive Property where
  | crtcId | active | modeId | fbId | srcX | srcY | srcW | srcH | crtcX | crtcY | crtcW | crtcH
  deriving DecidableEq, Repr

/-- An entry of an atomic request. -/
structure Entry where
  target : Target
  property : Property
  value : UInt64
  deriving DecidableEq, Repr

/-- A request while it is filled; `ret == 0` is `good`. -/
structure Draft where
  req : List Entry
  good : Bool
  deriving DecidableEq, Repr

/-- A request that was made and the kernel's answer. -/
structure Commit where
  request : List Entry
  testOnly : Bool
  accepted : Bool
  deriving DecidableEq, Repr

/-- An output.  It is `attached` unless its `output_id` is -1, and `modeOutput` is whether it
has a `mode_output`. -/
structure Output where
  crtc : Option Nat
  currentCrtc : Option Nat
  attached : Bool
  modeOutput : Bool
  deriving DecidableEq, Repr

/-- A shared pixmap of a CRTC: the framebuffer of the pixmap and its place. -/
structure Prime where
  fbId : UInt32
  x : Int32
  deriving DecidableEq, Repr

/-- A CRTC: its id, position and size of the mode, and where its framebuffer is. -/
structure Crtc where
  crtcId : UInt32
  x : Int32
  y : Int32
  hDisplay : Int32
  vDisplay : Int32
  prime : Option Prime
  rotateFbId : UInt32
  needModeset : Bool
  deriving DecidableEq, Repr

/-- The id of a framebuffer that the kernel has made. -/
abbrev FbId := { id : UInt32 // id ≠ 0 }

/-- The screen.  `known` says that neither the object's id nor the property's is 0; the commits
have the newest first. -/
structure Screen where
  outputs : List Output
  crtcs : Nat → Crtc
  numCrtc : Nat
  known : Target → Property → Bool
  fbId : UInt32
  reversePrimeOffloadMode : Bool
  pendingModeset : Bool
  commits : List Commit

def Screen.setNeedModeset (s : Screen) (c : Nat) (needModeset : Bool) : Screen :=
  { s with crtcs := Function.update s.crtcs c { s.crtcs c with needModeset := needModeset } }

def Screen.setRotateFbId (s : Screen) (c : Nat) (rotateFbId : UInt32) : Screen :=
  { s with crtcs := Function.update s.crtcs c { s.crtcs c with rotateFbId := rotateFbId } }

/-! ## Requests -/

/-- `drmModeAtomicAddProperty` and what its callers make of `ret`.  `memory` says whether there
is room for one more entry. -/
def addProp (s : Screen) (memory : Nat → Bool) (draft : Draft) (e : Entry) : Draft :=
  if s.known e.target e.property && memory draft.req.length then
    { draft with req := draft.req ++ [e] }
  else { draft with good := false }

/-- Several, with `ret |=`. -/
def addProps (s : Screen) (memory : Nat → Bool) (entries : List Entry) (draft : Draft) : Draft :=
  entries.foldl (addProp s memory) draft

/-- What `drm_mode_ensure_blob` leaves: whether it returned 0, and the id of the mode's blob. -/
structure Blob where
  ok : Bool
  id : UInt32
  deriving DecidableEq, Repr

/-- The loop of `crtc_add_dpms_props`, for output `k`.  `crtc_active` is what `on` is once the
output counts. -/
def connectorEntry (s : Screen) (c : Nat) (on : Bool) (x : Output × Nat) : Option Entry :=
  if x.1.crtc ≠ some c then
    if x.1.currentCrtc = some c then some ⟨.connector x.2, .crtcId, 0⟩ else none
  else if !x.1.attached then none
  else some ⟨.connector x.2, .crtcId, if on then (s.crtcs c).crtcId.toUInt64 else 0⟩

/-- `crtc_active` of `crtc_add_dpms_props`. -/
def crtcActive (s : Screen) (c : Nat) (on : Bool) : Bool :=
  on && s.outputs.any fun output => output.crtc == some c && output.attached

/-- `crtc_add_dpms_props`. -/
def crtcAddDpmsProps (s : Screen) (memory : Nat → Bool) (c : Nat) (on : Bool) (blob : Blob)
    (draft : Draft) : Draft :=
  let draft := addProps s memory (s.outputs.zipIdx.filterMap (connectorEntry s c on)) draft
  if crtcActive s c on then
    addProps s memory [⟨.crtc c, .active, 1⟩, ⟨.crtc c, .modeId, blob.id.toUInt64⟩]
      { draft with good := draft.good && blob.ok }
  else addProps s memory [⟨.crtc c, .active, 0⟩, ⟨.crtc c, .modeId, 0⟩] draft

/-- What `drmmode_crtc_get_fb_id` finds: the framebuffer and the place in it. -/
structure Shown where
  fbId : UInt32
  x : Int32
  y : Int32
  deriving DecidableEq, Repr

/-- `drmmode_crtc_get_fb_id` before the import. -/
def crtcShown (s : Screen) (crtc : Crtc) : Shown :=
  match crtc.prime with
  | some prime => if !s.reversePrimeOffloadMode then ⟨prime.fbId, 0, 0⟩ else ⟨0, prime.x, 0⟩
  | none => if crtc.rotateFbId ≠ 0 then ⟨crtc.rotateFbId, 0, 0⟩ else ⟨s.fbId, crtc.x, crtc.y⟩

/-- `drmmode_crtc_get_fb_id`, `none` for `FALSE`.  `importFb` is what `drmmode_bo_import` makes. -/
def drmmodeCrtcGetFbId (s : Screen) (c : Nat) (importFb : Option FbId) : Screen × Option Shown :=
  let shown := crtcShown s (s.crtcs c)
  if shown.fbId = 0 then
    match importFb with
    | none => (s, none)
    | some id => ({ s with fbId := id.val }, some { shown with fbId := id.val })
  else (s, some shown)

/-- `x << 16`, made a `uint64_t`. -/
def fixed (x : Int32) : UInt64 := (x <<< 16).toInt64.toUInt64

/-- What `plane_add_props` adds. -/
def planeEntries (s : Screen) (c : Nat) (shown : Shown) : List Entry :=
  let crtc := s.crtcs c
  [⟨.plane c, .fbId, shown.fbId.toUInt64⟩,
    ⟨.plane c, .crtcId, if shown.fbId ≠ 0 then crtc.crtcId.toUInt64 else 0⟩,
    ⟨.plane c, .srcX, fixed shown.x⟩, ⟨.plane c, .srcY, fixed shown.y⟩,
    ⟨.plane c, .srcW, fixed crtc.hDisplay⟩, ⟨.plane c, .srcH, fixed crtc.vDisplay⟩,
    ⟨.plane c, .crtcX, 0⟩, ⟨.plane c, .crtcY, 0⟩,
    ⟨.plane c, .crtcW, crtc.hDisplay.toInt64.toUInt64⟩,
    ⟨.plane c, .crtcH, crtc.vDisplay.toInt64.toUInt64⟩]

/-- The properties of a plane that are set. -/
def planeProperties : List Property :=
  [.fbId, .crtcId, .srcX, .srcY, .srcW, .srcH, .crtcX, .crtcY, .crtcW, .crtcH]

/-- `plane_add_props`. -/
def planeAddProps (s : Screen) (memory : Nat → Bool) (c : Nat) (shown : Shown) (draft : Draft) :
    Draft := addProps s memory (planeEntries s c shown) draft

/-! ## drmmode_crtc_set_mode -/

/-- The answers of one `drmmode_crtc_set_mode`. -/
structure SetAnswer where
  importFb : Option FbId
  reqOk : Bool
  memory : Nat → Bool
  blob : Blob
  commitOk : Bool

/-- What a mode set of `c` adds for `other`, if that loses its outputs. -/
def orphanEntries (s : Screen) (c other : Nat) : List Entry :=
  let lost := s.outputs.countP fun output =>
    output.currentCrtc = some other ∧ output.crtc = some c
  let remaining := s.outputs.countP fun output =>
    output.currentCrtc = some other ∧ output.crtc ≠ some c
  if other ≠ c ∧ lost > 0 ∧ remaining = 0 then
    [⟨.crtc other, .active, 0⟩, ⟨.crtc other, .modeId, 0⟩]
  else []

/-- The request of `drmmode_crtc_set_mode`. -/
def setModeDraft (s : Screen) (c : Nat) (shown : Shown) (a : SetAnswer) : Draft :=
  let draft := crtcAddDpmsProps s a.memory c true a.blob ⟨[], true⟩
  let shown := if crtcActive s c true then shown else { shown with fbId := 0 }
  let draft := planeAddProps s a.memory c shown draft
  addProps s a.memory ((List.range s.numCrtc).flatMap (orphanEntries s c)) draft

/-- What a mode set does to an output's `current_crtc`. -/
def Output.takeCrtc (c : Nat) (output : Output) : Output :=
  if output.crtc = some c then { output with currentCrtc := some c }
  else if output.currentCrtc = some c then { output with currentCrtc := none }
  else output

/-- A request goes to the kernel. -/
def Screen.commit (s : Screen) (draft : Draft) (testOnly accepted : Bool) : Screen :=
  { s with commits := ⟨draft.req, testOnly, accepted⟩ :: s.commits }

/-- `drmmode_crtc_set_mode` with atomic mode setting; it returns zero for `true`. -/
def drmmodeCrtcSetMode (s : Screen) (c : Nat) (testOnly : Bool) (a : SetAnswer) : Screen × Bool :=
  match drmmodeCrtcGetFbId s c a.importFb with
  | (s, none) => (s, false)
  | (s, some shown) =>
      if !a.reqOk then (s, false)
      else
        let draft := setModeDraft s c shown a
        if !draft.good then (s, false)
        else
          let s := s.commit draft testOnly a.commitOk
          if a.commitOk && !testOnly then
            ({ s with outputs := s.outputs.map (Output.takeCrtc c) }, true)
          else (s, a.commitOk)

/-! ## The hooks -/

/-- The answers of one `drmmode_set_mode_major`: to `xf86CrtcRotate`, which may make or destroy
the buffer for the rotation and leaves its framebuffer, to the test and to the real mode set. -/
structure MajorAnswer where
  rotateOk : Bool
  rotateFbId : UInt32
  first : SetAnswer
  real : SetAnswer

/-- `drmmode_set_mode_major` with what the CRTC has.  The hooks of its outputs find no mode set
pending any more. -/
def drmmodeSetModeMajor (s : Screen) (c : Nat) (a : MajorAnswer) : Screen :=
  let s := s.setRotateFbId c a.rotateFbId
  if !a.rotateOk then s
  else
    match drmmodeCrtcSetMode s c true a.first with
    | (s, false) => s
    | (s, true) =>
        let s := ({ s with pendingModeset := true } : Screen).setNeedModeset c false
        { (drmmodeCrtcSetMode s c false a.real).1 with pendingModeset := false }

/-- The request of `drmmode_output_disable`. -/
def disableDraft (s : Screen) (k : Nat) (output : Output) (a : SetAnswer) : Draft :=
  let draft := addProp s a.memory ⟨[], true⟩ ⟨.connector k, .crtcId, 0⟩
  match output.currentCrtc with
  | none => draft
  | some c => crtcAddDpmsProps s a.memory c false a.blob draft

/-- `drmmode_output_disable`. -/
def drmmodeOutputDisable (s : Screen) (k : Nat) (a : SetAnswer) : Screen :=
  match s.outputs[k]? with
  | none => s
  | some output =>
      if !a.reqOk then s
      else if !(disableDraft s k output a).good then s
      else
        let s := s.commit (disableDraft s k output a) false a.commitOk
        if a.commitOk then
          { s with outputs := s.outputs.set k { output with currentCrtc := none } }
        else s

/-- `drmmode_output_dpms`. -/
def drmmodeOutputDpms (s : Screen) (k : Nat) (on : Bool) (disable : SetAnswer) (a : MajorAnswer) :
    Screen :=
  match s.outputs[k]? with
  | none => s
  | some output =>
      if !output.modeOutput then s
      else
        let s := if !on && !s.pendingModeset then drmmodeOutputDisable s k disable else s
        match output.crtc with
        | none => s
        | some c =>
            if on && (s.crtcs c).needModeset then drmmodeSetModeMajor s c a else s

/-- `drmmode_crtc_disable`. -/
def drmmodeCrtcDisable (s : Screen) (c : Nat) (a : SetAnswer) : Screen :=
  if !a.reqOk then s
  else
    let draft := addProps s a.memory [⟨.crtc c, .active, 0⟩, ⟨.crtc c, .modeId, 0⟩] ⟨[], true⟩
    if !draft.good then s else s.commit draft false a.commitOk

/-- `drmmode_crtc_dpms`. -/
def drmmodeCrtcDpms (s : Screen) (c : Nat) (on : Bool) (a : SetAnswer) : Screen :=
  if !on && !s.pendingModeset then drmmodeCrtcDisable s c a else s

/-- A hook that `xf86DPMSSet` calls. -/
inductive Hook where
  | output (k : Nat) (disable : SetAnswer) (a : MajorAnswer)
  | crtc (c : Nat) (a : SetAnswer)

def hookStep (on : Bool) (s : Screen) : Hook → Screen
  | .output k disable a => drmmodeOutputDpms s k on disable a
  | .crtc c a => drmmodeCrtcDpms s c on a

/-! ## drmmode_set_dpms -/

/-- The answers of one `drmmode_set_dpms`, per CRTC for the blob and the import. -/
structure DpmsAnswer where
  reqOk : Bool
  memory : Nat → Bool
  blob : Nat → Blob
  importFb : Nat → Option FbId
  commitOk : Bool

/-- The first loop, for one output: `ret` is set anew, not added to. -/
def unusedStep (s : Screen) (memory : Nat → Bool) (draft : Draft) (x : Output × Nat) : Draft :=
  if x.1.crtc ≠ none then draft
  else addProp s memory { draft with good := true } ⟨.connector x.2, .crtcId, 0⟩

/-- The screen and the request while it is built. -/
structure Building where
  screen : Screen
  draft : Draft

/-- The second loop, for CRTC `c`. -/
def crtcStep (on : Bool) (a : DpmsAnswer) (b : Building) (c : Nat) : Building :=
  let draft := crtcAddDpmsProps b.screen a.memory c on (a.blob c) b.draft
  if on && crtcActive b.screen c on && (b.screen.crtcs c).needModeset then
    match drmmodeCrtcGetFbId b.screen c (a.importFb c) with
    | (s, none) => ⟨s, draft⟩
    | (s, some shown) => ⟨s.setNeedModeset c false, planeAddProps s a.memory c shown draft⟩
  else ⟨b.screen, draft⟩

/-- The loops of `drmmode_set_dpms`, the second up to CRTC `n`. -/
def buildDpms (s : Screen) (on : Bool) (a : DpmsAnswer) (n : Nat) : Building :=
  run (crtcStep on a) ⟨s, s.outputs.zipIdx.foldl (unusedStep s a.memory) ⟨[], true⟩⟩ (List.range n)

/-- The screen after the commit, when the hooks are called. -/
def committed (s : Screen) (on : Bool) (a : DpmsAnswer) : Screen :=
  let b := buildDpms s on a s.numCrtc
  let s := if b.draft.good then b.screen.commit b.draft false a.commitOk else b.screen
  { s with pendingModeset := true }

/-- `drmmode_set_dpms`, with the commits that it makes.  `hooks` are what `xf86DPMSSet` calls. -/
def drmmodeSetDpms (s : Screen) (on : Bool) (a : DpmsAnswer) (hooks : List Hook) : Screen :=
  let s : Screen := { s with commits := [] }
  if !a.reqOk then s
  else { run (hookStep on) (committed s on a) hooks with pendingModeset := false }

/-! ## What a request has -/

/-- **A real mode set** for a CRTC: `ACTIVE` is 1, there is a `MODE_ID`, and all properties of
the plane are there, with a framebuffer. -/
structure Lights (request : List Entry) (c : Nat) : Prop where
  active : ⟨.crtc c, .active, 1⟩ ∈ request
  modeId : ∃ blob, ⟨.crtc c, .modeId, blob⟩ ∈ request
  plane : ∀ property ∈ planeProperties, ∃ value, ⟨.plane c, property, value⟩ ∈ request
  fbId : ∃ fbId, fbId ≠ 0 ∧ ⟨.plane c, .fbId, fbId⟩ ∈ request

/-- A draft only grows, and is not good again. -/
structure Grown (draft draft' : Draft) : Prop where
  good : draft'.good = true → draft.good = true
  keeps : ∀ e ∈ draft.req, e ∈ draft'.req

theorem Grown.refl (draft : Draft) : Grown draft draft := ⟨id, fun _ h => h⟩

theorem Grown.trans {draft draft' draft'' : Draft} (h : Grown draft draft')
    (h' : Grown draft' draft'') : Grown draft draft'' :=
  ⟨fun hgood => h.good (h'.good hgood), fun e he => h'.keeps e (h.keeps e he)⟩

theorem Grown.lights {draft draft' : Draft} {c : Nat} (h : Grown draft draft')
    (hlights : Lights draft.req c) : Lights draft'.req c where
  active := h.keeps _ hlights.active
  modeId := hlights.modeId.imp fun _ hmem => h.keeps _ hmem
  plane := fun property hp => (hlights.plane property hp).imp fun _ hmem => h.keeps _ hmem
  fbId := hlights.fbId.imp fun _ hmem => ⟨hmem.1, h.keeps _ hmem.2⟩

section Requests

variable {s : Screen} {memory : Nat → Bool} {c : Nat} {on : Bool} {blob : Blob} {draft : Draft}
  {shown : Shown} {x : Entry}

theorem addProp_grown (draft : Draft) (e : Entry) : Grown draft (addProp s memory draft e) := by
  rw [addProp]
  split
  · exact ⟨id, fun x hx => List.mem_append_left _ hx⟩
  · exact ⟨fun h => absurd h Bool.false_ne_true, fun _ h => h⟩

theorem addProp_good {e : Entry} (h : (addProp s memory draft e).good = true) :
    e ∈ (addProp s memory draft e).req := by
  rw [addProp] at h ⊢
  by_cases hroom : (s.known e.target e.property && memory draft.req.length) = true
  · rw [if_pos hroom]
    exact List.mem_append_right _ (List.mem_singleton_self e)
  · rw [if_neg hroom] at h
    exact absurd h Bool.false_ne_true

theorem addProp_mem {e : Entry} (h : x ∈ (addProp s memory draft e).req) :
    x ∈ draft.req ∨ x = e := by
  rw [addProp] at h
  split at h
  · simpa using h
  · exact Or.inl h

theorem addProps_grown (s : Screen) (memory : Nat → Bool) (entries : List Entry) (draft : Draft) :
    Grown draft (addProps s memory entries draft) := by
  induction entries generalizing draft with
  | nil => exact Grown.refl draft
  | cons e rest ih => exact (addProp_grown draft e).trans (ih _)

theorem addProps_good {entries : List Entry} (h : (addProps s memory entries draft).good = true) :
    ∀ e ∈ entries, e ∈ (addProps s memory entries draft).req := by
  induction entries generalizing draft with
  | nil => exact fun e he => absurd he List.not_mem_nil
  | cons e rest ih =>
      have hrest := addProps_grown s memory rest (addProp s memory draft e)
      have hfirst := hrest.keeps e (addProp_good (hrest.good h))
      exact List.forall_mem_cons.mpr ⟨hfirst, ih h⟩

theorem addProps_mem {entries : List Entry} (h : x ∈ (addProps s memory entries draft).req) :
    x ∈ draft.req ∨ x ∈ entries := by
  induction entries generalizing draft with
  | nil => exact Or.inl h
  | cons e rest ih =>
      rcases ih h with hfirst | hrest
      · rcases addProp_mem hfirst with hold | rfl
        · exact Or.inl hold
        · exact Or.inr List.mem_cons_self
      · exact Or.inr (List.mem_cons_of_mem e hrest)

theorem dpmsProps_grown (s : Screen) (memory : Nat → Bool) (c : Nat) (on : Bool) (blob : Blob)
    (draft : Draft) : Grown draft (crtcAddDpmsProps s memory c on blob draft) := by
  have hconnectors := addProps_grown s memory
    (s.outputs.zipIdx.filterMap (connectorEntry s c on)) draft
  rw [crtcAddDpmsProps]
  split
  · have hblob : Grown
        (addProps s memory (s.outputs.zipIdx.filterMap (connectorEntry s c on)) draft)
        { addProps s memory (s.outputs.zipIdx.filterMap (connectorEntry s c on)) draft with
          good := (addProps s memory (s.outputs.zipIdx.filterMap (connectorEntry s c on))
            draft).good && blob.ok } :=
      ⟨fun h => (Bool.and_eq_true_iff.mp h).1, fun _ h => h⟩
    exact (hconnectors.trans hblob).trans (addProps_grown s memory _ _)
  · exact hconnectors.trans (addProps_grown s memory _ _)

theorem dpmsProps_good (hactive : crtcActive s c on = true)
    (h : (crtcAddDpmsProps s memory c on blob draft).good = true) :
    ⟨.crtc c, .active, 1⟩ ∈ (crtcAddDpmsProps s memory c on blob draft).req ∧
      ∃ id, ⟨.crtc c, .modeId, id⟩ ∈ (crtcAddDpmsProps s memory c on blob draft).req := by
  rw [crtcAddDpmsProps, if_pos hactive] at h ⊢
  have hall := addProps_good h
  exact ⟨hall _ List.mem_cons_self, _, hall _ (List.mem_cons_of_mem _ List.mem_cons_self)⟩

/-- What is added is for connectors and the CRTC, which is only on when it is active. -/
theorem dpmsProps_mem (h : x ∈ (crtcAddDpmsProps s memory c on blob draft).req) :
    x ∈ draft.req ∨ (∃ k, x.target = .connector k) ∨
      x.target = .crtc c ∧ (x = ⟨.crtc c, .active, 1⟩ → crtcActive s c on = true) := by
  have hconnectors : ∀ x,
      x ∈ (addProps s memory (s.outputs.zipIdx.filterMap (connectorEntry s c on)) draft).req →
        x ∈ draft.req ∨ ∃ k, x.target = .connector k := by
    intro x hx
    refine (addProps_mem hx).imp_right fun hentry => ?_
    obtain ⟨y, _, hy⟩ := List.mem_filterMap.mp hentry
    rw [connectorEntry] at hy
    split at hy
    · split at hy
      · exact ⟨y.2, (Option.some.inj hy) ▸ rfl⟩
      · cases hy
    · split at hy
      · cases hy
      · exact ⟨y.2, (Option.some.inj hy) ▸ rfl⟩
  rw [crtcAddDpmsProps] at h
  split at h
  · next hactive =>
      rcases addProps_mem h with hold | hnew
      · exact (hconnectors x hold).imp_right Or.inl
      · simp only [List.mem_cons, List.not_mem_nil, or_false] at hnew
        refine Or.inr (Or.inr ⟨?_, fun _ => hactive⟩)
        rcases hnew with rfl | rfl
        · rfl
        · rfl
  · rcases addProps_mem h with hold | hnew
    · exact (hconnectors x hold).imp_right Or.inl
    · simp only [List.mem_cons, List.not_mem_nil, or_false] at hnew
      refine Or.inr (Or.inr ?_)
      rcases hnew with rfl | rfl
      · exact ⟨rfl, fun h => by cases h⟩
      · exact ⟨rfl, fun h => by cases h⟩

theorem planeEntries_target (h : x ∈ planeEntries s c shown) : x.target = .plane c := by
  simp only [planeEntries, List.mem_cons, List.not_mem_nil, or_false] at h
  rcases h with rfl | rfl | rfl | rfl | rfl | rfl | rfl | rfl | rfl | rfl <;> rfl

theorem planeProps_mem (h : x ∈ (planeAddProps s memory c shown draft).req) :
    x ∈ draft.req ∨ x.target = .plane c :=
  (addProps_mem h).imp_right planeEntries_target

/-- A good request has the plane with its framebuffer. -/
theorem planeProps_good (hfb : shown.fbId ≠ 0)
    (h : (planeAddProps s memory c shown draft).good = true) :
    (∀ property ∈ planeProperties,
        ∃ value, ⟨.plane c, property, value⟩ ∈ (planeAddProps s memory c shown draft).req) ∧
      ∃ fbId, fbId ≠ 0 ∧ ⟨.plane c, .fbId, fbId⟩ ∈ (planeAddProps s memory c shown draft).req := by
  have hall := addProps_good h
  constructor
  · intro property hproperty
    have hnames : planeProperties = (planeEntries s c shown).map Entry.property := rfl
    rw [hnames] at hproperty
    obtain ⟨e, he, rfl⟩ := List.mem_map.mp hproperty
    exact ⟨e.value, planeEntries_target he ▸ hall e he⟩
  · refine ⟨shown.fbId.toUInt64, fun hzero => hfb ?_, hall _ List.mem_cons_self⟩
    have hnat := congrArg UInt64.toNat hzero
    rw [UInt32.toNat_toUInt64] at hnat
    exact UInt32.toNat_inj.mp hnat

/-- The request of a mode set lights the CRTC exactly when it is active. -/
theorem setModeDraft_lights_iff {a : SetAnswer} (hfb : shown.fbId ≠ 0)
    (h : (setModeDraft s c shown a).good = true) :
    Lights (setModeDraft s c shown a).req c ↔ crtcActive s c true = true := by
  have horphans := addProps_grown s a.memory ((List.range s.numCrtc).flatMap (orphanEntries s c))
  constructor
  · intro hlights
    rcases addProps_mem hlights.active with hmem | horphan
    · rcases planeProps_mem hmem with hmem | hplane
      · rcases dpmsProps_mem hmem with hnone | ⟨k, hk⟩ | ⟨_, hactive⟩
        · exact absurd hnone List.not_mem_nil
        · cases hk
        · exact hactive rfl
      · cases hplane
    · obtain ⟨other, _, hentry⟩ := List.mem_flatMap.mp horphan
      rw [orphanEntries] at hentry
      split at hentry
      · simp at hentry
      · exact absurd hentry List.not_mem_nil
  · intro hactive
    rw [setModeDraft, if_pos hactive] at h ⊢
    have hplanes := (horphans _).good h
    have hdpms := (addProps_grown s a.memory (planeEntries s c shown) _).good hplanes
    obtain ⟨hon, hmode⟩ := dpmsProps_good hactive hdpms
    obtain ⟨hall, hshown⟩ := planeProps_good hfb hplanes
    have hkeeps := (addProps_grown s a.memory (planeEntries s c shown)
      (crtcAddDpmsProps s a.memory c true a.blob ⟨[], true⟩)).keeps
    exact (horphans _).lights ⟨hkeeps _ hon, hmode.imp fun _ hmem => hkeeps _ hmem, hall, hshown⟩

/-- Its only plane is that of the CRTC. -/
theorem setModeDraft_plane {a : SetAnswer} {j : Nat} (h : x ∈ (setModeDraft s c shown a).req)
    (hplane : x.target = .plane j) : j = c := by
  rcases addProps_mem h with hmem | horphan
  · rcases planeProps_mem hmem with hmem | htarget
    · rcases dpmsProps_mem hmem with hnone | ⟨k, hk⟩ | ⟨hcrtc, _⟩
      · exact absurd hnone List.not_mem_nil
      · rw [hplane] at hk
        cases hk
      · rw [hplane] at hcrtc
        cases hcrtc
    · rw [hplane] at htarget
      cases htarget
      rfl
  · obtain ⟨other, _, hentry⟩ := List.mem_flatMap.mp horphan
    rw [orphanEntries] at hentry
    split at hentry
    · simp only [List.mem_cons, List.not_mem_nil, or_false] at hentry
      rcases hentry with rfl | rfl
      · cases hplane
      · cases hplane
    · exact absurd hentry List.not_mem_nil

end Requests

/-! ## One mode set -/

section SetMode

variable {s t : Screen} {c : Nat} {shown : Shown}

theorem getFbId_frame (s : Screen) (c : Nat) (importFb : Option FbId) :
    ∃ id, (drmmodeCrtcGetFbId s c importFb).1 = { s with fbId := id } := by
  unfold drmmodeCrtcGetFbId
  dsimp only
  split
  · cases importFb with
    | none => exact ⟨s.fbId, rfl⟩
    | some id => exact ⟨id.val, rfl⟩
  · exact ⟨s.fbId, rfl⟩

theorem getFbId_found {importFb : Option FbId}
    (h : drmmodeCrtcGetFbId s c importFb = (t, some shown)) : shown.fbId ≠ 0 := by
  unfold drmmodeCrtcGetFbId at h
  dsimp only at h
  split at h
  · cases importFb with
    | none => cases h
    | some id =>
        obtain ⟨rfl, hshown⟩ := Prod.mk.inj h
        rw [← Option.some.inj hshown]
        exact id.property
  · next hfb =>
      obtain ⟨rfl, hshown⟩ := Prod.mk.inj h
      exact Option.some.inj hshown ▸ hfb

/-- A mode set is granted: there is a framebuffer, and the request is made and accepted. -/
def Granted (s : Screen) (c : Nat) (a : SetAnswer) : Prop :=
  ∃ t shown, drmmodeCrtcGetFbId s c a.importFb = (t, some shown) ∧ a.reqOk = true ∧
    (setModeDraft t c shown a).good = true ∧ a.commitOk = true

/-- The commits made between two states. -/
def New (s t : Screen) (later : List Commit) : Prop := t.commits = later ++ s.commits

/-- Only the plane of `c` is set for real. -/
def OnlyPlane (c : Nat) (commits : List Commit) : Prop :=
  ∀ commit ∈ commits, commit.testOnly = false → ∀ j value,
    ⟨.plane j, .fbId, value⟩ ∈ commit.request → j = c

/-- **The CRTC was set**: the kernel has accepted a real mode set for it. -/
def Lit (commits : List Commit) (c : Nat) : Prop :=
  ∃ commit ∈ commits, commit.testOnly = false ∧ commit.accepted = true ∧ Lights commit.request c

theorem Lit.plane {commits : List Commit} (h : Lit commits c) :
    ∃ commit ∈ commits, commit.testOnly = false ∧
      ∃ value, ⟨.plane c, .fbId, value⟩ ∈ commit.request := by
  obtain ⟨commit, hmem, hreal, _, hlights⟩ := h
  exact ⟨commit, hmem, hreal, hlights.fbId.imp fun _ hfb => hfb.2⟩

theorem takeCrtc_keeps (c : Nat) (output : Output) :
    (output.takeCrtc c).crtc = output.crtc ∧ (output.takeCrtc c).attached = output.attached := by
  rw [Output.takeCrtc]
  split
  · exact ⟨rfl, rfl⟩
  · split
    · exact ⟨rfl, rfl⟩
    · exact ⟨rfl, rfl⟩

/-- A CRTC stays active when outputs change their `current_crtc`. -/
theorem crtcActive_taken (c j : Nat) (h : t.outputs = s.outputs.map (Output.takeCrtc c)) :
    crtcActive t j true = crtcActive s j true := by
  rw [crtcActive, crtcActive, h, List.any_map]
  congr 2
  funext output
  obtain ⟨hcrtc, hattached⟩ := takeCrtc_keeps c output
  rw [Function.comp_apply, hcrtc, hattached]

/-- What one `drmmode_crtc_set_mode` does. -/
structure SetSpec (s : Screen) (c : Nat) (testOnly : Bool) (a : SetAnswer) (out : Screen × Bool) :
    Prop where
  crtcs : out.1.crtcs = s.crtcs
  active : ∀ j, crtcActive out.1 j true = crtcActive s j true
  granted : out.2 = true ↔ Granted s c a
  commits : ∃ later, New s out.1 later ∧ OnlyPlane c later ∧
    (∀ commit ∈ later, commit.testOnly = testOnly) ∧
    (testOnly = false → (Lit later c ↔ crtcActive s c true = true ∧ Granted s c a))

theorem not_lit_nil (c : Nat) : ¬Lit [] c := by
  rintro ⟨commit, hmem, _⟩
  exact List.not_mem_nil hmem

/-- Nothing is asked for. -/
theorem setSpec_nothing {a : SetAnswer} (testOnly : Bool) (hframe : ∃ id, t = { s with fbId := id })
    (hno : ¬Granted s c a) : SetSpec s c testOnly a (t, false) := by
  obtain ⟨id, rfl⟩ := hframe
  refine ⟨rfl, fun _ => rfl, iff_of_false Bool.false_ne_true hno, [], rfl, ?_, ?_, ?_⟩
  · exact fun _ h => absurd h List.not_mem_nil
  · exact fun _ h => absurd h List.not_mem_nil
  · exact fun _ => iff_of_false (not_lit_nil c) fun h => hno h.2

/-- The request goes to the kernel. -/
theorem setSpec_commit {a : SetAnswer} {testOnly : Bool} {out : Screen × Bool}
    (hfb : shown.fbId ≠ 0) (hactive : ∀ j, crtcActive t j true = crtcActive s j true)
    (hgranted : Granted s c a ↔ a.commitOk = true)
    (hgood : (setModeDraft t c shown a).good = true) (hcrtcs : out.1.crtcs = s.crtcs)
    (hout : ∀ j, crtcActive out.1 j true = crtcActive s j true)
    (hnew : New s out.1 [⟨(setModeDraft t c shown a).req, testOnly, a.commitOk⟩])
    (hok : out.2 = a.commitOk) : SetSpec s c testOnly a out := by
  have hlights := setModeDraft_lights_iff hfb hgood
  refine ⟨hcrtcs, hout, by rw [hok, hgranted], _, hnew, ?_, by simp, fun htest => ?_⟩
  · intro commit hcommit _ j value hmem
    rw [List.mem_singleton.mp hcommit] at hmem
    exact setModeDraft_plane hmem rfl
  · rw [hgranted, ← hactive, ← hlights]
    simp [Lit, htest, and_comm]

theorem crtcSetMode_spec (s : Screen) (c : Nat) (testOnly : Bool) (a : SetAnswer) :
    SetSpec s c testOnly a (drmmodeCrtcSetMode s c testOnly a) := by
  have hframe := getFbId_frame s c a.importFb
  unfold drmmodeCrtcSetMode
  cases hget : drmmodeCrtcGetFbId s c a.importFb with
  | mk t found =>
      rw [hget] at hframe
      cases found with
      | none =>
          refine setSpec_nothing testOnly hframe ?_
          rintro ⟨t', shown, hsome, _⟩
          rw [hget] at hsome
          cases hsome
      | some shown =>
          have hgranted : Granted s c a ↔
              a.reqOk = true ∧ (setModeDraft t c shown a).good = true ∧ a.commitOk = true := by
            constructor
            · rintro ⟨t', shown', hsome, h⟩
              rw [hget] at hsome
              cases hsome
              exact h
            · exact fun h => ⟨t, shown, hget, h⟩
          dsimp only
          cases hreq : a.reqOk with
          | false =>
              refine setSpec_nothing testOnly hframe fun h => ?_
              exact absurd (hreq.symm.trans (hgranted.mp h).1) Bool.false_ne_true
          | true =>
              cases hgood : (setModeDraft t c shown a).good with
              | false =>
                  refine setSpec_nothing testOnly hframe fun h => ?_
                  exact absurd (hgood.symm.trans (hgranted.mp h).2.1) Bool.false_ne_true
              | true =>
                  have hfb := getFbId_found hget
                  have hok : Granted s c a ↔ a.commitOk = true := by
                    rw [hgranted, hreq, hgood]
                    simp
                  obtain ⟨id, rfl⟩ := hframe
                  simp only [Bool.not_true, Bool.false_eq_true, if_false]
                  split
                  · next hreal =>
                      exact setSpec_commit hfb (fun _ => rfl) hok hgood rfl
                        (fun j => crtcActive_taken _ _ rfl) rfl
                        (Bool.and_eq_true_iff.mp hreal).1.symm
                  · exact setSpec_commit hfb (fun _ => rfl) hok hgood rfl (fun _ => rfl) rfl rfl

end SetMode

/-! ## One hook -/

section Hooks

variable {s t : Screen} {c : Nat}

/-- No plane is set for real. -/
def NoPlane (commits : List Commit) : Prop :=
  ∀ commit ∈ commits, commit.testOnly = false → ∀ j value,
    ⟨.plane j, .fbId, value⟩ ∉ commit.request

/-- Nothing becomes of pending mode sets. -/
structure Quiet (s t : Screen) : Prop where
  need : ∀ j, (t.crtcs j).needModeset = (s.crtcs j).needModeset
  commits : ∃ later, New s t later ∧ NoPlane later

/-- The pending mode set of `c` is no longer one; the kernel has accepted it if `fine`. -/
structure SetNow (s t : Screen) (c : Nat) (fine : Prop) : Prop where
  was : (s.crtcs c).needModeset = true
  need : ∀ j, (t.crtcs j).needModeset = if j = c then false else (s.crtcs j).needModeset
  commits : ∃ later, New s t later ∧ OnlyPlane c later ∧ (Lit later c ↔ fine)

theorem Quiet.refl (s : Screen) : Quiet s s :=
  ⟨fun _ => rfl, [], rfl, fun _ h => absurd h List.not_mem_nil⟩

/-- A single request without a plane. -/
theorem quiet_commit (draft : Draft) (accepted : Bool) (hcrtcs : t.crtcs = s.crtcs)
    (hcommits : New s t [⟨draft.req, false, accepted⟩])
    (hplane : ∀ e ∈ draft.req, ∀ j, e.target ≠ .plane j) : Quiet s t := by
  refine ⟨fun j => by rw [hcrtcs], _, hcommits, fun commit hmem _ j value hin => ?_⟩
  rw [List.mem_singleton.mp hmem] at hin
  exact hplane _ hin j rfl

theorem disableDraft_mem {k : Nat} {output : Output} {a : SetAnswer} {e : Entry}
    (h : e ∈ (disableDraft s k output a).req) (j : Nat) : e.target ≠ .plane j := by
  have hfirst : ∀ e ∈ (addProp s a.memory ⟨[], true⟩ ⟨.connector k, .crtcId, 0⟩).req,
      e.target = .connector k := by
    intro e he
    rcases addProp_mem he with hnone | rfl
    · exact absurd hnone List.not_mem_nil
    · rfl
  rw [disableDraft] at h
  split at h
  · rw [hfirst e h]
    exact fun heq => by cases heq
  · rcases dpmsProps_mem h with hmem | ⟨k', hk⟩ | ⟨hcrtc, _⟩
    · rw [hfirst e hmem]
      exact fun heq => by cases heq
    · rw [hk]
      exact fun heq => by cases heq
    · rw [hcrtc]
      exact fun heq => by cases heq

theorem outputDisable_quiet (s : Screen) (k : Nat) (a : SetAnswer) :
    Quiet s (drmmodeOutputDisable s k a) := by
  rw [drmmodeOutputDisable]
  split
  · exact Quiet.refl s
  · next output _ =>
      split
      · exact Quiet.refl s
      · split
        · exact Quiet.refl s
        · have hplane : ∀ e ∈ (disableDraft s k output a).req, ∀ j, e.target ≠ .plane j :=
            fun e he => disableDraft_mem he
          dsimp only
          split
          · exact quiet_commit _ a.commitOk rfl rfl hplane
          · exact quiet_commit _ a.commitOk rfl rfl hplane

theorem crtcDisable_quiet (s : Screen) (c : Nat) (a : SetAnswer) :
    Quiet s (drmmodeCrtcDisable s c a) := by
  rw [drmmodeCrtcDisable]
  split
  · exact Quiet.refl s
  · dsimp only
    split
    · exact Quiet.refl s
    · refine quiet_commit _ a.commitOk rfl rfl fun e he j => ?_
      rcases addProps_mem he with hnone | hentry
      · exact absurd hnone List.not_mem_nil
      · simp only [List.mem_cons, List.not_mem_nil, or_false] at hentry
        rcases hentry with rfl | rfl
        · exact fun heq => by cases heq
        · exact fun heq => by cases heq

/-- The test of a mode set succeeds. -/
def TestPasses (s : Screen) (c : Nat) (a : MajorAnswer) : Prop :=
  a.rotateOk = true ∧ Granted (s.setRotateFbId c a.rotateFbId) c a.first

/-- The screen after a test that was granted. -/
def tested (s : Screen) (c : Nat) (a : MajorAnswer) : Screen :=
  let s := (drmmodeCrtcSetMode (s.setRotateFbId c a.rotateFbId) c true a.first).1
  ({ s with pendingModeset := true } : Screen).setNeedModeset c false

theorem setRotateFbId_need (s : Screen) (c : Nat) (rotateFbId : UInt32) (j : Nat) :
    ((s.setRotateFbId c rotateFbId).crtcs j).needModeset = (s.crtcs j).needModeset := by
  rw [Screen.setRotateFbId]
  by_cases hj : j = c
  · rw [hj]
    simp
  · simp [hj]

theorem setRotateFbId_active (s : Screen) (c : Nat) (rotateFbId : UInt32) (j : Nat) :
    crtcActive (s.setRotateFbId c rotateFbId) j true = crtcActive s j true := rfl

theorem setModeMajor_refused {a : MajorAnswer} (hrotate : a.rotateOk = true)
    (h : (drmmodeCrtcSetMode (s.setRotateFbId c a.rotateFbId) c true a.first).2 = false) :
    drmmodeSetModeMajor s c a =
      (drmmodeCrtcSetMode (s.setRotateFbId c a.rotateFbId) c true a.first).1 := by
  rw [drmmodeSetModeMajor, hrotate]
  dsimp only
  generalize drmmodeCrtcSetMode (s.setRotateFbId c a.rotateFbId) c true a.first = out at h ⊢
  obtain ⟨t, ok⟩ := out
  obtain rfl : ok = false := h
  rfl

theorem setModeMajor_tested {a : MajorAnswer} (hrotate : a.rotateOk = true)
    (h : (drmmodeCrtcSetMode (s.setRotateFbId c a.rotateFbId) c true a.first).2 = true) :
    drmmodeSetModeMajor s c a =
      { (drmmodeCrtcSetMode (tested s c a) c false a.real).1 with pendingModeset := false } := by
  rw [drmmodeSetModeMajor, hrotate, tested]
  dsimp only
  generalize drmmodeCrtcSetMode (s.setRotateFbId c a.rotateFbId) c true a.first = out at h ⊢
  obtain ⟨t, ok⟩ := out
  obtain rfl : ok = true := h
  rfl

/-- The real mode set that follows the test. -/
theorem tested_setNow (a : MajorAnswer) (hwas : (s.crtcs c).needModeset = true) :
    SetNow s { (drmmodeCrtcSetMode (tested s c a) c false a.real).1 with pendingModeset := false } c
      (crtcActive s c true = true ∧ Granted (tested s c a) c a.real) := by
  have hfirst := crtcSetMode_spec (s.setRotateFbId c a.rotateFbId) c true a.first
  have hreal := crtcSetMode_spec (tested s c a) c false a.real
  obtain ⟨later, hnew, _, htests, _⟩ := hfirst.commits
  obtain ⟨after, hafter, honly, _, hlit⟩ := hreal.commits
  have hactive : crtcActive (tested s c a) c true = crtcActive s c true := by
    rw [← setRotateFbId_active s c a.rotateFbId]
    exact hfirst.active c
  have hno : ∀ commit ∈ later, commit.testOnly ≠ false := fun commit hmem hno =>
    absurd (hno.symm.trans (htests commit hmem)) Bool.false_ne_true
  refine ⟨hwas, fun j => ?_, after ++ later, ?_, ?_, ?_⟩
  · dsimp only
    rw [hreal.crtcs, tested, Screen.setNeedModeset, ← setRotateFbId_need s c a.rotateFbId,
      ← hfirst.crtcs]
    by_cases hj : j = c
    · rw [if_pos hj, hj]
      simp
    · rw [if_neg hj]
      simp [hj]
  · have htested : (tested s c a).commits = later ++ s.commits := hnew
    exact hafter.trans (by rw [htested, List.append_assoc])
  · intro commit hmem hreal' j value hin
    rcases List.mem_append.mp hmem with hafter' | hlater
    · exact honly commit hafter' hreal' j value hin
    · exact absurd hreal' (hno commit hlater)
  · rw [← hactive, ← hlit rfl]
    constructor
    · rintro ⟨commit, hmem, hreal', h⟩
      rcases List.mem_append.mp hmem with hafter' | hlater
      · exact ⟨commit, hafter', hreal', h⟩
      · exact absurd hreal' (hno commit hlater)
    · rintro ⟨commit, hmem, h⟩
      exact ⟨commit, List.mem_append_left _ hmem, h⟩

/-- **A pending mode set is made** for real when its test succeeds, or it stays pending. -/
theorem setModeMajor_cases {a : MajorAnswer} (hwas : (s.crtcs c).needModeset = true) :
    (¬TestPasses s c a ∧ Quiet s (drmmodeSetModeMajor s c a)) ∨
      (TestPasses s c a ∧ SetNow s (drmmodeSetModeMajor s c a) c
        (crtcActive s c true = true ∧ Granted (tested s c a) c a.real)) := by
  have hneed := setRotateFbId_need s c a.rotateFbId
  cases hrotate : a.rotateOk with
  | false =>
      refine Or.inl ⟨fun h => absurd (hrotate.symm.trans h.1) Bool.false_ne_true, ?_⟩
      rw [drmmodeSetModeMajor, hrotate]
      exact ⟨hneed, [], rfl, fun _ h => absurd h List.not_mem_nil⟩
  | true =>
      have hfirst := crtcSetMode_spec (s.setRotateFbId c a.rotateFbId) c true a.first
      cases hout : (drmmodeCrtcSetMode (s.setRotateFbId c a.rotateFbId) c true a.first).2 with
      | false =>
          rw [setModeMajor_refused hrotate hout]
          obtain ⟨later, hnew, _, htests, _⟩ := hfirst.commits
          refine Or.inl ⟨fun h => ?_, fun j => by rw [hfirst.crtcs, hneed], later, hnew, ?_⟩
          · exact absurd (hout.symm.trans (hfirst.granted.mpr h.2)) Bool.false_ne_true
          · intro commit hmem hno
            exact absurd (hno.symm.trans (htests commit hmem)) Bool.false_ne_true
      | true =>
          rw [setModeMajor_tested hrotate hout]
          exact Or.inr ⟨⟨hrotate, hfirst.granted.mp hout⟩, tested_setNow a hwas⟩

/-- The output and CRTC for which a hook may set a mode. -/
def Reaches (s : Screen) (k c : Nat) : Prop :=
  ∃ output, s.outputs[k]? = some output ∧ output.modeOutput = true ∧ output.crtc = some c

theorem Reaches.only {k c' : Nat} (h : Reaches s k c) (h' : Reaches s k c') : c = c' := by
  obtain ⟨output, hk, _, hcrtc⟩ := h
  obtain ⟨other, hk', _, hcrtc'⟩ := h'
  obtain rfl := Option.some.inj (hk.symm.trans hk')
  exact Option.some.inj (hcrtc.symm.trans hcrtc')

/-- **The condition** on a hook: a pending mode set whose test is granted is granted for real,
for a CRTC with an output. -/
def HookFine (on : Bool) (s : Screen) : Hook → Prop
  | .crtc _ _ => True
  | .output k _ a =>
      on = true → ∀ c, Reaches s k c → (s.crtcs c).needModeset = true →
        TestPasses s c a → crtcActive s c true = true ∧ Granted (tested s c a) c a.real

theorem outputDpms_off (s : Screen) (k : Nat) (disable : SetAnswer) (a : MajorAnswer) :
    Quiet s (drmmodeOutputDpms s k false disable a) := by
  rw [drmmodeOutputDpms]
  split
  · exact Quiet.refl s
  · next output _ =>
      split
      · exact Quiet.refl s
      · have hquiet : Quiet s
            (if !false && !s.pendingModeset then drmmodeOutputDisable s k disable else s) := by
          split
          · exact outputDisable_quiet s k disable
          · exact Quiet.refl s
        dsimp only
        split
        · exact hquiet
        · exact hquiet

theorem outputDpms_on {k : Nat} (h : Reaches s k c) (disable : SetAnswer) (a : MajorAnswer) :
    drmmodeOutputDpms s k true disable a =
      if (s.crtcs c).needModeset then drmmodeSetModeMajor s c a else s := by
  obtain ⟨output, hk, hmode, hcrtc⟩ := h
  rw [drmmodeOutputDpms, hk]
  dsimp only
  rw [hmode, hcrtc]
  rfl

theorem outputDpms_idle {k : Nat} (h : ∀ c, ¬Reaches s k c) (disable : SetAnswer)
    (a : MajorAnswer) : drmmodeOutputDpms s k true disable a = s := by
  rw [drmmodeOutputDpms]
  split
  · rfl
  · next output hk =>
      split
      · rfl
      · next hmode =>
          have hmode : output.modeOutput = true := by simpa using hmode
          dsimp only
          split
          · rfl
          · next c hcrtc => exact absurd ⟨output, hk, hmode, hcrtc⟩ (h c)

/-- **One hook** leaves what is pending, or makes one of the mode sets. -/
theorem hookStep_cases (on : Bool) (s : Screen) (hook : Hook) :
    (Quiet s (hookStep on s hook) ∧ HookFine on s hook) ∨
      ∃ c fine, SetNow s (hookStep on s hook) c fine ∧ (HookFine on s hook ↔ fine) := by
  cases hook with
  | crtc c a =>
      refine Or.inl ⟨?_, trivial⟩
      rw [hookStep, drmmodeCrtcDpms]
      split
      · exact crtcDisable_quiet s c a
      · exact Quiet.refl s
  | output k disable a =>
      rw [hookStep]
      cases on with
      | false => exact Or.inl ⟨outputDpms_off s k disable a, fun h => absurd h Bool.false_ne_true⟩
      | true =>
          by_cases hreach : ∃ c, Reaches s k c
          · obtain ⟨c, hreach⟩ := hreach
            have hfine : HookFine true s (.output k disable a) ↔
                ((s.crtcs c).needModeset = true → TestPasses s c a →
                  crtcActive s c true = true ∧ Granted (tested s c a) c a.real) := by
              constructor
              · exact fun h => h rfl c hreach
              · intro h _ c' hreach'
                rw [← hreach.only hreach']
                exact h
            rw [outputDpms_on hreach]
            cases hneed : (s.crtcs c).needModeset with
            | false =>
                refine Or.inl ⟨Quiet.refl s, hfine.mpr fun h => ?_⟩
                exact absurd (hneed.symm.trans h) Bool.false_ne_true
            | true =>
                rcases setModeMajor_cases (a := a) hneed with ⟨hno, hquiet⟩ | ⟨hyes, hset⟩
                · exact Or.inl ⟨hquiet, hfine.mpr fun _ h => absurd h hno⟩
                · refine Or.inr ⟨c, _, hset, hfine.trans ?_⟩
                  exact ⟨fun h => h hneed hyes, fun h _ _ => h⟩
          · have hidle : ∀ c, ¬Reaches s k c := fun c h => hreach ⟨c, h⟩
            rw [outputDpms_idle hidle]
            exact Or.inl ⟨Quiet.refl s, fun _ c h => absurd h (hidle c)⟩

end Hooks

/-! ## All hooks -/

section Run

variable {s t u : Screen} {c : Nat} {on : Bool}

/-- **What the call owes**: a mode set that was pending at first, and no longer is, was made. -/
def Kept (s t : Screen) : Prop :=
  ∀ c, (s.crtcs c).needModeset = true → (t.crtcs c).needModeset = false → Lit t.commits c

/-- No mode set has become pending, and what is pending has no plane in a real request. -/
structure Pending (s t : Screen) : Prop where
  need : ∀ c, (t.crtcs c).needModeset = true → (s.crtcs c).needModeset = true
  plane : ∀ commit ∈ t.commits, commit.testOnly = false → ∀ c value,
    ⟨.plane c, .fbId, value⟩ ∈ commit.request → (t.crtcs c).needModeset = false

theorem Pending.not_lit (h : Pending s t) (hneed : (t.crtcs c).needModeset = true) :
    ¬Lit t.commits c := by
  intro hlit
  obtain ⟨commit, hmem, hreal, value, hin⟩ := hlit.plane
  have hdone := h.plane commit hmem hreal c value hin
  exact absurd (hdone.symm.trans hneed) Bool.false_ne_true

theorem lit_append {xs ys : List Commit} : Lit (xs ++ ys) c ↔ Lit xs c ∨ Lit ys c := by
  simp only [Lit, List.mem_append, or_and_right, exists_or]

/-- Requests light only the CRTCs whose planes they have. -/
theorem Quiet.lit_iff (h : Quiet t u) (c : Nat) : Lit u.commits c ↔ Lit t.commits c := by
  obtain ⟨later, hnew, hplane⟩ := h.commits
  rw [show u.commits = later ++ t.commits from hnew, lit_append]
  refine or_iff_right fun hlit => ?_
  obtain ⟨commit, hmem, hreal, value, hin⟩ := hlit.plane
  exact hplane commit hmem hreal c value hin

theorem SetNow.lit_iff {fine : Prop} (h : SetNow t u c fine) (j : Nat) :
    Lit u.commits j ↔ (j = c ∧ fine) ∨ Lit t.commits j := by
  obtain ⟨later, hnew, honly, hlit⟩ := h.commits
  rw [show u.commits = later ++ t.commits from hnew, lit_append]
  refine or_congr_left ?_
  constructor
  · intro hj
    obtain ⟨commit, hmem, hreal, value, hin⟩ := hj.plane
    obtain rfl := honly commit hmem hreal j value hin
    exact ⟨rfl, hlit.mp hj⟩
  · rintro ⟨rfl, hfine⟩
    exact hlit.mpr hfine

theorem hookStep_pending (hook : Hook) (h : Pending s t) : Pending s (hookStep on t hook) := by
  rcases hookStep_cases on t hook with ⟨hquiet, _⟩ | ⟨c, fine, hset, _⟩
  · obtain ⟨later, hnew, hplane⟩ := hquiet.commits
    refine ⟨fun j hj => h.need j ((hquiet.need j).symm.trans hj), ?_⟩
    intro commit hmem hreal j value hin
    rw [show (hookStep on t hook).commits = later ++ t.commits from hnew] at hmem
    rw [hquiet.need]
    rcases List.mem_append.mp hmem with hlater | hold
    · exact absurd hin (hplane commit hlater hreal j value)
    · exact h.plane commit hold hreal j value hin
  · obtain ⟨later, hnew, honly, _⟩ := hset.commits
    constructor
    · intro j hj
      rw [hset.need] at hj
      split at hj
      · exact absurd hj Bool.false_ne_true
      · exact h.need j hj
    · intro commit hmem hreal j value hin
      rw [show (hookStep on t hook).commits = later ++ t.commits from hnew] at hmem
      rw [hset.need]
      split
      · rfl
      · next hj =>
          rcases List.mem_append.mp hmem with hlater | hold
          · exact absurd (honly commit hlater hreal j value hin) hj
          · exact h.plane commit hold hreal j value hin

/-- **One hook** keeps what the call owes exactly under the condition. -/
theorem hookStep_kept_iff (hook : Hook) (h : Pending s t) (hkept : Kept s t) :
    Kept s (hookStep on t hook) ↔ HookFine on t hook := by
  rcases hookStep_cases on t hook with ⟨hquiet, hfine⟩ | ⟨c, fine, hset, hfine⟩
  · refine iff_of_true (fun j hj hdone => ?_) hfine
    rw [hquiet.need] at hdone
    exact (hquiet.lit_iff j).mpr (hkept j hj hdone)
  · rw [hfine]
    constructor
    · intro hnext
      have hdone : ((hookStep on t hook).crtcs c).needModeset = false := by
        rw [hset.need, if_pos rfl]
      rcases (hset.lit_iff c).mp (hnext c (h.need c hset.was) hdone) with hfine | hold
      · exact hfine.2
      · exact absurd hold (h.not_lit hset.was)
    · intro hfine j hj hdone
      rw [hset.lit_iff]
      by_cases hjc : j = c
      · exact Or.inl ⟨hjc, hfine⟩
      · rw [hset.need, if_neg hjc] at hdone
        exact Or.inr (hkept j hj hdone)

/-- What was forgotten stays so. -/
theorem hookStep_lost (hook : Hook) (hkept : Kept s (hookStep on t hook)) : Kept s t := by
  intro j hj hdone
  rcases hookStep_cases on t hook with ⟨hquiet, _⟩ | ⟨c, fine, hset, _⟩
  · exact (hquiet.lit_iff j).mp (hkept j hj ((hquiet.need j).trans hdone))
  · have hjc : j ≠ c := by
      intro heq
      rw [heq, hset.was] at hdone
      exact absurd hdone.symm Bool.false_ne_true
    have hdone' : ((hookStep on t hook).crtcs j).needModeset = false := by
      rw [hset.need, if_neg hjc, hdone]
    rcases (hset.lit_iff j).mp (hkept j hj hdone') with hfine | hold
    · exact absurd hfine.1 hjc
    · exact hold

/-- **All hooks.** -/
theorem hooks_kept_iff (h : Pending s t) (hooks : List Hook) :
    Kept s (run (hookStep on) t hooks) ↔
      Kept s t ∧ Guarded (hookStep on) (HookFine on) t hooks := by
  have hinv : ∀ t hook, Pending s t → Pending s (hookStep on t hook) :=
    fun t hook => hookStep_pending hook
  rw [← always_iff_last hinv (fun t hook _ => hookStep_lost hook) h]
  have hstep : ∀ t hook, Pending s t → Kept s t →
      (Kept s (hookStep on t hook) ↔ HookFine on t hook) :=
    fun t hook => hookStep_kept_iff hook
  constructor
  · intro halways
    exact ⟨halways.head, (always_iff_guarded hinv hstep h halways.head hooks).mp halways⟩
  · intro hguarded
    exact (always_iff_guarded hinv hstep h hguarded.1 hooks).mpr hguarded.2

end Run

/-! ## The request of drmmode_set_dpms -/

section Build

variable {s : Screen} {on : Bool} {a : DpmsAnswer} {c : Nat}

/-- The mode set of `c` is made up for: it is pending, the CRTC is active, and there is a
framebuffer when the loop comes to it. -/
def MadeUp (s : Screen) (on : Bool) (a : DpmsAnswer) (c : Nat) : Prop :=
  crtcActive s c on = true ∧ (s.crtcs c).needModeset = true ∧
    (drmmodeCrtcGetFbId (buildDpms s on a c).screen c (a.importFb c)).2.isSome = true

/-- What the loops have made up to CRTC `n`. -/
structure Built (s : Screen) (on : Bool) (a : DpmsAnswer) (n : Nat) (b : Building) : Prop where
  outputs : b.screen.outputs = s.outputs
  commits : b.screen.commits = s.commits
  need : ∀ c, (b.screen.crtcs c).needModeset = true ↔
    (s.crtcs c).needModeset = true ∧ ¬(c < n ∧ MadeUp s on a c)
  lights : b.draft.good = true → ∀ c < n, MadeUp s on a c → Lights b.draft.req c
  plane : ∀ e ∈ b.draft.req, ∀ c, e.target = .plane c → c < n ∧ MadeUp s on a c

theorem unused_mem (memory : Nat → Bool) (outputs : List (Output × Nat)) (draft : Draft) {x : Entry}
    (h : x ∈ (outputs.foldl (unusedStep s memory) draft).req) :
    x ∈ draft.req ∨ ∃ k, x.target = .connector k := by
  induction outputs generalizing draft with
  | nil => exact Or.inl h
  | cons output rest ih =>
      rcases ih _ h with hmem | hconnector
      · rw [unusedStep] at hmem
        split at hmem
        · exact Or.inl hmem
        · rcases addProp_mem hmem with hold | rfl
          · exact Or.inl hold
          · exact Or.inr ⟨output.2, rfl⟩
      · exact Or.inr hconnector

theorem buildDpms_succ (s : Screen) (on : Bool) (a : DpmsAnswer) (n : Nat) :
    buildDpms s on a (n + 1) = crtcStep on a (buildDpms s on a n) n := by
  rw [buildDpms, List.range_succ, run_append]
  rfl

/-- A CRTC that is not made up for. -/
theorem crtcStep_left {b : Building} {n : Nat} (hb : Built s on a n b) {t : Screen}
    (ht : ∃ id, t = { b.screen with fbId := id }) (hno : ¬MadeUp s on a n) :
    Built s on a (n + 1)
      ⟨t, crtcAddDpmsProps b.screen a.memory n on (a.blob n) b.draft⟩ := by
  obtain ⟨id, rfl⟩ := ht
  have hgrown := dpmsProps_grown b.screen a.memory n on (a.blob n) b.draft
  have hsame : ∀ c, c < n + 1 ∧ MadeUp s on a c ↔ c < n ∧ MadeUp s on a c := by
    intro c
    constructor
    · rintro ⟨hlt, hmade⟩
      have hne : c ≠ n := fun heq => hno (heq ▸ hmade)
      exact ⟨by omega, hmade⟩
    · exact fun h => ⟨by omega, h.2⟩
  refine ⟨hb.outputs, hb.commits, fun c => ?_, fun hgood c hlt hmade => ?_,
    fun e he c htarget => (hsame c).mpr ?_⟩
  · rw [hsame]
    exact hb.need c
  · exact hgrown.lights (hb.lights (hgrown.good hgood) c ((hsame c).mp ⟨hlt, hmade⟩).1 hmade)
  · rcases dpmsProps_mem he with hold | ⟨k, hk⟩ | ⟨hcrtc, _⟩
    · exact hb.plane e hold c htarget
    · rw [htarget] at hk
      cases hk
    · rw [htarget] at hcrtc
      cases hcrtc

/-- A CRTC that is made up for. -/
theorem crtcStep_made {b : Building} {n : Nat} (hb : Built s on a n b) {t : Screen}
    (ht : ∃ id, t = { b.screen with fbId := id }) {shown : Shown} (hfb : shown.fbId ≠ 0)
    (hactive : crtcActive b.screen n on = true) (hyes : MadeUp s on a n) :
    Built s on a (n + 1)
      ⟨t.setNeedModeset n false, planeAddProps t a.memory n shown
        (crtcAddDpmsProps b.screen a.memory n on (a.blob n) b.draft)⟩ := by
  obtain ⟨id, rfl⟩ := ht
  have hdpms := dpmsProps_grown b.screen a.memory n on (a.blob n) b.draft
  have hplane := addProps_grown { b.screen with fbId := id } a.memory
    (planeEntries { b.screen with fbId := id } n shown)
    (crtcAddDpmsProps b.screen a.memory n on (a.blob n) b.draft)
  have hother : ∀ c, c ≠ n → (c < n + 1 ∧ MadeUp s on a c ↔ c < n ∧ MadeUp s on a c) := by
    intro c hne
    have hlt : c < n + 1 ↔ c < n := by omega
    rw [hlt]
  refine ⟨hb.outputs, hb.commits, fun c => ?_, fun hgood c hlt hmade => ?_,
    fun e he c htarget => ?_⟩
  · by_cases hc : c = n
    · rw [hc]
      refine iff_of_false ?_ fun h => h.2 ⟨Nat.lt_succ_self n, hyes⟩
      simp [Screen.setNeedModeset]
    · rw [hother c hc, ← hb.need c]
      simp [Screen.setNeedModeset, hc]
  · by_cases hc : c = n
    · subst hc
      obtain ⟨hon, hmode⟩ := dpmsProps_good hactive (hplane.good hgood)
      obtain ⟨hall, hshown⟩ := planeProps_good hfb hgood
      exact ⟨hplane.keeps _ hon, hmode.imp fun _ hmem => hplane.keeps _ hmem, hall, hshown⟩
    · have hlt' := ((hother c hc).mp ⟨hlt, hmade⟩).1
      exact (hdpms.trans hplane).lights (hb.lights ((hdpms.trans hplane).good hgood) c hlt' hmade)
  · rcases planeProps_mem he with hmem | hnew
    · have hold : c < n ∧ MadeUp s on a c := by
        rcases dpmsProps_mem hmem with hold | ⟨k, hk⟩ | ⟨hcrtc, _⟩
        · exact hb.plane e hold c htarget
        · rw [htarget] at hk
          cases hk
        · rw [htarget] at hcrtc
          cases hcrtc
      exact ⟨by omega, hold.2⟩
    · rw [htarget] at hnew
      cases hnew
      exact ⟨Nat.lt_succ_self _, hyes⟩

/-- **What the request has**: the mode sets it makes up for are lit by it when it is good. -/
theorem buildDpms_spec (s : Screen) (on : Bool) (a : DpmsAnswer) (n : Nat) :
    Built s on a n (buildDpms s on a n) := by
  induction n with
  | zero =>
      refine ⟨rfl, rfl, fun c => by simp [buildDpms], fun _ c h => absurd h (Nat.not_lt_zero c), ?_⟩
      intro e he c htarget
      rcases unused_mem a.memory s.outputs.zipIdx ⟨[], true⟩ he with hnone | ⟨k, hk⟩
      · exact absurd hnone List.not_mem_nil
      · rw [htarget] at hk
        cases hk
  | succ n ih =>
      have hmade : MadeUp s on a n ↔
          crtcActive s n on = true ∧ (s.crtcs n).needModeset = true ∧
            (drmmodeCrtcGetFbId (buildDpms s on a n).screen n (a.importFb n)).2.isSome = true :=
        Iff.rfl
      rw [buildDpms_succ]
      generalize buildDpms s on a n = b at ih hmade ⊢
      have hactive : crtcActive b.screen n on = crtcActive s n on := by
        rw [crtcActive, crtcActive, ih.outputs]
      have hneed : (b.screen.crtcs n).needModeset = true ↔ (s.crtcs n).needModeset = true := by
        rw [ih.need, and_iff_left fun h => absurd h.1 (Nat.lt_irrefl n)]
      rw [crtcStep]
      split
      · next hwants =>
          simp only [Bool.and_eq_true] at hwants
          obtain ⟨⟨_, hon⟩, hpending⟩ := hwants
          have hframe := getFbId_frame b.screen n (a.importFb n)
          cases hget : drmmodeCrtcGetFbId b.screen n (a.importFb n) with
          | mk t found =>
              rw [hget] at hframe hmade
              cases found with
              | none =>
                  exact crtcStep_left ih hframe fun h => absurd (hmade.mp h).2.2 Bool.false_ne_true
              | some shown =>
                  have hyes : MadeUp s on a n :=
                    hmade.mpr ⟨hactive ▸ hon, hneed.mp hpending, rfl⟩
                  exact crtcStep_made ih hframe (getFbId_found hget) hon hyes
      · next hwants =>
          refine crtcStep_left ih ⟨b.screen.fbId, rfl⟩ fun h => hwants ?_
          obtain ⟨hon, hpending, _⟩ := hmade.mp h
          have hlevel : on = true := (Bool.and_eq_true_iff.mp hon).1
          rw [hactive, hon, hneed.mpr hpending, hlevel]
          rfl

/-- **The condition** on the request: when it makes up for a mode set, it is good, and the
kernel accepts it. -/
def RequestFine (s : Screen) (on : Bool) (a : DpmsAnswer) : Prop :=
  ∀ c < s.numCrtc, MadeUp s on a c →
    (buildDpms s on a s.numCrtc).draft.good = true ∧ a.commitOk = true

theorem committed_need (s : Screen) (on : Bool) (a : DpmsAnswer) (c : Nat) :
    ((committed s on a).crtcs c).needModeset = true ↔
      (s.crtcs c).needModeset = true ∧ ¬(c < s.numCrtc ∧ MadeUp s on a c) := by
  rw [← (buildDpms_spec s on a s.numCrtc).need c, committed]
  dsimp only
  split
  · exact Iff.rfl
  · exact Iff.rfl

theorem committed_commits (hnone : s.commits = []) :
    (committed s on a).commits =
      if (buildDpms s on a s.numCrtc).draft.good = true then
        [⟨(buildDpms s on a s.numCrtc).draft.req, false, a.commitOk⟩]
      else [] := by
  have hbuilt := (buildDpms_spec s on a s.numCrtc).commits.trans hnone
  rw [committed]
  dsimp only
  split
  · exact congrArg _ hbuilt
  · exact hbuilt

/-- When the hooks are called, what is pending has no plane in the request. -/
theorem committed_pending (hnone : s.commits = []) : Pending s (committed s on a) := by
  have hb := buildDpms_spec s on a s.numCrtc
  refine ⟨fun c h => ((committed_need s on a c).mp h).1, fun commit hmem _ c value hin => ?_⟩
  rw [committed_commits hnone] at hmem
  split at hmem
  · rw [List.mem_singleton.mp hmem] at hin
    have hmade := hb.plane _ hin c rfl
    exact Bool.eq_false_iff.mpr fun h => ((committed_need s on a c).mp h).2 hmade
  · exact absurd hmem List.not_mem_nil

/-- What is owed when the hooks are called. -/
theorem committed_kept_iff (hnone : s.commits = []) :
    Kept s (committed s on a) ↔ RequestFine s on a := by
  have hb := buildDpms_spec s on a s.numCrtc
  constructor
  · intro hkept c hlt hmade
    have hdone : ((committed s on a).crtcs c).needModeset = false :=
      Bool.eq_false_iff.mpr fun h => ((committed_need s on a c).mp h).2 ⟨hlt, hmade⟩
    obtain ⟨commit, hmem, _, haccepted, _⟩ := hkept c hmade.2.1 hdone
    rw [committed_commits hnone] at hmem
    split at hmem
    · next hgood =>
        rw [List.mem_singleton.mp hmem] at haccepted
        exact ⟨hgood, haccepted⟩
    · exact absurd hmem List.not_mem_nil
  · intro hfine c hpending hdone
    have hmade : c < s.numCrtc ∧ MadeUp s on a c := by
      by_contra hno
      have hstill := (committed_need s on a c).mpr ⟨hpending, hno⟩
      exact absurd (hdone.symm.trans hstill) Bool.false_ne_true
    obtain ⟨hgood, hcommit⟩ := hfine c hmade.1 hmade.2
    rw [committed_commits hnone, if_pos hgood]
    exact ⟨_, List.mem_singleton_self _, rfl, hcommit, hb.lights hgood c hmade.1 hmade.2⟩

end Build

/-- The screen when the call begins, with no commit made in it. -/
def Screen.fresh (s : Screen) : Screen := { s with commits := [] }

/-- **A pending mode set is only forgotten when it was done** exactly when the request that
makes up for mode sets is good and accepted, and each mode set of a hook whose test is granted
is granted for real. -/
theorem pending_forgotten_iff (s : Screen) (on : Bool) (a : DpmsAnswer) (hooks : List Hook) :
    Kept s (drmmodeSetDpms s on a hooks) ↔
      (a.reqOk = true → RequestFine s.fresh on a ∧
        Guarded (hookStep on) (HookFine on) (committed s.fresh on a) hooks) := by
  rw [drmmodeSetDpms]
  cases hreq : a.reqOk with
  | false =>
      refine iff_of_true (fun c hpending hdone => ?_) fun h => absurd h Bool.false_ne_true
      exact absurd (hdone.symm.trans hpending) Bool.false_ne_true
  | true =>
      have hnone : s.fresh.commits = [] := rfl
      rw [forall_prop_of_true rfl, ← committed_kept_iff hnone]
      exact hooks_kept_iff (committed_pending hnone) hooks

/-- One CRTC whose mode set failed before, with one output. -/
def oneHead : Screen where
  outputs := [⟨some 0, none, true, true⟩]
  crtcs := fun _ => ⟨31, 0, 0, 1024, 768, none, 0, true⟩
  numCrtc := 1
  known := fun _ _ => true
  fbId := 5
  reversePrimeOffloadMode := false
  pendingModeset := false
  commits := []

/-- All can be added, and the kernel rejects the request. -/
def rejected : DpmsAnswer := ⟨true, fun _ => true, fun _ => ⟨true, 9⟩, fun _ => none, false⟩

/-- **A rejected commit is forgotten**: the mode set is no longer pending, and the kernel has
accepted nothing. -/
theorem rejected_commit_forgets :
    (oneHead.crtcs 0).needModeset = true ∧
      ((drmmodeSetDpms oneHead true rejected []).crtcs 0).needModeset = false ∧
      (drmmodeSetDpms oneHead true rejected []).commits.map Commit.accepted = [false] ∧
      ¬Kept oneHead (drmmodeSetDpms oneHead true rejected []) := by
  have hdone : ((drmmodeSetDpms oneHead true rejected []).crtcs 0).needModeset = false := by
    decide +kernel
  have hcommits : (drmmodeSetDpms oneHead true rejected []).commits.map Commit.accepted =
      [false] := by
    decide +kernel
  refine ⟨rfl, hdone, hcommits, fun hkept => ?_⟩
  obtain ⟨commit, hmem, _, haccepted, _⟩ := hkept 0 rfl hdone
  have hanswer : commit.accepted ∈ [false] := hcommits ▸ List.mem_map_of_mem hmem
  rw [haccepted] at hanswer
  cases List.mem_singleton.mp hanswer

end LoongsonVideo.Driver.DpmsCommit
