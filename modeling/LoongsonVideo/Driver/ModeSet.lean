import LoongsonVideo.Driver.Scanout
import Mathlib.Data.List.Infix

/-!
# What a mode set returns

`drmmode_set_mode_major` of `src/drmmode_display.c` with what it calls, and the fallback of
`ms_present_unflip` of `src/present.c`, the one place where `need_modeset` is set.
`Scanout` follows the framebuffer ids through all users of mode sets; here it is the
requests to the kernel that matter, what they were made with and what came of them.

The DPMS hooks can come back to a mode set: `drmmode_output_dpms` when `need_modeset` is
set, and `drmmode_InitSharedPixmapFlipping` when it flushes events and one of them is
that of a Present flip that the server unflips.  The answers of a mode set are therefore a
tree.

* `mode_set_truthful_iff`: when the result tells the truth.
-/

namespace LoongsonVideo.Driver.ModeSet

open LoongsonVideo.Driver.Scanout (FbIds)

/-- `crtc->mode`, `rotation`, `x` and `y`.  Modes are named by number. -/
structure Config where
  mode : Nat
  rotation : UInt16
  x : Int
  y : Int
  deriving DecidableEq, Repr

/-- A CRTC and its private record.  `primeFb` is there with a `prime_pixmap`, and is
`ppriv->fb_id` of it. -/
structure Crtc where
  config : Config
  enabled : Bool
  active : Bool
  dpmsOn : Bool
  needModeset : Bool
  primeFb : Option Nat
  rotateFbId : Nat
  primePixmapBack : Bool
  enableFlipping : Bool
  flippingActive : Bool
  deriving DecidableEq, Repr

/-- An output and its private record.  `outputId` is `none` for -1. -/
structure Output where
  crtc : Option Nat
  outputId : Option Nat
  modeOutput : Bool
  dpmsOn : Bool
  deriving DecidableEq, Repr

/-- A mode set that the kernel was asked for, with what the CRTC held then. -/
structure ModeSetAct where
  crtc : Nat
  testOnly : Bool
  config : Config
  accepted : Bool
  deriving DecidableEq, Repr

/-- The screen.  `fbs` are the framebuffers the kernel has and `scanout` the one each CRTC
shows; `log` has the newest request first. -/
structure Screen where
  crtcs : Nat → Crtc
  numCrtc : Nat
  outputs : List Output
  fbId : Nat
  reversePrimeOffloadMode : Bool
  atomicModeset : Bool
  pendingModeset : Bool
  fbs : List Nat
  scanout : Nat → Option Nat
  log : List ModeSetAct

namespace Screen

def setCrtc (s : Screen) (i : Nat) (f : Crtc → Crtc) : Screen :=
  { s with crtcs := Function.update s.crtcs i (f (s.crtcs i)) }

def setConfig (s : Screen) (i : Nat) (config : Config) : Screen :=
  s.setCrtc i fun crtc => { crtc with config := config }

def setNeedModeset (s : Screen) (i : Nat) (needModeset : Bool) : Screen :=
  s.setCrtc i fun crtc => { crtc with needModeset := needModeset }

def setDpmsOn (s : Screen) (i : Nat) : Screen :=
  s.setCrtc i fun crtc => { crtc with dpmsOn := true }

def setActive (s : Screen) (i : Nat) : Screen :=
  s.setCrtc i fun crtc => { crtc with active := true }

def setFlippingActive (s : Screen) (i : Nat) (flippingActive : Bool) : Screen :=
  s.setCrtc i fun crtc => { crtc with flippingActive := flippingActive }

@[simp] theorem setCrtc_self (s : Screen) (i : Nat) (f : Crtc → Crtc) :
    (s.setCrtc i f).crtcs i = f (s.crtcs i) := Function.update_self i _ _

theorem setCrtc_of_ne (s : Screen) {i j : Nat} (f : Crtc → Crtc) (hj : j ≠ i) :
    (s.setCrtc i f).crtcs j = s.crtcs j := Function.update_of_ne hj _ _

end Screen

/-! ## Requests -/

/-- `drmModeRmFB`: the kernel switches off the CRTCs that show the framebuffer. -/
def drmModeRmFB (s : Screen) (id : Nat) : Screen :=
  { s with
    fbs := s.fbs.filter (· ≠ id)
    scanout := fun i => if s.scanout i = some id then none else s.scanout i }

/-- The framebuffer id a CRTC has of its own: that of its shared pixmap or of its rotation
shadow.  Zero when there is none. -/
def ownFbId (s : Screen) (crtc : Crtc) : Nat :=
  match crtc.primeFb with
  | some fbId => if !s.reversePrimeOffloadMode then fbId else 0
  | none => crtc.rotateFbId

/-- The id `drmmode_crtc_get_fb_id` has before the import. -/
def crtcFbId (s : Screen) (crtc : Crtc) : Nat :=
  match crtc.primeFb with
  | some fbId => if !s.reversePrimeOffloadMode then fbId else 0
  | none => if crtc.rotateFbId ≠ 0 then crtc.rotateFbId else s.fbId

/-- `drmmode_crtc_get_fb_id`: `*fb_id`, or `none` for `FALSE`. -/
def drmmodeCrtcGetFbId (ids : FbIds) (s : Screen) (crtc : Crtc) (importOk : Bool) :
    Screen × Option Nat :=
  if crtcFbId s crtc = 0 then
    if importOk then
      let id := ids.pick s.fbs
      ({ s with fbs := id :: s.fbs, fbId := id }, some id)
    else (s, none)
  else (s, some (crtcFbId s crtc))

/-- The answers of one `drmmode_crtc_set_mode`: to the import, to the allocation and filling
of the request, and to the request. -/
structure SetAnswer where
  importOk : Bool
  requestOk : Bool
  kernelOk : Bool
  deriving DecidableEq, Repr

/-- `active` of `crtc_add_dpms_props` with `DPMSModeOn`. -/
def hasOutput (s : Screen) (i : Nat) : Bool :=
  s.outputs.any fun output => output.crtc == some i && output.outputId.isSome

/-- The framebuffer a mode set gives the kernel, if any. -/
def givenFb (s : Screen) (i fbId : Nat) : Option Nat :=
  if s.atomicModeset && !hasOutput s i then none else some fbId

/-- The request itself: a successful one that is not a test makes the CRTC show the
framebuffer. -/
def commit (s : Screen) (i : Nat) (testOnly : Bool) (fbId : Nat) (kernelOk : Bool) : Screen :=
  { s with
    scanout :=
      if kernelOk && !testOnly then Function.update s.scanout i (givenFb s i fbId)
      else s.scanout
    log := ⟨i, testOnly, (s.crtcs i).config, kernelOk⟩ :: s.log }

/-- `drmmode_crtc_set_mode`, which returns zero for `true`. -/
def drmmodeCrtcSetMode (ids : FbIds) (s : Screen) (i : Nat) (testOnly : Bool) (a : SetAnswer) :
    Screen × Bool :=
  match drmmodeCrtcGetFbId ids s (s.crtcs i) a.importOk with
  | (s, none) => (s, false)
  | (s, some fbId) =>
      if !a.requestOk then (s, false) else (commit s i testOnly fbId a.kernelOk, a.kernelOk)

/-! ## Hooks -/

/-- `drmmode_crtc_dpms` with `DPMSModeOn`.  Without atomic mode setting a CRTC that is not
enabled is switched off. -/
def drmmodeCrtcDpmsOn (s : Screen) (i : Nat) : Screen :=
  let s := s.setDpmsOn i
  if !s.atomicModeset && !(s.crtcs i).enabled then
    { s with scanout := Function.update s.scanout i none }
  else s

/-- `drmmode_InitSharedPixmapFlipping`.  `present` is `drmmode_SharedPixmapPresent`, with
the events that are dispatched while it flushes. -/
def drmmodeInitSharedPixmapFlipping (s : Screen) (i : Nat) (present : Screen → Screen × Bool) :
    Screen :=
  if !(s.crtcs i).enableFlipping then s
  else if (s.crtcs i).flippingActive then s
  else
    let (s, presented) := present s
    s.setFlippingActive i presented

/-- `if (drmmode_crtc->need_modeset)`. -/
def setIfNeeded (s : Screen) (i : Nat) (again : Screen → Screen) : Screen :=
  if (s.crtcs i).needModeset then again s else s

/-- `drmmode_output_dpms` with `DPMSModeOn`, for an output of CRTC `i`.  `again` is
`drmmode_set_mode_major` with what the CRTC has. -/
def drmmodeOutputDpmsOn (s : Screen) (k i : Nat) (again : Screen → Screen)
    (present : Screen → Screen × Bool) : Screen :=
  match s.outputs[k]? with
  | none => s
  | some output =>
      if !output.modeOutput then s
      else
        let s := { s with outputs := s.outputs.set k { output with dpmsOn := true } }
        let s := setIfNeeded s i again
        if (s.crtcs i).enableFlipping then drmmodeInitSharedPixmapFlipping s i present else s

/-- The loop of `drmmode_set_mode_major` over the outputs. -/
def outputsOn (i : Nat) (again : Nat → Screen → Screen)
    (present : Nat → Screen → Screen × Bool) : List Nat → Screen → Screen
  | [], s => s
  | k :: rest, s =>
      match s.outputs[k]? with
      | none => outputsOn i again present rest s
      | some output =>
          if output.crtc ≠ some i then outputsOn i again present rest s
          else if output.outputId = none then outputsOn i again present rest s
          else
            outputsOn i again present rest
              (drmmodeOutputDpmsOn s k i (again k) (present k))

/-- `if (drmmode_crtc->prime_pixmap_back)`. -/
def initIfBack (s : Screen) (i : Nat) (present : Screen → Screen × Bool) : Screen :=
  if (s.crtcs i).primePixmapBack then drmmodeInitSharedPixmapFlipping s i present else s

/-- The hooks of `drmmode_set_mode_major`, between the first mode set and the real one. -/
def dpmsHooks (s : Screen) (i : Nat) (present : Screen → Screen × Bool)
    (again : Nat → Screen → Screen) (presentAgain : Nat → Screen → Screen × Bool) : Screen :=
  let s := { s with pendingModeset := true }
  let s := drmmodeCrtcDpmsOn (s.setNeedModeset i false) i
  let s := initIfBack s i present
  outputsOn i again presentAgain (List.range s.outputs.length) s

/-- `if (drmmode->fb_id)`: the framebuffer of the last flip is removed. -/
def removeFlipped (s : Screen) : Screen :=
  if s.fbId ≠ 0 then { drmModeRmFB s s.fbId with fbId := 0 } else s

/-- The end of `drmmode_set_mode_major`, where what was only tested is set. -/
def setTested (ids : FbIds) (s : Screen) (i : Nat) (real : SetAnswer) : Screen :=
  let s := if s.atomicModeset then (drmmodeCrtcSetMode ids s i false real).1 else s
  ({ s with pendingModeset := false } : Screen).setActive i

/-- The loop of `ms_present_unflip` over the CRTCs.  `set` is `drmmode_set_mode_major` with
what the CRTC has. -/
def unflipCrtcs (set : Nat → Screen → Screen) : List Nat → Screen → Screen
  | [], s => s
  | i :: rest, s =>
      if !(s.crtcs i).enabled then unflipCrtcs set rest s
      else
        let s := removeFlipped s
        if (s.crtcs i).dpmsOn then unflipCrtcs set rest (set i s)
        else unflipCrtcs set rest (s.setNeedModeset i true)

/-! ## Mode sets -/

mutual

/-- The answers of one `drmmode_set_mode_major`.  `xf86CrtcRotate` fails, or there are: the
first mode set, what `drmmode_InitSharedPixmapFlipping` dispatches, the answers of a mode
set that an output's hook makes and what the output's own flip dispatches, and the real mode
set after a test. -/
inductive ModeAnswer where
  | rotateFails
  | rotated (first : SetAnswer) (present : Dispatch) (again : Nat → ModeAnswer)
      (presentAgain : Nat → Dispatch) (real : SetAnswer)

/-- What a flush dispatches as far as mode sets go: unflips by mode sets, and then whether
the pixmap was presented. -/
inductive Dispatch where
  | done (presented : Bool)
  | unflip (sets : Nat → ModeAnswer) (rest : Dispatch)

end

mutual

/-- `drmmode_set_mode_major` with a mode. -/
def ModeAnswer.setModeMajor (ids : FbIds) : ModeAnswer → Screen → Nat → Config → Screen × Bool
  | .rotateFails, s, i, config =>
      -- `ret` is preset: the way out here is that of success.
      ((s.setConfig i config).setActive i, true)
  | .rotated first present again presentAgain real, s, i, config =>
      let saved := (s.crtcs i).config
      let s := s.setConfig i config
      match drmmodeCrtcSetMode ids s i s.atomicModeset first with
      | (s, false) => (s.setConfig i saved, false)
      | (s, true) =>
          let s := dpmsHooks s i (present.run ids)
            (fun k s => ((again k).setModeMajor ids s i (s.crtcs i).config).1)
            (fun k => (presentAgain k).run ids)
          (setTested ids s i real, true)

/-- The events of a flush. -/
def Dispatch.run (ids : FbIds) : Dispatch → Screen → Screen × Bool
  | .done presented, s => (s, presented)
  | .unflip sets rest, s =>
      rest.run ids (unflipCrtcs
        (fun i s => ((sets i).setModeMajor ids s i (s.crtcs i).config).1)
        (List.range s.numCrtc) s)

end

/-- `drmmode_set_mode_major`.  `config` is `none` for a `NULL` mode. -/
def drmmodeSetModeMajor (ids : FbIds) (s : Screen) (i : Nat) (config : Option Config)
    (a : ModeAnswer) : Screen × Bool :=
  match config with
  | none => (s.setActive i, true)
  | some config => a.setModeMajor ids s i config

/-- The fallback of `ms_present_unflip`. -/
def msPresentUnflip (ids : FbIds) (s : Screen) (sets : Nat → ModeAnswer) : Screen :=
  unflipCrtcs (fun i s => ((sets i).setModeMajor ids s i (s.crtcs i).config).1)
    (List.range s.numCrtc) s

/-! ## What a mode set with the CRTC's own values keeps -/

section Keeps

variable {ids : FbIds} {s t u : Screen} {i : Nat}

/-- No CRTC's mode, rotation or position changes, and no request is forgotten. -/
structure Keeps (s t : Screen) : Prop where
  config : ∀ j, (t.crtcs j).config = (s.crtcs j).config
  log : s.log <:+ t.log
  atomic : t.atomicModeset = s.atomicModeset

theorem Keeps.refl (s : Screen) : Keeps s s := ⟨fun _ => rfl, List.suffix_rfl, rfl⟩

theorem Keeps.trans (h : Keeps s t) (h' : Keeps t u) : Keeps s u where
  config := fun j => (h'.config j).trans (h.config j)
  log := h.log.trans h'.log
  atomic := h'.atomic.trans h.atomic

theorem keeps_getFbId (ids : FbIds) (s : Screen) (crtc : Crtc) (importOk : Bool) :
    Keeps s (drmmodeCrtcGetFbId ids s crtc importOk).1 := by
  unfold drmmodeCrtcGetFbId
  split
  · split
    · exact ⟨fun _ => rfl, List.suffix_rfl, rfl⟩
    · exact Keeps.refl s
  · exact Keeps.refl s

theorem keeps_crtcSetMode (ids : FbIds) (s : Screen) (i : Nat) (testOnly : Bool) (a : SetAnswer) :
    Keeps s (drmmodeCrtcSetMode ids s i testOnly a).1 := by
  have hget := keeps_getFbId ids s (s.crtcs i) a.importOk
  unfold drmmodeCrtcSetMode
  generalize drmmodeCrtcGetFbId ids s (s.crtcs i) a.importOk = out at hget ⊢
  obtain ⟨t, found⟩ := out
  cases found with
  | none => exact hget
  | some fbId =>
      simp only
      split
      · exact hget
      · exact hget.trans ⟨fun _ => rfl, List.suffix_cons _ _, rfl⟩

/-- What of a CRTC decides where it is shown and what. -/
structure Alike (crtc crtc' : Crtc) : Prop where
  config : crtc'.config = crtc.config
  enabled : crtc'.enabled = crtc.enabled
  primeFb : crtc'.primeFb = crtc.primeFb
  rotateFbId : crtc'.rotateFbId = crtc.rotateFbId

/-- A relation that every single step of a mode set with a CRTC's own values obeys. -/
structure Obeyed (ids : FbIds) (R : Screen → Screen → Prop) : Prop where
  refl : ∀ s, R s s
  trans : ∀ {s t u}, R s t → R t u → R s u
  crtc : ∀ s i f, Alike (s.crtcs i) (f (s.crtcs i)) → R s (s.setCrtc i f)
  pending : ∀ s pending, R s { s with pendingModeset := pending }
  output : ∀ s k output, s.outputs[k]? = some output →
    R s { s with outputs := s.outputs.set k { output with dpmsOn := true } }
  dark : ∀ s i, s.atomicModeset = false → (s.crtcs i).enabled = false →
    R s { s with scanout := Function.update s.scanout i none }
  setMode : ∀ s i testOnly a, R s (drmmodeCrtcSetMode ids s i testOnly a).1
  remove : ∀ s, R s (removeFlipped s)

namespace Obeyed

variable {R : Screen → Screen → Prop} (h : Obeyed ids R)
include h

theorem setNeedModeset (s : Screen) (i : Nat) (needModeset : Bool) :
    R s (s.setNeedModeset i needModeset) := h.crtc s i _ ⟨rfl, rfl, rfl, rfl⟩

theorem setActive (s : Screen) (i : Nat) : R s (s.setActive i) :=
  h.crtc s i _ ⟨rfl, rfl, rfl, rfl⟩

/-- A CRTC's own values stored again. -/
theorem setConfig (s : Screen) (i : Nat) {config : Config} (hown : config = (s.crtcs i).config) :
    R s (s.setConfig i config) := h.crtc s i _ ⟨hown, rfl, rfl, rfl⟩

theorem setTested (s : Screen) (i : Nat) (real : SetAnswer) : R s (setTested ids s i real) := by
  have hreal : R s (if s.atomicModeset then (drmmodeCrtcSetMode ids s i false real).1 else s) := by
    split
    · exact h.setMode s i false real
    · exact h.refl s
  exact h.trans (h.trans hreal (h.pending _ false)) (h.setActive _ i)

theorem crtcDpmsOn (s : Screen) (i : Nat) : R s (drmmodeCrtcDpmsOn s i) := by
  have hon : R s (s.setDpmsOn i) := h.crtc s i _ ⟨rfl, rfl, rfl, rfl⟩
  unfold drmmodeCrtcDpmsOn
  simp only
  split
  · next hoff =>
      have hmode := Bool.and_eq_true_iff.mp hoff
      exact h.trans hon (h.dark _ i (by simpa using hmode.1) (by simpa using hmode.2))
  · exact hon

theorem initShared (s : Screen) (i : Nat) {present : Screen → Screen × Bool}
    (hpresent : ∀ s, R s (present s).1) : R s (drmmodeInitSharedPixmapFlipping s i present) := by
  unfold drmmodeInitSharedPixmapFlipping
  split
  · exact h.refl s
  · split
    · exact h.refl s
    · exact h.trans (hpresent s) (h.crtc _ i _ ⟨rfl, rfl, rfl, rfl⟩)

theorem initIfBack (s : Screen) (i : Nat) {present : Screen → Screen × Bool}
    (hpresent : ∀ s, R s (present s).1) : R s (initIfBack s i present) := by
  unfold ModeSet.initIfBack
  split
  · exact h.initShared s i hpresent
  · exact h.refl s

theorem setIfNeeded (s : Screen) (i : Nat) {again : Screen → Screen} (hagain : ∀ s, R s (again s)) :
    R s (setIfNeeded s i again) := by
  unfold ModeSet.setIfNeeded
  split
  · exact hagain s
  · exact h.refl s

theorem outputDpmsOn (s : Screen) (k i : Nat) {again : Screen → Screen}
    {present : Screen → Screen × Bool} (hagain : ∀ s, R s (again s))
    (hpresent : ∀ s, R s (present s).1) : R s (drmmodeOutputDpmsOn s k i again present) := by
  unfold drmmodeOutputDpmsOn
  split
  · exact h.refl s
  · next output hk =>
      split
      · exact h.refl s
      · have hboth := h.trans (h.output s k output hk) (h.setIfNeeded _ i hagain)
        simp only
        split
        · exact h.trans hboth (h.initShared _ i hpresent)
        · exact hboth

theorem outputsOn (i : Nat) {again : Nat → Screen → Screen}
    {present : Nat → Screen → Screen × Bool} (hagain : ∀ k s, R s (again k s))
    (hpresent : ∀ k s, R s (present k s).1) (outputs : List Nat) (s : Screen) :
    R s (outputsOn i again present outputs s) := by
  induction outputs generalizing s with
  | nil => exact h.refl s
  | cons k rest ih =>
      rw [ModeSet.outputsOn]
      split
      · exact ih s
      · split
        · exact ih s
        · split
          · exact ih s
          · exact h.trans (h.outputDpmsOn s k i (hagain k) (hpresent k)) (ih _)

theorem dpmsHooks (s : Screen) (i : Nat) {present : Screen → Screen × Bool}
    {again : Nat → Screen → Screen} {presentAgain : Nat → Screen → Screen × Bool}
    (hpresent : ∀ s, R s (present s).1) (hagain : ∀ k s, R s (again k s))
    (hpresentAgain : ∀ k s, R s (presentAgain k s).1) :
    R s (dpmsHooks s i present again presentAgain) := by
  have hneed := h.trans (h.pending s true) (h.setNeedModeset _ i false)
  unfold ModeSet.dpmsHooks
  exact h.trans (h.trans (h.trans hneed (h.crtcDpmsOn _ i)) (h.initIfBack _ i hpresent))
    (h.outputsOn i hagain hpresentAgain _ _)

theorem unflipCrtcs {set : Nat → Screen → Screen} (hset : ∀ i s, R s (set i s))
    (crtcs : List Nat) (s : Screen) : R s (unflipCrtcs set crtcs s) := by
  induction crtcs generalizing s with
  | nil => exact h.refl s
  | cons i rest ih =>
      rw [ModeSet.unflipCrtcs]
      split
      · exact ih s
      · have hremoved := h.remove s
        simp only
        split
        · exact h.trans (h.trans hremoved (hset i _)) (ih _)
        · exact h.trans (h.trans hremoved (h.setNeedModeset _ i true)) (ih _)

end Obeyed

mutual

/-- What every step obeys, a mode set with the CRTC's own values does. -/
theorem obeyed_setModeMajor {R : Screen → Screen → Prop} (h : Obeyed ids R) :
    ∀ (a : ModeAnswer) (s : Screen) (i : Nat),
      R s (a.setModeMajor ids s i (s.crtcs i).config).1
  | .rotateFails, s, i => by
      rw [ModeAnswer.setModeMajor]
      exact h.trans (h.setConfig s i rfl) (h.setActive _ i)
  | .rotated first present again presentAgain real, s, i => by
      rw [ModeAnswer.setModeMajor]
      have hstore := h.setConfig s i rfl
      have hsaved : ((s.setConfig i (s.crtcs i).config).crtcs i).config = (s.crtcs i).config := by
        rw [Screen.setConfig, Screen.setCrtc_self]
      generalize s.setConfig i (s.crtcs i).config = u at hstore hsaved ⊢
      simp only
      have hfirst := h.trans hstore (h.setMode u i u.atomicModeset first)
      have hkept := (keeps_crtcSetMode ids u i u.atomicModeset first).config i
      generalize drmmodeCrtcSetMode ids u i u.atomicModeset first = out at hfirst hkept ⊢
      obtain ⟨t, ok⟩ := out
      cases ok with
      | false => exact h.trans hfirst (h.setConfig t i (hkept.trans hsaved).symm)
      | true =>
          have hhooks := h.trans hfirst (h.dpmsHooks t i (fun s => obeyed_run h present s)
            (fun k s => obeyed_setModeMajor h (again k) s i)
            fun k s => obeyed_run h (presentAgain k) s)
          exact h.trans hhooks (h.setTested _ i real)

/-- So do the events of a flush. -/
theorem obeyed_run {R : Screen → Screen → Prop} (h : Obeyed ids R) :
    ∀ (d : Dispatch) (s : Screen), R s (d.run ids s).1
  | .done presented, s => h.refl s
  | .unflip sets rest, s => by
      rw [Dispatch.run]
      exact h.trans (h.unflipCrtcs (fun i s => obeyed_setModeMajor h (sets i) s i) _ s)
        (obeyed_run h rest _)

end

theorem keeps_obeyed (ids : FbIds) : Obeyed ids Keeps where
  refl := Keeps.refl
  trans := Keeps.trans
  crtc := fun s i f hf => by
    refine ⟨fun j => ?_, List.suffix_rfl, rfl⟩
    by_cases hj : j = i
    · subst hj
      rw [Screen.setCrtc_self, hf.config]
    · rw [Screen.setCrtc_of_ne s f hj]
  pending := fun _ _ => ⟨fun _ => rfl, List.suffix_rfl, rfl⟩
  output := fun _ _ _ _ => ⟨fun _ => rfl, List.suffix_rfl, rfl⟩
  dark := fun _ _ _ _ => ⟨fun _ => rfl, List.suffix_rfl, rfl⟩
  setMode := keeps_crtcSetMode ids
  remove := fun s => by
    unfold removeFlipped
    split
    · exact ⟨fun _ => rfl, List.suffix_rfl, rfl⟩
    · exact Keeps.refl s

end Keeps

/-! ## The result -/

section Result

variable {ids : FbIds} {s t : Screen} {i : Nat} {config : Config}

/-- A request made between two states. -/
def During (s t : Screen) (act : ModeSetAct) : Prop := ∃ later, t.log = later ++ s.log ∧ act ∈ later

/-- The kernel has accepted a mode set of the CRTC, made with these values. -/
def Accepted (s t : Screen) (i : Nat) (config : Config) : Prop :=
  During s t ⟨i, false, config, true⟩

/-- **The result is true and a failure undone.** -/
structure Truthful (s : Screen) (i : Nat) (config : Config) (out : Screen × Bool) : Prop where
  accepted : out.2 = true → Accepted s out.1 i config
  undone : out.2 = false → (out.1.crtcs i).config = (s.crtcs i).config

/-- A mode set is granted: there is a framebuffer id or an import, and the request is made
and accepted. -/
def Granted (s : Screen) (i : Nat) (a : SetAnswer) : Prop :=
  (crtcFbId s (s.crtcs i) = 0 → a.importOk = true) ∧ a.requestOk = true ∧ a.kernelOk = true

/-- The screen when a granted test has been made. -/
def tested (ids : FbIds) (s : Screen) (i : Nat) (config : Config) (first : SetAnswer) : Screen :=
  (drmmodeCrtcSetMode ids (s.setConfig i config) i true first).1

/-- The hooks of a mode set with these answers. -/
def ModeAnswer.hooks (ids : FbIds) (i : Nat) (s : Screen) : ModeAnswer → Screen
  | .rotateFails => s
  | .rotated _ present again presentAgain _ =>
      dpmsHooks s i (present.run ids)
        (fun k s => ((again k).setModeMajor ids s i (s.crtcs i).config).1)
        (fun k => (presentAgain k).run ids)

/-- **The condition.**  `xf86CrtcRotate` succeeds; and with atomic mode setting, after a
granted test, the real mode set is granted too, or one that the hooks have made for this
CRTC has been accepted. -/
def SetForReal (ids : FbIds) (s : Screen) (i : Nat) (config : Config) (a : ModeAnswer) : Prop :=
  match a with
  | .rotateFails => False
  | .rotated first _ _ _ real =>
      s.atomicModeset = true → Granted (s.setConfig i config) i first →
        Granted (a.hooks ids i (tested ids s i config first)) i real ∨
          Accepted (tested ids s i config first)
            (a.hooks ids i (tested ids s i config first)) i config

theorem During.append {u : Screen} {act : ModeSetAct} (h : During s t act)
    (hu : t.log <:+ u.log) : During s u act := by
  obtain ⟨later, hlog, hin⟩ := h
  obtain ⟨more, hmore⟩ := hu
  exact ⟨more ++ later, by rw [← hmore, hlog, List.append_assoc],
    List.mem_append_right more hin⟩

theorem During.prepend {u : Screen} {act : ModeSetAct} (h : During t u act)
    (hs : s.log <:+ t.log) : During s u act := by
  obtain ⟨later, hlog, hin⟩ := h
  obtain ⟨more, hmore⟩ := hs
  exact ⟨later ++ more, by rw [hlog, ← hmore, List.append_assoc], List.mem_append_left more hin⟩

theorem not_during_same {act : ModeSetAct} (h : t.log = s.log) : ¬ During s t act := by
  rintro ⟨later, hlog, hin⟩
  rw [h] at hlog
  have hnil : later = [] := List.self_eq_append_left.mp hlog
  rw [hnil] at hin
  cases hin

/-- A single request. -/
theorem during_cons {act last : ModeSetAct} (h : t.log = last :: s.log) :
    During s t act ↔ act = last := by
  constructor
  · intro hduring
    obtain ⟨later, hlog, hin⟩ := hduring
    rw [h, ← List.singleton_append] at hlog
    rw [← List.append_cancel_right hlog] at hin
    exact List.mem_singleton.mp hin
  · intro hact
    subst hact
    exact ⟨[act], h, List.mem_singleton.mpr rfl⟩

/-- A request comes from one of two steps. -/
theorem during_split {u : Screen} {act : ModeSetAct} (hst : s.log <:+ t.log)
    (htu : t.log <:+ u.log) (h : During s u act) : During s t act ∨ During t u act := by
  obtain ⟨later, hlog, hin⟩ := h
  obtain ⟨first, hfirst⟩ := hst
  obtain ⟨second, hsecond⟩ := htu
  rw [← hsecond, ← hfirst, ← List.append_assoc] at hlog
  rw [← List.append_cancel_right hlog] at hin
  cases List.mem_append.mp hin with
  | inl hsec => exact Or.inr ⟨second, hsecond.symm, hsec⟩
  | inr hfst => exact Or.inl ⟨first, hfirst.symm, hfst⟩

/-- What one `drmmode_crtc_set_mode` returns and asks for. -/
theorem crtcSetMode_spec (ids : FbIds) (s : Screen) (i : Nat) (testOnly : Bool) (a : SetAnswer) :
    ((drmmodeCrtcSetMode ids s i testOnly a).2 = true ↔ Granted s i a) ∧
      (Granted s i a → During s (drmmodeCrtcSetMode ids s i testOnly a).1
        ⟨i, testOnly, (s.crtcs i).config, true⟩) ∧
      ∀ act, During s (drmmodeCrtcSetMode ids s i testOnly a).1 act → act.accepted = true →
        act.testOnly = testOnly ∧ Granted s i a := by
  unfold drmmodeCrtcSetMode drmmodeCrtcGetFbId Granted
  by_cases hid : crtcFbId s (s.crtcs i) = 0 ∧ a.importOk = false
  · rw [if_pos hid.1, hid.2]
    simp only [Bool.false_eq_true, if_false]
    refine ⟨iff_of_false (by decide) fun h => absurd (h.1 hid.1) (by decide),
      fun h => absurd (h.1 hid.1) (by decide), fun act h => absurd h (not_during_same rfl)⟩
  · have himport : crtcFbId s (s.crtcs i) = 0 → a.importOk = true := fun hzero => by
      by_contra hno
      exact hid ⟨hzero, Bool.eq_false_iff.mpr hno⟩
    obtain ⟨t, fbId, hget, hlog, hcrtcs⟩ : ∃ t fbId,
        (if crtcFbId s (s.crtcs i) = 0 then
          if a.importOk then
            (({ s with fbs := ids.pick s.fbs :: s.fbs, fbId := ids.pick s.fbs } : Screen),
              some (ids.pick s.fbs))
          else (s, none)
        else (s, some (crtcFbId s (s.crtcs i)))) = (t, some fbId) ∧ t.log = s.log ∧
          t.crtcs = s.crtcs := by
      by_cases hzero : crtcFbId s (s.crtcs i) = 0
      · rw [if_pos hzero, himport hzero]
        exact ⟨_, _, rfl, rfl, rfl⟩
      · rw [if_neg hzero]
        exact ⟨_, _, rfl, rfl, rfl⟩
    simp only [hget]
    cases hrequest : a.requestOk with
    | false =>
        simp only [Bool.not_false, if_true, Bool.false_eq_true, false_and, and_false]
        exact ⟨trivial, fun h => h.elim, fun act h => absurd h (not_during_same hlog)⟩
    | true =>
        have hmade : ∀ act, During s (commit t i testOnly fbId a.kernelOk) act ↔
            act = ⟨i, testOnly, (s.crtcs i).config, a.kernelOk⟩ := fun act =>
          during_cons (by rw [commit, hlog, hcrtcs])
        simp only [Bool.not_true, Bool.false_eq_true, if_false, true_and, hmade]
        refine ⟨⟨fun h => ⟨himport, h⟩, fun h => h.2⟩, fun h => by rw [h.2], ?_⟩
        rintro act rfl haccepted
        exact ⟨rfl, himport, haccepted⟩

theorem keeps_hooks (ids : FbIds) (i : Nat) (s : Screen) (a : ModeAnswer) :
    Keeps s (a.hooks ids i s) := by
  cases a with
  | rotateFails => exact Keeps.refl s
  | rotated first present again presentAgain real =>
      have h := keeps_obeyed ids
      exact h.dpmsHooks s i (fun s => obeyed_run h present s)
        (fun k s => obeyed_setModeMajor h (again k) s i) fun k s => obeyed_run h (presentAgain k) s

/-- What follows a test sets the mode by the real request, or the hooks have set it. -/
theorem accepted_after_test (ids : FbIds) (real : SetAnswer) {u : Screen}
    (htest : s.log <:+ t.log) (honly : ∀ act, During s t act → act.accepted = true →
      act.testOnly = true)
    (hhooks : t.log <:+ u.log) (hatomic : u.atomicModeset = true)
    (hconfig : (u.crtcs i).config = config) :
    Accepted s (setTested ids u i real) i config ↔ Granted u i real ∨ Accepted t u i config := by
  obtain ⟨-, hmade, hrealOnly⟩ := crtcSetMode_spec ids u i false real
  have hend : (setTested ids u i real).log = (drmmodeCrtcSetMode ids u i false real).1.log := by
    rw [setTested, hatomic]
    rfl
  have hlast : u.log <:+ (setTested ids u i real).log := ((keeps_obeyed ids).setTested u i real).log
  constructor
  · intro haccepted
    rcases during_split (htest.trans hhooks) hlast haccepted with hbefore | hreal
    · rcases during_split htest hhooks hbefore with hin | hhook
      · have hreally : false = true := honly _ hin rfl
        cases hreally
      · exact Or.inr hhook
    · obtain ⟨later, hlater, hin⟩ := hreal
      exact Or.inl (hrealOnly ⟨i, false, config, true⟩ ⟨later, hend.symm.trans hlater, hin⟩ rfl).2
  · intro hset
    cases hset with
    | inl hreal =>
        obtain ⟨later, hlater, hin⟩ := hmade hreal
        rw [hconfig] at hin
        exact During.prepend (t := u) ⟨later, hend.trans hlater, hin⟩ (htest.trans hhooks)
    | inr hhook => exact (During.prepend hhook htest).append hlast

/-- **`drmmode_set_mode_major`** tells the truth and undoes a failure exactly when it sets
the mode for real after what it takes for success. -/
theorem mode_set_truthful_iff (ids : FbIds) (s : Screen) (i : Nat) (config : Config)
    (a : ModeAnswer) :
    Truthful s i config (drmmodeSetModeMajor ids s i (some config) a) ↔
      SetForReal ids s i config a := by
  have hlog : (s.setConfig i config).log = s.log := rfl
  have hconfig : ((s.setConfig i config).crtcs i).config = config := by
    rw [Screen.setConfig, Screen.setCrtc_self]
  cases a with
  | rotateFails =>
      rw [drmmodeSetModeMajor, ModeAnswer.setModeMajor, SetForReal]
      exact iff_of_false (fun h => not_during_same hlog (h.accepted rfl)) id
  | rotated first present again presentAgain real =>
      rw [drmmodeSetModeMajor, ModeAnswer.setModeMajor, SetForReal, tested]
      have hatomic : (s.setConfig i config).atomicModeset = s.atomicModeset := rfl
      simp only [hatomic]
      obtain ⟨hsucceeds, hmade, honly⟩ := crtcSetMode_spec ids (s.setConfig i config) i
        s.atomicModeset first
      have hkeeps := keeps_crtcSetMode ids (s.setConfig i config) i s.atomicModeset first
      have hconfig' := (hkeeps.config i).trans hconfig
      by_cases hgranted : Granted (s.setConfig i config) i first
      · have hok := hsucceeds.mpr hgranted
        have hfirst := hmade hgranted
        rw [hconfig] at hfirst
        cases hmode : s.atomicModeset with
        | false =>
            -- The first mode set is the real one.
            rw [hmode] at hok hfirst
            generalize drmmodeCrtcSetMode ids (s.setConfig i config) i false first = out
              at hok hfirst ⊢
            obtain ⟨t, ok⟩ := out
            simp only at hok hfirst
            subst hok
            refine iff_of_true ⟨fun _ => ?_, fun h => by cases h⟩ fun h => by cases h
            have hhooks := keeps_hooks ids i t (.rotated first present again presentAgain real)
            exact During.append hfirst (hhooks.trans ((keeps_obeyed ids).setTested _ i real)).log
        | true =>
            -- The first mode set is a test only.
            have hmode' := hkeeps.atomic.trans (hatomic.trans hmode)
            have hstart := hkeeps.log
            rw [hmode] at hok honly hstart hmode' hconfig'
            generalize drmmodeCrtcSetMode ids (s.setConfig i config) i true first = out
              at hok honly hstart hmode' hconfig' ⊢
            obtain ⟨t, ok⟩ := out
            simp only at hok honly hstart hmode' hconfig'
            subst hok
            have hhooks := keeps_hooks ids i t (.rotated first present again presentAgain real)
            have hafter := accepted_after_test ids real hstart
              (fun act hin haccepted => (honly act hin haccepted).1) hhooks.log
              (hhooks.atomic.trans hmode') ((hhooks.config i).trans hconfig')
            simp only [hgranted, forall_const]
            exact ⟨fun h => hafter.mp (h.accepted rfl),
              fun h => ⟨fun _ => hafter.mpr h, fun h => by cases h⟩⟩
      · have hno : ¬ (drmmodeCrtcSetMode ids (s.setConfig i config) i s.atomicModeset first).2 = true :=
          mt hsucceeds.mp hgranted
        generalize drmmodeCrtcSetMode ids (s.setConfig i config) i s.atomicModeset first = out
          at hno ⊢
        obtain ⟨t, ok⟩ := out
        cases ok with
        | true => exact absurd rfl hno
        | false =>
            refine iff_of_true ⟨(fun h => by cases h), fun _ => ?_⟩ fun _ h => absurd h hgranted
            show ((t.setConfig i (s.crtcs i).config).crtcs i).config = _
            rw [Screen.setConfig, Screen.setCrtc_self]

end Result

/-- Every mode set is granted. -/
def grantedSet : SetAnswer := ⟨true, true, true⟩

/-- A mode set without anything between, with this answer to the real one. -/
def plainAnswer (real : SetAnswer) : ModeAnswer :=
  .rotated grantedSet (.done true) (fun _ => .rotateFails) (fun _ => .done true) real

/-- One enabled CRTC that shows the front buffer, with its output. -/
def oneHead (atomicModeset : Bool) : Screen where
  crtcs := fun _ => ⟨⟨1, 1, 0, 0⟩, true, true, true, false, none, 0, false, false, false⟩
  numCrtc := 1
  outputs := [⟨some 0, some 30, true, true⟩]
  fbId := 5
  reversePrimeOffloadMode := false
  atomicModeset := atomicModeset
  pendingModeset := false
  fbs := [5]
  scanout := fun _ => some 5
  log := []

/-- **A failed rotation is reported as a mode set**, and what it was to be is kept; so is a
mode set that only its test was good for. -/
theorem rotation_failure_untruthful :
    let out := drmmodeSetModeMajor .above (oneHead false) 0 (some ⟨2, 2, 0, 0⟩) .rotateFails
    let tested := drmmodeSetModeMajor .above (oneHead true) 0 (some ⟨2, 1, 0, 0⟩)
      (plainAnswer ⟨true, true, false⟩)
    out.2 = true ∧ out.1.log = [] ∧ (out.1.crtcs 0).config = ⟨2, 2, 0, 0⟩ ∧
      ¬ Truthful (oneHead false) 0 ⟨2, 2, 0, 0⟩ out ∧
      tested.2 = true ∧
      tested.1.log = [⟨0, false, ⟨2, 1, 0, 0⟩, false⟩, ⟨0, true, ⟨2, 1, 0, 0⟩, true⟩] := by
  refine ⟨rfl, rfl, rfl, fun h => ?_, by decide +kernel, by decide +kernel⟩
  exact not_during_same rfl (h.accepted rfl)

end LoongsonVideo.Driver.ModeSet
