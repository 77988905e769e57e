import LoongsonVideo.Driver.AtomicModeset
import LoongsonVideo.Driver.DpmsCommit
import LoongsonVideo.Driver.GlamorHooks
import LoongsonVideo.Driver.ModeSet

/-!
# Five models of one mode set

`drmmode_crtc_set_mode` and `drmmode_set_mode_major` are also in `Scanout`, which follows the
framebuffer ids, in `Outputs` and `DpmsCommit`, which build the atomic request, and in
`GlamorHooks`, which counts calls.  Each keeps what its claims need.  `ModeSet` has the
most of what a mode set goes through, and here the four others are shown to be that one
seen from outside: what one of them does, `ModeSet` does for some answers, with the same
result, and both have the same framebuffers and pending mode sets afterwards.

* `Parts.Projects.run`: what a copy's parts have to keep, and that the whole keeps it.
* `scanout_projects`, `outputs_projects`, `commit_projects`, `hooks_projects`: the copies.
* `unflipFallback_projects`: `ms_present_unflip`, which `GlamorHooks` has too.

Where a request is built, whether that came through is the answer `requestOk` of `ModeSet`.
-/

namespace LoongsonVideo.Driver.ModeSetProjection

open LoongsonVideo.Driver.Scanout (FbIds)
open LoongsonVideo.Driver.ModeSet (Config SetAnswer ModeAnswer Dispatch)

/-! ## What the models share -/

structure CrtcView where
  enabled : Bool
  dpmsOn : Bool
  needModeset : Bool
  primeFb : Option Nat
  rotateFbId : Nat
  deriving DecidableEq, Repr

/-- What other models have of a screen of `ModeSet`. -/
structure View where
  crtcs : Nat → CrtcView
  fbId : Nat
  reversePrimeOffloadMode : Bool
  atomicModeset : Bool
  fbs : List Nat

def CrtcView.of (crtc : ModeSet.Crtc) : CrtcView :=
  ⟨crtc.enabled, crtc.dpmsOn, crtc.needModeset, crtc.primeFb, crtc.rotateFbId⟩

def view (t : ModeSet.Screen) : View :=
  ⟨fun i => .of (t.crtcs i), t.fbId, t.reversePrimeOffloadMode, t.atomicModeset, t.fbs⟩

namespace View

def setCrtc (v : View) (i : Nat) (f : CrtcView → CrtcView) : View :=
  { v with crtcs := Function.update v.crtcs i (f (v.crtcs i)) }

/-- What the hooks of a mode set do to its CRTC. -/
def madeUp (v : View) (i : Nat) : View :=
  v.setCrtc i fun crtc => { crtc with needModeset := false, dpmsOn := true }

/-- The id `drmmode_crtc_get_fb_id` has before the import. -/
def crtcFbId (v : View) (i : Nat) : Nat :=
  match (v.crtcs i).primeFb with
  | some fbId => if !v.reversePrimeOffloadMode then fbId else 0
  | none => if (v.crtcs i).rotateFbId ≠ 0 then (v.crtcs i).rotateFbId else v.fbId

/-- An import of the front buffer. -/
def imported (v : View) (ids : FbIds) : View :=
  { v with fbs := ids.pick v.fbs :: v.fbs, fbId := ids.pick v.fbs }

/-- One `drmmode_crtc_set_mode`. -/
def setMode (v : View) (ids : FbIds) (i : Nat) (b : SetAnswer) : View × Bool :=
  if v.crtcFbId i = 0 then
    if b.importOk then (v.imported ids, b.requestOk && b.kernelOk) else (v, false)
  else (v, b.requestOk && b.kernelOk)

end View

section View

variable (ids : FbIds) (t : ModeSet.Screen) (i : Nat)

theorem view_setCrtc {f : ModeSet.Crtc → ModeSet.Crtc} {g : CrtcView → CrtcView}
    (h : ∀ crtc, CrtcView.of (f crtc) = g (.of crtc)) :
    view (t.setCrtc i f) = (view t).setCrtc i g := by
  have hcrtcs : (fun j => CrtcView.of ((t.setCrtc i f).crtcs j)) =
      Function.update (fun j => CrtcView.of (t.crtcs j)) i (g (.of (t.crtcs i))) := by
    funext j
    by_cases hj : j = i
    · subst hj
      rw [ModeSet.Screen.setCrtc_self, Function.update_self, h]
    · rw [ModeSet.Screen.setCrtc_of_ne t f hj, Function.update_of_ne hj]
  simp only [view, View.setCrtc, hcrtcs]
  rfl

/-- A part of a CRTC's record that only `ModeSet` has. -/
theorem view_setCrtc_same {f : ModeSet.Crtc → ModeSet.Crtc}
    (h : ∀ crtc, CrtcView.of (f crtc) = .of crtc) : view (t.setCrtc i f) = view t := by
  rw [view_setCrtc t i (g := id) h]
  simp only [View.setCrtc, id_eq, Function.update_eq_self]

@[simp] theorem view_setConfig (config : Config) : view (t.setConfig i config) = view t :=
  view_setCrtc_same t i fun _ => rfl

@[simp] theorem view_setActive : view (t.setActive i) = view t :=
  view_setCrtc_same t i fun _ => rfl

@[simp] theorem view_setFlippingActive (flippingActive : Bool) :
    view (t.setFlippingActive i flippingActive) = view t :=
  view_setCrtc_same t i fun _ => rfl

/-- **One call of the hub**, on what the models share. -/
theorem crtcSetMode_view (testOnly : Bool) (b : SetAnswer) :
    (view (ModeSet.drmmodeCrtcSetMode ids t i testOnly b).1,
      (ModeSet.drmmodeCrtcSetMode ids t i testOnly b).2) = (view t).setMode ids i b := by
  have hown : ModeSet.crtcFbId t (t.crtcs i) = (view t).crtcFbId i := rfl
  unfold ModeSet.drmmodeCrtcSetMode ModeSet.drmmodeCrtcGetFbId View.setMode
  rw [hown]
  by_cases hzero : (view t).crtcFbId i = 0
  · rw [if_pos hzero, if_pos hzero]
    cases b.importOk with
    | false => rfl
    | true => cases hrequest : b.requestOk <;> rfl
  · rw [if_neg hzero, if_neg hzero]
    cases hrequest : b.requestOk <;> rfl

/-! ## The hooks of a mode set -/

/-- A flush that dispatches no unflip. -/
theorem initShared_view (presented : Bool) :
    view (ModeSet.drmmodeInitSharedPixmapFlipping t i ((Dispatch.done presented).run ids)) =
      view t := by
  unfold ModeSet.drmmodeInitSharedPixmapFlipping
  split
  · rfl
  · split
    · rfl
    · exact view_setFlippingActive t i presented

/-- A mode set that the rotation ends keeps the CRTC's own values. -/
theorem again_view :
    view (((ModeAnswer.rotateFails).setModeMajor ids t i (t.crtcs i).config).1) = view t := by
  simp only [ModeAnswer.setModeMajor, view_setActive, view_setConfig]

theorem outputDpmsOn_view (k : Nat) (presented : Bool) :
    view (ModeSet.drmmodeOutputDpmsOn t k i
      (fun t => ((ModeAnswer.rotateFails).setModeMajor ids t i (t.crtcs i).config).1)
      ((Dispatch.done presented).run ids)) = view t := by
  have hneeded (t : ModeSet.Screen) : view (ModeSet.setIfNeeded t i
      fun t => ((ModeAnswer.rotateFails).setModeMajor ids t i (t.crtcs i).config).1) = view t := by
    unfold ModeSet.setIfNeeded
    split
    · exact again_view ids t i
    · rfl
  unfold ModeSet.drmmodeOutputDpmsOn
  split
  · rfl
  · split
    · rfl
    · simp only
      split
      · rw [initShared_view, hneeded]
        rfl
      · rw [hneeded]
        rfl

theorem outputsOn_view (presented : Bool) (outputs : List Nat) (t : ModeSet.Screen) :
    view (ModeSet.outputsOn i
      (fun _ t => ((ModeAnswer.rotateFails).setModeMajor ids t i (t.crtcs i).config).1)
      (fun _ => (Dispatch.done presented).run ids) outputs t) = view t := by
  induction outputs generalizing t with
  | nil => rfl
  | cons k rest ih =>
      rw [ModeSet.outputsOn]
      split
      · exact ih t
      · split
        · exact ih t
        · split
          · exact ih t
          · rw [ih, outputDpmsOn_view]

theorem crtcDpmsOn_view :
    view (ModeSet.drmmodeCrtcDpmsOn (t.setNeedModeset i false) i) = (view t).madeUp i := by
  have hset : view ((t.setNeedModeset i false).setDpmsOn i) = (view t).madeUp i := by
    rw [ModeSet.Screen.setDpmsOn, view_setCrtc _ i (g := fun c => { c with dpmsOn := true })
        fun _ => rfl, ModeSet.Screen.setNeedModeset,
      view_setCrtc _ i (g := fun c => { c with needModeset := false }) fun _ => rfl]
    simp only [View.madeUp, View.setCrtc, Function.update_self, Function.update_idem]
  unfold ModeSet.drmmodeCrtcDpmsOn
  simp only
  split
  · exact hset
  · exact hset

/-- The hooks when nothing is dispatched. -/
theorem dpmsHooks_view (presented : Bool) :
    view (ModeSet.dpmsHooks t i ((Dispatch.done presented).run ids)
      (fun _ t => ((ModeAnswer.rotateFails).setModeMajor ids t i (t.crtcs i).config).1)
      (fun _ => (Dispatch.done presented).run ids)) = (view t).madeUp i := by
  have hback (t : ModeSet.Screen) :
      view (ModeSet.initIfBack t i ((Dispatch.done presented).run ids)) = view t := by
    unfold ModeSet.initIfBack
    split
    · exact initShared_view ids t i presented
    · rfl
  unfold ModeSet.dpmsHooks
  simp only
  rw [outputsOn_view, hback, crtcDpmsOn_view]
  rfl

theorem setTested_view (real : SetAnswer) :
    view (ModeSet.setTested ids t i real) = view (if t.atomicModeset then
      (ModeSet.drmmodeCrtcSetMode ids t i false real).1 else t) :=
  view_setActive _ i

end View

/-! ## A copy of a mode set -/

section Copies

variable {σ : Type*}

/-- A `drmmode_crtc_set_mode` over some state, and what the import and the kernel answer. -/
structure SetPart (σ : Type*) where
  importOk : Bool
  kernelOk : Bool
  call : Bool → σ → σ × Bool

/-- The parts of a `drmmode_set_mode_major` over some state, from `xf86CrtcRotate` on: the mode
is set, only as a test with atomic mode setting, the hooks are called, and what was only
tested is set. -/
structure Parts (σ : Type*) where
  rotateOk : Bool
  atomicModeset : σ → Bool
  first : SetPart σ
  restore : σ → σ
  hooks : σ → σ
  real : SetPart σ
  finish : σ → σ

def Parts.run (p : Parts σ) (s : σ) : σ × Bool :=
  if !p.rotateOk then (s, true)
  else
    match p.first.call (p.atomicModeset s) s with
    | (s, false) => (p.restore s, false)
    | (s, true) =>
        let s := p.hooks s
        (p.finish (if p.atomicModeset s then (p.real.call false s).1 else s), true)

/-- The answers of the hub that are those of a copy. -/
def Parts.answer (p : Parts σ) (requestOk requestAgainOk : Bool) : ModeAnswer :=
  if !p.rotateOk then .rotateFails
  else
    .rotated ⟨p.first.importOk, requestOk, p.first.kernelOk⟩ (.done false) (fun _ => .rotateFails)
      (fun _ => .done false) ⟨p.real.importOk, requestAgainOk, p.real.kernelOk⟩

variable (ids : FbIds) (i : Nat) (R : σ → View → Prop)

/-- A call is one `drmmode_crtc_set_mode`, seen through `R`. -/
def SetPart.Projects (f : SetPart σ) : Prop :=
  ∀ testOnly s v, R s v → ∃ requestOk,
    R (f.call testOnly s).1 (v.setMode ids i ⟨f.importOk, requestOk, f.kernelOk⟩).1 ∧
      (f.call testOnly s).2 = (v.setMode ids i ⟨f.importOk, requestOk, f.kernelOk⟩).2

/-- What each part has to keep. -/
structure Parts.Projects (p : Parts σ) : Prop where
  atomic : ∀ s v, R s v → p.atomicModeset s = v.atomicModeset
  first : p.first.Projects ids i R
  restore : ∀ s v, R s v → R (p.restore s) v
  hooks : ∀ s v, R s v → R (p.hooks s) (v.madeUp i)
  real : p.real.Projects ids i R
  finish : ∀ s v, R s v → R (p.finish s) v

variable {ids i R}

/-- The call of the hub that it is. -/
theorem SetPart.Projects.at_screen {f : SetPart σ} (h : f.Projects ids i R) {s : σ}
    {t : ModeSet.Screen} (hR : R s (view t)) (testOnly testOnly' : Bool) :
    ∃ requestOk, R (f.call testOnly s).1 (view (ModeSet.drmmodeCrtcSetMode ids t i testOnly'
        ⟨f.importOk, requestOk, f.kernelOk⟩).1) ∧
      (f.call testOnly s).2 = (ModeSet.drmmodeCrtcSetMode ids t i testOnly'
        ⟨f.importOk, requestOk, f.kernelOk⟩).2 := by
  obtain ⟨requestOk, hkept, hresult⟩ := h testOnly s (view t) hR
  have hcall := crtcSetMode_view ids t i testOnly' ⟨f.importOk, requestOk, f.kernelOk⟩
  refine ⟨requestOk, ?_, ?_⟩
  · rw [show view _ = (View.setMode (view t) ids i _).1 from congrArg Prod.fst hcall]
    exact hkept
  · exact hresult.trans (congrArg Prod.snd hcall).symm

/-- The real mode set after a test. -/
theorem Parts.Projects.tested {p : Parts σ} (h : p.Projects ids i R) {s : σ} {t : ModeSet.Screen}
    (hR : R s (view t)) :
    ∃ requestOk, R (p.finish (if p.atomicModeset s then (p.real.call false s).1 else s))
      (view (ModeSet.setTested ids t i ⟨p.real.importOk, requestOk, p.real.kernelOk⟩)) := by
  rw [h.atomic s (view t) hR]
  cases hatomic : t.atomicModeset with
  | false =>
      refine ⟨false, ?_⟩
      rw [setTested_view, hatomic, show (view t).atomicModeset = false from hatomic]
      exact h.finish s (view t) hR
  | true =>
      obtain ⟨requestOk, hreal, _⟩ := h.real.at_screen hR false false
      refine ⟨requestOk, ?_⟩
      rw [setTested_view, hatomic, show (view t).atomicModeset = true from hatomic]
      exact h.finish _ _ hreal

/-- **A copy is a mode set**: with the answers of the copy, `ModeSet` does what the copy does and
has the same result. -/
theorem Parts.Projects.run {p : Parts σ} (h : p.Projects ids i R) {s : σ} {t : ModeSet.Screen}
    (hR : R s (view t)) (config : Config) :
    ∃ requestOk requestAgainOk,
      R (p.run s).1 (view ((p.answer requestOk requestAgainOk).setModeMajor ids t i config).1) ∧
        (p.run s).2 = ((p.answer requestOk requestAgainOk).setModeMajor ids t i config).2 := by
  rw [← view_setConfig t i config] at hR
  unfold Parts.run Parts.answer
  cases p.rotateOk with
  | false =>
      refine ⟨false, false, ?_, rfl⟩
      simp only [Bool.not_false, if_true, ModeAnswer.setModeMajor, view_setActive]
      exact hR
  | true =>
      simp only [Bool.not_true, Bool.false_eq_true, if_false, ModeAnswer.setModeMajor]
      obtain ⟨requestOk, hset, hresult⟩ := h.first.at_screen hR (p.atomicModeset s)
        (t.setConfig i config).atomicModeset
      generalize p.first.call (p.atomicModeset s) s = out at hset hresult ⊢
      obtain ⟨s, ok⟩ := out
      generalize hcall : ModeSet.drmmodeCrtcSetMode ids (t.setConfig i config) i
        (t.setConfig i config).atomicModeset ⟨p.first.importOk, requestOk, p.first.kernelOk⟩ = call
        at hset hresult
      obtain ⟨t', ok'⟩ := call
      simp only at hset hresult
      subst hresult
      cases ok with
      | false =>
          refine ⟨requestOk, false, ?_, ?_⟩
          · simp only [hcall, view_setConfig]
            exact h.restore s _ hset
          · simp only [hcall]
      | true =>
          have hhooks := h.hooks s _ hset
          rw [← dpmsHooks_view ids t' i false] at hhooks
          obtain ⟨requestAgainOk, hreal⟩ := h.tested hhooks
          refine ⟨requestOk, requestAgainOk, ?_, ?_⟩
          · simp only [hcall]
            exact hreal
          · simp only [hcall]

end Copies

/-! ## `Scanout`: the same framebuffers -/

section Scanout

variable {ids : FbIds} {i : Nat}

structure ShowsCrtc (pixmapFb : Nat → Nat) (crtc : Scanout.Crtc) (c : CrtcView) : Prop where
  enabled : c.enabled = crtc.enabled
  needModeset : c.needModeset = crtc.needModeset
  primeFb : c.primeFb = crtc.primePixmap.map fun ppix => pixmapFb ppix.id
  rotateFbId : c.rotateFbId = crtc.rotateFbId

structure Shows (i : Nat) (s : Scanout.Drmmode) (v : View) : Prop where
  there : i < s.crtcs.length
  crtcs : ∀ j crtc, s.crtcs[j]? = some crtc → ShowsCrtc s.pixmapFb crtc (v.crtcs j)
  fbId : v.fbId = s.fbId
  offload : v.reversePrimeOffloadMode = s.reversePrimeOffloadMode
  atomic : v.atomicModeset = s.atomicModeset
  fbs : v.fbs = s.fbs.map Prod.fst

variable {s : Scanout.Drmmode} {v : View}

theorem Shows.setCrtc {f : Scanout.Crtc → Scanout.Crtc} {g : CrtcView → CrtcView}
    (h : Shows i s v)
    (hfg : ∀ crtc c, ShowsCrtc s.pixmapFb crtc c → ShowsCrtc s.pixmapFb (f crtc) (g c)) :
    Shows i (s.setCrtc i f) (v.setCrtc i g) := by
  refine ⟨?_, fun j crtc hj => ?_, h.fbId, h.offload, h.atomic, h.fbs⟩
  · simp only [Scanout.Drmmode.setCrtc, List.length_modify]
    exact h.there
  · simp only [Scanout.Drmmode.setCrtc, List.getElem?_modify] at hj
    obtain ⟨old, hold, rfl⟩ := Option.map_eq_some_iff.mp hj
    have hshown := h.crtcs j old hold
    by_cases hij : i = j
    · subst hij
      simp only [View.setCrtc, Function.update_self, if_true]
      exact hfg old _ hshown
    · simp only [View.setCrtc, Function.update_of_ne (Ne.symm hij), if_neg hij]
      exact hshown

theorem Shows.withMode (h : Shows i s v) (mode : Scanout.Mode) :
    Shows i (s.setCrtc i fun crtc => crtc.withMode mode) v := by
  have hset := h.setCrtc (f := fun crtc => crtc.withMode mode) (g := id)
    fun _ _ hc => ⟨hc.enabled, hc.needModeset, hc.primeFb, hc.rotateFbId⟩
  rwa [View.setCrtc, id_eq, Function.update_eq_self] at hset

theorem Shows.crtcFbId (h : Shows i s v) {crtc : Scanout.Crtc} (hcrtc : s.crtcs[i]? = some crtc) :
    (Scanout.crtcFbId s crtc).1 = v.crtcFbId i := by
  have hshown := h.crtcs i crtc hcrtc
  unfold Scanout.crtcFbId View.crtcFbId
  rw [hshown.primeFb, hshown.rotateFbId, h.offload, h.fbId]
  cases crtc.primePixmap with
  | none =>
      simp only [Option.map_none]
      split <;> rfl
  | some ppix =>
      simp only [Option.map_some]
      split <;> rfl

/-- `drmmode_crtc_set_mode` of `Scanout`, where `commitOk` also stands for the request. -/
def scanoutSet (ids : FbIds) (i : Nat) (importOk commitOk : Bool) : SetPart Scanout.Drmmode :=
  ⟨importOk, commitOk, fun testOnly s =>
    Scanout.drmmodeCrtcSetMode ids s i testOnly importOk commitOk⟩

theorem scanoutSet_projects (importOk commitOk : Bool) :
    (scanoutSet ids i importOk commitOk).Projects ids i (Shows i) := by
  intro testOnly s v h
  have hthere : i < s.crtcs.length := h.there
  have hcrtc : s.crtcs[i]? = some s.crtcs[i] := List.getElem?_eq_getElem hthere
  refine ⟨true, ?_⟩
  simp only [scanoutSet, Scanout.drmmodeCrtcSetMode, hcrtc, Scanout.drmmodeCrtcGetFbId,
    h.crtcFbId hcrtc, View.setMode, Bool.true_and]
  by_cases hzero : v.crtcFbId i = 0
  · simp only [if_pos hzero]
    cases importOk with
    | false => exact ⟨⟨h.there, h.crtcs, h.fbId, h.offload, h.atomic, h.fbs⟩, rfl⟩
    | true =>
        have hpick : ids.pick v.fbs = ids.pick (s.fbs.map Prod.fst) := by rw [h.fbs]
        have hfbs : (v.imported ids).fbs =
            ids.pick (s.fbs.map Prod.fst) :: s.fbs.map Prod.fst := by rw [View.imported, h.fbs]
        exact ⟨⟨h.there, h.crtcs, hpick, h.offload, h.atomic, hfbs⟩, rfl⟩
  · simp only [if_neg hzero, and_true]
    exact ⟨h.there, h.crtcs, h.fbId, h.offload, h.atomic, h.fbs⟩

def scanoutParts (ids : FbIds) (i : Nat) (saved : Scanout.Mode) (a : Scanout.ModeAnswer) :
    Parts Scanout.Drmmode where
  rotateOk := a.rotateOk
  atomicModeset := fun s => s.atomicModeset
  first := scanoutSet ids i a.importOk a.commitOk
  restore := fun s => s.setCrtc i fun crtc => crtc.withMode saved
  hooks := fun s => s.setCrtc i fun crtc => { crtc with needModeset := false }
  real := scanoutSet ids i a.importAgainOk a.commitAgainOk
  finish := id

theorem scanoutParts_projects (saved : Scanout.Mode) (a : Scanout.ModeAnswer) :
    (scanoutParts ids i saved a).Projects ids i (Shows i) where
  atomic := fun _ _ h => h.atomic.symm
  first := scanoutSet_projects a.importOk a.commitOk
  restore := fun _ _ h => h.withMode saved
  hooks := fun _ _ h => h.setCrtc fun _ _ hc => ⟨hc.enabled, rfl, hc.primeFb, hc.rotateFbId⟩
  real := scanoutSet_projects a.importAgainOk a.commitAgainOk
  finish := fun _ _ h => h

/-- The screen once the mode is stored and `xf86CrtcRotate` has returned. -/
def scanoutRotated (ids : FbIds) (s : Scanout.Drmmode) (i : Nat) (mode : Scanout.Mode)
    (a : Scanout.ModeAnswer) : Scanout.Drmmode :=
  a.rotate.foldl (fun s call => call.apply ids i s) (s.setCrtc i fun crtc => crtc.withMode mode)

theorem scanoutParts_run {saved : Scanout.Crtc} (hsaved : s.crtcs[i]? = some saved)
    (mode : Scanout.Mode) (a : Scanout.ModeAnswer) :
    (scanoutParts ids i saved.mode a).run (scanoutRotated ids s i mode a) =
      Scanout.drmmodeSetModeMajor ids s i mode a := by
  simp only [Parts.run, scanoutParts, scanoutSet, Scanout.drmmodeSetModeMajor, hsaved,
    scanoutRotated, id_eq]
  by_cases hrotate : a.rotateOk = true
  · simp only [hrotate, Bool.not_true, Bool.false_eq_true, if_false]
    generalize Scanout.drmmodeCrtcSetMode ids _ i _ a.importOk a.commitOk = out
    obtain ⟨s, ok⟩ := out
    cases ok with
    | false => rfl
    | true =>
        by_cases hatomic : s.atomicModeset = true
        · simp only [Scanout.Drmmode.setCrtc, hatomic, if_true]
        · simp only [Scanout.Drmmode.setCrtc, hatomic, Bool.false_eq_true, if_false]
  · simp only [hrotate, Bool.not_false, if_true]

/-- **`Scanout` is `ModeSet`** for a CRTC whose rotation has left it the same framebuffer. -/
theorem scanout_projects {saved : Scanout.Crtc} (hsaved : s.crtcs[i]? = some saved)
    (mode : Scanout.Mode) (a : Scanout.ModeAnswer) {t : ModeSet.Screen}
    (h : Shows i (scanoutRotated ids s i mode a) (view t)) (config : Config) :
    ∃ requestOk requestAgainOk,
      let t' := ((scanoutParts ids i saved.mode a).answer requestOk requestAgainOk).setModeMajor
        ids t i config
      Shows i (Scanout.drmmodeSetModeMajor ids s i mode a).1 (view t'.1) ∧
        (Scanout.drmmodeSetModeMajor ids s i mode a).2 = t'.2 := by
  rw [← scanoutParts_run hsaved]
  exact (scanoutParts_projects saved.mode a).run h config

end Scanout

/-! ## `Outputs`: the same pending mode sets -/

section Outputs

variable {ids : FbIds} {c : Nat}

structure Pends (c : Nat) (s : Outputs.Screen) (v : View) : Prop where
  there : c < s.crtcs.length
  needModeset : ∀ j crtc, s.crtcs[j]? = some crtc → (v.crtcs j).needModeset = crtc.needModeset
  atomic : v.atomicModeset = s.atomicModeset

variable {s : Outputs.Screen} {v : View}

theorem Pends.modesetDone (h : Pends c s v) : Pends c (s.modesetDone c) (v.madeUp c) := by
  refine ⟨?_, fun j crtc hj => ?_, h.atomic⟩
  · simp only [Outputs.Screen.modesetDone, List.length_modify]
    exact h.there
  · simp only [Outputs.Screen.modesetDone, List.getElem?_modify] at hj
    obtain ⟨old, hold, rfl⟩ := Option.map_eq_some_iff.mp hj
    by_cases hcj : c = j
    · subst hcj
      simp only [View.madeUp, View.setCrtc, Function.update_self, if_true]
    · simp only [View.madeUp, View.setCrtc, Function.update_of_ne (Ne.symm hcj), if_neg hcj]
      exact h.needModeset j old hold

/-- A call of the hub changes nothing of this. -/
theorem Pends.setMode (h : Pends c s v) (b : SetAnswer) : Pends c s (v.setMode ids c b).1 := by
  unfold View.setMode
  split
  · split
    · exact ⟨h.there, h.needModeset, h.atomic⟩
    · exact h
  · exact h

theorem setMode_result (v : View) (c : Nat) (b : SetAnswer) :
    (v.setMode ids c b).2 =
      ((v.crtcFbId c != 0 || b.importOk) && (b.requestOk && b.kernelOk)) := by
  unfold View.setMode
  by_cases hzero : v.crtcFbId c = 0
  · rw [if_pos hzero, hzero]
    cases b.importOk <;> rfl
  · rw [if_neg hzero, bne_iff_ne.mpr hzero, Bool.true_or, Bool.true_and]

def outputsSet (c : Nat) (a : Outputs.SetModeAnswer) : SetPart Outputs.Screen :=
  ⟨a.fbOk, a.commitOk, fun testOnly s => Outputs.drmmodeCrtcSetMode s c testOnly a⟩

theorem outputsSet_projects (a : Outputs.SetModeAnswer) :
    (outputsSet c a).Projects ids c (Pends c) := by
  intro testOnly s v h
  have hthere : c < s.crtcs.length := h.there
  have hcrtc : s.crtcs[c]? = some s.crtcs[c] := List.getElem?_eq_getElem hthere
  -- A request that is not built and one that lacks a property end alike.
  suffices hcall : ∃ requestOk,
      Pends c (Outputs.drmmodeCrtcSetMode s c testOnly a).1 v ∧
        (Outputs.drmmodeCrtcSetMode s c testOnly a).2 =
          (a.fbOk && (requestOk && a.commitOk)) by
    obtain ⟨requestOk, hkept, hresult⟩ := hcall
    refine ⟨a.fbOk && requestOk, hkept.setMode _, ?_⟩
    rw [setMode_result]
    simp only [outputsSet, hresult]
    cases a.fbOk <;> cases v.crtcFbId c != 0 <;> rfl
  unfold Outputs.drmmodeCrtcSetMode
  rw [hcrtc]
  simp only
  split
  · exact ⟨false, h, by simp only [Bool.false_and, Bool.and_false]⟩
  · next hfb =>
      have hfb : a.fbOk = true := by simpa using hfb
      rw [hfb]
      split
      · exact ⟨true, h, rfl⟩
      · split
        · exact ⟨false, h, rfl⟩
        · generalize Outputs.disableOrphans s c 0 s.crtcs _ = orphans
          obtain ⟨req, good⟩ := orphans
          refine ⟨good, ?_⟩
          simp only
          split
          · next hgood =>
              split
              · exact ⟨⟨h.there, h.needModeset, h.atomic⟩, by rw [hgood]; rfl⟩
              · exact ⟨⟨h.there, h.needModeset, h.atomic⟩, by rw [hgood]; rfl⟩
          · next hbad =>
              have hbad : (good && a.commitOk) = false := by simpa using hbad
              exact ⟨⟨h.there, h.needModeset, h.atomic⟩, by rw [hbad]; rfl⟩

def outputsParts (c : Nat) (a : Outputs.ModeMajorAnswer) : Parts Outputs.Screen where
  rotateOk := a.rotateOk
  atomicModeset := fun s => s.atomicModeset
  first := outputsSet c a.first
  restore := id
  hooks := fun s => s.modesetDone c
  real := outputsSet c a.again
  finish := id

theorem outputsParts_projects (a : Outputs.ModeMajorAnswer) :
    (outputsParts c a).Projects ids c (Pends c) where
  atomic := fun _ _ h => h.atomic.symm
  first := outputsSet_projects a.first
  restore := fun _ _ h => h
  hooks := fun _ _ h => h.modesetDone
  real := outputsSet_projects a.again
  finish := fun _ _ h => h

theorem outputsParts_run (s : Outputs.Screen) (a : Outputs.ModeMajorAnswer) :
    ((outputsParts c a).run s).1 = Outputs.drmmodeSetModeMajor s c a := by
  unfold Parts.run Outputs.drmmodeSetModeMajor outputsParts outputsSet
  simp only [id_eq]
  split
  · rfl
  · generalize Outputs.drmmodeCrtcSetMode s c s.atomicModeset a.first = out
    obtain ⟨s, ok⟩ := out
    cases ok <;> rfl

/-- **`Outputs` is `ModeSet`** as far as mode sets are pending. -/
theorem outputs_projects (a : Outputs.ModeMajorAnswer) {t : ModeSet.Screen}
    (h : Pends c s (view t)) (config : Config) :
    ∃ requestOk requestAgainOk,
      Pends c (Outputs.drmmodeSetModeMajor s c a) (view (((outputsParts c a).answer requestOk
        requestAgainOk).setModeMajor ids t c config).1) := by
  obtain ⟨requestOk, requestAgainOk, hkept, _⟩ := (outputsParts_projects a).run h config
  rw [outputsParts_run] at hkept
  exact ⟨requestOk, requestAgainOk, hkept⟩

end Outputs

/-! ## `DpmsCommit`: whose framebuffer is shown -/

section DpmsCommit

variable {ids : FbIds} {c : Nat}

structure CommitsCrtc (crtc : DpmsCommit.Crtc) (view : CrtcView) : Prop where
  needModeset : view.needModeset = crtc.needModeset
  primeFb : view.primeFb = crtc.prime.map fun prime => prime.fbId.toNat
  rotateFbId : view.rotateFbId = crtc.rotateFbId.toNat

/-- A front buffer has a framebuffer in both or in neither; each numbers it itself. -/
structure Commits (s : DpmsCommit.Screen) (v : View) : Prop where
  crtcs : ∀ j, CommitsCrtc (s.crtcs j) (v.crtcs j)
  fbId : v.fbId = 0 ↔ s.fbId = 0
  offload : v.reversePrimeOffloadMode = s.reversePrimeOffloadMode
  atomic : v.atomicModeset = true

variable {s : DpmsCommit.Screen} {v : View}

theorem toNat_eq_zero_iff (id : UInt32) : id.toNat = 0 ↔ id = 0 := UInt32.toNat_inj (b := 0)

theorem Commits.crtcFbId (h : Commits s v) :
    v.crtcFbId c = 0 ↔ (DpmsCommit.crtcShown s (s.crtcs c)).fbId = 0 := by
  have hcrtc := h.crtcs c
  unfold View.crtcFbId DpmsCommit.crtcShown
  rw [hcrtc.primeFb, hcrtc.rotateFbId, h.offload]
  cases (s.crtcs c).prime with
  | some prime =>
      simp only [Option.map_some]
      cases s.reversePrimeOffloadMode with
      | false => exact toNat_eq_zero_iff prime.fbId
      | true => exact ⟨fun _ => rfl, fun _ => rfl⟩
  | none =>
      simp only [Option.map_none]
      by_cases hrotate : (s.crtcs c).rotateFbId = 0
      · rw [if_neg (not_not.mpr ((toNat_eq_zero_iff _).mpr hrotate)), if_neg (not_not.mpr hrotate)]
        exact h.fbId
      · rw [if_pos (mt (toNat_eq_zero_iff _).mp hrotate), if_pos hrotate]
        exact toNat_eq_zero_iff _

theorem Commits.madeUp (h : Commits s v) (pendingModeset : Bool) :
    Commits (({ s with pendingModeset := pendingModeset } : DpmsCommit.Screen).setNeedModeset c
      false) (v.madeUp c) := by
  refine ⟨fun j => ?_, h.fbId, h.offload, h.atomic⟩
  have hcrtc := h.crtcs j
  by_cases hj : j = c
  · subst hj
    simp only [DpmsCommit.Screen.setNeedModeset, View.madeUp, View.setCrtc, Function.update_self]
    exact ⟨rfl, hcrtc.primeFb, hcrtc.rotateFbId⟩
  · simp only [DpmsCommit.Screen.setNeedModeset, View.madeUp, View.setCrtc,
      Function.update_of_ne hj]
    exact hcrtc

def commitSet (c : Nat) (a : DpmsCommit.SetAnswer) : SetPart DpmsCommit.Screen :=
  ⟨a.importFb.isSome, a.commitOk, fun testOnly s => DpmsCommit.drmmodeCrtcSetMode s c testOnly a⟩

/-- `drmmode_crtc_set_mode` from the request on. -/
theorem commitRequest_projects (h : Commits s v) (testOnly : Bool) (shown : DpmsCommit.Shown)
    (a : DpmsCommit.SetAnswer) {out : DpmsCommit.Screen × Bool}
    (hout : out = if !a.reqOk then (s, false) else if !(DpmsCommit.setModeDraft s c shown a).good
      then (s, false) else
        let s := s.commit (DpmsCommit.setModeDraft s c shown a) testOnly a.commitOk
        if a.commitOk && !testOnly then
          ({ s with outputs := s.outputs.map (DpmsCommit.Output.takeCrtc c) }, true)
        else (s, a.commitOk)) :
    ∃ requestOk, Commits out.1 v ∧ out.2 = (requestOk && a.commitOk) := by
  subst hout
  split
  · exact ⟨false, h, rfl⟩
  · split
    · exact ⟨false, h, rfl⟩
    · refine ⟨true, ?_⟩
      simp only
      split
      · next hset =>
          exact ⟨⟨h.crtcs, h.fbId, h.offload, h.atomic⟩, (Bool.and_eq_true_iff.mp hset).1.symm⟩
      · exact ⟨⟨h.crtcs, h.fbId, h.offload, h.atomic⟩, rfl⟩

theorem commitSet_projects (a : DpmsCommit.SetAnswer) :
    (commitSet c a).Projects ids c Commits := by
  intro testOnly s v h
  simp only [commitSet, DpmsCommit.drmmodeCrtcSetMode, DpmsCommit.drmmodeCrtcGetFbId, View.setMode]
  by_cases hzero : v.crtcFbId c = 0
  · simp only [if_pos hzero, if_pos (h.crtcFbId.mp hzero)]
    cases a.importFb with
    | none => exact ⟨false, h, rfl⟩
    | some id =>
        have himported : Commits { s with fbId := id.val } (v.imported ids) :=
          ⟨h.crtcs, iff_of_false (ids.ne_zero v.fbs) id.property, h.offload, h.atomic⟩
        exact commitRequest_projects himported testOnly _ a rfl
  · simp only [if_neg hzero, if_neg (mt h.crtcFbId.mpr hzero)]
    exact commitRequest_projects h testOnly _ a rfl

def commitParts (c : Nat) (a : DpmsCommit.MajorAnswer) : Parts DpmsCommit.Screen where
  rotateOk := a.rotateOk
  atomicModeset := fun _ => true
  first := commitSet c a.first
  restore := id
  hooks := fun s => ({ s with pendingModeset := true } : DpmsCommit.Screen).setNeedModeset c false
  real := commitSet c a.real
  finish := fun s => { s with pendingModeset := false }

theorem commitParts_projects (a : DpmsCommit.MajorAnswer) :
    (commitParts c a).Projects ids c Commits where
  atomic := fun _ _ h => h.atomic.symm
  first := commitSet_projects a.first
  restore := fun _ _ h => h
  hooks := fun _ _ h => h.madeUp true
  real := commitSet_projects a.real
  finish := fun _ _ h => ⟨h.crtcs, h.fbId, h.offload, h.atomic⟩

theorem commitParts_run (s : DpmsCommit.Screen) (a : DpmsCommit.MajorAnswer) :
    ((commitParts c a).run (s.setRotateFbId c a.rotateFbId)).1 =
      DpmsCommit.drmmodeSetModeMajor s c a := by
  unfold Parts.run DpmsCommit.drmmodeSetModeMajor commitParts commitSet
  simp only [id_eq, if_true]
  split
  · rfl
  · generalize DpmsCommit.drmmodeCrtcSetMode _ c true a.first = out
    obtain ⟨s, ok⟩ := out
    cases ok <;> rfl

/-- **`DpmsCommit` is `ModeSet`** for a CRTC whose rotation has left it the same framebuffer. -/
theorem commit_projects (a : DpmsCommit.MajorAnswer) {t : ModeSet.Screen}
    (h : Commits (s.setRotateFbId c a.rotateFbId) (view t)) (config : Config) :
    ∃ requestOk requestAgainOk,
      Commits (DpmsCommit.drmmodeSetModeMajor s c a) (view (((commitParts c a).answer requestOk
        requestAgainOk).setModeMajor ids t c config).1) := by
  obtain ⟨requestOk, requestAgainOk, hkept, _⟩ := (commitParts_projects a).run h config
  rw [commitParts_run] at hkept
  exact ⟨requestOk, requestAgainOk, hkept⟩

end DpmsCommit

/-! ## `GlamorHooks`: the CRTCs an unflip sets -/

section GlamorHooks

variable {ids : FbIds} {conf : GlamorHooks.Conf}

structure Hooked (conf : GlamorHooks.Conf) (w : GlamorHooks.World) (s : GlamorHooks.State)
    (v : View) : Prop where
  world : s.world = w
  crtcs : ∀ j crtc, w.crtcs[j]? = some crtc →
    (v.crtcs j).enabled = crtc.enabled ∧ (v.crtcs j).dpmsOn = crtc.dpmsOn
  atomic : v.atomicModeset = conf.atomicModeset

/-- The CRTC has DPMS on, so that a mode set does not switch it on. -/
def On (w : GlamorHooks.World) (i : Nat) : Prop :=
  ∀ crtc, w.crtcs[i]? = some crtc → crtc.dpmsOn = true

variable {w : GlamorHooks.World} {i : Nat} {s : GlamorHooks.State} {v : View}

theorem Hooked.setMode (h : Hooked conf w s v) (b : SetAnswer) :
    Hooked conf w s (v.setMode ids i b).1 := by
  unfold View.setMode
  split
  · split
    · exact ⟨h.world, h.crtcs, h.atomic⟩
    · exact h
  · exact h

theorem Hooked.madeUp (h : Hooked conf w s v) (hon : On w i) : Hooked conf w s (v.madeUp i) := by
  refine ⟨h.world, fun j crtc hj => ?_, h.atomic⟩
  obtain ⟨henabled, hdpms⟩ := h.crtcs j crtc hj
  by_cases hji : j = i
  · subst hji
    simp only [View.madeUp, View.setCrtc, Function.update_self]
    exact ⟨henabled, (hon crtc hj).symm⟩
  · simp only [View.madeUp, View.setCrtc, Function.update_of_ne hji]
    exact ⟨henabled, hdpms⟩

def hooksSet (conf : GlamorHooks.Conf) (a : GlamorHooks.SetAnswer) : SetPart GlamorHooks.State :=
  ⟨a.fbIdOk, a.setOk, fun _ s => GlamorHooks.drmmodeCrtcSetMode conf a s⟩

theorem hooksSet_projects (a : GlamorHooks.SetAnswer) :
    (hooksSet conf a).Projects ids i (Hooked conf w) := by
  intro testOnly s v h
  refine ⟨a.fbIdOk, ?_, ?_⟩
  · refine Hooked.setMode ?_ _
    simp only [hooksSet, GlamorHooks.drmmodeCrtcSetMode]
    split
    · exact h
    · split
      · exact ⟨h.world, h.crtcs, h.atomic⟩
      · exact h
  · rw [setMode_result]
    simp only [hooksSet, GlamorHooks.drmmodeCrtcSetMode]
    cases a.fbIdOk with
    | false => simp only [Bool.not_false, if_true, Bool.false_and, Bool.and_false]
    | true => simp only [Bool.not_true, Bool.false_eq_true, if_false, Bool.or_true, Bool.true_and]

def hooksParts (conf : GlamorHooks.Conf) (a : GlamorHooks.ModeAnswer) :
    Parts GlamorHooks.State where
  rotateOk := a.rotateOk
  atomicModeset := fun _ => conf.atomicModeset
  first := hooksSet conf a.first
  restore := id
  hooks := id
  real := hooksSet conf a.real
  finish := id

theorem hooksParts_projects (hon : On w i) (a : GlamorHooks.ModeAnswer) :
    (hooksParts conf a).Projects ids i (Hooked conf w) where
  atomic := fun _ _ h => h.atomic.symm
  first := hooksSet_projects a.first
  restore := fun _ _ h => h
  hooks := fun _ _ h => h.madeUp hon
  real := hooksSet_projects a.real
  finish := fun _ _ h => h

theorem hooksParts_run (s : GlamorHooks.State) (a : GlamorHooks.ModeAnswer) :
    ((hooksParts conf a).run (GlamorHooks.drmmodeShadowCreate conf a.shadow s)).1 =
      GlamorHooks.drmmodeSetModeMajor conf a s := by
  unfold Parts.run GlamorHooks.drmmodeSetModeMajor hooksParts hooksSet
  simp only [id_eq]
  split
  · rfl
  · generalize GlamorHooks.drmmodeCrtcSetMode conf a.first _ = out
    obtain ⟨s, ok⟩ := out
    cases ok <;> rfl

/-- **`GlamorHooks` is `ModeSet`** for a CRTC that is on. -/
theorem hooks_projects (hon : On w i) (a : GlamorHooks.ModeAnswer) {t : ModeSet.Screen}
    (h : Hooked conf w s (view t)) (config : Config) :
    ∃ requestOk requestAgainOk,
      Hooked conf w (GlamorHooks.drmmodeSetModeMajor conf a s) (view (((hooksParts conf a).answer
        requestOk requestAgainOk).setModeMajor ids t i config).1) := by
  have hshadow : Hooked conf w (GlamorHooks.drmmodeShadowCreate conf a.shadow s) (view t) := by
    unfold GlamorHooks.drmmodeShadowCreate
    split
    · exact h
    · unfold GlamorHooks.drmmodeSetPixmapBo
      split
      · exact h
      · exact ⟨h.world, h.crtcs, h.atomic⟩
  obtain ⟨requestOk, requestAgainOk, hkept, _⟩ := (hooksParts_projects hon a).run hshadow config
  rw [hooksParts_run] at hkept
  exact ⟨requestOk, requestAgainOk, hkept⟩

/-- An unflip with the answers of a copy. -/
def unflipSets (conf : GlamorHooks.Conf) (sets : Nat → GlamorHooks.ModeAnswer)
    (requestOk requestAgainOk : Nat → Bool) (i : Nat) : ModeAnswer :=
  (hooksParts conf (sets i)).answer (requestOk i) (requestAgainOk i)

theorem unflipCrtcs_congr {set set' : Nat → ModeSet.Screen → ModeSet.Screen} {crtcs : List Nat}
    (h : ∀ i ∈ crtcs, set i = set' i) (t : ModeSet.Screen) :
    ModeSet.unflipCrtcs set crtcs t = ModeSet.unflipCrtcs set' crtcs t := by
  induction crtcs generalizing t with
  | nil => rfl
  | cons i rest ih =>
      have hrest := ih fun j hj => h j (List.mem_cons_of_mem i hj)
      simp only [ModeSet.unflipCrtcs, hrest, h i List.mem_cons_self]

/-- One turn of the loop of `ms_present_unflip`. -/
def unflipCrtc (set : Nat → ModeSet.Screen → ModeSet.Screen) (i : Nat) (t : ModeSet.Screen) :
    ModeSet.Screen :=
  if !(t.crtcs i).enabled then t
  else if ((ModeSet.removeFlipped t).crtcs i).dpmsOn then set i (ModeSet.removeFlipped t)
  else (ModeSet.removeFlipped t).setNeedModeset i true

theorem unflipCrtcs_cons (set : Nat → ModeSet.Screen → ModeSet.Screen) (i : Nat) (rest : List Nat)
    (t : ModeSet.Screen) :
    ModeSet.unflipCrtcs set (i :: rest) t = ModeSet.unflipCrtcs set rest (unflipCrtc set i t) := by
  simp only [ModeSet.unflipCrtcs, unflipCrtc]
  split
  · rfl
  · split <;> rfl

theorem Hooked.removeFlipped {t : ModeSet.Screen} (h : Hooked conf w s (view t)) :
    Hooked conf w s (view (ModeSet.removeFlipped t)) := by
  unfold ModeSet.removeFlipped
  split
  · exact ⟨h.world, h.crtcs, h.atomic⟩
  · exact h

theorem Hooked.setNeedModeset {t : ModeSet.Screen} (h : Hooked conf w s (view t)) :
    Hooked conf w s (view (t.setNeedModeset i true)) := by
  refine ⟨h.world, fun j crtc hj => ?_, h.atomic⟩
  have hcrtc := h.crtcs j crtc hj
  rw [ModeSet.Screen.setNeedModeset,
    view_setCrtc t i (g := fun crtc => { crtc with needModeset := true }) fun _ => rfl]
  by_cases hji : j = i
  · subst hji
    simp only [View.setCrtc, Function.update_self]
    exact hcrtc
  · simp only [View.setCrtc, Function.update_of_ne hji]
    exact hcrtc

theorem unflipCrtc_projects (ids : FbIds) (sets : Nat → GlamorHooks.ModeAnswer)
    {crtc : GlamorHooks.Crtc} (hcrtc : w.crtcs[i]? = some crtc) {t : ModeSet.Screen}
    (h : Hooked conf w s (view t)) :
    ∃ requestOk requestAgainOk,
      Hooked conf w (if GlamorHooks.msCrtcOn crtc then
          GlamorHooks.drmmodeSetModeMajor conf (sets i) s else s)
        (view (unflipCrtc (fun i t => ((unflipSets conf sets (fun _ => requestOk)
          (fun _ => requestAgainOk) i).setModeMajor ids t i (t.crtcs i).config).1) i t)) := by
  have henabled : (t.crtcs i).enabled = crtc.enabled := (h.crtcs i crtc hcrtc).1
  have hdpms : ((ModeSet.removeFlipped t).crtcs i).dpmsOn = crtc.dpmsOn :=
    (h.removeFlipped.crtcs i crtc hcrtc).2
  unfold unflipCrtc GlamorHooks.msCrtcOn
  rw [henabled, hdpms]
  cases crtc.enabled with
  | false => exact ⟨false, false, h⟩
  | true =>
      cases hon : crtc.dpmsOn with
      | false => exact ⟨false, false, h.removeFlipped.setNeedModeset⟩
      | true =>
          have hcrtcOn : On w i := fun other hother => by
            rw [Option.some.inj (hother.symm.trans hcrtc), hon]
          exact hooks_projects hcrtcOn (sets i) h.removeFlipped _

/-- The loops over the CRTCs from number `k` on. -/
theorem setModes_projects (ids : FbIds) (sets : Nat → GlamorHooks.ModeAnswer)
    (rest : List GlamorHooks.Crtc) (k : Nat) (hrest : ∀ j, w.crtcs[k + j]? = rest[j]?)
    (s : GlamorHooks.State) (t : ModeSet.Screen) (h : Hooked conf w s (view t)) :
    ∃ requestOk requestAgainOk,
      Hooked conf w (GlamorHooks.setModes conf GlamorHooks.msCrtcOn sets k rest s)
        (view (ModeSet.unflipCrtcs (fun i t => ((unflipSets conf sets requestOk
          requestAgainOk i).setModeMajor ids t i (t.crtcs i).config).1)
          (List.range' k rest.length) t)) := by
  induction rest generalizing k s t with
  | nil => exact ⟨fun _ => false, fun _ => false, h⟩
  | cons crtc rest ih =>
      have hcrtc : w.crtcs[k]? = some crtc := hrest 0
      have hnext (j : Nat) : w.crtcs[k + 1 + j]? = rest[j]? := by
        rw [Nat.add_assoc, Nat.add_comm 1 j]
        exact hrest (j + 1)
      obtain ⟨ok, okAgain, hturn⟩ := unflipCrtc_projects ids sets hcrtc h
      obtain ⟨requestOk, requestAgainOk, hloop⟩ := ih (k + 1) hnext _ _ hturn
      refine ⟨Function.update requestOk k ok, Function.update requestAgainOk k okAgain, ?_⟩
      rw [List.length_cons, List.range'_succ, unflipCrtcs_cons]
      have hhead : unflipSets conf sets (Function.update requestOk k ok)
          (Function.update requestAgainOk k okAgain) k =
          unflipSets conf sets (fun _ => ok) (fun _ => okAgain) k := by
        simp only [unflipSets, Function.update_self]
      have htail (j : Nat) (hj : j ∈ List.range' (k + 1) rest.length) :
          unflipSets conf sets (Function.update requestOk k ok)
            (Function.update requestAgainOk k okAgain) j =
          unflipSets conf sets requestOk requestAgainOk j := by
        have hne : j ≠ k := by
          have := List.mem_range'_1.mp hj
          omega
        simp only [unflipSets, Function.update_of_ne hne]
      rw [unflipCrtcs_congr fun j hj => by rw [htail j hj]]
      simp only [unflipCrtc, hhead] at hloop ⊢
      exact hloop

/-- **The unflips agree**: the CRTCs that `GlamorHooks` sets are those that `ModeSet` does not
leave for later. -/
theorem unflipFallback_projects (sets : Nat → GlamorHooks.ModeAnswer) {t : ModeSet.Screen}
    (h : Hooked conf w s (view t)) (hnum : t.numCrtc = w.crtcs.length) :
    ∃ requestOk requestAgainOk,
      Hooked conf { w with presentFlipping := false } (GlamorHooks.unflipFallback conf sets s)
        (view (ModeSet.msPresentUnflip ids t (unflipSets conf sets requestOk requestAgainOk))) := by
  obtain ⟨requestOk, requestAgainOk, hloop⟩ := setModes_projects ids sets w.crtcs 0
    (fun j => by rw [Nat.zero_add]) s t h
  refine ⟨requestOk, requestAgainOk, ?_⟩
  rw [ModeSet.msPresentUnflip, hnum, List.range_eq_range', GlamorHooks.unflipFallback, h.world]
  exact ⟨by rw [hloop.world], hloop.crtcs, hloop.atomic⟩

end GlamorHooks

end LoongsonVideo.Driver.ModeSetProjection
