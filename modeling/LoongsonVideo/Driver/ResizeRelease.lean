import LoongsonVideo.Driver.ScreenResize
import LoongsonVideo.Driver.Unflip

/-!
# The old front buffer after a resize

The end of `drmmode_xf86crtc_resize` in `src/drmmode_display.c`: the mode sets of the enabled
CRTCs, whose results are not looked at, and the release of the old framebuffer and buffer
object, both of which depend on `old_fb_id`.  `ScreenResize` has the way there and `ModeSet`
the mode sets; here the two meet.

* `resizeCrtcs_spares`: which CRTCs still show the old framebuffer when it is removed.
* `resize_replaces_iff`: when a resize replaces the buffer and releases the old one.
-/

namespace LoongsonVideo.Driver.ResizeRelease

open LoongsonVideo.Verified.Ledger
open LoongsonVideo.Driver.Scanout (FbIds)
open LoongsonVideo.Driver.ModeSet
open LoongsonVideo.Driver.ScreenResize
open LoongsonVideo.Driver.Unflip (Registered)

/-! ## The mode sets of a resize -/

/-- The loop of `drmmode_xf86crtc_resize` over the CRTCs. -/
def resizeCrtcs (ids : FbIds) (sets : Nat → ModeAnswer) : List Nat → Screen → Screen
  | [], s => s
  | i :: rest, s =>
      if !(s.crtcs i).enabled then resizeCrtcs ids sets rest s
      else resizeCrtcs ids sets rest ((sets i).setModeMajor ids s i (s.crtcs i).config).1

/-- The CRTCs with the framebuffers of the screen. -/
def withFbs (crtcs : Screen) (s : ScreenState) : Screen :=
  { crtcs with fbId := s.fbId, fbs := s.fbs }

/-- The CRTCs when the old framebuffer is about to be removed. -/
def afterSets (ids : FbIds) (sets : Nat → ModeAnswer) (crtcs : Screen) (s : ScreenState) :
    Screen :=
  resizeCrtcs ids sets (List.range crtcs.numCrtc) (withFbs crtcs s)

/-- The server, and the mode sets with these answers from these CRTCs. -/
def serverWith (ids : FbIds) (sets : Nat → ModeAnswer) (crtcs : Screen)
    (modifyPixmapHeader : ScreenPixmap → Int → Int → Int → Option Pixels → ScreenPixmap) :
    Server where
  modifyPixmapHeader := modifyPixmapHeader
  modeSets := fun s =>
    { s with
      fbId := (afterSets ids sets crtcs s).fbId
      fbs := (afterSets ids sets crtcs s).fbs }

/-! ## A framebuffer that the mode sets spare -/

section Spares

variable {ids : FbIds} {old i : Nat} {s t u : Screen}

/-- The framebuffer is there and no CRTC is given it any more. -/
structure Held (old : Nat) (s : Screen) : Prop where
  ne_zero : old ≠ 0
  registered : old ∈ s.fbs
  idle : s.fbId ≠ old
  notOwn : ∀ i, ownFbId s (s.crtcs i) ≠ old

theorem Held.same (h : Held old s) (hfbId : t.fbId = s.fbId) (hfbs : t.fbs = s.fbs)
    (hown : ∀ i, ownFbId t (t.crtcs i) = ownFbId s (s.crtcs i)) : Held old t where
  ne_zero := h.ne_zero
  registered := hfbs ▸ h.registered
  idle := hfbId ▸ h.idle
  notOwn := fun i => hown i ▸ h.notOwn i

/-- The kernel has accepted a mode set of the CRTC that is no test. -/
def WasSet (s t : Screen) (i : Nat) : Prop := ∃ config, Accepted s t i config

/-- **Mode sets spare a framebuffer**: it stays, and a CRTC that showed it shows it until it
is set. -/
structure Spared (old : Nat) (s t : Screen) : Prop where
  held : Held old t
  numCrtc : t.numCrtc = s.numCrtc
  enabled : ∀ i, (t.crtcs i).enabled = (s.crtcs i).enabled
  log : s.log <:+ t.log
  shows : ∀ i, (s.crtcs i).enabled = true →
    (t.scanout i = some old ↔ s.scanout i = some old ∧ ¬ WasSet s t i)

theorem wasSet_split (hst : s.log <:+ t.log) (htu : t.log <:+ u.log) :
    WasSet s u i ↔ WasSet s t i ∨ WasSet t u i := by
  constructor
  · intro h
    obtain ⟨config, hin⟩ := h
    cases during_split hst htu hin with
    | inl hfirst => exact Or.inl ⟨config, hfirst⟩
    | inr hsecond => exact Or.inr ⟨config, hsecond⟩
  · intro h
    cases h with
    | inl hfirst =>
        obtain ⟨config, hin⟩ := hfirst
        exact ⟨config, During.append hin htu⟩
    | inr hsecond =>
        obtain ⟨config, hin⟩ := hsecond
        exact ⟨config, During.prepend hin hst⟩

theorem Spared.trans (h : Spared old s t) (h' : Spared old t u) : Spared old s u where
  held := h'.held
  numCrtc := h'.numCrtc.trans h.numCrtc
  enabled := fun i => (h'.enabled i).trans (h.enabled i)
  log := h.log.trans h'.log
  shows := fun i hon => by
    rw [h'.shows i ((h.enabled i).trans hon), h.shows i hon, wasSet_split h.log h'.log, not_or,
      and_assoc]

/-- A step that makes no request. -/
theorem Spared.quiet (hheld : Held old t) (hnum : t.numCrtc = s.numCrtc)
    (henabled : ∀ i, (t.crtcs i).enabled = (s.crtcs i).enabled) (hlog : t.log = s.log)
    (hshows : ∀ i, (s.crtcs i).enabled = true →
      (t.scanout i = some old ↔ s.scanout i = some old)) : Spared old s t where
  held := hheld
  numCrtc := hnum
  enabled := henabled
  log := hlog ▸ List.suffix_rfl
  shows := fun i hon => by
    have hnot : ¬ WasSet s t i := by
      intro h
      obtain ⟨config, hin⟩ := h
      exact not_during_same hlog hin
    rw [hshows i hon, and_iff_left hnot]

theorem Spared.refl (h : Held old s) : Spared old s s :=
  Spared.quiet h rfl (fun _ => rfl) rfl fun _ _ => Iff.rfl

/-- `drmmode_crtc_get_fb_id` gives another framebuffer. -/
theorem getFbId_other (ids : FbIds) (h : Held old s) (i : Nat) (importOk : Bool) :
    ∃ t found, drmmodeCrtcGetFbId ids s (s.crtcs i) importOk = (t, found) ∧ Held old t ∧
      t.crtcs = s.crtcs ∧ t.numCrtc = s.numCrtc ∧ t.scanout = s.scanout ∧ t.log = s.log ∧
      ∀ fbId, found = some fbId → fbId ≠ old := by
  unfold drmmodeCrtcGetFbId
  by_cases hzero : crtcFbId s (s.crtcs i) = 0
  · rw [if_pos hzero]
    cases importOk with
    | false => exact ⟨s, none, rfl, h, rfl, rfl, rfl, rfl, fun fbId hfb => by cases hfb⟩
    | true =>
        have hpick : ids.pick s.fbs ≠ old := fun heq =>
          ids.fresh s.fbs (heq.symm ▸ h.registered)
        refine ⟨_, _, rfl, ⟨h.ne_zero, List.mem_cons_of_mem _ h.registered, hpick, h.notOwn⟩, rfl,
          rfl, rfl, rfl, fun fbId hfb => ?_⟩
        exact Option.some.inj hfb ▸ hpick
  · rw [if_neg hzero]
    refine ⟨s, _, rfl, h, rfl, rfl, rfl, rfl, fun fbId hfb => ?_⟩
    obtain rfl := Option.some.inj hfb
    have hown := h.notOwn i
    unfold ownFbId at hown
    unfold crtcFbId
    split
    · next hprime => rwa [hprime] at hown
    · next hprime =>
        rw [hprime] at hown
        split
        · exact hown
        · exact h.idle

/-- A request, and the CRTC it is for. -/
theorem commit_spares (h : Held old s) {fbId : Nat} (hother : fbId ≠ old) (i : Nat)
    (testOnly kernelOk : Bool) : Spared old s (commit s i testOnly fbId kernelOk) := by
  have hmade : ∀ act, During s (commit s i testOnly fbId kernelOk) act ↔
      act = ⟨i, testOnly, (s.crtcs i).config, kernelOk⟩ := fun act => during_cons rfl
  refine ⟨h.same rfl rfl fun _ => rfl, rfl, fun _ => rfl, List.suffix_cons _ _, fun j _ => ?_⟩
  have hset : WasSet s (commit s i testOnly fbId kernelOk) j ↔
      j = i ∧ testOnly = false ∧ kernelOk = true := by
    constructor
    · intro hset
      obtain ⟨config, hin⟩ := hset
      have hact := (hmade _).mp hin
      injection hact with hj htest _ hok
      exact ⟨hj, htest.symm, hok.symm⟩
    · intro hset
      obtain ⟨rfl, rfl, rfl⟩ := hset
      exact ⟨(s.crtcs j).config, (hmade _).mpr rfl⟩
  rw [hset]
  by_cases hreal : testOnly = false ∧ kernelOk = true
  · obtain ⟨rfl, rfl⟩ := hreal
    show Function.update s.scanout i (givenFb s i fbId) j = some old ↔ _
    by_cases hj : j = i
    · subst hj
      have hgiven : givenFb s j fbId ≠ some old := by
        unfold givenFb
        split
        · exact fun heq => by cases heq
        · exact fun heq => hother (Option.some.inj heq)
      rw [Function.update_self]
      exact iff_of_false hgiven fun hno => hno.2 ⟨rfl, rfl, rfl⟩
    · rw [Function.update_of_ne hj, and_iff_left (fun hno => hj hno.1)]
  · have hscanout : (commit s i testOnly fbId kernelOk).scanout = s.scanout := by
      cases testOnly <;> cases kernelOk <;> first | rfl | exact absurd ⟨rfl, rfl⟩ hreal
    rw [hscanout, and_iff_left (fun hno => hreal hno.2)]

theorem setMode_spares (h : Held old s) (i : Nat) (testOnly : Bool) (a : SetAnswer) :
    Spared old s (drmmodeCrtcSetMode ids s i testOnly a).1 := by
  obtain ⟨t, found, hget, hheld, hcrtcs, hnum, hscanout, hlog, hother⟩ :=
    getFbId_other ids h i a.importOk
  have hquiet : Spared old s t :=
    Spared.quiet hheld hnum (fun j => by rw [hcrtcs]) hlog fun j _ => by rw [hscanout]
  rw [drmmodeCrtcSetMode, hget]
  cases found with
  | none => exact hquiet
  | some fbId =>
      simp only
      split
      · exact hquiet
      · exact hquiet.trans (commit_spares hheld (hother fbId rfl) i testOnly a.kernelOk)

theorem removeFlipped_spares (h : Held old s) : Spared old s (removeFlipped s) := by
  unfold removeFlipped
  split
  · -- What is removed is a framebuffer that a mode set has imported.
    have hkeep : old ∈ s.fbs.filter (· ≠ s.fbId) :=
      List.mem_filter.mpr ⟨h.registered, decide_eq_true h.idle.symm⟩
    refine Spared.quiet ⟨h.ne_zero, hkeep, h.ne_zero.symm, h.notOwn⟩ rfl (fun _ => rfl) rfl
      fun i _ => ?_
    show (if s.scanout i = some s.fbId then none else s.scanout i) = some old ↔ _
    split
    · next hflipped =>
        rw [hflipped]
        exact iff_of_false (fun heq => by cases heq) fun heq => h.idle (Option.some.inj heq)
    · exact Iff.rfl
  · exact Spared.refl h

/-- Every step of a mode set spares a framebuffer that no CRTC is given. -/
theorem spared_obeyed (ids : FbIds) (old : Nat) :
    Obeyed ids fun s t => Held old s → Spared old s t where
  refl := fun s h => Spared.refl h
  trans := fun h h' hheld => (h hheld).trans (h' (h hheld).held)
  crtc := fun s i f hf h => by
    have halike : ∀ j, Alike (s.crtcs j) ((s.setCrtc i f).crtcs j) := by
      intro j
      by_cases hj : j = i
      · rw [hj, Screen.setCrtc_self]
        exact hf
      · rw [Screen.setCrtc_of_ne s f hj]
        exact ⟨rfl, rfl, rfl, rfl⟩
    have hown : ∀ j, ownFbId (s.setCrtc i f) ((s.setCrtc i f).crtcs j) =
        ownFbId s (s.crtcs j) := by
      intro j
      unfold ownFbId
      rw [(halike j).primeFb, (halike j).rotateFbId]
      rfl
    exact Spared.quiet (h.same rfl rfl hown) rfl (fun j => (halike j).enabled) rfl
      fun _ _ => Iff.rfl
  pending := fun s b h =>
    Spared.quiet (h.same rfl rfl fun _ => rfl) rfl (fun _ => rfl) rfl fun _ _ => Iff.rfl
  output := fun s k output _ h =>
    Spared.quiet (h.same rfl rfl fun _ => rfl) rfl (fun _ => rfl) rfl fun _ _ => Iff.rfl
  dark := fun s i _ hoff h => by
    refine Spared.quiet (h.same rfl rfl fun _ => rfl) rfl (fun _ => rfl) rfl fun j hon => ?_
    have hj : j ≠ i := fun heq => by
      rw [heq, hoff] at hon
      cases hon
    show Function.update s.scanout i none j = some old ↔ _
    rw [Function.update_of_ne hj]
  setMode := fun s i testOnly a h => setMode_spares h i testOnly a
  remove := fun s h => removeFlipped_spares h

/-- **The mode sets of a resize**: a CRTC that is enabled and showed the old framebuffer shows
it until the kernel has accepted a mode set of it. -/
theorem resizeCrtcs_spares (ids : FbIds) (sets : Nat → ModeAnswer) (crtcs : List Nat)
    (h : Held old s) : Spared old s (resizeCrtcs ids sets crtcs s) := by
  induction crtcs generalizing s with
  | nil => exact Spared.refl h
  | cons i rest ih =>
      rw [resizeCrtcs]
      split
      · exact ih h
      · have hset := obeyed_setModeMajor (spared_obeyed ids old) (sets i) s i h
        exact hset.trans (ih hset.held)

end Spares

/-! ## The way to the mode sets -/

section Steps

variable {server : Server} {s t u v : ScreenState} {width height : Int} {a : ResizeAnswer}

/-- The front buffer and what follows from it. -/
structure SameScreen (s t : ScreenState) : Prop where
  glamor : t.glamor = s.glamor
  kbpp : t.kbpp = s.kbpp
  frontBo : t.frontBo = s.frontBo
  virtualX : t.virtualX = s.virtualX
  virtualY : t.virtualY = s.virtualY
  displayWidth : t.displayWidth = s.displayWidth
  pitch : t.pitch = s.pitch

theorem SameScreen.refl (s : ScreenState) : SameScreen s s := ⟨rfl, rfl, rfl, rfl, rfl, rfl, rfl⟩

theorem SameScreen.trans (h : SameScreen s t) (h' : SameScreen t u) : SameScreen s u where
  glamor := h'.glamor.trans h.glamor
  kbpp := h'.kbpp.trans h.kbpp
  frontBo := h'.frontBo.trans h.frontBo
  virtualX := h'.virtualX.trans h.virtualX
  virtualY := h'.virtualY.trans h.virtualY
  displayWidth := h'.displayWidth.trans h.displayWidth
  pitch := h'.pitch.trans h.pitch

/-- What the steps between the new buffer and the mode sets leave alone. -/
structure Framed (s t : ScreenState) : Prop extends SameScreen s t where
  fbId : t.fbId = s.fbId
  fbs : t.fbs = s.fbs
  released : ∀ x : Resource, x.isBuffer = true → releases t.log x = releases s.log x

theorem Framed.refl (s : ScreenState) : Framed s s :=
  ⟨SameScreen.refl s, rfl, rfl, fun _ _ => rfl⟩

theorem Framed.trans (h : Framed s t) (h' : Framed t u) : Framed s u where
  toSameScreen := h.toSameScreen.trans h'.toSameScreen
  fbId := h'.fbId.trans h.fbId
  fbs := h'.fbs.trans h.fbs
  released := fun x hx => (h'.released x hx).trans (h.released x hx)

/-- Other fields than these. -/
theorem Framed.of_log (h : SameScreen s t) (hfbId : t.fbId = s.fbId) (hfbs : t.fbs = s.fbs)
    (hlog : t.log = s.log) : Framed s t :=
  ⟨h, hfbId, hfbs, fun _ _ => by rw [hlog]⟩

theorem framed_boMap (s : ScreenState) (bo : DrmmodeBo) (mapOk : Bool) :
    Framed s (drmmodeBoMap s bo mapOk).1 := by
  unfold drmmodeBoMap
  split
  · exact Framed.refl s
  · exact Framed.refl s
  · split
    · exact Framed.refl s
    · split
      · exact Framed.of_log ⟨rfl, rfl, rfl, rfl, rfl, rfl, rfl⟩ rfl rfl rfl
      · exact Framed.refl s

theorem framed_frontPixels (s : ScreenState) (mapOk : Bool) :
    Framed s (frontPixels s mapOk).1 := by
  have hmap := framed_boMap s s.frontBo mapOk
  unfold frontPixels
  generalize drmmodeBoMap s s.frontBo mapOk = out at hmap ⊢
  obtain ⟨t, pixels⟩ := out
  split
  · cases pixels <;> exact hmap
  · exact Framed.refl s

/-- Blocks of memory are not buffers. -/
theorem framed_freeBlock (s : ScreenState) (old : Option Nat) : Framed s (freeBlock s old) where
  toSameScreen := by cases old <;> exact ⟨rfl, rfl, rfl, rfl, rfl, rfl, rfl⟩
  fbId := by cases old <;> rfl
  fbs := by cases old <;> rfl
  released := fun x hx => (freeBlock_log s old x hx).1

theorem framed_allocate (s : ScreenState) : Framed s (s.allocate .block) :=
  ⟨SameScreen.mk rfl rfl rfl rfl rfl rfl rfl, rfl, rfl, fun _ _ => releases_acquire _ _ _⟩

theorem framed_newShadow (s : ScreenState) (newPixels : Option Pixels) (callocOk : Bool) :
    Framed s (newShadow s newPixels callocOk).1 := by
  have hboth := (framed_allocate s).trans (framed_freeBlock _ s.shadowFb)
  unfold newShadow
  split
  · split
    · exact hboth.trans (Framed.of_log ⟨rfl, rfl, rfl, rfl, rfl, rfl, rfl⟩ rfl rfl rfl)
    · exact Framed.refl s
  · exact Framed.refl s

theorem framed_newShadow2 (s : ScreenState) (callocOk : Bool) :
    Framed s (newShadow2 s callocOk) := by
  have hboth := (framed_allocate s).trans (framed_freeBlock _ s.shadowFb2)
  have hfree := framed_freeBlock s s.shadowFb2
  unfold newShadow2
  split
  · split
    · exact hboth.trans (Framed.of_log ⟨rfl, rfl, rfl, rfl, rfl, rfl, rfl⟩ rfl rfl rfl)
    · exact hfree.trans (Framed.of_log ⟨rfl, rfl, rfl, rfl, rfl, rfl, rfl⟩ rfl rfl rfl)
  · exact Framed.refl s

/-- A resize that gets past its last failure. -/
theorem resizeFromSize_done (h : (resizeFromSize server s t width height a).2 = true) :
    ∃ u, Framed t u ∧ (resizeFromSize server s t width height a).1 =
      resizeDone server s u a.destroyOk := by
  unfold resizeFromSize at h ⊢
  have hpixels := framed_frontPixels t a.mapOk
  generalize frontPixels t a.mapOk = out at h hpixels ⊢
  obtain ⟨u, pixels⟩ := out
  cases pixels with
  | none => cases h
  | some pixels =>
      simp only at h hpixels ⊢
      have hshadow := hpixels.trans (framed_newShadow u pixels a.callocOk)
      generalize newShadow u pixels a.callocOk = out at h hshadow ⊢
      obtain ⟨v, pixels⟩ := out
      cases pixels with
      | none => cases h
      | some pixels =>
          simp only at h hshadow ⊢
          have hshadow2 := hshadow.trans (framed_newShadow2 v a.calloc2Ok)
          split at h
          · cases h
          · next himport =>
              rw [if_neg himport]
              have hheader : Framed (newShadow2 v a.calloc2Ok)
                  (modifyScreenPixmap server (newShadow2 v a.calloc2Ok) width height pixels) :=
                Framed.of_log ⟨rfl, rfl, rfl, rfl, rfl, rfl, rfl⟩ rfl rfl rfl
              exact ⟨_, hshadow2.trans hheader, rfl⟩

/-- The new front buffer, under the number that was next. -/
structure NewBo (s t : ScreenState) (c : CreateBo) : Prop where
  bo : if s.glamor then t.frontBo.gbm = some s.next else t.frontBo.dumb = some s.next
  other : if s.glamor then t.frontBo.dumb = s.frontBo.dumb else t.frontBo.gbm = s.frontBo.gbm
  pitch : (if s.glamor then c.gbm.map Prod.fst else c.dumb) = some (t.pitch s.next)

theorem createBo_made {c : CreateBo} (h : drmmodeCreateBo s width height c = (t, true)) :
    NewBo s t c ∧ t.glamor = s.glamor ∧ t.kbpp = s.kbpp ∧ t.fbId = s.fbId ∧ t.fbs = s.fbs ∧
      ∀ x, releases t.log x = releases s.log x := by
  have hlog : ∀ (y : Resource) x, releases (.acquire y :: s.log) x = releases s.log x :=
    fun y x => releases_acquire _ _ _
  cases hglamor : s.glamor with
  | false =>
      cases hdumb : c.dumb with
      | none => simp [drmmodeCreateBo, hglamor, hdumb] at h
      | some pitch =>
          simp only [drmmodeCreateBo, hglamor, hdumb, Bool.false_eq_true, if_false] at h
          cases h
          refine ⟨⟨?_, ?_, ?_⟩, hglamor, rfl, rfl, rfl, hlog _⟩
          · simp [hglamor]
          · simp [hglamor]
          · simp [hglamor, hdumb, ScreenState.allocateBo, ScreenState.allocate, ScreenState.act]
  | true =>
      cases hgbm : c.gbm with
      | none => simp [drmmodeCreateBo, hglamor, hgbm] at h
      | some made =>
          obtain ⟨pitch, modifiers⟩ := made
          simp only [drmmodeCreateBo, hglamor, hgbm, if_true] at h
          cases h
          refine ⟨⟨?_, ?_, ?_⟩, hglamor, rfl, rfl, rfl, hlog _⟩
          · simp [hglamor]
          · simp [hglamor]
          · simp [hglamor, hgbm, ScreenState.allocateBo, ScreenState.allocate, ScreenState.act]

/-- A resize that reallocates and returns `TRUE`: the screen before the mode sets. -/
theorem resize_done (hmoved : ¬ (s.virtualX = width ∧ s.virtualY = height))
    (h : (drmmodeXf86crtcResize server s width height a).2 = true) :
    ∃ t u, NewBo s t a.create ∧ t.glamor = s.glamor ∧ t.kbpp = s.kbpp ∧ t.fbId = 0 ∧
      t.fbs = s.fbs ∧ (∀ x, releases t.log x = releases s.log x) ∧
      Framed { t with
        virtualX := width
        virtualY := height
        displayWidth := (drmmodeBoGetPitch t t.frontBo).tdiv t.kcpp } u ∧
      (drmmodeXf86crtcResize server s width height a).1 = resizeDone server s u a.destroyOk := by
  unfold drmmodeXf86crtcResize at h ⊢
  rw [if_neg hmoved] at h ⊢
  generalize hout : drmmodeCreateBo { s with fbId := 0 } width height a.create = out at h ⊢
  obtain ⟨t, ok⟩ := out
  cases ok with
  | false => cases h
  | true =>
      obtain ⟨hnew, hglamor, hkbpp, hfbId, hfbs, hlog⟩ := createBo_made hout
      obtain ⟨u, hframed, heq⟩ := resizeFromSize_done h
      exact ⟨t, u, ⟨hnew.bo, hnew.other, hnew.pitch⟩, hglamor, hkbpp, hfbId, hfbs, hlog, hframed,
        heq⟩

end Steps

/-! ## The old buffer -/

section Release

variable {ids : FbIds} {sets : Nat → ModeAnswer} {crtcs : Screen}
  {modify : ScreenPixmap → Int → Int → Int → Option Pixels → ScreenPixmap}
  {s t u : ScreenState} {width height : Int} {a : ResizeAnswer}

/-- The CRTCs when `drmmode_xf86crtc_resize` is about to remove the old framebuffer. -/
def atRemoval (ids : FbIds) (sets : Nat → ModeAnswer) (crtcs : Screen) (s : ScreenState) :
    Screen :=
  afterSets ids sets crtcs { s with fbId := 0 }

/-- The buffer object of a `drmmode_bo`. -/
def IsBo (bo : DrmmodeBo) (x : Resource) : Prop :=
  bo.gbm.map Resource.gbm = some x ∨ bo.dumb.map Resource.dumb = some x

/-- The screen has a front buffer of the kind that `drmmode_create_bo` makes. -/
structure HasFront (s : ScreenState) : Prop where
  kind : FrontOk s
  there : ∃ n, n < s.next ∧ (if s.glamor then s.frontBo.gbm else s.frontBo.dumb) = some n

/-- **A clean replacement**: the front buffer is the new one, the old buffer object has been
destroyed once and its framebuffer removed, which was there until then and was shown by no
enabled CRTC any more. -/
structure Replaced (s t : ScreenState) (crtcs : Screen) (c : CreateBo) : Prop where
  new : NewBo s t c
  destroyed : ∀ x, IsBo s.frontBo x → releases t.log x = releases s.log x + 1
  removed : s.fbId ≠ 0 → s.fbId ∈ crtcs.fbs ∧ s.fbId ∉ t.fbs
  unseen : s.fbId ≠ 0 → ∀ i, i < crtcs.numCrtc → (crtcs.crtcs i).enabled = true →
    crtcs.scanout i ≠ some s.fbId

/-- **The condition.**  There is a framebuffer id, the kernel destroys the old buffer if it is
a dumb one, and it accepts a mode set of every enabled CRTC that shows the old framebuffer. -/
structure ReleasesOld (ids : FbIds) (sets : Nat → ModeAnswer) (crtcs : Screen) (s : ScreenState)
    (a : ResizeAnswer) : Prop where
  framebuffer : s.fbId ≠ 0
  destroyed : s.glamor = false → a.destroyOk = true
  accepted : ∀ i, i < crtcs.numCrtc → (crtcs.crtcs i).enabled = true →
    crtcs.scanout i = some s.fbId → WasSet crtcs (atRemoval ids sets crtcs s) i

theorem held_of_registered (h : Registered (withFbs crtcs s)) (hne : s.fbId ≠ 0) :
    Held s.fbId (withFbs crtcs { s with fbId := 0 }) where
  ne_zero := hne
  registered := h.flipped hne
  idle := hne.symm
  notOwn := fun i heq => (h.owned i (fun hzero => hne (heq.symm.trans hzero))).2 heq

theorem boDestroy_same (s : ScreenState) (bo : DrmmodeBo) (ioctlOk : Bool) :
    SameScreen s (drmmodeBoDestroy s bo ioctlOk).1 ∧
      (drmmodeBoDestroy s bo ioctlOk).1.fbs = s.fbs := by
  obtain ⟨width, height, dumb, gbm, usedModifiers⟩ := bo
  cases gbm <;> cases dumb <;> cases ioctlOk <;>
    exact ⟨⟨rfl, rfl, rfl, rfl, rfl, rfl, rfl⟩, rfl⟩

theorem resizeDone_same (ids : FbIds) (sets : Nat → ModeAnswer) (crtcs : Screen)
    (modify : ScreenPixmap → Int → Int → Int → Option Pixels → ScreenPixmap) (s u : ScreenState)
    (destroyOk : Bool) :
    SameScreen u (resizeDone (serverWith ids sets crtcs modify) s u destroyOk) := by
  have hsets : SameScreen u ((serverWith ids sets crtcs modify).modeSets u) :=
    ⟨rfl, rfl, rfl, rfl, rfl, rfl, rfl⟩
  unfold resizeDone
  simp only
  split
  · exact SameScreen.trans (t := { (serverWith ids sets crtcs modify).modeSets u with
      fbs := ((serverWith ids sets crtcs modify).modeSets u).fbs.filter (· ≠ s.fbId) })
      ⟨rfl, rfl, rfl, rfl, rfl, rfl, rfl⟩ (boDestroy_same _ _ _).1
  · exact hsets

/-- Without a framebuffer id nothing is released at the end. -/
theorem resizeDone_keeps (h : s.fbId = 0) (destroyOk : Bool) (x : Resource) :
    releases (resizeDone (serverWith ids sets crtcs modify) s u destroyOk).log x =
      releases u.log x := by
  unfold resizeDone
  rw [if_neg (not_not.mpr h)]
  rfl

theorem resizeDone_releases (h : s.fbId ≠ 0) (destroyOk : Bool) (x : Resource) :
    releases (resizeDone (serverWith ids sets crtcs modify) s u destroyOk).log x =
      releases u.log x + (if s.frontBo.gbm.map Resource.gbm = some x then 1 else 0) +
        if destroyOk = true ∧ s.frontBo.dumb.map Resource.dumb = some x then 1 else 0 := by
  unfold resizeDone
  rw [if_pos h]
  exact drmmodeBoDestroy_releases _ _ _ _

theorem resizeDone_fbs (h : s.fbId ≠ 0) (hfbId : u.fbId = 0) (hfbs : u.fbs = s.fbs)
    (destroyOk : Bool) :
    (resizeDone (serverWith ids sets crtcs modify) s u destroyOk).fbs =
      (atRemoval ids sets crtcs s).fbs.filter (· ≠ s.fbId) := by
  have hstart : withFbs crtcs u = withFbs crtcs { s with fbId := 0 } := by
    rw [withFbs, withFbs, hfbId, hfbs]
  unfold resizeDone
  rw [if_pos h, (boDestroy_same _ _ _).2, atRemoval, afterSets, ← hstart]
  rfl

/-- The old buffer object is destroyed where there was a framebuffer id. -/
theorem destroyed_iff (hfront : HasFront s)
    (hbefore : ∀ x : Resource, x.isBuffer = true → releases u.log x = releases s.log x)
    (destroyOk : Bool) :
    (∀ x, IsBo s.frontBo x →
      releases (resizeDone (serverWith ids sets crtcs modify) s u destroyOk).log x =
        releases s.log x + 1) ↔
      s.fbId ≠ 0 ∧ (s.glamor = false → destroyOk = true) := by
  obtain ⟨n, -, hold⟩ := hfront.there
  have hkind := hfront.kind
  rw [FrontOk] at hkind
  by_cases hfbId : s.fbId = 0
  · -- Nothing is released, and there is a buffer to release.
    refine iff_of_false (fun h => ?_) fun h => h.1 hfbId
    obtain ⟨x, hx, hbuffer⟩ : ∃ x, IsBo s.frontBo x ∧ x.isBuffer = true := by
      cases hglamor : s.glamor with
      | true => exact ⟨.gbm n, Or.inl (by rw [hglamor] at hold; simpa using hold), rfl⟩
      | false => exact ⟨.dumb n, Or.inr (by rw [hglamor] at hold; simpa using hold), rfl⟩
    have hcount := h x hx
    rw [resizeDone_keeps hfbId, hbefore x hbuffer] at hcount
    omega
  · cases hglamor : s.glamor with
    | true =>
        rw [hglamor, if_pos rfl] at hkind hold
        refine iff_of_true (fun x hx => ?_) ⟨hfbId, fun h => by cases h⟩
        have hx' : x = .gbm n := by simpa [IsBo, hkind, hold, eq_comm] using hx
        rw [resizeDone_releases hfbId, hx', hbefore _ rfl, hold, hkind]
        simp
    | false =>
        rw [hglamor, if_neg (by decide)] at hkind hold
        have hcount : releases (resizeDone (serverWith ids sets crtcs modify) s u destroyOk).log
            (.dumb n) = _ := resizeDone_releases hfbId destroyOk (.dumb n)
        rw [hbefore _ rfl, hold, hkind] at hcount
        constructor
        · intro h
          refine ⟨hfbId, fun _ => ?_⟩
          have hone := h (.dumb n) (Or.inr (by rw [hold]; rfl))
          rw [hcount] at hone
          cases destroyOk with
          | true => rfl
          | false => simp at hone
        · intro h x hx
          have hx' : x = .dumb n := by simpa [IsBo, hkind, hold, eq_comm] using hx
          rw [hx', hcount, h.2 rfl]
          simp

/-- **A resize replaces the front buffer cleanly** exactly when there was a framebuffer id to
tie the release to, and the mode sets whose results it ignores were accepted. -/
theorem resize_replaces_iff (ids : FbIds) (sets : Nat → ModeAnswer) (crtcs : Screen)
    (modify : ScreenPixmap → Int → Int → Int → Option Pixels → ScreenPixmap)
    (s : ScreenState) (width height : Int) (a : ResizeAnswer) (hfront : HasFront s)
    (hregistered : Registered (withFbs crtcs s))
    (hmoved : ¬ (s.virtualX = width ∧ s.virtualY = height))
    (hdone : (drmmodeXf86crtcResize (serverWith ids sets crtcs modify) s width height a).2 = true) :
    Replaced s (drmmodeXf86crtcResize (serverWith ids sets crtcs modify) s width height a).1
        (atRemoval ids sets crtcs s) a.create ↔
      ReleasesOld ids sets crtcs s a := by
  obtain ⟨t, u, hnew, hglamor, -, hfbId, hfbs, hlog, hframed, heq⟩ := resize_done hmoved hdone
  rw [heq]
  have hsame := resizeDone_same ids sets crtcs modify s u a.destroyOk
  have hufb : u.fbId = 0 := hframed.fbId.trans hfbId
  have hufbs : u.fbs = s.fbs := hframed.fbs.trans hfbs
  have hbefore : ∀ x : Resource, x.isBuffer = true → releases u.log x = releases s.log x :=
    fun x hx => (hframed.released x hx).trans (hlog x)
  have hbo : (resizeDone (serverWith ids sets crtcs modify) s u a.destroyOk).frontBo = t.frontBo :=
    hsame.frontBo.trans hframed.frontBo
  have hpitch : (resizeDone (serverWith ids sets crtcs modify) s u a.destroyOk).pitch = t.pitch :=
    hsame.pitch.trans hframed.pitch
  constructor
  · intro h
    obtain ⟨hne, hdestroyed⟩ := (destroyed_iff hfront hbefore a.destroyOk).mp h.destroyed
    refine ⟨hne, hdestroyed, fun i hi hon hshown => ?_⟩
    have hspared := resizeCrtcs_spares ids sets (List.range crtcs.numCrtc)
      (held_of_registered hregistered hne)
    by_contra hnot
    have hnum : i < (atRemoval ids sets crtcs s).numCrtc := hspared.numCrtc ▸ hi
    exact h.unseen hne i hnum ((hspared.enabled i).trans hon)
      ((hspared.shows i hon).mpr ⟨hshown, hnot⟩)
  · intro h
    have hne := h.framebuffer
    have hspared := resizeCrtcs_spares ids sets (List.range crtcs.numCrtc)
      (held_of_registered hregistered hne)
    refine ⟨⟨hbo ▸ hnew.bo, hbo ▸ hnew.other, hpitch ▸ hnew.pitch⟩,
      (destroyed_iff hfront hbefore a.destroyOk).mpr ⟨hne, h.destroyed⟩,
      fun _ => ⟨hspared.held.registered, ?_⟩, fun _ i hi hon hshown => ?_⟩
    · rw [resizeDone_fbs hne hufb hufbs]
      exact fun hin => of_decide_eq_true (List.mem_filter.mp hin).2 rfl
    · have hstart : (crtcs.crtcs i).enabled = true := (hspared.enabled i).symm.trans hon
      have hwas := (hspared.shows i hstart).mp hshown
      exact hwas.2 (h.accepted i (hspared.numCrtc ▸ hi) hstart hwas.1)

end Release

/-- A screen of 640x480 on a dumb buffer, with this framebuffer id. -/
def dumbScreen (fbId : Nat) : ScreenState where
  glamor := false
  gbm := false
  shadowEnable := false
  shadowEnable2 := false
  kbpp := 32
  bitsPerPixel := 32
  frontBo := ⟨640, 480, some 0, none, false⟩
  fbId := fbId
  virtualX := 640
  virtualY := 480
  displayWidth := 640
  shadowFb := none
  shadowFb2 := none
  screenPixmap := ⟨640, 480, 2560, some (.mapped 0)⟩
  pitch := fun _ => 2560
  mappings := [0]
  fbs := [5]
  next := 1
  log := [.acquire (.dumb 0)]

/-- Everything is there for a resize to 800x600. -/
def grantedResize : ResizeAnswer := ⟨⟨none, none, some 3200⟩, true, true, true, true, true⟩

theorem dumbScreen_hasFront (fbId : Nat) : HasFront (dumbScreen fbId) :=
  ⟨rfl, 0, Nat.one_pos, rfl⟩

theorem resize_replaces_granted :
    Replaced (dumbScreen 5)
      (drmmodeXf86crtcResize (serverWith .above (fun _ => plainAnswer grantedSet) (oneHead false)
        miModifyPixmapHeader) (dumbScreen 5) 800 600 grantedResize).1
      (atRemoval .above (fun _ => plainAnswer grantedSet) (oneHead false) (dumbScreen 5))
      grantedResize.create :=
  (resize_replaces_iff .above _ (oneHead false) miModifyPixmapHeader (dumbScreen 5) 800 600
    grantedResize (dumbScreen_hasFront 5)
    ⟨fun _ => List.mem_singleton.mpr rfl, fun _ hown => absurd rfl hown⟩ (by decide)
    (by decide +kernel)).mpr
    ⟨by decide, fun _ => rfl, fun i hi _ _ => by
      have hi : i < 1 := hi
      obtain rfl : i = 0 := by omega
      exact ⟨⟨1, 1, 0, 0⟩, [⟨0, false, ⟨1, 1, 0, 0⟩, true⟩], by decide +kernel,
        List.mem_singleton.mpr rfl⟩⟩

/-- **A front buffer without a framebuffer id is leaked**, as when the shared pixmap of
`reverse_prime_offload_mode` has just been given up; and a CRTC whose mode set fails still
shows the old framebuffer when it is removed. -/
theorem resize_leaks_front :
    let leaked := drmmodeXf86crtcResize (serverWith .above (fun _ => plainAnswer grantedSet)
      (oneHead false) miModifyPixmapHeader) (dumbScreen 0) 800 600 grantedResize
    let refused := drmmodeXf86crtcResize (serverWith .above (fun _ => .rotateFails)
      (oneHead false) miModifyPixmapHeader) (dumbScreen 5) 800 600 grantedResize
    leaked.2 = true ∧ leaked.1.frontBo.dumb = some 1 ∧ releases leaked.1.log (.dumb 0) = 0 ∧
      ¬ Replaced (dumbScreen 0) leaked.1
        (atRemoval .above (fun _ => plainAnswer grantedSet) (oneHead false) (dumbScreen 0))
        grantedResize.create ∧
      refused.2 = true ∧
      (atRemoval .above (fun _ => .rotateFails) (oneHead false) (dumbScreen 5)).scanout 0 = some 5 := by
  have hnone : releases (drmmodeXf86crtcResize (serverWith .above
      (fun _ => plainAnswer grantedSet) (oneHead false) miModifyPixmapHeader) (dumbScreen 0)
      800 600 grantedResize).1.log (.dumb 0) = 0 := by decide +kernel
  refine ⟨by decide +kernel, by decide +kernel, hnone, fun h => ?_, by decide +kernel,
    by decide +kernel⟩
  have hone := h.destroyed (.dumb 0) (Or.inr rfl)
  rw [hnone] at hone
  cases hone

end LoongsonVideo.Driver.ResizeRelease
