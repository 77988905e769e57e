import LoongsonVideo.Driver.ModeSet

/-!
# What the CRTCs show after an unflip

The fallback of `ms_present_unflip`: each enabled CRTC in turn has the framebuffer of the
last flip removed and is set again, by which `drmmode_crtc_get_fb_id` imports the front
buffer anew.  The framebuffer that the second CRTC has removed is the one that the first
was given.

* `msPresentUnflip_placed`: what each lit CRTC shows in the end, nested unflips included.
* `unflip_lit_iff`: when all of them show what they should.
-/

namespace LoongsonVideo.Driver.Unflip

open LoongsonVideo.Driver.Scanout (FbIds)
open LoongsonVideo.Driver.ModeSet

/-! ## What an unflip does not touch -/

/-- A mode set of the CRTC gives it a framebuffer. -/
def driven (s : Screen) (i : Nat) : Bool := !s.atomicModeset || hasOutput s i

/-- The CRTCs of the screen: which are enabled, which have DPMS on, their own framebuffers
and which of them a mode set lights. -/
structure Layout where
  numCrtc : Nat
  atomicModeset : Bool
  enabled : Nat → Bool
  dpmsOn : Nat → Bool
  own : Nat → Nat
  driven : Nat → Bool

def layout (s : Screen) : Layout where
  numCrtc := s.numCrtc
  atomicModeset := s.atomicModeset
  enabled := fun i => (s.crtcs i).enabled
  dpmsOn := fun i => (s.crtcs i).dpmsOn
  own := fun i => ownFbId s (s.crtcs i)
  driven := driven s

namespace Layout

def Lit (L : Layout) (i : Nat) : Prop :=
  i < L.numCrtc ∧ L.enabled i = true ∧ L.dpmsOn i = true

/-- No CRTC after this one is enabled. -/
def LastEnabled (L : Layout) (i : Nat) : Prop :=
  ∀ k, i < k → k < L.numCrtc → L.enabled k = false

end Layout

/-- The framebuffers the driver has ids of are there, and no CRTC's own one is that of the
last flip. -/
structure Registered (s : Screen) : Prop where
  flipped : s.fbId ≠ 0 → s.fbId ∈ s.fbs
  owned : ∀ i, ownFbId s (s.crtcs i) ≠ 0 →
    ownFbId s (s.crtcs i) ∈ s.fbs ∧ ownFbId s (s.crtcs i) ≠ s.fbId

/-- A state of the unflip. -/
structure Fits (L : Layout) (s : Screen) : Prop where
  layout : layout s = L
  flipped : s.fbId ≠ 0 → s.fbId ∈ s.fbs
  owned : ∀ i, L.own i ≠ 0 → L.own i ∈ s.fbs ∧ L.own i ≠ s.fbId

section Fits

variable {L : Layout} {s t : Screen}

theorem Fits.of_registered (h : Registered s) : Fits (Unflip.layout s) s :=
  ⟨rfl, h.flipped, h.owned⟩

/-- Other fields. -/
theorem Fits.of_eq (h : Fits L s) (hlayout : Unflip.layout t = Unflip.layout s)
    (hfbId : t.fbId = s.fbId) (hfbs : t.fbs = s.fbs) : Fits L t where
  layout := hlayout.trans h.layout
  flipped := by
    rw [hfbId, hfbs]
    exact h.flipped
  owned := by
    rw [hfbId, hfbs]
    exact h.owned

theorem Fits.enabled_eq (h : Fits L s) (i : Nat) : (s.crtcs i).enabled = L.enabled i := by
  rw [← h.layout]
  rfl

theorem Fits.dpmsOn_eq (h : Fits L s) (i : Nat) : (s.crtcs i).dpmsOn = L.dpmsOn i := by
  rw [← h.layout]
  rfl

theorem Fits.own_eq (h : Fits L s) (i : Nat) : ownFbId s (s.crtcs i) = L.own i := by
  rw [← h.layout]
  rfl

theorem Fits.driven_eq (h : Fits L s) (i : Nat) : driven s i = L.driven i := by
  rw [← h.layout]
  rfl

theorem Fits.atomic_eq (h : Fits L s) : s.atomicModeset = L.atomicModeset := by
  rw [← h.layout]
  rfl

theorem Fits.numCrtc_eq (h : Fits L s) : s.numCrtc = L.numCrtc := by
  rw [← h.layout]
  rfl

/-- A field of a CRTC that the layout does not have. -/
theorem layout_setCrtc (s : Screen) (i : Nat) (f : Crtc → Crtc)
    (henabled : (f (s.crtcs i)).enabled = (s.crtcs i).enabled)
    (hdpms : (f (s.crtcs i)).dpmsOn = (s.crtcs i).dpmsOn)
    (hown : ownFbId s (f (s.crtcs i)) = ownFbId s (s.crtcs i)) :
    layout (s.setCrtc i f) = layout s := by
  have hfield : ∀ {α : Type} (g : Crtc → α), g (f (s.crtcs i)) = g (s.crtcs i) →
      ∀ j, g ((s.setCrtc i f).crtcs j) = g (s.crtcs j) := by
    intro α g hg j
    by_cases hj : j = i
    · rw [hj, Screen.setCrtc_self, hg]
    · rw [Screen.setCrtc_of_ne s f hj]
  show Layout.mk _ _ _ _ _ _ = Layout.mk _ _ _ _ _ _
  congr 1
  · exact funext (hfield Crtc.enabled henabled)
  · exact funext (hfield Crtc.dpmsOn hdpms)
  · exact funext (hfield (ownFbId s) hown)

end Fits

/-! ## What a CRTC shows -/

section Shows

variable {L : Layout} {s t u : Screen} {i j : Nat}

/-- The CRTC shows the framebuffer, as far as a mode set can make it. -/
def Shows (L : Layout) (s : Screen) (j fbId : Nat) : Prop :=
  s.scanout j = if L.driven j then some fbId else none

/-- A CRTC that has been set: it needs no mode set, and shows its own framebuffer if it has
one. -/
structure Steady (L : Layout) (s : Screen) (j : Nat) : Prop where
  quiet : (s.crtcs j).needModeset = false
  own : L.own j ≠ 0 → Shows L s j (L.own j)

/-- What a mode set of another CRTC leaves as it is. -/
structure Kept (L : Layout) (s : Screen) (j : Nat) : Prop extends Steady L s j where
  dark : L.own j = 0 → ¬ L.LastEnabled j → s.scanout j = none

/-- **After an unflip**: without a framebuffer of its own, the last of the enabled CRTCs
shows that of the screen and the others are dark. -/
structure Placed (L : Layout) (s : Screen) (j : Nat) : Prop extends Kept L s j where
  last : L.own j = 0 → L.LastEnabled j → Shows L s j s.fbId ∧ s.fbId ≠ 0

/-- After the CRTC's own turn: one that is not the last may still show what the next will
have removed. -/
structure Settled (L : Layout) (s : Screen) (j : Nat) : Prop extends Steady L s j where
  last : L.own j = 0 → L.LastEnabled j → Shows L s j s.fbId ∧ s.fbId ≠ 0
  dim : L.own j = 0 → ¬ L.LastEnabled j →
    s.scanout j = none ∨ s.scanout j = some s.fbId ∧ s.fbId ≠ 0

theorem Placed.settled (h : Placed L s j) : Settled L s j where
  toSteady := h.toSteady
  last := h.last
  dim := fun hown hlast => Or.inl (h.dark hown hlast)

/-- What these facts are about is the same in both states. -/
structure SameView (s t : Screen) : Prop where
  fbId : t.fbId = s.fbId
  scanout : t.scanout = s.scanout
  need : ∀ j, (t.crtcs j).needModeset = (s.crtcs j).needModeset

theorem SameView.trans (h : SameView s t) (h' : SameView t u) : SameView s u where
  fbId := h'.fbId.trans h.fbId
  scanout := h'.scanout.trans h.scanout
  need := fun j => (h'.need j).trans (h.need j)

theorem Steady.of_same (hview : SameView s t) (h : Steady L s j) : Steady L t j where
  quiet := (hview.need j).trans h.quiet
  own := by
    rw [Shows, hview.scanout]
    exact h.own

theorem Kept.of_same (hview : SameView s t) (h : Kept L s j) : Kept L t j where
  toSteady := h.toSteady.of_same hview
  dark := by
    rw [hview.scanout]
    exact h.dark

theorem Placed.of_same (hview : SameView s t) (h : Placed L s j) : Placed L t j where
  toKept := h.toKept.of_same hview
  last := by
    rw [Shows, hview.scanout, hview.fbId]
    exact h.last

theorem Settled.of_same (hview : SameView s t) (h : Settled L s j) : Settled L t j where
  toSteady := h.toSteady.of_same hview
  last := by
    rw [Shows, hview.scanout, hview.fbId]
    exact h.last
  dim := by
    rw [hview.scanout, hview.fbId]
    exact h.dim

/-- Events: nothing that matters happened, or an unflip has been through all CRTCs. -/
structure Calm (L : Layout) (s t : Screen) : Prop where
  fits : Fits L t
  view : SameView s t ∨ ∀ j, L.Lit j → Placed L t j

theorem Calm.of_same (hfits : Fits L s) (hlayout : layout t = layout s) (hfbs : t.fbs = s.fbs)
    (hview : SameView s t) : Calm L s t :=
  ⟨hfits.of_eq hlayout hview.fbId hfbs, Or.inl hview⟩

theorem Calm.refl (h : Fits L s) : Calm L s s :=
  Calm.of_same h rfl rfl ⟨rfl, rfl, fun _ => rfl⟩

theorem Calm.trans (h : Calm L s t) (h' : Calm L t u) : Calm L s u where
  fits := h'.fits
  view := by
    cases h'.view with
    | inr hplaced => exact Or.inr hplaced
    | inl hview' =>
        cases h.view with
        | inl hview => exact Or.inl (hview.trans hview')
        | inr hplaced => exact Or.inr fun j hj => (hplaced j hj).of_same hview'

theorem Calm.kept (h : Calm L s t) (hlit : L.Lit j) (hkept : Kept L s j) : Kept L t j := by
  cases h.view with
  | inl hview => exact hkept.of_same hview
  | inr hplaced => exact (hplaced j hlit).toKept

theorem Calm.settled (h : Calm L s t) (hlit : L.Lit j) (hsettled : Settled L s j) :
    Settled L t j := by
  cases h.view with
  | inl hview => exact hsettled.of_same hview
  | inr hplaced => exact (hplaced j hlit).settled

theorem Calm.quiet (h : Calm L s t) (hlit : L.Lit j)
    (hquiet : (s.crtcs j).needModeset = false) : (t.crtcs j).needModeset = false := by
  cases h.view with
  | inl hview => exact (hview.need j).trans hquiet
  | inr hplaced => exact (hplaced j hlit).quiet

/-- A field of a CRTC that does not matter. -/
theorem calm_setCrtc (h : Fits L s) (i : Nat) (f : Crtc → Crtc)
    (henabled : (f (s.crtcs i)).enabled = (s.crtcs i).enabled)
    (hdpms : (f (s.crtcs i)).dpmsOn = (s.crtcs i).dpmsOn)
    (hneed : (f (s.crtcs i)).needModeset = (s.crtcs i).needModeset)
    (hown : ownFbId s (f (s.crtcs i)) = ownFbId s (s.crtcs i)) : Calm L s (s.setCrtc i f) := by
  refine Calm.of_same h (layout_setCrtc s i f henabled hdpms hown) rfl ⟨rfl, rfl, fun j => ?_⟩
  by_cases hj : j = i
  · rw [hj, Screen.setCrtc_self, hneed]
  · rw [Screen.setCrtc_of_ne s f hj]

end Shows

/-! ## One mode set -/

section SetMode

variable {ids : FbIds} {L : Layout} {s t : Screen} {i j : Nat}

/-- What a granted `drmmode_crtc_set_mode` does. -/
structure Modeset (L : Layout) (i : Nat) (testOnly : Bool) (s t : Screen) : Prop where
  fits : Fits L t
  crtcs : t.crtcs = s.crtcs
  others : ∀ j, j ≠ i → t.scanout j = s.scanout j
  own : testOnly = false → L.own i ≠ 0 → Shows L t i (L.own i)
  shared : testOnly = false → L.own i = 0 → Shows L t i t.fbId ∧ t.fbId ≠ 0

/-- `drmmode_crtc_get_fb_id` with an import that succeeds. -/
theorem getFbId_spec (ids : FbIds) (h : Fits L s) (i : Nat) :
    ∃ t fbId, drmmodeCrtcGetFbId ids s (s.crtcs i) true = (t, some fbId) ∧ Fits L t ∧
      t.crtcs = s.crtcs ∧ t.scanout = s.scanout ∧ (L.own i ≠ 0 → fbId = L.own i) ∧
        (L.own i = 0 → fbId = t.fbId ∧ t.fbId ≠ 0) := by
  have hown := h.own_eq i
  by_cases hzero : crtcFbId s (s.crtcs i) = 0
  · have hnone : L.own i = 0 := by
      rw [← hown]
      unfold ownFbId
      unfold crtcFbId at hzero
      split at hzero
      · exact hzero
      · by_contra hne
        rw [if_pos hne] at hzero
        exact hne hzero
    have hpick := ids.fresh s.fbs
    have hfits : Fits L { s with fbs := ids.pick s.fbs :: s.fbs, fbId := ids.pick s.fbs } := by
      refine ⟨h.layout, fun _ => List.mem_cons_self, fun j hj => ?_⟩
      have hin := (h.owned j hj).1
      refine ⟨List.mem_cons_of_mem _ hin, fun heq => ?_⟩
      rw [show L.own j = ids.pick s.fbs from heq] at hin
      exact hpick hin
    refine ⟨_, _, ?_, hfits, rfl, rfl, fun hne => absurd hnone hne, fun _ => ⟨rfl, ids.ne_zero _⟩⟩
    rw [drmmodeCrtcGetFbId, if_pos hzero, if_pos rfl]
  · refine ⟨s, crtcFbId s (s.crtcs i), ?_, h, rfl, rfl, ?_⟩
    · rw [drmmodeCrtcGetFbId, if_neg hzero]
    · rw [← hown]
      unfold crtcFbId at hzero ⊢
      unfold ownFbId
      split
      · next fbId hprime =>
          rw [hprime] at hzero
          exact ⟨fun _ => rfl, fun hnone => absurd hnone hzero⟩
      · next hprime =>
          rw [hprime] at hzero
          simp only at hzero
          by_cases hrotate : (s.crtcs i).rotateFbId = 0
          · rw [if_neg (not_not.mpr hrotate)] at hzero ⊢
            exact ⟨fun hne => absurd hrotate hne, fun _ => ⟨rfl, hzero⟩⟩
          · rw [if_pos hrotate]
            exact ⟨fun _ => rfl, fun hnone => absurd hnone hrotate⟩

theorem crtcSetMode_shows (ids : FbIds) (h : Fits L s) (i : Nat) (testOnly : Bool) :
    ∃ t, drmmodeCrtcSetMode ids s i testOnly grantedSet = (t, true) ∧
      Modeset L i testOnly s t := by
  obtain ⟨t, fbId, hget, hfits, hcrtcs, hscanout, hown, hshared⟩ := getFbId_spec ids h i
  have hset : drmmodeCrtcSetMode ids s i testOnly grantedSet = (commit t i testOnly fbId true, true) := by
    unfold drmmodeCrtcSetMode
    rw [show grantedSet.importOk = true from rfl, hget]
    rfl
  have hgiven : testOnly = false → Shows L (commit t i testOnly fbId true) i fbId := by
    rintro rfl
    show Function.update t.scanout i (givenFb t i fbId) i = _
    rw [Function.update_self, ← hfits.driven_eq i, givenFb, driven]
    cases t.atomicModeset <;> cases hasOutput t i <;> rfl
  have hothers : ∀ j, j ≠ i → (commit t i testOnly fbId true).scanout j = s.scanout j := by
    intro j hj
    rw [← hscanout]
    cases testOnly with
    | true => rfl
    | false => exact Function.update_of_ne hj _ _
  refine ⟨_, hset, hfits.of_eq rfl rfl rfl, hcrtcs, hothers, fun hreal hne => ?_, fun hreal hzero => ?_⟩
  · rw [← hown hne]
    exact hgiven hreal
  · obtain ⟨hfb, hne⟩ := hshared hzero
    show Shows L (commit t i testOnly fbId true) i t.fbId ∧ t.fbId ≠ 0
    rw [← hfb] at hne ⊢
    exact ⟨hgiven hreal, hne⟩

end SetMode

/-! ## The hooks -/

section Hooks

variable {L : Layout} {s : Screen} {i : Nat}

theorem any_set_of_eq {α : Type} {f : α → Bool} {a b : α} (hf : f b = f a) :
    ∀ {l : List α} {k : Nat}, l[k]? = some a → (l.set k b).any f = l.any f
  | c :: l, 0, h => by
      have hc : c = a := Option.some.inj h
      rw [List.set_cons_zero, List.any_cons, List.any_cons, hf, hc]
  | c :: l, k + 1, h => by
      rw [List.set_cons_succ, List.any_cons, List.any_cons,
        any_set_of_eq hf (show l[k]? = some a from h)]

/-- An output's DPMS state. -/
theorem calm_outputs (h : Fits L s) {k : Nat} {output : Output}
    (hk : s.outputs[k]? = some output) :
    Calm L s { s with outputs := s.outputs.set k { output with dpmsOn := true } } := by
  have hhas : ∀ j, hasOutput { s with outputs := s.outputs.set k { output with dpmsOn := true } } j =
      hasOutput s j := fun j =>
    any_set_of_eq (f := fun output : Output => output.crtc == some j && output.outputId.isSome)
      (a := output) (b := { output with dpmsOn := true }) rfl hk
  refine Calm.of_same h ?_ rfl ⟨rfl, rfl, fun _ => rfl⟩
  show Layout.mk _ _ _ _ _ _ = Layout.mk _ _ _ _ _ _
  congr 1
  funext j
  rw [driven, driven, hhas]

theorem calm_crtcDpmsOn (h : Fits L s) (hlit : L.Lit i) : Calm L s (drmmodeCrtcDpmsOn s i) := by
  have hdpms := (h.dpmsOn_eq i).trans hlit.2.2
  have henabled : ((s.setDpmsOn i).crtcs i).enabled = true := by
    rw [Screen.setDpmsOn, Screen.setCrtc_self]
    exact (h.enabled_eq i).trans hlit.2.1
  unfold drmmodeCrtcDpmsOn
  simp only [henabled, Bool.not_true, Bool.and_false, Bool.false_eq_true, if_false]
  exact calm_setCrtc h i _ rfl hdpms.symm rfl rfl

variable {present : Screen → Screen × Bool}

theorem calm_initShared (h : Fits L s) (i : Nat)
    (hpresent : ∀ s, Fits L s → Calm L s (present s).1) :
    Calm L s (drmmodeInitSharedPixmapFlipping s i present) := by
  unfold drmmodeInitSharedPixmapFlipping
  split
  · exact Calm.refl h
  · split
    · exact Calm.refl h
    · have hflush := hpresent s h
      exact hflush.trans (calm_setCrtc hflush.fits i _ rfl rfl rfl rfl)

theorem calm_initIfBack (h : Fits L s) (i : Nat)
    (hpresent : ∀ s, Fits L s → Calm L s (present s).1) : Calm L s (initIfBack s i present) := by
  unfold initIfBack
  split
  · exact calm_initShared h i hpresent
  · exact Calm.refl h

/-- No mode set is made again: the CRTC does not need one. -/
theorem calm_outputDpmsOn (h : Fits L s) (k : Nat) (again : Screen → Screen)
    (hquiet : (s.crtcs i).needModeset = false)
    (hpresent : ∀ s, Fits L s → Calm L s (present s).1) :
    Calm L s (drmmodeOutputDpmsOn s k i again present) := by
  unfold drmmodeOutputDpmsOn
  split
  · exact Calm.refl h
  · next output hk =>
      split
      · exact Calm.refl h
      · have hset := calm_outputs h hk
        have hno : setIfNeeded { s with outputs := s.outputs.set k { output with dpmsOn := true } }
            i again = { s with outputs := s.outputs.set k { output with dpmsOn := true } } := by
          unfold setIfNeeded
          exact if_neg (by rw [hquiet]; decide)
        simp only [hno]
        split
        · exact hset.trans (calm_initShared hset.fits i hpresent)
        · exact hset

theorem calm_outputsOn (hlit : L.Lit i) (again : Nat → Screen → Screen)
    {present : Nat → Screen → Screen × Bool}
    (hpresent : ∀ k s, Fits L s → Calm L s (present k s).1) (outputs : List Nat) (s : Screen)
    (h : Fits L s) (hquiet : (s.crtcs i).needModeset = false) :
    Calm L s (outputsOn i again present outputs s) := by
  induction outputs generalizing s with
  | nil => exact Calm.refl h
  | cons k rest ih =>
      rw [outputsOn]
      split
      · exact ih s h hquiet
      · split
        · exact ih s h hquiet
        · split
          · exact ih s h hquiet
          · have hdpms := calm_outputDpmsOn h k (again k) hquiet (hpresent k)
            exact hdpms.trans (ih _ hdpms.fits (hdpms.quiet hlit hquiet))

/-- The screen when the hooks begin. -/
def beforeHooks (s : Screen) (i : Nat) : Screen :=
  ({ s with pendingModeset := true } : Screen).setNeedModeset i false

theorem fits_beforeHooks (h : Fits L s) (i : Nat) : Fits L (beforeHooks s i) :=
  h.of_eq (layout_setCrtc { s with pendingModeset := true } i _ rfl rfl rfl) rfl rfl

theorem calm_dpmsHooks (h : Fits L s) (hlit : L.Lit i) (again : Nat → Screen → Screen)
    {presentAgain : Nat → Screen → Screen × Bool}
    (hpresent : ∀ s, Fits L s → Calm L s (present s).1)
    (hpresentAgain : ∀ k s, Fits L s → Calm L s (presentAgain k s).1) :
    Calm L (beforeHooks s i) (dpmsHooks s i present again presentAgain) := by
  have hquiet : ((beforeHooks s i).crtcs i).needModeset = false := by
    rw [beforeHooks, Screen.setNeedModeset, Screen.setCrtc_self]
  have hdpms := calm_crtcDpmsOn (fits_beforeHooks h i) hlit
  have hback := hdpms.trans (calm_initIfBack hdpms.fits i hpresent)
  exact hback.trans
    (calm_outputsOn hlit again hpresentAgain _ _ hback.fits (hback.quiet hlit hquiet))

end Hooks

/-! ## One turn -/

section Turn

variable {ids : FbIds} {L : Layout} {s t : Screen} {i : Nat}

/-- What a mode set with the CRTC's own values does to a lit CRTC and to the others. -/
structure Turn (L : Layout) (i : Nat) (s t : Screen) : Prop where
  fits : Fits L t
  here : Settled L t i
  others : ∀ j, j ≠ i → L.Lit j → Kept L s j → Kept L t j

theorem Modeset.kept {testOnly : Bool} {j : Nat} (h : Modeset L i testOnly s t) (hj : j ≠ i)
    (hkept : Kept L s j) : Kept L t j where
  quiet := by
    rw [h.crtcs]
    exact hkept.quiet
  own := by
    rw [Shows, h.others j hj]
    exact hkept.own
  dark := by
    rw [h.others j hj]
    exact hkept.dark

/-- A real mode set of a CRTC that needs none afterwards. -/
theorem Modeset.settled (h : Modeset L i false s t) (hquiet : (t.crtcs i).needModeset = false) :
    Settled L t i where
  quiet := hquiet
  own := h.own rfl
  last := fun hown _ => h.shared rfl hown
  dim := fun hown _ => by
    obtain ⟨hshows, hne⟩ := h.shared rfl hown
    rw [Shows] at hshows
    rw [hshows]
    split
    · exact Or.inr ⟨rfl, hne⟩
    · exact Or.inl rfl

/-- `drmmode_set_mode_major` with granted requests, the hooks being given. -/
theorem turn_of_modesets (ids : FbIds) (h : Fits L s) (hlit : L.Lit i) (again : Nat → Screen → Screen)
    {present : Screen → Screen × Bool} {presentAgain : Nat → Screen → Screen × Bool}
    (hpresent : ∀ s, Fits L s → Calm L s (present s).1)
    (hpresentAgain : ∀ k s, Fits L s → Calm L s (presentAgain k s).1)
    (hfirst : Modeset L i s.atomicModeset s t) :
    Turn L i s (setTested ids (dpmsHooks t i present again presentAgain) i grantedSet) := by
  have hstart := fits_beforeHooks hfirst.fits i
  have hhooks := calm_dpmsHooks hfirst.fits hlit again hpresent hpresentAgain
  have hquiet : ((beforeHooks t i).crtcs i).needModeset = false := by
    rw [beforeHooks, Screen.setNeedModeset, Screen.setCrtc_self]
  have hothers : ∀ j, j ≠ i → Kept L s j → Kept L (beforeHooks t i) j := by
    intro j hj hkept
    have hcrtc : (beforeHooks t i).crtcs j = t.crtcs j := by
      rw [beforeHooks, Screen.setNeedModeset, Screen.setCrtc_of_ne _ _ hj]
    have hfirst' := hfirst.kept hj hkept
    exact ⟨⟨(congrArg Crtc.needModeset hcrtc).trans hfirst'.quiet, hfirst'.own⟩, hfirst'.dark⟩
  generalize dpmsHooks t i present again presentAgain = u at hhooks ⊢
  have hend : ∀ v : Screen, Fits L v →
      Calm L v (({ v with pendingModeset := false } : Screen).setActive i) := by
    intro v hv
    have hpending : Calm L v { v with pendingModeset := false } :=
      Calm.of_same hv rfl rfl ⟨rfl, rfl, fun _ => rfl⟩
    exact hpending.trans (calm_setCrtc hpending.fits i _ rfl rfl rfl rfl)
  have hatomic : u.atomicModeset = s.atomicModeset := by
    rw [hhooks.fits.atomic_eq, h.atomic_eq]
  cases hmode : s.atomicModeset with
  | false =>
      rw [hmode] at hfirst hatomic
      have hset : Settled L (beforeHooks t i) i :=
        Modeset.settled ⟨hstart, rfl, fun _ _ => rfl, hfirst.own, hfirst.shared⟩ hquiet
      have hall := hhooks.trans (hend u hhooks.fits)
      rw [setTested, hatomic]
      exact ⟨hall.fits, hall.settled hlit hset,
        fun j hj hjlit hkept => hall.kept hjlit (hothers j hj hkept)⟩
  | true =>
      rw [hmode] at hatomic
      obtain ⟨v, hreal, hmodeset⟩ := crtcSetMode_shows ids hhooks.fits i false
      have hlast := hend v hmodeset.fits
      have hv : (v.crtcs i).needModeset = false := by
        rw [hmodeset.crtcs]
        exact hhooks.quiet hlit hquiet
      rw [setTested, hatomic, if_pos rfl, hreal]
      exact ⟨hlast.fits, hlast.settled hlit (hmodeset.settled hv), fun j hj hjlit hkept =>
        hlast.kept hjlit (hmodeset.kept hj (hhooks.kept hjlit (hothers j hj hkept)))⟩

end Turn

/-! ## The loop -/

section Loop

variable {L : Layout} {s t : Screen} {i j k : Nat}

/-- Between two turns, the next one being that of CRTC `k`: a lit CRTC that has had its
turn. -/
structure Owed (L : Layout) (k : Nat) (s : Screen) (j : Nat) : Prop extends Steady L s j where
  last : L.own j = 0 → L.LastEnabled j → Shows L s j s.fbId ∧ s.fbId ≠ 0
  dim : L.own j = 0 → ¬ L.LastEnabled j → s.scanout j = none ∨
    (s.scanout j = some s.fbId ∧ s.fbId ≠ 0) ∧ ∃ l, k ≤ l ∧ l < L.numCrtc ∧ L.enabled l = true

theorem Owed.placed (h : Owed L L.numCrtc s j) : Placed L s j where
  toSteady := h.toSteady
  last := h.last
  dark := fun hown hlast => by
    rcases h.dim hown hlast with hnone | ⟨-, l, hle, hlt, -⟩
    · exact hnone
    · exact absurd hlt (Nat.not_lt.mpr hle)

/-- A CRTC that is off has no turn. -/
theorem Owed.skip (h : Owed L k s j) (hk : L.enabled k = false) : Owed L (k + 1) s j where
  toSteady := h.toSteady
  last := h.last
  dim := fun hown hlast => by
    rcases h.dim hown hlast with hnone | ⟨hshows, l, hle, hlt, hon⟩
    · exact Or.inl hnone
    · have hne : l ≠ k := fun heq => by
        rw [heq, hk] at hon
        cases hon
      exact Or.inr ⟨hshows, l, by omega, hlt, hon⟩

theorem Kept.owed (h : Kept L s j) (hlast : ¬ L.LastEnabled j) : Owed L k s j where
  toSteady := h.toSteady
  last := fun _ hl => absurd hl hlast
  dim := fun hown _ => Or.inl (h.dark hown hlast)

theorem Settled.owed (h : Settled L s j) : Owed L (j + 1) s j where
  toSteady := h.toSteady
  last := h.last
  dim := fun hown hlast => by
    cases h.dim hown hlast with
    | inl hnone => exact Or.inl hnone
    | inr hshows =>
        have hlater : ∃ l, j < l ∧ l < L.numCrtc ∧ L.enabled l = true := by
          by_contra hno
          exact hlast fun l hl hlt => by
            cases hon : L.enabled l with
            | false => rfl
            | true => exact absurd ⟨l, hl, hlt, hon⟩ hno
        exact Or.inr ⟨hshows, hlater⟩

/-- What showed the framebuffer of the screen is dark when that has been removed. -/
theorem removeFlipped_spec (h : Fits L s) : Fits L (removeFlipped s) ∧
    ∀ j, ¬ L.LastEnabled j → Owed L k s j → Kept L (removeFlipped s) j := by
  unfold removeFlipped
  by_cases hzero : s.fbId = 0
  · rw [if_neg (not_not.mpr hzero)]
    refine ⟨h, fun j hlast howed => ⟨howed.toSteady, fun hown _ => ?_⟩⟩
    rcases howed.dim hown hlast with hnone | ⟨⟨-, hne⟩, -⟩
    · exact hnone
    · exact absurd hzero hne
  · rw [if_pos hzero]
    refine ⟨⟨h.layout, fun hne => absurd rfl hne, fun j hj => ?_⟩, fun j hlast howed => ?_⟩
    · have hown := h.owned j hj
      exact ⟨List.mem_filter.mpr ⟨hown.1, decide_eq_true hown.2⟩, hj⟩
    · refine ⟨⟨howed.quiet, fun hj => ?_⟩, fun hown _ => ?_⟩
      · have hshows := howed.own hj
        rw [Shows] at hshows
        show (if s.scanout j = some s.fbId then none else s.scanout j) = _
        rw [if_neg, hshows]
        rw [hshows]
        split
        · exact fun heq => (h.owned j hj).2 (Option.some.inj heq)
        · exact fun heq => by cases heq
      · show (if s.scanout j = some s.fbId then none else s.scanout j) = none
        rcases howed.dim hown hlast with hnone | ⟨⟨hshows, -⟩, -⟩
        · rw [hnone]
          rfl
        · rw [if_pos hshows]

/-- **The loop of an unflip**, from CRTC `k` on. -/
theorem unflipCrtcs_placed {set : Nat → Screen → Screen}
    (hset : ∀ i s, L.Lit i → Fits L s → Turn L i s (set i s)) (m : Nat) :
    ∀ (k : Nat) (s : Screen), k + m = L.numCrtc → Fits L s →
      (∀ j, j < k → L.Lit j → Owed L k s j) →
      Fits L (unflipCrtcs set (List.range' k m) s) ∧
        ∀ j, L.Lit j → Placed L (unflipCrtcs set (List.range' k m) s) j := by
  induction m with
  | zero =>
      intro k s hk h howed
      have hend : k = L.numCrtc := hk
      subst hend
      exact ⟨h, fun j hj => (howed j hj.1 hj).placed⟩
  | succ m ih =>
      intro k s hk h howed
      have hk' : k + 1 + m = L.numCrtc := by omega
      rw [List.range'_succ, unflipCrtcs, h.enabled_eq k]
      cases hon : L.enabled k with
      | false =>
          refine ih (k + 1) s hk' h fun j hj hlit => ?_
          have hne : j ≠ k := fun heq => by
            rw [Layout.Lit, heq, hon] at hlit
            cases hlit.2.1
          exact (howed j (by omega) hlit).skip hon
      | true =>
          have hnotLast : ∀ j, j < k → ¬ L.LastEnabled j := by
            intro j hj hlast
            have hoff := hlast k hj (by omega)
            rw [hon] at hoff
            cases hoff
          obtain ⟨hfits, hremoved⟩ := removeFlipped_spec (k := k) h
          have hkept : ∀ j, j < k → L.Lit j → Kept L (removeFlipped s) j := fun j hj hlit =>
            hremoved j (hnotLast j hj) (howed j hj hlit)
          simp only [Bool.not_true, Bool.false_eq_true, if_false, hfits.dpmsOn_eq k]
          cases hdpms : L.dpmsOn k with
          | false =>
              have hfits' : Fits L ((removeFlipped s).setNeedModeset k true) :=
                hfits.of_eq (layout_setCrtc _ k _ rfl rfl rfl) rfl rfl
              refine ih (k + 1) _ hk' hfits' fun j hj hlit => ?_
              have hne : j ≠ k := fun heq => by
                rw [Layout.Lit, heq, hdpms] at hlit
                cases hlit.2.2
              have hjk : j < k := by omega
              have hcrtc : (((removeFlipped s).setNeedModeset k true).crtcs j).needModeset =
                  ((removeFlipped s).crtcs j).needModeset := by
                rw [Screen.setNeedModeset, Screen.setCrtc_of_ne _ _ hne]
              have hj' := hkept j hjk hlit
              have hkept' : Kept L ((removeFlipped s).setNeedModeset k true) j :=
                ⟨⟨hcrtc.trans hj'.quiet, hj'.own⟩, hj'.dark⟩
              exact hkept'.owed (hnotLast j hjk)
          | true =>
              have hlitk : L.Lit k := ⟨by omega, hon, hdpms⟩
              have hturn := hset k (removeFlipped s) hlitk hfits
              refine ih (k + 1) _ hk' hturn.fits fun j hj hlit => ?_
              by_cases hjk : j = k
              · rw [hjk]
                exact hturn.here.owed
              · have hlt : j < k := by omega
                exact (hturn.others j hjk hlit (hkept j hlt hlit)).owed (hnotLast j hlt)

end Loop

/-! ## Unflips -/

mutual

/-- Every mode set is granted, in nested unflips too.  What is not asked for counts as
granted. -/
def Succeeds : ModeAnswer → Prop
  | .rotateFails => False
  | .rotated first present _ presentAgain real =>
      first = grantedSet ∧ Dispatched present ∧ (∀ k, Dispatched (presentAgain k)) ∧
        real = grantedSet

def Dispatched : Dispatch → Prop
  | .done _ => True
  | .unflip sets rest => (∀ i, Succeeds (sets i)) ∧ Dispatched rest

end

section Unflips

variable {L : Layout}

mutual

/-- A mode set with the CRTC's own values, whatever is dispatched meanwhile. -/
theorem turn_setModeMajor (ids : FbIds) : ∀ (a : ModeAnswer) (s : Screen) (i : Nat),
    Succeeds a → L.Lit i → Fits L s →
      Turn L i s (a.setModeMajor ids s i (s.crtcs i).config).1
  | .rotateFails, _, _, ha, _, _ => by
      rw [Succeeds] at ha
      exact ha.elim
  | .rotated first present again presentAgain real, s, i, ha, hlit, h => by
      rw [Succeeds] at ha
      obtain ⟨rfl, hpresent, hpresentAgain, rfl⟩ := ha
      have hstore : Calm L s (s.setConfig i (s.crtcs i).config) :=
        calm_setCrtc h i _ rfl rfl rfl rfl
      obtain ⟨t, hset, hmodeset⟩ := crtcSetMode_shows ids hstore.fits i s.atomicModeset
      rw [ModeAnswer.setModeMajor]
      simp only
      rw [show (s.setConfig i (s.crtcs i).config).atomicModeset = s.atomicModeset from rfl, hset]
      have hturn := turn_of_modesets ids hstore.fits hlit
        (fun k s => ((again k).setModeMajor ids s i (s.crtcs i).config).1)
        (fun s h => calm_run ids present s hpresent h)
        (fun k s h => calm_run ids (presentAgain k) s (hpresentAgain k) h) hmodeset
      exact ⟨hturn.fits, hturn.here, fun j hj hjlit hkept =>
        hturn.others j hj hjlit (hstore.kept hjlit hkept)⟩

/-- The events of a flush. -/
theorem calm_run (ids : FbIds) : ∀ (d : Dispatch) (s : Screen),
    Dispatched d → Fits L s → Calm L s (d.run ids s).1
  | .done _, s, _, h => Calm.refl h
  | .unflip sets rest, s, hd, h => by
      rw [Dispatched] at hd
      obtain ⟨hsets, hrest⟩ := hd
      rw [Dispatch.run, h.numCrtc_eq, List.range_eq_range']
      obtain ⟨hfits, hplaced⟩ := unflipCrtcs_placed
        (fun i s hlit h => turn_setModeMajor ids (sets i) s i (hsets i) hlit h)
        L.numCrtc 0 s (Nat.zero_add _) h fun j hj => absurd hj (Nat.not_lt_zero j)
      exact Calm.trans ⟨hfits, Or.inr hplaced⟩ (calm_run ids rest _ hrest hfits)

end

/-- **The fallback of `ms_present_unflip`**: what each lit CRTC shows in the end. -/
theorem msPresentUnflip_placed (ids : FbIds) (s : Screen) (sets : Nat → ModeAnswer)
    (hregistered : Registered s) (hsets : ∀ i, Succeeds (sets i)) :
    Fits (layout s) (msPresentUnflip ids s sets) ∧
      ∀ j, (layout s).Lit j → Placed (layout s) (msPresentUnflip ids s sets) j := by
  rw [msPresentUnflip, List.range_eq_range']
  exact unflipCrtcs_placed
    (fun i s hlit h => turn_setModeMajor ids (sets i) s i (hsets i) hlit h)
    s.numCrtc 0 s (Nat.zero_add _) (Fits.of_registered hregistered)
    fun j hj => absurd hj (Nat.not_lt_zero j)

/-- **The CRTC is lit by a framebuffer that exists**, that of the screen if it has none of its
own. -/
def ScansOut (s : Screen) (i : Nat) : Prop :=
  ∃ fbId, s.scanout i = some fbId ∧ fbId ∈ s.fbs ∧
    fbId = if ownFbId s (s.crtcs i) = 0 then s.fbId else ownFbId s (s.crtcs i)

/-- **The condition.**  A lit CRTC without a framebuffer of its own is not followed by another
enabled one, and with atomic mode setting each lit CRTC has an output that is there. -/
def NoneAfter (s : Screen) : Prop :=
  ∀ i, i < s.numCrtc → (s.crtcs i).enabled = true → (s.crtcs i).dpmsOn = true →
    driven s i = true ∧
      (ownFbId s (s.crtcs i) = 0 → ∀ k, i < k → k < s.numCrtc → (s.crtcs k).enabled = false)

theorem scansOut_iff {t : Screen} {i : Nat} (hfits : Fits L t) (h : Placed L t i) :
    ScansOut t i ↔ L.driven i = true ∧ (L.own i = 0 → L.LastEnabled i) := by
  rw [ScansOut, hfits.own_eq i]
  by_cases hown : L.own i = 0
  · rw [if_pos hown]
    by_cases hlast : L.LastEnabled i
    · obtain ⟨hshows, hne⟩ := h.last hown hlast
      rw [Shows] at hshows
      cases hdriven : L.driven i with
      | false =>
          rw [hdriven] at hshows
          refine iff_of_false ?_ fun hcond => by cases hcond.1
          rintro ⟨fbId, hfb, -⟩
          rw [hshows] at hfb
          cases hfb
      | true =>
          rw [hdriven] at hshows
          exact iff_of_true ⟨t.fbId, hshows, hfits.flipped hne, rfl⟩ ⟨rfl, fun _ => hlast⟩
    · refine iff_of_false ?_ fun hcond => hlast (hcond.2 hown)
      rintro ⟨fbId, hfb, -⟩
      rw [h.dark hown hlast] at hfb
      cases hfb
  · rw [if_neg hown]
    have hshows := h.own hown
    rw [Shows] at hshows
    cases hdriven : L.driven i with
    | false =>
        rw [hdriven] at hshows
        refine iff_of_false ?_ fun hcond => by cases hcond.1
        rintro ⟨fbId, hfb, -⟩
        rw [hshows] at hfb
        cases hfb
    | true =>
        rw [hdriven] at hshows
        exact iff_of_true ⟨L.own i, hshows, (hfits.owned i hown).1, rfl⟩
          ⟨rfl, fun hzero => absurd hzero hown⟩

/-- **After an unflip every lit CRTC shows a framebuffer** exactly when no enabled CRTC has
its turn after one that was given the screen's. -/
theorem unflip_lit_iff (ids : FbIds) (s : Screen) (sets : Nat → ModeAnswer)
    (hregistered : Registered s) (hsets : ∀ i, Succeeds (sets i)) :
    (∀ i, i < s.numCrtc → (s.crtcs i).enabled = true → (s.crtcs i).dpmsOn = true →
        ScansOut (msPresentUnflip ids s sets) i) ↔ NoneAfter s := by
  obtain ⟨hfits, hplaced⟩ := msPresentUnflip_placed ids s sets hregistered hsets
  constructor
  · intro h i hi hon hdpms
    exact (scansOut_iff hfits (hplaced i ⟨hi, hon, hdpms⟩)).mp (h i hi hon hdpms)
  · intro h i hi hon hdpms
    exact (scansOut_iff hfits (hplaced i ⟨hi, hon, hdpms⟩)).mpr (h i hi hon hdpms)

end Unflips

theorem oneHead_registered (numCrtc : Nat) :
    Registered { oneHead false with numCrtc := numCrtc } :=
  ⟨fun _ => List.mem_singleton.mpr rfl, fun _ hown => absurd rfl hown⟩

/-- Two heads of which only the second is enabled. -/
def secondLit : Screen :=
  { oneHead false with numCrtc := 2 }.setCrtc 0 fun crtc => { crtc with enabled := false }

theorem secondLit_registered : Registered secondLit := by
  refine ⟨fun _ => List.mem_singleton.mpr rfl, fun i hown => absurd ?_ hown⟩
  unfold secondLit Screen.setCrtc ownFbId
  dsimp only
  by_cases hi : i = 0
  · rw [hi, Function.update_self]
    rfl
  · rw [Function.update_of_ne hi]
    rfl

/-- All requests granted and nothing dispatched. -/
theorem plain_succeeds : Succeeds (plainAnswer grantedSet) := by
  have hdone : Dispatched (.done true) := by
    rw [Dispatched]
    trivial
  rw [plainAnswer, Succeeds]
  exact ⟨rfl, hdone, fun _ => hdone, rfl⟩

/-- Of two heads the last one is lit and has no other after it. -/
theorem unflip_lit_last :
    ScansOut (msPresentUnflip .above secondLit fun _ => plainAnswer grantedSet) 1 := by
  have hnone : NoneAfter secondLit := by
    intro i hi hon _
    refine ⟨rfl, fun _ k hk hkn => ?_⟩
    have hi1 : i ≠ 0 := fun h => by
      rw [h] at hon
      cases hon
    have hk2 : k < 2 := hkn
    omega
  exact (unflip_lit_iff .above secondLit _ secondLit_registered fun _ => plain_succeeds).mpr
    hnone 1 Nat.one_lt_two rfl rfl

/-- **The second head's turn darkens the first.** -/
theorem second_head_darkens_first :
    let s := { oneHead false with numCrtc := 2 }
    let t := msPresentUnflip .above s fun _ => plainAnswer grantedSet
    (s.crtcs 0).enabled = true ∧ (s.crtcs 0).dpmsOn = true ∧ s.scanout 0 = some 5 ∧
      t.scanout 0 = none ∧ t.scanout 1 = some t.fbId ∧ ¬ ScansOut t 0 := by
  have hdark : (msPresentUnflip .above { oneHead false with numCrtc := 2 }
      fun _ => plainAnswer grantedSet).scanout 0 = none := by decide +kernel
  refine ⟨rfl, rfl, rfl, hdark, by decide +kernel, ?_⟩
  rintro ⟨fbId, hfb, -⟩
  rw [hdark] at hfb
  cases hfb

end LoongsonVideo.Driver.Unflip
