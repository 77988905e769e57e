import LoongsonVideo.Driver.Scanout
import LoongsonVideo.Verified.Machine
import LoongsonVideo.Verified.Row

/-!
# Where scanout pixmaps lie on the screen

In `reverse_prime_offload_mode` every scanout pixmap shows a rectangle of the screen
pixmap.  `drmmode_set_target_scanout_pixmap_gpu` lays out the CRTCs from left to right,
gives the screen the size of the row, and records the position of the one CRTC it is
called for.  The others keep the position an earlier call recorded.

So the rectangles are disjoint and inside the screen as long as the CRTCs to the left of
one are together as wide as when its own pixmap was set, and the row is no wider than a
drawable can be: `areasFit_of_unmoved`.  `Noted` goes along with a run and keeps the widths
that every CRTC's own call has counted.
-/

namespace LoongsonVideo.Driver.Scanout

open LoongsonVideo.Verified.Machine
open LoongsonVideo.Verified

/-! ## Rectangles -/

/-- A rectangle of the screen pixmap that begins at its upper edge. -/
structure Area where
  x : Nat
  width : Nat
  height : Nat
  deriving DecidableEq, Repr

def Area.Has (a : Area) (px py : Nat) : Prop := a.x ≤ px ∧ px < a.x + a.width ∧ py < a.height

def Area.Disjoint (a b : Area) : Prop := ∀ px py, a.Has px py → ¬ b.Has px py

def Area.Inside (a : Area) (width height : Nat) : Prop :=
  ∀ px py, a.Has px py → px < width ∧ py < height

/-- The rectangle that the scanout pixmap of a CRTC shows. -/
def area (crtc : Crtc) : Option Area :=
  crtc.primePixmap.map fun ppix => ⟨crtc.primePixmapX, ppix.width, ppix.height⟩

def areaAt (s : Drmmode) (c : Nat) : Option Area := s.crtcs[c]?.bind area

/-- **The property.** The rectangles of all CRTCs that have a scanout pixmap are pairwise
disjoint and lie inside the screen pixmap. -/
structure AreasFit (s : Drmmode) : Prop where
  disjoint : ∀ c d a b, c ≠ d → areaAt s c = some a → areaAt s d = some b → a.Disjoint b
  inside : ∀ c a, areaAt s c = some a → a.Inside s.screenWidth s.screenHeight

theorem Area.Disjoint.symm {a b : Area} (h : a.Disjoint b) : b.Disjoint a :=
  fun px py hb ha => h px py ha hb

theorem Area.disjoint_of_le {a b : Area} (h : a.x + a.width ≤ b.x) : a.Disjoint b := by
  intro px py ha hb
  unfold Area.Has at ha hb
  omega

theorem Area.inside_of_le {a : Area} {width height : Nat} (hx : a.x + a.width ≤ width)
    (hy : a.height ≤ height) : a.Inside width height := by
  intro px py ha
  unfold Area.Has at ha
  omega

/-! ## The row a call lays out -/

/-- The width that `drmmode_set_target_scanout_pixmap_gpu` counts for CRTC `c`. -/
def countedWidth (i : Nat) (ppix : Ppix) (c : Nat) (crtc : Crtc) : Nat :=
  if c = i then ppix.width else if crtc.enabled then crtc.hDisplay else 0

def countedHeight (i : Nat) (ppix : Ppix) (c : Nat) (crtc : Crtc) : Nat :=
  if c = i then ppix.height else if crtc.enabled then crtc.vDisplay else 0

/-- The widths of the CRTCs from `c` on. -/
def countedWidths (i : Nat) (ppix : Ppix) (c : Nat) (crtcs : List Crtc) : List Nat :=
  (crtcs.zipIdx c).map fun p => countedWidth i ppix p.2 p.1

@[simp] theorem countedWidths_cons (i : Nat) (ppix : Ppix) (c : Nat) (crtc : Crtc)
    (rest : List Crtc) :
    countedWidths i ppix c (crtc :: rest) =
      countedWidth i ppix c crtc :: countedWidths i ppix (c + 1) rest := rfl

theorem countedWidths_get (i : Nat) (ppix : Ppix) {crtcs : List Crtc} {c : Nat} {crtc : Crtc}
    (hc : crtcs[c]? = some crtc) :
    (countedWidths i ppix 0 crtcs)[c]? = some (countedWidth i ppix c crtc) := by
  unfold countedWidths
  rw [List.getElem?_map, List.getElem?_zipIdx, hc]
  show some (countedWidth i ppix (0 + c) crtc) = _
  rw [Nat.zero_add]

/-- The box after the loop has seen one more CRTC. -/
theorem boundingBox_cons (i : Nat) (ppix : Ppix) (c : Nat) (crtc : Crtc) (rest : List Crtc)
    (box : BoundingBox) :
    boundingBox i ppix c (crtc :: rest) box =
      boundingBox i ppix (c + 1) rest
        ⟨box.totalWidth + countedWidth i ppix c crtc,
          max box.maxHeight (countedHeight i ppix c crtc),
          if c = i then box.totalWidth else box.thisX⟩ := by
  rw [boundingBox]
  congr 1
  unfold countedWidth countedHeight
  by_cases hi : c = i
  · simp [hi]
  · cases crtc.enabled <;> simp [hi]

theorem boundingBox_totalWidth (i : Nat) (ppix : Ppix) (crtcs : List Crtc) (c : Nat)
    (box : BoundingBox) :
    (boundingBox i ppix c crtcs box).totalWidth =
      box.totalWidth + (countedWidths i ppix c crtcs).sum := by
  induction crtcs generalizing c box with
  | nil => rfl
  | cons crtc rest ih =>
      rw [boundingBox_cons, ih, countedWidths_cons, List.sum_cons]
      exact Nat.add_assoc _ _ _

theorem boundingBox_maxHeight (i : Nat) (ppix : Ppix) (crtcs : List Crtc) (c : Nat)
    (box : BoundingBox) :
    box.maxHeight ≤ (boundingBox i ppix c crtcs box).maxHeight ∧
      ∀ k crtc, crtcs[k]? = some crtc →
        countedHeight i ppix (c + k) crtc ≤ (boundingBox i ppix c crtcs box).maxHeight := by
  induction crtcs generalizing c box with
  | nil => exact ⟨Nat.le_refl _, fun k crtc hk => by cases hk⟩
  | cons crtc rest ih =>
      rw [boundingBox_cons]
      have hrest := ih (c + 1) ⟨box.totalWidth + countedWidth i ppix c crtc,
        max box.maxHeight (countedHeight i ppix c crtc),
        if c = i then box.totalWidth else box.thisX⟩
      constructor
      · exact Nat.le_trans (Nat.le_max_left _ _) hrest.1
      · intro k iter hk
        cases k with
        | zero =>
            have hiter : crtc = iter := Option.some.inj hk
            exact hiter ▸ Nat.le_trans (Nat.le_max_right _ _) hrest.1
        | succ k =>
            have hle := hrest.2 k iter hk
            rwa [Nat.add_right_comm] at hle

/-- Behind the CRTC that is set the loop leaves its position alone. -/
theorem boundingBox_thisX_behind (i : Nat) (ppix : Ppix) (crtcs : List Crtc) (c : Nat)
    (box : BoundingBox) (hc : i < c) : (boundingBox i ppix c crtcs box).thisX = box.thisX := by
  induction crtcs generalizing c box with
  | nil => rfl
  | cons crtc rest ih =>
      rw [boundingBox_cons, ih (c + 1) _ (by omega)]
      exact if_neg (by omega)

/-- The CRTC that is set begins where the CRTCs to its left end. -/
theorem boundingBox_thisX (i : Nat) (ppix : Ppix) (crtcs : List Crtc) (c : Nat)
    (box : BoundingBox) (hc : c ≤ i) (hi : i < c + crtcs.length) :
    (boundingBox i ppix c crtcs box).thisX =
      box.totalWidth + Row.left (countedWidths i ppix c crtcs) (i - c) := by
  induction crtcs generalizing c box with
  | nil => exact absurd hi (by simp [hc])
  | cons crtc rest ih =>
      rw [boundingBox_cons]
      by_cases heq : c = i
      · rw [boundingBox_thisX_behind _ _ _ _ _ (by omega), heq, Nat.sub_self, Row.left_zero]
        exact if_pos rfl
      · have hsucc : i - c = i - (c + 1) + 1 := by omega
        rw [List.length_cons] at hi
        rw [ih (c + 1) _ (by omega) (by omega), hsucc, countedWidths_cons, Row.left_cons_succ]
        exact Nat.add_assoc _ _ _

/-! ## What the other calls leave alone -/

/-- All that the property reads, and the number of CRTCs. -/
def shown (s : Drmmode) : (Nat → Option Area) × Nat × Nat × Nat × Bool :=
  (areaAt s, s.crtcs.length, s.screenWidth, s.screenHeight, s.reversePrimeOffloadMode)

theorem areaAt_setCrtc (s : Drmmode) (i : Nat) (f : Crtc → Crtc) (c : Nat) :
    areaAt (s.setCrtc i f) c =
      if c = i then s.crtcs[i]?.bind (area ∘ f) else areaAt s c := by
  unfold areaAt Drmmode.setCrtc
  simp only [List.getElem?_modify]
  by_cases hc : c = i
  · subst hc
    cases s.crtcs[c]? <;> simp
  · rw [if_neg hc]
    cases s.crtcs[c]? <;> simp [Ne.symm hc]

theorem shown_setCrtc (s : Drmmode) (i : Nat) (f : Crtc → Crtc)
    (hf : ∀ crtc, area (f crtc) = area crtc) : shown (s.setCrtc i f) = shown s := by
  have harea : areaAt (s.setCrtc i f) = areaAt s := by
    funext c
    rw [areaAt_setCrtc]
    split
    · next hc =>
        unfold areaAt
        rw [hc]
        exact congrArg _ (funext hf)
    · rfl
  have hlength : (s.setCrtc i f).crtcs.length = s.crtcs.length := List.length_modify ..
  show (areaAt (s.setCrtc i f), (s.setCrtc i f).crtcs.length, _) = _
  rw [harea, hlength]
  rfl

theorem shown_needModeset (s : Drmmode) (i : Nat) (needModeset : Bool) :
    shown (s.setCrtc i fun crtc => { crtc with needModeset := needModeset }) = shown s :=
  shown_setCrtc s i _ fun _ => rfl

theorem shown_drmmodeCrtcGetFbId (ids : FbIds) (s : Drmmode) (crtc : Crtc) (importOk : Bool) :
    shown (drmmodeCrtcGetFbId ids s crtc importOk).1 = shown s := by
  simp only [drmmodeCrtcGetFbId, drmModeAddFB]
  cases importOk <;> split <;> rfl

theorem shown_rotateCall (ids : FbIds) (i : Nat) (s : Drmmode) (call : RotateCall) :
    shown (call.apply ids i s) = shown s := by
  cases call with
  | allocate createOk addFbOk =>
      simp only [RotateCall.apply, drmmodeShadowAllocate, drmModeAddFB]
      cases createOk <;> cases addFbOk
      · rfl
      · rfl
      · rfl
      · exact shown_setCrtc _ i _ fun _ => rfl
  | destroy data =>
      simp only [RotateCall.apply, drmmodeShadowDestroy]
      split
      · rfl
      · cases data
        · rfl
        · exact shown_setCrtc _ i _ fun _ => rfl

/-- Mode sets change nothing of this. -/
theorem shown_closed (ids : FbIds) : Closed ids fun s t => shown t = shown s where
  refl := fun _ => rfl
  trans := fun hst htu => htu.trans hst
  withMode := fun s i _ => shown_setCrtc s i _ fun _ => rfl
  needModeset := shown_needModeset
  rotate := fun s i call => shown_rotateCall ids i s call
  getFbId := fun s _ crtc importOk _ => shown_drmmodeCrtcGetFbId ids s crtc importOk

/-- **Resizing** leaves the rectangles where they are, and the screen is as wide and as high
as before or as it was to become. -/
theorem resize_areas (ids : FbIds) (s : Drmmode) (width height : Nat) (a : ResizeAnswer) :
    let t := (drmmodeXf86crtcResize ids s width height a).1
    areaAt t = areaAt s ∧ t.crtcs.length = s.crtcs.length ∧
      t.reversePrimeOffloadMode = s.reversePrimeOffloadMode ∧
      (t.screenWidth = s.screenWidth ∨ t.screenWidth = toCard16 width) ∧
      (t.screenHeight = s.screenHeight ∨ t.screenHeight = toCard16 height) := by
  have hheader : ∀ n old : Nat, (if 0 < n then toCard16 n else old) = old ∨
      (if 0 < n then toCard16 n else old) = toCard16 n := by
    intro n old
    split
    · exact .inr rfl
    · exact .inl rfl
  have hnew := And.intro (hheader width s.screenWidth) (hheader height s.screenHeight)
  simp only [drmmodeXf86crtcResize, modifyPixmapHeader_crtcs]
  split
  · exact ⟨rfl, rfl, rfl, .inl rfl, .inl rfl⟩
  · split
    · exact ⟨rfl, rfl, rfl, .inl rfl, .inl rfl⟩
    · split
      · exact ⟨rfl, rfl, rfl, .inl rfl, .inl rfl⟩
      · split
        · exact ⟨rfl, rfl, rfl, hnew⟩
        · have hshown := (shown_closed ids).resize a.modes (List.range s.crtcs.length)
            (modifyPixmapHeader { s with fbId := 0, virtualX := width, virtualY := height }
              width height)
          simp only [shown, Prod.mk.injEq] at hshown
          obtain ⟨hareas, hlength, hwidth, hheight, hreverse⟩ := hshown
          split
          · exact ⟨hareas, hlength, hreverse, hwidth ▸ hnew.1, hheight ▸ hnew.2⟩
          · exact ⟨hareas, hlength, hreverse, hwidth ▸ hnew.1, hheight ▸ hnew.2⟩

/-- A resize that the allocators answer succeeds. -/
theorem resize_succeeds (ids : FbIds) (s : Drmmode) (width height : Nat) {a : ResizeAnswer}
    (hcreate : a.createOk = true) (hpixels : a.pixelsOk = true) (hglamor : a.glamorOk = true) :
    (drmmodeXf86crtcResize ids s width height a).2 = true := by
  simp only [drmmodeXf86crtcResize, hcreate, hpixels, hglamor]
  split
  · rfl
  · simp only [Bool.not_true, Bool.false_eq_true, if_false]
    split <;> rfl

/-! ## One call -/

/-- The size of the row that a call for CRTC `i` lays out. -/
def rowWidth (s : Drmmode) (i : Nat) (ppix : Ppix) : Nat :=
  (countedWidths i ppix 0 s.crtcs).sum

/-- Where a call for CRTC `i` puts CRTC `c`. -/
def rowLeft (s : Drmmode) (i : Nat) (ppix : Ppix) (c : Nat) : Nat :=
  Row.left (countedWidths i ppix 0 s.crtcs) c

/-- The height of the row. -/
def rowHeight (s : Drmmode) (i : Nat) (ppix : Ppix) : Nat :=
  (boundingBox i ppix 0 s.crtcs ⟨0, 0, 0⟩).maxHeight

/-- The loop does not look at the record of the CRTC that is set. -/
theorem boundingBox_modify (ppix : Ppix) (f : Crtc → Crtc) (crtcs : List Crtc) (c j : Nat)
    (box : BoundingBox) :
    boundingBox (c + j) ppix c (crtcs.modify j f) box = boundingBox (c + j) ppix c crtcs box := by
  induction crtcs generalizing c j box with
  | nil => simp
  | cons crtc rest ih =>
      cases j with
      | zero =>
          rw [List.modify_zero_cons, boundingBox_cons, boundingBox_cons]
          simp only [countedWidth, countedHeight, Nat.add_zero, if_true]
      | succ j =>
          rw [List.modify_succ_cons, boundingBox_cons, boundingBox_cons]
          have hrest := ih (c + 1) j
          rw [Nat.add_right_comm c 1 j] at hrest
          exact hrest _

/-- A CRTC that gives up its pixmap has no rectangle, and nothing else changes. -/
theorem dropTargetGpu_spec {s : Drmmode} {i : Nat} {crtc : Crtc} (hi : s.crtcs[i]? = some crtc) :
    let t := dropTargetGpu s i crtc
    (∃ f, t.crtcs = s.crtcs.modify i f) ∧
      (∀ c, areaAt t c = if c = i then none else areaAt s c) ∧
      t.screenWidth = s.screenWidth ∧ t.screenHeight = s.screenHeight ∧
      t.reversePrimeOffloadMode = s.reversePrimeOffloadMode := by
  simp only [dropTargetGpu]
  split
  · split
    · refine ⟨⟨_, rfl⟩, fun c => ?_, rfl, rfl, rfl⟩
      rw [areaAt_setCrtc]
      show (if c = i then s.crtcs[i]?.bind _ else areaAt s c) = _
      rw [hi]
      rfl
    · refine ⟨⟨_, rfl⟩, fun c => ?_, rfl, rfl, rfl⟩
      rw [areaAt_setCrtc, hi]
      rfl
  · next hnone =>
      refine ⟨⟨id, (List.modify_id ..).symm⟩, fun c => ?_, rfl, rfl, rfl⟩
      split
      · next hc =>
          unfold areaAt area
          rw [hc, hi, Option.bind_some]
          rw [Bool.not_eq_true, Option.isSome_eq_false_iff, Option.isNone_iff_eq_none] at hnone
          rw [hnone]
          rfl
      · rfl

theorem toCard16_of_lt {n : Nat} (h : n < 2 ^ 16) : toCard16 n = n := Nat.mod_eq_of_lt h

/-- **A call that sets a scanout pixmap** puts it behind the CRTCs to its left, leaves the
other rectangles where they are and gives the screen the size of the row, if a drawable can
be that large. -/
theorem setTargetGpu_spec (ids : FbIds) {s : Drmmode} {i : Nat} {crtc : Crtc}
    (hi : s.crtcs[i]? = some crtc) (ppix : Ppix) {a : ResizeAnswer}
    (hok : a.createOk = true ∧ a.pixelsOk = true ∧ a.glamorOk = true)
    (hsize : rowWidth s i ppix < 2 ^ 16 ∧ rowHeight s i ppix < 2 ^ 16) :
    let t := drmmodeSetTargetScanoutPixmapGpu ids s i (some ppix) a
    t.2 = true ∧ (∀ c, areaAt t.1 c =
        if c = i then some ⟨rowLeft s i ppix i, ppix.width, ppix.height⟩ else areaAt s c) ∧
      t.1.screenWidth = rowWidth s i ppix ∧ t.1.screenHeight = rowHeight s i ppix ∧
      t.1.reversePrimeOffloadMode = s.reversePrimeOffloadMode := by
  simp only [drmmodeSetTargetScanoutPixmapGpu, hi]
  obtain ⟨⟨f, hcrtcs⟩, hareas, _, _, hreverse⟩ := dropTargetGpu_spec hi
  generalize dropTargetGpu s i crtc = u at hcrtcs hareas hreverse ⊢
  have hbox : boundingBox i ppix 0 u.crtcs ⟨0, 0, 0⟩ = boundingBox i ppix 0 s.crtcs ⟨0, 0, 0⟩ := by
    have hsame := boundingBox_modify ppix f s.crtcs 0 i ⟨0, 0, 0⟩
    rw [Nat.zero_add] at hsame
    rw [hcrtcs, hsame]
  have hlength : i < s.crtcs.length := (List.getElem?_eq_some_iff.mp hi).1
  have htotal : (boundingBox i ppix 0 s.crtcs ⟨0, 0, 0⟩).totalWidth = rowWidth s i ppix := by
    rw [boundingBox_totalWidth, Nat.zero_add, rowWidth]
  have hthis : (boundingBox i ppix 0 s.crtcs ⟨0, 0, 0⟩).thisX = rowLeft s i ppix i := by
    rw [boundingBox_thisX i ppix s.crtcs 0 ⟨0, 0, 0⟩ (Nat.zero_le i) (by omega), Nat.zero_add,
      Nat.sub_zero, rowLeft]
  have hplace : ∀ v : Drmmode, areaAt v = areaAt u → v.crtcs.length = u.crtcs.length → ∀ c,
      areaAt (placePixmap v i ppix (rowLeft s i ppix i)) c =
        if c = i then some ⟨rowLeft s i ppix i, ppix.width, ppix.height⟩ else areaAt s c := by
    intro v hv hvlength c
    have hiv : i < v.crtcs.length := by
      rw [hvlength, hcrtcs, List.length_modify]
      exact hlength
    unfold placePixmap
    rw [areaAt_setCrtc, List.getElem?_eq_getElem hiv, hv, hareas]
    split <;> rfl
  have hheight : (boundingBox i ppix 0 s.crtcs ⟨0, 0, 0⟩).maxHeight = rowHeight s i ppix := rfl
  rw [hbox, htotal, hthis, hheight]
  split
  · have hresize := resize_areas ids u (rowWidth s i ppix) (rowHeight s i ppix) a
    have hsucceeds := resize_succeeds ids u (rowWidth s i ppix) (rowHeight s i ppix) hok.1 hok.2.1
      hok.2.2
    generalize drmmodeXf86crtcResize ids u (rowWidth s i ppix) (rowHeight s i ppix) a = r
      at hresize hsucceeds ⊢
    obtain ⟨v, ok⟩ := r
    have htrue : ok = true := hsucceeds
    subst htrue
    obtain ⟨hv, hvlength, hvreverse, _⟩ := hresize
    exact ⟨rfl, hplace _ hv hvlength, toCard16_of_lt hsize.1, toCard16_of_lt hsize.2,
      hvreverse.trans hreverse⟩
  · next hsame =>
      have hwidth : u.screenWidth = rowWidth s i ppix := by omega
      have hscreen : u.screenHeight = rowHeight s i ppix := by omega
      exact ⟨rfl, hplace u rfl rfl, hwidth, hscreen, hreverse⟩

/-- **The assumption on a call.** A screen resize succeeds, and an enabled CRTC with a
scanout pixmap has a mode of the pixmap's size.  A resize of its own does not make the
screen smaller, and comes with numbers of 16 bits, as RandR has them. -/
def Served (s : Drmmode) : ScanoutOp → Prop
  | .setScanoutPixmap i (some _) _ a =>
      (a.createOk = true ∧ a.pixelsOk = true ∧ a.glamorOk = true) ∧
        ∀ c < s.crtcs.length, c ≠ i → ∀ crtc ∈ s.crtcs[c]?, ∀ p ∈ crtc.primePixmap,
          crtc.enabled = true → crtc.hDisplay = p.width ∧ crtc.vDisplay = p.height
  | .resize width height _ =>
      (s.screenWidth ≤ width ∧ width < 2 ^ 16) ∧ s.screenHeight ≤ height ∧ height < 2 ^ 16
  | _ => True

/-- A screen, and the widths that the last successful call for each CRTC has counted. -/
structure Noted where
  screen : Drmmode
  widths : Nat → List Nat

/-- A step with its note. -/
def notedStep (ids : FbIds) (t : Noted) (op : ScanoutOp) : Noted where
  screen := scanoutStep ids t.screen op
  widths :=
    match op with
    | .setScanoutPixmap i (some ppix) addFbOk a =>
        if (drmmodeSetScanoutPixmap ids t.screen i (some ppix) addFbOk a).2 then
          Function.update t.widths i (countedWidths i ppix 0 t.screen.crtcs)
        else t.widths
    | _ => t.widths

/-- **The condition.** Every other CRTC with a scanout pixmap is enabled, and the CRTCs to
its left are together as wide as when its own pixmap was set.  A drawable can have the size of
the row. -/
def Unmoved (t : Noted) : ScanoutOp → Prop
  | .setScanoutPixmap i (some ppix) _ _ =>
      (∀ c < t.screen.crtcs.length, c ≠ i → ∀ crtc ∈ t.screen.crtcs[c]?,
        ∀ _p ∈ crtc.primePixmap, crtc.enabled = true ∧
          Row.left (countedWidths i ppix 0 t.screen.crtcs) c = Row.left (t.widths c) c) ∧
        (countedWidths i ppix 0 t.screen.crtcs).sum < 2 ^ 16 ∧
        ∀ c < t.screen.crtcs.length, ∀ crtc ∈ t.screen.crtcs[c]?,
          countedHeight i ppix c crtc < 2 ^ 16
  | _ => True

instance (s : Drmmode) : (op : ScanoutOp) → Decidable (Served s op)
  | .setScanoutPixmap _ (some _) _ _ => inferInstanceAs (Decidable (_ ∧ ∀ c < s.crtcs.length, _))
  | .resize _ _ _ => inferInstanceAs (Decidable (_ ∧ _))
  | .setScanoutPixmap _ none _ _ | .crtcSetMode .. | .setModeMajor .. | .setDpms ..
  | .rotate .. | .setEnabled .. | .needModeset .. | .freeBos => .isTrue trivial

instance (t : Noted) : (op : ScanoutOp) → Decidable (Unmoved t op)
  | .setScanoutPixmap _ (some _) _ _ =>
      inferInstanceAs (Decidable ((∀ c < t.screen.crtcs.length, _) ∧ _ ∧
        ∀ c < t.screen.crtcs.length, _))
  | .setScanoutPixmap _ none _ _ | .crtcSetMode .. | .setModeMajor .. | .setDpms ..
  | .resize .. | .rotate .. | .setEnabled .. | .needModeset .. | .freeBos => .isTrue trivial

/-! ## Runs -/

/-- A state with some of the rectangles, on a screen that is not smaller. -/
theorem AreasFit.of_le {s t : Drmmode} (h : AreasFit s)
    (hareas : ∀ c a, areaAt t c = some a → areaAt s c = some a)
    (hwidth : s.screenWidth ≤ t.screenWidth) (hheight : s.screenHeight ≤ t.screenHeight) :
    AreasFit t where
  disjoint := fun c d a b hcd ha hb => h.disjoint c d a b hcd (hareas c a ha) (hareas d b hb)
  inside := fun c a ha px py hin =>
    have hold := h.inside c a (hareas c a ha) px py hin
    ⟨Nat.lt_of_lt_of_le hold.1 hwidth, Nat.lt_of_lt_of_le hold.2 hheight⟩

theorem AreasFit.of_shown {s t : Drmmode} (h : AreasFit s) (hshown : shown t = shown s) :
    AreasFit t := by
  simp only [shown, Prod.mk.injEq] at hshown
  obtain ⟨hareas, _, hwidth, hheight, _⟩ := hshown
  exact h.of_le (fun c a ha => hareas ▸ ha) (Nat.le_of_eq hwidth.symm) (Nat.le_of_eq hheight.symm)

/-- The position a CRTC has recorded is the one its own call has counted. -/
def Placed (t : Noted) : Prop :=
  ∀ c a, areaAt t.screen c = some a → a.x = Row.left (t.widths c) c

theorem rowHeight_lt {s : Drmmode} {i : Nat} {ppix : Ppix}
    (h : ∀ c < s.crtcs.length, ∀ crtc ∈ s.crtcs[c]?, countedHeight i ppix c crtc < 2 ^ 16) :
    rowHeight s i ppix < 2 ^ 16 := by
  have hbox : ∀ (crtcs : List Crtc) (c : Nat) (box : BoundingBox), box.maxHeight < 2 ^ 16 →
      (∀ k crtc, crtcs[k]? = some crtc → countedHeight i ppix (c + k) crtc < 2 ^ 16) →
      (boundingBox i ppix c crtcs box).maxHeight < 2 ^ 16 := by
    intro crtcs
    induction crtcs with
    | nil => exact fun c box hbox _ => hbox
    | cons crtc rest ih =>
        intro c box hbox hcounted
        rw [boundingBox_cons]
        apply ih
        · exact max_lt hbox (hcounted 0 crtc rfl)
        · intro k iter hk
          have hlt := hcounted (k + 1) iter hk
          rwa [Nat.add_right_comm]
  apply hbox s.crtcs 0 ⟨0, 0, 0⟩ (by decide)
  intro k crtc hk
  rw [Nat.zero_add]
  exact h k (List.getElem?_eq_some_iff.mp hk).1 crtc hk

theorem row_size {t : Noted} {i : Nat} {ppix : Ppix} {addFbOk : Bool} {b : ResizeAnswer}
    (hunmoved : Unmoved t (.setScanoutPixmap i (some ppix) addFbOk b)) :
    rowWidth t.screen i ppix < 2 ^ 16 ∧ rowHeight t.screen i ppix < 2 ^ 16 :=
  ⟨hunmoved.2.1, rowHeight_lt hunmoved.2.2⟩

/-- A CRTC where the call would put it, in numbers. -/
theorem other_in_row {t : Noted} {i c : Nat} {ppix : Ppix} {b : ResizeAnswer} {addFbOk : Bool}
    {a : Area} (hplaced : Placed t)
    (hserved : Served t.screen (.setScanoutPixmap i (some ppix) addFbOk b))
    (hunmoved : Unmoved t (.setScanoutPixmap i (some ppix) addFbOk b)) (hc : c ≠ i)
    (ha : areaAt t.screen c = some a) :
    a.x = rowLeft t.screen i ppix c ∧ a.height ≤ rowHeight t.screen i ppix ∧
      (countedWidths i ppix 0 t.screen.crtcs)[c]? = some a.width := by
  have hx := hplaced c a ha
  obtain ⟨crtc, hcrtc, harea⟩ := Option.bind_eq_some_iff.mp ha
  obtain ⟨p, hp, hpa⟩ := Option.map_eq_some_iff.mp harea
  have hlength : c < t.screen.crtcs.length := (List.getElem?_eq_some_iff.mp hcrtc).1
  obtain ⟨henabled, hleft⟩ := hunmoved.1 c hlength hc crtc hcrtc p hp
  obtain ⟨hwidth, hheight⟩ := hserved.2 c hlength hc crtc hcrtc p hp henabled
  subst hpa
  refine ⟨hx.trans hleft.symm, ?_, ?_⟩
  · have hle := (boundingBox_maxHeight i ppix t.screen.crtcs 0 ⟨0, 0, 0⟩).2 c crtc hcrtc
    rw [Nat.zero_add, countedHeight, if_neg hc, if_pos henabled, hheight] at hle
    exact hle
  · rw [countedWidths_get i ppix hcrtc, countedWidth, if_neg hc, if_pos henabled, hwidth]

/-- **One call** that finds the CRTCs as wide as the others' own calls did leaves all
rectangles disjoint and inside the screen. -/
theorem setTargetGpu_fits (ids : FbIds) {t : Noted} {i : Nat} {crtc : Crtc} {ppix : Ppix}
    {b : ResizeAnswer} {addFbOk : Bool} (hi : t.screen.crtcs[i]? = some crtc)
    (hplaced : Placed t) (hserved : Served t.screen (.setScanoutPixmap i (some ppix) addFbOk b))
    (hunmoved : Unmoved t (.setScanoutPixmap i (some ppix) addFbOk b)) :
    AreasFit (drmmodeSetTargetScanoutPixmapGpu ids t.screen i (some ppix) b).1 := by
  obtain ⟨_, hareas, hwidth, hheight, _⟩ :=
    setTargetGpu_spec ids hi ppix hserved.1 (row_size hunmoved)
  have hown : (countedWidths i ppix 0 t.screen.crtcs)[i]? = some ppix.width := by
    rw [countedWidths_get i ppix hi, countedWidth, if_pos rfl]
  have hrow : ∀ c a,
      areaAt (drmmodeSetTargetScanoutPixmapGpu ids t.screen i (some ppix) b).1 c = some a →
      a.x = rowLeft t.screen i ppix c ∧ a.height ≤ rowHeight t.screen i ppix ∧
        (countedWidths i ppix 0 t.screen.crtcs)[c]? = some a.width := by
    intro c a ha
    rw [hareas] at ha
    split at ha
    · next hc =>
        subst hc
        cases ha
        have hle := (boundingBox_maxHeight c ppix t.screen.crtcs 0 ⟨0, 0, 0⟩).2 c crtc hi
        rw [Nat.zero_add, countedHeight, if_pos rfl] at hle
        exact ⟨rfl, hle, hown⟩
    · next hc => exact other_in_row hplaced hserved hunmoved hc ha
  constructor
  · intro c d a a' hcd ha ha'
    obtain ⟨hx, _, hw⟩ := hrow c a ha
    obtain ⟨hx', _, hw'⟩ := hrow d a' ha'
    cases Nat.lt_or_gt_of_ne hcd with
    | inl hlt =>
        apply Area.disjoint_of_le
        rw [hx, hx']
        exact Row.left_add_le hw hlt
    | inr hgt =>
        apply Area.Disjoint.symm
        apply Area.disjoint_of_le
        rw [hx, hx']
        exact Row.left_add_le hw' hgt
  · intro c a ha
    obtain ⟨hx, hy, hw⟩ := hrow c a ha
    apply Area.inside_of_le
    · rw [hx, hwidth]
      exact Row.left_add_le_sum hw
    · rwa [hheight]

/-- What runs keep: the rectangles fit and are where the notes have them, and the screen
stays in `reverse_prime_offload_mode`. -/
structure LayoutInv (t : Noted) : Prop where
  reverse : t.screen.reversePrimeOffloadMode = true
  fit : AreasFit t.screen
  placed : Placed t

/-- Steps that change nothing of the rectangles. -/
theorem LayoutInv.of_shown {t : Noted} (h : LayoutInv t) {s : Drmmode}
    (hshown : shown s = shown t.screen) : LayoutInv ⟨s, t.widths⟩ := by
  have hfit := h.fit.of_shown hshown
  simp only [shown, Prod.mk.injEq] at hshown
  obtain ⟨hareas, _, _, _, hreverse⟩ := hshown
  exact ⟨hreverse.trans h.reverse, hfit, fun c a ha => h.placed c a (hareas ▸ ha)⟩

/-- `drmmode_set_scanout_pixmap` keeps the invariant. -/
theorem setScanoutPixmap_layout (ids : FbIds) {t : Noted} (h : LayoutInv t) (i : Nat)
    (ppix : Option Ppix) (addFbOk : Bool) (b : ResizeAnswer)
    (hserved : Served t.screen (.setScanoutPixmap i ppix addFbOk b))
    (hunmoved : Unmoved t (.setScanoutPixmap i ppix addFbOk b)) :
    LayoutInv (notedStep ids t (.setScanoutPixmap i ppix addFbOk b)) := by
  cases hi : t.screen.crtcs[i]? with
  | none =>
      have hcall : drmmodeSetScanoutPixmap ids t.screen i ppix addFbOk b = (t.screen, false) := by
        simp only [drmmodeSetScanoutPixmap, hi]
      cases ppix with
      | none => exact h.of_shown (by simp only [scanoutStep, hcall])
      | some ppix =>
          simp only [notedStep, scanoutStep, hcall]
          exact h
  | some crtc =>
      cases hflipping : crtc.enableFlipping with
      | true =>
          have hcall : drmmodeSetScanoutPixmap ids t.screen i ppix addFbOk b =
              (t.screen, false) := by
            simp only [drmmodeSetScanoutPixmap, hi, hflipping, if_true]
          cases ppix with
          | none => exact h.of_shown (by simp only [scanoutStep, hcall])
          | some ppix =>
              simp only [notedStep, scanoutStep, hcall]
              exact h
      | false =>
          have hcall : drmmodeSetScanoutPixmap ids t.screen i ppix addFbOk b =
              drmmodeSetTargetScanoutPixmapGpu ids t.screen i ppix b := by
            simp only [drmmodeSetScanoutPixmap, hi, hflipping, Bool.false_eq_true, if_false,
              drmmodeSetTargetScanoutPixmap, h.reverse, if_true]
          cases ppix with
          | none =>
              simp only [notedStep, scanoutStep, hcall, drmmodeSetTargetScanoutPixmapGpu, hi]
              obtain ⟨_, hareas, hwidth, hheight, hreverse⟩ := dropTargetGpu_spec hi
              have hkept : ∀ c a, areaAt (dropTargetGpu t.screen i crtc) c = some a →
                  areaAt t.screen c = some a := by
                intro c a ha
                rw [hareas] at ha
                split at ha
                · cases ha
                · exact ha
              exact ⟨hreverse.trans h.reverse,
                h.fit.of_le hkept (Nat.le_of_eq hwidth.symm) (Nat.le_of_eq hheight.symm),
                fun c a ha => h.placed c a (hkept c a ha)⟩
          | some ppix =>
              obtain ⟨htrue, hareas, _, _, hreverse⟩ :=
                setTargetGpu_spec ids hi ppix hserved.1 (row_size hunmoved)
              simp only [notedStep, scanoutStep, hcall, htrue, if_true]
              refine ⟨hreverse.trans h.reverse, setTargetGpu_fits ids hi h.placed hserved hunmoved,
                fun c a ha => ?_⟩
              simp only [hareas] at ha
              split at ha
              · next hc =>
                  subst hc
                  cases ha
                  show _ = Row.left (Function.update t.widths c _ c) c
                  rw [Function.update_self]
                  rfl
              · next hc =>
                  show _ = Row.left (Function.update t.widths i _ c) c
                  rw [Function.update_of_ne hc]
                  exact h.placed c a ha

/-- **Step.** -/
theorem notedStep_layout (ids : FbIds) (t : Noted) (op : ScanoutOp) (h : LayoutInv t)
    (hop : Served t.screen op ∧ Unmoved t op) : LayoutInv (notedStep ids t op) := by
  cases op with
  | crtcSetMode i testOnly importOk commitOk =>
      exact h.of_shown ((shown_closed ids).crtcSetMode t.screen i testOnly importOk commitOk)
  | setModeMajor i mode a => exact h.of_shown ((shown_closed ids).setModeMajor t.screen i mode a)
  | setDpms dpmsOn active importOk =>
      exact h.of_shown ((shown_closed ids).dpms dpmsOn active importOk _ t.screen)
  | setScanoutPixmap i ppix addFbOk a =>
      exact setScanoutPixmap_layout ids h i ppix addFbOk a hop.1 hop.2
  | resize width height a =>
      obtain ⟨hareas, _, hreverse, hwidth, hheight⟩ := resize_areas ids t.screen width height a
      obtain ⟨⟨hwide, hwidth'⟩, hhigh, hheight'⟩ := hop.1
      rw [toCard16_of_lt hwidth'] at hwidth
      rw [toCard16_of_lt hheight'] at hheight
      refine ⟨hreverse.trans h.reverse, h.fit.of_le (fun c a ha => hareas ▸ ha) ?_ ?_,
        fun c a ha => h.placed c a (hareas ▸ ha)⟩
      · show _ ≤ (drmmodeXf86crtcResize ids t.screen width height a).1.screenWidth
        omega
      · show _ ≤ (drmmodeXf86crtcResize ids t.screen width height a).1.screenHeight
        omega
  | rotate i call => exact h.of_shown (shown_rotateCall ids i t.screen call)
  | setEnabled i enabled => exact h.of_shown (shown_setCrtc t.screen i _ fun _ => rfl)
  | needModeset i => exact h.of_shown (shown_needModeset t.screen i true)
  | freeBos =>
      apply h.of_shown
      show shown (drmmodeFreeBos t.screen) = shown t.screen
      unfold drmmodeFreeBos
      split <;> rfl

/-- Nothing is noted at the start. -/
def Noted.start (s : Drmmode) : Noted := ⟨s, fun _ => []⟩

/-- A screen without scanout pixmaps has no rectangles. -/
theorem start_layout (numCrtc : Nat) (atomicModeset : Bool) (width height : Nat) :
    LayoutInv (.start (Drmmode.start numCrtc true atomicModeset width height)) := by
  have hnone : ∀ c a, areaAt (Drmmode.start numCrtc true atomicModeset width height) c ≠ some a := by
    intro c a
    unfold areaAt Drmmode.start
    rw [List.getElem?_replicate]
    split
    · exact fun h => by cases h
    · exact fun h => by cases h
  exact ⟨rfl, ⟨fun c d a b _ ha => absurd ha (hnone c a), fun c a ha => absurd ha (hnone c a)⟩,
    fun c a ha => absurd ha (hnone c a)⟩

/-- **Scanout rectangles.** In every run in `reverse_prime_offload_mode` in which each call
finds the CRTCs that have a scanout pixmap enabled and with as much to their left as when
their own pixmap was set, and a drawable can have the size of the row, the rectangles stay
disjoint and inside the screen. -/
theorem areasFit_of_unmoved (ids : FbIds) (numCrtc : Nat) (atomicModeset : Bool)
    (width height : Nat) (ops : List ScanoutOp)
    (hserved : Guarded (scanoutStep ids) Served
      (Drmmode.start numCrtc true atomicModeset width height) ops)
    (hunmoved : Guarded (notedStep ids) Unmoved
      (.start (Drmmode.start numCrtc true atomicModeset width height)) ops) :
    Always (scanoutStep ids) AreasFit (Drmmode.start numCrtc true atomicModeset width height)
      ops := by
  have hscreen : ∀ t op, (notedStep ids t op).screen = scanoutStep ids t.screen op :=
    fun _ _ => rfl
  have hserved' := (guarded_map hscreen
    (s := .start (Drmmode.start numCrtc true atomicModeset width height))).mpr hserved
  have hinv := (hserved'.and hunmoved).always (notedStep_layout ids)
    (start_layout numCrtc atomicModeset width height)
  exact (always_map hscreen).mp (hinv.mono fun _ h => h.fit)

/-- Two CRTCs, set and enabled from left to right; then the left one gets another pixmap of its
size. -/
theorem areasFit_of_unmoved_two :
    Always (scanoutStep .above) AreasFit (Drmmode.start 2 true false 640 480)
      [.setScanoutPixmap 0 (some ⟨7, 100, 100⟩) true .granted,
        .setModeMajor 0 ⟨100, 100, 0, 0⟩ .granted, .setEnabled 0 true,
        .setScanoutPixmap 1 (some ⟨8, 200, 100⟩) true .granted,
        .setModeMajor 1 ⟨200, 100, 100, 0⟩ .granted, .setEnabled 1 true,
        .setScanoutPixmap 0 (some ⟨9, 100, 100⟩) true .granted] :=
  areasFit_of_unmoved .above 2 false 640 480 _ (by decide) (by decide)

/-- **From right to left.** CRTC 1 gets its pixmap and is enabled while CRTC 0 is off; then
CRTC 0 gets one.  Both begin at zero. -/
theorem right_to_left_overlaps :
    let s := Drmmode.start 2 true false 640 480
    let ops : List ScanoutOp :=
      [.setScanoutPixmap 1 (some ⟨7, 100, 100⟩) true .granted,
        .setModeMajor 1 ⟨100, 100, 0, 0⟩ .granted, .setEnabled 1 true,
        .setScanoutPixmap 0 (some ⟨8, 200, 100⟩) true .granted]
    let t := run (scanoutStep .above) s ops
    Guarded (scanoutStep .above) Served s ops ∧
      areaAt t 0 = some ⟨0, 200, 100⟩ ∧ areaAt t 1 = some ⟨0, 100, 100⟩ ∧
      t.screenWidth = 300 ∧ ¬ AreasFit t := by
  intro s ops t
  have hleft : areaAt t 0 = some ⟨0, 200, 100⟩ := by decide
  have hright : areaAt t 1 = some ⟨0, 100, 100⟩ := by decide
  refine ⟨by decide, hleft, hright, by decide, fun hfit => ?_⟩
  have hdisjoint := hfit.disjoint 0 1 _ _ (by decide) hleft hright
  apply hdisjoint 0 0
  · unfold Area.Has
    decide
  · unfold Area.Has
    decide

/-- **Three wide ones.** Set and enabled from left to right, they are 90000 wide together, and
the screen pixmap says 24464. -/
theorem wide_row_outside :
    let s := Drmmode.start 3 true false 640 480
    let ops : List ScanoutOp :=
      [.setScanoutPixmap 0 (some ⟨7, 30000, 100⟩) true .granted,
        .setModeMajor 0 ⟨30000, 100, 0, 0⟩ .granted, .setEnabled 0 true,
        .setScanoutPixmap 1 (some ⟨8, 30000, 100⟩) true .granted,
        .setModeMajor 1 ⟨30000, 100, 0, 0⟩ .granted, .setEnabled 1 true,
        .setScanoutPixmap 2 (some ⟨9, 30000, 100⟩) true .granted]
    let t := run (scanoutStep .above) s ops
    Guarded (scanoutStep .above) Served s ops ∧ areaAt t 2 = some ⟨60000, 30000, 100⟩ ∧
      t.screenWidth = 24464 ∧ ¬ AreasFit t := by
  intro s ops t
  have hlast : areaAt t 2 = some ⟨60000, 30000, 100⟩ := by decide
  have hwidth : t.screenWidth = 24464 := by decide
  refine ⟨by decide, hlast, hwidth, fun hfit => ?_⟩
  have hinside := (hfit.inside 2 _ hlast 60000 0 (by unfold Area.Has; decide)).1
  rw [hwidth] at hinside
  exact absurd hinside (by decide)

end LoongsonVideo.Driver.Scanout
