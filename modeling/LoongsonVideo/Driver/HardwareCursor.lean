import LoongsonVideo.Verified.Machine
import Mathlib.Logic.Function.Basic

/-!
# The hardware cursor

The cursor hooks of `src/drmmode_display.c` and the cursor buffers they write to.  Each CRTC has
a buffer object, made by `drmmode_create_initial_bos` and mapped by `drmmode_map_cursor_bos`;
neither of the two functions that should look at a failure does.

The kernel side is what a CRTC shows: a buffer with a hot spot, or nothing.  Its answers are
`0` or a negative error.

* `shown_is_loaded`: a CRTC shows its own buffer, with the image that was loaded last.
* `agrees_iff`: when `cursor_up` says what the CRTC shows.
* `mapped_writes_iff`: when no buffer is used that is not there, or not mapped.
-/

namespace LoongsonVideo.Driver.HardwareCursor

open LoongsonVideo.Verified
open LoongsonVideo.Verified.Machine

def EINVAL : Int := 22
def ENXIO : Int := 6

/-- `CursorBits`, as far as it is read. -/
structure Cursor where
  xhot : Int
  yhot : Int
  deriving DecidableEq, Repr

/-- `struct dumb_bo` of a cursor: its handle, whether `ptr` is set, and its pixels. -/
structure CursorBo where
  handle : Nat
  mapped : Bool
  pixels : Nat → UInt32

/-- What the kernel shows on a CRTC. -/
structure Shown where
  handle : Nat
  hot : Int × Int
  deriving DecidableEq, Repr

/-- `drmmode_crtc_private_rec`, and the CRTC in the kernel. -/
structure CursorCrtc where
  cursorBo : Option CursorBo
  cursorUp : Bool
  shown : Option Shown
  pos : Int × Int

/-- The screen: `MaxWidth` and `MaxHeight` of `xf86CursorInfoRec`, the size of the buffers, and
`xf86CurrentCursor`. -/
structure CursorScreen where
  crtcs : Nat → CursorCrtc
  numCrtc : Nat
  swCursor : Bool
  maxWidth : Nat
  maxHeight : Nat
  cursorWidth : UInt32
  cursorHeight : UInt32
  current : Option Cursor
  fault : Bool

/-! ## Start -/

/-- The cursor part of `drmmode_create_initial_bos`.  `created` says for which CRTCs
`dumb_bo_create` succeeds. -/
def drmmodeCreateInitialBos (numCrtc : Nat) (swCursor : Bool) (width height : UInt32)
    (created : Nat → Bool) : CursorScreen where
  crtcs := fun i =>
    { cursorBo := if created i then some ⟨i + 1, false, fun _ => 0⟩ else none
      cursorUp := false
      shown := none
      pos := (0, 0) }
  numCrtc := numCrtc
  swCursor := swCursor
  maxWidth := width.toNat
  maxHeight := height.toNat
  cursorWidth := width
  cursorHeight := height
  current := none
  fault := false

def CursorScreen.setCrtc (s : CursorScreen) (i : Nat) (crtc : CursorCrtc) : CursorScreen :=
  { s with crtcs := Function.update s.crtcs i crtc }

/-- `drmmode_map_cursor_bos` from one CRTC on.  `mapOk` says for which the kernel maps the
buffer. -/
def mapCursorBosFrom (mapOk : Nat → Bool) : List Nat → CursorScreen → CursorScreen × Bool
  | [], s => (s, true)
  | i :: is, s =>
      match (s.crtcs i).cursorBo with
      | none => ({ s with fault := true }, false)
      | some bo =>
          if bo.mapped then mapCursorBosFrom mapOk is s
          else if mapOk i then
            mapCursorBosFrom mapOk is
              (s.setCrtc i { s.crtcs i with cursorBo := some { bo with mapped := true } })
          else (s, false)

/-- `drmmode_map_cursor_bos`. -/
def drmmodeMapCursorBos (s : CursorScreen) (mapOk : Nat → Bool) : CursorScreen × Bool :=
  mapCursorBosFrom mapOk (List.range s.numCrtc) s

/-- The screen as the server first sees it. -/
def screenStart (numCrtc : Nat) (swCursor : Bool) (width height : UInt32)
    (created mapOk : Nat → Bool) : CursorScreen :=
  let s := drmmodeCreateInitialBos numCrtc swCursor width height created
  if swCursor then s else (drmmodeMapCursorBos s mapOk).1

/-! ## Hooks -/

/-- What `drmModeSetCursor2` and `drmModeSetCursor` answer. -/
structure SetAnswer where
  setCursor2 : Int
  setCursor : Int
  deriving DecidableEq, Repr

/-- The kernel shows a buffer, or nothing when there is no handle. -/
def kernelShow (s : CursorScreen) (i handle : Nat) (hot : Int × Int) : CursorScreen :=
  s.setCrtc i { s.crtcs i with shown := if handle = 0 then none else some ⟨handle, hot⟩ }

/-- `drmModeSetCursor2` and `drmModeSetCursor`. -/
def drmModeSetCursor (s : CursorScreen) (i handle : Nat) (hot : Int × Int) (answer : Int) :
    CursorScreen :=
  if answer = 0 then kernelShow s i handle hot else s

/-- `drmmode_set_cursor_position`. -/
def drmmodeSetCursorPosition (s : CursorScreen) (i : Nat) (x y : Int) (answer : Int) :
    CursorScreen :=
  if answer = 0 then s.setCrtc i { s.crtcs i with pos := (x, y) } else s

/-- `drmmode_set_cursor`.  The buffer is looked at before the cursor is. -/
def drmmodeSetCursor (s : CursorScreen) (i : Nat) (a : SetAnswer) : CursorScreen × Bool :=
  match (s.crtcs i).cursorBo with
  | none => ({ s with fault := true }, false)
  | some bo =>
      match s.current with
      | none => (s, true)
      | some cursor =>
          let s := drmModeSetCursor s i bo.handle (cursor.xhot, cursor.yhot) a.setCursor2
          let (s, ret) :=
            if a.setCursor2 = -EINVAL then
              (drmModeSetCursor s i bo.handle (0, 0) a.setCursor, a.setCursor)
            else (s, a.setCursor2)
          let s :=
            if ret = - ENXIO then { s with maxWidth := 0, maxHeight := 0, swCursor := true } else s
          (s, decide (ret = 0))

/-- The loop of `drmmode_load_cursor_argb_check`. -/
def copyImage (pixels image : Nat → UInt32) (count : Nat) : Nat → UInt32 :=
  (List.range count).foldl (fun pixels i => Function.update pixels i (image i)) pixels

/-- `drmmode_load_cursor_argb_check`. -/
def drmmodeLoadCursorArgbCheck (s : CursorScreen) (i : Nat) (image : Nat → UInt32)
    (a : SetAnswer) : CursorScreen × Bool :=
  match (s.crtcs i).cursorBo with
  | none => ({ s with fault := true }, false)
  | some bo =>
      if !bo.mapped then ({ s with fault := true }, false)
      else
        let count := (s.cursorWidth * s.cursorHeight).toNat
        let s := s.setCrtc i
          { s.crtcs i with cursorBo := some { bo with pixels := copyImage bo.pixels image count } }
        if (s.crtcs i).cursorUp then drmmodeSetCursor s i a else (s, true)

/-- `drmmode_hide_cursor`. -/
def drmmodeHideCursor (s : CursorScreen) (i : Nat) (answer : Int) : CursorScreen :=
  drmModeSetCursor (s.setCrtc i { s.crtcs i with cursorUp := false }) i 0 (0, 0) answer

/-- `drmmode_show_cursor`. -/
def drmmodeShowCursor (s : CursorScreen) (i : Nat) (a : SetAnswer) : CursorScreen × Bool :=
  drmmodeSetCursor (s.setCrtc i { s.crtcs i with cursorUp := true }) i a

/-- A call of the server for a CRTC, or a new current cursor. -/
inductive CursorCall where
  | currentCursor (cursor : Option Cursor)
  | setCursorPosition (i : Nat) (x y : Int) (answer : Int)
  | loadCursorArgbCheck (i : Nat) (image : Nat → UInt32) (a : SetAnswer)
  | showCursor (i : Nat) (a : SetAnswer)
  | hideCursor (i : Nat) (answer : Int)

/-- The CRTC that a call is for. -/
def CursorCall.crtc : CursorCall → Option Nat
  | .currentCursor _ => none
  | .setCursorPosition i _ _ _ => some i
  | .loadCursorArgbCheck i _ _ => some i
  | .showCursor i _ => some i
  | .hideCursor i _ => some i

def perform (s : CursorScreen) : CursorCall → CursorScreen
  | .currentCursor cursor => { s with current := cursor }
  | .setCursorPosition i x y answer => drmmodeSetCursorPosition s i x y answer
  | .loadCursorArgbCheck i image a => (drmmodeLoadCursorArgbCheck s i image a).1
  | .showCursor i a => (drmmodeShowCursor s i a).1
  | .hideCursor i answer => drmmodeHideCursor s i answer

/-- One call, for a CRTC that there is. -/
def step (s : CursorScreen) (call : CursorCall) : CursorScreen :=
  if call.crtc.all fun i => decide (i < s.numCrtc) then perform s call else s

/-! ## The buffers -/

/-- What never changes about a buffer. -/
def CursorCrtc.kind (crtc : CursorCrtc) : Option (Nat × Bool) :=
  crtc.cursorBo.map fun bo => (bo.handle, bo.mapped)

/-- A call leaves the buffers where they are. -/
structure Kept (s s' : CursorScreen) : Prop where
  numCrtc : s'.numCrtc = s.numCrtc
  width : s'.cursorWidth = s.cursorWidth
  height : s'.cursorHeight = s.cursorHeight
  kind : ∀ i, (s'.crtcs i).kind = (s.crtcs i).kind

theorem Kept.refl (s : CursorScreen) : Kept s s := ⟨rfl, rfl, rfl, fun _ => rfl⟩

theorem Kept.trans {s t u : CursorScreen} (h : Kept s t) (h' : Kept t u) : Kept s u :=
  ⟨h'.numCrtc.trans h.numCrtc, h'.width.trans h.width, h'.height.trans h.height,
    fun i => (h'.kind i).trans (h.kind i)⟩

@[simp] theorem setCrtc_self (s : CursorScreen) (i : Nat) (crtc : CursorCrtc) :
    (s.setCrtc i crtc).crtcs i = crtc := Function.update_self ..

theorem setCrtc_ne (s : CursorScreen) {i j : Nat} (crtc : CursorCrtc) (hj : j ≠ i) :
    (s.setCrtc i crtc).crtcs j = s.crtcs j := Function.update_of_ne hj _ _

theorem kept_setCrtc (s : CursorScreen) (i : Nat) (crtc : CursorCrtc)
    (hkind : crtc.kind = (s.crtcs i).kind) : Kept s (s.setCrtc i crtc) := by
  refine ⟨rfl, rfl, rfl, fun j => ?_⟩
  by_cases hj : j = i
  · rw [hj, setCrtc_self, hkind]
  · rw [setCrtc_ne s crtc hj]

/-! ## What the hooks do -/

/-- One of the two calls shows the buffer. -/
def SetAnswer.ok (a : SetAnswer) : Bool :=
  decide (a.setCursor2 = 0) || (decide (a.setCursor2 = -EINVAL) && decide (a.setCursor = 0))

/-- Only what the CRTC shows may change: to a buffer of its own if the kernel agrees. -/
structure Shows (s s' : CursorScreen) (i : Nat) (bo : CursorBo) (ok : Bool) : Prop where
  kept : Kept s s'
  fault : s'.fault = s.fault
  others : ∀ j, j ≠ i → s'.crtcs j = s.crtcs j
  self : ∃ shown, s'.crtcs i = { s.crtcs i with shown := shown } ∧
    (ok = false → shown = (s.crtcs i).shown) ∧
    (ok = true → ∃ hot, shown = if bo.handle = 0 then none else some ⟨bo.handle, hot⟩)

section Rules

variable {s s' : CursorScreen} {i : Nat} {a : SetAnswer}

theorem shows_refused (s : CursorScreen) (i : Nat) (bo : CursorBo) : Shows s s i bo false :=
  ⟨Kept.refl s, rfl, fun _ _ => rfl, (s.crtcs i).shown, rfl, fun _ => rfl, fun h => nomatch h⟩

theorem shows_kernelShow (s : CursorScreen) (i : Nat) (bo : CursorBo) (hot : Int × Int) :
    Shows s (kernelShow s i bo.handle hot) i bo true :=
  ⟨kept_setCrtc s i _ rfl, rfl, fun _ hj => setCrtc_ne s _ hj, _, setCrtc_self s i _,
    fun h => absurd h.symm Bool.false_ne_true, fun _ => ⟨hot, rfl⟩⟩

/-- The end of hardware cursors changes nothing else. -/
theorem Shows.giveUp {bo : CursorBo} {ok : Bool} (h : Shows s s' i bo ok) (ret : Int) :
    Shows s (if ret = - ENXIO then { s' with maxWidth := 0, maxHeight := 0, swCursor := true }
      else s') i bo ok := by
  split
  · exact ⟨⟨h.kept.numCrtc, h.kept.width, h.kept.height, h.kept.kind⟩, h.fault, h.others, h.self⟩
  · exact h

theorem drmmodeSetCursor_shows {bo : CursorBo} {cursor : Cursor}
    (hbo : (s.crtcs i).cursorBo = some bo) (hcurrent : s.current = some cursor) :
    (drmmodeSetCursor s i a).2 = a.ok ∧ Shows s (drmmodeSetCursor s i a).1 i bo a.ok := by
  unfold drmmodeSetCursor
  simp only [hbo, hcurrent]
  by_cases hset2 : a.setCursor2 = 0
  · have hno : ¬ (0 : Int) = -EINVAL := by decide
    have hok : a.ok = true := by simp [SetAnswer.ok, hset2]
    rw [hok]
    simp only [hset2, hno, drmModeSetCursor, if_true, if_false]
    exact ⟨rfl, (shows_kernelShow s i bo _).giveUp 0⟩
  · by_cases hold : a.setCursor2 = -EINVAL
    · simp only [hold, if_true, drmModeSetCursor]
      by_cases hset : a.setCursor = 0
      · have hok : a.ok = true := by simp [SetAnswer.ok, hold, hset]
        rw [hok]
        simp only [hset, if_true]
        exact ⟨rfl, (shows_kernelShow s i bo _).giveUp 0⟩
      · have hok : a.ok = false := by simp [SetAnswer.ok, hset2, hset]
        rw [hok]
        simp only [hset, if_false]
        exact ⟨rfl, (shows_refused s i bo).giveUp _⟩
    · have hok : a.ok = false := by simp [SetAnswer.ok, hset2, hold]
      rw [hok]
      simp only [hold, if_false, drmModeSetCursor, hset2]
      exact ⟨rfl, (shows_refused s i bo).giveUp _⟩

/-- Without a cursor there is nothing to show. -/
theorem drmmodeSetCursor_none {bo : CursorBo} (hbo : (s.crtcs i).cursorBo = some bo)
    (hcurrent : s.current = none) : drmmodeSetCursor s i a = (s, true) := by
  simp only [drmmodeSetCursor, hbo, hcurrent]

theorem drmmodeSetCursor_fault (hbo : (s.crtcs i).cursorBo = none) :
    drmmodeSetCursor s i a = ({ s with fault := true }, false) := by
  simp only [drmmodeSetCursor, hbo]

/-- What `drmmode_set_cursor` does in all. -/
theorem drmmodeSetCursor_cases (s : CursorScreen) (i : Nat) (a : SetAnswer) :
    ((s.crtcs i).cursorBo = none ∧ (drmmodeSetCursor s i a).1 = { s with fault := true }) ∨
      ∃ bo, (s.crtcs i).cursorBo = some bo ∧
        Shows s (drmmodeSetCursor s i a).1 i bo (s.current.isSome && a.ok) := by
  cases hbo : (s.crtcs i).cursorBo with
  | none => exact Or.inl ⟨rfl, congrArg Prod.fst (drmmodeSetCursor_fault hbo)⟩
  | some bo =>
      refine Or.inr ⟨bo, rfl, ?_⟩
      cases hcurrent : s.current with
      | none =>
          rw [drmmodeSetCursor_none hbo hcurrent]
          exact shows_refused s i bo
      | some cursor => exact (drmmodeSetCursor_shows hbo hcurrent).2

theorem copyImage_eq (pixels image : Nat → UInt32) (count k : Nat) :
    copyImage pixels image count k = if k < count then image k else pixels k := by
  induction count with
  | zero => rfl
  | succ count ih =>
      rw [copyImage, List.range_succ, List.foldl_append, List.foldl_cons, List.foldl_nil]
      by_cases hk : k = count
      · rw [hk, Function.update_self, if_pos (Nat.lt_succ_self count)]
      · rw [Function.update_of_ne hk]
        refine ih.trans (if_congr ?_ rfl rfl)
        omega

/-- A buffer with a new image. -/
def CursorScreen.loaded (s : CursorScreen) (bo : CursorBo) (image : Nat → UInt32) : CursorBo :=
  { bo with pixels := copyImage bo.pixels image (s.cursorWidth * s.cursorHeight).toNat }

def CursorScreen.withBo (s : CursorScreen) (i : Nat) (bo : CursorBo) : CursorScreen :=
  s.setCrtc i { s.crtcs i with cursorBo := some bo }

/-- A buffer that is mapped gets the image, and is shown again if it is up. -/
theorem drmmodeLoadCursorArgbCheck_eq {bo : CursorBo} (image : Nat → UInt32)
    (hbo : (s.crtcs i).cursorBo = some bo) (hmapped : bo.mapped = true) :
    drmmodeLoadCursorArgbCheck s i image a =
      if (s.crtcs i).cursorUp then drmmodeSetCursor (s.withBo i (s.loaded bo image)) i a
      else (s.withBo i (s.loaded bo image), true) := by
  have hself : (s.withBo i (s.loaded bo image)).crtcs i =
      { s.crtcs i with cursorBo := some (s.loaded bo image) } := setCrtc_self s i _
  unfold drmmodeLoadCursorArgbCheck
  rw [hbo]
  show (if (!bo.mapped) = true then _ else
    if ((s.withBo i (s.loaded bo image)).crtcs i).cursorUp = true then _ else _) = _
  rw [if_neg (by simp [hmapped]), hself]
  rfl

/-- What `drmmode_load_cursor_argb_check` does in all. -/
theorem drmmodeLoadCursorArgbCheck_cases (s : CursorScreen) (i : Nat) (image : Nat → UInt32)
    (a : SetAnswer) :
    ((∀ bo, (s.crtcs i).cursorBo = some bo → bo.mapped = false) ∧
        (drmmodeLoadCursorArgbCheck s i image a).1 = { s with fault := true }) ∨
      ∃ bo, (s.crtcs i).cursorBo = some bo ∧ bo.mapped = true ∧
        Shows (s.withBo i (s.loaded bo image)) (drmmodeLoadCursorArgbCheck s i image a).1 i
          (s.loaded bo image) ((s.crtcs i).cursorUp && (s.current.isSome && a.ok)) := by
  cases hbo : (s.crtcs i).cursorBo with
  | none =>
      refine Or.inl ⟨fun _ h => (nomatch h), ?_⟩
      simp only [drmmodeLoadCursorArgbCheck, hbo]
  | some bo =>
      cases hmapped : bo.mapped with
      | false =>
          refine Or.inl ⟨fun bo' h => Option.some.inj h ▸ hmapped, ?_⟩
          simp only [drmmodeLoadCursorArgbCheck, hbo, hmapped, Bool.not_false, if_true]
      | true =>
          refine Or.inr ⟨bo, rfl, hmapped, ?_⟩
          rw [drmmodeLoadCursorArgbCheck_eq image hbo hmapped]
          cases (s.crtcs i).cursorUp with
          | false => exact shows_refused _ i _
          | true =>
              have hself : ((s.withBo i (s.loaded bo image)).crtcs i).cursorBo =
                  some (s.loaded bo image) := congrArg CursorCrtc.cursorBo (setCrtc_self s i _)
              rcases drmmodeSetCursor_cases (s.withBo i (s.loaded bo image)) i a with
                ⟨hnone, -⟩ | ⟨bo', hbo', hshows⟩
              · rw [hself] at hnone
                cases hnone
              · rw [hself] at hbo'
                cases hbo'
                exact hshows

theorem withBo_kept {bo : CursorBo} (bo' : CursorBo) (hbo : (s.crtcs i).cursorBo = some bo)
    (hhandle : bo'.handle = bo.handle) (hmapped : bo'.mapped = bo.mapped) :
    Kept s (s.withBo i bo') := by
  refine kept_setCrtc s i _ ?_
  rw [CursorCrtc.kind, CursorCrtc.kind, hbo, Option.map_some, Option.map_some, hhandle, hmapped]

theorem kept_fault (s : CursorScreen) (fault : Bool) : Kept s { s with fault := fault } :=
  ⟨rfl, rfl, rfl, fun _ => rfl⟩

theorem perform_kept (s : CursorScreen) (call : CursorCall) : Kept s (perform s call) := by
  cases call with
  | currentCursor cursor => exact ⟨rfl, rfl, rfl, fun _ => rfl⟩
  | setCursorPosition i x y answer =>
      simp only [perform, drmmodeSetCursorPosition]
      split
      · exact kept_setCrtc s i _ rfl
      · exact Kept.refl s
  | loadCursorArgbCheck i image a =>
      rcases drmmodeLoadCursorArgbCheck_cases s i image a with ⟨-, heq⟩ | ⟨bo, hbo, -, hshows⟩
      · rw [perform, heq]
        exact kept_fault s true
      · exact (withBo_kept (s.loaded bo image) hbo rfl rfl).trans hshows.kept
  | showCursor i a =>
      have hup := kept_setCrtc s i { s.crtcs i with cursorUp := true } rfl
      rcases drmmodeSetCursor_cases (s.setCrtc i { s.crtcs i with cursorUp := true }) i a with
        ⟨-, heq⟩ | ⟨bo, -, hshows⟩
      · rw [perform, drmmodeShowCursor, heq]
        exact hup.trans (kept_fault _ true)
      · exact hup.trans hshows.kept
  | hideCursor i answer =>
      have hdown := kept_setCrtc s i { s.crtcs i with cursorUp := false } rfl
      simp only [perform, drmmodeHideCursor, drmModeSetCursor]
      split
      · exact hdown.trans (kept_setCrtc _ i _ rfl)
      · exact hdown

theorem step_kept (s : CursorScreen) (call : CursorCall) : Kept s (step s call) := by
  unfold step
  split
  · exact perform_kept s call
  · exact Kept.refl s

end Rules

/-! ## Images -/

/-- The image that was loaded last for each CRTC. -/
def noteImage (images : Nat → Nat → UInt32) : CursorCall → Nat → Nat → UInt32
  | .loadCursorArgbCheck i image _ => Function.update images i image
  | _ => images

def lastImages (calls : List CursorCall) : Nat → Nat → UInt32 :=
  calls.foldl noteImage fun _ _ => 0

/-- **The property**: a CRTC shows nothing, or its own buffer with the given image. -/
def ShowsImages (s : CursorScreen) (images : Nat → Nat → UInt32) : Prop :=
  ∀ i < s.numCrtc, ∀ shown, (s.crtcs i).shown = some shown →
    ∃ bo, (s.crtcs i).cursorBo = some bo ∧ shown.handle = bo.handle ∧
      (bo.mapped = true →
        ∀ k < (s.cursorWidth * s.cursorHeight).toNat, bo.pixels k = images i k)

/-- Every buffer has the image, whether it is shown or not. -/
structure Loaded (s : CursorScreen) (images : Nat → Nat → UInt32) : Prop where
  handle : ∀ i bo, (s.crtcs i).cursorBo = some bo → bo.handle = i + 1
  shown : ∀ i shown, (s.crtcs i).shown = some shown →
    (s.crtcs i).cursorBo.isSome = true ∧ shown.handle = i + 1
  image : ∀ i < s.numCrtc, ∀ bo, (s.crtcs i).cursorBo = some bo → bo.mapped = true →
    ∀ k < (s.cursorWidth * s.cursorHeight).toNat, bo.pixels k = images i k

section Images

variable {s s' : CursorScreen} {images : Nat → Nat → UInt32}

theorem Loaded.showsImages (h : Loaded s images) : ShowsImages s images := by
  intro i hi shown hshown
  obtain ⟨hsome, hhandle⟩ := h.shown i shown hshown
  obtain ⟨bo, hbo⟩ := Option.isSome_iff_exists.mp hsome
  exact ⟨bo, hbo, hhandle.trans (h.handle i bo hbo).symm, h.image i hi bo hbo⟩

/-- What a CRTC shows is its own buffer. -/
theorem Loaded.shows (h : Loaded s images) {i : Nat} {bo : CursorBo} {ok : Bool}
    (hbo : (s.crtcs i).cursorBo = some bo) (hshows : Shows s s' i bo ok) : Loaded s' images := by
  obtain ⟨shown, hself, hrefused, hok⟩ := hshows.self
  have hcrtc : ∀ j, (s'.crtcs j).cursorBo = (s.crtcs j).cursorBo := by
    intro j
    by_cases hj : j = i
    · rw [hj, hself]
    · rw [hshows.others j hj]
  refine ⟨fun j bo' hbo' => h.handle j bo' (hcrtc j ▸ hbo'), fun j sh hsh => ?_, ?_⟩
  · rw [hcrtc]
    by_cases hj : j = i
    · subst hj
      rw [hself] at hsh
      cases ok with
      | false => exact h.shown j sh ((hrefused rfl).symm.trans hsh)
      | true =>
          obtain ⟨hot, hhot⟩ := hok rfl
          have hhandle := h.handle j bo hbo
          have hne : ¬ bo.handle = 0 := by omega
          rw [if_neg hne] at hhot
          cases hhot.symm.trans hsh
          exact ⟨Option.isSome_iff_exists.mpr ⟨bo, hbo⟩, hhandle⟩
    · rw [hshows.others j hj] at hsh
      exact h.shown j sh hsh
  · intro j hj bo' hbo'
    rw [hshows.kept.width, hshows.kept.height]
    exact h.image j (hshows.kept.numCrtc ▸ hj) bo' (hcrtc j ▸ hbo')

/-- A change that leaves a CRTC its buffer and what it shows. -/
theorem Loaded.setCrtc (h : Loaded s images) (i : Nat) (crtc : CursorCrtc)
    (hbo : crtc.cursorBo = (s.crtcs i).cursorBo)
    (hshown : crtc.shown = (s.crtcs i).shown ∨ crtc.shown = none) :
    Loaded (s.setCrtc i crtc) images := by
  have hcrtc : ∀ j, ((s.setCrtc i crtc).crtcs j).cursorBo = (s.crtcs j).cursorBo := by
    intro j
    by_cases hj : j = i
    · rw [hj, setCrtc_self, hbo]
    · rw [setCrtc_ne s crtc hj]
  refine ⟨fun j bo hbo => h.handle j bo (hcrtc j ▸ hbo), fun j sh hsh => ?_,
    fun j hj bo hbo => h.image j hj bo (hcrtc j ▸ hbo)⟩
  rw [hcrtc]
  by_cases hj : j = i
  · rw [hj, setCrtc_self] at hsh
    rcases hshown with hsame | hnone
    · exact hj ▸ h.shown i sh (hsame ▸ hsh)
    · rw [hnone] at hsh
      cases hsh
  · rw [setCrtc_ne s crtc hj] at hsh
    exact h.shown j sh hsh

theorem Loaded.withBo (h : Loaded s images) {i : Nat} {bo : CursorBo}
    (hbo : (s.crtcs i).cursorBo = some bo) (image : Nat → UInt32) :
    Loaded (s.withBo i (s.loaded bo image)) (Function.update images i image) := by
  have hself : (s.withBo i (s.loaded bo image)).crtcs i =
      { s.crtcs i with cursorBo := some (s.loaded bo image) } := setCrtc_self s i _
  have hother : ∀ {j}, j ≠ i → (s.withBo i (s.loaded bo image)).crtcs j = s.crtcs j :=
    fun hj => setCrtc_ne s _ hj
  refine ⟨fun j bo' hbo' => ?_, fun j sh hsh => ?_, fun j hj bo' hbo' hmapped k hk => ?_⟩
  · by_cases hj : j = i
    · subst hj
      rw [hself] at hbo'
      cases hbo'
      exact h.handle j bo hbo
    · rw [hother hj] at hbo'
      exact h.handle j bo' hbo'
  · by_cases hj : j = i
    · subst hj
      rw [hself] at hsh ⊢
      exact ⟨rfl, (h.shown j sh hsh).2⟩
    · rw [hother hj] at hsh ⊢
      exact h.shown j sh hsh
  · by_cases hji : j = i
    · subst hji
      rw [hself] at hbo'
      cases hbo'
      rw [Function.update_self]
      exact (copyImage_eq bo.pixels image _ k).trans (if_pos hk)
    · rw [hother hji] at hbo'
      rw [Function.update_of_ne hji]
      exact h.image j hj bo' hbo' hmapped k hk

theorem Loaded.fault (h : Loaded s images) : Loaded { s with fault := true } images :=
  ⟨h.handle, h.shown, h.image⟩

/-- Images of CRTCs that have no mapped buffer do not matter. -/
theorem Loaded.note (h : Loaded s images) {i : Nat} (image : Nat → UInt32)
    (hno : i < s.numCrtc → ∀ bo, (s.crtcs i).cursorBo = some bo → bo.mapped = false) :
    Loaded s (Function.update images i image) := by
  refine ⟨h.handle, h.shown, fun j hj bo hbo hmapped k hk => ?_⟩
  by_cases hji : j = i
  · subst hji
    exact absurd ((hno hj bo hbo).symm.trans hmapped) Bool.false_ne_true
  · rw [Function.update_of_ne hji]
    exact h.image j hj bo hbo hmapped k hk

theorem Loaded.perform (h : Loaded s images) (call : CursorCall) :
    Loaded (perform s call) (noteImage images call) := by
  cases call with
  | currentCursor cursor => exact ⟨h.handle, h.shown, h.image⟩
  | setCursorPosition i x y answer =>
      simp only [HardwareCursor.perform, drmmodeSetCursorPosition]
      split
      · exact h.setCrtc i _ rfl (Or.inl rfl)
      · exact h
  | loadCursorArgbCheck i image a =>
      rcases drmmodeLoadCursorArgbCheck_cases s i image a with ⟨hno, heq⟩ | ⟨bo, hbo, -, hshows⟩
      · rw [HardwareCursor.perform, heq]
        exact (h.note image fun _ => hno).fault
      · refine (h.withBo hbo image).shows ?_ hshows
        exact congrArg CursorCrtc.cursorBo (setCrtc_self s i _)
  | showCursor i a =>
      have hup := h.setCrtc i { s.crtcs i with cursorUp := true } rfl (Or.inl rfl)
      rcases drmmodeSetCursor_cases (s.setCrtc i { s.crtcs i with cursorUp := true }) i a with
        ⟨-, heq⟩ | ⟨bo, hbo, hshows⟩
      · rw [HardwareCursor.perform, drmmodeShowCursor, heq]
        exact hup.fault
      · exact hup.shows hbo hshows
  | hideCursor i answer =>
      have hdown := h.setCrtc i { s.crtcs i with cursorUp := false } rfl (Or.inl rfl)
      simp only [HardwareCursor.perform, drmmodeHideCursor, drmModeSetCursor]
      split
      · exact hdown.setCrtc i _ rfl (Or.inr rfl)
      · exact hdown

theorem Loaded.step (h : Loaded s images) (call : CursorCall) :
    Loaded (step s call) (noteImage images call) := by
  unfold HardwareCursor.step
  split
  · exact h.perform call
  · next hcall =>
      cases call with
      | loadCursorArgbCheck i image a =>
          refine h.note image fun hi => absurd ?_ hcall
          simpa [CursorCall.crtc] using hi
      | _ => exact h

theorem Loaded.run (h : Loaded s images) (calls : List CursorCall) :
    Loaded (Machine.run HardwareCursor.step s calls) (calls.foldl noteImage images) := by
  induction calls generalizing s images with
  | nil => exact h
  | cons call calls ih => exact ih (h.step call)

end Images

/-- Nothing is shown at the start, and no buffer has been written to. -/
theorem loaded_bos (numCrtc : Nat) (swCursor : Bool) (width height : UInt32)
    (created : Nat → Bool) :
    Loaded (drmmodeCreateInitialBos numCrtc swCursor width height created) fun _ _ => 0 := by
  have hbo : ∀ {i bo}, ((drmmodeCreateInitialBos numCrtc swCursor width height created).crtcs
      i).cursorBo = some bo → bo = ⟨i + 1, false, fun _ => 0⟩ := by
    intro i bo h
    change (if created i = true then some _ else none) = some bo at h
    split at h
    · exact (Option.some.inj h).symm
    · cases h
  exact ⟨fun i bo h => congrArg CursorBo.handle (hbo h), fun _ _ h => (nomatch h),
    fun i _ bo h _ k _ => congrFun (congrArg CursorBo.pixels (hbo h)) k⟩

theorem mapCursorBosFrom_loaded {s : CursorScreen} {images : Nat → Nat → UInt32}
    (h : Loaded s images) (mapOk : Nat → Bool) (is : List Nat)
    (himages : ∀ i bo, (s.crtcs i).cursorBo = some bo → bo.pixels = images i) :
    Loaded (mapCursorBosFrom mapOk is s).1 images := by
  induction is generalizing s with
  | nil => exact h
  | cons i is ih =>
      unfold mapCursorBosFrom
      cases hbo : (s.crtcs i).cursorBo with
      | none => exact h.fault
      | some bo =>
          simp only
          split
          · exact ih h himages
          · split
            · have hset : ∀ j bo', ((s.withBo i { bo with mapped := true }).crtcs j).cursorBo =
                  some bo' → bo'.handle = j + 1 ∧ bo'.pixels = images j := by
                intro j bo' hbo'
                by_cases hj : j = i
                · subst hj
                  rw [CursorScreen.withBo, setCrtc_self] at hbo'
                  cases hbo'
                  exact ⟨h.handle j bo hbo, himages j bo hbo⟩
                · rw [CursorScreen.withBo, setCrtc_ne s _ hj] at hbo'
                  exact ⟨h.handle j bo' hbo', himages j bo' hbo'⟩
              refine ih ⟨fun j bo' hbo' => (hset j bo' hbo').1, fun j sh hsh => ?_,
                fun j _ bo' hbo' _ k _ => congrFun (hset j bo' hbo').2 k⟩
                fun j bo' hbo' => (hset j bo' hbo').2
              by_cases hj : j = i
              · subst hj
                rw [setCrtc_self] at hsh ⊢
                exact ⟨rfl, (h.shown j sh hsh).2⟩
              · rw [setCrtc_ne s _ hj] at hsh ⊢
                exact h.shown j sh hsh
            · exact h

theorem loaded_start (numCrtc : Nat) (swCursor : Bool) (width height : UInt32)
    (created mapOk : Nat → Bool) :
    Loaded (screenStart numCrtc swCursor width height created mapOk) fun _ _ => 0 := by
  have hbos := loaded_bos numCrtc swCursor width height created
  unfold screenStart
  split
  · exact hbos
  · refine mapCursorBosFrom_loaded hbos mapOk _ fun i bo h => ?_
    change (if created i = true then some _ else none) = some bo at h
    split at h
    · exact (congrArg CursorBo.pixels (Option.some.inj h)).symm
    · cases h

/-- **A CRTC shows nothing, or its own buffer with the image that was loaded for it last**, whatever
the kernel answered to the calls. -/
theorem shown_is_loaded (numCrtc : Nat) (swCursor : Bool) (width height : UInt32)
    (created mapOk : Nat → Bool) (calls : List CursorCall) :
    ShowsImages (run step (screenStart numCrtc swCursor width height created mapOk) calls)
      (lastImages calls) :=
  ((loaded_start numCrtc swCursor width height created mapOk).run calls).showsImages

/-! ## `cursor_up` -/

/-- **The property**: `cursor_up` says what the CRTC shows. -/
def Agrees (s : CursorScreen) : Prop :=
  ∀ i < s.numCrtc, (s.crtcs i).shown.isSome = (s.crtcs i).cursorUp

/-- The kernel shows a cursor that is not up, and hides one that is. -/
def Accepted (s : CursorScreen) : CursorCall → Prop
  | .showCursor i a => i < s.numCrtc →
      (s.crtcs i).cursorUp = true ∨
        ((s.crtcs i).cursorBo.isSome && (s.current.isSome && a.ok)) = true
  | .hideCursor i answer => i < s.numCrtc → (s.crtcs i).cursorUp = false ∨ answer = 0
  | _ => True

section Up

variable {s s' : CursorScreen} {images : Nat → Nat → UInt32} {i : Nat}

/-- Only one CRTC has to be looked at. -/
theorem Agrees.iff_at (h : Agrees s) (hnum : s'.numCrtc = s.numCrtc) (hi : i < s.numCrtc)
    (hothers : ∀ j, j ≠ i → s'.crtcs j = s.crtcs j) :
    Agrees s' ↔ (s'.crtcs i).shown.isSome = (s'.crtcs i).cursorUp := by
  constructor
  · intro h'
    exact h' i (hnum ▸ hi)
  · intro hself j hj
    by_cases hji : j = i
    · rw [hji, hself]
    · rw [hothers j hji]
      exact h j (hnum ▸ hj)

theorem Shows.at {bo : CursorBo} {ok : Bool} (hshows : Shows s s' i bo ok)
    (hhandle : bo.handle ≠ 0) : (s'.crtcs i).cursorUp = (s.crtcs i).cursorUp ∧
      (s'.crtcs i).shown.isSome = ((s.crtcs i).shown.isSome || ok) := by
  obtain ⟨shown, hself, hrefused, hok⟩ := hshows.self
  rw [hself]
  refine ⟨rfl, ?_⟩
  cases ok with
  | false => rw [Bool.or_false, ← hrefused rfl]
  | true =>
      obtain ⟨hot, hhot⟩ := hok rfl
      rw [if_neg hhandle] at hhot
      rw [Bool.or_true]
      exact congrArg Option.isSome hhot

theorem Loaded.handle_ne (h : Loaded s images) {bo : CursorBo}
    (hbo : (s.crtcs i).cursorBo = some bo) : bo.handle ≠ 0 := by
  rw [h.handle i bo hbo]
  exact Nat.succ_ne_zero i

theorem show_agrees_iff (h : Loaded s images) (hagrees : Agrees s) (hi : i < s.numCrtc)
    (a : SetAnswer) : Agrees (drmmodeShowCursor s i a).1 ↔
      ((s.crtcs i).cursorUp = true ∨
        ((s.crtcs i).cursorBo.isSome && (s.current.isSome && a.ok)) = true) := by
  have hself := setCrtc_self s i { s.crtcs i with cursorUp := true }
  have hothers : ∀ {t : CursorScreen},
      (∀ j, j ≠ i → t.crtcs j = (s.setCrtc i { s.crtcs i with cursorUp := true }).crtcs j) →
        ∀ j, j ≠ i → t.crtcs j = s.crtcs j := fun ht j hj => (ht j hj).trans (setCrtc_ne s _ hj)
  have hup := hagrees i hi
  unfold drmmodeShowCursor
  rcases drmmodeSetCursor_cases (s.setCrtc i { s.crtcs i with cursorUp := true }) i a with
    ⟨hnone, heq⟩ | ⟨bo, hbo, hshows⟩
  · rw [hself] at hnone
    rw [heq]
    refine (hagrees.iff_at ?_ hi (hothers fun _ _ => rfl)).trans ?_
    · rfl
    show ((s.setCrtc i { s.crtcs i with cursorUp := true }).crtcs i).shown.isSome =
      ((s.setCrtc i { s.crtcs i with cursorUp := true }).crtcs i).cursorUp ↔ _
    rw [hself, hup, show (s.crtcs i).cursorBo = none from hnone]
    simp
  · have hhandle : bo.handle ≠ 0 := by
      rw [hself] at hbo
      exact h.handle_ne hbo
    obtain ⟨hcursorUp, hshown⟩ := hshows.at hhandle
    rw [hself] at hbo hcursorUp hshown
    rw [hagrees.iff_at hshows.kept.numCrtc hi (hothers hshows.others), hcursorUp, hshown, hup,
      show (s.crtcs i).cursorBo = some bo from hbo]
    simp only [Option.isSome_some, Bool.true_and]
    exact Bool.or_eq_true_iff

theorem load_agrees (h : Loaded s images) (hagrees : Agrees s) (hi : i < s.numCrtc)
    (image : Nat → UInt32) (a : SetAnswer) : Agrees (drmmodeLoadCursorArgbCheck s i image a).1 := by
  rcases drmmodeLoadCursorArgbCheck_cases s i image a with ⟨-, heq⟩ | ⟨bo, hbo, -, hshows⟩
  · rw [heq]
    exact hagrees
  · have hself : (s.withBo i (s.loaded bo image)).crtcs i =
        { s.crtcs i with cursorBo := some (s.loaded bo image) } := setCrtc_self s i _
    have hhandle : bo.handle ≠ 0 := h.handle_ne hbo
    obtain ⟨hcursorUp, hshown⟩ := hshows.at hhandle
    rw [hself] at hcursorUp hshown
    rw [hagrees.iff_at hshows.kept.numCrtc hi fun j hj =>
      (hshows.others j hj).trans (setCrtc_ne s _ hj), hcursorUp, hshown]
    show ((s.crtcs i).shown.isSome || _) = (s.crtcs i).cursorUp
    rw [hagrees i hi]
    cases (s.crtcs i).cursorUp with
    | false => rfl
    | true => rfl

theorem hide_agrees_iff (hagrees : Agrees s) (hi : i < s.numCrtc) (answer : Int) :
    Agrees (drmmodeHideCursor s i answer) ↔ ((s.crtcs i).cursorUp = false ∨ answer = 0) := by
  have hself := setCrtc_self s i { s.crtcs i with cursorUp := false }
  unfold drmmodeHideCursor drmModeSetCursor
  by_cases hanswer : answer = 0
  · rw [if_pos hanswer, kernelShow]
    refine iff_of_true ((hagrees.iff_at ?_ hi fun j hj =>
      (setCrtc_ne _ _ hj).trans (setCrtc_ne s _ hj)).mpr ?_) (Or.inr hanswer)
    · rfl
    · rw [setCrtc_self, hself]
      rfl
  · rw [if_neg hanswer]
    refine (hagrees.iff_at ?_ hi fun j hj => setCrtc_ne s _ hj).trans ?_
    · rfl
    · rw [hself]
      show (s.crtcs i).shown.isSome = false ↔ _
      rw [hagrees i hi, or_iff_left hanswer]

theorem step_agrees_iff (h : Loaded s images) (hagrees : Agrees s) (call : CursorCall) :
    Agrees (step s call) ↔ Accepted s call := by
  unfold step
  cases call with
  | currentCursor cursor => exact iff_of_true hagrees trivial
  | setCursorPosition i x y answer =>
      refine iff_of_true ?_ trivial
      by_cases hi : i < s.numCrtc
      · simp only [CursorCall.crtc, Option.all_some, hi, decide_true, if_true, perform,
          drmmodeSetCursorPosition]
        split
        · refine (hagrees.iff_at ?_ hi fun j hj => setCrtc_ne s _ hj).mpr ?_
          · rfl
          · rw [setCrtc_self]
            exact hagrees i hi
        · exact hagrees
      · simpa [CursorCall.crtc, hi] using hagrees
  | loadCursorArgbCheck i image a =>
      refine iff_of_true ?_ trivial
      by_cases hi : i < s.numCrtc
      · simpa [CursorCall.crtc, hi, perform] using load_agrees h hagrees hi image a
      · simpa [CursorCall.crtc, hi] using hagrees
  | showCursor i a =>
      by_cases hi : i < s.numCrtc
      · simpa [CursorCall.crtc, hi, Accepted, perform] using show_agrees_iff h hagrees hi a
      · simpa [CursorCall.crtc, hi, Accepted] using hagrees
  | hideCursor i answer =>
      by_cases hi : i < s.numCrtc
      · simpa [CursorCall.crtc, hi, Accepted, perform] using hide_agrees_iff hagrees hi answer
      · simpa [CursorCall.crtc, hi, Accepted] using hagrees

end Up

theorem agrees_start (numCrtc : Nat) (swCursor : Bool) (width height : UInt32)
    (created mapOk : Nat → Bool) :
    Agrees (screenStart numCrtc swCursor width height created mapOk) := by
  have hmapped : ∀ (is : List Nat) (s : CursorScreen), (∀ i, (s.crtcs i).shown = none ∧
      (s.crtcs i).cursorUp = false) → ∀ i,
        ((mapCursorBosFrom mapOk is s).1.crtcs i).shown = none ∧
          ((mapCursorBosFrom mapOk is s).1.crtcs i).cursorUp = false := by
    intro is
    induction is with
    | nil => exact fun _ h => h
    | cons i is ih =>
        intro s h
        unfold mapCursorBosFrom
        split
        · exact h
        · split
          · exact ih s h
          · split
            · refine ih _ fun j => ?_
              by_cases hj : j = i
              · rw [hj, setCrtc_self]
                exact h i
              · rw [setCrtc_ne s _ hj]
                exact h j
            · exact h
  intro i _
  unfold screenStart
  split
  · rfl
  · obtain ⟨hshown, hup⟩ := hmapped (List.range numCrtc)
      (drmmodeCreateInitialBos numCrtc swCursor width height created) (fun _ => ⟨rfl, rfl⟩) i
    exact (congrArg Option.isSome hshown).trans hup.symm

/-- **`cursor_up` says what each CRTC shows exactly as long as the kernel shows every cursor that is
not up and hides every one that is.** -/
theorem agrees_iff (numCrtc : Nat) (swCursor : Bool) (width height : UInt32)
    (created mapOk : Nat → Bool) (calls : List CursorCall) :
    Always step Agrees (screenStart numCrtc swCursor width height created mapOk) calls ↔
      Guarded step Accepted (screenStart numCrtc swCursor width height created mapOk) calls :=
  always_iff_guarded (I := fun s => ∃ images, Loaded s images)
    (fun _ call ⟨images, h⟩ => ⟨noteImage images call, h.step call⟩)
    (fun _ call ⟨_, h⟩ hagrees => step_agrees_iff h hagrees call)
    ⟨_, loaded_start numCrtc swCursor width height created mapOk⟩
    (agrees_start numCrtc swCursor width height created mapOk) calls

/-! ## Buffers that are not there -/

/-- The buffers of all CRTCs below this one were made and mapped. -/
def Reached (created mapOk : Nat → Bool) (i : Nat) : Prop :=
  ∀ j < i, created j = true ∧ mapOk j = true

/-- The buffer that a call needs is there. -/
def Ready (s : CursorScreen) : CursorCall → Prop
  | .loadCursorArgbCheck i _ _ => i < s.numCrtc → ∃ handle, (s.crtcs i).kind = some (handle, true)
  | .showCursor i _ => i < s.numCrtc → (s.crtcs i).kind.isSome = true
  | _ => True

theorem Kept.ready_iff {s s' : CursorScreen} (h : Kept s s') (call : CursorCall) :
    Ready s' call ↔ Ready s call := by
  cases call with
  | loadCursorArgbCheck i image a => rw [Ready, Ready, h.numCrtc, h.kind]
  | showCursor i a => rw [Ready, Ready, h.numCrtc, h.kind]
  | _ => exact Iff.rfl

theorem step_fault_iff (s : CursorScreen) (call : CursorCall) :
    (step s call).fault = false ↔ s.fault = false ∧ Ready s call := by
  have hlost : ∀ {t : CursorScreen} {p : Prop}, t.fault = true → ¬ p →
      (t.fault = false ↔ s.fault = false ∧ p) := fun ht hp =>
    iff_of_false (fun h => Bool.false_ne_true (h.symm.trans ht)) fun h => hp h.2
  have hsame : ∀ {t : CursorScreen} {p : Prop}, t.fault = s.fault → p →
      (t.fault = false ↔ s.fault = false ∧ p) := fun ht hp => by rw [ht, and_iff_left hp]
  unfold step
  split
  · next hcall =>
      cases call with
      | currentCursor cursor => exact hsame rfl trivial
      | setCursorPosition i x y answer =>
          refine hsame ?_ trivial
          simp only [perform, drmmodeSetCursorPosition]
          split
          · rfl
          · rfl
      | loadCursorArgbCheck i image a =>
          have hi : i < s.numCrtc := by simpa [CursorCall.crtc] using hcall
          rcases drmmodeLoadCursorArgbCheck_cases s i image a with
            ⟨hno, heq⟩ | ⟨bo, hbo, hmapped, hshows⟩
          · rw [perform, heq]
            refine hlost rfl fun hready => ?_
            obtain ⟨handle, hkind⟩ := hready hi
            obtain ⟨bo, hbo, hpair⟩ := Option.map_eq_some_iff.mp hkind
            exact Bool.false_ne_true ((hno bo hbo).symm.trans (congrArg Prod.snd hpair))
          · refine hsame hshows.fault fun _ => ⟨bo.handle, ?_⟩
            rw [CursorCrtc.kind, hbo, Option.map_some, hmapped]
      | showCursor i a =>
          have hi : i < s.numCrtc := by simpa [CursorCall.crtc] using hcall
          have hself := setCrtc_self s i { s.crtcs i with cursorUp := true }
          rcases drmmodeSetCursor_cases (s.setCrtc i { s.crtcs i with cursorUp := true }) i a with
            ⟨hnone, heq⟩ | ⟨bo, hbo, hshows⟩
          · rw [perform, drmmodeShowCursor, heq]
            refine hlost rfl fun hready => ?_
            rw [hself] at hnone
            have hkind : (s.crtcs i).kind = none := congrArg (Option.map _) hnone
            rw [Ready, hkind] at hready
            exact Bool.false_ne_true (hready hi)
          · refine hsame hshows.fault fun _ => ?_
            rw [hself] at hbo
            exact congrArg (fun bo => (bo.map fun bo : CursorBo => (bo.handle, bo.mapped)).isSome) hbo
      | hideCursor i answer =>
          refine hsame ?_ trivial
          simp only [perform, drmmodeHideCursor, drmModeSetCursor]
          split
          · rfl
          · rfl
  · next hcall =>
      refine hsame rfl ?_
      cases call with
      | loadCursorArgbCheck i image a =>
          exact fun hi => absurd (by simpa [CursorCall.crtc] using hi) hcall
      | showCursor i a => exact fun hi => absurd (by simpa [CursorCall.crtc] using hi) hcall
      | _ => trivial

theorem run_fault_iff (s : CursorScreen) (calls : List CursorCall) :
    (run step s calls).fault = false ↔ s.fault = false ∧ ∀ call ∈ calls, Ready s call := by
  induction calls generalizing s with
  | nil => simp
  | cons call calls ih =>
      rw [run_cons, ih, step_fault_iff, List.forall_mem_cons, and_assoc]
      refine and_congr_right fun _ => and_congr_right fun _ => ?_
      exact forall₂_congr fun other _ => (step_kept s call).ready_iff other

/-- The loop of `drmmode_map_cursor_bos` from one CRTC on: the buffers before the first failure are
mapped. -/
structure MapsFrom (created mapOk : Nat → Bool) (s t : CursorScreen) (a m : Nat) : Prop where
  num : t.numCrtc = s.numCrtc
  before : ∀ i < a, (t.crtcs i).kind = (s.crtcs i).kind
  isSome : ∀ i, a ≤ i → (t.crtcs i).kind.isSome = created i
  mapped : ∀ i, a ≤ i → i < a + m →
    ((∃ handle, (t.crtcs i).kind = some (handle, true)) ↔ Reached created mapOk (i + 1))
  fault : t.fault = false ↔ s.fault = false ∧
    ∀ i, a ≤ i → i < a + m → Reached created mapOk i → created i = true

section Mapping

variable {created mapOk : Nat → Bool}

theorem reached_succ {i : Nat} :
    Reached created mapOk (i + 1) ↔
      Reached created mapOk i ∧ created i = true ∧ mapOk i = true := by
  constructor
  · exact fun h => ⟨fun j hj => h j (Nat.lt_succ_of_lt hj), h i (Nat.lt_succ_self i)⟩
  · rintro ⟨hlt, hi⟩ j hj
    rcases Nat.lt_succ_iff_lt_or_eq.mp hj with hj | rfl
    · exact hlt j hj
    · exact hi

theorem Reached.mono {i j : Nat} (h : Reached created mapOk j) (hij : i ≤ j) :
    Reached created mapOk i := fun k hk => h k (hk.trans_le hij)

/-- The loop stops at a CRTC whose buffer is not mapped. -/
theorem mapsFrom_stop {s : CursorScreen} {fault : Bool} {a m : Nat}
    (hkind : ∀ i, a ≤ i → (s.crtcs i).kind = if created i then some (i + 1, false) else none)
    (hstop : ¬ (created a = true ∧ mapOk a = true))
    (hfault : fault = false ↔ s.fault = false ∧
      ∀ i, a ≤ i → i < a + m → Reached created mapOk i → created i = true) :
    MapsFrom created mapOk s { s with fault := fault } a m where
  num := rfl
  before := fun _ _ => rfl
  isSome := by
    intro i hi
    rw [hkind i hi]
    cases created i <;> rfl
  mapped := by
    intro i hi _
    refine iff_of_false (fun ⟨handle, hsome⟩ => ?_) fun h => hstop (h a (Nat.lt_succ_of_le hi))
    have hnot := (hkind i hi).symm.trans hsome
    cases hcreated : created i with
    | false => simp [hcreated] at hnot
    | true => simp [hcreated] at hnot
  fault := hfault

theorem kind_withBo (s : CursorScreen) (i j : Nat) (bo : CursorBo) :
    ((s.withBo i bo).crtcs j).kind =
      if j = i then some (bo.handle, bo.mapped) else (s.crtcs j).kind := by
  by_cases hj : j = i
  · rw [if_pos hj, hj, CursorScreen.withBo, setCrtc_self]
    rfl
  · rw [if_neg hj, CursorScreen.withBo, setCrtc_ne s _ hj]

/-- The loop maps the buffer of a CRTC and goes on with the next one. -/
theorem MapsFrom.first {s t : CursorScreen} {a m : Nat} {bo : CursorBo}
    (h : MapsFrom created mapOk (s.withBo a { bo with mapped := true }) t (a + 1) m)
    (hnext : Reached created mapOk (a + 1)) : MapsFrom created mapOk s t a (m + 1) := by
  have hcreated := (hnext a (Nat.lt_succ_self a)).1
  have hset := kind_withBo s a
  have hself : (t.crtcs a).kind = some (bo.handle, true) := by
    rw [h.before a (Nat.lt_succ_self a), hset, if_pos rfl]
  refine ⟨h.num, fun i hi => ?_, fun i hi => ?_, fun i hi hlt => ?_, ?_⟩
  · refine (h.before i (by omega)).trans ?_
    rw [hset, if_neg (by omega)]
  · rcases Nat.lt_or_eq_of_le hi with hlt | rfl
    · exact h.isSome i hlt
    · exact (congrArg Option.isSome hself).trans hcreated.symm
  · rcases Nat.lt_or_eq_of_le hi with hlt' | rfl
    · exact h.mapped i hlt' (by omega)
    · exact iff_of_true ⟨bo.handle, hself⟩ hnext
  · refine h.fault.trans (and_congr_right fun _ => ?_)
    constructor
    · intro hall i hi hlt hreach
      rcases Nat.lt_or_eq_of_le hi with hlt' | rfl
      · exact hall i hlt' (by omega) hreach
      · exact hcreated
    · exact fun hall i hi hlt => hall i (by omega) (by omega)

theorem not_created_of_kind {c : CursorCrtc} {a : Nat}
    (hkind : c.kind = if created a then some (a + 1, false) else none) (hbo : c.cursorBo = none) :
    created a = false := by
  rw [CursorCrtc.kind, hbo] at hkind
  cases hcreated : created a with
  | false => rfl
  | true => simp [hcreated] at hkind

theorem created_of_kind {c : CursorCrtc} {a : Nat} {bo : CursorBo}
    (hkind : c.kind = if created a then some (a + 1, false) else none)
    (hbo : c.cursorBo = some bo) : created a = true ∧ bo.mapped = false := by
  rw [CursorCrtc.kind, hbo] at hkind
  cases hcreated : created a with
  | false => simp [hcreated] at hkind
  | true =>
      have hboth : bo.handle = a + 1 ∧ bo.mapped = false := by simpa [hcreated] using hkind
      exact ⟨rfl, hboth.2⟩

/-- The loop from a CRTC on that it has come to. -/
theorem mapCursorBosFrom_maps (m a : Nat) (s : CursorScreen) (hreached : Reached created mapOk a)
    (hkind : ∀ i, a ≤ i → (s.crtcs i).kind = if created i then some (i + 1, false) else none) :
    MapsFrom created mapOk s (mapCursorBosFrom mapOk (List.range' a m) s).1 a m := by
  induction m generalizing a s with
  | zero =>
      refine ⟨rfl, fun _ _ => rfl, fun i hi => ?_, fun i hi hlt => ?_, ?_⟩
      · refine (congrArg Option.isSome (hkind i hi)).trans ?_
        cases created i <;> rfl
      · exact absurd hlt (by omega)
      · refine (and_iff_left fun i hi hlt => ?_).symm
        exact absurd hlt (by omega)
  | succ m ih =>
      rw [List.range'_succ]
      unfold mapCursorBosFrom
      have hfirst := hkind a (Nat.le_refl a)
      cases hbo : (s.crtcs a).cursorBo with
      | none =>
          have hcreated := not_created_of_kind hfirst hbo
          refine mapsFrom_stop hkind (fun h => Bool.false_ne_true (hcreated.symm.trans h.1)) ?_
          refine iff_of_false Bool.noConfusion fun h => ?_
          have hno := h.2 a (Nat.le_refl a) (by omega) hreached
          exact Bool.false_ne_true (hcreated.symm.trans hno)
      | some bo =>
          obtain ⟨hcreated, hmapped⟩ := created_of_kind hfirst hbo
          simp only [hmapped, Bool.false_eq_true, if_false]
          cases hok : mapOk a with
          | false =>
              refine mapsFrom_stop hkind (fun h => Bool.false_ne_true (hok.symm.trans h.2)) ?_
              refine (and_iff_left fun i hi _ hreach => ?_).symm
              rcases Nat.lt_or_eq_of_le hi with hlt | rfl
              · exact absurd (hok.symm.trans (hreach a hlt).2) Bool.false_ne_true
              · exact hcreated
          | true =>
              simp only [if_true]
              have hnext : Reached created mapOk (a + 1) :=
                reached_succ.mpr ⟨hreached, hcreated, hok⟩
              refine MapsFrom.first (ih (a + 1) _ hnext fun i hi => ?_) hnext
              rw [kind_withBo s a, if_neg (by omega)]
              exact hkind i (by omega)

end Mapping

/-- A call needs a buffer that was made, or made and mapped. -/
def Usable (numCrtc : Nat) (created mapOk : Nat → Bool) : CursorCall → Prop
  | .loadCursorArgbCheck i _ _ => i < numCrtc → Reached created mapOk (i + 1)
  | .showCursor i _ => i < numCrtc → created i = true
  | _ => True

/-- **No cursor buffer is used that is not there exactly as long as no CRTC lacks one that the
mapping comes to, none is shown that was not made, and no image is loaded for a CRTC after the first
one whose buffer was not mapped.** -/
theorem mapped_writes_iff (numCrtc : Nat) (width height : UInt32) (created mapOk : Nat → Bool)
    (calls : List CursorCall) :
    (run step (screenStart numCrtc false width height created mapOk) calls).fault = false ↔
      (∀ i < numCrtc, Reached created mapOk i → created i = true) ∧
        ∀ call ∈ calls, Usable numCrtc created mapOk call := by
  have hkind : ∀ i, 0 ≤ i →
      ((drmmodeCreateInitialBos numCrtc false width height created).crtcs i).kind =
        if created i then some (i + 1, false) else none := by
    intro i _
    show Option.map _ (if created i = true then some _ else none) = _
    cases created i <;> rfl
  have hreached : Reached created mapOk 0 := fun _ h => nomatch h
  have hmaps := mapCursorBosFrom_maps numCrtc 0
    (drmmodeCreateInitialBos numCrtc false width height created) hreached hkind
  have hstart : screenStart numCrtc false width height created mapOk =
      (mapCursorBosFrom mapOk (List.range' 0 numCrtc)
        (drmmodeCreateInitialBos numCrtc false width height created)).1 := by
    rw [← List.range_eq_range']
    rfl
  rw [run_fault_iff, hstart, hmaps.fault]
  refine and_congr ?_ (forall₂_congr fun call _ => ?_)
  · refine (and_iff_right rfl).trans ⟨fun h i hi => h i (Nat.zero_le i) (by omega), fun h i _ hi => ?_⟩
    exact h i (by omega)
  · cases call with
    | loadCursorArgbCheck i image a =>
        rw [Ready, hmaps.num]
        refine forall_congr' fun hi => hmaps.mapped i (Nat.zero_le i) ?_
        exact (Nat.zero_add numCrtc).symm ▸ hi
    | showCursor i a =>
        rw [Ready, hmaps.num, hmaps.isSome i (Nat.zero_le i)]
        exact Iff.rfl
    | _ => exact Iff.rfl

end LoongsonVideo.Driver.HardwareCursor
