import LoongsonVideo.Verified.Ledger

/-!
# Resizing the screen

`drmmode_xf86crtc_resize` of `src/drmmode_display.c` up to the point where it can no
longer fail, with the buffer calls it makes.  The function gets a new front buffer,
its mapping or a shadow of it, gives the screen pixmap its new size and hands the new
buffer to glamor.  Its `fail` label destroys it and puts back the old one, the screen's
size and the framebuffer id.

The shadows and the screen pixmap are not put back.  Only the last step, the import by
glamor, can fail after they have changed: `resize_failed_iff`.
-/

namespace LoongsonVideo.Driver.ScreenResize

open LoongsonVideo.Verified.Ledger

/-- `drmmode_bo`.  Buffer objects are named by number. -/
structure DrmmodeBo where
  width : Int
  height : Int
  dumb : Option Nat
  gbm : Option Nat
  usedModifiers : Bool
  deriving DecidableEq, Repr

/-- Where pixels are: in the mapping of a dumb buffer or in a block of memory. -/
inductive Pixels where
  | mapped (dumb : Nat)
  | block (n : Nat)
  deriving DecidableEq, Repr

/-- What of the screen pixmap a resize may change. -/
structure ScreenPixmap where
  width : Int
  height : Int
  devKind : Int
  ptr : Option Pixels
  deriving DecidableEq, Repr

/-- What is allocated: buffer objects and blocks. -/
inductive Resource where
  | gbm (n : Nat)
  | dumb (n : Nat)
  | block (n : Nat)
  deriving DecidableEq, Repr

/-- The screen.  `gbm` says whether `drmmode->gbm` is there, `pitch` is the stride of the
buffer objects and `mappings` the dumb ones that are mapped. -/
structure ScreenState where
  glamor : Bool
  gbm : Bool
  shadowEnable : Bool
  shadowEnable2 : Bool
  kbpp : Int
  bitsPerPixel : Int
  frontBo : DrmmodeBo
  fbId : Nat
  virtualX : Int
  virtualY : Int
  displayWidth : Int
  shadowFb : Option Nat
  shadowFb2 : Option Nat
  screenPixmap : ScreenPixmap
  pitch : Nat → UInt32
  mappings : List Nat
  fbs : List Nat
  next : Nat
  log : List (Act Resource)

namespace ScreenState

def act (s : ScreenState) (a : Act Resource) : ScreenState := { s with log := a :: s.log }

/-- Acquire the thing numbered `s.next`. -/
def allocate (s : ScreenState) (x : Nat → Resource) : ScreenState :=
  ({ s with next := s.next + 1 } : ScreenState).act (.acquire (x s.next))

/-- A new buffer object with this stride. -/
def allocateBo (s : ScreenState) (x : Nat → Resource) (pitch : UInt32) : ScreenState :=
  { s.allocate x with pitch := fun n => if n = s.next then pitch else s.pitch n }

/-- `kcpp` and `cpp`. -/
def kcpp (s : ScreenState) : Int := (s.kbpp + 7).tdiv 8
def cpp (s : ScreenState) : Int := (s.bitsPerPixel + 7).tdiv 8

end ScreenState

/-! ## Buffers -/

/-- The answers of `drmmode_create_bo`.  `withModifiers` is `none` where no buffer with
modifiers is tried; an answer has the stride of the new buffer. -/
structure CreateBo where
  withModifiers : Option (Option UInt32)
  plain : Option UInt32
  dumb : Option UInt32
  deriving DecidableEq, Repr

/-- `gbm_bo_create` after a try with modifiers. -/
def CreateBo.gbm (a : CreateBo) : Option (UInt32 × Bool) :=
  match a.withModifiers with
  | some (some pitch) => some (pitch, true)
  | _ => a.plain.map fun pitch => (pitch, false)

/-- `drmmode_create_bo` for `front_bo`.  A new dumb buffer is not mapped. -/
def drmmodeCreateBo (s : ScreenState) (width height : Int) (a : CreateBo) : ScreenState × Bool :=
  let bo := { s.frontBo with width := width, height := height }
  if s.glamor then
    match a.gbm with
    | none => ({ s with frontBo := { bo with gbm := none, usedModifiers := false } }, false)
    | some (pitch, modifiers) =>
        ({ s.allocateBo .gbm pitch with
            frontBo := { bo with gbm := some s.next, usedModifiers := modifiers } }, true)
  else
    match a.dumb with
    | none => ({ s with frontBo := { bo with dumb := none } }, false)
    | some pitch =>
        ({ s.allocateBo .dumb pitch with
            frontBo := { bo with dumb := some s.next }
            mappings := s.mappings.filter (· ≠ s.next) }, true)

/-- `drmmode_bo_get_pitch`, as an `int`.  The source has no case without a buffer. -/
def drmmodeBoGetPitch (s : ScreenState) (bo : DrmmodeBo) : Int :=
  match bo.gbm, bo.dumb with
  | some n, _ => (s.pitch n).toInt32.toInt
  | none, some n => (s.pitch n).toInt32.toInt
  | none, none => 0

/-- `drmmode_bo_map`. -/
def drmmodeBoMap (s : ScreenState) (bo : DrmmodeBo) (mapOk : Bool) :
    ScreenState × Option Pixels :=
  match bo.gbm, bo.dumb with
  | some _, _ => (s, none)
  | none, none => (s, none)
  | none, some n =>
      if n ∈ s.mappings then (s, some (.mapped n))
      else if mapOk then ({ s with mappings := n :: s.mappings }, some (.mapped n))
      else (s, none)

/-- `drmmode_bo_destroy`. -/
def drmmodeBoDestroy (s : ScreenState) (bo : DrmmodeBo) (ioctlOk : Bool) :
    ScreenState × DrmmodeBo :=
  let (s, bo) :=
    match bo.gbm with
    | none => (s, bo)
    | some n => (s.act (.release (.gbm n)), { bo with gbm := none })
  match bo.dumb with
  | none => (s, bo)
  | some n =>
      let s := { s with mappings := s.mappings.filter (· ≠ n) }
      if ioctlOk then (s.act (.release (.dumb n)), { bo with dumb := none }) else (s, bo)

/-- `free` of a shadow. -/
def freeBlock (s : ScreenState) : Option Nat → ScreenState
  | none => s
  | some n => s.act (.release (.block n))

/-! ## The resize -/

/-- The answers of `drmmode_xf86crtc_resize`. -/
structure ResizeAnswer where
  create : CreateBo
  mapOk : Bool
  callocOk : Bool
  calloc2Ok : Bool
  importOk : Bool
  destroyOk : Bool
  deriving DecidableEq, Repr

/-- What is not decided here: the server's `ModifyPixmapHeader` with the arguments
`width`, `height`, `devKind` and `pPixData`, and what follows when nothing can fail any
more, `drmmode_clear_pixmap` and the mode sets of the enabled CRTCs. -/
structure Server where
  modifyPixmapHeader : ScreenPixmap → Int → Int → Int → Option Pixels → ScreenPixmap
  modeSets : ScreenState → ScreenState

/-- `if (!drmmode->gbm)`: `new_pixels`, or `none` to go to `fail`. -/
def frontPixels (s : ScreenState) (mapOk : Bool) : ScreenState × Option (Option Pixels) :=
  if !s.gbm then
    match drmmodeBoMap s s.frontBo mapOk with
    | (s, none) => (s, none)
    | (s, some pixels) => (s, some (some pixels))
  else (s, some none)

/-- `if (drmmode->shadow_enable)`: `new_pixels`, or `none` to go to `fail`. -/
def newShadow (s : ScreenState) (newPixels : Option Pixels) (callocOk : Bool) :
    ScreenState × Option (Option Pixels) :=
  if s.shadowEnable then
    if callocOk then
      ({ freeBlock (s.allocate .block) s.shadowFb with shadowFb := some s.next },
        some (some (.block s.next)))
    else (s, none)
  else (s, some newPixels)

/-- `if (drmmode->shadow_enable2)`, where the answer of `calloc` is not looked at. -/
def newShadow2 (s : ScreenState) (callocOk : Bool) : ScreenState :=
  if s.shadowEnable2 then
    if callocOk then
      { freeBlock (s.allocate .block) s.shadowFb2 with shadowFb2 := some s.next }
    else { freeBlock s s.shadowFb2 with shadowFb2 := none }
  else s

/-- `ModifyPixmapHeader` of the screen pixmap. -/
def modifyScreenPixmap (server : Server) (s : ScreenState) (width height : Int)
    (newPixels : Option Pixels) : ScreenState :=
  { s with
    screenPixmap := server.modifyPixmapHeader s.screenPixmap width height
      (s.displayWidth * s.cpp) newPixels }

/-- `drmmode_glamor_handle_new_screen_pixmap`. -/
def drmmodeGlamorHandleNewScreenPixmap (s : ScreenState) (importOk : Bool) : Bool :=
  if !s.glamor then true else importOk

/-- The label `fail`.  `old` is the screen when the function was entered. -/
def resizeFail (old s : ScreenState) (destroyOk : Bool) : ScreenState :=
  let (s, _) := drmmodeBoDestroy s s.frontBo destroyOk
  { s with
    frontBo := old.frontBo
    virtualX := old.virtualX
    virtualY := old.virtualY
    displayWidth := (drmmodeBoGetPitch old old.frontBo).tdiv old.kcpp
    fbId := old.fbId }

/-- The end of `drmmode_xf86crtc_resize`, when nothing can fail any more. -/
def resizeDone (server : Server) (old s : ScreenState) (destroyOk : Bool) : ScreenState :=
  let s := server.modeSets s
  if old.fbId ≠ 0 then
    (drmmodeBoDestroy { s with fbs := s.fbs.filter (· ≠ old.fbId) } old.frontBo destroyOk).1
  else s

/-- `drmmode_xf86crtc_resize` from the new size on. -/
def resizeFromSize (server : Server) (old s : ScreenState) (width height : Int)
    (a : ResizeAnswer) : ScreenState × Bool :=
  match frontPixels s a.mapOk with
  | (s, none) => (resizeFail old s a.destroyOk, false)
  | (s, some newPixels) =>
      match newShadow s newPixels a.callocOk with
      | (s, none) => (resizeFail old s a.destroyOk, false)
      | (s, some newPixels) =>
          let s := newShadow2 s a.calloc2Ok
          let s := modifyScreenPixmap server s width height newPixels
          if !drmmodeGlamorHandleNewScreenPixmap s a.importOk then
            (resizeFail old s a.destroyOk, false)
          else (resizeDone server old s a.destroyOk, true)

/-- `drmmode_xf86crtc_resize`. -/
def drmmodeXf86crtcResize (server : Server) (s : ScreenState) (width height : Int)
    (a : ResizeAnswer) : ScreenState × Bool :=
  if s.virtualX = width ∧ s.virtualY = height then (s, true)
  else
    match drmmodeCreateBo { s with fbId := 0 } width height a.create with
    | (t, false) => (resizeFail s t a.destroyOk, false)
    | (t, true) =>
        resizeFromSize server s
          { t with
            virtualX := width
            virtualY := height
            displayWidth := (drmmodeBoGetPitch t t.frontBo).tdiv t.kcpp }
          width height a

/-! ## The property and the condition -/

/-- The front buffer of a screen is what `drmmode_create_bo` makes. -/
def FrontOk (s : ScreenState) : Prop :=
  if s.glamor then s.frontBo.dumb = none else s.frontBo.gbm = none

/-- The screen before a resize: its width follows from the buffer's pitch, and its shadows
have been allocated. -/
structure Entered (s : ScreenState) : Prop where
  front : FrontOk s
  displayWidth : s.displayWidth = (drmmodeBoGetPitch s s.frontBo).tdiv s.kcpp
  shadowFb : ∀ n, s.shadowFb = some n → n < s.next
  shadowFb2 : ∀ n, s.shadowFb2 = some n → n < s.next

/-- A buffer object, not a block. -/
def Resource.isBuffer : Resource → Bool
  | .gbm _ => true
  | .dumb _ => true
  | .block _ => false

/-- **Nothing has changed**, and every buffer object made since has been destroyed. -/
structure Restored (s t : ScreenState) : Prop where
  frontBo : t.frontBo = s.frontBo
  fbId : t.fbId = s.fbId
  virtualX : t.virtualX = s.virtualX
  virtualY : t.virtualY = s.virtualY
  displayWidth : t.displayWidth = s.displayWidth
  shadowFb : t.shadowFb = s.shadowFb
  shadowFb2 : t.shadowFb2 = s.shadowFb2
  screenPixmap : t.screenPixmap = s.screenPixmap
  destroyed : ∀ x : Resource, x.isBuffer = true →
    releases t.log x + acquires s.log x = releases s.log x + acquires t.log x

/-- The pitch of the new front buffer over the pixel size: the new `displayWidth`. -/
def newDisplayWidth (s : ScreenState) (pitch : UInt32) : Int := pitch.toInt32.toInt.tdiv s.kcpp

/-- A dumb buffer is made and cannot be mapped or shadowed. -/
def DumbDropped (s : ScreenState) (a : ResizeAnswer) : Prop :=
  s.glamor = false ∧ a.create.dumb.isSome = true ∧
    (s.gbm = false ∧ a.mapOk = false ∨ s.shadowEnable = true ∧ a.callocOk = false)

/-- All goes well until glamor refuses the new buffer, which has this pitch. -/
def ImportRefused (s : ScreenState) (a : ResizeAnswer) (pitch : UInt32) : Prop :=
  s.glamor = true ∧ a.create.gbm.map Prod.fst = some pitch ∧ s.gbm = true ∧
    (s.shadowEnable = true → a.callocOk = true) ∧ a.importOk = false

/-- What has been done before the import has no effect. -/
def NothingBefore (server : Server) (s : ScreenState) (width height : Int) (a : ResizeAnswer)
    (pitch : UInt32) : Prop :=
  s.shadowEnable = false ∧
    (s.shadowEnable2 = true → s.shadowFb2 = none ∧ a.calloc2Ok = false) ∧
    server.modifyPixmapHeader s.screenPixmap width height (newDisplayWidth s pitch * s.cpp) none =
      s.screenPixmap

/-- **The condition.**  The kernel destroys the dumb buffer that is dropped, and glamor
does not refuse the new buffer after something has changed. -/
def KeepsScreen (server : Server) (s : ScreenState) (width height : Int) (a : ResizeAnswer) :
    Prop :=
  (s.virtualX = width ∧ s.virtualY = height) ∨
    ((DumbDropped s a → a.destroyOk = true) ∧
      ∀ pitch, ImportRefused s a pitch → NothingBefore server s width height a pitch)

/-! ## The label `fail` -/

section Fail

variable {s t u : ScreenState}

/-- The buffer objects a `drmmode_bo` has. -/
def buffersOf (bo : DrmmodeBo) (x : Resource) : Nat :=
  (if bo.gbm.map Resource.gbm = some x then 1 else 0) +
    if bo.dumb.map Resource.dumb = some x then 1 else 0

/-- Where `fail` is reached: the screen `s` has got a new front buffer. -/
structure Opened (s t : ScreenState) : Prop where
  config : t.glamor = s.glamor ∧ t.kbpp = s.kbpp
  front : FrontOk t
  released : ∀ x : Resource, x.isBuffer = true → releases t.log x = releases s.log x
  acquired : ∀ x : Resource, x.isBuffer = true →
    acquires t.log x = acquires s.log x + buffersOf t.frontBo x

/-- What `drmmode_bo_destroy` releases. -/
theorem drmmodeBoDestroy_releases (s : ScreenState) (bo : DrmmodeBo) (ioctlOk : Bool)
    (x : Resource) :
    releases (drmmodeBoDestroy s bo ioctlOk).1.log x =
      releases s.log x + (if bo.gbm.map Resource.gbm = some x then 1 else 0) +
        if ioctlOk = true ∧ bo.dumb.map Resource.dumb = some x then 1 else 0 := by
  cases hgbm : bo.gbm <;> cases hdumb : bo.dumb <;> cases ioctlOk <;>
    simp [drmmodeBoDestroy, hgbm, hdumb, ScreenState.act, releases_release]

theorem drmmodeBoDestroy_acquires (s : ScreenState) (bo : DrmmodeBo) (ioctlOk : Bool)
    (x : Resource) :
    acquires (drmmodeBoDestroy s bo ioctlOk).1.log x = acquires s.log x := by
  cases hgbm : bo.gbm <;> cases hdumb : bo.dumb <;> cases ioctlOk <;>
    simp [drmmodeBoDestroy, hgbm, hdumb, ScreenState.act]

theorem drmmodeBoDestroy_rest (s : ScreenState) (bo : DrmmodeBo) (ioctlOk : Bool) :
    (drmmodeBoDestroy s bo ioctlOk).1.shadowFb = s.shadowFb ∧
      (drmmodeBoDestroy s bo ioctlOk).1.shadowFb2 = s.shadowFb2 ∧
      (drmmodeBoDestroy s bo ioctlOk).1.screenPixmap = s.screenPixmap := by
  cases hgbm : bo.gbm <;> cases hdumb : bo.dumb <;> cases ioctlOk <;>
    simp [drmmodeBoDestroy, hgbm, hdumb, ScreenState.act]

/-- **The label `fail`** restores the screen exactly when the new buffer goes, and the
shadows and the screen pixmap have not changed. -/
theorem resizeFail_restored_iff (hs : Entered s) (ht : Opened s t) (destroyOk : Bool) :
    Restored s (resizeFail s t destroyOk) ↔
      (t.frontBo.dumb.isSome = true → destroyOk = true) ∧ t.shadowFb = s.shadowFb ∧
        t.shadowFb2 = s.shadowFb2 ∧ t.screenPixmap = s.screenPixmap := by
  obtain ⟨hfb, hfb2, hpixmap⟩ := drmmodeBoDestroy_rest t t.frontBo destroyOk
  have hlog : ∀ x, releases (resizeFail s t destroyOk).log x =
      releases t.log x + (if t.frontBo.gbm.map Resource.gbm = some x then 1 else 0) +
        if destroyOk = true ∧ t.frontBo.dumb.map Resource.dumb = some x then 1 else 0 :=
    fun x => drmmodeBoDestroy_releases t t.frontBo destroyOk x
  have hacq : ∀ x, acquires (resizeFail s t destroyOk).log x = acquires t.log x := fun x =>
    drmmodeBoDestroy_acquires t t.frontBo destroyOk x
  constructor
  · intro hrestored
    refine ⟨fun hdumb => ?_, hfb.symm.trans hrestored.shadowFb,
      hfb2.symm.trans hrestored.shadowFb2, hpixmap.symm.trans hrestored.screenPixmap⟩
    obtain ⟨n, hn⟩ := Option.isSome_iff_exists.mp hdumb
    have hbalance := hrestored.destroyed (.dumb n) rfl
    rw [hlog, hacq, ht.released _ rfl, ht.acquired _ rfl, buffersOf, hn] at hbalance
    cases destroyOk with
    | true => rfl
    | false =>
        simp only [Bool.false_eq_true, false_and, if_false, Option.map_some, if_true] at hbalance
        omega
  · rintro ⟨hgoes, hfb', hfb2', hpixmap'⟩
    refine ⟨rfl, rfl, rfl, rfl, hs.displayWidth.symm, hfb.trans hfb', hfb2.trans hfb2',
      hpixmap.trans hpixmap', fun x hx => ?_⟩
    rw [hlog, hacq, ht.released x hx, ht.acquired x hx, buffersOf]
    cases hdumb : t.frontBo.dumb with
    | none => simp only [Option.map_none, reduceCtorEq, and_false, if_false]; omega
    | some n =>
        rw [hgoes (by rw [hdumb]; rfl)]
        simp only [true_and]
        omega

end Fail

/-! ## The steps up to the import -/

section Steps

variable {server : Server} {s t u : ScreenState} {width height : Int} {a : ResizeAnswer}

/-- The configuration, the shadows and the screen pixmap are as they were. -/
structure Same (s t : ScreenState) : Prop where
  glamor : t.glamor = s.glamor
  gbm : t.gbm = s.gbm
  shadowEnable : t.shadowEnable = s.shadowEnable
  shadowEnable2 : t.shadowEnable2 = s.shadowEnable2
  cpp : t.cpp = s.cpp
  shadowFb : t.shadowFb = s.shadowFb
  shadowFb2 : t.shadowFb2 = s.shadowFb2
  screenPixmap : t.screenPixmap = s.screenPixmap
  next : s.next ≤ t.next

theorem Opened.frame (h : Opened s t) (hconfig : u.glamor = t.glamor ∧ u.kbpp = t.kbpp)
    (hfront : u.frontBo = t.frontBo)
    (hreleased : ∀ x : Resource, x.isBuffer = true → releases u.log x = releases t.log x)
    (hacquired : ∀ x : Resource, x.isBuffer = true → acquires u.log x = acquires t.log x) :
    Opened s u where
  config := ⟨hconfig.1.trans h.config.1, hconfig.2.trans h.config.2⟩
  front := by
    rw [FrontOk, hconfig.1, hfront]
    exact h.front
  released := fun x hx => (hreleased x hx).trans (h.released x hx)
  acquired := fun x hx => by rw [hacquired x hx, h.acquired x hx, hfront]

/-- A refused `drmmode_create_bo` leaves no buffer behind. -/
theorem create_refused (hs : Entered s) {c : CreateBo}
    (h : drmmodeCreateBo { s with fbId := 0 } width height c = (t, false)) :
    Opened s t ∧ Same s t ∧ t.frontBo.dumb = none ∧
      (if s.glamor then c.gbm = none else c.dumb = none) := by
  have hfront := hs.front
  rw [FrontOk] at hfront
  cases hglamor : s.glamor with
  | false =>
      cases hdumb : c.dumb with
      | some pitch => simp [drmmodeCreateBo, hglamor, hdumb] at h
      | none =>
          simp only [drmmodeCreateBo, hglamor, hdumb, Bool.false_eq_true, if_false] at h
          rw [hglamor, if_neg (by decide)] at hfront
          cases h
          refine ⟨⟨⟨hglamor.symm, rfl⟩, ?_, fun x hx => rfl, fun x hx => ?_⟩,
            ⟨hglamor.symm, rfl, rfl, rfl, rfl, rfl, rfl, rfl, Nat.le_refl _⟩, rfl, rfl⟩
          · simp [FrontOk, hfront]
          · simp [buffersOf, hfront]
  | true =>
      cases hgbm : c.gbm with
      | some made => simp [drmmodeCreateBo, hglamor, hgbm] at h
      | none =>
          simp only [drmmodeCreateBo, hglamor, hgbm, if_true] at h
          rw [hglamor, if_pos rfl] at hfront
          cases h
          refine ⟨⟨⟨hglamor.symm, rfl⟩, ?_, fun x hx => rfl, fun x hx => ?_⟩,
            ⟨hglamor.symm, rfl, rfl, rfl, rfl, rfl, rfl, rfl, Nat.le_refl _⟩, hfront, rfl⟩
          · simp [FrontOk, hfront]
          · simp [buffersOf, hfront]

/-- The new front buffer is of this kind and has this pitch. -/
def NewFront (t : ScreenState) (c : CreateBo) (pitch : UInt32) : Prop :=
  drmmodeBoGetPitch t t.frontBo = pitch.toInt32.toInt ∧
    if t.glamor then t.frontBo.gbm.isSome = true ∧ c.gbm.map Prod.fst = some pitch
    else c.dumb = some pitch ∧ ∃ n, t.frontBo.dumb = some n ∧ n ∉ t.mappings

/-- What `drmmode_create_bo` makes. -/
theorem create_made (hs : Entered s) {c : CreateBo}
    (h : drmmodeCreateBo { s with fbId := 0 } width height c = (t, true)) :
    Opened s t ∧ Same s t ∧ ∃ pitch, NewFront t c pitch := by
  have hfront := hs.front
  rw [FrontOk] at hfront
  cases hglamor : s.glamor with
  | false =>
      cases hdumb : c.dumb with
      | none => simp [drmmodeCreateBo, hglamor, hdumb] at h
      | some pitch =>
          simp only [drmmodeCreateBo, hglamor, hdumb, Bool.false_eq_true, if_false] at h
          rw [hglamor, if_neg (by decide)] at hfront
          cases h
          refine ⟨⟨⟨hglamor.symm, rfl⟩, ?_, fun x hx => releases_acquire _ _ _, fun x hx => ?_⟩,
            ⟨hglamor.symm, rfl, rfl, rfl, rfl, rfl, rfl, rfl, Nat.le_succ _⟩, pitch, ?_, ?_⟩
          · exact hfront
          · simp [buffersOf, hfront, ScreenState.allocateBo, ScreenState.allocate,
              ScreenState.act, acquires_acquire]
          · simp [drmmodeBoGetPitch, hfront, ScreenState.allocateBo, ScreenState.allocate,
              ScreenState.act]
          · exact ⟨hdumb, s.next, rfl, by simp⟩
  | true =>
      cases hgbm : c.gbm with
      | none => simp [drmmodeCreateBo, hglamor, hgbm] at h
      | some made =>
          obtain ⟨pitch, modifiers⟩ := made
          simp only [drmmodeCreateBo, hglamor, hgbm, if_true] at h
          rw [hglamor, if_pos rfl] at hfront
          cases h
          refine ⟨⟨⟨hglamor.symm, rfl⟩, ?_, fun x hx => releases_acquire _ _ _, fun x hx => ?_⟩,
            ⟨hglamor.symm, rfl, rfl, rfl, rfl, rfl, rfl, rfl, Nat.le_succ _⟩, pitch, ?_, ?_⟩
          · exact hfront
          · simp [buffersOf, hfront, ScreenState.allocateBo, ScreenState.allocate,
              ScreenState.act, acquires_acquire]
          · simp [drmmodeBoGetPitch, ScreenState.allocateBo, ScreenState.allocate,
              ScreenState.act]
          · exact ⟨rfl, by rw [hgbm]; rfl⟩

/-- Without a `gbm` device the front buffer has to be mapped. -/
def MapFails (s : ScreenState) (mapOk : Bool) : Prop :=
  s.gbm = false ∧ (s.glamor = false → mapOk = false)

theorem frontPixels_failed {c : CreateBo} {pitch : UInt32} {mapOk : Bool} (ht : Opened s t)
    (hsame : Same s t) (hnew : NewFront t c pitch) (hfails : MapFails s mapOk) :
    frontPixels t mapOk = (t, none) := by
  obtain ⟨hgbm, hmap⟩ := hfails
  have hkind := hnew.2
  have hfront := ht.front
  rw [FrontOk, hsame.glamor] at hfront
  rw [hsame.glamor] at hkind
  cases hglamor : s.glamor with
  | true =>
      rw [hglamor, if_pos rfl] at hkind
      obtain ⟨n, hn⟩ := Option.isSome_iff_exists.mp hkind.1
      simp [frontPixels, hsame.gbm, hgbm, drmmodeBoMap, hn]
  | false =>
      rw [hglamor, if_neg (by decide)] at hkind hfront
      obtain ⟨-, n, hn, hunmapped⟩ := hkind
      simp [frontPixels, hsame.gbm, hgbm, drmmodeBoMap, hfront, hn, hunmapped, hmap hglamor]

theorem frontPixels_done {c : CreateBo} {pitch : UInt32} {mapOk : Bool} (ht : Opened s t)
    (hsame : Same s t) (hnew : NewFront t c pitch) (hok : ¬ MapFails s mapOk) :
    ∃ u newPixels, frontPixels t mapOk = (u, some newPixels) ∧ Opened s u ∧ Same s u ∧
      u.frontBo = t.frontBo ∧ u.displayWidth = t.displayWidth ∧
      (s.gbm = true → newPixels = none) := by
  have hkind := hnew.2
  have hfront := ht.front
  rw [FrontOk, hsame.glamor] at hfront
  rw [hsame.glamor] at hkind
  cases hgbm : s.gbm with
  | true =>
      exact ⟨t, none, by simp [frontPixels, hsame.gbm, hgbm], ht, hsame, rfl, rfl, fun _ => rfl⟩
  | false =>
      have hglamor : s.glamor = false := by
        by_contra hno
        exact hok ⟨hgbm, fun h => absurd h hno⟩
      have hmap : mapOk = true := by
        by_contra hno
        exact hok ⟨hgbm, fun _ => Bool.eq_false_iff.mpr hno⟩
      rw [hglamor, if_neg (by decide)] at hkind hfront
      obtain ⟨-, n, hn, hunmapped⟩ := hkind
      refine ⟨{ t with mappings := n :: t.mappings }, some (.mapped n), ?_,
        ht.frame ⟨rfl, rfl⟩ rfl (fun _ _ => rfl) fun _ _ => rfl,
        ⟨hsame.glamor, hsame.gbm, hsame.shadowEnable, hsame.shadowEnable2, hsame.cpp,
          hsame.shadowFb, hsame.shadowFb2, hsame.screenPixmap, hsame.next⟩,
        rfl, rfl, fun h => by cases h⟩
      simp [frontPixels, hsame.gbm, hgbm, drmmodeBoMap, hfront, hn, hunmapped, hmap]

/-- A new block and an old one that is freed are not buffers. -/
theorem freeBlock_allocate_log (t : ScreenState) (old : Option Nat) (x : Resource)
    (hx : x.isBuffer = true) :
    releases (freeBlock (t.allocate .block) old).log x = releases t.log x ∧
      acquires (freeBlock (t.allocate .block) old).log x = acquires t.log x := by
  have hblock : ∀ n, ¬ Resource.block n = x := fun n h => by
    rw [← h] at hx
    cases hx
  cases old <;>
    simp [freeBlock, ScreenState.allocate, ScreenState.act, releases_release, acquires_acquire,
      hblock]

theorem freeBlock_log (t : ScreenState) (old : Option Nat) (x : Resource)
    (hx : x.isBuffer = true) :
    releases (freeBlock t old).log x = releases t.log x ∧
      acquires (freeBlock t old).log x = acquires t.log x := by
  have hblock : ∀ n, ¬ Resource.block n = x := fun n h => by
    rw [← h] at hx
    cases hx
  cases old <;> simp [freeBlock, ScreenState.act, releases_release, hblock]

/-- A shadow that is made replaces the old one. -/
theorem newShadow_made (hs : Entered s) (ht : Opened s t) (hsame : Same s t)
    (newPixels : Option Pixels) (henable : s.shadowEnable = true) :
    ∃ u pixels, newShadow t newPixels true = (u, some pixels) ∧ Opened s u ∧
      u.frontBo = t.frontBo ∧ u.glamor = s.glamor ∧ u.shadowFb ≠ s.shadowFb := by
  have hrest : (freeBlock (t.allocate .block) t.shadowFb).glamor = t.glamor ∧
      (freeBlock (t.allocate .block) t.shadowFb).kbpp = t.kbpp ∧
      (freeBlock (t.allocate .block) t.shadowFb).frontBo = t.frontBo := by
    cases t.shadowFb <;> exact ⟨rfl, rfl, rfl⟩
  refine ⟨{ freeBlock (t.allocate .block) t.shadowFb with shadowFb := some t.next },
    some (.block t.next), by simp [newShadow, hsame.shadowEnable, henable],
    ht.frame ⟨hrest.1, hrest.2.1⟩ hrest.2.2
      (fun x hx => (freeBlock_allocate_log t t.shadowFb x hx).1)
      fun x hx => (freeBlock_allocate_log t t.shadowFb x hx).2,
    hrest.2.2, hrest.1.trans hsame.glamor, fun heq => ?_⟩
  have hlt := hs.shadowFb t.next heq.symm
  exact Nat.lt_irrefl _ (Nat.lt_of_lt_of_le hlt hsame.next)

/-- A shadow that is wanted and can be made, or none. -/
theorem newShadow_done (hs : Entered s) (ht : Opened s t) (hsame : Same s t)
    (newPixels : Option Pixels) {callocOk : Bool}
    (hcalloc : s.shadowEnable = true → callocOk = true) :
    ∃ u pixels, newShadow t newPixels callocOk = (u, some pixels) ∧ u.glamor = s.glamor := by
  cases henable : s.shadowEnable with
  | false =>
      exact ⟨t, newPixels, by simp [newShadow, hsame.shadowEnable, henable], hsame.glamor⟩
  | true =>
      obtain ⟨u, pixels, heq, -, -, hglamor, -⟩ := newShadow_made hs ht hsame newPixels henable
      exact ⟨u, pixels, by rw [hcalloc henable, heq], hglamor⟩

theorem newShadow2_glamor (t : ScreenState) (callocOk : Bool) :
    (newShadow2 t callocOk).glamor = t.glamor := by
  rw [newShadow2]
  split
  · cases t.shadowFb2 <;> cases callocOk <;> rfl
  · rfl

/-- The double shadow. -/
theorem newShadow2_spec (callocOk : Bool) (ht : Opened s t) :
    Opened s (newShadow2 t callocOk) ∧ (newShadow2 t callocOk).frontBo = t.frontBo ∧
      (newShadow2 t callocOk).glamor = t.glamor ∧
      (newShadow2 t callocOk).shadowFb = t.shadowFb ∧
      (newShadow2 t callocOk).screenPixmap = t.screenPixmap ∧
      (newShadow2 t callocOk).displayWidth = t.displayWidth ∧
      (newShadow2 t callocOk).cpp = t.cpp ∧
      (newShadow2 t callocOk).shadowFb2 =
        if t.shadowEnable2 then (if callocOk then some t.next else none) else t.shadowFb2 := by
  cases henable : t.shadowEnable2 with
  | false =>
      have heq : newShadow2 t callocOk = t := by simp [newShadow2, henable]
      rw [heq]
      exact ⟨ht, rfl, rfl, rfl, rfl, rfl, rfl, rfl⟩
  | true =>
      have hlog : ∀ x : Resource, x.isBuffer = true →
          releases (newShadow2 t callocOk).log x = releases t.log x ∧
            acquires (newShadow2 t callocOk).log x = acquires t.log x := by
        intro x hx
        cases callocOk with
        | false =>
            simp only [newShadow2, henable, if_true, Bool.false_eq_true, if_false]
            exact freeBlock_log t t.shadowFb2 x hx
        | true =>
            simp only [newShadow2, henable, if_true]
            exact freeBlock_allocate_log t t.shadowFb2 x hx
      have hrest : (newShadow2 t callocOk).kbpp = t.kbpp ∧
          (newShadow2 t callocOk).frontBo = t.frontBo ∧
          (newShadow2 t callocOk).glamor = t.glamor ∧
          (newShadow2 t callocOk).shadowFb = t.shadowFb ∧
          (newShadow2 t callocOk).screenPixmap = t.screenPixmap ∧
          (newShadow2 t callocOk).displayWidth = t.displayWidth ∧
          (newShadow2 t callocOk).cpp = t.cpp := by
        cases hfb : t.shadowFb2 <;> cases callocOk <;>
          simp [newShadow2, henable, hfb, freeBlock, ScreenState.allocate, ScreenState.act,
            ScreenState.cpp]
      obtain ⟨hkbpp, hfront, hglamor, hshadow, hpixmap, hwidth, hcpp⟩ := hrest
      refine ⟨ht.frame ⟨hglamor, hkbpp⟩ hfront (fun x hx => (hlog x hx).1)
        fun x hx => (hlog x hx).2, hfront, hglamor, hshadow, hpixmap, hwidth, hcpp, ?_⟩
      cases callocOk <;> simp [newShadow2, henable]

/-- Only without glamor is the front buffer a dumb one. -/
theorem dumb_isSome_iff {c : CreateBo} {pitch : UInt32} (ht : Opened s t)
    (hnew : NewFront t c pitch) : t.frontBo.dumb.isSome = true ↔ s.glamor = false := by
  have hkind := hnew.2
  have hfront := ht.front
  rw [FrontOk] at hfront
  rw [← ht.config.1]
  cases hglamor : t.glamor with
  | true =>
      rw [hglamor, if_pos rfl] at hfront
      simp [hfront]
  | false =>
      rw [hglamor, if_neg (by decide)] at hkind
      obtain ⟨-, n, hn, -⟩ := hkind
      simp [hn]

/-- A failure while nothing has changed. -/
theorem resizeFail_same_iff {c : CreateBo} {pitch : UInt32} (hs : Entered s) (hu : Opened s u)
    (hsame : Same s u) (hfront : u.frontBo = t.frontBo) (ht : Opened s t)
    (hnew : NewFront t c pitch) (destroyOk : Bool) :
    Restored s (resizeFail s u destroyOk) ↔ (s.glamor = false → destroyOk = true) := by
  rw [resizeFail_restored_iff hs hu, hfront, dumb_isSome_iff ht hnew]
  exact and_iff_left ⟨hsame.shadowFb, hsame.shadowFb2, hsame.screenPixmap⟩

/-- What the steps after the new size need, to be undone by a failure. -/
def StepsKeep (server : Server) (s : ScreenState) (width height : Int) (a : ResizeAnswer)
    (pitch : UInt32) : Prop :=
  (s.glamor = false →
      s.gbm = false ∧ a.mapOk = false ∨ s.shadowEnable = true ∧ a.callocOk = false →
      a.destroyOk = true) ∧
    (s.glamor = true → s.gbm = true → (s.shadowEnable = true → a.callocOk = true) →
      a.importOk = false → NothingBefore server s width height a pitch)

/-- **The refused import.**  What is before it has changed the screen, unless it had no
effect. -/
theorem importRefused_iff {c : CreateBo} {pitch : UInt32} {newPixels : Option Pixels}
    (hs : Entered s) (ht : Opened s t) (hnew : NewFront t c pitch)
    (hu : Opened s u) (hsame' : Same s u) (hfront : u.frontBo = t.frontBo)
    (hwidth : u.displayWidth = newDisplayWidth s pitch) (hglamor : s.glamor = true)
    (hpixels : newPixels = none) {v : ScreenState} {pixels : Option Pixels}
    (hshadow : newShadow u newPixels a.callocOk = (v, some pixels)) :
    Restored s (resizeFail s
        (modifyScreenPixmap server (newShadow2 v a.calloc2Ok) width height pixels) a.destroyOk) ↔
      NothingBefore server s width height a pitch := by
  have hdumb : t.frontBo.dumb.isSome = true → a.destroyOk = true := fun h =>
    absurd ((dumb_isSome_iff ht hnew).mp h) (by rw [hglamor]; decide)
  cases henable : s.shadowEnable with
  | true =>
      have hcalloc : a.callocOk = true := by
        by_contra hno
        simp [newShadow, hsame'.shadowEnable, henable, Bool.eq_false_iff.mpr hno] at hshadow
      obtain ⟨v', pixels', heq, hv, hfront', -, hdiffers⟩ :=
        newShadow_made hs hu hsame' newPixels henable
      rw [hcalloc, heq] at hshadow
      have hsecond : v' = v := (Prod.mk.inj hshadow).1
      subst hsecond
      obtain ⟨hw, hwfront, -, hwshadow, -⟩ := newShadow2_spec a.calloc2Ok hv
      have hw' : Opened s
          (modifyScreenPixmap server (newShadow2 v' a.calloc2Ok) width height pixels) :=
        hw.frame ⟨rfl, rfl⟩ rfl (fun _ _ => rfl) fun _ _ => rfl
      rw [resizeFail_restored_iff hs hw']
      refine iff_of_false (fun h => hdiffers (hwshadow.symm.trans h.2.1)) fun h => ?_
      exact absurd (henable.symm.trans h.1) (by decide)
  | false =>
      have heq : newShadow u newPixels a.callocOk = (u, some newPixels) := by
        simp [newShadow, hsame'.shadowEnable, henable]
      rw [heq] at hshadow
      cases hshadow
      obtain ⟨hw, hwfront, -, hwshadow, hwpixmap, hwwidth, hwcpp, hwfb2⟩ :=
        newShadow2_spec a.calloc2Ok hu
      have hw' : Opened s
          (modifyScreenPixmap server (newShadow2 u a.calloc2Ok) width height newPixels) :=
        hw.frame ⟨rfl, rfl⟩ rfl (fun _ _ => rfl) fun _ _ => rfl
      rw [resizeFail_restored_iff hs hw']
      simp only [modifyScreenPixmap]
      rw [hwfront, hfront, hwshadow, hwpixmap, hwwidth, hwcpp, hwfb2, hwidth, hsame'.shadowFb,
        hsame'.shadowFb2, hsame'.screenPixmap, hsame'.cpp, hsame'.shadowEnable2, hpixels,
        NothingBefore]
      have hfb2 : ((if s.shadowEnable2 then (if a.calloc2Ok then some u.next else none)
          else s.shadowFb2) = s.shadowFb2) ↔
            (s.shadowEnable2 = true → s.shadowFb2 = none ∧ a.calloc2Ok = false) := by
        cases s.shadowEnable2 with
        | false => simp
        | true =>
            cases hcalloc : a.calloc2Ok with
            | false => simp [eq_comm]
            | true =>
                simp only [if_true]
                refine iff_of_false (fun heq' => ?_) fun h => absurd (h trivial).2 (by decide)
                have hlt := hs.shadowFb2 u.next heq'.symm
                exact Nat.lt_irrefl _ (Nat.lt_of_lt_of_le hlt hsame'.next)
      rw [hfb2]
      constructor
      · rintro ⟨-, -, hdouble, hheader⟩
        exact ⟨henable, hdouble, hheader⟩
      · rintro ⟨-, hdouble, hheader⟩
        exact ⟨hdumb, rfl, hdouble, hheader⟩

/-- The steps after the new size. -/
theorem resizeFromSize_iff (c : CreateBo) (pitch : UInt32) (hs : Entered s) (ht : Opened s t)
    (hsame : Same s t) (hnew : NewFront t c pitch)
    (hwidth : t.displayWidth = newDisplayWidth s pitch) :
    ((resizeFromSize server s t width height a).2 = false →
        Restored s (resizeFromSize server s t width height a).1) ↔
      StepsKeep server s width height a pitch := by
  by_cases hmap : MapFails s a.mapOk
  · rw [resizeFromSize, frontPixels_failed ht hsame hnew hmap]
    simp only [forall_const]
    rw [resizeFail_same_iff hs ht hsame rfl ht hnew]
    constructor
    · exact fun h => ⟨fun hglamor _ => h hglamor, fun _ hgbm =>
        absurd (hmap.1.symm.trans hgbm) (by decide)⟩
    · exact fun h hglamor => h.1 hglamor (Or.inl ⟨hmap.1, hmap.2 hglamor⟩)
  · obtain ⟨u, newPixels, heq, hu, hsame', hfront, hwidth', hpixels⟩ :=
      frontPixels_done ht hsame hnew hmap
    have hmapped : s.glamor = false → ¬ (s.gbm = false ∧ a.mapOk = false) := fun _ h =>
      hmap ⟨h.1, fun _ => h.2⟩
    rw [resizeFromSize, heq]
    simp only
    by_cases hrefused : s.shadowEnable = true ∧ a.callocOk = false
    · have hnone : newShadow u newPixels a.callocOk = (u, none) := by
        simp [newShadow, hsame'.shadowEnable, hrefused.1, hrefused.2]
      rw [hnone]
      simp only [forall_const]
      rw [resizeFail_same_iff hs hu hsame' hfront ht hnew]
      constructor
      · exact fun h => ⟨fun hglamor _ => h hglamor, fun _ _ hcalloc =>
          absurd ((hcalloc hrefused.1).symm.trans hrefused.2) (by decide)⟩
      · exact fun h hglamor => h.1 hglamor (Or.inr hrefused)
    · have hcalloc : s.shadowEnable = true → a.callocOk = true := fun henable => by
        by_contra hno
        exact hrefused ⟨henable, Bool.eq_false_iff.mpr hno⟩
      obtain ⟨v, pixels, hshadow, hvglamor⟩ := newShadow_done hs hu hsame' newPixels hcalloc
      rw [hshadow]
      simp only
      generalize hlate : modifyScreenPixmap server (newShadow2 v a.calloc2Ok) width height
        pixels = late
      have hlglamor : late.glamor = s.glamor := by
        rw [← hlate, ← hvglamor]
        exact newShadow2_glamor v a.calloc2Ok
      by_cases himport : s.glamor = true ∧ a.importOk = false
      · obtain ⟨hglamor, hno⟩ := himport
        have hrefuse : drmmodeGlamorHandleNewScreenPixmap late a.importOk = false := by
          simp [drmmodeGlamorHandleNewScreenPixmap, hlglamor, hglamor, hno]
        rw [hrefuse]
        simp only [Bool.not_false, if_true, forall_const]
        have hgbm : s.gbm = true := by
          by_contra hnot
          exact hmap ⟨Bool.eq_false_iff.mpr hnot, fun h =>
            absurd (h.symm.trans hglamor) (by decide)⟩
        rw [← hlate, importRefused_iff hs ht hnew hu hsame' hfront (hwidth'.trans hwidth)
          hglamor (hpixels hgbm) hshadow]
        constructor
        · exact fun h => ⟨fun hnot => absurd (hnot.symm.trans hglamor) (by decide),
            fun _ _ _ _ => h⟩
        · exact fun h => h.2 hglamor hgbm hcalloc hno
      · have hok : drmmodeGlamorHandleNewScreenPixmap late a.importOk = true := by
          rw [drmmodeGlamorHandleNewScreenPixmap, hlglamor]
          cases hglamor : s.glamor with
          | false => rfl
          | true =>
              by_contra hno
              exact himport ⟨hglamor, Bool.eq_false_iff.mpr hno⟩
        rw [hok]
        simp only [Bool.not_true, Bool.false_eq_true, if_false]
        refine iff_of_true (fun h => by cases h) ⟨fun hglamor hfails => ?_,
          fun hglamor _ _ hno => absurd ⟨hglamor, hno⟩ himport⟩
        cases hfails with
        | inl hmapped' => exact absurd hmapped' (hmapped hglamor)
        | inr hshadow' => exact absurd hshadow' hrefused

/-- **A failed resize** changes nothing exactly when the dropped buffer goes and glamor does
not refuse the new one after something has changed. -/
theorem resize_failed_iff (server : Server) {s : ScreenState} (hs : Entered s)
    (width height : Int) (a : ResizeAnswer) :
    ((drmmodeXf86crtcResize server s width height a).2 = false →
        Restored s (drmmodeXf86crtcResize server s width height a).1) ↔
      KeepsScreen server s width height a := by
  unfold drmmodeXf86crtcResize KeepsScreen
  by_cases hsize : s.virtualX = width ∧ s.virtualY = height
  · rw [if_pos hsize]
    exact iff_of_true (fun h => by cases h) (Or.inl hsize)
  · rw [if_neg hsize]
    split
    · next t hcreate =>
        obtain ⟨ht, hsame, hdumb, hrefused⟩ := create_refused hs hcreate
        simp only [forall_const]
        rw [resizeFail_restored_iff hs ht]
        refine iff_of_true ⟨fun h => ?_, hsame.shadowFb, hsame.shadowFb2, hsame.screenPixmap⟩
          (Or.inr ⟨fun h => ?_, fun pitch h => ?_⟩)
        · rw [hdumb] at h
          cases h
        · rw [h.1, if_neg (by decide)] at hrefused
          rw [DumbDropped, hrefused] at h
          exact absurd h.2.1 (by decide)
        · rw [h.1, if_pos rfl] at hrefused
          rw [ImportRefused, hrefused] at h
          cases h.2.1
    · next t hcreate =>
        obtain ⟨ht, hsame, pitch, hnew⟩ := create_made hs hcreate
        have ht' : Opened s { t with
            virtualX := width
            virtualY := height
            displayWidth := (drmmodeBoGetPitch t t.frontBo).tdiv t.kcpp } :=
          ht.frame ⟨rfl, rfl⟩ rfl (fun _ _ => rfl) fun _ _ => rfl
        have hkcpp : t.kcpp = s.kcpp := by rw [ScreenState.kcpp, ht.config.2, ScreenState.kcpp]
        rw [resizeFromSize_iff a.create pitch hs ht'
          ⟨hsame.glamor, hsame.gbm, hsame.shadowEnable, hsame.shadowEnable2, hsame.cpp,
            hsame.shadowFb, hsame.shadowFb2, hsame.screenPixmap, hsame.next⟩ hnew
          (by rw [hnew.1, hkcpp, newDisplayWidth])]
        have hkind := hnew.2
        rw [hsame.glamor] at hkind
        constructor
        · intro hsteps
          refine Or.inr ⟨fun hdropped => hsteps.1 hdropped.1 hdropped.2.2, fun pitch' hrefused => ?_⟩
          obtain ⟨hglamor, hpitch, hgbm, hcalloc, hno⟩ := hrefused
          rw [hglamor, if_pos rfl, hpitch] at hkind
          rw [Option.some.inj hkind.2]
          exact hsteps.2 hglamor hgbm hcalloc hno
        · intro hkeeps
          obtain ⟨hdropped, hrefused⟩ := hkeeps.resolve_left hsize
          refine ⟨fun hglamor hfails => hdropped ⟨hglamor, ?_, hfails⟩,
            fun hglamor hgbm hcalloc hno => hrefused pitch ⟨hglamor, ?_, hgbm, hcalloc, hno⟩⟩
          · rw [hglamor, if_neg (by decide)] at hkind
            rw [hkind.1]
            rfl
          · rw [hglamor, if_pos rfl] at hkind
            exact hkind.2

end Steps

/-- `ModifyPixmapHeader` as the server has it: what is not positive stays. -/
def miModifyPixmapHeader (pixmap : ScreenPixmap) (width height devKind : Int)
    (pPixData : Option Pixels) : ScreenPixmap where
  width := if width > 0 then width else pixmap.width
  height := if height > 0 then height else pixmap.height
  devKind := if devKind > 0 then devKind else pixmap.devKind
  ptr := pPixData.or pixmap.ptr

/-- Nothing follows. -/
def quietServer : Server := ⟨miModifyPixmapHeader, id⟩

/-- A glamor screen of 640 by 480 pixels. -/
def glamorScreen : ScreenState where
  glamor := true
  gbm := true
  shadowEnable := false
  shadowEnable2 := false
  kbpp := 32
  bitsPerPixel := 32
  frontBo := ⟨640, 480, none, some 0, false⟩
  fbId := 7
  virtualX := 640
  virtualY := 480
  displayWidth := 640
  shadowFb := none
  shadowFb2 := none
  screenPixmap := ⟨640, 480, 2560, none⟩
  pitch := fun _ => 2560
  mappings := []
  fbs := [7]
  next := 1
  log := [.acquire (.gbm 0)]

/-- The buffer is made, with a pitch of 3200 bytes, and glamor refuses it. -/
def refusedByGlamor : ResizeAnswer := ⟨⟨none, some 3200, none⟩, false, true, true, false, true⟩

/-- A screen of the same size with a dumb buffer that is mapped, and a shadow. -/
def shadowedScreen : ScreenState :=
  { glamorScreen with
    glamor := false
    gbm := false
    shadowEnable := true
    frontBo := ⟨640, 480, some 0, none, false⟩
    shadowFb := some 1
    screenPixmap := ⟨640, 480, 2560, some (.block 1)⟩
    mappings := [0]
    next := 2
    log := [.acquire (.block 1), .acquire (.dumb 0)] }

theorem shadowedScreen_entered : Entered shadowedScreen where
  front := rfl
  displayWidth := rfl
  shadowFb n h := Option.some.inj h ▸ Nat.one_lt_two
  shadowFb2 n h := by cases h

/-- The dumb buffer is made and mapped, and there is no memory for its shadow. -/
def unshadowed : ResizeAnswer := ⟨⟨none, none, some 3200⟩, true, false, true, true, true⟩

/-- A buffer whose shadow cannot be allocated is destroyed again, and the screen is as it was. -/
theorem resize_failed_unshadowed :
    (drmmodeXf86crtcResize quietServer shadowedScreen 800 600 unshadowed).2 = false ∧
      Restored shadowedScreen
        (drmmodeXf86crtcResize quietServer shadowedScreen 800 600 unshadowed).1 := by
  have hkeeps : KeepsScreen quietServer shadowedScreen 800 600 unshadowed :=
    Or.inr ⟨fun _ => rfl, fun pitch h => by cases h.1⟩
  exact ⟨rfl, (resize_failed_iff quietServer shadowedScreen_entered 800 600
    unshadowed).mpr hkeeps rfl⟩

/-- **A buffer that glamor refuses leaves the screen pixmap resized**: it is 800 by 600,
and the screen is 640 by 480 again. -/
theorem refused_import_keeps_header :
    let t := (drmmodeXf86crtcResize quietServer glamorScreen 800 600 refusedByGlamor).1
    (drmmodeXf86crtcResize quietServer glamorScreen 800 600 refusedByGlamor).2 = false ∧
      t.virtualX = 640 ∧ t.virtualY = 480 ∧ t.screenPixmap = ⟨800, 600, 3200, none⟩ ∧
      ¬ Restored glamorScreen t := by
  refine ⟨rfl, rfl, rfl, by decide, fun h => ?_⟩
  exact absurd h.screenPixmap (by decide)

end LoongsonVideo.Driver.ScreenResize
