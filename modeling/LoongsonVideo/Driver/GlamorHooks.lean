import LoongsonVideo.Verified.Machine
import Mathlib.Data.Int.Order.Basic

/-!
# Calls into glamor

The places where the driver calls a function of the glamor module, from `PreInit` and
`ScreenInit` of `src/driver.c` on: in the requests of Present, DRI2 and PRIME, in mode sets
and when the screen is resized.  Without glamor the pointers of `ms->glamor` are null.

Handlers that a flush of events runs may make requests of their own.  As no call depends on
what such a request does, they are requests like the others here.

* `hooks_guarded_iff`: in which runs glamor is called only if it is there.
-/

namespace LoongsonVideo.Driver.GlamorHooks

open LoongsonVideo.Verified.Machine

/-! ## Configurations -/

inductive AccelMethod where
  | unset
  | glamor
  | exa
  | other
  deriving DecidableEq, Repr

/-- What `PreInit` finds: the options, whether glamor can be loaded and `egl_init` succeeds, what
the kernel can do, and whether the build has `GBM_BO_WITH_MODIFIERS`. -/
structure Setup where
  accelMethod : AccelMethod
  force2432 : Bool
  loadGlamor : Bool
  eglInit : Bool
  primeSupported : Bool
  pageFlip : Bool
  atomic : Bool
  modifiers : Bool
  deriving DecidableEq, Repr

/-- `modesettingRec` after `PreInit`. -/
structure Ms where
  glamor : Bool
  exaEnabled : Bool
  pageflip : Bool
  atomicModeset : Bool
  modifiers : Bool
  deriving DecidableEq, Repr

/-- `try_enable_glamor`.  `load_glamor` and `egl_init` come last. -/
def tryEnableGlamor (o : Setup) : Bool :=
  if o.force2432 then false
  else if !(o.accelMethod == .unset || o.accelMethod == .glamor) then false
  else if o.loadGlamor then o.eglInit else false

def tryEnableExa (o : Setup) : Bool := o.accelMethod == .exa

def preInit (o : Setup) : Ms where
  glamor := tryEnableGlamor o
  exaEnabled := if !tryEnableGlamor o && o.primeSupported then tryEnableExa o else false
  pageflip := o.pageFlip
  atomicModeset := o.atomic
  modifiers := o.modifiers

/-- The configuration after `ScreenInit`. -/
structure Conf extends Ms where
  dri2Enable : Bool
  presentEnable : Bool
  reversePrimeOffloadMode : Bool
  createWindowOneshot : Bool
  deriving DecidableEq, Repr

/-! ## State -/

/-- The functions of glamor that are called from `ScreenInit` on. -/
inductive Hook where
  | backPixmapFromFd
  | blockHandler
  | clearPixmap
  | eglCreateTexturedPixmap
  | eglCreateTexturedPixmapFromGbmBo
  | eglExchangeBuffers
  | eglGetDriverName
  | eglGetGbmDevice
  | finish
  | gbmBoFromPixmap
  | init
  | nameFromPixmap
  | setDrawableModifiersFunc
  | shareableFdFromPixmap
  | supportsPixmapImportExport
  | xvInit
  deriving DecidableEq, Repr

/-- A CRTC; `rotateGbm` when its `rotate_bo` has a gbm buffer. -/
structure Crtc where
  enabled : Bool
  dpmsOn : Bool
  rotateGbm : Bool
  deriving DecidableEq, Repr

def msCrtcOn (crtc : Crtc) : Bool := crtc.enabled && crtc.dpmsOn

/-- What the tests before a flip look at, all of which others change too. -/
structure World where
  vtSema : Bool
  dri2Flipping : Bool
  presentFlipping : Bool
  spritesVisible : Int
  crtcs : List Crtc
  frontPitch : Int
  deriving DecidableEq, Repr

/-- The screen and the calls into glamor so far, the newest first. -/
structure State where
  world : World
  rootCreated : Bool
  log : List Hook
  deriving DecidableEq, Repr

def call (hook : Hook) (s : State) : State := { s with log := hook :: s.log }

/-! ## `ScreenInit` -/

/-- The answers `ScreenInit` gets.  `before`, `between` and `vblank` stand for what can make it
return `FALSE`. -/
structure InitAnswer where
  before : Bool
  glamorInit : Bool
  between : Bool
  vblank : Bool
  dri2Registered : Bool
  driverName : Bool
  dri2Screen : Bool
  presentScreen : Bool
  isGpu : Bool
  i915 : Bool
  bgNoneRoot : Bool
  deriving DecidableEq, Repr

/-- `drmmode_init`. -/
def drmmodeInit (ms : Ms) (a : InitAnswer) (s : State) : State × Bool :=
  if ms.glamor then
    let s := call .init s
    if !a.glamorInit then (s, false)
    else (if ms.modifiers then call .setDrawableModifiersFunc s else s, true)
  else (s, true)

/-- `ms_dri2_screen_init`. -/
def msDri2ScreenInit (a : InitAnswer) (s : State) : State × Bool :=
  let s := call .supportsPixmapImportExport s
  if !a.dri2Registered then (s, false)
  else (if a.driverName then call .eglGetDriverName s else s, a.dri2Screen)

/-- The end of `ScreenInit`, with the extensions. -/
def initExtensions (ms : Ms) (a : InitAnswer) (s : State) : State × Conf :=
  if ms.glamor then
    let (s, dri2Enable) := msDri2ScreenInit a s
    (s, { toMs := ms, dri2Enable := dri2Enable, presentEnable := a.presentScreen,
          reversePrimeOffloadMode := a.isGpu && !a.i915, createWindowOneshot := a.bgNoneRoot })
  else if ms.exaEnabled then
    (s, { toMs := ms, dri2Enable := false, presentEnable := a.presentScreen,
          reversePrimeOffloadMode := a.isGpu, createWindowOneshot := false })
  else
    (s, { toMs := ms, dri2Enable := false, presentEnable := false,
          reversePrimeOffloadMode := false, createWindowOneshot := false })

/-- `ScreenInit`.  `none` for `FALSE`. -/
def screenInit (ms : Ms) (a : InitAnswer) (s : State) : State × Option Conf :=
  let s := if ms.glamor then call .eglGetGbmDevice s else s
  if !a.before then (s, none)
  else
    match drmmodeInit ms a s with
    | (s, false) => (s, none)
    | (s, true) =>
        if !a.between then (s, none)
        else
          let s := if ms.glamor then call .xvInit s else s
          if !a.vblank then (s, none)
          else
            let (s, c) := initExtensions ms a s
            (s, some c)

/-! ## Mode sets and buffers -/

/-- `drmmode_set_pixmap_bo`. -/
def drmmodeSetPixmapBo (c : Conf) (importOk : Bool) (s : State) : State × Bool :=
  if !c.glamor then (s, true) else (call .eglCreateTexturedPixmapFromGbmBo s, importOk)

/-- The answers of one `drmmode_crtc_set_mode`. -/
structure SetAnswer where
  fbIdOk : Bool
  setOk : Bool
  deriving DecidableEq, Repr

/-- `drmmode_crtc_set_mode`, up to the request.  It returns zero for `true`. -/
def drmmodeCrtcSetMode (c : Conf) (a : SetAnswer) (s : State) : State × Bool :=
  if !a.fbIdOk then (s, false)
  else (if c.glamor then call .finish s else s, a.setOk)

/-- The answers of one `drmmode_set_mode_major`.  `shadow` when `xf86CrtcRotate` has a rotation
shadow made, with the answer to its import. -/
structure ModeAnswer where
  shadow : Option Bool
  rotateOk : Bool
  first : SetAnswer
  real : SetAnswer
  deriving DecidableEq, Repr

/-- The callback of `xf86CrtcRotate`. -/
def drmmodeShadowCreate (c : Conf) (shadow : Option Bool) (s : State) : State :=
  match shadow with
  | none => s
  | some importOk => (drmmodeSetPixmapBo c importOk s).1

/-- `drmmode_set_mode_major`, with the mode sets its hooks make left to their own requests. -/
def drmmodeSetModeMajor (c : Conf) (a : ModeAnswer) (s : State) : State :=
  let s := drmmodeShadowCreate c a.shadow s
  if !a.rotateOk then s
  else
    match drmmodeCrtcSetMode c a.first s with
    | (s, false) => s
    | (s, true) => if c.atomicModeset then (drmmodeCrtcSetMode c a.real s).1 else s

/-- A loop over the CRTCs that sets some of them. -/
def setModes (c : Conf) (which : Crtc → Bool) (sets : Nat → ModeAnswer) :
    Nat → List Crtc → State → State
  | _, [], s => s
  | i, crtc :: rest, s =>
      setModes c which sets (i + 1) rest
        (if which crtc then drmmodeSetModeMajor c (sets i) s else s)

/-- `drmmode_clear_pixmap`. -/
def drmmodeClearPixmap (c : Conf) (s : State) : State :=
  if c.glamor then call .clearPixmap s else s

/-- The answers of a resize.  `buffersOk` when the buffers and shadows have been made. -/
structure ResizeAnswer where
  sameSize : Bool
  buffersOk : Bool
  importOk : Bool
  sets : Nat → ModeAnswer

/-- `drmmode_xf86crtc_resize`. -/
def drmmodeXf86crtcResize (c : Conf) (a : ResizeAnswer) (s : State) : State :=
  if a.sameSize then s
  else if !a.buffersOk then s
  else
    match drmmodeSetPixmapBo c a.importOk s with
    | (s, false) => s
    | (s, true) => setModes c Crtc.enabled a.sets 0 s.world.crtcs (drmmodeClearPixmap c s)

/-- `CreateScreenResources`, with `drmmode_set_desired_modes`, which only has the CRTCs rotated
when it is not to set the hardware. -/
def createScreenResources (c : Conf) (isGpu importOk : Bool) (sets : Nat → ModeAnswer)
    (shadows : Nat → Option Bool) (s : State) : State :=
  let s :=
    if isGpu then setModes c Crtc.enabled sets 0 s.world.crtcs s
    else
      setModes c Crtc.enabled (fun i => ⟨shadows i, false, ⟨false, false⟩, ⟨false, false⟩⟩) 0
        s.world.crtcs s
  (drmmodeSetPixmapBo c importOk s).1

/-- `CreateWindow_oneshot`.  `fbcon` when `drmmode_copy_fb` finds a console framebuffer that
fits. -/
def createWindow (c : Conf) (fbcon : Bool) (s : State) : State :=
  if c.createWindowOneshot && !s.rootCreated then
    let s := { s with rootCreated := true }
    if fbcon then call .eglCreateTexturedPixmap s else s
  else s

/-! ## PRIME -/

/-- `msSharePixmapBacking`, whose EXA part is never reached. -/
def msSharePixmapBacking (s : State) : State := call .shareableFdFromPixmap s

/-- `msSetSharedPixmapBacking`. -/
def msSetSharedPixmapBacking (c : Conf) (ihandle : Int) (s : State) : State :=
  if ihandle = -1 && !c.reversePrimeOffloadMode then s
  else if c.reversePrimeOffloadMode then
    if c.glamor then call .backPixmapFromFd s else s
  else s

/-- `redisplay_dirty`. -/
def redisplayDirty (c : Conf) (isGpu : Bool) (s : State) : State :=
  if !isGpu then
    if c.glamor then call .finish s else s
  else s

/-! ## Present -/

/-- The answers of a flip request.  `bo` is `gbm_bo_from_pixmap` in the test of the format, with
whether that is supported; `event` the allocation of the event; `flipBo` and `queued` what
`ms_do_pageflip` gets and whether it queues a flip. -/
structure FlipAnswer where
  bo : Option Bool
  event : Bool
  flipBo : Bool
  queued : Bool
  deriving DecidableEq, Repr

/-- `ms_do_pageflip`. -/
def msDoPageflip (a : FlipAnswer) (s : State) : State × Bool :=
  let s := call .gbmBoFromPixmap (call .blockHandler s)
  if !a.flipBo then (s, false) else (s, a.queued)

def msPresentFlush (c : Conf) (s : State) : State :=
  if c.glamor then call .blockHandler s else s

/-- The tests of `ms_present_check_unflip` before that of the buffer's format. -/
def unflipTests (c : Conf) (w : World) (devKind : Int) : Bool :=
  c.pageflip && !w.dri2Flipping && w.vtSema && w.crtcs.all (fun crtc => !crtc.rotateGbm) &&
    w.crtcs.any msCrtcOn && (c.atomicModeset || devKind == w.frontPitch)

/-- `ms_present_check_unflip`. -/
def msPresentCheckUnflip (c : Conf) (devKind : Int) (a : FlipAnswer) (s : State) : State × Bool :=
  if !unflipTests c s.world devKind then (s, false)
  else if c.modifiers then
    match a.bo with
    | none => (call .gbmBoFromPixmap s, true)
    | some formatOk => (call .gbmBoFromPixmap s, formatOk)
  else (s, true)

/-- `ms_present_check_flip`. -/
def msPresentCheckFlip (c : Conf) (devKind : Int) (a : FlipAnswer) (s : State) : State × Bool :=
  if s.world.spritesVisible > 0 then (s, false) else msPresentCheckUnflip c devKind a s

/-- `ms_present_flip` after the check. -/
def presentPageflip (a : FlipAnswer) (s : State) : State :=
  if !a.event then s
  else
    match msDoPageflip a s with
    | (s, false) => s
    | (s, true) => { s with world := { s.world with presentFlipping := true } }

/-- `ms_present_flip`. -/
def msPresentFlip (c : Conf) (devKind : Int) (a : FlipAnswer) (s : State) : State :=
  match msPresentCheckFlip c devKind a s with
  | (s, false) => s
  | (s, true) => presentPageflip a s

/-- The fallback of `ms_present_unflip`. -/
def unflipFallback (c : Conf) (sets : Nat → ModeAnswer) (s : State) : State :=
  let s := setModes c msCrtcOn sets 0 s.world.crtcs s
  { s with world := { s.world with presentFlipping := false } }

/-- `ms_present_unflip` after a check that has come through. -/
def unflipPageflip (c : Conf) (a : FlipAnswer) (sets : Nat → ModeAnswer) (s : State) : State :=
  match msDoPageflip a s with
  | (s, true) => s
  | (s, false) => unflipFallback c sets s

/-- `ms_present_unflip`. -/
def msPresentUnflip (c : Conf) (devKind : Int) (a : FlipAnswer) (sets : Nat → ModeAnswer)
    (s : State) : State :=
  if !a.event then s
  else
    match msPresentCheckUnflip c devKind a s with
    | (s, false) => unflipFallback c sets s
    | (s, true) => unflipPageflip c a sets s

/-! ## DRI2 -/

/-- `ms_dri2_create_buffer2`, where it has a pixmap, and `update_front`. -/
def nameFromPixmap (s : State) : State := call .nameFromPixmap s

/-- `ms_dri2_schedule_flip`. -/
def msDri2ScheduleFlip (a : FlipAnswer) (s : State) : State :=
  if !a.event then s
  else
    match msDoPageflip a s with
    | (s, false) => s
    | (s, true) => { s with world := { s.world with dri2Flipping := true } }

/-- `ms_dri2_exchange_buffers`. -/
def msDri2ExchangeBuffers (c : Conf) (s : State) : State :=
  if c.glamor then call .eglExchangeBuffers s else s

/-! ## Runs -/

inductive Request where
  | others (world : World)
  | createScreenResources (isGpu importOk : Bool) (sets : Nat → ModeAnswer)
      (shadows : Nat → Option Bool)
  | createWindow (fbcon : Bool)
  | setMode (a : ModeAnswer)
  | resize (a : ResizeAnswer)
  | clearPixmap
  | sharePixmapBacking
  | setSharedPixmapBacking (ihandle : Int)
  | redisplayDirty (isGpu : Bool)
  | presentFlush
  | presentCheckFlip (devKind : Int) (a : FlipAnswer)
  | presentFlip (devKind : Int) (a : FlipAnswer)
  | presentUnflip (devKind : Int) (a : FlipAnswer) (sets : Nat → ModeAnswer)
  | dri2Name
  | dri2ScheduleFlip (a : FlipAnswer)
  | dri2ExchangeBuffers

/-- Requests of an extension that has been set up. -/
def ifEnabled (enabled : Bool) (f : State → State) (s : State) : State := if enabled then f s else s

def step (c : Conf) (s : State) : Request → State
  | .others world => { s with world := world }
  | .createScreenResources isGpu importOk sets shadows =>
      createScreenResources c isGpu importOk sets shadows s
  | .createWindow fbcon => createWindow c fbcon s
  | .setMode a => drmmodeSetModeMajor c a s
  | .resize a => drmmodeXf86crtcResize c a s
  | .clearPixmap => drmmodeClearPixmap c s
  | .sharePixmapBacking => msSharePixmapBacking s
  | .setSharedPixmapBacking ihandle => msSetSharedPixmapBacking c ihandle s
  | .redisplayDirty isGpu => redisplayDirty c isGpu s
  | .presentFlush => ifEnabled c.presentEnable (msPresentFlush c) s
  | .presentCheckFlip devKind a =>
      ifEnabled c.presentEnable (fun s => (msPresentCheckFlip c devKind a s).1) s
  | .presentFlip devKind a => ifEnabled c.presentEnable (msPresentFlip c devKind a) s
  | .presentUnflip devKind a sets =>
      ifEnabled c.presentEnable (msPresentUnflip c devKind a sets) s
  | .dri2Name => ifEnabled c.dri2Enable nameFromPixmap s
  | .dri2ScheduleFlip a => ifEnabled c.dri2Enable (msDri2ScheduleFlip a) s
  | .dri2ExchangeBuffers => ifEnabled c.dri2Enable (msDri2ExchangeBuffers c) s

/-- **Glamor is called only if it is there.** -/
def Respected (glamor : Bool) (s : State) : Prop := glamor = true ∨ s.log = []

/-- A Present request with these tests is made. -/
def flipsNow (c : Conf) (s : State) (devKind : Int) : Bool :=
  c.presentEnable && decide (s.world.spritesVisible ≤ 0) && unflipTests c s.world devKind

/-- The requests that call glamor without asking for it. -/
def callsGlamor (c : Conf) (s : State) : Request → Bool
  | .sharePixmapBacking => true
  | .presentCheckFlip devKind _ => flipsNow c s devKind && c.modifiers
  | .presentFlip devKind a => flipsNow c s devKind && (c.modifiers || a.event)
  | .presentUnflip devKind a _ => c.presentEnable && a.event && unflipTests c s.world devKind
  | _ => false

/-- **The condition.** -/
def Avoids (c : Conf) (s : State) (request : Request) : Prop :=
  c.glamor = true ∨ callsGlamor c s request = false

/-! ## Without glamor -/

section Without

variable {c : Conf} {s : State}

theorem setPixmapBo_without (h : c.glamor = false) (importOk : Bool) (s : State) :
    drmmodeSetPixmapBo c importOk s = (s, true) := by
  unfold drmmodeSetPixmapBo
  rw [h]
  rfl

theorem crtcSetMode_without (h : c.glamor = false) (a : SetAnswer) (s : State) :
    ∃ ok, drmmodeCrtcSetMode c a s = (s, ok) := by
  unfold drmmodeCrtcSetMode
  rw [h]
  cases a.fbIdOk with
  | false => exact ⟨false, rfl⟩
  | true => exact ⟨a.setOk, rfl⟩

theorem shadowCreate_without (h : c.glamor = false) (shadow : Option Bool) (s : State) :
    drmmodeShadowCreate c shadow s = s := by
  cases shadow with
  | none => rfl
  | some importOk =>
      rw [drmmodeShadowCreate, setPixmapBo_without h]

theorem setModeMajor_without (h : c.glamor = false) (a : ModeAnswer) (s : State) :
    drmmodeSetModeMajor c a s = s := by
  unfold drmmodeSetModeMajor
  rw [shadowCreate_without h]
  simp only
  split
  · rfl
  · obtain ⟨ok, hfirst⟩ := crtcSetMode_without h a.first s
    obtain ⟨ok', hreal⟩ := crtcSetMode_without h a.real s
    rw [hfirst]
    cases ok with
    | false => rfl
    | true =>
        show (if c.atomicModeset then (drmmodeCrtcSetMode c a.real s).1 else s) = s
        rw [hreal, ite_self]

theorem setModes_without (h : c.glamor = false) (which : Crtc → Bool) (sets : Nat → ModeAnswer)
    (crtcs : List Crtc) (i : Nat) (s : State) : setModes c which sets i crtcs s = s := by
  induction crtcs generalizing i s with
  | nil => rfl
  | cons crtc rest ih => rw [setModes, setModeMajor_without h, ite_self, ih]

theorem clearPixmap_without (h : c.glamor = false) (s : State) : drmmodeClearPixmap c s = s := by
  rw [drmmodeClearPixmap, h]
  rfl

theorem resize_without (h : c.glamor = false) (a : ResizeAnswer) (s : State) :
    drmmodeXf86crtcResize c a s = s := by
  unfold drmmodeXf86crtcResize
  rw [setPixmapBo_without h]
  simp only [clearPixmap_without h, setModes_without h, ite_self]

theorem createScreenResources_without (h : c.glamor = false) (isGpu importOk : Bool)
    (sets : Nat → ModeAnswer) (shadows : Nat → Option Bool) (s : State) :
    createScreenResources c isGpu importOk sets shadows s = s := by
  unfold createScreenResources
  simp only [setModes_without h, ite_self, setPixmapBo_without h]

theorem setSharedPixmapBacking_without (h : c.glamor = false) (ihandle : Int) (s : State) :
    msSetSharedPixmapBacking c ihandle s = s := by
  unfold msSetSharedPixmapBacking
  rw [h]
  simp only [Bool.false_eq_true, if_false, ite_self]

theorem redisplayDirty_without (h : c.glamor = false) (isGpu : Bool) (s : State) :
    redisplayDirty c isGpu s = s := by
  unfold redisplayDirty
  rw [h]
  simp only [Bool.false_eq_true, if_false, ite_self]

theorem unflipFallback_without (h : c.glamor = false) (sets : Nat → ModeAnswer) (s : State) :
    (unflipFallback c sets s).log = s.log := by
  unfold unflipFallback
  simp only [setModes_without h]

/-! ### Present -/

/-- What `ms_present_check_unflip` does. -/
theorem checkUnflip_cases (c : Conf) (devKind : Int) (a : FlipAnswer) (s : State) :
    (unflipTests c s.world devKind = false ∧ msPresentCheckUnflip c devKind a s = (s, false)) ∨
      unflipTests c s.world devKind = true ∧
        ((c.modifiers = true ∧
            ∃ ok, msPresentCheckUnflip c devKind a s = (call .gbmBoFromPixmap s, ok)) ∨
          (c.modifiers = false ∧ msPresentCheckUnflip c devKind a s = (s, true))) := by
  unfold msPresentCheckUnflip
  cases unflipTests c s.world devKind with
  | false => exact Or.inl ⟨rfl, rfl⟩
  | true =>
      refine Or.inr ⟨rfl, ?_⟩
      cases c.modifiers with
      | false => exact Or.inr ⟨rfl, rfl⟩
      | true =>
          cases hbo : a.bo with
          | none => exact Or.inl ⟨rfl, true, rfl⟩
          | some formatOk => exact Or.inl ⟨rfl, formatOk, rfl⟩

theorem doPageflip_log (a : FlipAnswer) (s : State) :
    ∃ t ok, msDoPageflip a s = (t, ok) ∧ t.log = .gbmBoFromPixmap :: .blockHandler :: s.log := by
  unfold msDoPageflip
  cases a.flipBo with
  | false => exact ⟨_, false, rfl, rfl⟩
  | true => exact ⟨_, a.queued, rfl, rfl⟩

theorem presentPageflip_log (a : FlipAnswer) (s : State) :
    (presentPageflip a s).log =
      if a.event then .gbmBoFromPixmap :: .blockHandler :: s.log else s.log := by
  obtain ⟨t, ok, hdo, ht⟩ := doPageflip_log a s
  unfold presentPageflip
  rw [hdo]
  cases a.event with
  | false => rfl
  | true =>
      cases ok with
      | false => exact ht
      | true => exact ht

theorem unflipPageflip_log (h : c.glamor = false) (a : FlipAnswer) (sets : Nat → ModeAnswer)
    (s : State) :
    (unflipPageflip c a sets s).log = .gbmBoFromPixmap :: .blockHandler :: s.log := by
  obtain ⟨t, ok, hdo, ht⟩ := doPageflip_log a s
  unfold unflipPageflip
  rw [hdo]
  cases ok with
  | false => exact (unflipFallback_without h sets t).trans ht
  | true => exact ht

/-- `ms_present_check_flip` when no sprite is visible. -/
theorem checkFlip_eq (c : Conf) (devKind : Int) (a : FlipAnswer) (s : State) :
    msPresentCheckFlip c devKind a s =
      if decide (s.world.spritesVisible ≤ 0) then msPresentCheckUnflip c devKind a s
      else (s, false) := by
  unfold msPresentCheckFlip
  by_cases hsprites : s.world.spritesVisible > 0
  · rw [if_pos hsprites, decide_eq_false (not_le.mpr hsprites)]
    rfl
  · rw [if_neg hsprites, decide_eq_true (not_lt.mp hsprites)]
    rfl

theorem checkFlip_log (hlog : s.log = []) (devKind : Int) (a : FlipAnswer) :
    (msPresentCheckFlip c devKind a s).1.log = [] ↔
      (decide (s.world.spritesVisible ≤ 0) && unflipTests c s.world devKind && c.modifiers) =
        false := by
  rw [checkFlip_eq]
  cases decide (s.world.spritesVisible ≤ 0) with
  | false => exact iff_of_true hlog rfl
  | true =>
      simp only [if_true]
      rcases checkUnflip_cases c devKind a s with ⟨hno, heq⟩ | ⟨hyes, ⟨hmod, ok, heq⟩ | ⟨hmod, heq⟩⟩
      · rw [heq, hno]
        exact iff_of_true hlog rfl
      · rw [heq, hyes, hmod]
        exact iff_of_false (fun h => by cases h) (fun h => by cases h)
      · rw [heq, hyes, hmod]
        exact iff_of_true hlog rfl

theorem presentFlip_log (hlog : s.log = []) (devKind : Int) (a : FlipAnswer) :
    (msPresentFlip c devKind a s).log = [] ↔
      (decide (s.world.spritesVisible ≤ 0) && unflipTests c s.world devKind &&
        (c.modifiers || a.event)) = false := by
  unfold msPresentFlip
  rw [checkFlip_eq]
  cases decide (s.world.spritesVisible ≤ 0) with
  | false => exact iff_of_true hlog rfl
  | true =>
      simp only [if_true]
      rcases checkUnflip_cases c devKind a s with ⟨hno, heq⟩ | ⟨hyes, ⟨hmod, ok, heq⟩ | ⟨hmod, heq⟩⟩
      · rw [heq, hno]
        exact iff_of_true hlog rfl
      · rw [heq, hyes, hmod]
        refine iff_of_false (fun h => ?_) (fun h => by cases h)
        cases ok with
        | false => cases h
        | true =>
            simp only [presentPageflip_log] at h
            split at h <;> cases h
      · rw [heq, hyes, hmod]
        simp only [presentPageflip_log, hlog]
        cases a.event with
        | false => exact iff_of_true rfl rfl
        | true => exact iff_of_false (fun h => by cases h) (fun h => by cases h)

theorem presentUnflip_log (h : c.glamor = false) (hlog : s.log = []) (devKind : Int) (a : FlipAnswer)
    (sets : Nat → ModeAnswer) :
    (msPresentUnflip c devKind a sets s).log = [] ↔
      (a.event && unflipTests c s.world devKind) = false := by
  unfold msPresentUnflip
  cases a.event with
  | false => exact iff_of_true hlog rfl
  | true =>
      simp only [Bool.not_true, Bool.false_eq_true, if_false, Bool.true_and]
      rcases checkUnflip_cases c devKind a s with ⟨hno, heq⟩ | ⟨hyes, ⟨hmod, ok, heq⟩ | ⟨hmod, heq⟩⟩
      · rw [heq, hno]
        exact iff_of_true ((unflipFallback_without h sets s).trans hlog) rfl
      · rw [heq, hyes]
        refine iff_of_false (fun hnil => ?_) (fun h => by cases h)
        cases ok with
        | false =>
            have hcall := unflipFallback_without h sets (call .gbmBoFromPixmap s)
            rw [show (unflipFallback c sets (call .gbmBoFromPixmap s)).log = [] from hnil] at hcall
            cases hcall
        | true =>
            have hcall := unflipPageflip_log h a sets (call .gbmBoFromPixmap s)
            rw [show (unflipPageflip c a sets (call .gbmBoFromPixmap s)).log = [] from hnil] at hcall
            cases hcall
      · rw [heq, hyes]
        refine iff_of_false (fun hnil => ?_) (fun h => by cases h)
        have hcall := unflipPageflip_log h a sets s
        rw [show (unflipPageflip c a sets s).log = [] from hnil] at hcall
        cases hcall

end Without

/-! ## Configurations that `ScreenInit` leaves -/

section Reached

variable {ms : Ms} {c : Conf} {s : State}

/-- What the extensions and the hook of `CreateWindow` need. -/
structure Reached (ms : Ms) (c : Conf) : Prop where
  glamor : c.glamor = ms.glamor
  dri2 : c.dri2Enable = true → c.glamor = true
  oneshot : c.createWindowOneshot = true → c.glamor = true

theorem initExtensions_reached (ms : Ms) (a : InitAnswer) (s : State) :
    Reached ms (initExtensions ms a s).2 ∧
      (ms.glamor = false → (initExtensions ms a s).1 = s) := by
  unfold initExtensions
  cases hglamor : ms.glamor with
  | true => exact ⟨⟨rfl, fun _ => hglamor, fun _ => hglamor⟩, fun h => by cases h⟩
  | false =>
      cases ms.exaEnabled with
      | true => exact ⟨⟨rfl, (fun h => by cases h), (fun h => by cases h)⟩, fun _ => rfl⟩
      | false => exact ⟨⟨rfl, (fun h => by cases h), (fun h => by cases h)⟩, fun _ => rfl⟩

/-- `ScreenInit` asks before each of its calls. -/
theorem screenInit_reached (ms : Ms) (a : InitAnswer) (s : State) :
    (∀ c, (screenInit ms a s).2 = some c → Reached ms c) ∧
      (ms.glamor = false → (screenInit ms a s).1 = s) := by
  have hinit : ∀ t, ms.glamor = false → drmmodeInit ms a t = (t, true) := by
    intro t hno
    unfold drmmodeInit
    rw [hno]
    rfl
  unfold screenInit
  simp only
  split
  · exact ⟨(fun c h => by cases h), fun hno => by rw [hno]; rfl⟩
  · generalize hdrm : drmmodeInit ms a (if ms.glamor then call .eglGetGbmDevice s else s) = out
    obtain ⟨t, ok⟩ := out
    have hsame : ms.glamor = false → ok = true ∧ t = s := by
      intro hno
      rw [hinit _ hno, hno] at hdrm
      cases hdrm
      exact ⟨rfl, rfl⟩
    cases ok with
    | false => exact ⟨(fun c h => by cases h), fun hno => by cases (hsame hno).1⟩
    | true =>
        simp only
        split
        · exact ⟨(fun c h => by cases h), fun hno => (hsame hno).2⟩
        · split
          · refine ⟨(fun c h => by cases h), fun hno => ?_⟩
            rw [hno]
            exact (hsame hno).2
          · have hext := initExtensions_reached ms a (if ms.glamor then call .xvInit t else t)
            refine ⟨fun c h => Option.some.inj h ▸ hext.1, fun hno => ?_⟩
            refine (hext.2 hno).trans ?_
            rw [hno]
            exact (hsame hno).2

/-! ## Runs -/

/-- One request calls glamor, where there is none, exactly if it does not ask. -/
theorem step_log (hreached : Reached ms c) (hno : c.glamor = false) (hlog : s.log = [])
    (request : Request) : (step c s request).log = [] ↔ callsGlamor c s request = false := by
  have hdri2 : c.dri2Enable = false := Bool.eq_false_iff.mpr fun h => by
    rw [hreached.dri2 h] at hno
    cases hno
  have honeshot : c.createWindowOneshot = false := Bool.eq_false_iff.mpr fun h => by
    rw [hreached.oneshot h] at hno
    cases hno
  -- A request after which the log is as before.
  have hquiet : ∀ {t : State}, t = s → (t.log = [] ↔ false = false) := fun h =>
    iff_of_true (h ▸ hlog) rfl
  cases request with
  | others world => exact iff_of_true hlog rfl
  | createScreenResources isGpu importOk sets shadows =>
      exact hquiet (createScreenResources_without hno isGpu importOk sets shadows s)
  | createWindow fbcon =>
      refine hquiet ?_
      rw [step, createWindow, honeshot]
      rfl
  | setMode a => exact hquiet (setModeMajor_without hno a s)
  | resize a => exact hquiet (resize_without hno a s)
  | clearPixmap => exact hquiet (clearPixmap_without hno s)
  | sharePixmapBacking => exact iff_of_false (fun h => by cases h) fun h => by cases h
  | setSharedPixmapBacking ihandle => exact hquiet (setSharedPixmapBacking_without hno ihandle s)
  | redisplayDirty isGpu => exact hquiet (redisplayDirty_without hno isGpu s)
  | presentFlush =>
      refine hquiet ?_
      rw [step, ifEnabled, msPresentFlush, hno]
      exact ite_self s
  | presentCheckFlip devKind a =>
      rw [step, ifEnabled, callsGlamor, flipsNow]
      cases c.presentEnable with
      | false => exact iff_of_true hlog rfl
      | true => exact checkFlip_log hlog devKind a
  | presentFlip devKind a =>
      rw [step, ifEnabled, callsGlamor, flipsNow]
      cases c.presentEnable with
      | false => exact iff_of_true hlog rfl
      | true => exact presentFlip_log hlog devKind a
  | presentUnflip devKind a sets =>
      rw [step, ifEnabled, callsGlamor]
      cases c.presentEnable with
      | false => exact iff_of_true hlog rfl
      | true => exact presentUnflip_log hno hlog devKind a sets
  | dri2Name =>
      refine hquiet ?_
      rw [step, ifEnabled, hdri2]
      rfl
  | dri2ScheduleFlip a =>
      refine hquiet ?_
      rw [step, ifEnabled, hdri2]
      rfl
  | dri2ExchangeBuffers =>
      refine hquiet ?_
      rw [step, ifEnabled, hdri2]
      rfl

theorem step_respected (hreached : Reached ms c) (hs : Respected c.glamor s) (request : Request) :
    Respected c.glamor (step c s request) ↔ Avoids c s request := by
  unfold Respected Avoids
  cases hglamor : c.glamor with
  | true => exact iff_of_true (Or.inl rfl) (Or.inl rfl)
  | false =>
      rw [Respected, hglamor] at hs
      have hlog := hs.resolve_left fun h => by cases h
      exact or_congr Iff.rfl (step_log hreached hglamor hlog request)

/-- **Glamor is called only if it is there**: by `ScreenInit`, whatever `PreInit` has found, and
in every run after it in which no request is one that calls without asking. -/
theorem hooks_guarded_iff (o : Setup) (a : InitAnswer) (w : World) :
    Respected (preInit o).glamor (screenInit (preInit o) a ⟨w, false, []⟩).1 ∧
      ∀ c, (screenInit (preInit o) a ⟨w, false, []⟩).2 = some c → ∀ requests,
        (Always (step c) (Respected c.glamor) (screenInit (preInit o) a ⟨w, false, []⟩).1 requests ↔
          Guarded (step c) (Avoids c) (screenInit (preInit o) a ⟨w, false, []⟩).1 requests) := by
  obtain ⟨hreached, hquiet⟩ := screenInit_reached (preInit o) a ⟨w, false, []⟩
  have hstart : Respected (preInit o).glamor (screenInit (preInit o) a ⟨w, false, []⟩).1 := by
    cases hglamor : (preInit o).glamor with
    | true => exact Or.inl rfl
    | false => exact Or.inr (by rw [hquiet hglamor])
  refine ⟨hstart, fun c hc requests => ?_⟩
  have hr := hreached c hc
  rw [← hr.glamor] at hstart
  refine always_iff_guarded (I := fun _ => True) (P := Respected c.glamor) (fun _ _ _ => trivial)
    (fun s request _ hs => ?_) trivial hstart requests
  exact step_respected hr hs request

end Reached

/-- A machine with PRIME on which `accelMethod` decides. -/
def machine (accelMethod : AccelMethod) (modifiers : Bool) : Setup :=
  ⟨accelMethod, false, true, true, true, true, false, modifiers⟩

def granted : InitAnswer :=
  ⟨true, true, true, true, true, true, true, true, false, false, false⟩

/-- One CRTC is on. -/
def lit : World := ⟨true, false, false, 0, [⟨true, true, false⟩], 2560⟩

/-- What glamor and the kernel grant. -/
def flipGranted : FlipAnswer := ⟨some true, true, true, true⟩

def exaConf (modifiers : Bool) : Conf where
  toMs := preInit (machine .exa modifiers)
  dri2Enable := false
  presentEnable := true
  reversePrimeOffloadMode := false
  createWindowOneshot := false

/-- With EXA, requests that ask for glamor. -/
theorem hooks_guarded_exa :
    Always (step (exaConf true)) (Respected false) ⟨lit, false, []⟩
      [.presentFlush, .clearPixmap, .setSharedPixmapBacking 3,
        .presentCheckFlip 2048 flipGranted] :=
  ((hooks_guarded_iff (machine .exa true) granted lit).2 (exaConf true) rfl
    [.presentFlush, .clearPixmap, .setSharedPixmapBacking 3,
      .presentCheckFlip 2048 flipGranted]).mpr
    ⟨Or.inr rfl, Or.inr rfl, Or.inr rfl, Or.inr rfl, trivial⟩

/-- **With EXA a Present flip calls glamor**, and so does a request to share a pixmap. -/
theorem exa_flip_calls_glamor :
    (screenInit (preInit (machine .exa true)) granted ⟨lit, false, []⟩).2 = some (exaConf true) ∧
      (exaConf true).glamor = false ∧
      (step (exaConf true) ⟨lit, false, []⟩ (.presentCheckFlip 2560 flipGranted)).log =
        [.gbmBoFromPixmap] ∧
      (step (exaConf false) ⟨lit, false, []⟩ (.presentFlip 2560 flipGranted)).log =
        [.gbmBoFromPixmap, .blockHandler] ∧
      (step (exaConf true) ⟨lit, false, []⟩ .sharePixmapBacking).log = [.shareableFdFromPixmap] ∧
      ¬ Always (step (exaConf true)) (Respected (exaConf true).glamor) ⟨lit, false, []⟩
        [.presentCheckFlip 2560 flipGranted] := by
  refine ⟨rfl, rfl, rfl, rfl, rfl, fun h => ?_⟩
  cases h.2 with
  | inl hglamor => cases hglamor
  | inr hlog => cases hlog

end LoongsonVideo.Driver.GlamorHooks
