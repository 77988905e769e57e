import LoongsonVideo.Verified.Shared
import LoongsonVideo.Verified.Ledger
import LoongsonVideo.Verified.Machine

/-!
# DRI2 buffers

`src/dri2.c`: a DRI2 buffer has a reference on a pixmap, the window's own for the front left
buffer and one of its own for the others, and tells the client the name of the buffer object
behind it.  A swap copies the back buffer to the window, or exchanges the buffer objects of
the two pixmaps and lets the CRTCs flip.

A use of a pixmap or a buffer that is no longer there sets `fault`.

The calls are those of one function after the other, with whatever references there are.  The
records of swaps, and the references that the driver takes and gives back for them, are in
`Dri2Frames`.
-/

namespace LoongsonVideo.Driver.Dri2Buffers

open LoongsonVideo.Verified
open LoongsonVideo.Verified.Ledger
open LoongsonVideo.Verified.Machine

/-! ## Data -/

def dri2BufferFrontLeft : Nat := 0
def dri2BufferBackLeft : Nat := 1
def dri2BufferFrontRight : Nat := 2
def dri2BufferBackRight : Nat := 3
def dri2BufferAccum : Nat := 6
def dri2BufferFakeFrontLeft : Nat := 7
def dri2BufferFakeFrontRight : Nat := 8

/-- The attachments that the switch of `ms_dri2_create_buffer2` lets pass. -/
def colourAttachment (attachment : Nat) : Bool :=
  [dri2BufferAccum, dri2BufferBackLeft, dri2BufferBackRight, dri2BufferFakeFrontLeft,
    dri2BufferFakeFrontRight, dri2BufferFrontLeft, dri2BufferFrontRight].contains attachment

/-- What a flip compares. -/
structure Size where
  width : Int
  height : Int
  bitsPerPixel : Int
  devKind : Int
  deriving DecidableEq, Repr, Inhabited

/-- `PixmapRec`: its buffer object and its `msPixmapPrivRec`. -/
structure Pixmap where
  screen : Nat
  depth : Nat
  size : Size
  bo : Nat
  msPriv : Nat
  deriving DecidableEq, Repr, Inhabited

/-- `DRI2Buffer2Rec` with the pixmap of `ms_dri2_buffer_private_rec`. -/
structure Dri2Buffer where
  attachment : Nat
  cpp : Int
  format : Nat
  name : Nat
  pitch : Int
  pixmap : Nat
  deriving DecidableEq, Repr, Inhabited

/-- The allocations of a buffer. -/
inductive BufferMem where
  | buffer (b : Nat)
  | priv (b : Nat)
  deriving DecidableEq, Repr

/-- A drawable at the time of a call: its pixmap (`get_drawable_pixmap`), where its origin is in
the pixmap (`x - screen_x`), and which of its pixels are visible. -/
structure Drawable where
  isWindow : Bool
  screen : Nat
  pixmap : Nat
  width : Int
  height : Int
  depth : Nat
  originX : Int
  originY : Int
  visible : Int × Int → Bool

/-- Pixmaps, buffers and what is in the buffer objects.  The server holds the references `held` on
pixmaps, and DRI2 and the frame events hold the references `refs` on buffers. -/
structure Dri2State (V : Type*) where
  glamor : Bool
  exaEnabled : Bool
  pixmaps : Pending (Shared Pixmap)
  buffers : Pending (Shared Dri2Buffer)
  nextBo : Nat
  boSize : Nat → Size
  cells : Nat → Int × Int → V
  held : Multiset Nat
  refs : Multiset Nat
  mem : List (Act BufferMem)
  fault : Bool

variable {V : Type*}

/-- DRI2 as `ScreenInit` starts it, with glamor. -/
def Dri2State.start (cells : Nat → Int × Int → V) : Dri2State V where
  glamor := true
  exaEnabled := false
  pixmaps := .empty
  buffers := .empty
  nextBo := 0
  boSize := fun _ => default
  cells := cells
  held := 0
  refs := 0
  mem := []
  fault := false

/-- What the allocators, the server and `name_from_pixmap` answer. -/
structure CreateAnswer where
  bufferOk : Bool
  privateOk : Bool
  pixmap : Option (Int × Int)
  pitch : Option Nat
  deriving DecidableEq, Repr

/-- What `can_flip` and `can_exchange` look at: each CRTC is rotated, and on. -/
structure FlipConditions where
  pageflip : Bool
  spritesVisible : Bool
  presentFlipping : Bool
  vtSema : Bool
  dri2CanFlip : Bool
  crtcs : List (Bool × Bool)
  pitch : Option Nat
  deriving DecidableEq, Repr

/-- Where `CopyArea` draws. -/
structure Target where
  pixmap : Nat
  originX : Int
  originY : Int
  width : Int
  height : Int
  visible : Int × Int → Bool

/-! ## Pixmaps -/

def Dri2State.pixmap (s : Dri2State V) (p : Nat) : Pixmap := (Shared.get? s.pixmaps p).getD default

def Dri2State.buffer (s : Dri2State V) (b : Nat) : Dri2Buffer :=
  (Shared.get? s.buffers b).getD default

/-- A pixmap is read or written. -/
def Dri2State.use (s : Dri2State V) (p : Nat) : Dri2State V :=
  if (s.pixmaps.find? p).isSome then s else { s with fault := true }

/-- A buffer is read or written. -/
def Dri2State.useBuffer (s : Dri2State V) (b : Nat) : Dri2State V :=
  if (s.buffers.find? b).isSome then s else { s with fault := true }

def Dri2State.setBuffer (s : Dri2State V) (b : Nat) (f : Dri2Buffer → Dri2Buffer) : Dri2State V :=
  { s with buffers := Shared.set s.buffers b f }

def Dri2State.setPixmap (s : Dri2State V) (p : Nat) (f : Pixmap → Pixmap) : Dri2State V :=
  { s with pixmaps := Shared.set s.pixmaps p f }

/-- `CreatePixmap`: a pixmap with a buffer object of its own. -/
def createPixmap (s : Dri2State V) (screen depth : Nat) (size : Size) : Dri2State V :=
  { s with
    pixmaps := Shared.new s.pixmaps ⟨screen, depth, size, s.nextBo, 0⟩
    nextBo := s.nextBo + 1
    boSize := Function.update s.boSize s.nextBo size }

/-- `pixmap->refcnt++`. -/
def refPixmap (s : Dri2State V) (p : Nat) : Dri2State V :=
  { s.use p with pixmaps := Shared.ref s.pixmaps p }

/-- `DestroyPixmap`. -/
def destroyPixmap (s : Dri2State V) (p : Nat) : Dri2State V :=
  { s.use p with pixmaps := Shared.unref s.pixmaps p }

/-- `name_from_pixmap`: the name of the buffer object, and its pitch. -/
def nameFromPixmap (s : Dri2State V) (p : Nat) (pitch : Option Nat) : Option (Nat × Nat) :=
  pitch.map fun pitch => ((s.pixmap p).bo, pitch)

/-! ## Buffers -/

/-- The pixmap of a new buffer. -/
def bufferPixmap (s : Dri2State V) (screen : Nat) (draw : Drawable) (attachment format : Nat)
    (answer : CreateAnswer) : Dri2State V × Option Nat :=
  if attachment = dri2BufferFrontLeft ∧ ((s.use draw.pixmap).pixmap draw.pixmap).screen = screen then
    (refPixmap s draw.pixmap, some draw.pixmap)
  else
    let s := if attachment = dri2BufferFrontLeft then s.use draw.pixmap else s
    if !colourAttachment attachment then (s, none)
    else
      match answer.pixmap with
      | none => (s, none)
      | some (bitsPerPixel, devKind) =>
          let pixmapCpp := if format ≠ 0 then format else draw.depth
          (createPixmap s screen pixmapCpp ⟨draw.width, draw.height, bitsPerPixel, devKind⟩,
            some s.pixmaps.next)

/-- `ms_dri2_create_buffer2`. -/
def msDri2CreateBuffer2 (s : Dri2State V) (screen : Nat) (draw : Drawable)
    (attachment format : Nat) (answer : CreateAnswer) : Dri2State V × Option Nat :=
  if !answer.bufferOk then (s, none)
  else
    let b := s.buffers.next
    let mem := .acquire (.buffer b) :: s.mem
    if !answer.privateOk then ({ s with mem := .release (.buffer b) :: mem }, none)
    else
      let mem := .acquire (.priv b) :: mem
      let freed := .release (.buffer b) :: .release (.priv b) :: mem
      match bufferPixmap s screen draw attachment format answer with
      | (s, none) => ({ s with mem := freed }, none)
      | (s, some p) =>
          match nameFromPixmap s p answer.pitch with
          | none => ({ destroyPixmap s p with mem := freed }, none)
          | some (name, pitch) =>
              ({ s with
                buffers := Shared.new s.buffers
                  ⟨attachment, (s.pixmap p).size.bitsPerPixel / 8, format, name, pitch, p⟩
                refs := b ::ₘ s.refs
                mem := mem }, some b)

/-- `ms_dri2_create_buffer`. -/
def msDri2CreateBuffer (s : Dri2State V) (draw : Drawable) (attachment format : Nat)
    (answer : CreateAnswer) : Dri2State V × Option Nat :=
  msDri2CreateBuffer2 s draw.screen draw attachment format answer

/-- `ms_dri2_reference_buffer`. -/
def msDri2ReferenceBuffer (s : Dri2State V) (b : Nat) : Dri2State V :=
  { s.useBuffer b with buffers := Shared.ref s.buffers b, refs := b ::ₘ s.refs }

/-- `ms_dri2_destroy_buffer2`. -/
def msDri2DestroyBuffer2 (s : Dri2State V) (b : Nat) : Dri2State V :=
  match s.buffers.find? b with
  | none => { s with fault := true }
  | some o =>
      let s := { s with refs := s.refs.erase b }
      if o.refcnt - 1 = 0 then
        { destroyPixmap s o.value.pixmap with
          buffers := Shared.unref s.buffers b
          mem := .release (.buffer b) :: .release (.priv b) :: s.mem }
      else { s with buffers := Shared.unref s.buffers b }

/-! ## Flips -/

/-- `update_front`. -/
def updateFront (s : Dri2State V) (draw : Drawable) (front : Nat) (pitch : Option Nat) :
    Dri2State V × Bool :=
  let s := (s.useBuffer front).use draw.pixmap
  match nameFromPixmap s draw.pixmap pitch with
  | none => (s, false)
  | some (name, _) =>
      let s := s.setBuffer front fun buffer => { buffer with name := name }
      let s := (destroyPixmap s (s.buffer front).pixmap).use draw.pixmap
      let size := (s.pixmap draw.pixmap).size
      let s := s.setBuffer front fun buffer =>
        { buffer with
          pitch := size.devKind
          cpp := size.bitsPerPixel / 8
          pixmap := draw.pixmap }
      (refPixmap s draw.pixmap, true)

/-- `can_exchange`. -/
def canExchange (s : Dri2State V) (draw : Drawable) (front back : Nat) (env : FlipConditions) :
    Dri2State V × Bool :=
  if env.crtcs.any Prod.fst then (s, false)
  else if env.crtcs.countP Prod.snd = 0 then (s, false)
  else
    let (s, ok) := updateFront (s.useBuffer back) draw front env.pitch
    if !ok then (s, false)
    else
      let s := (s.use (s.buffer front).pixmap).use (s.buffer back).pixmap
      let frontPixmap := s.pixmap (s.buffer front).pixmap
      let backPixmap := s.pixmap (s.buffer back).pixmap
      if frontPixmap.size.width ≠ backPixmap.size.width then (s, false)
      else if frontPixmap.size.height ≠ backPixmap.size.height then (s, false)
      else if frontPixmap.size.bitsPerPixel ≠ backPixmap.size.bitsPerPixel then (s, false)
      else if frontPixmap.size.devKind ≠ backPixmap.size.devKind then (s, false)
      else (s, true)

/-- `can_flip`. -/
def canFlip (s : Dri2State V) (draw : Drawable) (front back : Nat) (env : FlipConditions) :
    Dri2State V × Bool :=
  if draw.isWindow && env.pageflip && !env.spritesVisible && !env.presentFlipping && env.vtSema &&
      env.dri2CanFlip then
    canExchange s draw front back env
  else (s, false)

/-- `egl_exchange_buffers`, and `ms_exa_exchange_buffers`: the pixmaps change buffer objects. -/
def exchangeBos (s : Dri2State V) (front back : Nat) : Dri2State V :=
  let frontBo := (s.pixmap front).bo
  let backBo := (s.pixmap back).bo
  (s.setPixmap front fun pixmap => { pixmap with bo := backBo }).setPixmap back fun pixmap =>
    { pixmap with bo := frontBo }

/-- The BO names are swapped so DRI works. -/
def exchangeNames (s : Dri2State V) (front back : Nat) : Dri2State V :=
  let frontName := (s.buffer front).name
  let backName := (s.buffer back).name
  (s.setBuffer front fun buffer => { buffer with name := backName }).setBuffer back fun buffer =>
    { buffer with name := frontName }

/-- The pixmap privates are swapped. -/
def exchangePrivs (s : Dri2State V) (front back : Nat) : Dri2State V :=
  let frontPix := (s.pixmap front).msPriv
  let backPix := (s.pixmap back).msPriv
  (s.setPixmap front fun pixmap => { pixmap with msPriv := backPix }).setPixmap back fun pixmap =>
    { pixmap with msPriv := frontPix }

/-- `ms_dri2_exchange_buffers`, up to the damage it reports. -/
def msDri2ExchangeBuffers (s : Dri2State V) (front back : Nat) : Dri2State V :=
  let s := (s.useBuffer front).useBuffer back
  let frontPixmap := (s.buffer front).pixmap
  let backPixmap := (s.buffer back).pixmap
  let s := (s.use frontPixmap).use backPixmap
  let s := exchangePrivs (exchangeNames s front back) frontPixmap backPixmap
  if s.glamor then exchangeBos s frontPixmap backPixmap
  else if s.exaEnabled then exchangeBos s frontPixmap backPixmap
  else s

/-! ## Copies -/

def Drawable.target (draw : Drawable) : Target :=
  ⟨draw.pixmap, draw.originX, draw.originY, draw.width, draw.height, draw.visible⟩

/-- A pixmap as a drawable. -/
def Dri2State.pixmapTarget (s : Dri2State V) (p : Nat) : Target :=
  ⟨p, 0, 0, (s.pixmap p).size.width, (s.pixmap p).size.height, fun _ => true⟩

def Target.inside (t : Target) (pos : Int × Int) : Bool :=
  decide (0 ≤ pos.1) && decide (pos.1 < t.width) && decide (0 ≤ pos.2) && decide (pos.2 < t.height)

/-- The pixel of the pixmap that a pixel of the drawable is. -/
def Target.cell (t : Target) (pos : Int × Int) : Int × Int := (t.originX + pos.1, t.originY + pos.2)

/-- `CopyArea` of `width` by `height` pixels from the origin of `src` to the given place of `dst`,
inside the clip of the GC.  Of a window as the source it also reads the pixels that other windows
cover. -/
def copyArea (s : Dri2State V) (src dst : Target) (clip : Int × Int → Bool)
    (width height offX offY : Int) : Dri2State V :=
  let s := (s.use src.pixmap).use dst.pixmap
  let srcBo := (s.pixmap src.pixmap).bo
  let dstBo := (s.pixmap dst.pixmap).bo
  let written : Int × Int → V := fun cell =>
    let pos := (cell.1 - dst.originX, cell.2 - dst.originY)
    let srcPos := (pos.1 - offX, pos.2 - offY)
    if decide (0 ≤ srcPos.1) && decide (srcPos.1 < width) && decide (0 ≤ srcPos.2) &&
        decide (srcPos.2 < height) && dst.inside pos && dst.visible pos && clip pos &&
        src.inside srcPos then
      s.cells srcBo (src.cell srcPos)
    else s.cells dstBo cell
  { s with cells := Function.update s.cells dstBo written }

/-- `ms_dri2_copy_region2`.  `prime` is what `DRI2UpdatePrime` answers: the drawable itself, another
one, or NULL. -/
def msDri2CopyRegion2 (s : Dri2State V) (screen : Nat) (draw : Drawable)
    (region : Int × Int → Bool) (dest source : Nat) (prime : Option (Option Target)) (gcOk : Bool) :
    Dri2State V :=
  let s := (s.useBuffer source).useBuffer dest
  let src := if (s.buffer source).attachment = dri2BufferFrontLeft then draw.target
    else s.pixmapTarget (s.buffer source).pixmap
  let dst := if (s.buffer dest).attachment = dri2BufferFrontLeft then draw.target
    else s.pixmapTarget (s.buffer dest).pixmap
  let copy (dst : Target) (offX offY : Int) : Dri2State V :=
    if !gcOk then s
    else
      copyArea s src dst (fun pos => region (pos.1 - offX, pos.2 - offY)) draw.width draw.height
        offX offY
  if (s.buffer dest).attachment = dri2BufferFrontLeft ∧ draw.screen ≠ screen then
    match prime with
    | none => s
    | some none => copy dst 0 0
    | some (some other) =>
        if draw.isWindow then copy other draw.originX draw.originY else copy other 0 0
  else copy dst 0 0

/-- `ms_dri2_copy_region`. -/
def msDri2CopyRegion (s : Dri2State V) (draw : Drawable) (region : Int × Int → Bool)
    (dest source : Nat) (gcOk : Bool) : Dri2State V :=
  msDri2CopyRegion2 s draw.screen draw region dest source none gcOk

/-- `ms_dri2_blit_swap`. -/
def msDri2BlitSwap (s : Dri2State V) (draw : Drawable) (dst src : Nat) (gcOk : Bool) :
    Dri2State V :=
  msDri2CopyRegion s draw draw.target.inside dst src gcOk

/-- What `ms_dri2_frame_event_handler` does for a swap whose drawable is there, up to the end of
its record.  `scheduled` is what `ms_dri2_schedule_flip` answers. -/
def completeSwap (s : Dri2State V) (queueFlip : Bool) (draw : Drawable)
    (front back : Nat) (env : FlipConditions) (scheduled gcOk : Bool) : Dri2State V :=
  if queueFlip then
    let (s, ok) := canFlip s draw front back env
    if ok && scheduled then msDri2ExchangeBuffers (s.use (s.buffer back).pixmap) front back
    else msDri2BlitSwap s draw front back gcOk
  else msDri2BlitSwap s draw front back gcOk

/-! ## Calls -/

inductive Dri2Act (V : Type*) where
  | createPixmap (screen depth : Nat) (size : Size)
  | holdPixmap (p : Nat)
  | dropPixmap (p : Nat)
  | createBuffer (screen : Nat) (draw : Drawable) (attachment format : Nat) (answer : CreateAnswer)
  | referenceBuffer (b : Nat)
  | destroyBuffer (b : Nat)
  | checkFlip (draw : Drawable) (front back : Nat) (env : FlipConditions)
  | frameEvent (queueFlip : Bool) (draw : Drawable) (front back : Nat) (env : FlipConditions)
      (scheduled gcOk : Bool)
  | copyRegion (screen : Nat) (draw : Drawable) (region : Int × Int → Bool) (dest source : Nat)
      (prime : Option (Option Target)) (gcOk : Bool)
  | render (bo : Nat) (cells : Int × Int → V)

/-- A swap is asked for with the front and the back buffer of a drawable, which DRI2 and the frame
event hold references on. -/
structure Swapping (s : Dri2State V) (draw : Drawable) (front back : Nat) : Prop where
  drawHeld : draw.pixmap ∈ s.held
  frontHeld : front ∈ s.refs
  backHeld : back ∈ s.refs
  frontLeft : (s.buffer front).attachment = dri2BufferFrontLeft
  backLeft : (s.buffer back).attachment = dri2BufferBackLeft

/-- And `DRI2CanFlip` says yes to windows that are all of the screen pixmap. -/
structure SwapPromised (s : Dri2State V) (draw : Drawable) (front back : Nat)
    (env : FlipConditions) : Prop extends Swapping s draw front back where
  whole : env.dri2CanFlip = true → draw.originX = 0 ∧ draw.originY = 0

/-- What the server keeps to: a drawable has a pixmap, and references are given back by those that
hold them. -/
def Promised (s : Dri2State V) : Dri2Act V → Prop
  | .createPixmap _ _ _ => True
  | .holdPixmap p => p ∈ s.held
  | .dropPixmap p => p ∈ s.held
  | .createBuffer _ draw _ _ _ => draw.pixmap ∈ s.held
  | .referenceBuffer b => b ∈ s.refs
  | .destroyBuffer b => b ∈ s.refs
  | .checkFlip draw front back env => SwapPromised s draw front back env
  | .frameEvent _ draw front back env _ _ => SwapPromised s draw front back env
  | .copyRegion _ draw _ dest source prime _ =>
      draw.pixmap ∈ s.held ∧ dest ∈ s.refs ∧ source ∈ s.refs ∧
        ∀ target ∈ prime.join, target.pixmap ∈ s.held
  | .render _ _ => True

instance (s : Dri2State V) (draw : Drawable) (front back : Nat) (env : FlipConditions) :
    Decidable (SwapPromised s draw front back env) :=
  decidable_of_iff
    (draw.pixmap ∈ s.held ∧ front ∈ s.refs ∧ back ∈ s.refs ∧
      (s.buffer front).attachment = dri2BufferFrontLeft ∧
      (s.buffer back).attachment = dri2BufferBackLeft ∧
      (env.dri2CanFlip = true → draw.originX = 0 ∧ draw.originY = 0))
    ⟨fun ⟨h1, h2, h3, h4, h5, h6⟩ => ⟨⟨h1, h2, h3, h4, h5⟩, h6⟩,
      fun ⟨⟨h1, h2, h3, h4, h5⟩, h6⟩ => ⟨h1, h2, h3, h4, h5, h6⟩⟩

instance (s : Dri2State V) (act : Dri2Act V) : Decidable (Promised s act) := by
  cases act <;> unfold Promised <;> infer_instance

def perform (s : Dri2State V) : Dri2Act V → Dri2State V
  | .createPixmap screen depth size =>
      { createPixmap s screen depth size with held := s.pixmaps.next ::ₘ s.held }
  | .holdPixmap p => { refPixmap s p with held := p ::ₘ s.held }
  | .dropPixmap p => { destroyPixmap s p with held := s.held.erase p }
  | .createBuffer screen draw attachment format answer =>
      (msDri2CreateBuffer2 s screen draw attachment format answer).1
  | .referenceBuffer b => msDri2ReferenceBuffer s b
  | .destroyBuffer b => msDri2DestroyBuffer2 s b
  | .checkFlip draw front back env => (canFlip s draw front back env).1
  | .frameEvent queueFlip draw front back env scheduled gcOk =>
      completeSwap s queueFlip draw front back env scheduled gcOk
  | .copyRegion screen draw region dest source prime gcOk =>
      msDri2CopyRegion2 s screen draw region dest source prime gcOk
  | .render bo cells => { s with cells := Function.update s.cells bo cells }

/-- One call.  The server makes the calls that it has promised to make. -/
def step (s : Dri2State V) (act : Dri2Act V) : Dri2State V :=
  if Promised s act then perform s act else s

end LoongsonVideo.Driver.Dri2Buffers
