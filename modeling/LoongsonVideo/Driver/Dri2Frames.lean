import LoongsonVideo.Driver.Dri2Buffers

/-!
# Swaps and their records

`src/dri2.c`: `ms_dri2_schedule_swap` makes a record of a swap that has to wait, takes a reference
on each of its buffers and asks the kernel for a vblank event.  The handler of the event, or the
abort callback, does the swap or drops it, gives the references back and frees the record.

While the kernel's queue is full the driver handles the events that have come, so handlers run
inside `ms_queue_vblank` and inside the flip of another handler.

A use of a record that has been freed sets `fault`, as a use of a buffer does.  The record of a
wait has no buffers and is not here.
-/

namespace LoongsonVideo.Driver.Dri2Frames

open LoongsonVideo.Driver.Dri2Buffers
open LoongsonVideo.Verified

/-! ## Data -/

/-- `ms_dri2_frame_event_rec` of a swap.  `queued` says that the kernel has taken its request, and
that neither the event nor an abort has come yet. -/
structure SwapInfo where
  front : Nat
  back : Nat
  queueFlip : Bool
  queued : Bool
  deriving DecidableEq, Repr

/-- The buffers, DRI2's own references on them, and the records of swaps. -/
structure FrameState (V : Type*) where
  store : Dri2State V
  dri2 : Multiset Nat
  frames : Pending SwapInfo

/-- The drawables at the time of a call, by their front buffers.  One that has gone is missing. -/
abbrev Windows := List (Nat × Drawable)

/-- An event for a record or its abort.  `flushed` is what is handled during `ms_do_pageflip`,
`scheduled` what `ms_dri2_schedule_flip` answers. -/
inductive FrameCall where
  | event (k : Nat) (env : FlipConditions) (flushed : List FrameCall) (scheduled gcOk : Bool)
  | abort (k : Nat)

/-- The answers in `ms_dri2_schedule_swap`, in the order in which it asks: a CRTC that covers the
drawable, `calloc`, `ms_dri2_add_frame_event`, `ms_get_crtc_ust_msc`, `ms_drm_queue_alloc` and
`ms_queue_vblank` with what it handles before it returns. -/
structure SwapAnswer where
  crtc : Bool
  callocOk : Bool
  registered : Bool
  mscOk : Bool
  seqOk : Bool
  flushed : List FrameCall
  queued : Bool
  gcOk : Bool

variable {V : Type*}

def FrameState.start (cells : Nat → Int × Int → V) : FrameState V := ⟨.start cells, 0, .empty⟩

def FrameState.fail (s : FrameState V) : FrameState V :=
  { s with store := { s.store with fault := true } }

/-- A record is read or written. -/
def FrameState.useFrame (s : FrameState V) (k : Nat) : FrameState V :=
  if (s.frames.find? k).isSome then s else s.fail

def FrameState.setQueued (s : FrameState V) (k : Nat) (queued : Bool) : FrameState V :=
  { s with frames := s.frames.modify k fun info => { info with queued := queued } }

/-! ## Records -/

/-- `ms_dri2_del_frame_event`. -/
def msDri2DelFrameEvent (s : FrameState V) (k : Nat) : FrameState V :=
  match s.frames.find? k with
  | none => s.fail
  | some info =>
      { s with
        store := msDri2DestroyBuffer2 (msDri2DestroyBuffer2 s.store info.front) info.back
        frames := s.frames.remove k }

/-- `ms_dri2_frame_event_abort`. -/
def msDri2FrameEventAbort (s : FrameState V) (k : Nat) : FrameState V := msDri2DelFrameEvent s k

/-- A blit for a record. -/
def FrameState.blit (s : FrameState V) (draw : Drawable) (front back : Nat) (gcOk : Bool) :
    FrameState V :=
  { s with store := msDri2BlitSwap s.store draw front back gcOk }

/-- The cases of the `switch` in `ms_dri2_frame_event_handler` for swaps.  The flip is asked for
between the check and the exchange. -/
def handleSwap (s : FrameState V) (k : Nat) (info : SwapInfo) (draw : Drawable)
    (env : FlipConditions) (flushed : FrameState V → FrameState V) (scheduled gcOk : Bool) :
    FrameState V :=
  if info.queueFlip then
    match canFlip s.store draw info.front info.back env with
    | (store, false) =>
        ({ s with store := store } : FrameState V).blit draw info.front info.back gcOk
    | (store, true) =>
        let s := flushed { s with store := store.use (store.buffer info.back).pixmap }
        let s := s.useFrame k
        if scheduled then
          { s with store := msDri2ExchangeBuffers s.store info.front info.back }
        else s.blit draw info.front info.back gcOk
  else s.blit draw info.front info.back gcOk

/-- `ms_dri2_frame_event_handler`.  The drawable is `NULL` when it has gone. -/
def msDri2FrameEventHandler (s : FrameState V) (k : Nat) (draw : Option Drawable)
    (env : FlipConditions) (flushed : FrameState V → FrameState V) (scheduled gcOk : Bool) :
    FrameState V :=
  match s.frames.find? k, draw with
  | none, _ => s.fail
  | some _, none => msDri2DelFrameEvent s k
  | some info, some draw =>
      msDri2DelFrameEvent (handleSwap s k info draw env flushed scheduled gcOk) k

/-- The call back from the queue: its entry leaves the queue first.  There is none for a record
that is not queued. -/
def FrameState.called (s : FrameState V) (k : Nat) (f : SwapInfo → FrameState V → FrameState V) :
    FrameState V :=
  match s.frames.find? k with
  | none => s
  | some info => if info.queued then f info (s.setQueued k false) else s

mutual

def FrameCall.perform (windows : Windows) : FrameCall → FrameState V → FrameState V
  | .event k env flushed scheduled gcOk, s =>
      s.called k fun info s =>
        msDri2FrameEventHandler s k (windows.lookup info.front) env (performAll windows flushed)
          scheduled gcOk
  | .abort k, s => s.called k fun _ s => msDri2FrameEventAbort s k

/-- A flush: one event after the other. -/
def performAll (windows : Windows) : List FrameCall → FrameState V → FrameState V
  | [], s => s
  | call :: calls, s => performAll windows calls (FrameCall.perform windows call s)

end

/-! ## Swaps -/

/-- `blit_fallback` of `ms_dri2_schedule_swap`. -/
def blitFallback (s : FrameState V) (draw : Drawable) (front back : Nat) (gcOk : Bool)
    (frameInfo : Option Nat) : FrameState V :=
  let s := s.blit draw front back gcOk
  match frameInfo with
  | none => s
  | some k => msDri2DelFrameEvent s k

/-- `ms_queue_vblank` when it returns.  A request that the kernel refuses ends with
`ms_drm_abort_seq`, which calls the abort callback. -/
def msQueueVblank (s : FrameState V) (k : Nat) (windows : Windows) (answer : SwapAnswer) :
    FrameState V × Bool :=
  let s := performAll windows answer.flushed s
  if answer.queued then (s.setQueued k true, true) else (msDri2FrameEventAbort s k, false)

/-- The record of a swap is made, and the references are taken. -/
def newFrame (s : FrameState V) (front back : Nat) : FrameState V :=
  { s with
    store := msDri2ReferenceBuffer (msDri2ReferenceBuffer s.store front) back
    frames := s.frames.alloc ⟨front, back, false, false⟩ }

/-- `frame_info->type = MS_DRI2_QUEUE_FLIP` when the swap can be a flip. -/
def markFlip (s : FrameState V) (k : Nat) (draw : Drawable) (front back : Nat)
    (env : FlipConditions) : FrameState V :=
  match canFlip s.store draw front back env with
  | (store, false) => { s with store := store }
  | (store, true) =>
      { s with
        store := store
        frames := s.frames.modify k fun info => { info with queueFlip := true } }

/-- `ms_dri2_schedule_swap`.  A record that could not be registered is freed at once. -/
def msDri2ScheduleSwap (s : FrameState V) (windows : Windows) (draw : Drawable) (front back : Nat)
    (env : FlipConditions) (answer : SwapAnswer) : FrameState V :=
  if !answer.crtc then blitFallback s draw front back answer.gcOk none
  else if !answer.callocOk then blitFallback s draw front back answer.gcOk none
  else if !answer.registered then blitFallback s draw front back answer.gcOk none
  else
    let k := s.frames.next
    let s := newFrame s front back
    if !answer.mscOk then blitFallback s draw front back answer.gcOk (some k)
    else
      let s := markFlip s k draw front back env
      if !answer.seqOk then blitFallback s draw front back answer.gcOk (some k)
      else
        match msQueueVblank s k windows answer with
        | (s, true) => s.useFrame k
        | (s, false) => blitFallback s draw front back answer.gcOk (some k)

/-! ## Calls -/

inductive FrameAct (V : Type*) where
  | createPixmap (screen depth : Nat) (size : Size)
  | holdPixmap (p : Nat)
  | dropPixmap (p : Nat)
  | createBuffer (screen : Nat) (draw : Drawable) (attachment format : Nat) (answer : CreateAnswer)
  | destroyBuffer (b : Nat)
  | scheduleSwap (windows : Windows) (draw : Drawable) (front back : Nat) (env : FlipConditions)
      (answer : SwapAnswer)
  | frameCall (windows : Windows) (call : FrameCall)
  | copyRegion (screen : Nat) (draw : Drawable) (region : Int × Int → Bool) (dest source : Nat)
      (prime : Option (Option Target)) (gcOk : Bool)
  | render (bo : Nat) (cells : Int × Int → V)

/-- A drawable that is there has a pixmap. -/
def WindowsHeld (s : FrameState V) (windows : Windows) : Prop :=
  ∀ window ∈ windows, window.2.pixmap ∈ s.store.held

/-- DRI2 asks for a swap with the front and the back buffer that it has of a drawable. -/
structure SwapAsked (s : FrameState V) (windows : Windows) (draw : Drawable) (front back : Nat) :
    Prop where
  windows : WindowsHeld s windows
  drawHeld : draw.pixmap ∈ s.store.held
  frontHeld : front ∈ s.dri2
  backHeld : back ∈ s.dri2
  frontLeft : (s.store.buffer front).attachment = dri2BufferFrontLeft
  backLeft : (s.store.buffer back).attachment = dri2BufferBackLeft

/-- What the server and DRI2 keep to: a drawable has a pixmap, and they give back the references
that they have.  Nothing is said of the driver's. -/
def Promised (s : FrameState V) : FrameAct V → Prop
  | .createPixmap _ _ _ => True
  | .holdPixmap p => p ∈ s.store.held
  | .dropPixmap p => p ∈ s.store.held
  | .createBuffer _ draw _ _ _ => draw.pixmap ∈ s.store.held
  | .destroyBuffer b => b ∈ s.dri2
  | .scheduleSwap windows draw front back _ _ => SwapAsked s windows draw front back
  | .frameCall windows _ => WindowsHeld s windows
  | .copyRegion _ draw _ dest source prime _ =>
      draw.pixmap ∈ s.store.held ∧ dest ∈ s.dri2 ∧ source ∈ s.dri2 ∧
        ∀ target ∈ prime.join, target.pixmap ∈ s.store.held
  | .render _ _ => True

instance (s : FrameState V) (windows : Windows) : Decidable (WindowsHeld s windows) :=
  inferInstanceAs (Decidable (∀ window ∈ windows, window.2.pixmap ∈ s.store.held))

instance (s : FrameState V) (windows : Windows) (draw : Drawable) (front back : Nat) :
    Decidable (SwapAsked s windows draw front back) :=
  decidable_of_iff
    (WindowsHeld s windows ∧ draw.pixmap ∈ s.store.held ∧ front ∈ s.dri2 ∧ back ∈ s.dri2 ∧
      (s.store.buffer front).attachment = dri2BufferFrontLeft ∧
      (s.store.buffer back).attachment = dri2BufferBackLeft)
    ⟨fun h => ⟨h.1, h.2.1, h.2.2.1, h.2.2.2.1, h.2.2.2.2.1, h.2.2.2.2.2⟩,
      fun h => ⟨h.windows, h.drawHeld, h.frontHeld, h.backHeld, h.frontLeft, h.backLeft⟩⟩

instance (s : FrameState V) : (act : FrameAct V) → Decidable (Promised s act)
  | .createPixmap _ _ _ => .isTrue trivial
  | .holdPixmap p => inferInstanceAs (Decidable (p ∈ s.store.held))
  | .dropPixmap p => inferInstanceAs (Decidable (p ∈ s.store.held))
  | .createBuffer _ draw _ _ _ => inferInstanceAs (Decidable (draw.pixmap ∈ s.store.held))
  | .destroyBuffer b => inferInstanceAs (Decidable (b ∈ s.dri2))
  | .scheduleSwap windows draw front back _ _ =>
      inferInstanceAs (Decidable (SwapAsked s windows draw front back))
  | .frameCall windows _ => inferInstanceAs (Decidable (WindowsHeld s windows))
  | .copyRegion _ draw _ dest source prime _ =>
      inferInstanceAs (Decidable (draw.pixmap ∈ s.store.held ∧ dest ∈ s.dri2 ∧ source ∈ s.dri2 ∧
        ∀ target ∈ prime.join, target.pixmap ∈ s.store.held))
  | .render _ _ => .isTrue trivial

def perform (s : FrameState V) : FrameAct V → FrameState V
  | .createPixmap screen depth size =>
      { s with store := Dri2Buffers.perform s.store (.createPixmap screen depth size) }
  | .holdPixmap p => { s with store := Dri2Buffers.perform s.store (.holdPixmap p) }
  | .dropPixmap p => { s with store := Dri2Buffers.perform s.store (.dropPixmap p) }
  | .createBuffer screen draw attachment format answer =>
      match msDri2CreateBuffer2 s.store screen draw attachment format answer with
      | (store, none) => { s with store := store }
      | (store, some b) => { s with store := store, dri2 := b ::ₘ s.dri2 }
  | .destroyBuffer b =>
      { s with store := msDri2DestroyBuffer2 s.store b, dri2 := s.dri2.erase b }
  | .scheduleSwap windows draw front back env answer =>
      msDri2ScheduleSwap s windows draw front back env answer
  | .frameCall windows call => call.perform windows s
  | .copyRegion screen draw region dest source prime gcOk =>
      { s with store := msDri2CopyRegion2 s.store screen draw region dest source prime gcOk }
  | .render bo cells => { s with store := Dri2Buffers.perform s.store (.render bo cells) }

/-- One call, as long as nothing has been used that is no longer there. -/
def step (s : FrameState V) (act : FrameAct V) : FrameState V :=
  if s.store.fault then s
  else if Promised s act then perform s act
  else s

end LoongsonVideo.Driver.Dri2Frames
