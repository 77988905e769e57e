import LoongsonVideo.Driver.QueueVblank
import LoongsonVideo.Verified.Ledger
import LoongsonVideo.Verified.Pending

/-!
# DRI2 frame events

`src/dri2.c`: swaps and waits that are queued for a later vblank.  A
`ms_dri2_frame_event_rec` is the data of an entry of the DRM event queue, is linked
into a server resource of its client and one of its drawable, so that it hears
when either goes away, and holds a reference on the front and the back buffer of
a swap.

The queue is the table of outstanding requests that the list of `src/vblank.c`
refines to (`DrmQueueRun.table`), restricted to the frame events.  The kernel sends
an event only for a request it has taken (`kernelPending`).  While
`ms_queue_vblank` or `ms_do_pageflip` flushes, events are delivered and their
handlers run, which `Delivery` gives as a tree.  A flip is one entry of `flips` as
long as entries of its CRTCs are in the queue.

Records are numbered and never reused, so that the log names each allocation; the
fields of a freed record keep what they held.
-/

namespace LoongsonVideo.Driver.Dri2FrameEvent

open LoongsonVideo.Verified
open LoongsonVideo.Verified.Ledger
open LoongsonVideo.Driver.Msc
open LoongsonVideo.Driver.QueueVblank

/-- `enum ms_dri2_frame_event_type`. -/
inductive FrameEventType where
  | queueSwap
  | queueFlip
  | waitMsc
  deriving DecidableEq, Repr

/-- The two resource types: `frame_event_client_type` and
`frame_event_drawable_type`. -/
inductive Restype where
  | client
  | drawable
  deriving DecidableEq, Repr

/-- `ms_dri2_frame_event_rec`.  `link` is where the list node of a type
(`client_resource` or `drawable_resource`) is linked: on the list of the resource
with this id, or nowhere. -/
structure FrameEvent where
  drawable : Option Nat
  client : Option Nat
  type : FrameEventType
  front : Option Nat
  back : Option Nat
  link : Restype → Option Nat

/-- `ms_dri2_vblank_event`, the data of a flip. -/
structure FlipEvent where
  drawableId : Nat
  client : Option Nat
  deriving DecidableEq, Repr

/-- What a frame event acquires: its record and a reference on each buffer. -/
inductive Resource where
  | record (r : Nat)
  | front (r : Nat)
  | back (r : Nat)
  deriving DecidableEq, Repr

/-- The record a resource belongs to. -/
def Resource.of : Resource → Nat
  | .record r => r
  | .front r => r
  | .back r => r

/-- The data of a queue entry: its CRTC and its record. -/
structure QueueData where
  crtc : Nat
  record : Nat
  deriving DecidableEq, Repr

/-- Frame number and time as a completion reports them. -/
structure Stamp where
  frame : UInt32
  tvSec : UInt32
  tvUsec : UInt32
  deriving DecidableEq, Repr

def Stamp.of (msc usec : UInt64) : Stamp :=
  ⟨msc.toUInt32, (usec / 1000000).toUInt32, (usec % 1000000).toUInt32⟩

/-- `DRI2_BLIT_COMPLETE` and `DRI2_FLIP_COMPLETE`. -/
inductive SwapKind where
  | blit
  | flip
  deriving DecidableEq, Repr

/-- A call of `DRI2SwapComplete` or `DRI2WaitMSCComplete`. -/
inductive Reply where
  | swapComplete (client : Option Nat) (drawable : Nat) (stamp : Stamp) (kind : SwapKind)
  | waitMscComplete (client : Nat) (drawable : Nat) (stamp : Stamp)
  deriving DecidableEq, Repr

/-- What the DRI2 code works on.  `resources` are the lists of the server's
resources, `refcnt` the buffers' counts, `goneDrawables` the ids no longer known to
the server, `requests` what was asked of `ms_queue_vblank`. -/
structure Dri2State where
  queue : Pending QueueData
  kernelPending : List Nat
  queueSequence : QueueSequence
  msc : Nat → MscTrack
  records : Nat → FrameEvent
  nextRecord : Nat
  resources : Restype → Nat → Option (List Nat)
  refcnt : Nat → Int
  destroyed : List Nat
  flips : Pending FlipEvent
  goneDrawables : List Nat
  requests : List (QueueFlag × UInt64)
  replies : List Reply
  log : List (Act Resource)

namespace Dri2State

/-- Before the first call.  `records` is what the heap happens to hold. -/
def start (records : Nat → FrameEvent) (refcnt : Nat → Int) : Dri2State where
  queue := Pending.empty
  kernelPending := []
  queueSequence := QueueSequence.start
  msc := fun _ => MscTrack.zero
  records := records
  nextRecord := 0
  resources := fun _ _ => none
  refcnt := refcnt
  destroyed := []
  flips := Pending.empty
  goneDrawables := []
  requests := []
  replies := []
  log := []

def act (s : Dri2State) (a : Act Resource) : Dri2State := { s with log := a :: s.log }

/-- Touch several records. -/
def touchAll (s : Dri2State) (rs : List Nat) : Dri2State :=
  { s with log := rs.map (fun r => .touch (.record r)) ++ s.log }

def reply (s : Dri2State) (r : Reply) : Dri2State := { s with replies := r :: s.replies }

def setRecord (s : Dri2State) (r : Nat) (info : FrameEvent) : Dri2State :=
  { s with records := Function.update s.records r info }

def setResource (s : Dri2State) (type : Restype) (id : Nat) (list : Option (List Nat)) :
    Dri2State :=
  { s with
    resources := Function.update s.resources type
      (Function.update (s.resources type) id list) }

end Dri2State

/-! ## Resource lists -/

/-- The records next to `r` on a list. -/
def adjacent (r : Nat) : List Nat → List Nat
  | a :: b :: rest =>
      if a = r then [b] else if b = r then a :: rest.head?.toList else adjacent r (b :: rest)
  | _ => []

/-- Answers of the allocator and the server in `ms_get_resource`. -/
structure Registration where
  mallocOk : Bool
  addResourceOk : Bool
  deriving DecidableEq, Repr

/-- The list of a type and id is there, or can be made. -/
def Registration.succeeds (a : Registration) (list : Option (List Nat)) : Bool :=
  list.isSome || (a.mallocOk && a.addResourceOk)

/-- `ms_get_resource`; `false` is `NULL`. -/
def msGetResource (s : Dri2State) (id : Nat) (type : Restype) (a : Registration) :
    Dri2State × Bool :=
  match s.resources type id with
  | some _ => (s, true)
  | none =>
      if !a.mallocOk then (s, false)
      else if !a.addResourceOk then (s, false)
      else (s.setResource type id (some []), true)

/-- `xorg_list_add` of a record's node, at the head of a resource's list. -/
def xorgListAdd (s : Dri2State) (r : Nat) (type : Restype) (id : Nat) : Dri2State :=
  let list := (s.resources type id).getD []
  let info := s.records r
  (((s.touchAll list.head?.toList).act (.touch (.record r))).setRecord r
    { info with link := Function.update info.link type (some id) }).setResource type id
    (some (r :: list))

/-- `xorg_list_del` of a record's node, which leaves it linked to itself. -/
def xorgListDel (s : Dri2State) (r : Nat) (type : Restype) : Dri2State :=
  let s := s.act (.touch (.record r))
  let info := s.records r
  match info.link type with
  | none => s
  | some id =>
      let list := (s.resources type id).getD []
      ((s.touchAll (adjacent r list)).setRecord r
        { info with link := Function.update info.link type none }).setResource type id
        (some (list.filter (· ≠ r)))

/-- `ms_dri2_add_frame_event` of a record with this client and drawable. -/
def msDri2AddFrameEvent (s : Dri2State) (r client drawable : Nat)
    (registerClient registerDrawable : Registration) : Dri2State × Bool :=
  match msGetResource s client .client registerClient with
  | (s, false) => (s, false)
  | (s, true) =>
      match msGetResource (xorgListAdd s r .client client) drawable .drawable
          registerDrawable with
      | (s, false) => (xorgListDel s r .client, false)
      | (s, true) => (xorgListAdd s r .drawable drawable, true)

/-! ## Buffers -/

/-- `ms_dri2_reference_buffer`, for the reference `x`. -/
def msDri2ReferenceBuffer (s : Dri2State) (x : Resource) (buffer : Nat) : Dri2State :=
  ({ s with
      refcnt := Function.update s.refcnt buffer (s.refcnt buffer + 1) } : Dri2State).act
    (.acquire x)

/-- `ms_dri2_destroy_buffer`, for the reference `x`. -/
def msDri2DestroyBuffer (s : Dri2State) (x : Resource) (buffer : Nat) : Dri2State :=
  ({ s with
      refcnt := Function.update s.refcnt buffer (s.refcnt buffer - 1)
      destroyed :=
        if s.refcnt buffer - 1 = 0 then buffer :: s.destroyed
        else s.destroyed } : Dri2State).act
    (.release x)

/-- `if (info->front) ms_dri2_destroy_buffer(NULL, info->front)`, or the same for
`back`. -/
def dropBuffer (s : Dri2State) (x : Resource) : Option Nat → Dri2State
  | none => s
  | some buffer => msDri2DestroyBuffer s x buffer

/-- `ms_dri2_del_frame_event`. -/
def msDri2DelFrameEvent (s : Dri2State) (r : Nat) : Dri2State :=
  let s := xorgListDel (xorgListDel s r .client) r .drawable
  let s := dropBuffer s (.front r) (s.records r).front
  let s := dropBuffer s (.back r) (s.records r).back
  s.act (.release (.record r))

/-! ## Events -/

/-- What is decided outside when a flip is due: the checks of `can_flip`, the
allocation of the flip's event, the answer of `ms_do_pageflip`, and whether it leaves
entries of the flip in the queue when it fails: those of the CRTCs before the one it
failed at. -/
structure FlipOutcome where
  canFlip : Bool
  callocOk : Bool
  doPageflipOk : Bool
  halfQueued : Bool
  deriving DecidableEq, Repr

/-- `ms_dri2_schedule_flip`.  `flushed` is what happens while `ms_do_pageflip`
flushes events.  The last entry of a flip completes it, whatever the call returned. -/
def msDri2ScheduleFlip (s : Dri2State) (r : Nat) (drawable : Nat) (o : FlipOutcome)
    (flushed : Dri2State → Dri2State) : Dri2State × Bool :=
  if !o.callocOk then (s, false)
  else
    let event : FlipEvent := ⟨drawable, (s.records r).client⟩
    let s := flushed (s.act (.touch (.record r)))
    if o.doPageflipOk then ({ s with flips := s.flips.alloc event }, true)
    else if o.halfQueued then ({ s with flips := s.flips.alloc event }, false)
    else (s, false)

/-- The blit of a swap and its completion. -/
def blitSwap (s : Dri2State) (r : Nat) (drawable : Nat) (msc usec : UInt64) : Dri2State :=
  let s := s.act (.touch (.record r))
  s.reply (.swapComplete (s.records r).client drawable (Stamp.of msc usec) .blit)

/-- The `switch` of `ms_dri2_frame_event_handler`. -/
def completeFrameEvent (s : Dri2State) (r : Nat) (drawable : Nat) (msc usec : UInt64)
    (o : FlipOutcome) (flushed : Dri2State → Dri2State) : Dri2State :=
  match (s.records r).type with
  | .queueFlip =>
      if o.canFlip then
        match msDri2ScheduleFlip s r drawable o flushed with
        | (s, true) => s.act (.touch (.record r))
        | (s, false) => blitSwap s r drawable msc usec
      else blitSwap s r drawable msc usec
  | .queueSwap => blitSwap s r drawable msc usec
  | .waitMsc =>
      match (s.records r).client with
      | some client => s.reply (.waitMscComplete client drawable (Stamp.of msc usec))
      | none => s

/-- `ms_dri2_frame_event_handler`. -/
def msDri2FrameEventHandler (s : Dri2State) (r : Nat) (msc usec : UInt64) (o : FlipOutcome)
    (flushed : Dri2State → Dri2State) : Dri2State :=
  let s := s.act (.touch (.record r))
  match (s.records r).drawable with
  | none => msDri2DelFrameEvent s r
  | some drawable =>
      msDri2DelFrameEvent (completeFrameEvent s r drawable msc usec o flushed) r

/-- `ms_dri2_frame_event_abort`. -/
def msDri2FrameEventAbort (s : Dri2State) (r : Nat) : Dri2State := msDri2DelFrameEvent s r

/-- `ms_dri2_flip_handler`. -/
def msDri2FlipHandler (s : Dri2State) (event : FlipEvent) (msc ust : UInt64) : Dri2State :=
  if event.drawableId ∈ s.goneDrawables then s
  else s.reply (.swapComplete event.client event.drawableId (Stamp.of msc ust) .flip)

/-- Take the entry of an event out of the queue, `ms_drm_sequence_handler` up to the
call of the handler: the reconstructed count and the entry. -/
def unlinkEvent (s : Dri2State) (k : Nat) (q : QueueData) (frame : UInt64)
    (is64bit : Bool) : Dri2State × UInt64 :=
  let m := msKernelMscToCrtcMsc (s.msc q.crtc) frame is64bit
  ({ s with
      queue := s.queue.remove k
      msc := Function.update s.msc q.crtc m.2 },
    m.1)

/-- The kernel's event for a token leaves the kernel. -/
def leaveKernel (s : Dri2State) (k : Nat) : Dri2State :=
  { s with kernelPending := s.kernelPending.erase k }

/-- One event that is read: the vblank event of a token, with what happens during the
flip it may lead to, or the completion of a flip. -/
inductive Delivery where
  | vblank (k : Nat) (frame : UInt64) (is64bit : Bool) (usec : UInt64) (o : FlipOutcome)
      (flushed : List Delivery)
  | flip (k : Nat) (msc ust : UInt64)

mutual

/-- Delivery of one event. -/
def Delivery.deliver : Delivery → Dri2State → Dri2State
  | .vblank k frame is64bit usec o flushed, s =>
      if k ∈ s.kernelPending then
        match s.queue.find? k with
        | none => leaveKernel s k
        | some q =>
            let (s, msc) := unlinkEvent (leaveKernel s k) k q frame is64bit
            msDri2FrameEventHandler s q.record msc usec o (deliverAll flushed)
      else s
  | .flip k msc ust, s =>
      match s.flips.find? k with
      | none => s
      | some event => msDri2FlipHandler { s with flips := s.flips.remove k } event msc ust

/-- A flush: one event after the other. -/
def deliverAll : List Delivery → Dri2State → Dri2State
  | [], s => s
  | d :: ds, s => deliverAll ds (Delivery.deliver d s)

end

/-- `ms_drm_abort_seq`, or the step of `ms_drm_abort_scrn` for one entry. -/
def msDrmAbortSeq (s : Dri2State) (k : Nat) : Dri2State :=
  match s.queue.find? k with
  | none => s
  | some q => msDri2FrameEventAbort { s with queue := s.queue.remove k } q.record

/-- The abort of a flip, which ends in `ms_dri2_flip_abort`. -/
def abortFlip (s : Dri2State) (k : Nat) : Dri2State := { s with flips := s.flips.remove k }

/-! ## Scheduling -/

/-- A turn of the loop of `ms_queue_vblank`: the answers, and what is delivered by
the flush after an `EBUSY`. -/
structure QueueTurn where
  answer : QueueAnswer
  flushed : List Delivery

/-- The loop of `ms_queue_vblank`. -/
def msQueueVblank (s : Dri2State) (crtc seq : Nat) : List QueueTurn → Dri2State × QueueResult
  | [] => (s, .looping)
  | turn :: turns =>
      match queueRound s.queueSequence turn.answer with
      | (api, .queued kernelQueued is64bit) =>
          let m := msKernelMscToCrtcMsc (s.msc crtc) kernelQueued is64bit
          ({ s with
              queueSequence := api
              msc := Function.update s.msc crtc m.2
              kernelPending := seq :: s.kernelPending },
            .queued m.1)
      | (api, .check e) =>
          let s := { s with queueSequence := api }
          if e ≠ .ebusy then (msDrmAbortSeq s seq, .refused)
          else msQueueVblank (deliverAll turn.flushed s) crtc seq turns

/-- `ms_drm_queue_alloc` and then `ms_queue_vblank`, as both scheduling functions do in
each of their branches.  `none` is a failed allocation. -/
def queueFrameEvent (s : Dri2State) (r crtc : Nat) (flags : QueueFlag) (msc : UInt64)
    (allocOk : Bool) (turns : List QueueTurn) : Dri2State × Option QueueResult :=
  if !allocOk then (s, none)
  else
    let seq := s.queue.next
    let s := { s with
      queue := s.queue.alloc ⟨crtc, r⟩
      requests := (flags, msc) :: s.requests }
    let (s, result) := msQueueVblank s crtc seq turns
    (s, some result)

/-- The arguments both scheduling functions have, and the answers they meet.
`covering` is the CRTC of `ms_dri2_crtc_covering_drawable`. -/
structure Call where
  client : Nat
  draw : Nat
  covering : Option Nat
  callocOk : Bool
  registerClient : Registration
  registerDrawable : Registration
  getMsc : GetAnswer
  queueAllocOk : Bool
  turns : List QueueTurn
  targetMsc : UInt64
  divisor : UInt64
  remainder : UInt64

/-- A call of `ms_dri2_schedule_swap`. -/
structure SwapCall extends Call where
  front : Nat
  back : Nat
  canFlip : Bool

/-- A call of `ms_dri2_schedule_wait_msc`.  `stackMsc` is what the uninitialised
`current_msc` holds, which is read when the query fails. -/
structure WaitCall extends Call where
  stackMsc : UInt64

/-- `calloc` of a record and the stores into it. -/
def newRecord (s : Dri2State) (info : FrameEvent) : Dri2State :=
  (({ s with nextRecord := s.nextRecord + 1 } : Dri2State).act
    (.acquire (.record s.nextRecord))).setRecord s.nextRecord info

/-- `ms_get_crtc_ust_msc` on the state. -/
def getCrtcUstMsc (s : Dri2State) (crtc : Nat) (answer : GetAnswer) :
    Dri2State × Option UstMsc :=
  let (api, track, r) := msGetCrtcUstMsc s.queueSequence (s.msc crtc) answer
  ({ s with queueSequence := api, msc := Function.update s.msc crtc track }, r)

/-- `flip` as a number. -/
def flipDelay (flip : Bool) : UInt64 := if flip then 1 else 0

/-- The count `ms_dri2_schedule_swap` queues its event for. -/
def swapRequest (currentMsc targetMsc divisor remainder : UInt64) (flip : Bool) : UInt64 :=
  let targetMsc := if targetMsc > 0 then targetMsc - flipDelay flip else targetMsc
  if divisor = 0 ∨ currentMsc < targetMsc then
    if currentMsc ≥ targetMsc then currentMsc else targetMsc
  else
    let requestMsc := currentMsc - currentMsc % divisor + remainder
    let requestMsc := if requestMsc ≤ currentMsc then requestMsc + divisor else requestMsc
    requestMsc - flipDelay flip

/-- `blit_fallback`.  The swap is completed at once and `*target_msc` is zero. -/
def blitFallback (s : Dri2State) (c : SwapCall) (frameInfo : Option Nat) :
    Dri2State × Option UInt64 :=
  let s := s.reply (.swapComplete (some c.client) c.draw (Stamp.of 0 0) .blit)
  match frameInfo with
  | none => (s, some 0)
  | some r => (msDri2DelFrameEvent s r, some 0)

/-- `ms_dri2_schedule_swap` from the MSC query on, when the record is registered and
the buffers are referenced. -/
def swapFromQuery (s : Dri2State) (c : SwapCall) (crtc r : Nat) : Dri2State × Option UInt64 :=
  match getCrtcUstMsc s crtc c.getMsc with
  | (s, none) => blitFallback s c (some r)
  | (s, some current) =>
      let s :=
        if c.canFlip then
          (s.act (.touch (.record r))).setRecord r { s.records r with type := .queueFlip }
        else s
      match queueFrameEvent s r crtc ⟨false, !c.canFlip⟩
          (swapRequest current.msc c.targetMsc c.divisor c.remainder c.canFlip)
          c.queueAllocOk c.turns with
      | (s, some (.queued queuedMsc)) =>
          (s.act (.touch (.record r)), some (queuedMsc + flipDelay c.canFlip))
      | (s, some .looping) => (s, none)
      | (s, some .refused) => blitFallback s c (some r)
      | (s, none) => blitFallback s c (some r)

/-- `ms_dri2_schedule_swap`: the state afterwards and `*target_msc`, or `none` when the
call has not returned after the answers given. -/
def msDri2ScheduleSwap (s : Dri2State) (c : SwapCall) : Dri2State × Option UInt64 :=
  match c.covering with
  | none => blitFallback s c none
  | some crtc =>
      if !c.callocOk then blitFallback s c none
      else
        let r := s.nextRecord
        let s := newRecord s
          ⟨some c.draw, some c.client, .queueSwap, some c.front, some c.back, fun _ => none⟩
        match msDri2AddFrameEvent s r c.client c.draw c.registerClient
            c.registerDrawable with
        | (s, false) => blitFallback (s.act (.release (.record r))) c none
        | (s, true) =>
            let s := msDri2ReferenceBuffer s (.front r) c.front
            let s := msDri2ReferenceBuffer s (.back r) c.back
            swapFromQuery s c crtc r

/-- The count `ms_dri2_schedule_wait_msc` queues its event for. -/
def waitRequest (currentMsc targetMsc divisor remainder : UInt64) : UInt64 :=
  if divisor = 0 ∨ currentMsc < targetMsc then
    if currentMsc ≥ targetMsc then currentMsc else targetMsc
  else
    let requestMsc := currentMsc - currentMsc % divisor + remainder
    if currentMsc % divisor ≥ remainder then requestMsc + divisor else requestMsc

/-- `target_msc` after a refused request: only the first branch has changed it. -/
def waitTarget (currentMsc targetMsc divisor : UInt64) : UInt64 :=
  if (divisor = 0 ∨ currentMsc < targetMsc) ∧ currentMsc ≥ targetMsc then currentMsc
  else targetMsc

/-- `out_complete`. -/
def outComplete (s : Dri2State) (c : WaitCall) (targetMsc : UInt64) : Dri2State :=
  s.reply (.waitMscComplete c.client c.draw (Stamp.of targetMsc 0))

/-- `out_free`. -/
def outFree (s : Dri2State) (c : WaitCall) (r : Nat) (targetMsc : UInt64) : Dri2State :=
  outComplete (msDri2DelFrameEvent s r) c targetMsc

/-- `ms_dri2_schedule_wait_msc` from the MSC query on, when the record is registered. -/
def waitFromQuery (s : Dri2State) (c : WaitCall) (crtc r : Nat) : Dri2State :=
  let (s, current) := getCrtcUstMsc s crtc c.getMsc
  let currentMsc := (current.map UstMsc.msc).getD c.stackMsc
  match queueFrameEvent s r crtc ⟨false, false⟩
      (waitRequest currentMsc c.targetMsc c.divisor c.remainder) c.queueAllocOk c.turns with
  | (s, some (.queued _)) => s.act (.touch (.record r))
  | (s, some .looping) => s
  | (s, some .refused) => outFree s c r (waitTarget currentMsc c.targetMsc c.divisor)
  | (s, none) => outFree s c r c.targetMsc

/-- `ms_dri2_schedule_wait_msc`. -/
def msDri2ScheduleWaitMsc (s : Dri2State) (c : WaitCall) : Dri2State :=
  match c.covering with
  | none => outComplete s c c.targetMsc
  | some crtc =>
      if !c.callocOk then outComplete s c c.targetMsc
      else
        let r := s.nextRecord
        let s := newRecord s
          ⟨some c.draw, some c.client, .waitMsc, none, none, fun _ => none⟩
        match msDri2AddFrameEvent s r c.client c.draw c.registerClient
            c.registerDrawable with
        | (s, false) => outComplete (s.act (.release (.record r))) c c.targetMsc
        | (s, true) => waitFromQuery s c crtc r

/-! ## Clients and drawables that go away -/

/-- `info->client = NULL` or `info->drawable = NULL`. -/
def FrameEvent.forget (info : FrameEvent) : Restype → FrameEvent
  | .client => { info with client := none }
  | .drawable => { info with drawable := none }

/-- The loop of `ms_dri2_frame_event_client_gone` and
`ms_dri2_frame_event_drawable_gone`. -/
def frameEventGone (type : Restype) : List Nat → Dri2State → Dri2State
  | [], s => s
  | r :: rest, s =>
      let s := xorgListDel s r type
      frameEventGone type rest (s.setRecord r ((s.records r).forget type))

/-- The server frees the resource of a type and id, if there is one. -/
def freeResource (type : Restype) (s : Dri2State) (id : Nat) : Dri2State :=
  match s.resources type id with
  | none => s
  | some list => (frameEventGone type list s).setResource type id none

/-- A client exits: `ms_dri2_frame_event_client_gone`. -/
def msDri2FrameEventClientGone (s : Dri2State) (client : Nat) : Dri2State :=
  freeResource .client s client

/-- A drawable is destroyed: `ms_dri2_frame_event_drawable_gone`. -/
def msDri2FrameEventDrawableGone (s : Dri2State) (drawable : Nat) : Dri2State :=
  freeResource .drawable { s with goneDrawables := drawable :: s.goneDrawables } drawable

/-! ## Runs -/

/-- One thing that happens between calls of the server. -/
inductive Dri2Op where
  | scheduleSwap (call : SwapCall)
  | scheduleWaitMsc (call : WaitCall)
  | deliver (d : Delivery)
  | abort (k : Nat)
  | abortFlip (k : Nat)
  | clientGone (client : Nat)
  | drawableGone (drawable : Nat)

def dri2Step (s : Dri2State) : Dri2Op → Dri2State
  | .scheduleSwap call => (msDri2ScheduleSwap s call).1
  | .scheduleWaitMsc call => msDri2ScheduleWaitMsc s call
  | .deliver d => d.deliver s
  | .abort k => msDrmAbortSeq s k
  | .abortFlip k => abortFlip s k
  | .clientGone client => msDri2FrameEventClientGone s client
  | .drawableGone drawable => msDri2FrameEventDrawableGone s drawable

end LoongsonVideo.Driver.Dri2FrameEvent
