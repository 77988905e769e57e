import LoongsonVideo.Verified.Ledger
import LoongsonVideo.Verified.Pending

/-!
# Page flipping

`src/pageflip.c`.  One flip of the screen is one `ms_flipdata`, referenced by a
carrier (`ms_crtc_pageflip`) for each CRTC the flip was queued on and, while
`ms_do_pageflip` runs, by a local reference.  The carriers are the data of the
entries of the DRM event queue, which is here the table of outstanding requests
it refines to (`DrmQueueRun.table`); the carrier of an entry is named by the
entry's token.

* `msPageflipFree`, `msPageflipHandler`, `msPageflipAbort`: the two callbacks.
* `queueFlipOnCrtc`: queueing on one CRTC, with its retry loop.
* `msDoPageflip`: the whole call with its error labels.

What the code meets outside is a parameter: the answers of the allocator and
the kernel, and what happens while events are flushed or a handler is called,
which is a function of the state since both may re-enter this file.  The
handlers given to `ms_do_pageflip` act on a client state of any type.

The log records the acts on memory, framebuffers and buffer objects and the
calls of the handlers, newest first.
-/

namespace LoongsonVideo.Driver.PageFlip

open LoongsonVideo.Verified
open LoongsonVideo.Verified.Ledger

/-- `struct ms_flipdata`. -/
structure Flipdata (ε : Type*) where
  event : ε
  flipCount : Int
  feMsc : UInt64
  feUsec : UInt64
  oldFbId : Nat

/-- `struct ms_crtc_pageflip`. -/
structure Carrier where
  onReferenceCrtc : Bool
  flipdata : Nat
  deriving DecidableEq, Repr

/-- `event_handler` and `abort_handler`, as they act on what their owner
keeps. -/
structure FlipClient (ε σ : Type*) where
  eventHandler : UInt64 → UInt64 → ε → σ → σ
  abortHandler : ε → σ → σ

/-- What the flip code acquires.  A flip is named by the number of the
`ms_do_pageflip` call that made it. -/
inductive Resource where
  | newFront (f : Nat)
  | flipdata (f : Nat)
  | carrier (k : Nat)
  | fb (id : Nat)
  deriving DecidableEq, Repr

/-- One line of the log.  An abort notes the `flip_count` it finds. -/
inductive FlipLine where
  | act (a : Act Resource)
  | queued (f k : Nat) (onReference : Bool)
  | completed (f k : Nat) (onReference : Bool) (msc usec : UInt64)
  | aborted (f k : Nat) (onReference : Bool) (flipCount : Int)
  | eventHandler (f : Nat) (msc usec : UInt64)
  | abortHandler (f : Nat)
  | returned (f : Nat) (ok : Bool) (left : Nat)
  deriving DecidableEq, Repr

/-- What a line does to the resources. -/
def FlipLine.acts : FlipLine → List (Act Resource)
  | .act a => [a]
  | _ => []

def ledger (log : List FlipLine) : List (Act Resource) := log.flatMap FlipLine.acts

def Resource.fb? : Resource → Option Nat
  | .fb id => some id
  | _ => none

/-- The framebuffers the kernel has registered. -/
def registered (log : List FlipLine) : List Nat :=
  (held (ledger log)).filterMap Resource.fb?

/-- How the kernel numbers a new framebuffer: with an id that is not in use. -/
structure FbKernel where
  pick : List Nat → Nat
  fresh : ∀ used, pick used ∉ used

/-- The CRTCs of the screen, by their kernel index (`num` of
`drmmode_crtc_init`). -/
structure CrtcConfig where
  nums : List Nat
  nodup : nums.Nodup
  lt : ∀ num ∈ nums, num < 32

/-- The screen: the queue, `ms->drmmode.fb_id`, the flips, the number of calls
so far, the owners' state. -/
structure FlipState (ε σ : Type*) where
  queue : Pending Carrier
  fbId : Nat
  flips : Nat → Flipdata ε
  calls : Nat
  client : σ
  log : List FlipLine

variable {ε σ : Type*}

def FlipState.emit (s : FlipState ε σ) (line : FlipLine) : FlipState ε σ :=
  { s with log := line :: s.log }

def FlipState.act (s : FlipState ε σ) (a : Act Resource) : FlipState ε σ :=
  s.emit (.act a)

def FlipState.setFlip (s : FlipState ε σ) (f : Nat) (d : Flipdata ε) : FlipState ε σ :=
  { s with flips := Function.update s.flips f d }

/-- How many entries of flip `f` are outstanding. -/
def FlipState.outstanding (s : FlipState ε σ) (f : Nat) : Nat :=
  s.queue.requests.countP fun c => c.flipdata == f

/-- `drmmode_crtc_vblank_pipe`. -/
def drmmodeCrtcVblankPipe (crtcId : Nat) : UInt32 :=
  if 1 < crtcId then UInt32.ofNat crtcId <<< 1
  else if 0 < crtcId then 0x20000000
  else 0

/-- `drmModeRmFB`. -/
def drmModeRmFB (s : FlipState ε σ) (id : Nat) : FlipState ε σ := s.act (.release (.fb id))

/-- `drmmode_bo_destroy` on the `new_front_bo` of call `f`: a second time does
nothing, since the first one cleared `bo->gbm`. -/
def drmmodeBoDestroy (s : FlipState ε σ) (f : Nat) (gbm : Bool) : FlipState ε σ :=
  if gbm then s.act (.release (.newFront f)) else s

/-! ## The callbacks of the queue -/

/-- `ms_pageflip_free`. -/
def msPageflipFree (s : FlipState ε σ) (k : Nat) (flip : Carrier) : FlipState ε σ :=
  let f := flip.flipdata
  let s := (s.act (.touch (.carrier k))).act (.release (.carrier k))
  let n := (s.flips f).flipCount - 1
  let s := (s.setFlip f { s.flips f with flipCount := n }).act (.touch (.flipdata f))
  if 0 < n then s else s.act (.release (.flipdata f))

/-- The first lines of `ms_pageflip_handler`: the reference CRTC's event sets
the values that will be reported. -/
def recordReference (s : FlipState ε σ) (flip : Carrier) (msc ust : UInt64) :
    FlipState ε σ :=
  if flip.onReferenceCrtc then
    s.setFlip flip.flipdata { s.flips flip.flipdata with feMsc := msc, feUsec := ust }
  else s

/-- The call `flipdata->event_handler(ms, ...)`. -/
def callEventHandler (client : FlipClient ε σ) (s : FlipState ε σ) (f : Nat) :
    FlipState ε σ :=
  let d := s.flips f
  { s with
    client := client.eventHandler d.feMsc d.feUsec d.event s.client
    log := .eventHandler f d.feMsc d.feUsec :: s.log }

/-- `ms_pageflip_handler`.  `during` is what happens while `event_handler`
runs. -/
def msPageflipHandler (client : FlipClient ε σ) (during : FlipState ε σ → FlipState ε σ)
    (s : FlipState ε σ) (msc ust : UInt64) (k : Nat) (flip : Carrier) : FlipState ε σ :=
  let f := flip.flipdata
  let s := (s.act (.touch (.carrier k))).act (.touch (.flipdata f))
  let s := recordReference s flip msc ust
  let s :=
    if (s.flips f).flipCount = 1 then
      let s := during (callEventHandler client s f)
      drmModeRmFB (s.act (.touch (.flipdata f))) (s.flips f).oldFbId
    else s
  msPageflipFree s k flip

/-- The call `flipdata->abort_handler(ms, ...)`. -/
def callAbortHandler (client : FlipClient ε σ) (s : FlipState ε σ) (f : Nat) :
    FlipState ε σ :=
  { s with
    client := client.abortHandler (s.flips f).event s.client
    log := .abortHandler f :: s.log }

/-- `ms_pageflip_abort`. -/
def msPageflipAbort (client : FlipClient ε σ) (s : FlipState ε σ) (k : Nat)
    (flip : Carrier) : FlipState ε σ :=
  let f := flip.flipdata
  let s := (s.act (.touch (.carrier k))).act (.touch (.flipdata f))
  let s := if (s.flips f).flipCount = 1 then callAbortHandler client s f else s
  msPageflipFree s k flip

/-- The queue takes an entry out for its event. -/
def unlinkCompleted (s : FlipState ε σ) (k : Nat) (flip : Carrier) (msc usec : UInt64) :
    FlipState ε σ :=
  { s with
    queue := s.queue.remove k
    log := .completed flip.flipdata k flip.onReferenceCrtc msc usec :: s.log }

/-- The queue takes an entry out to abort it. -/
def unlinkAborted (s : FlipState ε σ) (k : Nat) (flip : Carrier) : FlipState ε σ :=
  { s with
    queue := s.queue.remove k
    log := .aborted flip.flipdata k flip.onReferenceCrtc
      (s.flips flip.flipdata).flipCount :: s.log }

/-- `ms_drm_abort_seq` on an entry of the flip code. -/
def msDrmAbortSeq (client : FlipClient ε σ) (s : FlipState ε σ) (k : Nat) :
    FlipState ε σ :=
  match s.queue.find? k with
  | none => s
  | some flip => msPageflipAbort client (unlinkAborted s k flip) k flip

/-- `ms_drm_abort_scrn`. -/
def msDrmAbortScrn (client : FlipClient ε σ) (s : FlipState ε σ) : FlipState ε σ :=
  s.queue.tokens.foldl (msDrmAbortSeq client) s

/-! ## Queueing -/

/-- What `queue_flip_on_crtc` meets on one CRTC: whether the CRTC is on, the two
allocations, the flushes that handled events (each after a rejected request),
and the kernel's last answer. -/
structure CrtcAnswer (ε σ : Type*) where
  crtcOn : Bool
  carrierOk : Bool
  queueOk : Bool
  flushes : List (FlipState ε σ → FlipState ε σ)
  accepted : Bool

/-- The retry loop: the kernel rejects, the flush handles events, and again. -/
def flushAndRetry (s : FlipState ε σ) : List (FlipState ε σ → FlipState ε σ) → FlipState ε σ
  | [] => s
  | flush :: flushes => flushAndRetry (flush s) flushes

/-- A successful `ms_drm_queue_alloc` for flip `f` and the reference it takes. -/
def enterFlip (s : FlipState ε σ) (f : Nat) (onReference : Bool) : FlipState ε σ :=
  let k := s.queue.next
  let s := s.act (.acquire (.carrier k))
  let s :=
    { s with
      queue := s.queue.alloc ⟨onReference, f⟩
      log := .queued f k onReference :: s.log }
  (s.setFlip f { s.flips f with flipCount := (s.flips f).flipCount + 1 }).act
    (.touch (.flipdata f))

/-- `queue_flip_on_crtc`. -/
def queueFlipOnCrtc (client : FlipClient ε σ) (s : FlipState ε σ) (num f : Nat)
    (refCrtcVblankPipe : Int) (answer : CrtcAnswer ε σ) : FlipState ε σ × Bool :=
  if !answer.carrierOk then (s, false)
  else
    let k := s.queue.next
    let onReference := drmmodeCrtcVblankPipe num == UInt32.ofInt refCrtcVblankPipe
    if !answer.queueOk then
      ((s.act (.acquire (.carrier k))).act (.release (.carrier k)), false)
    else
      let s := flushAndRetry (enterFlip s f onReference) answer.flushes
      if answer.accepted then (s, true)
      else (msDrmAbortSeq client s k, false)

/-- The loop of `ms_do_pageflip` over `config->crtc`. -/
def queueFlips (client : FlipClient ε σ) (f : Nat) (refCrtcVblankPipe : Int) :
    FlipState ε σ → List Nat → List (CrtcAnswer ε σ) → FlipState ε σ × Bool
  | s, num :: nums, answer :: answers =>
      if !answer.crtcOn then queueFlips client f refCrtcVblankPipe s nums answers
      else
        match queueFlipOnCrtc client s num f refCrtcVblankPipe answer with
        | (s, true) => queueFlips client f refCrtcVblankPipe s nums answers
        | (s, false) => (s, false)
  | s, _, _ => (s, true)

/-- The arguments of `ms_do_pageflip` the model needs, and the answers it gets
before the loop. -/
structure FlipCall (ε : Type*) where
  event : ε
  refCrtcVblankPipe : Int
  gbmOk : Bool
  flipdataOk : Bool
  importOk : Bool

/-- Return to the caller.  The log notes how many entries of the flip are still
outstanding. -/
def returnToCaller (s : FlipState ε σ) (f : Nat) (ok : Bool) : FlipState ε σ × Bool :=
  (s.emit (.returned f ok (s.outstanding f)), ok)

/-- The new `ms_flipdata`, with the local reference. -/
def openFlip (s : FlipState ε σ) (f : Nat) (event : ε) : FlipState ε σ :=
  (s.act (.acquire (.flipdata f))).setFlip f ⟨event, 1, 0, 0, s.fbId⟩

/-- A successful `drmmode_bo_import` into `ms->drmmode.fb_id`. -/
def drmmodeBoImport (kernel : FbKernel) (s : FlipState ε σ) : FlipState ε σ :=
  let id := kernel.pick (registered s.log)
  { s.act (.acquire (.fb id)) with fbId := id }

/-- Remove the new framebuffer and go back to the old id. -/
def takeBackFb (s : FlipState ε σ) (f : Nat) : FlipState ε σ :=
  { drmModeRmFB s s.fbId with fbId := (s.flips f).oldFbId }

/-- `error_undo`. -/
def errorUndo (s : FlipState ε σ) (f : Nat) : FlipState ε σ :=
  if (s.flips f).flipCount = 1 then takeBackFb s f else s

/-- Drop the local reference and go on. -/
def dropLocal (s : FlipState ε σ) (f : Nat) : FlipState ε σ :=
  (s.setFlip f { s.flips f with flipCount := (s.flips f).flipCount - 1 }).act
    (.touch (.flipdata f))

/-- `error_out`. -/
def errorOut (s : FlipState ε σ) (f : Nat) (gbm : Bool) : FlipState ε σ × Bool :=
  let s := drmmodeBoDestroy s f gbm
  let s :=
    if (s.flips f).flipCount = 1 then s.act (.release (.flipdata f))
    else dropLocal s f
  returnToCaller s f false

/-- `ms_do_pageflip`. -/
def msDoPageflip (kernel : FbKernel) (config : CrtcConfig) (client : FlipClient ε σ)
    (s : FlipState ε σ) (call : FlipCall ε) (answers : List (CrtcAnswer ε σ)) :
    FlipState ε σ × Bool :=
  let f := s.calls
  let s := { s with calls := f + 1 }
  if !call.gbmOk then returnToCaller s f false
  else
    let s := s.act (.acquire (.newFront f))
    if !call.flipdataOk then returnToCaller (drmmodeBoDestroy s f true) f false
    else
      let s := openFlip s f call.event
      if !call.importOk then errorOut s f true
      else
        match queueFlips client f call.refCrtcVblankPipe (drmmodeBoImport kernel s)
            config.nums answers with
        | (s, false) => errorOut (errorUndo s f) f true
        | (s, true) =>
            let s := drmmodeBoDestroy s f true
            if 1 < (s.flips f).flipCount then returnToCaller (dropLocal s f) f true
            else errorOut (errorUndo s f) f false

/-! ## What the functions do, by the reference count -/

section Specs

variable (s : FlipState ε σ) (k f : Nat) (flip : Carrier)

@[simp] theorem drmmodeBoDestroy_flips (gbm : Bool) :
    (drmmodeBoDestroy s f gbm).flips = s.flips := by
  cases gbm <;> rfl

@[simp] theorem drmmodeBoDestroy_queue (gbm : Bool) :
    (drmmodeBoDestroy s f gbm).queue = s.queue := by
  cases gbm <;> rfl

@[simp] theorem dropLocal_flips_self :
    (dropLocal s f).flips f =
      { s.flips f with flipCount := (s.flips f).flipCount - 1 } :=
  Function.update_self _ _ _

theorem dropLocal_flips_ne {g : Nat} (hne : g ≠ f) : (dropLocal s f).flips g = s.flips g :=
  Function.update_of_ne hne _ _

/-- The last reference: the flip is freed. -/
theorem msPageflipFree_last (h : (s.flips flip.flipdata).flipCount = 1) :
    msPageflipFree s k flip =
      ((((s.act (.touch (.carrier k))).act (.release (.carrier k))).setFlip flip.flipdata
        { s.flips flip.flipdata with flipCount := 0 }).act (.touch (.flipdata flip.flipdata))).act
        (.release (.flipdata flip.flipdata)) := by
  simp [msPageflipFree, FlipState.act, FlipState.emit, h]

/-- One of several references. -/
theorem msPageflipFree_shared (h : 1 < (s.flips flip.flipdata).flipCount) :
    msPageflipFree s k flip =
      (((s.act (.touch (.carrier k))).act (.release (.carrier k))).setFlip flip.flipdata
        { s.flips flip.flipdata with
          flipCount := (s.flips flip.flipdata).flipCount - 1 }).act
        (.touch (.flipdata flip.flipdata)) := by
  simp [msPageflipFree, FlipState.act, FlipState.emit, h]

theorem errorUndo_last (h : (s.flips f).flipCount = 1) :
    errorUndo s f = takeBackFb s f := by
  simp [errorUndo, h]

theorem errorUndo_shared (h : (s.flips f).flipCount ≠ 1) : errorUndo s f = s := by
  simp [errorUndo, h]

theorem errorOut_last (gbm : Bool) (h : (s.flips f).flipCount = 1) :
    errorOut s f gbm =
      (((drmmodeBoDestroy s f gbm).act (.release (.flipdata f))).emit
        (.returned f false (s.outstanding f)), false) := by
  simp [errorOut, h, returnToCaller, FlipState.outstanding, FlipState.act, FlipState.emit]

theorem errorOut_shared (gbm : Bool) (h : (s.flips f).flipCount ≠ 1) :
    errorOut s f gbm =
      ((dropLocal (drmmodeBoDestroy s f gbm) f).emit
        (.returned f false (s.outstanding f)), false) := by
  simp [errorOut, h, returnToCaller, FlipState.outstanding, FlipState.act, FlipState.emit,
    dropLocal, FlipState.setFlip]

end Specs

end LoongsonVideo.Driver.PageFlip
