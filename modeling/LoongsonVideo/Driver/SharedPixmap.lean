import LoongsonVideo.Verified.Pending
import LoongsonVideo.Verified.Machine
import Mathlib.Logic.Function.Basic

/-!
# Flipping between two shared pixmaps

The sink side of PRIME, in `src/drmmode_display.c` and
`msSharedPixmapNotifyDamage` in `src/driver.c`.  A CRTC shows one of two pixmaps
shared with the master, which draws into the other.  `drmmode_SharedPixmapPresent`
asks the master to draw and flips; if there is nothing to draw it waits for
damage, else it tries again at the next vblank.  Each of these ends in an event
whose handler presents again, so the chain keeps itself going.

* `sharedPixmapPresent`, `sharedPixmapPresentOnVBlank`, `sharedPixmapFlip`: one
  turn of the chain.
* `sharedPixmapVBlankEventHandler`: the next turn.
* `initSharedPixmapFlipping` to `disableSharedPixmapFlipping`: start and stop.

The queue is the table of outstanding requests; what is in it here are the
entries of one CRTC's chain.  The master, the allocator and the kernel are
answers.  While a vblank request is rejected with `EBUSY` events are flushed,
and what that does is a function of the state, built from trees of deliveries at
the end of this module.

The log notes how many entries are outstanding after each one that is added, and
when flipping has been stopped.
-/

namespace LoongsonVideo.Driver.SharedPixmap

open LoongsonVideo.Verified

/-- `flip_seq` and `wait_for_damage` of a `msPixmapPrivRec`; no sequence is
`0`. -/
structure PixmapPriv where
  flipSeq : Option Nat
  waitForDamage : Bool
  deriving DecidableEq, Repr

/-- `struct vblank_event_args`. -/
structure VblankEventArgs where
  frontTarget : Nat
  backTarget : Option Nat
  flip : Bool
  deriving DecidableEq, Repr

/-- One line of the log. -/
inductive SinkLine where
  | queued (outstanding : Nat)
  | finished (outstanding : Nat)
  deriving DecidableEq, Repr

/-- A CRTC of the sink: the fields of `drmmode_crtc` the chain uses, the
pixmaps' private records, the entries, and the sequences of the requests the
kernel has taken. -/
structure Sink where
  queue : Pending VblankEventArgs
  submitted : List Nat
  priv : Nat → PixmapPriv
  primePixmap : Option Nat
  primePixmapBack : Option Nat
  enableFlipping : Bool
  flippingActive : Bool
  log : List SinkLine

/-- A CRTC that has not been used as a sink. -/
def Sink.start : Sink where
  queue := Pending.empty
  submitted := []
  priv := fun _ => ⟨none, false⟩
  primePixmap := none
  primePixmapBack := none
  enableFlipping := false
  flippingActive := false
  log := []

/-! ## The queue -/

def Sink.setFlipSeq (s : Sink) (ppix : Nat) (seq : Option Nat) : Sink :=
  { s with priv := Function.update s.priv ppix { s.priv ppix with flipSeq := seq } }

def Sink.setWait (s : Sink) (ppix : Nat) (wait : Bool) : Sink :=
  { s with priv := Function.update s.priv ppix { s.priv ppix with waitForDamage := wait } }

/-- `ms_drm_queue_alloc`, and its answer in `flip_seq` of the pixmap. -/
def enqueue (s : Sink) (ppix : Nat) (args : VblankEventArgs) (queueOk : Bool) : Sink :=
  if queueOk then
    { s.setFlipSeq ppix (some s.queue.next) with
      queue := s.queue.alloc args
      log := .queued (s.queue.entries.length + 1) :: s.log }
  else s.setFlipSeq ppix none

/-- `ms_drm_abort_seq` with `drmmode_SharedPixmapVBlankEventAbort`. -/
def msDrmAbortSeq (s : Sink) (seq : Option Nat) : Sink :=
  match seq with
  | none => s
  | some k =>
      match s.queue.find? k with
      | none => s
      | some args =>
          ({ s with queue := s.queue.remove k } : Sink).setFlipSeq args.frontTarget none

/-- `ms_drm_abort_scrn`. -/
def msDrmAbortScrn (s : Sink) : Sink :=
  s.queue.tokens.foldl (fun s k => msDrmAbortSeq s (some k)) s

/-- The kernel takes a request. -/
def submit (s : Sink) (seq : Option Nat) : Sink :=
  { s with submitted := seq.toList ++ s.submitted }

/-! ## One turn of the chain -/

/-- What `drmmode_SharedPixmapPresentOnVBlank` meets: the two allocations, the
flushes of `ms_queue_vblank`, one after each `EBUSY`, and the kernel's last
answer. -/
structure VBlankAnswer where
  argsOk : Bool
  queueOk : Bool
  flushes : List (Sink → Sink)
  accepted : Bool

/-- What `drmmode_SharedPixmapFlip` meets: the two allocations and
`drmModePageFlip`. -/
structure FlipAnswer where
  argsOk : Bool
  queueOk : Bool
  accepted : Bool
  deriving DecidableEq, Repr

/-- The master's `RequestSharedPixmapNotifyDamage`: there is none, it answers, or
it notifies before it answers. -/
inductive RequestAnswer where
  | missing
  | silent (ok : Bool)
  | notifies (vblank : VBlankAnswer) (ok : Bool)

/-- What `drmmode_SharedPixmapPresent` meets. -/
structure PresentAnswer where
  presented : Bool
  flip : FlipAnswer
  request : RequestAnswer
  vblank : VBlankAnswer

/-- `ms_queue_vblank`. -/
def msQueueVblank (s : Sink) (seq : Option Nat) (flushes : List (Sink → Sink))
    (accepted : Bool) : Sink × Bool :=
  let s := flushes.foldl (fun s flush => flush s) s
  if accepted then (submit s seq, true) else (msDrmAbortSeq s seq, false)

/-- `drmmode_SharedPixmapPresentOnVBlank`. -/
def sharedPixmapPresentOnVBlank (s : Sink) (ppix : Nat) (answer : VBlankAnswer) : Sink × Bool :=
  if some ppix = s.primePixmap then (s, false)
  else if some ppix ≠ s.primePixmapBack then (s, false)
  else if !answer.argsOk then (s, false)
  else
    let s := enqueue s ppix ⟨ppix, s.primePixmap, false⟩ answer.queueOk
    msQueueVblank s (s.priv ppix).flipSeq answer.flushes answer.accepted

/-- `drmmode_SharedPixmapFlip`. -/
def sharedPixmapFlip (s : Sink) (frontTarget : Nat) (answer : FlipAnswer) : Sink × Bool :=
  if !answer.argsOk then (s, false)
  else
    let s := enqueue s frontTarget ⟨frontTarget, s.primePixmap, true⟩ answer.queueOk
    let seq := (s.priv frontTarget).flipSeq
    if answer.accepted then (submit s seq, true) else (msDrmAbortSeq s seq, false)

/-- `msSharedPixmapNotifyDamage`. -/
def msSharedPixmapNotifyDamage (s : Sink) (ppix : Nat) (answer : VBlankAnswer) : Sink :=
  if !(s.priv ppix).waitForDamage then s
  else
    let s := s.setWait ppix false
    if s.primePixmap.isSome && s.primePixmapBack.isSome then
      (sharedPixmapPresentOnVBlank s ppix answer).1
    else s

/-- `drmmode_SharedPixmapPresent` after the master has failed to draw. -/
def waitOrRetry (s : Sink) (ppix : Nat) (request : RequestAnswer) (vblank : VBlankAnswer) :
    Sink × Bool :=
  match request with
  | .missing => sharedPixmapPresentOnVBlank s ppix vblank
  | .silent ok =>
      if ok then (s.setWait ppix true, true)
      else sharedPixmapPresentOnVBlank ((s.setWait ppix true).setWait ppix false) ppix vblank
  | .notifies notified ok =>
      let s := msSharedPixmapNotifyDamage (s.setWait ppix true) ppix notified
      if ok then (s, true)
      else sharedPixmapPresentOnVBlank (s.setWait ppix false) ppix vblank

/-- `drmmode_SharedPixmapPresent`. -/
def sharedPixmapPresent (s : Sink) (ppix : Nat) (answer : PresentAnswer) : Sink × Bool :=
  if answer.presented then
    match sharedPixmapFlip s ppix answer.flip with
    | (s, true) => (s, true)
    | (s, false) => sharedPixmapPresentOnVBlank s ppix answer.vblank
  else waitOrRetry s ppix answer.request answer.vblank

/-- `drmmode_SharedPixmapVBlankEventHandler`. -/
def sharedPixmapVBlankEventHandler (s : Sink) (args : VblankEventArgs)
    (answer : PresentAnswer) : Sink :=
  if args.flip then
    let s := { s with primePixmap := some args.frontTarget, primePixmapBack := args.backTarget }
    match args.backTarget with
    | none => s
    | some ppix => (sharedPixmapPresent s ppix answer).1
  else (sharedPixmapPresent s args.frontTarget answer).1

/-- An event for sequence `k` is read, which the kernel sends for requests it
has taken. -/
def readEvent (s : Sink) (k : Nat) (answer : PresentAnswer) : Sink :=
  if k ∈ s.submitted then
    match s.queue.find? k with
    | none => s
    | some args =>
        sharedPixmapVBlankEventHandler { s with queue := s.queue.remove k } args answer
  else s

/-! ## Start and stop -/

/-- `drmmode_InitSharedPixmapFlipping`. -/
def initSharedPixmapFlipping (s : Sink) (answer : PresentAnswer) : Sink × Bool :=
  if !s.enableFlipping then (s, false)
  else if s.flippingActive then (s, true)
  else
    match s.primePixmapBack with
    | none => (s, false)
    | some ppix =>
        let r := sharedPixmapPresent s ppix answer
        ({ r.1 with flippingActive := r.2 }, r.2)

/-- Abort the `flip_seq` of a scanout pixmap. -/
def abortFlipSeq (s : Sink) (target : Option Nat) : Sink :=
  match target with
  | none => s
  | some ppix => msDrmAbortSeq s (s.priv ppix).flipSeq

/-- `drmmode_FiniSharedPixmapFlipping`. -/
def finiSharedPixmapFlipping (s : Sink) : Sink :=
  if !s.flippingActive then s
  else
    let s := { s with flippingActive := false }
    let s := abortFlipSeq s s.primePixmap
    let s := abortFlipSeq s s.primePixmapBack
    { s with log := .finished s.queue.entries.length :: s.log }

/-- `drmmode_set_target_scanout_pixmap`, as it acts on the target. -/
def setTargetScanoutPixmap (ppix : Option Nat) (ok : Bool) : Option Nat :=
  if ok then ppix else none

/-- `drmmode_EnableSharedPixmapFlipping`; `frontOk` and `backOk` say whether the
targets could be set. -/
def enableSharedPixmapFlipping (s : Sink) (front back : Nat) (frontOk backOk : Bool) : Sink :=
  let s := { s with primePixmap := setTargetScanoutPixmap (some front) frontOk }
  if !frontOk then { s with enableFlipping := false }
  else
    let s := { s with primePixmapBack := setTargetScanoutPixmap (some back) backOk }
    if !backOk then { s with enableFlipping := false, primePixmap := none }
    else { s with enableFlipping := true }

/-- `drmmode_DisableSharedPixmapFlipping`. -/
def disableSharedPixmapFlipping (s : Sink) : Sink :=
  { finiSharedPixmapFlipping { s with enableFlipping := false } with
    primePixmap := none
    primePixmapBack := none }

/-- The end of a mode set in `drmmode_set_mode_major`. -/
def setModeMajor (s : Sink) (answer : PresentAnswer) : Sink :=
  if s.primePixmapBack.isSome then (initSharedPixmapFlipping s answer).1 else s

/-- The end of `drmmode_output_dpms`. -/
def outputDpms (s : Sink) (on : Bool) (answer : PresentAnswer) : Sink :=
  if !s.enableFlipping then s
  else if on then (initSharedPixmapFlipping s answer).1
  else finiSharedPixmapFlipping s

/-! ## Runs as trees -/

mutual

/-- The event of sequence `k` is read, and what its handler meets. -/
inductive EventTree where
  | read (k : Nat) (answer : PresentTree)

inductive PresentTree where
  | mk (presented : Bool) (flip : FlipAnswer) (request : RequestTree) (vblank : VBlankTree)

inductive RequestTree where
  | missing
  | silent (ok : Bool)
  | notifies (vblank : VBlankTree) (ok : Bool)

/-- Each flush is the events that are read in it. -/
inductive VBlankTree where
  | mk (argsOk queueOk : Bool) (flushes : List (List EventTree)) (accepted : Bool)

end

mutual

def EventTree.exec : EventTree → Sink → Sink
  | .read k answer, s => readEvent s k answer.answer

def execAll : List EventTree → Sink → Sink
  | [], s => s
  | tree :: trees, s => execAll trees (tree.exec s)

def flushesOf : List (List EventTree) → List (Sink → Sink)
  | [] => []
  | flush :: flushes => execAll flush :: flushesOf flushes

def PresentTree.answer : PresentTree → PresentAnswer
  | .mk presented flip request vblank => ⟨presented, flip, request.answer, vblank.answer⟩

def RequestTree.answer : RequestTree → RequestAnswer
  | .missing => .missing
  | .silent ok => .silent ok
  | .notifies vblank ok => .notifies vblank.answer ok

def VBlankTree.answer : VBlankTree → VBlankAnswer
  | .mk argsOk queueOk flushes accepted => ⟨argsOk, queueOk, flushesOf flushes, accepted⟩

end

/-- One thing that happens to the CRTC. -/
inductive SinkAct where
  | enable (front back : Nat) (frontOk backOk : Bool)
  | disable
  | modeSet (answer : PresentTree)
  | dpms (on : Bool) (answer : PresentTree)
  | notifyDamage (ppix : Nat) (answer : VBlankTree)
  | event (tree : EventTree)
  | abortSeq (k : Nat)
  | abortScrn

def step (s : Sink) : SinkAct → Sink
  | .enable front back frontOk backOk => enableSharedPixmapFlipping s front back frontOk backOk
  | .disable => disableSharedPixmapFlipping s
  | .modeSet answer => setModeMajor s answer.answer
  | .dpms on answer => outputDpms s on answer.answer
  | .notifyDamage ppix answer => msSharedPixmapNotifyDamage s ppix answer.answer
  | .event tree => tree.exec s
  | .abortSeq k => msDrmAbortSeq s (some k)
  | .abortScrn => msDrmAbortScrn s

end LoongsonVideo.Driver.SharedPixmap
