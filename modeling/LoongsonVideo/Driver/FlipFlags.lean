import LoongsonVideo.Verified.Machine
import LoongsonVideo.Verified.Pending
import Mathlib.Logic.Function.Basic

/-!
# The two flags of the flipping extensions

`ms_dri2_schedule_flip` (`src/dri2.c`), `ms_present_flip` and
`ms_present_unflip` (`src/present.c`) all flip through `ms_do_pageflip`
(`src/pageflip.c`).  `dri2_flipping` and `present_flipping` are to keep the two
extensions apart: each is tested by the other side before a flip, set after
`ms_do_pageflip` returned, and cleared by handlers of the event queue.

`PageFlip` follows one flip's memory and framebuffers.  This module follows the
flags, which needs the CRTCs of the entries and what runs inside a call.  While
the kernel rejects a request, `ms_do_pageflip` flushes events, and their
handlers may start further flips; so the calls that are in their loop form a
stack, and `step` is what happens next in the innermost one.

* `msDoPageflip`, `nextCrtc`, `crtcAccepted`, `crtcRejected`: a call, cut at its
  CRTCs.
* `msPageflipHandler`, `msPageflipAbort`: the callbacks of an entry.
* `flipReturned`: what the three callers do with the answer.

The kernel has at most one flip pending on a CRTC; it shows it at a vblank, and
its event can be read from then on.
-/

namespace LoongsonVideo.Driver.FlipFlags

open LoongsonVideo.Verified

/-- Which handlers `ms_do_pageflip` was given, and for `ms_present_flip_handler`
the `unflip` of its event. -/
inductive FlipOwner where
  | dri2
  | present (unflip : Bool)
  deriving DecidableEq, Repr

/-- `struct ms_flipdata`. -/
structure Flipdata where
  owner : FlipOwner
  flipCount : Int
  deriving DecidableEq, Repr

/-- An entry of the event queue: a `struct ms_crtc_pageflip` and its CRTC. -/
structure FlipEntry where
  crtc : Nat
  flipdata : Nat
  deriving DecidableEq, Repr

/-- `ms_do_pageflip` in its loop: the flip, the CRTCs still to come, and the
CRTC and token of the request the kernel has not answered yet. -/
structure FlipLoop where
  flipdata : Nat
  crtcs : List Nat
  asking : Option (Nat × Nat)
  deriving DecidableEq, Repr

/-- What is on the C stack.  `unflipNotify` is `present_event_notify` at the end
of `ms_present_unflip`. -/
inductive Call where
  | doPageflip (loop : FlipLoop)
  | unflipNotify
  deriving DecidableEq, Repr

/-- The screen.  `scanning` are the CRTC and token of the flips the kernel has
pending, `events` the tokens of the flip events to be read. -/
structure FlipScreen where
  dri2Flipping : Bool
  presentFlipping : Bool
  queue : Pending FlipEntry
  flips : Nat → Flipdata
  calls : Nat
  scanning : List (Nat × Nat)
  events : List Nat
  stack : List Call

/-- Before the first flip.  `flips` is what the heap happens to hold. -/
def FlipScreen.start : FlipScreen where
  dri2Flipping := false
  presentFlipping := false
  queue := Pending.empty
  flips := fun _ => ⟨.dri2, 0⟩
  calls := 0
  scanning := []
  events := []
  stack := []

def Call.flip? : Call → Option Nat
  | .doPageflip loop => some loop.flipdata
  | .unflipNotify => none

/-- The flips whose call of `ms_do_pageflip` has not returned. -/
def FlipScreen.inCall (s : FlipScreen) : List Nat := s.stack.filterMap Call.flip?

/-- Handlers run while no call is on the stack, while the innermost one flushes
events, and inside `present_event_notify`. -/
def FlipScreen.dispatching (s : FlipScreen) : Bool :=
  match s.stack with
  | [] => true
  | .doPageflip loop :: _ => loop.asking.isSome
  | .unflipNotify :: _ => true

/-! ## The callbacks of the queue -/

/-- Drop one reference; the flip is freed with the last one. -/
def dropReference (s : FlipScreen) (f : Nat) : FlipScreen :=
  { s with
    flips := Function.update s.flips f
      { s.flips f with flipCount := (s.flips f).flipCount - 1 } }

/-- `ms_dri2_flip_handler` and `ms_present_flip_handler`, as they act on the
flags.  The second one goes on to notify the server, and what that does are the
next steps. -/
def eventHandler (s : FlipScreen) : FlipOwner → FlipScreen
  | .dri2 => { s with dri2Flipping := false }
  | .present unflip => if unflip then { s with presentFlipping := false } else s

/-- `ms_dri2_flip_abort` and `ms_present_flip_abort`. -/
def abortHandler (s : FlipScreen) : FlipOwner → FlipScreen
  | .dri2 => { s with dri2Flipping := false }
  | .present _ => s

/-- `ms_pageflip_handler`. -/
def msPageflipHandler (s : FlipScreen) (f : Nat) : FlipScreen :=
  if (s.flips f).flipCount = 1 then dropReference (eventHandler s (s.flips f).owner) f
  else dropReference s f

/-- `ms_pageflip_abort`. -/
def msPageflipAbort (s : FlipScreen) (f : Nat) : FlipScreen :=
  if (s.flips f).flipCount = 1 then dropReference (abortHandler s (s.flips f).owner) f
  else dropReference s f

/-- `ms_drm_sequence_handler` on an entry of the flip code. -/
def msDrmSequenceHandler (s : FlipScreen) (k : Nat) : FlipScreen :=
  match s.queue.find? k with
  | none => s
  | some flip => msPageflipHandler { s with queue := s.queue.remove k } flip.flipdata

/-- `ms_drm_abort_seq`. -/
def msDrmAbortSeq (s : FlipScreen) (k : Nat) : FlipScreen :=
  match s.queue.find? k with
  | none => s
  | some flip => msPageflipAbort { s with queue := s.queue.remove k } flip.flipdata

/-- `ms_drm_abort_scrn`. -/
def msDrmAbortScrn (s : FlipScreen) : FlipScreen := s.queue.tokens.foldl msDrmAbortSeq s

/-! ## A call of `ms_do_pageflip` -/

/-- What `ms_dri2_schedule_flip`, `ms_present_flip` and `ms_present_unflip` do
with the answer of `ms_do_pageflip`.  The last one sets the modes again when it
is `FALSE`, and then notifies the server. -/
def flipReturned (s : FlipScreen) : FlipOwner → Bool → FlipScreen
  | .dri2, true => { s with dri2Flipping := true }
  | .present false, true => { s with presentFlipping := true }
  | .present true, false => { s with stack := .unflipNotify :: s.stack }
  | _, _ => s

/-- What `ms_do_pageflip` meets before its loop. -/
structure FlipSetup where
  gbmOk : Bool
  flipdataOk : Bool
  importOk : Bool
  deriving DecidableEq, Repr

/-- `ms_do_pageflip` up to its loop over `config->crtc`. -/
def msDoPageflip (crtcs : List Nat) (s : FlipScreen) (owner : FlipOwner)
    (setup : FlipSetup) : FlipScreen :=
  if setup.gbmOk && setup.flipdataOk && setup.importOk then
    { s with
      flips := Function.update s.flips s.calls ⟨owner, 1⟩
      calls := s.calls + 1
      stack := .doPageflip ⟨s.calls, crtcs, none⟩ :: s.stack }
  else flipReturned s owner false

/-- The call drops its own reference and returns. -/
def leaveLoop (s : FlipScreen) (f : Nat) (rest : List Call) : FlipScreen :=
  { s with
    flips := (dropReference s f).flips
    stack := rest }

/-- `error_out`, after the loop or from inside it. -/
def errorOut (s : FlipScreen) (f : Nat) (rest : List Call) : FlipScreen :=
  flipReturned (leaveLoop s f rest) (s.flips f).owner false

/-- The end of the loop. -/
def loopDone (s : FlipScreen) (f : Nat) (rest : List Call) : FlipScreen :=
  if 1 < (s.flips f).flipCount then
    flipReturned (leaveLoop s f rest) (s.flips f).owner true
  else errorOut s f rest

/-- What a CRTC's turn in the loop meets first: the CRTC is off, one of the two
allocations of `queue_flip_on_crtc` fails, or the request goes out. -/
inductive CrtcTurn where
  | off
  | noCarrier
  | noQueue
  | queued
  deriving DecidableEq, Repr

/-- A successful `ms_drm_queue_alloc` and the reference it takes. -/
def enterFlip (s : FlipScreen) (num f : Nat) : FlipScreen :=
  { s with
    queue := s.queue.alloc ⟨num, f⟩
    flips := Function.update s.flips f
      { s.flips f with flipCount := (s.flips f).flipCount + 1 } }

/-- The loop goes on: the turn of the next CRTC, or the end. -/
def nextCrtc (s : FlipScreen) (f : Nat) (rest : List Call) (turn : CrtcTurn) :
    List Nat → FlipScreen
  | [] => loopDone s f rest
  | num :: nums =>
      match turn with
      | .off => { s with stack := .doPageflip ⟨f, nums, none⟩ :: rest }
      | .noCarrier => errorOut s f rest
      | .noQueue => errorOut s f rest
      | .queued =>
          { enterFlip s num f with
            stack := .doPageflip ⟨f, nums, some (num, s.queue.next)⟩ :: rest }

/-- `drmmode_crtc_flip` succeeds.  The kernel never takes a second flip on a
CRTC while one is pending. -/
def crtcAccepted (s : FlipScreen) (f num k : Nat) (nums : List Nat) (rest : List Call) :
    FlipScreen :=
  if s.scanning.any (fun p => p.1 == num) then s
  else
    { s with
      scanning := (num, k) :: s.scanning
      stack := .doPageflip ⟨f, nums, none⟩ :: rest }

/-- `drmmode_crtc_flip` fails and there is nothing to flush. -/
def crtcRejected (s : FlipScreen) (f k : Nat) (rest : List Call) : FlipScreen :=
  errorOut (msDrmAbortSeq s k) f rest

/-! ## The three callers -/

/-- `can_flip`; `others` are its tests of the window, the buffers and the
screen. -/
def canFlip (s : FlipScreen) (others : Bool) : Bool := !s.presentFlipping && others

/-- `ms_dri2_schedule_flip`. -/
def msDri2ScheduleFlip (crtcs : List Nat) (s : FlipScreen) (eventOk : Bool)
    (setup : FlipSetup) : FlipScreen :=
  if eventOk then msDoPageflip crtcs s .dri2 setup else s

/-- `MS_DRI2_QUEUE_FLIP` in `ms_dri2_frame_event_handler`.  The other branch
copies the buffers. -/
def msDri2FrameEventHandler (crtcs : List Nat) (s : FlipScreen) (others eventOk : Bool)
    (setup : FlipSetup) : FlipScreen :=
  if canFlip s others then msDri2ScheduleFlip crtcs s eventOk setup else s

/-- `ms_present_check_unflip`; `others` are its tests of the CRTCs and the
pixmap. -/
def msPresentCheckUnflip (s : FlipScreen) (others : Bool) : Bool := !s.dri2Flipping && others

/-- `ms_present_check_flip`. -/
def msPresentCheckFlip (s : FlipScreen) (spritesVisible : Nat) (others : Bool) : Bool :=
  if 0 < spritesVisible then false else msPresentCheckUnflip s others

/-- `ms_present_flip`. -/
def msPresentFlip (crtcs : List Nat) (s : FlipScreen) (spritesVisible : Nat)
    (others eventOk : Bool) (setup : FlipSetup) : FlipScreen :=
  if !msPresentCheckFlip s spritesVisible others then s
  else if !eventOk then s
  else msDoPageflip crtcs s (.present false) setup

/-- `ms_present_unflip`. -/
def msPresentUnflip (crtcs : List Nat) (s : FlipScreen) (others eventOk : Bool)
    (setup : FlipSetup) : FlipScreen :=
  if !eventOk then s
  else if msPresentCheckUnflip s others then msDoPageflip crtcs s (.present true) setup
  else flipReturned s (.present true) false

/-- `present_event_notify` returns to `ms_present_unflip`. -/
def unflipNotified (s : FlipScreen) (rest : List Call) : FlipScreen :=
  { s with presentFlipping := false, stack := rest }

/-! ## Steps -/

/-- One thing that happens. -/
inductive FlipAct where
  | dri2FrameEvent (others eventOk : Bool) (setup : FlipSetup)
  | presentFlip (spritesVisible : Nat) (others eventOk : Bool) (setup : FlipSetup)
  | presentUnflip (others eventOk : Bool) (setup : FlipSetup)
  | loop (turn : CrtcTurn)
  | accepted
  | rejected
  | notified
  | vblank (num : Nat)
  | event (k : Nat)
  | abortSeq (k : Nat)
  | abortScrn
  deriving DecidableEq, Repr

/-- The kernel shows the flip pending on a CRTC. -/
def vblank (s : FlipScreen) (num : Nat) : FlipScreen :=
  { s with
    scanning := s.scanning.filter fun p => p.1 != num
    events := s.events ++ (s.scanning.filter fun p => p.1 == num).map Prod.snd }

/-- `drmHandleEvent` reads the event of a flip. -/
def readEvent (s : FlipScreen) (k : Nat) : FlipScreen :=
  if k ∈ s.events then msDrmSequenceHandler { s with events := s.events.erase k } k else s

/-- What the server and the handlers may call. -/
def dispatch (crtcs : List Nat) (s : FlipScreen) : FlipAct → FlipScreen
  | .dri2FrameEvent others eventOk setup => msDri2FrameEventHandler crtcs s others eventOk setup
  | .presentFlip spritesVisible others eventOk setup =>
      msPresentFlip crtcs s spritesVisible others eventOk setup
  | .presentUnflip others eventOk setup => msPresentUnflip crtcs s others eventOk setup
  | .event k => readEvent s k
  | .abortSeq k => msDrmAbortSeq s k
  | .abortScrn => msDrmAbortScrn s
  | _ => s

/-- One step.  Nothing happens when what runs does not allow it. -/
def step (crtcs : List Nat) (s : FlipScreen) : FlipAct → FlipScreen
  | .vblank num => vblank s num
  | .loop turn =>
      match s.stack with
      | .doPageflip ⟨f, nums, none⟩ :: rest => nextCrtc s f rest turn nums
      | _ => s
  | .accepted =>
      match s.stack with
      | .doPageflip ⟨f, nums, some (num, k)⟩ :: rest => crtcAccepted s f num k nums rest
      | _ => s
  | .rejected =>
      match s.stack with
      | .doPageflip ⟨f, _, some (_, k)⟩ :: rest => crtcRejected s f k rest
      | _ => s
  | .notified =>
      match s.stack with
      | .unflipNotify :: rest => unflipNotified s rest
      | _ => s
  | act => if s.dispatching then dispatch crtcs s act else s

end LoongsonVideo.Driver.FlipFlags
