import LoongsonVideo.Driver.Msc

/-!
# Asking the kernel for vblanks

`ms_get_kernel_ust_msc`, `ms_get_crtc_ust_msc` and the body of the loop of
`ms_queue_vblank` in `src/vblank.c`.  Both ask with the `drmCrtc*Sequence` ioctls
as long as these have not proved missing, and with the older `drmWaitVBlank`
otherwise.  Two device flags remember what has been found out.

An ioctl's answer is a parameter.  The loop itself is written where its flush is,
since a flush runs the event handlers of the caller's file; `queueRound` is one
turn of it and `refuses` says, from the answers alone, that the loop ends with an
error.
-/

namespace LoongsonVideo.Driver.QueueVblank

open LoongsonVideo.Driver.Msc

/-- `errno` as far as the driver looks at it. -/
inductive Errno where
  | ebusy
  | enotty
  | einval
  | other (code : Nat)
  deriving DecidableEq, Repr

/-- What an ioctl answers. -/
inductive Ioctl (α : Type) where
  | ok (reply : α)
  | error (errno : Errno)
  deriving DecidableEq, Repr

/-- `ms_queue_flag`. -/
structure QueueFlag where
  relative : Bool
  nextOnMiss : Bool
  deriving DecidableEq, Repr

/-- `has_queue_sequence` and `tried_queue_sequence` of a device. -/
structure QueueSequence where
  hasQueueSequence : Bool
  triedQueueSequence : Bool
  deriving DecidableEq, Repr

/-- Nothing tried yet. -/
def QueueSequence.start : QueueSequence := ⟨false, false⟩

/-- The test before a `drmCrtc*Sequence` ioctl. -/
def QueueSequence.asksSequence (api : QueueSequence) : Bool :=
  api.hasQueueSequence || !api.triedQueueSequence

/-- The answer that makes the caller go on to `drmWaitVBlank`. -/
def Errno.isMissing (e : Errno) : Bool := e == .enotty || e == .einval

/-! ## The current count -/

/-- The reply of `drmCrtcGetSequence`. -/
structure SequenceReply where
  msc : UInt64
  ns : UInt64
  deriving DecidableEq, Repr

/-- The reply of `drmWaitVBlank`. -/
structure VblankReply where
  sequence : UInt32
  tvalSec : UInt64
  tvalUsec : UInt64
  deriving DecidableEq, Repr

/-- The answers of one `ms_get_kernel_ust_msc`, one for each ioctl it may make. -/
structure GetAnswer where
  getSequence : Ioctl SequenceReply
  waitVblank : Ioctl VblankReply
  deriving DecidableEq, Repr

/-- A count and its time. -/
structure UstMsc where
  msc : UInt64
  ust : UInt64
  deriving DecidableEq, Repr

/-- The `drmWaitVBlank` half of `ms_get_kernel_ust_msc`. -/
def getByVblank : Ioctl VblankReply → Option UstMsc
  | .ok r => some ⟨r.sequence.toUInt64, r.tvalSec * 1000000 + r.tvalUsec⟩
  | .error _ => none

/-- `ms_get_kernel_ust_msc`: the flags afterwards, and the kernel's count unless
`FALSE` is returned. -/
def msGetKernelUstMsc (api : QueueSequence) (answer : GetAnswer) :
    QueueSequence × Option UstMsc :=
  if api.asksSequence then
    match answer.getSequence with
    | .ok r => (⟨true, true⟩, some ⟨r.msc, r.ns / 1000⟩)
    | .error e =>
        if e.isMissing then
          ({ api with triedQueueSequence := true }, getByVblank answer.waitVblank)
        else (⟨true, true⟩, none)
  else (api, getByVblank answer.waitVblank)

/-- `ms_get_crtc_ust_msc`: the flags and the CRTC's tracking fields afterwards,
and the count unless `BadMatch` is returned. -/
def msGetCrtcUstMsc (api : QueueSequence) (track : MscTrack) (answer : GetAnswer) :
    QueueSequence × MscTrack × Option UstMsc :=
  match msGetKernelUstMsc api answer with
  | (api, none) => (api, track, none)
  | (api, some r) =>
      let m := msKernelMscToCrtcMsc track r.msc api.hasQueueSequence
      (api, m.2, some ⟨m.1, r.ust⟩)

/-! ## Queueing an event -/

/-- The answers of one turn of the loop of `ms_queue_vblank`: the count the event
is queued for, or the error. -/
structure QueueAnswer where
  queueSequence : Ioctl UInt64
  waitVblank : Ioctl UInt32
  deriving DecidableEq, Repr

/-- How a turn ends: the kernel took the request, or the turn is at `check` with
`errno` set. -/
inductive RoundResult where
  | queued (kernelQueued : UInt64) (is64bit : Bool)
  | check (errno : Errno)
  deriving DecidableEq, Repr

/-- The `drmWaitVBlank` half of a turn. -/
def queueByVblank : Ioctl UInt32 → RoundResult
  | .ok sequence => .queued sequence.toUInt64 false
  | .error e => .check e

/-- One turn of the loop of `ms_queue_vblank`, up to `check`. -/
def queueRound (api : QueueSequence) (answer : QueueAnswer) : QueueSequence × RoundResult :=
  if api.asksSequence then
    match answer.queueSequence with
    | .ok kernelQueued => (⟨true, true⟩, .queued kernelQueued true)
    | .error e =>
        if e.isMissing then
          ({ api with triedQueueSequence := true }, queueByVblank answer.waitVblank)
        else (⟨true, true⟩, .check e)
  else (api, queueByVblank answer.waitVblank)

/-- What `ms_queue_vblank` returns: `TRUE` with the queued count, or `FALSE`.
`looping` stands for a call that has not returned after the answers given. -/
inductive QueueResult where
  | queued (mscQueued : UInt64)
  | refused
  | looping
  deriving DecidableEq, Repr

/-- The kernel ends the loop with an error: the first answer that is not `EBUSY`
is one. -/
def refuses : QueueSequence → List QueueAnswer → Bool
  | _, [] => false
  | api, answer :: answers =>
      match queueRound api answer with
      | (_, .queued _ _) => false
      | (api, .check e) => if e = .ebusy then refuses api answers else true

end LoongsonVideo.Driver.QueueVblank
