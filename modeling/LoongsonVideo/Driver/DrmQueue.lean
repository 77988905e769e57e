import LoongsonVideo.Driver.Msc
import Mathlib.Data.List.Nodup

/-!
# The DRM event queue

`src/vblank.c` keeps one list of outstanding kernel requests for all screens.
A caller that is about to ask the kernel for an event enters a record with
`ms_drm_queue_alloc` and passes the returned `uint32_t` to the kernel as user
data; the kernel hands the number back with the event, and
`ms_drm_sequence_handler` finds the record by it.

The list is `xorg_list`, added to at the head and walked from the head, so it
is a `List` here, newest entry first.  An entry's two callbacks are fixed by
the record its `data` points to; the functions below return which of them is
called and with what, and the callers of this module say what the call does.

The four operations that look for one entry (`ms_drm_abort_seq`,
`ms_drm_abort` and the two event handlers) share the walk `takeFirst`: unlink
the first entry that matches, then stop.
-/

namespace LoongsonVideo.Driver.DrmQueue

open LoongsonVideo.Driver.Msc

/-- What the queue needs to know of an `xf86CrtcPtr`: which CRTC it is and
the screen it belongs to. -/
structure Crtc where
  id : Nat
  scrn : Nat
  deriving DecidableEq, Repr

/-- `struct ms_drm_queue`. -/
structure QueueEntry (δ : Type*) where
  seq : UInt32
  scrn : Nat
  crtc : Nat
  data : δ
  deriving DecidableEq, Repr

/-- The wakeup fields of `struct loongsonEntRec`, one record per device. -/
structure EntityWakeup where
  fdWakeupRegistered : Nat
  fdWakeupRef : Int
  deriving DecidableEq, Repr

/-- The state `src/vblank.c` works on: its two file-scope variables, the CRTCs'
tracking fields, the devices' wakeup fields and the device descriptors that
have a notify handler (with the screen passed to it). -/
structure Vblank (δ : Type*) where
  msDrmQueue : List (QueueEntry δ)
  msDrmSeq : UInt32
  msc : Nat → MscTrack
  entity : Nat → EntityWakeup
  notifyFd : Nat → Option Nat

variable {δ : Type*}

/-- Program start: an empty list, a zero counter, zeroed records. -/
def Vblank.start : Vblank δ where
  msDrmQueue := []
  msDrmSeq := 0
  msc := fun _ => MscTrack.zero
  entity := fun _ => ⟨0, 0⟩
  notifyFd := fun _ => none

/-- `ms_drm_queue_alloc`: enter a record, return its number, or `0` when the
allocation fails.  The counter skips `0`. -/
def msDrmQueueAlloc (v : Vblank δ) (crtc : Crtc) (data : δ) (callocOk : Bool) :
    Vblank δ × UInt32 :=
  if callocOk then
    let seq := if v.msDrmSeq = 0 then v.msDrmSeq + 1 else v.msDrmSeq
    ({ v with
        msDrmSeq := seq + 1
        msDrmQueue := ⟨seq, crtc.scrn, crtc.id, data⟩ :: v.msDrmQueue },
      seq)
  else (v, 0)

/-- Unlink the first entry that satisfies `p`. -/
def takeFirst (p : QueueEntry δ → Bool) :
    List (QueueEntry δ) → Option (QueueEntry δ × List (QueueEntry δ))
  | [] => none
  | q :: tmp =>
      if p q then some (q, tmp)
      else (takeFirst p tmp).map fun r => (r.1, q :: r.2)

/-- The loop of `ms_drm_abort_scrn`: every entry of the screen is unlinked and
its abort callback called, in list order. -/
def abortScrnLoop (scrn : Nat) :
    List (QueueEntry δ) → List (QueueEntry δ) × List δ
  | [] => ([], [])
  | q :: tmp =>
      let rest := abortScrnLoop scrn tmp
      if q.scrn = scrn then (rest.1, q.data :: rest.2)
      else (q :: rest.1, rest.2)

/-- `ms_drm_abort_scrn`: the queue afterwards and the aborted data. -/
def msDrmAbortScrn (v : Vblank δ) (scrn : Nat) : Vblank δ × List δ :=
  let rest := abortScrnLoop scrn v.msDrmQueue
  ({ v with msDrmQueue := rest.1 }, rest.2)

/-- The body `ms_drm_abort_seq` and `ms_drm_abort` share: `ms_drm_abort_one`
on the first match. -/
def abortFirst (v : Vblank δ) (p : QueueEntry δ → Bool) : Vblank δ × Option δ :=
  match takeFirst p v.msDrmQueue with
  | none => (v, none)
  | some (q, rest) => ({ v with msDrmQueue := rest }, some q.data)

/-- `ms_drm_abort_seq`.  The screen argument is not looked at. -/
def msDrmAbortSeq (v : Vblank δ) (_scrn : Nat) (seq : UInt32) :
    Vblank δ × Option δ :=
  abortFirst v fun q => q.seq == seq

/-- `ms_drm_abort` with a match callback on the entry's data. -/
def msDrmAbort (v : Vblank δ) (_scrn : Nat) (isMatch : δ → Bool) :
    Vblank δ × Option δ :=
  abortFirst v fun q => isMatch q.data

/-- A call of an entry's handler: `q->handler(msc, ns / 1000, q->data)`. -/
structure Firing (δ : Type*) where
  msc : UInt64
  usec : UInt64
  data : δ
  deriving DecidableEq, Repr

/-- `ms_drm_sequence_handler`: the queue after the entry is unlinked, and the
handler call that follows. -/
def msDrmSequenceHandler (v : Vblank δ) (frame ns : UInt64) (is64bit : Bool)
    (userData : UInt64) : Vblank δ × Option (Firing δ) :=
  let seq := userData.toUInt32
  match takeFirst (fun q => q.seq == seq) v.msDrmQueue with
  | none => (v, none)
  | some (q, rest) =>
      let m := msKernelMscToCrtcMsc (v.msc q.crtc) frame is64bit
      ({ v with
          msDrmQueue := rest
          msc := Function.update v.msc q.crtc m.2 },
        some ⟨m.1, ns / 1000, q.data⟩)

/-- The two forms in which the kernel reports an event. -/
inductive KernelEvent where
  | sequence (frame ns userData : UInt64)
  | classic (frame sec usec : UInt32) (userPtr : UInt64)
  deriving DecidableEq, Repr

/-- The queue number an event carries: its user data cut to 32 bits. -/
def KernelEvent.seq : KernelEvent → UInt32
  | .sequence _ _ userData => userData.toUInt32
  | .classic _ _ _ userPtr => userPtr.toUInt32

/-- `ms_drm_sequence_handler_64bit`. -/
def msDrmSequenceHandler64bit (v : Vblank δ) (frame ns userData : UInt64) :
    Vblank δ × Option (Firing δ) :=
  msDrmSequenceHandler v frame ns true userData

/-- `ms_drm_handler`, for classic vblank events and page flips. -/
def msDrmHandler (v : Vblank δ) (frame sec usec : UInt32) (userPtr : UInt64) :
    Vblank δ × Option (Firing δ) :=
  msDrmSequenceHandler v frame.toUInt64
    ((sec.toUInt64 * 1000000 + usec.toUInt64) * 1000) false
    userPtr.toUInt32.toUInt64

/-- `drmHandleEvent` with the event context `ms_vblank_screen_init` sets up. -/
def drmHandleEvent (v : Vblank δ) : KernelEvent → Vblank δ × Option (Firing δ)
  | .sequence frame ns userData => msDrmSequenceHandler64bit v frame ns userData
  | .classic frame sec usec userPtr => msDrmHandler v frame sec usec userPtr

/-- What the screen functions read of a `ScreenPtr`: the screen, its device
record and its descriptor. -/
structure Screen where
  scrn : Nat
  entity : Nat
  fd : Nat
  deriving DecidableEq, Repr

/-- `ms_vblank_screen_init`.  The list head is initialised on every call. -/
def msVblankScreenInit (v : Vblank δ) (screen : Screen) (serverGeneration : Nat) :
    Vblank δ :=
  let v := { v with msDrmQueue := [] }
  let e := v.entity screen.entity
  if serverGeneration ≠ e.fdWakeupRegistered then
    { v with
      notifyFd := Function.update v.notifyFd screen.fd (some screen.scrn)
      entity := Function.update v.entity screen.entity ⟨serverGeneration, 1⟩ }
  else
    { v with
      entity := Function.update v.entity screen.entity
        { e with fdWakeupRef := e.fdWakeupRef + 1 } }

/-- `ms_vblank_close_screen`: the queue afterwards and the aborted data. -/
def msVblankCloseScreen (v : Vblank δ) (screen : Screen) (serverGeneration : Nat) :
    Vblank δ × List δ :=
  let (v, aborted) := msDrmAbortScrn v screen.scrn
  let e := v.entity screen.entity
  if serverGeneration = e.fdWakeupRegistered then
    let e := { e with fdWakeupRef := e.fdWakeupRef - 1 }
    ({ v with
        entity := Function.update v.entity screen.entity e
        notifyFd :=
          if e.fdWakeupRef = 0 then Function.update v.notifyFd screen.fd none
          else v.notifyFd },
      aborted)
  else (v, aborted)

/-! ## What each operation does to the list -/

section Walk

variable {p : QueueEntry δ → Bool}

theorem takeFirst_eq_none {l : List (QueueEntry δ)} :
    takeFirst p l = none ↔ ∀ q ∈ l, p q = false := by
  induction l with
  | nil => simp [takeFirst]
  | cons q tmp ih =>
      by_cases hq : p q
      · simp [takeFirst, hq]
      · simp [takeFirst, hq, ih]

/-- The walk splits the list at the first match. -/
theorem takeFirst_eq_some {l rest : List (QueueEntry δ)} {q : QueueEntry δ}
    (h : takeFirst p l = some (q, rest)) :
    ∃ before after, l = before ++ q :: after ∧ rest = before ++ after ∧
      p q = true ∧ ∀ e ∈ before, p e = false := by
  induction l generalizing rest with
  | nil => simp [takeFirst] at h
  | cons e tmp ih =>
      by_cases he : p e
      · simp only [takeFirst, he, if_true, Option.some.injEq, Prod.mk.injEq] at h
        obtain ⟨rfl, rfl⟩ := h
        exact ⟨[], _, rfl, rfl, he, by simp⟩
      · simp only [takeFirst, he, Bool.false_eq_true, if_false,
          Option.map_eq_some_iff, Prod.mk.injEq] at h
        obtain ⟨⟨q', rest'⟩, hrec, rfl, rfl⟩ := h
        obtain ⟨before, after, rfl, hrest, hq, hbefore⟩ := ih hrec
        refine ⟨e :: before, after, rfl, congrArg (e :: ·) hrest, hq, ?_⟩
        intro x hx
        rcases List.mem_cons.mp hx with rfl | hx
        · simpa using he
        · exact hbefore x hx

theorem takeFirst_mem {l rest : List (QueueEntry δ)} {q : QueueEntry δ}
    (h : takeFirst p l = some (q, rest)) : q ∈ l ∧ p q = true := by
  obtain ⟨before, after, rfl, -, hq, -⟩ := takeFirst_eq_some h
  exact ⟨by simp, hq⟩

theorem takeFirst_perm {l rest : List (QueueEntry δ)} {q : QueueEntry δ}
    (h : takeFirst p l = some (q, rest)) : l.Perm (q :: rest) := by
  obtain ⟨before, after, rfl, rfl, -, -⟩ := takeFirst_eq_some h
  exact List.perm_middle

theorem takeFirst_sublist {l rest : List (QueueEntry δ)} {q : QueueEntry δ}
    (h : takeFirst p l = some (q, rest)) : rest.Sublist l := by
  obtain ⟨before, after, rfl, rfl, -, -⟩ := takeFirst_eq_some h
  exact List.Sublist.append_left (List.sublist_cons_self q after) before

end Walk

/-- `ms_drm_abort_scrn` keeps the other screens' entries, in order. -/
theorem abortScrnLoop_eq (scrn : Nat) (l : List (QueueEntry δ)) :
    abortScrnLoop scrn l =
      (l.filter (fun q => q.scrn ≠ scrn),
        (l.filter (fun q => q.scrn = scrn)).map QueueEntry.data) := by
  induction l with
  | nil => rfl
  | cons q tmp ih =>
      by_cases hq : q.scrn = scrn <;> simp [abortScrnLoop, ih, hq]

@[simp] theorem msVblankScreenInit_queue (v : Vblank δ) (screen : Screen) (gen : Nat) :
    (msVblankScreenInit v screen gen).msDrmQueue = [] := by
  simp only [msVblankScreenInit]
  split <;> rfl

@[simp] theorem msVblankScreenInit_seq (v : Vblank δ) (screen : Screen) (gen : Nat) :
    (msVblankScreenInit v screen gen).msDrmSeq = v.msDrmSeq := by
  simp only [msVblankScreenInit]
  split <;> rfl

@[simp] theorem msVblankCloseScreen_queue (v : Vblank δ) (screen : Screen) (gen : Nat) :
    (msVblankCloseScreen v screen gen).1.msDrmQueue =
      v.msDrmQueue.filter (fun q => q.scrn ≠ screen.scrn) := by
  by_cases hgen : gen = (v.entity screen.entity).fdWakeupRegistered <;>
    simp [msVblankCloseScreen, msDrmAbortScrn, abortScrnLoop_eq, hgen]

@[simp] theorem msVblankCloseScreen_seq (v : Vblank δ) (screen : Screen) (gen : Nat) :
    (msVblankCloseScreen v screen gen).1.msDrmSeq = v.msDrmSeq := by
  by_cases hgen : gen = (v.entity screen.entity).fdWakeupRegistered <;>
    simp [msVblankCloseScreen, msDrmAbortScrn, hgen]

@[simp] theorem msVblankCloseScreen_aborted (v : Vblank δ) (screen : Screen)
    (gen : Nat) :
    (msVblankCloseScreen v screen gen).2 =
      (v.msDrmQueue.filter (fun q => q.scrn = screen.scrn)).map QueueEntry.data := by
  by_cases hgen : gen = (v.entity screen.entity).fdWakeupRegistered <;>
    simp [msVblankCloseScreen, msDrmAbortScrn, abortScrnLoop_eq, hgen]

@[simp] theorem abortFirst_seq (v : Vblank δ) (p : QueueEntry δ → Bool) :
    (abortFirst v p).1.msDrmSeq = v.msDrmSeq := by
  unfold abortFirst
  split <;> rfl

theorem abortFirst_queue (v : Vblank δ) (p : QueueEntry δ → Bool) :
    (abortFirst v p).1.msDrmQueue =
        ((takeFirst p v.msDrmQueue).map Prod.snd).getD v.msDrmQueue ∧
      (abortFirst v p).2 = (takeFirst p v.msDrmQueue).map (fun r => r.1.data) := by
  unfold abortFirst
  cases h : takeFirst p v.msDrmQueue <;> simp

theorem msDrmSequenceHandler_queue (v : Vblank δ) (frame ns : UInt64) (is64bit : Bool)
    (userData : UInt64) :
    (msDrmSequenceHandler v frame ns is64bit userData).1.msDrmQueue =
        ((takeFirst (fun q => q.seq == userData.toUInt32) v.msDrmQueue).map Prod.snd).getD
          v.msDrmQueue ∧
      (msDrmSequenceHandler v frame ns is64bit userData).2.map Firing.data =
        (takeFirst (fun q => q.seq == userData.toUInt32) v.msDrmQueue).map
          (fun r => r.1.data) ∧
      (msDrmSequenceHandler v frame ns is64bit userData).1.msDrmSeq = v.msDrmSeq := by
  unfold msDrmSequenceHandler
  cases h : takeFirst (fun q => q.seq == userData.toUInt32) v.msDrmQueue <;> simp [h]

/-- An event of either form is the walk for its queue number. -/
theorem drmHandleEvent_queue (v : Vblank δ) (e : KernelEvent) :
    (drmHandleEvent v e).1.msDrmQueue =
        ((takeFirst (fun q => q.seq == e.seq) v.msDrmQueue).map Prod.snd).getD
          v.msDrmQueue ∧
      (drmHandleEvent v e).2.map Firing.data =
        (takeFirst (fun q => q.seq == e.seq) v.msDrmQueue).map (fun r => r.1.data) ∧
      (drmHandleEvent v e).1.msDrmSeq = v.msDrmSeq := by
  cases e with
  | sequence frame ns userData =>
      exact msDrmSequenceHandler_queue v frame ns true userData
  | classic frame sec usec userPtr =>
      have h := msDrmSequenceHandler_queue v frame.toUInt64
        ((sec.toUInt64 * 1000000 + usec.toUInt64) * 1000) false userPtr.toUInt32.toUInt64
      rw [UInt32.toUInt32_toUInt64] at h
      exact h

end LoongsonVideo.Driver.DrmQueue
