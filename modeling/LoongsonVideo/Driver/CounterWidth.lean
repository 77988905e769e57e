import LoongsonVideo.Driver.QueueVblank
import Mathlib.Logic.Function.Basic

/-!
# The width of a kernel count

`ms_get_crtc_ust_msc` and `ms_queue_vblank` get a count either from a
`drmCrtc*Sequence` ioctl, with 64 bits, or from `drmWaitVBlank`, with 32, and tell
`ms_kernel_msc_to_crtc_msc` which.  `ms_queue_vblank` says so in each branch.
`ms_get_crtc_ust_msc` reads it off `has_queue_sequence`, which says what the device
has, not what this call has used.

A screen's calls are a tree: a flush inside `ms_queue_vblank` runs event handlers,
which may call both functions again.  The state keeps the conversions and the
queries that were made, and `width_exact_iff` reads the wrong conversions off the
queries.
-/

namespace LoongsonVideo.Driver.CounterWidth

open LoongsonVideo.Driver.Msc
open LoongsonVideo.Driver.QueueVblank

/-- The two ways to ask the kernel. -/
inductive KernelApi where
  | crtcSequence
  | waitVblank
  deriving DecidableEq, Repr

/-- A call of `ms_kernel_msc_to_crtc_msc`: its arguments, and the ioctl that
reported `sequence`. -/
structure Conversion where
  api : KernelApi
  crtc : Nat
  sequence : UInt64
  is64bit : Bool
  deriving DecidableEq, Repr

/-- The flags of a device and the tracking fields of its CRTCs.  `queries` are the
flags and answers each `ms_get_kernel_ust_msc` met, newest first as `conversions`. -/
structure ScreenVblank where
  queueSequence : QueueSequence
  msc : Nat → MscTrack
  queries : List (QueueSequence × GetAnswer)
  conversions : List Conversion

/-- A new screen. -/
def ScreenVblank.start : ScreenVblank := ⟨QueueSequence.start, fun _ => MscTrack.zero, [], []⟩

/-- The ioctl whose answer `ms_get_kernel_ust_msc` ends with. -/
def getApi (api : QueueSequence) (answer : GetAnswer) : KernelApi :=
  if api.asksSequence then
    match answer.getSequence with
    | .ok _ => .crtcSequence
    | .error e => if e.isMissing then .waitVblank else .crtcSequence
  else .waitVblank

/-- The ioctl whose answer a turn of `ms_queue_vblank` ends with. -/
def queueApi (api : QueueSequence) (answer : QueueAnswer) : KernelApi :=
  if api.asksSequence then
    match answer.queueSequence with
    | .ok _ => .crtcSequence
    | .error e => if e.isMissing then .waitVblank else .crtcSequence
  else .waitVblank

/-- A call of `ms_kernel_msc_to_crtc_msc` by one of the two functions. -/
def convert (s : ScreenVblank) (api : KernelApi) (crtc : Nat) (sequence : UInt64)
    (is64bit : Bool) : ScreenVblank × UInt64 :=
  let m := msKernelMscToCrtcMsc (s.msc crtc) sequence is64bit
  ({ s with
      msc := Function.update s.msc crtc m.2
      conversions := ⟨api, crtc, sequence, is64bit⟩ :: s.conversions },
    m.1)

/-- `ms_get_crtc_ust_msc` on a screen. -/
def getCrtcUstMsc (s : ScreenVblank) (crtc : Nat) (answer : GetAnswer) :
    ScreenVblank × Option UstMsc :=
  let api := getApi s.queueSequence answer
  let s := { s with queries := (s.queueSequence, answer) :: s.queries }
  match msGetKernelUstMsc s.queueSequence answer with
  | (flags, none) => ({ s with queueSequence := flags }, none)
  | (flags, some r) =>
      let m := convert { s with queueSequence := flags } api crtc r.msc flags.hasQueueSequence
      (m.1, some ⟨m.2, r.ust⟩)

/-- A call or an event on the screen.  `turns` are the turns of the loop of
`ms_queue_vblank`, each with the calls its flush leads to; `mscQueued` says whether
the caller asks for the count.  An event is converted by `ms_drm_sequence_handler`. -/
inductive VblankOp where
  | getUstMsc (crtc : Nat) (answer : GetAnswer)
  | queueVblank (crtc : Nat) (mscQueued : Bool) (turns : List (QueueAnswer × List VblankOp))
  | event (crtc : Nat) (frame : UInt64) (is64bit : Bool)

mutual

def VblankOp.exec : VblankOp → ScreenVblank → ScreenVblank
  | .getUstMsc crtc answer, s => (getCrtcUstMsc s crtc answer).1
  | .queueVblank crtc mscQueued turns, s => queueTurns crtc mscQueued turns s
  | .event crtc frame is64bit, s =>
      { s with
        msc := Function.update s.msc crtc
          (msKernelMscToCrtcMsc (s.msc crtc) frame is64bit).2 }

def execAll : List VblankOp → ScreenVblank → ScreenVblank
  | [], s => s
  | op :: ops, s => execAll ops (VblankOp.exec op s)

/-- The loop of `ms_queue_vblank`. -/
def queueTurns (crtc : Nat) (mscQueued : Bool) :
    List (QueueAnswer × List VblankOp) → ScreenVblank → ScreenVblank
  | [], s => s
  | turn :: turns, s => queueTurn crtc mscQueued turn (queueTurns crtc mscQueued turns) s

/-- One turn, and `next` after its flush. -/
def queueTurn (crtc : Nat) (mscQueued : Bool) :
    QueueAnswer × List VblankOp → (ScreenVblank → ScreenVblank) → ScreenVblank → ScreenVblank
  | (answer, flushed), next, s =>
      match queueRound s.queueSequence answer with
      | (flags, .queued kernelQueued is64bit) =>
          if mscQueued then
            (convert { s with queueSequence := flags } (queueApi s.queueSequence answer) crtc
              kernelQueued is64bit).1
          else { s with queueSequence := flags }
      | (flags, .check e) =>
          if e ≠ .ebusy then { s with queueSequence := flags }
          else next (execAll flushed { s with queueSequence := flags })

end

/-! ## The faithful functions -/

/-- The count `ms_get_kernel_ust_msc` reports is the one its last ioctl reported. -/
theorem getApi_reports {flags : QueueSequence} {answer : GetAnswer} {r : UstMsc}
    (h : (msGetKernelUstMsc flags answer).2 = some r) :
    match getApi flags answer with
    | .crtcSequence => ∃ reply, answer.getSequence = .ok reply ∧ r.msc = reply.msc
    | .waitVblank => ∃ reply, answer.waitVblank = .ok reply ∧
        r.msc = reply.sequence.toUInt64 := by
  have hvblank : ∀ {reply : Ioctl VblankReply}, getByVblank reply = some r →
      ∃ x, reply = .ok x ∧ r.msc = x.sequence.toUInt64 := by
    intro reply hreply
    cases reply with
    | ok x =>
        cases hreply
        exact ⟨x, rfl, rfl⟩
    | error e => cases hreply
  unfold msGetKernelUstMsc at h
  unfold getApi
  cases hasks : flags.asksSequence with
  | false =>
      rw [hasks] at h
      exact hvblank h
  | true =>
      rw [hasks] at h
      cases hget : answer.getSequence with
      | ok reply =>
          rw [hget] at h
          cases h
          exact ⟨reply, rfl, rfl⟩
      | error e =>
          rw [hget] at h
          cases hmissing : e.isMissing with
          | true =>
              simp only [hmissing, if_true] at h ⊢
              exact hvblank h
          | false => simp [hmissing] at h

/-- `getCrtcUstMsc` is `ms_get_crtc_ust_msc` on the flags and one CRTC's fields. -/
theorem getCrtcUstMsc_eq (s : ScreenVblank) (crtc : Nat) (answer : GetAnswer) :
    msGetCrtcUstMsc s.queueSequence (s.msc crtc) answer =
      ((getCrtcUstMsc s crtc answer).1.queueSequence, (getCrtcUstMsc s crtc answer).1.msc crtc,
        (getCrtcUstMsc s crtc answer).2) := by
  unfold msGetCrtcUstMsc getCrtcUstMsc
  cases hget : msGetKernelUstMsc s.queueSequence answer with
  | mk flags r =>
      cases r with
      | none => simp only [hget]
      | some r => simp [hget, convert]

/-! ## Which conversions are right -/

/-- The width is the one the ioctl has. -/
def Conversion.Exact (c : Conversion) : Prop := c.is64bit = true ↔ c.api = .crtcSequence

/-- The sequence ioctl has worked before, says this time that it is missing or that
its argument is invalid, and `drmWaitVBlank` answers. -/
def misreads (flags : QueueSequence) (answer : GetAnswer) : Bool :=
  match answer.getSequence, answer.waitVblank with
  | .error e, .ok _ => flags.hasQueueSequence && e.isMissing
  | _, _ => false

/-- A turn of `ms_queue_vblank` knows what it has used. -/
theorem queueRound_exact {flags flags' : QueueSequence} {answer : QueueAnswer}
    {kernelQueued : UInt64} {is64bit : Bool}
    (h : queueRound flags answer = (flags', .queued kernelQueued is64bit)) :
    is64bit = true ↔ queueApi flags answer = .crtcSequence := by
  have hvblank : ∀ {reply : Ioctl UInt32}, queueByVblank reply = .queued kernelQueued is64bit →
      is64bit = false := by
    intro reply hreply
    cases reply with
    | ok x =>
        cases hreply
        rfl
    | error e => cases hreply
  unfold queueRound at h
  unfold queueApi
  cases hasks : flags.asksSequence with
  | false =>
      simp only [hasks, Bool.false_eq_true, if_false, Prod.mk.injEq] at h
      simp [hvblank h.2]
  | true =>
      simp only [hasks, if_true] at h ⊢
      cases hqueue : answer.queueSequence with
      | ok n =>
          rw [hqueue] at h
          cases h
          simp
      | error e =>
          simp only [hqueue] at h
          cases hmissing : e.isMissing with
          | true =>
              simp only [hmissing, if_true, Prod.mk.injEq] at h ⊢
              simp [hvblank h.2]
          | false => simp [hmissing] at h

/-- Right so far exactly when no query so far was misread. -/
def Accounts (s : ScreenVblank) : Prop :=
  (∀ c ∈ s.conversions, c.Exact) ↔ ∀ q ∈ s.queries, misreads q.1 q.2 = false

theorem Accounts.congr {s t : ScreenVblank} (h : Accounts s) (hq : t.queries = s.queries)
    (hc : t.conversions = s.conversions) : Accounts t := by
  unfold Accounts
  rw [hq, hc]
  exact h

/-- A query that leads to a conversion is misread exactly when that is wrong. -/
theorem get_exact_iff {flags flags' : QueueSequence} {answer : GetAnswer} {r : UstMsc}
    (h : msGetKernelUstMsc flags answer = (flags', some r)) :
    (flags'.hasQueueSequence = true ↔ getApi flags answer = .crtcSequence) ↔
      misreads flags answer = false := by
  unfold msGetKernelUstMsc at h
  unfold getApi misreads
  cases hasks : flags.asksSequence with
  | false =>
      simp only [hasks, Bool.false_eq_true, if_false, Prod.mk.injEq] at h
      have hflag : flags.hasQueueSequence = false := by
        cases hhas : flags.hasQueueSequence with
        | false => rfl
        | true => simp [QueueSequence.asksSequence, hhas] at hasks
      rw [← h.1, hflag]
      cases answer.getSequence <;> cases answer.waitVblank <;> simp
  | true =>
      simp only [hasks, if_true] at h ⊢
      cases hget : answer.getSequence with
      | ok reply =>
          rw [hget] at h
          cases h
          simp
      | error e =>
          simp only [hget] at h
          cases hmissing : e.isMissing with
          | false => simp [hmissing] at h
          | true =>
              simp only [hmissing, if_true, Prod.mk.injEq] at h ⊢
              cases hwait : answer.waitVblank with
              | error e' =>
                  rw [hwait] at h
                  cases h.2
              | ok reply =>
                  rw [← h.1]
                  simp [hmissing]

/-- A query without a count is none that could be misread. -/
theorem get_none {flags flags' : QueueSequence} {answer : GetAnswer}
    (h : msGetKernelUstMsc flags answer = (flags', none)) : misreads flags answer = false := by
  unfold misreads
  cases hget : answer.getSequence with
  | ok reply => rfl
  | error e =>
      cases hwait : answer.waitVblank with
      | error e' => rfl
      | ok reply =>
          cases hmissing : e.isMissing with
          | false => simp [hmissing]
          | true =>
              unfold msGetKernelUstMsc at h
              cases hasks : flags.asksSequence <;>
                simp [hasks, hget, hmissing, hwait, getByVblank] at h

theorem getCrtcUstMsc_accounts {s : ScreenVblank} (h : Accounts s) (crtc : Nat)
    (answer : GetAnswer) : Accounts (getCrtcUstMsc s crtc answer).1 := by
  unfold getCrtcUstMsc
  cases hget : msGetKernelUstMsc s.queueSequence answer with
  | mk flags r =>
      cases r with
      | none =>
          simp only [hget]
          show (∀ c ∈ s.conversions, c.Exact) ↔
            ∀ q ∈ (s.queueSequence, answer) :: s.queries, misreads q.1 q.2 = false
          rw [List.forall_mem_cons, and_iff_right (get_none hget)]
          exact h
      | some r =>
          simp only [hget]
          show (∀ c ∈ Conversion.mk (getApi s.queueSequence answer) crtc r.msc
              flags.hasQueueSequence :: s.conversions, c.Exact) ↔
            ∀ q ∈ (s.queueSequence, answer) :: s.queries, misreads q.1 q.2 = false
          rw [List.forall_mem_cons, List.forall_mem_cons]
          exact and_congr (get_exact_iff hget) h

mutual

theorem VblankOp.exec_accounts : ∀ (op : VblankOp) {s : ScreenVblank}, Accounts s →
    Accounts (VblankOp.exec op s)
  | .getUstMsc crtc answer, s, h => by
      rw [VblankOp.exec]
      exact getCrtcUstMsc_accounts h crtc answer
  | .queueVblank crtc mscQueued turns, s, h => by
      rw [VblankOp.exec]
      exact queueTurns_accounts crtc mscQueued turns h
  | .event crtc frame is64bit, s, h => by
      rw [VblankOp.exec]
      exact h.congr rfl rfl

theorem execAll_accounts : ∀ (ops : List VblankOp) {s : ScreenVblank}, Accounts s →
    Accounts (execAll ops s)
  | [], s, h => by
      rw [execAll]
      exact h
  | op :: ops, s, h => by
      rw [execAll]
      exact execAll_accounts ops (VblankOp.exec_accounts op h)

theorem queueTurns_accounts (crtc : Nat) (mscQueued : Bool) :
    ∀ (turns : List (QueueAnswer × List VblankOp)) {s : ScreenVblank}, Accounts s →
      Accounts (queueTurns crtc mscQueued turns s)
  | [], s, h => by
      rw [queueTurns]
      exact h
  | turn :: turns, s, h => by
      rw [queueTurns]
      exact queueTurn_accounts crtc mscQueued turn
        (fun h' => queueTurns_accounts crtc mscQueued turns h') h

theorem queueTurn_accounts (crtc : Nat) (mscQueued : Bool) :
    ∀ (turn : QueueAnswer × List VblankOp) {next : ScreenVblank → ScreenVblank},
      (∀ {s}, Accounts s → Accounts (next s)) → ∀ {s : ScreenVblank}, Accounts s →
        Accounts (queueTurn crtc mscQueued turn next s)
  | (answer, flushed), next, hnext, s, h => by
      rw [queueTurn]
      cases hround : queueRound s.queueSequence answer with
      | mk flags result =>
          cases result with
          | queued kernelQueued is64bit =>
              have hexact : Conversion.Exact
                  ⟨queueApi s.queueSequence answer, crtc, kernelQueued, is64bit⟩ :=
                queueRound_exact hround
              cases mscQueued with
              | false => exact h.congr rfl rfl
              | true =>
                  show (∀ c ∈ Conversion.mk (queueApi s.queueSequence answer) crtc kernelQueued
                      is64bit :: s.conversions, c.Exact) ↔
                    ∀ q ∈ s.queries, misreads q.1 q.2 = false
                  rw [List.forall_mem_cons, and_iff_right hexact]
                  exact h
          | check e =>
              have hflags : Accounts { s with queueSequence := flags } := h.congr rfl rfl
              by_cases hbusy : e ≠ .ebusy
              · simp only [if_pos hbusy]
                exact hflags
              · simp only [if_neg hbusy]
                exact hnext (execAll_accounts flushed hflags)

end

/-- **The widths are right exactly when no query is misread**, whatever calls are
made, on whatever CRTCs and however nested. -/
theorem width_exact_iff (ops : List VblankOp) :
    (∀ c ∈ (execAll ops ScreenVblank.start).conversions, c.Exact) ↔
      ∀ q ∈ (execAll ops ScreenVblank.start).queries, misreads q.1 q.2 = false :=
  execAll_accounts ops (s := ScreenVblank.start) (by simp [Accounts, ScreenVblank.start])

/-- Two queries: the first is answered by `drmCrtcGetSequence`, the second by
`EINVAL` and then by `drmWaitVBlank`. -/
def crtcGoesOff : List VblankOp :=
  [.getUstMsc 0 ⟨.ok ⟨5000000000, 0⟩, .error .einval⟩,
    .getUstMsc 0 ⟨.error .einval, .ok ⟨705032705, 0, 0⟩⟩]

/-- **A short count is taken for a full one** after the sequence ioctl has worked once
and now fails, and the CRTC's count falls back by `2 ^ 32`. -/
theorem short_count_taken_for_full :
    ¬ (∀ c ∈ (execAll crtcGoesOff ScreenVblank.start).conversions, c.Exact) ∧
      ((execAll crtcGoesOff ScreenVblank.start).msc 0) = ⟨705032705, 0⟩ := by
  have hconv : (execAll crtcGoesOff ScreenVblank.start).conversions =
      [⟨.waitVblank, 0, 705032705, true⟩, ⟨.crtcSequence, 0, 5000000000, true⟩] := by decide
  refine ⟨fun h => ?_, by decide⟩
  rw [hconv] at h
  have hshort := h _ List.mem_cons_self
  exact absurd (hshort.mp rfl) (by decide)

end LoongsonVideo.Driver.CounterWidth
