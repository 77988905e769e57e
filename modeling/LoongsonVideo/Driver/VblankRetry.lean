import LoongsonVideo.Driver.QueueVblank
import LoongsonVideo.Verified.Pending
import LoongsonVideo.Verified.Retry
import Mathlib.Logic.Function.Basic
import Mathlib.Logic.Relation

/-!
# Retrying a vblank request

The loop of `ms_queue_vblank` in `src/vblank.c`, the flush of events in between
(`ms_flush_drm_events` in `src/pageflip.c`) and the loop of `queue_flip_on_crtc` beside it.  A
request that is answered `EBUSY` is made again after a flush.  The flip loop gives up when the
flush has handled nothing, the vblank loop does not look.

The queue is the table of outstanding requests (`DrmQueueRun.table`).  What the kernel answers is
a parameter.  The callbacks of the entries are any functions of the state that work on the queue
through its own functions and add no event (`Client`): they may re-enter this code.

* `Steps.entered`: an entry waits, or was aborted once, whatever the callbacks do.
* `queueVblank_result`: what the loop has done when it returns.
* `queueVblank_returns_iff`: when it returns in time.
* `queueFlip_returns`: the flip loop always does.
-/

namespace LoongsonVideo.Driver.VblankRetry

open LoongsonVideo.Driver.Msc
open LoongsonVideo.Driver.QueueVblank
open LoongsonVideo.Verified
open LoongsonVideo.Verified.Retry
open Relation (ReflTransGen)

/-! ## The queue and the kernel's events -/

/-- An entry's CRTC and its `data`. -/
structure VblankEntry (δ : Type*) where
  crtc : Nat
  data : δ

/-- An event of the kernel, for the entry `seq`. -/
structure VblankEvent where
  seq : Nat
  frame : UInt64
  ns : UInt64
  is64bit : Bool
  deriving DecidableEq, Repr

/-- One line of the log: a callback of an entry is called. -/
inductive QueueLine where
  | handled (seq : Nat)
  | aborted (seq : Nat)
  deriving DecidableEq, Repr

/-- The entry of a line. -/
def QueueLine.seq : QueueLine → Nat
  | .handled seq => seq
  | .aborted seq => seq

/-- The device: the queue, the flags, the CRTCs' tracking fields, the events that the kernel has
not delivered, those that `drmHandleEvent` has read, what the owners of the entries keep, and the
log, newest line first. -/
structure Device (δ σ : Type*) where
  queue : Pending (VblankEntry δ)
  api : QueueSequence
  msc : Nat → MscTrack
  undelivered : List VblankEvent
  delivered : List VblankEvent
  client : σ
  log : List QueueLine

variable {δ σ : Type*}

/-- `ms_drm_queue_alloc`, when it succeeds.  The new entry is `s.queue.next`. -/
def Device.alloc (s : Device δ σ) (entry : VblankEntry δ) : Device δ σ :=
  { s with queue := s.queue.alloc entry }

/-- `ms_drm_abort_one` takes an entry out. -/
def Device.unlink (s : Device δ σ) (seq : Nat) : Device δ σ :=
  { s with queue := s.queue.remove seq, log := .aborted seq :: s.log }

/-- `read` in `drmHandleEvent`, when `n` events fit into its buffer. -/
def Device.readEvents (s : Device δ σ) (n : Nat) : Device δ σ :=
  { s with
    undelivered := s.undelivered.drop n
    delivered := s.undelivered.take n ++ s.delivered }

/-- `ms_drm_sequence_handler` up to the handler: the count and the entry it is called with. -/
def Device.dispatch (s : Device δ σ) (e : VblankEvent) :
    Device δ σ × Option (UInt64 × VblankEntry δ) :=
  match s.queue.find? e.seq with
  | none => (s, none)
  | some entry =>
      let m := msKernelMscToCrtcMsc (s.msc entry.crtc) e.frame e.is64bit
      ({ s with
          queue := s.queue.remove e.seq
          msc := Function.update s.msc entry.crtc m.2
          log := .handled e.seq :: s.log },
        some (m.1, entry))

/-- One step of code that works on the queue through its functions.  What is not of the queue
may change in any way, except that the flags stay once they are known, and no event is added. -/
inductive Step : Device δ σ → Device δ σ → Prop where
  | own (s : Device δ σ) (api : QueueSequence) (msc : Nat → MscTrack) (client : σ)
      (h : s.api.triedQueueSequence → api = s.api) :
      Step s { s with api := api, msc := msc, client := client }
  | alloc (s : Device δ σ) (entry : VblankEntry δ) : Step s (s.alloc entry)
  | unlink (s : Device δ σ) (seq : Nat) (h : seq ∈ s.queue.tokens) : Step s (s.unlink seq)
  | read (s : Device δ σ) (n : Nat) : Step s (s.readEvents n)
  | dispatch (s : Device δ σ) (e : VblankEvent) (h : e ∈ s.delivered) : Step s (s.dispatch e).1

/-- The callbacks of the entries. -/
structure Client (δ σ : Type*) where
  handler : UInt64 → UInt64 → VblankEntry δ → Device δ σ → Device δ σ
  abort : VblankEntry δ → Device δ σ → Device δ σ
  handler_steps : ∀ msc usec entry s, ReflTransGen Step s (handler msc usec entry s)
  abort_steps : ∀ entry s, ReflTransGen Step s (abort entry s)

section Loops

variable (client : Client δ σ)

/-- `ms_drm_abort_seq`. -/
def msDrmAbortSeq (s : Device δ σ) (seq : Nat) : Device δ σ :=
  match s.queue.find? seq with
  | none => s
  | some entry => client.abort entry (s.unlink seq)

/-- `ms_drm_sequence_handler`. -/
def msDrmSequenceHandler (s : Device δ σ) (e : VblankEvent) : Device δ σ :=
  match s.dispatch e with
  | (s, none) => s
  | (s, some (msc, entry)) => client.handler msc (e.ns / 1000) entry s

/-- The last answer of `poll`, which is asked again when it is interrupted, and then that of
`read`: an error, or how many events there is room for besides the first. -/
inductive FlushAnswer where
  | pollFails
  | readFails
  | reads (more : Nat)
  deriving DecidableEq, Repr

/-- `ms_flush_drm_events`, with its result. -/
def msFlushDrmEvents (s : Device δ σ) (a : FlushAnswer) : Device δ σ × Int :=
  match a with
  | .pollFails => (s, -1)
  | .readFails => if s.undelivered = [] then (s, 0) else (s, -1)
  | .reads more =>
      if s.undelivered = [] then (s, 0)
      else
        ((s.undelivered.take (more + 1)).foldl (msDrmSequenceHandler client)
          (s.readEvents (more + 1)), 1)

/-- The answers in one turn of either loop: to the request, and in the flush after it. -/
structure VblankTurn where
  answer : QueueAnswer
  flush : FlushAnswer
  deriving DecidableEq, Repr

/-- A call of `ms_queue_vblank` on its way: the device, and how its requests so far were
answered, the last one first. -/
structure VblankCall (δ σ : Type*) where
  device : Device δ σ
  asked : List RoundResult

/-- One turn of the loop of `ms_queue_vblank`.  Its result is `none` for `FALSE`, else the count
for `*msc_queued`. -/
def queueVblankTurn (crtc seq : Nat) (c : VblankCall δ σ) (turn : VblankTurn) :
    VblankCall δ σ × Option (Option UInt64) :=
  let s := c.device
  let round := queueRound s.api turn.answer
  let asked := round.2 :: c.asked
  match round with
  | (api, .queued kernelQueued is64bit) =>
      let m := msKernelMscToCrtcMsc (s.msc crtc) kernelQueued is64bit
      (⟨{ s with api := api, msc := Function.update s.msc crtc m.2 }, asked⟩, some (some m.1))
  | (api, .check e) =>
      let s := { s with api := api }
      if e ≠ .ebusy then (⟨msDrmAbortSeq client s seq, asked⟩, some none)
      else (⟨(msFlushDrmEvents client s turn.flush).1, asked⟩, none)

/-- `ms_queue_vblank` on the answers there are; without a result it is still in its loop. -/
def msQueueVblank (crtc seq : Nat) (s : Device δ σ) (turns : List VblankTurn) :
    VblankCall δ σ × Option (Option UInt64) :=
  retry (queueVblankTurn client crtc seq) ⟨s, []⟩ turns

/-- The answers in one turn of the loop of `queue_flip_on_crtc`. -/
structure FlipTurn where
  accepted : Bool
  flush : FlushAnswer
  deriving DecidableEq, Repr

/-- One turn of the loop of `queue_flip_on_crtc`. -/
def queueFlipTurn (seq : Nat) (s : Device δ σ) (turn : FlipTurn) : Device δ σ × Option Bool :=
  if turn.accepted then (s, some true)
  else
    match msFlushDrmEvents client s turn.flush with
    | (s, handled) =>
        if handled ≤ 0 then (msDrmAbortSeq client s seq, some false) else (s, none)

/-- The loop of `queue_flip_on_crtc`. -/
def queueFlipOnCrtc (seq : Nat) (s : Device δ σ) (turns : List FlipTurn) :
    Device δ σ × Option Bool :=
  retry (queueFlipTurn client seq) s turns

end Loops

/-! ## What code in a callback may do -/

theorem dispatch_queue (s : Device δ σ) (e : VblankEvent) :
    (s.dispatch e).1.queue = s.queue.remove e.seq ∧
      (s.dispatch e).1.undelivered = s.undelivered ∧
      (s.dispatch e).1.delivered = s.delivered ∧
      ((s.dispatch e).1.log = s.log ∨ (s.dispatch e).1.log = .handled e.seq :: s.log) := by
  unfold Device.dispatch
  cases h : s.queue.find? e.seq with
  | none => exact ⟨(Pending.remove_of_find?_none h).symm, rfl, rfl, .inl rfl⟩
  | some entry => exact ⟨rfl, rfl, rfl, .inr rfl⟩

/-- Events are not added, and those that were delivered stay so. -/
theorem Step.events {s t : Device δ σ} (h : Step s t) :
    t.undelivered.length ≤ s.undelivered.length ∧
      (∀ e ∈ s.delivered, e ∈ t.delivered) ∧
      ∀ e ∈ t.undelivered ++ t.delivered, e ∈ s.undelivered ++ s.delivered := by
  cases h with
  | own api msc client h => exact ⟨Nat.le_refl _, fun _ he => he, fun _ he => he⟩
  | alloc entry => exact ⟨Nat.le_refl _, fun _ he => he, fun _ he => he⟩
  | unlink seq h => exact ⟨Nat.le_refl _, fun _ he => he, fun _ he => he⟩
  | read n =>
      refine ⟨?_, fun e he => List.mem_append_right _ he, fun e he => ?_⟩
      · show (s.undelivered.drop n).length ≤ _
        rw [List.length_drop]
        omega
      · rcases List.mem_append.mp he with he | he
        · exact List.mem_append_left _ (List.mem_of_mem_drop he)
        · rcases List.mem_append.mp he with he | he
          · exact List.mem_append_left _ (List.mem_of_mem_take he)
          · exact List.mem_append_right _ he
  | dispatch e h =>
      obtain ⟨-, hundelivered, hdelivered, -⟩ := dispatch_queue s e
      rw [hundelivered, hdelivered]
      exact ⟨Nat.le_refl _, fun _ he => he, fun _ he => he⟩

theorem Steps.events {s t : Device δ σ} (h : ReflTransGen Step s t) :
    t.undelivered.length ≤ s.undelivered.length ∧
      (∀ e ∈ s.delivered, e ∈ t.delivered) ∧
      ∀ e ∈ t.undelivered ++ t.delivered, e ∈ s.undelivered ++ s.delivered := by
  induction h with
  | refl => exact ⟨Nat.le_refl _, fun _ he => he, fun _ he => he⟩
  | tail _ hstep ih =>
      obtain ⟨hlen, hkeep, hold⟩ := ih
      obtain ⟨hlen', hkeep', hold'⟩ := hstep.events
      exact ⟨hlen'.trans hlen, fun e he => hkeep' e (hkeep e he), fun e he => hold e (hold' e he)⟩

section Loops

variable (client : Client δ σ)

/-! The functions of this file are such code themselves: callbacks may re-enter them. -/

theorem abortSeq_steps (s : Device δ σ) (seq : Nat) :
    ReflTransGen Step s (msDrmAbortSeq client s seq) := by
  unfold msDrmAbortSeq
  cases h : s.queue.find? seq with
  | none => exact .refl
  | some entry =>
      have hmem : seq ∈ s.queue.tokens :=
        List.mem_map.mpr ⟨(seq, entry), Pending.find?_eq_some.mp h, rfl⟩
      exact .head (.unlink s seq hmem) (client.abort_steps entry _)

theorem sequenceHandler_steps (s : Device δ σ) {e : VblankEvent} (he : e ∈ s.delivered) :
    ReflTransGen Step s (msDrmSequenceHandler client s e) := by
  have hstep := Step.dispatch s e he
  unfold msDrmSequenceHandler
  cases h : s.dispatch e with
  | mk t fired =>
      rw [h] at hstep
      cases fired with
      | none => exact .single hstep
      | some m => exact .head hstep (client.handler_steps _ _ m.2 t)

theorem handlers_steps (events : List VblankEvent) (s : Device δ σ)
    (he : ∀ e ∈ events, e ∈ s.delivered) :
    ReflTransGen Step s (events.foldl (msDrmSequenceHandler client) s) := by
  induction events generalizing s with
  | nil => exact .refl
  | cons e events ih =>
      have hfirst := sequenceHandler_steps client s (he e List.mem_cons_self)
      have hkeep := (Steps.events hfirst).2.1
      exact hfirst.trans (ih _ fun e' he' => hkeep e' (he e' (List.mem_cons_of_mem e he')))

/-- **A flush** is such code, and one that has handled something leaves fewer events. -/
theorem flush_steps (s : Device δ σ) (a : FlushAnswer) :
    ReflTransGen Step s (msFlushDrmEvents client s a).1 ∧
      (0 < (msFlushDrmEvents client s a).2 →
        (msFlushDrmEvents client s a).1.undelivered.length < s.undelivered.length) := by
  have hquiet : ∀ r : Int, r ≤ 0 → ReflTransGen Step s (s, r).1 ∧
      (0 < (s, r).2 → (s, r).1.undelivered.length < s.undelivered.length) :=
    fun r hr => ⟨.refl, fun h => absurd h (Int.not_lt.mpr hr)⟩
  cases a with
  | pollFails => exact hquiet (-1) (by decide)
  | readFails =>
      unfold msFlushDrmEvents
      dsimp only
      split
      · exact hquiet 0 (by decide)
      · exact hquiet (-1) (by decide)
  | reads more =>
      unfold msFlushDrmEvents
      dsimp only
      split
      · exact hquiet 0 (by decide)
      · next hsome =>
          have hread := Step.read s (more + 1)
          have hhandlers := handlers_steps client (s.undelivered.take (more + 1))
            (s.readEvents (more + 1)) fun e he => List.mem_append_left _ he
          refine ⟨.head hread hhandlers, fun _ => ?_⟩
          have hle := (Steps.events hhandlers).1
          have hdrop : (s.readEvents (more + 1)).undelivered.length =
              s.undelivered.length - (more + 1) := List.length_drop
          have hpos := List.length_pos_iff.mpr hsome
          exact lt_of_le_of_lt hle (by omega)

end Loops

/-! ## One entry -/

/-- How often the entry was aborted. -/
def aborts (seq : Nat) (log : List QueueLine) : Nat := log.count (.aborted seq)

/-- The entry `seq` was handed out, no event is for it, and it is in the queue or has been
aborted once. -/
structure Entered (seq : Nat) (s : Device δ σ) : Prop where
  handedOut : seq < s.queue.next
  noEvent : ∀ e ∈ s.undelivered ++ s.delivered, e.seq ≠ seq
  either : (seq ∈ s.queue.tokens ∧ aborts seq s.log = 0) ∨
    (seq ∉ s.queue.tokens ∧ aborts seq s.log = 1)

theorem mem_tokens_remove {q : Pending (VblankEntry δ)} {k seq : Nat} :
    seq ∈ (q.remove k).tokens ↔ seq ∈ q.tokens ∧ seq ≠ k := by
  simp only [Pending.tokens, List.mem_map, Pending.mem_remove]
  constructor
  · rintro ⟨e, ⟨he, hne⟩, rfl⟩
    exact ⟨⟨e, he, rfl⟩, hne⟩
  · rintro ⟨⟨e, he, rfl⟩, hne⟩
    exact ⟨e, ⟨he, hne⟩, rfl⟩

/-- Every step keeps an entry entered, and keeps it out of the queue once it is. -/
theorem Step.entered {seq : Nat} {s t : Device δ σ} (h : Step s t) (hs : Entered seq s) :
    Entered seq t ∧ (seq ∉ s.queue.tokens → seq ∉ t.queue.tokens) := by
  have hnoEvent : ∀ e ∈ t.undelivered ++ t.delivered, e.seq ≠ seq :=
    fun e he => hs.noEvent e (h.events.2.2 e he)
  cases h with
  | own api msc client h => exact ⟨⟨hs.handedOut, hnoEvent, hs.either⟩, id⟩
  | read n => exact ⟨⟨hs.handedOut, hnoEvent, hs.either⟩, id⟩
  | alloc entry =>
      have htokens : seq ∈ (s.alloc entry).queue.tokens ↔ seq ∈ s.queue.tokens := by
        show seq ∈ (s.queue.alloc entry).tokens ↔ _
        rw [Pending.alloc_tokens, List.mem_cons]
        exact or_iff_right (Nat.ne_of_lt hs.handedOut)
      refine ⟨⟨Nat.lt_succ_of_lt hs.handedOut, hnoEvent, ?_⟩, fun hout => htokens.not.mpr hout⟩
      rw [htokens]
      exact hs.either
  | unlink k hk =>
      have htokens : seq ∈ (s.unlink k).queue.tokens ↔ seq ∈ s.queue.tokens ∧ seq ≠ k :=
        mem_tokens_remove
      have haborts : aborts seq (s.unlink k).log = aborts seq s.log + if k = seq then 1 else 0 := by
        show List.count _ (_ :: _) = _
        rw [List.count_cons]
        simp [aborts]
      refine ⟨⟨hs.handedOut, hnoEvent, ?_⟩, fun hout hin => hout (htokens.mp hin).1⟩
      rw [htokens, haborts]
      by_cases hsame : k = seq
      · subst hsame
        rcases hs.either with ⟨_, hzero⟩ | ⟨hout, _⟩
        · exact .inr ⟨fun hin => hin.2 rfl, by rw [hzero, if_pos rfl]⟩
        · exact (hout hk).elim
      · rw [if_neg hsame, Nat.add_zero]
        have hne : seq ≠ k := fun heq => hsame heq.symm
        simpa [hne] using hs.either
  | dispatch e he =>
      obtain ⟨hqueue, -, -, hlog⟩ := dispatch_queue s e
      have hne : seq ≠ e.seq := fun heq => hs.noEvent e (List.mem_append_right _ he) heq.symm
      have htokens : seq ∈ (s.dispatch e).1.queue.tokens ↔ seq ∈ s.queue.tokens := by
        rw [hqueue, mem_tokens_remove]
        exact and_iff_left hne
      have haborts : aborts seq (s.dispatch e).1.log = aborts seq s.log := by
        rcases hlog with hlog | hlog <;> rw [hlog]
        simp [aborts]
      refine ⟨⟨?_, hnoEvent, ?_⟩, fun hout => htokens.not.mpr hout⟩
      · rw [hqueue]
        exact hs.handedOut
      · rw [htokens, haborts]
        exact hs.either

theorem Steps.entered {seq : Nat} {s t : Device δ σ} (h : ReflTransGen Step s t)
    (hs : Entered seq s) : Entered seq t ∧ (seq ∉ s.queue.tokens → seq ∉ t.queue.tokens) := by
  induction h with
  | refl => exact ⟨hs, id⟩
  | tail _ hstep ih =>
      obtain ⟨hentered, hout⟩ := ih
      obtain ⟨hentered', hout'⟩ := hstep.entered hentered
      exact ⟨hentered', fun h => hout' (hout h)⟩

/-! ## The entry of a call -/

/-- A device of some run: nothing queued at first, then steps, and events of the kernel for
entries that were handed out. -/
inductive Reached : Device δ σ → Prop where
  | start (api : QueueSequence) (msc : Nat → MscTrack) (client : σ) :
      Reached ⟨Pending.empty, api, msc, [], [], client, []⟩
  | step {s t : Device δ σ} (hs : Reached s) (h : Step s t) : Reached t
  | event {s : Device δ σ} (hs : Reached s) (e : VblankEvent) (he : e.seq < s.queue.next) :
      Reached { s with undelivered := s.undelivered ++ [e] }

/-- Events and lines of the log are for entries that were handed out. -/
structure WellFormed (s : Device δ σ) : Prop where
  events : ∀ e ∈ s.undelivered ++ s.delivered, e.seq < s.queue.next
  log : ∀ line ∈ s.log, line.seq < s.queue.next

theorem Step.wellFormed {s t : Device δ σ} (h : Step s t) (hs : WellFormed s) : WellFormed t := by
  have hevents : ∀ e ∈ t.undelivered ++ t.delivered, e.seq < s.queue.next :=
    fun e he => hs.events e (h.events.2.2 e he)
  cases h with
  | own api msc client h => exact ⟨hevents, hs.log⟩
  | read n => exact ⟨hevents, hs.log⟩
  | alloc entry =>
      exact ⟨fun e he => Nat.lt_succ_of_lt (hevents e he),
        fun line hl => Nat.lt_succ_of_lt (hs.log line hl)⟩
  | unlink seq hk =>
      refine ⟨hevents, fun line hl => ?_⟩
      rcases List.mem_cons.mp hl with rfl | hl
      · have hlt : seq < s.queue.next := Pending.lt_next_of_mem hk
        exact hlt
      · exact hs.log line hl
  | dispatch e he =>
      obtain ⟨hqueue, -, -, hlog⟩ := dispatch_queue s e
      have hnext : (s.dispatch e).1.queue.next = s.queue.next := by rw [hqueue]; rfl
      refine ⟨fun e' he' => hnext ▸ hevents e' he', fun line hl => ?_⟩
      rw [hnext]
      rcases hlog with hlog | hlog <;> rw [hlog] at hl
      · exact hs.log line hl
      · rcases List.mem_cons.mp hl with rfl | hl
        · exact hs.events e (List.mem_append_right _ he)
        · exact hs.log line hl

theorem Reached.wellFormed {s : Device δ σ} (h : Reached s) : WellFormed s := by
  induction h with
  | start api msc client => exact ⟨fun e he => (List.not_mem_nil he).elim,
      fun line hl => (List.not_mem_nil hl).elim⟩
  | step _ hstep ih => exact hstep.wellFormed ih
  | event _ e he ih =>
      refine ⟨fun e' he' => ?_, ih.log⟩
      rcases List.mem_append.mp he' with he' | he'
      · rcases List.mem_append.mp he' with he' | he'
        · exact ih.events e' (List.mem_append_left _ he')
        · rw [List.mem_singleton.mp he']
          exact he
      · exact ih.events e' (List.mem_append_right _ he')

/-- **An entry is entered** when it is allocated. -/
theorem Reached.entered {s : Device δ σ} (h : Reached s) (entry : VblankEntry δ) :
    Entered s.queue.next (s.alloc entry) where
  handedOut := Nat.lt_succ_self _
  noEvent e he := Nat.ne_of_lt (h.wellFormed.events e he)
  either := by
    refine .inl ⟨List.mem_cons_self, List.count_eq_zero.mpr fun hmem => ?_⟩
    exact Nat.lt_irrefl _ (h.wellFormed.log _ hmem)

/-! ## The loop's result -/

section Loops

variable (client : Client δ σ)

/-- `ms_drm_abort_seq` leaves an entry out of the queue, aborted once. -/
theorem abortSeq_aborted {seq : Nat} {s : Device δ σ} (hs : Entered seq s) :
    seq ∉ (msDrmAbortSeq client s seq).queue.tokens ∧
      aborts seq (msDrmAbortSeq client s seq).log = 1 := by
  have hout : seq ∉ (msDrmAbortSeq client s seq).queue.tokens := by
    unfold msDrmAbortSeq
    cases h : s.queue.find? seq with
    | none => exact Pending.find?_eq_none.mp h
    | some entry =>
        have hmem : seq ∈ s.queue.tokens :=
          List.mem_map.mpr ⟨(seq, entry), Pending.find?_eq_some.mp h, rfl⟩
        have hunlinked := ((Step.unlink s seq hmem).entered hs).1
        refine (Steps.entered (client.abort_steps entry _) hunlinked).2 fun hin => ?_
        exact (mem_tokens_remove.mp hin).2 rfl
  rcases (Steps.entered (abortSeq_steps client s seq) hs).1.either with ⟨hin, _⟩ | haborted
  · exact (hout hin).elim
  · exact haborted

variable (crtc seq : Nat)

theorem queueVblankTurn_queued {c : VblankCall δ σ} {turn : VblankTurn} {kernelQueued : UInt64}
    {is64bit : Bool}
    (h : (queueRound c.device.api turn.answer).2 = .queued kernelQueued is64bit) :
    (∃ count, (queueVblankTurn client crtc seq c turn).2 = some (some count)) ∧
      (queueVblankTurn client crtc seq c turn).1.asked =
        .queued kernelQueued is64bit :: c.asked := by
  obtain ⟨api, hround⟩ : ∃ api, queueRound c.device.api turn.answer =
      (api, .queued kernelQueued is64bit) := ⟨_, Prod.ext rfl h⟩
  unfold queueVblankTurn
  simp only [hround]
  exact ⟨⟨_, rfl⟩, trivial⟩

theorem queueVblankTurn_refused {c : VblankCall δ σ} {turn : VblankTurn} {e : Errno}
    (h : (queueRound c.device.api turn.answer).2 = .check e) (he : e ≠ .ebusy) :
    queueVblankTurn client crtc seq c turn =
      (⟨msDrmAbortSeq client { c.device with api := (queueRound c.device.api turn.answer).1 } seq,
        .check e :: c.asked⟩, some none) := by
  obtain ⟨api, hround⟩ : ∃ api, queueRound c.device.api turn.answer = (api, .check e) :=
    ⟨_, Prod.ext rfl h⟩
  unfold queueVblankTurn
  simp only [hround, if_pos he]

theorem queueVblankTurn_busy {c : VblankCall δ σ} {turn : VblankTurn}
    (h : (queueRound c.device.api turn.answer).2 = .check .ebusy) :
    queueVblankTurn client crtc seq c turn =
      (⟨(msFlushDrmEvents client { c.device with api := (queueRound c.device.api turn.answer).1 }
          turn.flush).1, .check .ebusy :: c.asked⟩, none) := by
  obtain ⟨api, hround⟩ : ∃ api, queueRound c.device.api turn.answer = (api, .check .ebusy) :=
    ⟨_, Prod.ext rfl h⟩
  unfold queueVblankTurn
  simp only [hround, ne_eq, not_true_eq_false, if_false]

theorem queueVblankTurn_goesOn_iff {c : VblankCall δ σ} {turn : VblankTurn} :
    (queueVblankTurn client crtc seq c turn).2 = none ↔
      (queueRound c.device.api turn.answer).2 = .check .ebusy := by
  cases hround : (queueRound c.device.api turn.answer).2 with
  | queued kernelQueued is64bit =>
      obtain ⟨⟨count, hsome⟩, -⟩ := queueVblankTurn_queued client crtc seq hround
      exact iff_of_false (hsome ▸ Option.some_ne_none _) fun h => by cases h
  | check e =>
      by_cases he : e = .ebusy
      · subst he
        exact iff_of_true (by rw [queueVblankTurn_busy client crtc seq hround]) rfl
      · refine iff_of_false ?_ fun h => he (RoundResult.check.inj h)
        rw [queueVblankTurn_refused client crtc seq hround he]
        exact Option.some_ne_none _

/-- The kernel has taken one of the requests. -/
def Accepted (asked : List RoundResult) : Prop :=
  ∃ kernelQueued is64bit, RoundResult.queued kernelQueued is64bit ∈ asked

/-- What a call that returned owes its caller: `TRUE` says that a request was taken, `FALSE` that
none was, with the entry out of the queue and aborted once. -/
def Right (c : VblankCall δ σ) : Option UInt64 → Prop
  | some _ => Accepted c.asked
  | none =>
      ¬Accepted c.asked ∧ seq ∉ c.device.queue.tokens ∧ aborts seq c.device.log = 1

/-- **When the loop has returned, it is right.** -/
theorem queueVblank_result {s : Device δ σ} (hs : Entered seq s) {turns : List VblankTurn}
    {r : Option UInt64} (h : (msQueueVblank client crtc seq s turns).2 = some r) :
    Right seq (msQueueVblank client crtc seq s turns).1 r := by
  have hapi (c : VblankCall δ σ) (api : QueueSequence) (hc : Entered seq c.device) :
      Entered seq { c.device with api := api } := ⟨hc.handedOut, hc.noEvent, hc.either⟩
  -- While the loop goes on, every request was answered `EBUSY`.
  refine retry_inv (I := fun c => Entered seq c.device ∧ ∀ r ∈ c.asked, r = .check .ebusy)
    (J := Right seq) ?_ ?_ ⟨hs, fun _ hr => (List.not_mem_nil hr).elim⟩ h
  · rintro c turn ⟨hc, hasked⟩ hnone
    have hround := (queueVblankTurn_goesOn_iff client crtc seq).mp hnone
    rw [queueVblankTurn_busy client crtc seq hround]
    refine ⟨(Steps.entered (flush_steps client _ turn.flush).1 (hapi c _ hc)).1, ?_⟩
    exact fun r hr => (List.mem_cons.mp hr).elim id (hasked r)
  · rintro c turn result ⟨hc, hasked⟩ hsome
    cases hround : (queueRound c.device.api turn.answer).2 with
    | queued kernelQueued is64bit =>
        obtain ⟨⟨count, hcount⟩, hqueued⟩ := queueVblankTurn_queued client crtc seq hround
        rw [hcount] at hsome
        cases hsome
        refine ⟨kernelQueued, is64bit, ?_⟩
        rw [hqueued]
        exact List.mem_cons_self
    | check e =>
        by_cases he : e = .ebusy
        · subst he
          rw [queueVblankTurn_busy client crtc seq hround] at hsome
          cases hsome
        · rw [queueVblankTurn_refused client crtc seq hround he] at hsome ⊢
          cases hsome
          refine ⟨?_, abortSeq_aborted client (hapi c _ hc)⟩
          rintro ⟨kernelQueued, is64bit, hmem⟩
          rcases List.mem_cons.mp hmem with heq | hmem
          · cases heq
          · cases hasked _ hmem

end Loops

/-! ## When it returns in time -/

/-- The kernel answers `EBUSY` to every one of these requests. -/
def allBusy : QueueSequence → List QueueAnswer → Bool
  | _, [] => true
  | api, answer :: answers =>
      let round := queueRound api answer
      decide (round.2 = .check .ebusy) && allBusy round.1 answers

theorem queueRound_tried (api : QueueSequence) (answer : QueueAnswer) :
    (queueRound api answer).1.triedQueueSequence = true := by
  unfold queueRound
  split
  · cases answer.queueSequence with
    | ok kernelQueued => rfl
    | error e =>
        dsimp only
        split <;> rfl
  · next h =>
      rw [QueueSequence.asksSequence, Bool.or_eq_true, not_or] at h
      simpa using h.2

/-- The flags stay once a request was made. -/
theorem Steps.api {s t : Device δ σ} (h : ReflTransGen Step s t)
    (hs : s.api.triedQueueSequence = true) : t.api = s.api := by
  induction h with
  | refl => rfl
  | tail _ hstep ih =>
      rw [← ih]
      cases hstep with
      | own api msc client h => exact h (ih ▸ hs)
      | alloc entry => rfl
      | unlink seq h => rfl
      | read n => rfl
      | dispatch e h =>
          unfold Device.dispatch
          split <;> rfl


section Loops

variable (client : Client δ σ) (crtc seq : Nat)

/-- The loop goes on for as long as the kernel is busy, whatever the flushes do. -/
theorem goesOn_iff_allBusy {c : VblankCall δ σ} {turns : List VblankTurn} :
    GoesOn (queueVblankTurn client crtc seq) c turns ↔
      allBusy c.device.api (turns.map (·.answer)) := by
  induction turns generalizing c with
  | nil => exact iff_of_true trivial rfl
  | cons turn turns ih =>
      rw [List.map_cons, allBusy, Bool.and_eq_true, decide_eq_true_eq, GoesOn,
        queueVblankTurn_goesOn_iff]
      refine and_congr_right fun hround => ?_
      -- The flags are known after the request, and no callback of the flush changes them.
      have hapi := Steps.api (flush_steps client
        { c.device with api := (queueRound c.device.api turn.answer).1 } turn.flush).1
        (queueRound_tried c.device.api turn.answer)
      rw [ih, queueVblankTurn_busy client crtc seq hround, hapi]

/-- The call returns after at most one more retry than there were events, with what it owes. -/
def ReturnsInTime (s : Device δ σ) (turns : Nat → VblankTurn) : Prop :=
  ∃ m ≤ s.undelivered.length + 2, ∃ r,
    (msQueueVblank client crtc seq s (first turns m)).2 = some r ∧
      Right seq (msQueueVblank client crtc seq s (first turns m)).1 r

/-- A kernel that stays busy keeps the loop going, with or without events to flush. -/
theorem queueVblank_loops_iff {s : Device δ σ} {turns : List VblankTurn} :
    (msQueueVblank client crtc seq s turns).2 = none ↔
      allBusy s.api (turns.map (·.answer)) :=
  retry_eq_none_iff.trans (goesOn_iff_allBusy client crtc seq)

/-- A kernel that answers nothing but `EBUSY` is never left, not even with all events flushed. -/
theorem queueVblank_never_returns {s : Device δ σ} {turns : List VblankTurn}
    (h : ∀ turn ∈ turns, turn.answer = ⟨.error .ebusy, .error .ebusy⟩) :
    (msQueueVblank client crtc seq s turns).2 = none := by
  rw [queueVblank_loops_iff]
  generalize s.api = api
  induction turns generalizing api with
  | nil => rfl
  | cons turn turns ih =>
      have hround : (queueRound api turn.answer).2 = .check .ebusy := by
        rw [h turn List.mem_cons_self]
        unfold queueRound
        split <;> rfl
      rw [List.map_cons, allBusy, Bool.and_eq_true, decide_eq_true_eq]
      exact ⟨hround, ih (fun turn hturn => h turn (List.mem_cons_of_mem _ hturn)) _⟩

/-- **`ms_queue_vblank` returns in time** exactly if the kernel does not answer `EBUSY` to one
request more than there may be. -/
theorem queueVblank_returns_iff {s : Device δ σ} (hs : Entered seq s) (turns : Nat → VblankTurn) :
    ReturnsInTime client crtc seq s turns ↔
      ¬allBusy s.api ((first turns (s.undelivered.length + 2)).map (·.answer)) := by
  rw [← goesOn_iff_allBusy client crtc seq (c := ⟨s, []⟩), ← returns_within_iff]
  constructor
  · rintro ⟨m, hm, r, hr, -⟩
    exact ⟨m, hm, hr ▸ Option.some_ne_none r⟩
  · rintro ⟨m, hm, hreturned⟩
    obtain ⟨r, hr⟩ := Option.ne_none_iff_exists'.mp hreturned
    exact ⟨m, hm, r, hr, queueVblank_result client crtc seq hs hr⟩

end Loops

/-- Owners whose callbacks do nothing. -/
def quiet : Client Nat Unit where
  handler _ _ _ s := s
  abort _ s := s
  handler_steps _ _ _ _ := .refl
  abort_steps _ _ := .refl

/-- A device before its first request. -/
def fresh : Device Nat Unit :=
  ⟨Pending.empty, QueueSequence.start, fun _ => ⟨0, 0⟩, [], [], (), []⟩

/-- The kernel is busy, and nothing is there to flush. -/
def busyTurn : VblankTurn := ⟨⟨.error .ebusy, .error .ebusy⟩, .reads 0⟩

/-- A device with an entry queued for which the kernel has an event that is not read yet. -/
def eventWaiting : Device Nat Unit :=
  { fresh.alloc ⟨0, 3⟩ with undelivered := [⟨0, 4, 400, true⟩] }

theorem eventWaiting_reached : Reached eventWaiting :=
  ((Reached.start _ _ _).step (.alloc fresh ⟨0, 3⟩)).event ⟨0, 4, 400, true⟩ Nat.one_pos

/-- The kernel is busy until the waiting event has been read, and accepts the second request. -/
theorem queueVblank_returns_flushed :
    ReturnsInTime quiet 0 1 (eventWaiting.alloc ⟨0, 7⟩) fun i =>
      if i = 0 then busyTurn else ⟨⟨.ok 5, .error .ebusy⟩, .reads 0⟩ :=
  (queueVblank_returns_iff quiet 0 1 (eventWaiting_reached.entered ⟨0, 7⟩) _).mpr (by decide)

/-- With no event to flush and a kernel that stays busy the call does not return in time. -/
theorem busy_for_ever :
    ¬ReturnsInTime quiet 0 0 (fresh.alloc ⟨0, 7⟩) fun _ => busyTurn := by
  rintro ⟨m, -, r, hr, -⟩
  rw [queueVblank_never_returns] at hr
  · cases hr
  · intro turn hturn
    obtain ⟨_, -, rfl⟩ := List.mem_map.mp hturn
    rfl

/-! ## The flip loop -/

section Loops

variable (client : Client δ σ) (seq : Nat)

/-- A turn of the flip loop ends it with success, gives up with the flush having handled nothing,
or goes on. -/
theorem queueFlipTurn_cases (s : Device δ σ) (turn : FlipTurn) :
    let flushed := msFlushDrmEvents client s turn.flush
    queueFlipTurn client seq s turn = (s, some true) ∨
      queueFlipTurn client seq s turn = (msDrmAbortSeq client flushed.1 seq, some false) ∨
      0 < flushed.2 ∧ queueFlipTurn client seq s turn = (flushed.1, none) := by
  unfold queueFlipTurn
  dsimp only
  split
  · exact .inl rfl
  · split
    · exact .inr (.inl rfl)
    · next hhandled => exact .inr (.inr ⟨Int.not_le.mp hhandled, rfl⟩)

/-- What the flip loop owes its caller: `FALSE` says that the entry is out of the queue and was
aborted once. -/
def FlipRight (s : Device δ σ) (accepted : Bool) : Prop :=
  accepted = false → seq ∉ s.queue.tokens ∧ aborts seq s.log = 1

/-- **The loop of `queue_flip_on_crtc` returns** within one request more than there were events:
it looks at what the flush has handled. -/
theorem queueFlip_returns {s : Device δ σ} (hs : Entered seq s) (turns : Nat → FlipTurn) :
    let done := queueFlipOnCrtc client seq s (first turns (s.undelivered.length + 1))
    ∃ r, done.2 = some r ∧ FlipRight seq done.1 r := by
  have hgo (t : Device δ σ) (turn : FlipTurn) (ht : Entered seq t)
      (hnone : (queueFlipTurn client seq t turn).2 = none) :
      Entered seq (queueFlipTurn client seq t turn).1 ∧
        (queueFlipTurn client seq t turn).1.undelivered.length < t.undelivered.length := by
    obtain ⟨hsteps, hfewer⟩ := flush_steps client t turn.flush
    rcases queueFlipTurn_cases client seq t turn with hturn | hturn | ⟨hhandled, hturn⟩
    · rw [hturn] at hnone
      cases hnone
    · rw [hturn] at hnone
      cases hnone
    · rw [hturn]
      exact ⟨(Steps.entered hsteps ht).1, hfewer hhandled⟩
  have hend (t : Device δ σ) (turn : FlipTurn) (r : Bool) (ht : Entered seq t)
      (hsome : (queueFlipTurn client seq t turn).2 = some r) :
      FlipRight seq (queueFlipTurn client seq t turn).1 r := by
    have hflushed := (Steps.entered (flush_steps client t turn.flush).1 ht).1
    intro hr
    rcases queueFlipTurn_cases client seq t turn with hturn | hturn | ⟨-, hturn⟩
    · rw [hturn, hr] at hsome
      cases hsome
    · rw [hturn]
      exact abortSeq_aborted client hflushed
    · rw [hturn] at hsome
      cases hsome
  have hlength : s.undelivered.length < (first turns (s.undelivered.length + 1)).length := by
    rw [length_first]
    exact Nat.lt_succ_self _
  obtain ⟨r, hr⟩ := Option.ne_none_iff_exists'.mp
    (retry_returns (·.undelivered.length) hgo hs hlength)
  exact ⟨r, hr, retry_inv (J := FlipRight seq) (fun t turn ht hnone => (hgo t turn ht hnone).1)
    hend hs hr⟩

end Loops

end LoongsonVideo.Driver.VblankRetry
