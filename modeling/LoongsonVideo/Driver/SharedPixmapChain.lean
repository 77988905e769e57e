import LoongsonVideo.Driver.SharedPixmap

/-!
# One chain of events

While a CRTC flips between its two shared pixmaps, the chain has at most one
entry in the queue, and stopping it takes that entry out.  `Chain` says how the
state knows the entry: it is for the back pixmap, whose `flip_seq` names it, and
that pixmap does not wait for damage at the same time.

Nothing in the code resets `wait_for_damage` when flipping is stopped, and a
damage notification is taken as the chain's next step whatever the chain is
doing; `Meets` leaves out the calls where this starts a second chain.

## Main results

* `one_chain`: a run of such calls has one chain.
* `stale_damage_starts_second_chain`: stop and restart while waiting for damage.
-/

namespace LoongsonVideo.Driver.SharedPixmap

open LoongsonVideo.Verified
open LoongsonVideo.Verified.Machine

/-- What the log may say. -/
def SinkLine.fine : SinkLine → Bool
  | .queued outstanding => decide (outstanding ≤ 1)
  | .finished outstanding => decide (outstanding = 0)

/-- At most one entry has been outstanding at any time, and none when flipping
was stopped. -/
def OneChain (s : Sink) : Prop :=
  s.queue.entries.length ≤ 1 ∧ ∀ line ∈ s.log, line.fine = true

/-! ## The calls that keep one chain -/

/-- The request was queued and the kernel has taken it. -/
def VBlankTree.leaves : VBlankTree → Bool
  | .mk argsOk queueOk _ accepted => argsOk && queueOk && accepted

/-- The master denies the damage request after it has notified. -/
def RequestTree.deniesNotified : RequestTree → Bool
  | .notifies vblank ok => vblank.leaves && !ok
  | _ => false

def RequestTree.isMissing : RequestTree → Bool
  | .missing => true
  | _ => false

/-- A turn for a pixmap: if it still waits for damage the turn waits anew, and
the master does not deny a request it has notified. -/
def TurnOk (s : Sink) (ppix : Nat) : PresentTree → Bool
  | .mk presented _ request _ =>
      (!(s.priv ppix).waitForDamage || !presented && !request.isMissing) &&
        (presented || !request.deniesNotified)

/-- A start of the chain. -/
def InitOk (s : Sink) (answer : PresentTree) : Bool :=
  match s.primePixmapBack with
  | none => true
  | some ppix => !s.enableFlipping || s.flippingActive || TurnOk s ppix answer

/-- The next turn. -/
def EventOk (s : Sink) : EventTree → Bool
  | .read k answer =>
      match s.queue.find? k with
      | none => true
      | some args =>
          !decide (k ∈ s.submitted) ||
            match if args.flip then args.backTarget else some args.frontTarget with
            | none => true
            | some ppix => TurnOk s ppix answer

/-- The calls that keep one chain. -/
def Meets (s : Sink) : SinkAct → Prop
  | .enable _ _ _ _ => s.queue.entries = []
  | .modeSet answer => InitOk s answer = true
  | .dpms on answer => on = true → InitOk s answer = true
  | .notifyDamage ppix _ =>
      s.primePixmapBack = some ppix → (s.priv ppix).waitForDamage = true → s.flippingActive = true
  | .event tree => EventOk s tree = true
  | _ => True

instance (s : Sink) (act : SinkAct) : Decidable (Meets s act) := by
  cases act <;> unfold Meets <;> infer_instance

instance (s : Sink) : Decidable (OneChain s) := by
  unfold OneChain
  infer_instance

/-! ## The invariant -/

/-- Nothing is queued, and what the kernel has taken is past. -/
structure Calm (s : Sink) : Prop where
  entries : s.queue.entries = []
  past : ∀ k ∈ s.submitted, k < s.queue.next
  lines : ∀ line ∈ s.log, line.fine = true

/-- The one entry, for pixmap `ppix`. -/
structure Queued (s : Sink) (ppix k : Nat) (args : VblankEventArgs) : Prop where
  entries : s.queue.entries = [(k, args)]
  front : args.frontTarget = ppix
  back : args.backTarget = s.primePixmap
  priv : s.priv ppix = ⟨some k, false⟩
  past : ∀ j ∈ s.submitted, j < s.queue.next
  lines : ∀ line ∈ s.log, line.fine = true

/-- How the state knows the chain. -/
inductive Chain (s : Sink) : Prop where
  | calm (h : Calm s)
  | queued (ppix k : Nat) (args : VblankEventArgs) (h : Queued s ppix k args)
      (hback : s.primePixmapBack = some ppix) (hactive : s.flippingActive = true)

theorem Calm.oneChain {s : Sink} (h : Calm s) : OneChain s := by
  refine ⟨?_, h.lines⟩
  rw [h.entries]
  exact Nat.zero_le 1

theorem Chain.oneChain {s : Sink} (h : Chain s) : OneChain s := by
  cases h with
  | calm h => exact h.oneChain
  | queued ppix k args h _ _ =>
      refine ⟨?_, h.lines⟩
      rw [h.entries]
      exact Nat.le_refl 1

theorem chain_start : Chain .start :=
  .calm ⟨rfl, by simp [Sink.start], by simp [Sink.start]⟩

/-! ## The flushes of a request do nothing to the chain -/

/-- No entry has an event to come. -/
def Silent (s : Sink) : Prop := ∀ k ∈ s.submitted, s.queue.find? k = none

theorem EventTree.exec_silent {s : Sink} (h : Silent s) (tree : EventTree) : tree.exec s = s := by
  cases tree with
  | read k answer =>
      simp only [EventTree.exec, readEvent]
      split
      case isTrue hk => rw [h k hk]
      case isFalse => rfl

theorem execAll_silent {s : Sink} (h : Silent s) (trees : List EventTree) :
    execAll trees s = s := by
  induction trees with
  | nil => simp only [execAll]
  | cons tree trees ih => simp only [execAll, EventTree.exec_silent h, ih]

theorem flushesOf_silent {s : Sink} (h : Silent s) (flushes : List (List EventTree)) :
    (flushesOf flushes).foldl (fun s flush => flush s) s = s := by
  induction flushes with
  | nil => simp only [flushesOf, List.foldl_nil]
  | cons flush flushes ih => simp only [flushesOf, List.foldl_cons, execAll_silent h, ih]

/-- The flushes leave a silent state alone. -/
def VBlankAnswer.Quiet (answer : VBlankAnswer) : Prop :=
  ∀ s, Silent s → answer.flushes.foldl (fun s flush => flush s) s = s

theorem VBlankTree.answer_quiet (tree : VBlankTree) : tree.answer.Quiet := by
  intro s h
  cases tree with
  | mk argsOk queueOk flushes accepted =>
      simp only [VBlankTree.answer]
      exact flushesOf_silent h flushes

theorem Calm.silent {s : Sink} (h : Calm s) : Silent s := by
  intro k _
  simp [Pending.find?, h.entries]

/-! ## One turn -/

section Turn

variable {s : Sink} {ppix : Nat}

@[simp] theorem setFlipSeq_priv (s : Sink) (ppix : Nat) (seq : Option Nat) :
    (s.setFlipSeq ppix seq).priv ppix = ⟨seq, (s.priv ppix).waitForDamage⟩ := by
  simp [Sink.setFlipSeq]

@[simp] theorem setWait_priv (s : Sink) (ppix : Nat) (wait : Bool) :
    (s.setWait ppix wait).priv ppix = ⟨(s.priv ppix).flipSeq, wait⟩ := by
  simp [Sink.setWait]

theorem setWait_off (s : Sink) (ppix : Nat) :
    ((s.setWait ppix false).priv ppix).waitForDamage = false := by
  rw [setWait_priv]

theorem Calm.setFlipSeq (h : Calm s) (ppix : Nat) (seq : Option Nat) :
    Calm (s.setFlipSeq ppix seq) := ⟨h.entries, h.past, h.lines⟩

theorem Calm.setWait (h : Calm s) (ppix : Nat) (wait : Bool) : Calm (s.setWait ppix wait) :=
  ⟨h.entries, h.past, h.lines⟩

/-- The fields a turn leaves alone. -/
structure SameTargets (s s' : Sink) : Prop where
  prime : s'.primePixmap = s.primePixmap
  back : s'.primePixmapBack = s.primePixmapBack
  enable : s'.enableFlipping = s.enableFlipping
  active : s'.flippingActive = s.flippingActive

theorem SameTargets.refl (s : Sink) : SameTargets s s := ⟨rfl, rfl, rfl, rfl⟩

theorem SameTargets.trans {s' s'' : Sink} (h : SameTargets s s') (h' : SameTargets s' s'') :
    SameTargets s s'' :=
  ⟨h'.prime.trans h.prime, h'.back.trans h.back, h'.enable.trans h.enable,
    h'.active.trans h.active⟩

theorem enqueue_same (s : Sink) (ppix : Nat) (args : VblankEventArgs) (queueOk : Bool) :
    SameTargets s (enqueue s ppix args queueOk) := by
  cases queueOk <;> exact ⟨rfl, rfl, rfl, rfl⟩

theorem msDrmAbortSeq_same (s : Sink) (seq : Option Nat) :
    SameTargets s (msDrmAbortSeq s seq) := by
  unfold msDrmAbortSeq
  split
  · exact .refl s
  · split
    · exact .refl s
    · exact ⟨rfl, rfl, rfl, rfl⟩

/-- A new entry is the only one, and nothing is to be read for it yet. -/
theorem enqueue_queued (h : Calm s) (hwait : (s.priv ppix).waitForDamage = false)
    (args : VblankEventArgs) (hfront : args.frontTarget = ppix)
    (hback : args.backTarget = s.primePixmap) :
    Queued (enqueue s ppix args true) ppix s.queue.next args ∧
      Silent (enqueue s ppix args true) := by
  have hnone : ∀ k, s.queue.find? k = none := by
    intro k
    simp [Pending.find?, h.entries]
  refine ⟨⟨?_, hfront, hback, ?_, ?_, ?_⟩, ?_⟩
  · show (s.queue.next, args) :: s.queue.entries = _
    rw [h.entries]
  · show (s.setFlipSeq ppix (some s.queue.next)).priv ppix = _
    rw [setFlipSeq_priv, hwait]
  · intro k hk
    exact Nat.lt_succ_of_lt (h.past k hk)
  · intro line hline
    rcases List.mem_cons.mp hline with rfl | hline
    · rw [h.entries]
      rfl
    · exact h.lines line hline
  · intro k hk
    have hne : k ≠ s.queue.next := Nat.ne_of_lt (h.past k hk)
    show (s.queue.alloc args).find? k = none
    rw [Pending.find?_alloc_ne hne]
    exact hnone k

theorem Queued.find? {k : Nat} {args : VblankEventArgs} (h : Queued s ppix k args) :
    s.queue.find? k = some args := by
  apply Pending.find?_eq_some.mpr
  rw [h.entries]
  exact List.mem_singleton_self _

theorem Queued.remove_entries {k : Nat} {args : VblankEventArgs} (h : Queued s ppix k args) :
    (s.queue.remove k).entries = [] := by
  simp [Pending.remove, h.entries]

/-- The entry is aborted. -/
theorem Queued.abort {k : Nat} {args : VblankEventArgs} (h : Queued s ppix k args) :
    Calm (msDrmAbortSeq s (some k)) ∧
      ((msDrmAbortSeq s (some k)).priv ppix).waitForDamage = false := by
  simp only [msDrmAbortSeq, h.find?]
  refine ⟨⟨h.remove_entries, h.past, h.lines⟩, ?_⟩
  rw [h.front, setFlipSeq_priv]
  show (s.priv ppix).waitForDamage = false
  rw [h.priv]

theorem Queued.submit {k j : Nat} {args : VblankEventArgs} (h : Queued s ppix k args)
    (hj : j < s.queue.next) : Queued (submit s (some j)) ppix k args := by
  refine ⟨h.entries, h.front, h.back, h.priv, ?_, h.lines⟩
  intro i hi
  rcases List.mem_cons.mp hi with rfl | hi
  · exact hj
  · exact h.past i hi

/-- How a turn ends: nothing is queued, or one entry for the pixmap.  A turn that
returns `FALSE` has queued nothing and does not wait. -/
structure Settles (s : Sink) (ppix : Nat) (r : Sink × Bool) : Prop where
  same : SameTargets s r.1
  entry : Calm r.1 ∨ ∃ k args, Queued r.1 ppix k args
  failed : r.2 = false → Calm r.1 ∧ (r.1.priv ppix).waitForDamage = false

theorem Settles.of_same {s' : Sink} {r : Sink × Bool} (h : Settles s' ppix r)
    (hsame : SameTargets s s') : Settles s ppix r :=
  ⟨hsame.trans h.same, h.entry, h.failed⟩

/-- A request that is put to the kernel at once. -/
theorem enqueue_settles (h : Calm s) (hwait : (s.priv ppix).waitForDamage = false)
    (flip queueOk accepted : Bool) :
    let s' := enqueue s ppix ⟨ppix, s.primePixmap, flip⟩ queueOk
    let seq := (s'.priv ppix).flipSeq
    let r := if accepted then (submit s' seq, true) else (msDrmAbortSeq s' seq, false)
    Silent s' ∧ Settles s ppix r ∧ ((queueOk && accepted) = false → Calm r.1) := by
  intro s' seq r
  have hsame : SameTargets s s' := enqueue_same s ppix _ queueOk
  cases queueOk with
  | false =>
      have hs' : s' = s.setFlipSeq ppix none := rfl
      have hseq : seq = none := by
        show (s'.priv ppix).flipSeq = none
        rw [hs', setFlipSeq_priv]
      have hcalm : Calm s' := h.setFlipSeq ppix none
      have hr : r.1 = s' := by
        show (if accepted then (submit s' seq, true) else (msDrmAbortSeq s' seq, false)).1 = s'
        rw [hseq]
        cases accepted <;> rfl
      have hwait' : (s'.priv ppix).waitForDamage = false := by
        rw [hs', setFlipSeq_priv]
        exact hwait
      refine ⟨hcalm.silent, ⟨?_, ?_, ?_⟩, ?_⟩
      · rw [hr]
        exact hsame
      · rw [hr]
        exact Or.inl hcalm
      · rw [hr]
        exact fun _ => ⟨hcalm, hwait'⟩
      · rw [hr]
        exact fun _ => hcalm
  | true =>
      obtain ⟨hqueued, hsilent⟩ :=
        enqueue_queued h hwait ⟨ppix, s.primePixmap, flip⟩ rfl rfl
      have hseq : seq = some s.queue.next := by
        show (s'.priv ppix).flipSeq = some s.queue.next
        rw [hqueued.priv]
      refine ⟨hsilent, ?_⟩
      cases accepted with
      | true =>
          have hr : r = (submit s' (some s.queue.next), true) := by
            rw [← hseq]
            rfl
          rw [hr]
          refine ⟨⟨⟨hsame.prime, hsame.back, hsame.enable, hsame.active⟩, ?_, ?_⟩, ?_⟩
          · exact Or.inr ⟨_, _, hqueued.submit (Nat.lt_succ_self _)⟩
          · intro hfalse
            cases hfalse
          · intro hfalse
            cases hfalse
      | false =>
          have hr : r = (msDrmAbortSeq s' (some s.queue.next), false) := by
            rw [← hseq]
            rfl
          rw [hr]
          exact ⟨⟨hsame.trans (msDrmAbortSeq_same s' (some s.queue.next)), Or.inl hqueued.abort.1,
            fun _ => hqueued.abort⟩, fun _ => hqueued.abort.1⟩

theorem msQueueVblank_quiet {answer : VBlankAnswer} (h : Silent s) (hquiet : answer.Quiet)
    (seq : Option Nat) :
    msQueueVblank s seq answer.flushes answer.accepted =
      if answer.accepted then (submit s seq, true) else (msDrmAbortSeq s seq, false) := by
  simp only [msQueueVblank, hquiet s h]

/-- Nothing is tried. -/
theorem settles_unchanged (h : Calm s) (hwait : (s.priv ppix).waitForDamage = false) :
    Settles s ppix (s, false) :=
  ⟨.refl s, Or.inl h, fun _ => ⟨h, hwait⟩⟩

theorem sharedPixmapPresentOnVBlank_settles (h : Calm s)
    (hwait : (s.priv ppix).waitForDamage = false) {answer : VBlankAnswer}
    (hquiet : answer.Quiet) :
    Settles s ppix (sharedPixmapPresentOnVBlank s ppix answer) ∧
      ((answer.argsOk && answer.queueOk && answer.accepted) = false →
        Calm (sharedPixmapPresentOnVBlank s ppix answer).1) := by
  have hnothing := settles_unchanged h hwait
  unfold sharedPixmapPresentOnVBlank
  split
  · exact ⟨hnothing, fun _ => h⟩
  · split
    · exact ⟨hnothing, fun _ => h⟩
    · cases hargs : answer.argsOk with
      | false => exact ⟨hnothing, fun _ => h⟩
      | true =>
          obtain ⟨hsilent, hsettles, hnone⟩ :=
            enqueue_settles h hwait false answer.queueOk answer.accepted
          simp only [Bool.not_true, Bool.false_eq_true, if_false, Bool.true_and,
            msQueueVblank_quiet hsilent hquiet]
          exact ⟨hsettles, hnone⟩

theorem sharedPixmapFlip_settles (h : Calm s) (hwait : (s.priv ppix).waitForDamage = false)
    (answer : FlipAnswer) : Settles s ppix (sharedPixmapFlip s ppix answer) := by
  unfold sharedPixmapFlip
  cases answer.argsOk with
  | false => exact settles_unchanged h hwait
  | true => exact (enqueue_settles h hwait true answer.queueOk answer.accepted).2.1

theorem setWait_same (s : Sink) (ppix : Nat) (wait : Bool) :
    SameTargets s (s.setWait ppix wait) := ⟨rfl, rfl, rfl, rfl⟩

/-- A damage notification while nothing is queued. -/
theorem msSharedPixmapNotifyDamage_calm (h : Calm s) (ppix : Nat) (tree : VBlankTree) :
    SameTargets s (msSharedPixmapNotifyDamage s ppix tree.answer) ∧
      (Calm (msSharedPixmapNotifyDamage s ppix tree.answer) ∨
        ∃ k args, Queued (msSharedPixmapNotifyDamage s ppix tree.answer) ppix k args) ∧
      (tree.leaves = false → Calm (msSharedPixmapNotifyDamage s ppix tree.answer)) := by
  unfold msSharedPixmapNotifyDamage
  split
  · exact ⟨.refl s, Or.inl h, fun _ => h⟩
  · simp only []
    split
    · obtain ⟨hsettles, hnone⟩ := sharedPixmapPresentOnVBlank_settles
        (h.setWait ppix false) (setWait_off s ppix) tree.answer_quiet
      refine ⟨(setWait_same s ppix false).trans hsettles.same, hsettles.entry, fun hleaves => ?_⟩
      apply hnone
      cases tree with
      | mk argsOk queueOk flushes accepted => exact hleaves
    · exact ⟨setWait_same s ppix false, Or.inl (h.setWait ppix false),
        fun _ => h.setWait ppix false⟩

/-- The master cannot draw. -/
theorem waitOrRetry_settles (h : Calm s) {request : RequestTree} (vblank : VBlankTree)
    (hmissing : request.isMissing = true → (s.priv ppix).waitForDamage = false)
    (hdenies : request.deniesNotified = false) :
    Settles s ppix (waitOrRetry s ppix request.answer vblank.answer) := by
  cases request with
  | missing =>
      exact (sharedPixmapPresentOnVBlank_settles h (hmissing rfl) vblank.answer_quiet).1
  | silent ok =>
      cases ok with
      | true =>
          refine ⟨setWait_same s ppix true, Or.inl (h.setWait ppix true), fun hfalse => ?_⟩
          cases hfalse
      | false =>
          have hcalm := (h.setWait ppix true).setWait ppix false
          have hretry := (sharedPixmapPresentOnVBlank_settles hcalm
            (setWait_off _ ppix) vblank.answer_quiet).1
          exact hretry.of_same ((setWait_same s ppix true).trans (setWait_same _ ppix false))
  | notifies notified ok =>
      obtain ⟨hsame, hentry, hcalm⟩ :=
        msSharedPixmapNotifyDamage_calm (h.setWait ppix true) ppix notified
      have hsame' := (setWait_same s ppix true).trans hsame
      cases ok with
      | true =>
          refine ⟨hsame', hentry, fun hfalse => ?_⟩
          cases hfalse
      | false =>
          have hleaves : notified.leaves = false := by
            simpa [RequestTree.deniesNotified] using hdenies
          have hretry := (sharedPixmapPresentOnVBlank_settles
            ((hcalm hleaves).setWait ppix false) (setWait_off _ ppix) vblank.answer_quiet).1
          exact hretry.of_same (hsame'.trans (setWait_same _ ppix false))

/-- **A turn settles**: from nothing queued, one entry at most. -/
theorem sharedPixmapPresent_settles (h : Calm s) {tree : PresentTree}
    (hok : TurnOk s ppix tree = true) :
    Settles s ppix (sharedPixmapPresent s ppix tree.answer) := by
  cases tree with
  | mk presented flip request vblank =>
      simp only [TurnOk, Bool.and_eq_true, Bool.or_eq_true, Bool.not_eq_true'] at hok
      obtain ⟨hwait, hdenies⟩ := hok
      cases presented with
      | true =>
          have hoff : (s.priv ppix).waitForDamage = false := by simpa using hwait
          have hflip := sharedPixmapFlip_settles h hoff flip
          simp only [PresentTree.answer, sharedPixmapPresent, if_true]
          cases hresult : sharedPixmapFlip s ppix flip with
          | mk s' ok =>
              rw [hresult] at hflip
              cases ok with
              | true => exact hflip
              | false =>
                  obtain ⟨hcalm, hoff'⟩ := hflip.failed rfl
                  have hretry := sharedPixmapPresentOnVBlank_settles hcalm hoff'
                    vblank.answer_quiet
                  exact hretry.1.of_same hflip.same
      | false =>
          show Settles s ppix (waitOrRetry s ppix request.answer vblank.answer)
          apply waitOrRetry_settles h
          · intro hmissing
            simpa [hmissing] using hwait
          · simpa using hdenies

end Turn

/-! ## The calls -/

section Calls

variable {s : Sink}

/-- A turn for the back pixmap keeps the chain, once flipping is active. -/
theorem Settles.chain {ppix : Nat} {r : Sink × Bool} (h : Settles s ppix r)
    (hback : s.primePixmapBack = some ppix) (hactive : s.flippingActive = true) : Chain r.1 := by
  rcases h.entry with hcalm | ⟨k, args, hqueued⟩
  · exact .calm hcalm
  · exact .queued ppix k args hqueued (h.same.back.trans hback) (h.same.active.trans hactive)

/-- Flipping that is not active has no chain. -/
theorem Chain.calm_of_inactive (h : Chain s) (hactive : s.flippingActive = false) : Calm s := by
  cases h with
  | calm h => exact h
  | queued ppix k args h hback hon => exact Bool.noConfusion (hon.symm.trans hactive)

theorem Calm.targets (h : Calm s) {s' : Sink} (hqueue : s'.queue = s.queue)
    (hsubmitted : s'.submitted = s.submitted) (hlog : s'.log = s.log) : Calm s' := by
  refine ⟨?_, ?_, ?_⟩
  · rw [hqueue]
    exact h.entries
  · rw [hqueue, hsubmitted]
    exact h.past
  · rw [hlog]
    exact h.lines

theorem initSharedPixmapFlipping_chain (h : Chain s) {tree : PresentTree}
    (hok : InitOk s tree = true) : Chain (initSharedPixmapFlipping s tree.answer).1 := by
  unfold InitOk at hok
  unfold initSharedPixmapFlipping
  cases henable : s.enableFlipping with
  | false => exact h
  | true =>
      cases hactive : s.flippingActive with
      | true => exact h
      | false =>
          cases hback : s.primePixmapBack with
          | none => exact h
          | some ppix =>
              simp only [hback, henable, hactive, Bool.not_true, Bool.false_or] at hok
              have hsettles := sharedPixmapPresent_settles (h.calm_of_inactive hactive) hok
              simp only [Bool.not_true, Bool.false_eq_true, if_false]
              rcases hsettles.entry with hcalm | ⟨k, args, hqueued⟩
              · exact .calm (hcalm.targets rfl rfl rfl)
              · -- An entry is left only by a turn that returns `TRUE`.
                have hon : (sharedPixmapPresent s ppix tree.answer).2 = true := by
                  cases hresult : (sharedPixmapPresent s ppix tree.answer).2 with
                  | true => rfl
                  | false =>
                      have hempty := (hsettles.failed hresult).1.entries
                      rw [hqueued.entries] at hempty
                      cases hempty
                exact .queued ppix k args
                  ⟨hqueued.entries, hqueued.front, hqueued.back, hqueued.priv, hqueued.past,
                    hqueued.lines⟩ (hsettles.same.back.trans hback) hon

theorem Chain.abortSeq (h : Chain s) (seq : Option Nat) : Chain (msDrmAbortSeq s seq) := by
  cases seq with
  | none => exact h
  | some j =>
      cases hfind : s.queue.find? j with
      | none =>
          simp only [msDrmAbortSeq, hfind]
          exact h
      | some args' =>
          cases h with
          | calm h =>
              have hmem := Pending.find?_eq_some.mp hfind
              rw [h.entries] at hmem
              cases hmem
          | queued ppix k args h hback hactive =>
              have hmem := Pending.find?_eq_some.mp hfind
              rw [h.entries] at hmem
              cases List.mem_singleton.mp hmem
              exact .calm h.abort.1

theorem msDrmAbortScrn_chain (h : Chain s) : Chain (msDrmAbortScrn s) := by
  unfold msDrmAbortScrn
  generalize s.queue.tokens = ks
  induction ks generalizing s with
  | nil => exact h
  | cons k ks ih => exact ih (h.abortSeq (some k))

/-- A damage notification at any time.  A pixmap that waits for damage has no
entry. -/
theorem msSharedPixmapNotifyDamage_chain (h : Chain s) {ppix : Nat} (tree : VBlankTree)
    (hactive : s.primePixmapBack = some ppix → (s.priv ppix).waitForDamage = true →
      s.flippingActive = true) :
    Chain (msSharedPixmapNotifyDamage s ppix tree.answer) := by
  cases hwait : (s.priv ppix).waitForDamage with
  | false =>
      simp only [msSharedPixmapNotifyDamage, hwait]
      exact h
  | true =>
      by_cases hback : s.primePixmapBack = some ppix
      · have hon := hactive hback hwait
        have hcalm : Calm s := by
          cases h with
          | calm h => exact h
          | queued front k args h hfront _ =>
              cases hback.symm.trans hfront
              rw [h.priv] at hwait
              cases hwait
        obtain ⟨hsame, hentry, _⟩ := msSharedPixmapNotifyDamage_calm hcalm ppix tree
        rcases hentry with hcalm' | ⟨k, args, hqueued⟩
        · exact .calm hcalm'
        · exact .queued ppix k args hqueued (hsame.back.trans hback) (hsame.active.trans hon)
      · have hsame : msSharedPixmapNotifyDamage s ppix tree.answer = s.setWait ppix false := by
          simp only [msSharedPixmapNotifyDamage, hwait]
          simp [sharedPixmapPresentOnVBlank, Sink.setWait, Ne.symm hback]
        rw [hsame]
        cases h with
        | calm h => exact .calm (h.setWait ppix false)
        | queued front k args h hfront hon =>
            have hne : front ≠ ppix := fun heq => hback (heq ▸ hfront)
            refine .queued front k args ⟨h.entries, h.front, h.back, ?_, h.past, h.lines⟩ hfront hon
            show Function.update s.priv ppix _ front = _
            rw [Function.update_of_ne hne]
            exact h.priv

/-- The event of the chain's entry: the pixmaps change their roles after a flip,
and the next turn begins with nothing queued. -/
theorem EventTree.exec_chain (h : Chain s) {tree : EventTree} (hok : EventOk s tree = true) :
    Chain (tree.exec s) := by
  cases tree with
  | read j answer =>
      simp only [EventTree.exec, readEvent]
      by_cases hj : j ∈ s.submitted
      · rw [if_pos hj]
        cases h with
        | calm hcalm =>
            rw [hcalm.silent j hj]
            exact .calm hcalm
        | queued ppix k args h hback hactive =>
            cases hfind : s.queue.find? j with
            | none => exact .queued ppix k args h hback hactive
            | some args' =>
                have hmem := Pending.find?_eq_some.mp hfind
                rw [h.entries] at hmem
                cases List.mem_singleton.mp hmem
                have hcalm : Calm { s with queue := s.queue.remove j } :=
                  ⟨h.remove_entries, h.past, h.lines⟩
                simp only [EventOk, hfind, hj, decide_true, Bool.not_true, Bool.false_or] at hok
                show Chain (sharedPixmapVBlankEventHandler { s with queue := s.queue.remove j }
                  args answer.answer)
                unfold sharedPixmapVBlankEventHandler
                cases hflip : args.flip with
                | false =>
                    simp only [hflip, Bool.false_eq_true, if_false] at hok ⊢
                    rw [h.front] at hok ⊢
                    exact (sharedPixmapPresent_settles hcalm hok).chain hback hactive
                | true =>
                    simp only [hflip, if_true] at hok ⊢
                    cases hprime : args.backTarget with
                    | none => exact .calm (hcalm.targets rfl rfl rfl)
                    | some next =>
                        rw [hprime] at hok
                        have hcalm' : Calm ({ s with
                            queue := s.queue.remove j
                            primePixmap := some args.frontTarget
                            primePixmapBack := some next } : Sink) :=
                          hcalm.targets rfl rfl rfl
                        exact (sharedPixmapPresent_settles hcalm' hok).chain rfl hactive
      · rw [if_neg hj]
        exact h

theorem Calm.abortFlipSeq (h : Calm s) (target : Option Nat) : Calm (abortFlipSeq s target) := by
  cases target with
  | none => exact h
  | some ppix =>
      show Calm (msDrmAbortSeq s (s.priv ppix).flipSeq)
      cases (s.priv ppix).flipSeq with
      | none => exact h
      | some j =>
          have hnone : s.queue.find? j = none := by
            simp [Pending.find?, h.entries]
          simp only [msDrmAbortSeq, hnone]
          exact h

/-- Aborting what a pixmap's `flip_seq` names: the entry, or nothing. -/
theorem Queued.abortFlipSeq {ppix k : Nat} {args : VblankEventArgs} (h : Queued s ppix k args)
    (target : Option Nat) :
    Calm (abortFlipSeq s target) ∨
      abortFlipSeq s target = s ∧ target ≠ some ppix := by
  cases target with
  | none => exact Or.inr ⟨rfl, fun hnone => by cases hnone⟩
  | some p =>
      by_cases hp : p = ppix
      · subst hp
        apply Or.inl
        show Calm (msDrmAbortSeq s (s.priv p).flipSeq)
        rw [h.priv]
        exact h.abort.1
      · show Calm (msDrmAbortSeq s (s.priv p).flipSeq) ∨
          msDrmAbortSeq s (s.priv p).flipSeq = s ∧ some p ≠ some ppix
        cases (s.priv p).flipSeq with
        | none => exact Or.inr ⟨rfl, fun heq => hp (Option.some.inj heq)⟩
        | some j =>
            cases hfind : s.queue.find? j with
            | none =>
                simp only [msDrmAbortSeq, hfind]
                exact Or.inr ⟨trivial, fun heq => hp (Option.some.inj heq)⟩
            | some args' =>
                have hmem := Pending.find?_eq_some.mp hfind
                rw [h.entries] at hmem
                cases List.mem_singleton.mp hmem
                exact Or.inl h.abort.1

/-- **Stopping leaves nothing queued.** -/
theorem finiSharedPixmapFlipping_calm (h : Chain s) : Calm (finiSharedPixmapFlipping s) := by
  cases hactive : s.flippingActive with
  | false =>
      simp only [finiSharedPixmapFlipping, hactive]
      exact h.calm_of_inactive hactive
  | true =>
      simp only [finiSharedPixmapFlipping, hactive, Bool.not_true, Bool.false_eq_true, if_false]
      set s₀ : Sink := { s with flippingActive := false } with hs₀
      have hcalm : Calm (abortFlipSeq (abortFlipSeq s₀ s.primePixmap)
          (abortFlipSeq s₀ s.primePixmap).primePixmapBack) := by
        cases h with
        | calm h =>
            have hcalm₀ : Calm s₀ := h.targets rfl rfl rfl
            exact (hcalm₀.abortFlipSeq _).abortFlipSeq _
        | queued ppix k args h hback _ =>
            have hqueued : Queued s₀ ppix k args :=
              ⟨h.entries, h.front, h.back, h.priv, h.past, h.lines⟩
            rcases hqueued.abortFlipSeq s.primePixmap with hcalm | ⟨hsame, _⟩
            · exact hcalm.abortFlipSeq _
            · rw [hsame]
              rcases hqueued.abortFlipSeq s₀.primePixmapBack with hcalm | ⟨_, hne⟩
              · exact hcalm
              · exact absurd hback hne
      refine ⟨hcalm.entries, hcalm.past, ?_⟩
      intro line hline
      rcases List.mem_cons.mp hline with rfl | hline
      · rw [hcalm.entries]
        rfl
      · exact hcalm.lines line hline

theorem enableSharedPixmapFlipping_calm (h : Chain s) (hempty : s.queue.entries = [])
    (front back : Nat) (frontOk backOk : Bool) :
    Calm (enableSharedPixmapFlipping s front back frontOk backOk) := by
  have hcalm : Calm s := by
    cases h with
    | calm h => exact h
    | queued ppix k args h _ _ =>
        rw [h.entries] at hempty
        cases hempty
  cases frontOk <;> cases backOk <;> exact hcalm.targets rfl rfl rfl

theorem disableSharedPixmapFlipping_calm (h : Chain s) :
    Calm (disableSharedPixmapFlipping s) := by
  have hchain : Chain { s with enableFlipping := false } := by
    cases h with
    | calm h => exact .calm (h.targets rfl rfl rfl)
    | queued ppix k args h hback hactive =>
        exact .queued ppix k args ⟨h.entries, h.front, h.back, h.priv, h.past, h.lines⟩ hback hactive
  exact (finiSharedPixmapFlipping_calm hchain).targets rfl rfl rfl

/-- Every admitted call keeps the chain. -/
theorem chain_step (s : Sink) (act : SinkAct) (h : Chain s) (hmeets : Meets s act) :
    Chain (step s act) := by
  cases act with
  | enable front back frontOk backOk =>
      exact .calm (enableSharedPixmapFlipping_calm h hmeets front back frontOk backOk)
  | disable => exact .calm (disableSharedPixmapFlipping_calm h)
  | modeSet answer =>
      simp only [step, setModeMajor]
      split
      · exact initSharedPixmapFlipping_chain h hmeets
      · exact h
  | dpms on answer =>
      simp only [step, outputDpms]
      split
      · exact h
      · cases on with
        | true => exact initSharedPixmapFlipping_chain h (hmeets rfl)
        | false => exact .calm (finiSharedPixmapFlipping_calm h)
  | notifyDamage ppix answer => exact msSharedPixmapNotifyDamage_chain h answer hmeets
  | event tree => exact EventTree.exec_chain h hmeets
  | abortSeq k => exact h.abortSeq (some k)
  | abortScrn => exact msDrmAbortScrn_chain h

end Calls

/-- **One chain.** In a run of admitted calls at most one entry of the CRTC is
outstanding at any time, and none when flipping has been stopped. -/
theorem one_chain (acts : List SinkAct) (hacts : Guarded step Meets .start acts) :
    Always step OneChain .start acts :=
  (hacts.always chain_step chain_start).mono fun _ => Chain.oneChain

/-- A flip, a wait for damage, another flip, off and on again. -/
theorem one_chain_played :
    Always step OneChain .start
      [.enable 0 1 true true,
        .modeSet (.mk true ⟨true, true, true⟩ .missing (.mk true true [] true)),
        .event (.read 0 (.mk false ⟨true, true, true⟩ (.silent true) (.mk true true [] true))),
        .notifyDamage 0 (.mk true true [] true),
        .event (.read 1 (.mk true ⟨true, true, true⟩ .missing (.mk true true [] true))),
        .dpms false (.mk true ⟨true, true, true⟩ .missing (.mk true true [] true)),
        .dpms true (.mk true ⟨true, true, true⟩ .missing (.mk true true [] true)),
        .disable] :=
  one_chain _ (by decide +kernel)

/-- The chain waits for damage when it is stopped; it is started again, and the
damage queues a second entry beside the flip. -/
theorem stale_damage_starts_second_chain :
    ¬Always step OneChain .start
      [.enable 0 1 true true,
        .modeSet (.mk false ⟨true, true, true⟩ (.silent true) (.mk true true [] true)),
        .dpms false (.mk true ⟨true, true, true⟩ .missing (.mk true true [] true)),
        .dpms true (.mk true ⟨true, true, true⟩ .missing (.mk true true [] true)),
        .notifyDamage 1 (.mk true true [] true)] := by
  decide +kernel

end LoongsonVideo.Driver.SharedPixmap
