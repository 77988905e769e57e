import LoongsonVideo.Driver.PrimeChain

/-!
# Damage is shown

While flipping is active the chain of a pair does not come to a stop: the kernel
has an event for the back pixmap, or the pixmap waits for damage, and then the
block handler of the source wakes it.

* `alive_step`: each call keeps the chain going.
* `damage_is_shown`: so after the block handler, damage on the back pixmap has an
  event to come that asks for it.

`Lucky` is what is asked of the allocator and the kernel: entries can be allocated
and requests are taken in the end.  `drmModePageFlip` may fail, the turn is then
tried again at the vblank.
-/

namespace LoongsonVideo.Driver.PrimePair

open LoongsonVideo.Verified
open LoongsonVideo.Verified.Machine
open LoongsonVideo.Driver.PrimeSource
open LoongsonVideo.Driver.SharedPixmap (Sink VblankEventArgs FlipAnswer enqueue submit
  msDrmAbortSeq sharedPixmapFlip sharedPixmapPresent sharedPixmapPresentOnVBlank
  enableSharedPixmapFlipping disableSharedPixmapFlipping finiSharedPixmapFlipping
  Calm Queued Chain SameTargets)

variable {V : Type}

/-! ## Answers -/

def VBlankTree.lucky : VBlankTree → Bool
  | .mk argsOk queueOk _ accepted => argsOk && queueOk && accepted

def PresentTree.lucky : PresentTree → Bool
  | .mk flip vblank => flip.queueOk && vblank.lucky

/-- The calls that do not fail, and nothing is aborted. -/
def Lucky (p : Pair V) : PairAct V → Prop
  | .modeSet answer => answer.lucky = true
  | .dpms _ answer => answer.lucky = true
  | .event (.read _ answer) => answer.lucky = true
  | .blockHandler _ answers => ∀ k ∈ p.source.dirtyList.tokens, (answers k).lucky = true
  | .abortSeq _ => False
  | .abortScrn => False
  | _ => True

instance (p : Pair V) (act : PairAct V) : Decidable (Lucky p act) :=
  match act with
  | .modeSet answer | .dpms _ answer | .event (.read _ answer) =>
      inferInstanceAs (Decidable (answer.lucky = true))
  | .blockHandler _ _ => List.decidableBAll _ _
  | .abortSeq _ | .abortScrn => instDecidableFalse
  | .startTracking .. | .stopTracking .. | .startSingle .. | .stopSingle .. | .draw .. | .enable ..
  | .disable => instDecidableTrue

/-! ## One turn of the sink -/

section Turn

variable {s : Sink} {ppix : Nat}

/-- The kernel has an event for the pixmap. -/
def Live (s : Sink) (ppix : Nat) : Prop :=
  ∃ k args, s.queue.find? k = some args ∧ args.frontTarget = ppix ∧ k ∈ s.submitted

/-- An entry that the kernel takes. -/
theorem live_submit (s : Sink) (ppix : Nat) (args : VblankEventArgs) (hargs : args.frontTarget = ppix) :
    Live (submit (enqueue s ppix args true) ((enqueue s ppix args true).priv ppix).flipSeq) ppix := by
  have hseq : ((enqueue s ppix args true).priv ppix).flipSeq = some s.queue.next := by
    show ((s.setFlipSeq ppix (some s.queue.next)).priv ppix).flipSeq = some s.queue.next
    rw [SharedPixmap.setFlipSeq_priv]
  refine ⟨s.queue.next, args, Pending.find?_alloc_self s.queue args, hargs, ?_⟩
  rw [hseq]
  exact List.mem_cons_self

theorem sharedPixmapPresentOnVBlank_live (hback : s.primePixmapBack = some ppix)
    (hprime : s.primePixmap ≠ some ppix) {tree : VBlankTree} (hlucky : tree.lucky = true) :
    Live (sharedPixmapPresentOnVBlank s ppix tree.flags.answer).1 ppix := by
  cases tree with
  | mk argsOk queueOk flushes accepted =>
      simp only [VBlankTree.lucky, Bool.and_eq_true] at hlucky
      obtain ⟨⟨rfl, rfl⟩, rfl⟩ := hlucky
      simp only [VBlankTree.flags, SharedPixmap.VBlankTree.answer]
      unfold sharedPixmapPresentOnVBlank
      rw [if_neg (Ne.symm hprime), if_neg (not_not_intro hback.symm)]
      exact live_submit s ppix _ rfl

theorem sharedPixmapFlip_live {answer : FlipAnswer} (hqueue : answer.queueOk = true)
    (hok : (sharedPixmapFlip s ppix answer).2 = true) :
    Live (sharedPixmapFlip s ppix answer).1 ppix := by
  unfold sharedPixmapFlip at hok ⊢
  rw [hqueue] at hok ⊢
  cases hargs : answer.argsOk with
  | false =>
      simp [hargs] at hok
  | true =>
      cases haccepted : answer.accepted with
      | false => simp [hargs, haccepted] at hok
      | true => exact live_submit s ppix _ rfl

theorem sharedPixmapFlip_same (s : Sink) (ppix : Nat) (answer : FlipAnswer) :
    SameTargets s (sharedPixmapFlip s ppix answer).1 := by
  unfold sharedPixmapFlip
  split
  · exact .refl s
  · have hqueue := SharedPixmap.enqueue_same s ppix ⟨ppix, s.primePixmap, true⟩ answer.queueOk
    simp only []
    split
    · exact ⟨hqueue.prime, hqueue.back, hqueue.enable, hqueue.active⟩
    · exact hqueue.trans (SharedPixmap.msDrmAbortSeq_same _ _)

/-- **A turn goes on.** The kernel has an event, or the pixmap waits for damage. -/
theorem sharedPixmapPresent_live (hback : s.primePixmapBack = some ppix)
    (hprime : s.primePixmap ≠ some ppix) (presented : Bool) {tree : PresentTree}
    (hlucky : tree.lucky = true) :
    Live (sharedPixmapPresent s ppix (tree.turn presented).answer).1 ppix ∨
      ((sharedPixmapPresent s ppix (tree.turn presented).answer).1.priv ppix).waitForDamage =
        true := by
  cases tree with
  | mk flip vblank =>
      simp only [PresentTree.lucky, Bool.and_eq_true] at hlucky
      cases presented with
      | true =>
          have hlive : (sharedPixmapFlip s ppix flip).2 = true →
              Live (sharedPixmapFlip s ppix flip).1 ppix :=
            sharedPixmapFlip_live hlucky.1
          have hsame := sharedPixmapFlip_same s ppix flip
          simp only [PresentTree.turn, SharedPixmap.PresentTree.answer, sharedPixmapPresent, if_true]
          cases hflip : sharedPixmapFlip s ppix flip with
          | mk s' ok =>
              rw [hflip] at hlive hsame
              cases ok with
              | true => exact Or.inl (hlive rfl)
              | false =>
                  have hprime' : s'.primePixmap ≠ some ppix := by
                    rw [hsame.prime]
                    exact hprime
                  exact Or.inl (sharedPixmapPresentOnVBlank_live (hsame.back.trans hback) hprime'
                    hlucky.2)
      | false =>
          apply Or.inr
          show ((s.setWait ppix true).priv ppix).waitForDamage = true
          rw [SharedPixmap.setWait_priv]

end Turn

/-! ## The chain goes on -/

/-- While flipping is active the back pixmap has an event, or waits. -/
structure Alive (p : Pair V) : Prop where
  prime : p.sink.enableFlipping = true ∨ p.sink.flippingActive = true →
    p.sink.primePixmap.isSome = true
  back : p.sink.flippingActive = true → ∀ ppix, p.sink.primePixmapBack = some ppix →
    Live p.sink ppix ∨ p.waits ppix = true

theorem alive_start (isGPU : Bool) (content pixels : Nat → Pixel → V) :
    Alive (.start isGPU content pixels) := by
  refine ⟨fun h => ?_, fun h => by cases h⟩
  rcases h with h | h
  · cases h
  · cases h

/-- The state after a turn for the back pixmap. -/
theorem Ready.alive {p : Pair V} {ppix : Nat} (h : Ready p ppix)
    (hsome : p.sink.primePixmap.isSome = true) {tree : PresentTree} (hlucky : tree.lucky = true)
    (active : Bool) : Alive ((present p ppix tree.answer).1.withSink
      { (present p ppix tree.answer).1.sink with flippingActive := active }) := by
  have hturn := h.turned tree
  have hcalm := present_calm h.calm ppix tree h.awake
  have hprime : (present p ppix tree.answer).1.sink.primePixmap = p.sink.primePixmap :=
    hturn.settles.same.prime
  have hback : (present p ppix tree.answer).1.sink.primePixmapBack = p.sink.primePixmapBack :=
    hturn.settles.same.back
  refine ⟨fun _ => ?_, fun _ ppix' hppix' => ?_⟩
  · show (present p ppix tree.answer).1.sink.primePixmap.isSome = true
    rw [hprime]
    exact hsome
  · have hppix : some ppix = some ppix' := h.back.symm.trans (hback.symm.trans hppix')
    cases hppix
    have hlive := sharedPixmapPresent_live h.back h.prime (askMaster p ppix).2 hlucky
    rw [hcalm]
    exact hlive

/-! ## Every call -/

theorem exec_alive {p : Pair V} (hp : Safe p) (ha : Alive p) (k : Nat) {answer : PresentTree}
    (hlucky : answer.lucky = true) : Alive ((EventTree.read k answer).exec p) := by
  rcases EventTree.exec_cases hp k answer with hsame | ⟨ppix, args, h, hback, hactive, hexec⟩
  · rw [hsame]
    exact ha
  · rw [hexec]
    cases vblankEventHandler_handled hp h hback hactive answer.answer with
    | idle p' h _ hprime hnone =>
        rw [h]
        refine ⟨fun _ => hprime, fun _ ppix' hppix' => ?_⟩
        exact absurd (hppix'.symm.trans hnone) (Option.some_ne_none ppix')
    | turn p' next h hready hon hprime =>
        have halive := hready.alive (hprime (ha.prime (Or.inr hactive))) hlucky true
        have hon' : (present p' next answer.answer).1.sink.flippingActive = true :=
          (hready.turned answer).settles.same.active.trans hon
        rw [withSink_active hon'] at halive
        rw [h]
        exact halive

theorem initSharedPixmapFlipping_alive {p : Pair V} (hp : Safe p) (ha : Alive p)
    (htracked : p.targetsTracked) (hstale : p.stale = false) {tree : PresentTree}
    (hlucky : tree.lucky = true) : Alive (initSharedPixmapFlipping p tree.answer).1 := by
  rcases initSharedPixmapFlipping_cases hp htracked hstale tree.answer with
    hsame | ⟨ppix, hready, henable, hinit⟩
  · rw [hsame]
    exact ha
  · rw [hinit]
    exact hready.alive (ha.prime (Or.inl henable)) hlucky _

/-- The sink's queue, and who waits, are as they were. -/
theorem Alive.congr {p p' : Pair V} (ha : Alive p) (hsame : SameTargets p.sink p'.sink)
    (hlive : ∀ ppix, Live p.sink ppix → Live p'.sink ppix)
    (hwaits : ∀ ppix, p.sink.primePixmapBack = some ppix → p.waits ppix = true →
      Live p'.sink ppix ∨ p'.waits ppix = true) : Alive p' := by
  refine ⟨fun h => ?_, fun hon ppix hback => ?_⟩
  · rw [hsame.enable, hsame.active] at h
    rw [hsame.prime]
    exact ha.prime h
  · rw [hsame.active] at hon
    rw [hsame.back] at hback
    rcases ha.back hon ppix hback with h | h
    · exact Or.inl (hlive ppix h)
    · exact hwaits ppix hback h

/-- The back pixmap is told of the damage it waits for. -/
theorem msSharedPixmapNotifyDamage_live {s : Sink} {ppix : Nat}
    (hwait : (s.priv ppix).waitForDamage = true) (hback : s.primePixmapBack = some ppix)
    (hprime : s.primePixmap ≠ some ppix) (hsome : s.primePixmap.isSome = true) {tree : VBlankTree}
    (hlucky : tree.lucky = true) :
    Live (SharedPixmap.msSharedPixmapNotifyDamage s ppix tree.flags.answer) ppix := by
  have htargets : ((s.setWait ppix false).primePixmap.isSome &&
      (s.setWait ppix false).primePixmapBack.isSome) = true := by
    show (s.primePixmap.isSome && s.primePixmapBack.isSome) = true
    rw [hsome, hback]
    rfl
  unfold SharedPixmap.msSharedPixmapNotifyDamage
  simp only [hwait, Bool.not_true, Bool.false_eq_true, if_false, htargets, if_true]
  exact sharedPixmapPresentOnVBlank_live (s := s.setWait ppix false) hback hprime hlucky

/-- Another pixmap is told of damage. -/
theorem msSharedPixmapNotifyDamage_other {s : Sink} {ppix : Nat}
    (hback : s.primePixmapBack ≠ some ppix) (tree : VBlankTree) :
    SharedPixmap.msSharedPixmapNotifyDamage s ppix tree.flags.answer = s ∨
      SharedPixmap.msSharedPixmapNotifyDamage s ppix tree.flags.answer = s.setWait ppix false := by
  have hnone : (sharedPixmapPresentOnVBlank (s.setWait ppix false) ppix tree.flags.answer).1 =
      s.setWait ppix false := by
    have hne : some ppix ≠ (s.setWait ppix false).primePixmapBack := Ne.symm hback
    unfold sharedPixmapPresentOnVBlank
    by_cases hprime : some ppix = (s.setWait ppix false).primePixmap
    · rw [if_pos hprime]
    · rw [if_neg hprime, if_pos hne]
  unfold SharedPixmap.msSharedPixmapNotifyDamage
  split
  · exact Or.inl rfl
  · simp only [hnone, ite_self]
    exact Or.inr trivial

/-- A pixmap that is told of damage has an event, or another one waits. -/
theorem wakeSink_alive {p : Pair V} (hp : Safe p) (ha : Alive p) (ppix : Nat) {tree : VBlankTree}
    (hlucky : tree.lucky = true) : Alive (wakeSink p ppix tree.answer) := by
  unfold wakeSink
  cases hnotify : (p.source.priv ppix).notifyOnDamage with
  | false =>
      simp only [hnotify, Bool.false_eq_true, if_false]
      exact ha
  | true =>
      have hcall := notifyDamage_chain (p := p.withSource (p.source.setPriv ppix
        { p.source.priv ppix with notifyOnDamage := false })) hp.chain ppix tree
      obtain ⟨hsame, _⟩ := msSharedPixmapNotifyDamage_less p.sink ppix tree
      simp only [hnotify, if_true, hcall, withSource_sink]
      by_cases hback : p.sink.primePixmapBack = some ppix
      · refine ⟨fun h => ?_, fun hon b hb => ?_⟩
        · have h' : p.sink.enableFlipping = true ∨ p.sink.flippingActive = true := by
            rw [← hsame.enable, ← hsame.active]
            exact h
          exact (congrArg Option.isSome hsame.prime).trans (ha.prime h')
        · have hon' : p.sink.flippingActive = true := hsame.active.symm.trans hon
          have hb' : some ppix = some b := hback.symm.trans (hsame.back.symm.trans hb)
          cases hb'
          cases hwait : (p.sink.priv ppix).waitForDamage with
          | true =>
              have hprime : p.sink.primePixmap ≠ some ppix := fun heq => hp.distinct ppix heq hback
              exact Or.inl (msSharedPixmapNotifyDamage_live hwait hback hprime
                (ha.prime (Or.inr hon')) hlucky)
          | false =>
              have hnone : SharedPixmap.msSharedPixmapNotifyDamage p.sink ppix tree.flags.answer =
                  p.sink := by
                simp [SharedPixmap.msSharedPixmapNotifyDamage, hwait]
              rw [hnone]
              exact ha.back hon' ppix hback
      · rcases msSharedPixmapNotifyDamage_other hback tree with heq | heq
        · rw [heq]
          exact ⟨ha.prime, ha.back⟩
        · rw [heq]
          refine ⟨ha.prime, fun hon b hb => ?_⟩
          have hne : b ≠ ppix := fun h => hback (h ▸ hb)
          rcases ha.back hon b hb with h | h
          · exact Or.inl h
          · refine Or.inr ?_
            show ((p.sink.setWait ppix false).priv b).waitForDamage = true
            rw [setWait_waits, if_neg hne]
            exact h

theorem dirtyEntry_alive {p : Pair V} (hp : Safe p) (ha : Alive p) (timeout : Option Int) (k : Nat)
    {tree : VBlankTree} (hlucky : tree.lucky = true) :
    Alive (dirtyEntry p timeout k tree.answer).1 := by
  unfold dirtyEntry
  cases p.source.dirtyList.find? k with
  | none => exact ha
  | some e =>
      have hwake := wakeSink_alive hp ha e.slaveDst hlucky
      simp only []
      split
      · exact ha
      · split
        · split
          · exact hwake
          · exact ⟨hwake.prime, hwake.back⟩
        · exact ⟨ha.prime, ha.back⟩

theorem dirtyEntries_alive (answers : Nat → VBlankTree) (ks : List Nat) {p : Pair V} (hp : Safe p)
    (ha : Alive p) (hstale : p.stale = false) (timeout : Option Int)
    (hlucky : ∀ k ∈ ks, (answers k).lucky = true) :
    Alive (ks.foldl (fun r k => dirtyEntry r.1 r.2 k (answers k).answer) (p, timeout)).1 := by
  induction ks generalizing p timeout with
  | nil => exact ha
  | cons k ks ih =>
      have hbody := dirtyEntry_kept hp hstale timeout k (answers k)
      have halive := dirtyEntry_alive hp ha timeout k (hlucky k List.mem_cons_self)
      exact ih hbody.safe halive (hbody.stale hstale) _
        fun j hj => hlucky j (List.mem_cons_of_mem k hj)

/-- Flipping is not active, and without two pixmaps it is not enabled. -/
theorem alive_inactive {p : Pair V} (hoff : p.sink.flippingActive = false)
    (henable : p.sink.enableFlipping = true → p.sink.primePixmap.isSome = true) : Alive p := by
  refine ⟨fun h => ?_, fun hon => absurd (hoff.symm.trans hon) Bool.false_ne_true⟩
  rcases h with h | h
  · exact henable h
  · exact absurd (hoff.symm.trans h) Bool.false_ne_true

theorem finiSharedPixmapFlipping_enable (s : Sink) :
    (finiSharedPixmapFlipping s).enableFlipping = s.enableFlipping := by
  unfold finiSharedPixmapFlipping
  split
  · rfl
  · exact ((abortFlipSeq_same { s with flippingActive := false } s.primePixmap).trans
      (abortFlipSeq_same _ _)).enable

/-- **Each call keeps the chain going.** -/
theorem alive_step (p : Pair V) (act : PairAct V) (h : Safe p ∧ Alive p)
    (hok : Admitted p act ∧ Lucky p act) : Safe (step p act) ∧ Alive (step p act) := by
  obtain ⟨hp, ha⟩ := h
  obtain ⟨hadmitted, hlucky⟩ := hok
  refine ⟨safe_step p act hp hadmitted, ?_⟩
  cases act with
  | startTracking | stopTracking | startSingle | stopSingle | draw => exact ⟨ha.prime, ha.back⟩
  | blockHandler timeout answers =>
      exact dirtyEntries_alive answers _ hp ha hadmitted.2 timeout hlucky
  | enable front back frontOk backOk =>
      have hoff := hadmitted.2.1
      cases frontOk with
      | false => exact alive_inactive hoff fun h => by cases h
      | true =>
          cases backOk with
          | false => exact alive_inactive hoff fun h => by cases h
          | true => exact alive_inactive hoff fun _ => rfl
  | disable =>
      have hoff := (finiSharedPixmapFlipping_targets { p.sink with enableFlipping := false }).2.2
      refine alive_inactive hoff fun h => ?_
      exact absurd ((finiSharedPixmapFlipping_enable { p.sink with enableFlipping := false }).symm.trans
        h) Bool.false_ne_true
  | modeSet answer =>
      show Alive (setModeMajor p answer.answer)
      unfold setModeMajor
      split
      · exact initSharedPixmapFlipping_alive hp ha hadmitted.2.1 hadmitted.2.2 hlucky
      · exact ha
  | dpms on answer =>
      show Alive (outputDpms p on answer.answer)
      unfold outputDpms
      split
      · exact ha
      · cases on with
        | true =>
            obtain ⟨htracked, hstale⟩ := hadmitted.2 rfl
            exact initSharedPixmapFlipping_alive hp ha htracked hstale hlucky
        | false =>
            obtain ⟨hprime, _, hoff⟩ := finiSharedPixmapFlipping_targets p.sink
            refine alive_inactive hoff fun h => ?_
            have henable := (finiSharedPixmapFlipping_enable p.sink).symm.trans h
            exact (congrArg Option.isSome hprime).trans (ha.prime (Or.inl henable))
  | event tree =>
      cases tree with
      | read k answer => exact exec_alive hp ha k hlucky
  | abortSeq k => exact hlucky.elim
  | abortScrn => exact hlucky.elim

/-- **Damage is shown.** After any run of admitted calls that do not fail, up to a block handler of
the source: if flipping is active and the back pixmap has damage that is not copied to it, the
kernel has an event of the chain for it. -/
theorem damage_is_shown (isGPU : Bool) (content pixels : Nat → Pixel → V) (acts : List (PairAct V))
    (timeout : Option Int) (answers : Nat → VBlankTree)
    (hacts : Guarded step (fun p act => Admitted p act ∧ Lucky p act) (.start isGPU content pixels)
      (acts ++ [.blockHandler timeout answers])) :
    let p := run step (.start isGPU content pixels) (acts ++ [.blockHandler timeout answers])
    p.sink.flippingActive = true → ∀ ppix, p.sink.primePixmapBack = some ppix →
      p.pending ppix = true → Live p.sink ppix := by
  intro p hon ppix hback hpending
  obtain ⟨hbefore, hlast⟩ := guarded_append.mp hacts
  have hstart := And.intro (safe_start isGPU content pixels) (alive_start isGPU content pixels)
  have hmid := (hbefore.always alive_step hstart).last
  have hend := alive_step _ _ hmid hlast.1
  have hp : p = step (run step (.start isGPU content pixels) acts)
      (.blockHandler timeout answers) := run_append ..
  rw [hp] at hon hback hpending ⊢
  rcases hend.2.back hon ppix hback with hlive | hwait
  · exact hlive
  · -- The block handler leaves no damage on a pixmap that waits.
    obtain ⟨⟨k, e⟩, hmem, hboth⟩ := List.any_eq_true.mp hpending
    obtain ⟨rfl, hdamage⟩ := of_decide_eq_true hboth
    have hupdated := msDirtyUpdate_updated hmid.1.asks hmid.1.linked timeout answers k e
      (Pending.find?_eq_some.mpr hmem) hdamage
    exact absurd (hupdated.2.symm.trans hwait) Bool.false_ne_true

theorem damage_is_shown_played :
    Live (run step (.start false (fun _ _ => 0) fun _ _ => 0)
      (playedActs ++ [.blockHandler none fun _ => .mk true true [] true])).sink 1 :=
  damage_is_shown false _ _ playedActs none _ (by decide +kernel) (by decide +kernel) 1
    (by decide +kernel) (by decide +kernel)

end LoongsonVideo.Driver.PrimePair
