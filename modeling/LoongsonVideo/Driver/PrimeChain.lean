import LoongsonVideo.Driver.PrimeUpdate
import LoongsonVideo.Driver.SharedPixmapChain

/-!
# The chain of a pair

The sink's chain of events, with the source that feeds it.  While the chain is one
chain, the source copies to a pixmap only when nothing is queued and the pixmap is
not the one that is shown, and each turn of the chain leaves an event to come or a
pixmap that waits.

* `no_tearing`: no copy goes to a pixmap that is shown or about to be, and no copy
  is asked for a pixmap whose entry is gone.
* `damage_is_shown`: after the block handler, where the back pixmap has damage, an
  event is on its way that will ask for it.

`Admitted` is what the server keeps to, and leaves out the calls where the stale
`wait_for_damage` of a chain that was stopped starts a second one.  `Lucky` leaves
out failed allocations, requests that the kernel refuses, and aborts.
-/

namespace LoongsonVideo.Driver.PrimePair

open LoongsonVideo.Verified
open LoongsonVideo.Verified.Machine
open LoongsonVideo.Driver.PrimeSource
open LoongsonVideo.Driver.SharedPixmap (Sink VblankEventArgs FlipAnswer enqueue submit
  msDrmAbortSeq msDrmAbortScrn sharedPixmapFlip sharedPixmapPresent sharedPixmapPresentOnVBlank
  enableSharedPixmapFlipping disableSharedPixmapFlipping finiSharedPixmapFlipping
  Calm Queued Chain Settles SameTargets Silent)

variable {V : Type}

/-! ## A turn with nothing queued -/

theorem EventTree.exec_silent {p : Pair V} (h : Silent p.sink) (tree : EventTree) :
    tree.exec p = p := by
  cases tree with
  | read k answer =>
      simp only [EventTree.exec, readEvent]
      split
      case isTrue hk => rw [h k hk]
      case isFalse => rfl

theorem execAll_silent {p : Pair V} (h : Silent p.sink) (trees : List EventTree) :
    execAll trees p = p := by
  induction trees with
  | nil => simp only [execAll]
  | cons tree trees ih => simp only [execAll, EventTree.exec_silent h, ih]

theorem flushesOf_silent {p : Pair V} (h : Silent p.sink) (flushes : List (List EventTree)) :
    (flushesOf flushes).foldl (fun p flush => flush p) p = p := by
  induction flushes with
  | nil => simp only [flushesOf, List.foldl_nil]
  | cons flush flushes ih => simp only [flushesOf, List.foldl_cons, execAll_silent h, ih]

/-- A request that has just been queued has no event to come. -/
theorem enqueue_silent {s : Sink} (h : Calm s) (ppix : Nat) (args : VblankEventArgs) (ok : Bool) :
    Silent (enqueue s ppix args ok) := by
  cases ok with
  | false => exact (h.setFlipSeq ppix none).silent
  | true =>
      intro k hk
      have hne : k ≠ s.queue.next := Nat.ne_of_lt (h.past k hk)
      show (s.queue.alloc args).find? k = none
      rw [Pending.find?_alloc_ne hne]
      exact h.silent k hk

/-- What the kernel and the allocator answer, without the events. -/
def VBlankTree.flags : VBlankTree → SharedPixmap.VBlankTree
  | .mk argsOk queueOk _ accepted => .mk argsOk queueOk [] accepted

/-- A turn of the sink alone. -/
def PresentTree.turn (presented : Bool) : PresentTree → SharedPixmap.PresentTree
  | .mk flip vblank => .mk presented flip (.silent true) vblank.flags

theorem presentOnVBlank_calm {p : Pair V} (h : Calm p.sink) (ppix : Nat) (tree : VBlankTree) :
    presentOnVBlank p ppix tree.answer =
      (p.withSink (sharedPixmapPresentOnVBlank p.sink ppix tree.flags.answer).1,
        (sharedPixmapPresentOnVBlank p.sink ppix tree.flags.answer).2) := by
  cases tree with
  | mk argsOk queueOk flushes accepted =>
      simp only [VBlankTree.answer, VBlankTree.flags, SharedPixmap.VBlankTree.answer]
      unfold presentOnVBlank sharedPixmapPresentOnVBlank
      by_cases hprime : some ppix = p.sink.primePixmap
      · rw [if_pos hprime, if_pos hprime]
        rfl
      · rw [if_neg hprime, if_neg hprime]
        by_cases hback : some ppix ≠ p.sink.primePixmapBack
        · rw [if_pos hback, if_pos hback]
          rfl
        · rw [if_neg hback, if_neg hback]
          cases argsOk with
          | false => rfl
          | true =>
              have hsilent : Silent (p.withSink
                  (enqueue p.sink ppix ⟨ppix, p.sink.primePixmap, false⟩ queueOk)).sink :=
                enqueue_silent h ppix _ queueOk
              simp only [Bool.not_true, Bool.false_eq_true, if_false, msQueueVblank,
                SharedPixmap.msQueueVblank, SharedPixmap.flushesOf, List.foldl_nil]
              rw [flushesOf_silent hsilent]
              cases accepted <;> rfl

/-- What the source has answered, and whether the pixmap waits. -/
def Pair.asked (p : Pair V) (ppix : Nat) : Pair V :=
  if (askMaster p ppix).2 then (askMaster p ppix).1 else (sleep (askMaster p ppix).1 ppix).1

theorem present_calm {p : Pair V} (h : Calm p.sink) (ppix : Nat) (tree : PresentTree)
    (hwait : (askMaster p ppix).2 = true → p.waits ppix = false) :
    present p ppix tree.answer =
      ((p.asked ppix).withSink
          (sharedPixmapPresent p.sink ppix (tree.turn (askMaster p ppix).2).answer).1,
        (sharedPixmapPresent p.sink ppix (tree.turn (askMaster p ppix).2).answer).2) := by
  have hsink : (askMaster p ppix).1.sink = p.sink := askMaster_sink p ppix
  unfold present Pair.asked
  cases hask : askMaster p ppix with
  | mk p' presented =>
      rw [hask] at hsink hwait
      simp only [] at hsink hwait
      cases tree with
      | mk flip vblank =>
          cases presented with
          | true =>
              have hsettles := SharedPixmap.sharedPixmapFlip_settles h (hwait rfl) flip
              simp only [PresentTree.answer, PresentTree.turn, SharedPixmap.PresentTree.answer,
                sharedPixmapPresent, if_true, hsink]
              cases hflip : sharedPixmapFlip p.sink ppix flip with
              | mk s ok =>
                  rw [hflip] at hsettles
                  cases ok with
                  | true => rfl
                  | false =>
                      have hcalm : Calm (p'.withSink s).sink := (hsettles.failed rfl).1
                      exact presentOnVBlank_calm hcalm ppix vblank
          | false =>
              simp only [PresentTree.turn, SharedPixmap.PresentTree.answer,
                sharedPixmapPresent, Bool.false_eq_true, if_false, sleep, hsink,
                msRequestSharedPixmapNotifyDamage, SharedPixmap.RequestTree.answer,
                SharedPixmap.waitOrRetry, if_true]
              rfl

/-- Handed over while another pixmap, or none, was shown and nothing was queued. -/
def Frame.Private (f : Frame V) : Prop := f.shown ≠ some f.ppix ∧ f.queued = []

/-- A turn for the back pixmap: what was handed over was private, and no record that is gone was
followed. -/
structure Turned (p p' : Pair V) (ppix : Nat) (ok : Bool) : Prop where
  settles : Settles p.sink ppix (p'.sink, ok)
  frozen : Frozen p p'
  asks : Asks p'
  waits : ∀ a, a ≠ ppix → p'.waits a = p.waits a
  fault : p'.source.fault = p.source.fault
  frames : ∀ f ∈ p'.frames, f ∈ p.frames ∨ f.Private

/-- Nothing but the pixmap's own turn changes whether it waits. -/
theorem sharedPixmapPresentOnVBlank_waits (s : Sink) (ppix : Nat) (tree : VBlankTree) :
    SameWaits s (sharedPixmapPresentOnVBlank s ppix tree.flags.answer).1 := by
  cases tree with
  | mk argsOk queueOk flushes accepted =>
      simp only [VBlankTree.flags, SharedPixmap.VBlankTree.answer]
      unfold sharedPixmapPresentOnVBlank
      split
      · exact fun _ => rfl
      · split
        · exact fun _ => rfl
        · split
          · exact fun _ => rfl
          · have hqueue := enqueue_waits s ppix ⟨ppix, s.primePixmap, false⟩ queueOk
            simp only [SharedPixmap.msQueueVblank, SharedPixmap.flushesOf, List.foldl_nil]
            split
            · exact hqueue
            · exact hqueue.trans (msDrmAbortSeq_waits _ _)

theorem sharedPixmapFlip_waits (s : Sink) (ppix : Nat) (answer : FlipAnswer) :
    SameWaits s (sharedPixmapFlip s ppix answer).1 := by
  unfold sharedPixmapFlip
  split
  · exact fun _ => rfl
  · have hqueue := enqueue_waits s ppix ⟨ppix, s.primePixmap, true⟩ answer.queueOk
    simp only []
    split
    · exact hqueue
    · exact hqueue.trans (msDrmAbortSeq_waits _ _)

theorem sharedPixmapPresent_waits (s : Sink) (ppix : Nat) (presented : Bool) (tree : PresentTree)
    {a : Nat} (ha : a ≠ ppix) :
    ((sharedPixmapPresent s ppix (tree.turn presented).answer).1.priv a).waitForDamage =
      (s.priv a).waitForDamage := by
  cases tree with
  | mk flip vblank =>
      cases presented with
      | true =>
          have hflip := sharedPixmapFlip_waits s ppix flip
          simp only [PresentTree.turn, SharedPixmap.PresentTree.answer, sharedPixmapPresent, if_true]
          cases hresult : sharedPixmapFlip s ppix flip with
          | mk s' ok =>
              rw [hresult] at hflip
              cases ok with
              | true => exact hflip a
              | false =>
                  exact (sharedPixmapPresentOnVBlank_waits s' ppix vblank a).trans (hflip a)
      | false =>
          show ((s.setWait ppix true).priv a).waitForDamage = _
          rw [setWait_waits, if_neg ha]

theorem asked_frames (p : Pair V) (ppix : Nat) :
    (p.asked ppix).frames = (askMaster p ppix).1.frames := by
  unfold Pair.asked
  cases (askMaster p ppix).2 <;> rfl

theorem asked_fault (p : Pair V) (ppix : Nat) :
    (p.asked ppix).source.fault = (askMaster p ppix).1.source.fault := by
  unfold Pair.asked
  cases (askMaster p ppix).2 <;> rfl

/-- Asking for a copy of a pixmap with a record, while nothing is queued. -/
theorem askMaster_private {p : Pair V} (hlinked : p.source.Linked) (h : Calm p.sink) {ppix : Nat}
    (hdirty : (p.source.priv ppix).dirty ≠ none) (hprime : p.sink.primePixmap ≠ some ppix) :
    (askMaster p ppix).1.source.fault = p.source.fault ∧
      ∀ f ∈ (askMaster p ppix).1.frames, f ∈ p.frames ∨ f.Private := by
  obtain ⟨k, hk⟩ := Option.ne_none_iff_exists'.mp hdirty
  obtain ⟨e, hfind, _⟩ := hlinked.dirty ppix k hk
  cases askMaster_cases p ppix with
  | gone _ hgone _ => exact absurd hfind (hgone k e hk)
  | clean _ _ _ _ _ hsame _ =>
      rw [hsame]
      exact ⟨rfl, fun f hf => Or.inl hf⟩
  | copied k' e' _ _ _ hsource _ hframes _ =>
      refine ⟨by rw [hsource]; rfl, fun f hf => ?_⟩
      rw [hframes] at hf
      rcases List.mem_append.mp hf with hf | hf
      · unfold Pair.frame at hf
        split at hf
        · cases hf
        · cases List.mem_singleton.mp hf
          refine Or.inr ⟨hprime, ?_⟩
          show p.sink.queue.requests = []
          simp [Pending.requests, h.entries]
      · exact Or.inl hf

/-- The back pixmap has damage that is not copied yet. -/
def Pair.pending (p : Pair V) (ppix : Nat) : Bool :=
  p.source.dirtyList.entries.any fun e => decide (e.2.slaveDst = ppix ∧ p.source.damage e.1 ≠ ∅)

theorem pending_of_mem {p : Pair V} {k : Nat} {e : DirtyUpdate}
    (hfind : p.source.dirtyList.find? k = some e) (hdamage : p.source.damage k ≠ ∅) :
    p.pending e.slaveDst = true := by
  refine List.any_eq_true.mpr ⟨(k, e), Pending.find?_eq_some.mp hfind, ?_⟩
  exact decide_eq_true ⟨rfl, hdamage⟩

theorem pending_of_asked {p : Pair V} (hlinked : p.source.Linked) {ppix : Nat}
    (h : (askMaster p ppix).2 = true) : p.pending ppix = true := by
  cases askMaster_cases p ppix with
  | gone _ _ hfalse => exact absurd (hfalse.symm.trans h) Bool.false_ne_true
  | clean _ _ _ _ _ _ hfalse => exact absurd (hfalse.symm.trans h) Bool.false_ne_true
  | copied k e hdirty hfind hdamage _ _ _ _ =>
      obtain ⟨e', hfind', hslave⟩ := hlinked.dirty ppix k hdirty
      cases hfind.symm.trans hfind'
      rw [← hslave]
      exact pending_of_mem hfind hdamage

/-- Damage goes, it does not come. -/
theorem Frozen.pending {p p' : Pair V} (h : Frozen p p') {ppix : Nat}
    (hp : p'.pending ppix = true) : p.pending ppix = true := by
  obtain ⟨⟨k, e⟩, hmem, hboth⟩ := List.any_eq_true.mp hp
  obtain ⟨hdst, hdamage⟩ := of_decide_eq_true hboth
  rw [h.list] at hmem
  refine List.any_eq_true.mpr ⟨(k, e), hmem, decide_eq_true ⟨hdst, ?_⟩⟩
  rcases h.damage k with hsame | hempty
  · rw [← hsame]
    exact hdamage
  · exact absurd hempty hdamage

/-! ## What the server keeps to -/

/-- The chain was stopped while the back pixmap waited for damage, and now there is some. -/
def Pair.stale (p : Pair V) : Bool :=
  !p.sink.flippingActive &&
    match p.sink.primePixmapBack with
    | none => false
    | some ppix => p.waits ppix && p.pending ppix

/-- The sink's pixmaps are tracked by the source. -/
def Pair.targetsTracked (p : Pair V) : Prop :=
  ∀ ppix ∈ p.sink.primePixmap.toList ++ p.sink.primePixmapBack.toList,
    (p.source.priv ppix).dirty ≠ none

instance (p : Pair V) : Decidable p.targetsTracked := by
  unfold Pair.targetsTracked
  infer_instance

/-- The calls that keep one chain: two pixmaps that do not wait are taken while none is flipped,
their tracking starts before flipping does and ends after it, and a chain that was stopped while it
waited is not started, or woken, by damage of the time in between. -/
def Admitted (p : Pair V) (act : PairAct V) : Prop :=
  Ordered p act ∧
    match act with
    | .stopTracking _ dst1 dst2 =>
        ∀ ppix ∈ p.sink.primePixmap.toList ++ p.sink.primePixmapBack.toList,
          ppix ≠ dst1 ∧ ppix ≠ dst2
    | .enable front back _ _ =>
        p.sink.flippingActive = false ∧ front ≠ back ∧ p.waits front = false
    | .modeSet _ => p.targetsTracked ∧ p.stale = false
    | .dpms on _ => on = true → p.targetsTracked ∧ p.stale = false
    | .blockHandler _ _ => p.stale = false
    | _ => True

instance (p : Pair V) (act : PairAct V) : Decidable (Admitted p act) :=
  match act with
  | .stopTracking _ _ _ => @instDecidableAnd _ _ inferInstance (List.decidableBAll _ _)
  | .enable front back _ _ =>
      inferInstanceAs (Decidable (Ordered p _ ∧
        p.sink.flippingActive = false ∧ front ≠ back ∧ p.waits front = false))
  | .modeSet _ => inferInstanceAs (Decidable (Ordered p _ ∧ p.targetsTracked ∧ p.stale = false))
  | .dpms on _ =>
      inferInstanceAs (Decidable (Ordered p _ ∧ (on = true → p.targetsTracked ∧ p.stale = false)))
  | .blockHandler _ _ => inferInstanceAs (Decidable (Ordered p _ ∧ p.stale = false))
  | .startTracking .. | .startSingle .. | .stopSingle .. | .draw .. | .disable | .event _
  | .abortSeq _ | .abortScrn => inferInstanceAs (Decidable (Ordered p _ ∧ True))

/-- The chain of the pair. -/
structure Safe (p : Pair V) : Prop where
  asks : Asks p
  linked : p.source.Linked
  chain : Chain p.sink
  distinct : ∀ a, p.sink.primePixmap = some a → p.sink.primePixmapBack ≠ some a
  front : ∀ a, p.sink.primePixmap = some a → p.waits a = false
  tracked : p.sink.flippingActive = true → p.targetsTracked
  fault : p.source.fault = false
  frames : ∀ f ∈ p.frames, f.Private

theorem targetsTracked_back {p : Pair V} (h : p.targetsTracked) {ppix : Nat}
    (hback : p.sink.primePixmapBack = some ppix) : (p.source.priv ppix).dirty ≠ none :=
  h ppix (List.mem_append_right _ (by rw [hback]; exact List.mem_singleton_self _))

/-- Same pixmaps, or the two with their roles changed, and the records as they were. -/
theorem Pair.targetsTracked.congr {p p' : Pair V} (h : p.targetsTracked) (hf : Frozen p p')
    (hsub : ∀ ppix ∈ p'.sink.primePixmap.toList ++ p'.sink.primePixmapBack.toList,
      ppix ∈ p.sink.primePixmap.toList ++ p.sink.primePixmapBack.toList) :
    p'.targetsTracked := by
  intro ppix hppix
  rw [hf.dirty]
  exact h ppix (hsub ppix hppix)

theorem safe_start (isGPU : Bool) (content pixels : Nat → Pixel → V) :
    Safe (.start isGPU content pixels) where
  asks := asks_start isGPU content pixels
  linked := linked_start isGPU content pixels
  chain := SharedPixmap.chain_start
  distinct := fun _ h => by cases h
  front := fun _ h => by cases h
  tracked := fun h => by cases h
  fault := rfl
  frames := fun _ hf => absurd hf List.not_mem_nil

/-- A turn for the back pixmap may begin. -/
structure Ready (p : Pair V) (ppix : Nat) : Prop where
  asks : Asks p
  linked : p.source.Linked
  calm : Calm p.sink
  back : p.sink.primePixmapBack = some ppix
  prime : p.sink.primePixmap ≠ some ppix
  front : ∀ a, p.sink.primePixmap = some a → p.waits a = false
  tracked : p.targetsTracked
  wait : p.waits ppix = true → p.pending ppix = false
  fault : p.source.fault = false
  frames : ∀ f ∈ p.frames, f.Private

/-- The source copies only for a pixmap that does not wait. -/
theorem Ready.awake {p : Pair V} {ppix : Nat} (h : Ready p ppix)
    (hasked : (askMaster p ppix).2 = true) : p.waits ppix = false := by
  refine Bool.eq_false_of_not_eq_true fun hon => ?_
  exact absurd ((h.wait hon).symm.trans (pending_of_asked h.linked hasked)) Bool.false_ne_true

/-- **A turn with nothing queued.** -/
theorem Ready.turned {p : Pair V} {ppix : Nat} (h : Ready p ppix) (tree : PresentTree) :
    Turned p (present p ppix tree.answer).1 ppix (present p ppix tree.answer).2 := by
  have hcalm := present_calm h.calm ppix tree h.awake
  have hmoves := present_micros p ppix (PresentTree.answer_moves (V := V) tree)
  obtain ⟨hfault, hframes⟩ := askMaster_private h.linked h.calm
    (targetsTracked_back h.tracked h.back) h.prime
  have hok : SharedPixmap.TurnOk p.sink ppix (tree.turn (askMaster p ppix).2) = true := by
    cases tree with
    | mk flip vblank =>
        cases hresult : (askMaster p ppix).2 with
        | true =>
            have hoff : (p.sink.priv ppix).waitForDamage = false := h.awake hresult
            simp [PresentTree.turn, SharedPixmap.TurnOk, hoff]
        | false =>
            simp [PresentTree.turn, SharedPixmap.TurnOk, SharedPixmap.RequestTree.isMissing,
              SharedPixmap.RequestTree.deniesNotified]
  refine ⟨?_, hmoves.frozen, hmoves.asks h.asks, fun a ha => ?_, ?_, fun f hf => ?_⟩
  · rw [hcalm]
    exact SharedPixmap.sharedPixmapPresent_settles h.calm hok
  · rw [hcalm]
    exact sharedPixmapPresent_waits p.sink ppix _ tree ha
  · rw [hcalm]
    exact (asked_fault p ppix).trans hfault
  · rw [hcalm] at hf
    have hf' : f ∈ (p.asked ppix).frames := hf
    rw [asked_frames] at hf'
    exact hframes f hf'

/-- A turn keeps all of the chain, if flipping is active when there is an entry. -/
theorem Turned.safe {p p' : Pair V} {ppix : Nat} {ok : Bool} (h : Turned p p' ppix ok)
    (hp : Ready p ppix) {active : Bool} (hactive : ok = true → active = true) :
    Safe (p'.withSink { p'.sink with flippingActive := active }) := by
  have hprime : p'.sink.primePixmap = p.sink.primePixmap := h.settles.same.prime
  have hback : p'.sink.primePixmapBack = p.sink.primePixmapBack := h.settles.same.back
  exact
    { asks := h.asks
      linked := h.frozen.linked hp.linked
      chain := by
        rcases h.settles.entry with hcalm | ⟨k, args, hqueued⟩
        · exact .calm (hcalm.targets rfl rfl rfl)
        · -- An entry is left only by a turn that returns `TRUE`.
          have hon : ok = true := by
            refine Bool.eq_true_of_not_eq_false fun hfalse => ?_
            have hempty := (h.settles.failed hfalse).1.entries
            rw [hqueued.entries] at hempty
            cases hempty
          exact .queued ppix k args ⟨hqueued.entries, hqueued.front, hqueued.back, hqueued.priv,
            hqueued.past, hqueued.lines⟩ (hback.trans hp.back) (hactive hon)
      distinct := by
        intro a ha hb
        have hsame : some ppix = some a := hp.back.symm.trans (hback.symm.trans hb)
        exact hp.prime ((hprime.symm.trans ha).trans hsame.symm)
      front := by
        intro a ha
        have hne : a ≠ ppix := fun heq => hp.prime (heq ▸ hprime.symm.trans ha)
        exact (h.waits a hne).trans (hp.front a (hprime.symm.trans ha))
      tracked := by
        intro _
        refine hp.tracked.congr (h.frozen.trans (withSink_frozen _ _)) fun a ha => ?_
        have ha' : a ∈ p'.sink.primePixmap.toList ++ p'.sink.primePixmapBack.toList := ha
        rw [hprime, hback] at ha'
        exact ha'
      fault := h.fault.trans hp.fault
      frames := by
        intro f hf
        rcases h.frames f hf with hold | hnew
        · exact hp.frames f hold
        · exact hnew }

/-- How the chain's event is handled: the back pixmap is gone, or its turn begins, with the roles of
the pixmaps changed after a flip. -/
inductive Handled (p : Pair V) (args : VblankEventArgs) (answer : PresentAnswer V) : Prop where
  | idle (p' : Pair V) (h : vblankEventHandler p args answer = p') (hsafe : Safe p')
      (hprime : p'.sink.primePixmap.isSome = true) (hback : p'.sink.primePixmapBack = none)
  | turn (p' : Pair V) (next : Nat) (h : vblankEventHandler p args answer = (present p' next answer).1)
      (hready : Ready p' next) (hactive : p'.sink.flippingActive = true)
      (hprime : p.sink.primePixmap.isSome = true → p'.sink.primePixmap.isSome = true)

theorem vblankEventHandler_handled {p : Pair V} (hp : Safe p) {ppix k : Nat}
    {args : VblankEventArgs} (h : Queued p.sink ppix k args)
    (hback : p.sink.primePixmapBack = some ppix) (hactive : p.sink.flippingActive = true)
    (answer : PresentAnswer V) :
    Handled (p.withSink { p.sink with queue := p.sink.queue.remove k }) args answer := by
  have hcalm : Calm { p.sink with queue := p.sink.queue.remove k } :=
    ⟨h.remove_entries, h.past, h.lines⟩
  have hawake : p.waits ppix = false := by
    show (p.sink.priv ppix).waitForDamage = false
    rw [h.priv]
  have hprime : p.sink.primePixmap ≠ some ppix := fun heq => hp.distinct ppix heq hback
  have htracked := hp.tracked hactive
  cases hflip : args.flip with
  | false =>
      refine .turn (p.withSink { p.sink with queue := p.sink.queue.remove k }) ppix ?_ ?_ hactive id
      · simp only [vblankEventHandler, hflip, Bool.false_eq_true, if_false, h.front]
      · exact ⟨hp.asks, hp.linked, hcalm, hback, hprime, hp.front, htracked,
          fun hon => absurd (hawake.symm.trans hon) Bool.false_ne_true, hp.fault, hp.frames⟩
  | true =>
      set p' : Pair V := p.withSink { p.sink with
        queue := p.sink.queue.remove k
        primePixmap := some ppix
        primePixmapBack := p.sink.primePixmap } with hp'
      have hcalm' : Calm p'.sink := hcalm.targets rfl rfl rfl
      have hfront : ∀ a, p'.sink.primePixmap = some a → p'.waits a = false := by
        intro a ha
        cases ha
        exact hawake
      have htracked' : p'.targetsTracked := by
        refine htracked.congr (withSink_frozen p _) fun a ha => ?_
        rw [hback]
        exact List.perm_append_comm.mem_iff.mp ha
      cases hnext : p.sink.primePixmap with
      | none =>
          refine .idle p' ?_ ?_ rfl hnext
          · simp only [vblankEventHandler, hflip, if_true, h.front, h.back, hnext, hp']
            rfl
          · exact
              { asks := hp.asks
                linked := hp.linked
                chain := .calm hcalm'
                distinct := fun a _ hb => absurd (hb.symm.trans hnext) (Option.some_ne_none a)
                front := hfront
                tracked := fun _ => htracked'
                fault := hp.fault
                frames := hp.frames }
      | some next =>
          have hne : p'.sink.primePixmap ≠ some next := by
            intro heq
            cases heq
            exact hprime hnext
          refine .turn p' next ?_ ?_ hactive fun _ => rfl
          · simp only [vblankEventHandler, hflip, if_true, h.front, h.back, hnext, hp']
            rfl
          · exact ⟨hp.asks, hp.linked, hcalm', hnext, hne, hfront, htracked',
              fun hon => absurd ((hp.front next hnext).symm.trans hon) Bool.false_ne_true, hp.fault,
              hp.frames⟩

/-- What an event does: nothing, or it is the chain's. -/
theorem EventTree.exec_cases {p : Pair V} (hp : Safe p) (k : Nat) (answer : PresentTree) :
    (EventTree.read k answer).exec p = p ∨
      ∃ ppix args, Queued p.sink ppix k args ∧ p.sink.primePixmapBack = some ppix ∧
        p.sink.flippingActive = true ∧ (EventTree.read k answer).exec p = vblankEventHandler
          (p.withSink { p.sink with queue := p.sink.queue.remove k }) args answer.answer := by
  cases hp.chain with
  | calm hcalm => exact Or.inl (EventTree.exec_silent hcalm.silent _)
  | queued ppix j args h hback hactive =>
      simp only [EventTree.exec, readEvent]
      split
      · cases hfind : p.sink.queue.find? k with
        | none => exact Or.inl rfl
        | some args' =>
            have hmem := Pending.find?_eq_some.mp hfind
            rw [h.entries] at hmem
            cases List.mem_singleton.mp hmem
            exact Or.inr ⟨ppix, args, h, hback, hactive, rfl⟩
      · exact Or.inl rfl

/-- The state after an active turn, as it is. -/
theorem withSink_active {p : Pair V} (h : p.sink.flippingActive = true) :
    p.withSink { p.sink with flippingActive := true } = p := by
  rw [← h]
  rfl

theorem EventTree.exec_safe {p : Pair V} (hp : Safe p) (tree : EventTree) :
    Safe (tree.exec p) := by
  cases tree with
  | read k answer =>
      rcases EventTree.exec_cases hp k answer with hsame | ⟨ppix, args, h, hback, hactive, hexec⟩
      · rw [hsame]
        exact hp
      · rw [hexec]
        cases vblankEventHandler_handled hp h hback hactive answer.answer with
        | idle p' h hsafe _ _ =>
            rw [h]
            exact hsafe
        | turn p' next h hready hon _ =>
            have hturn := hready.turned answer
            have hsafe : Safe ((present p' next answer.answer).1.withSink
                { (present p' next answer.answer).1.sink with flippingActive := true }) :=
              hturn.safe hready fun _ => rfl
            have hon' : (present p' next answer.answer).1.sink.flippingActive = true :=
              hturn.settles.same.active.trans hon
            rw [withSink_active hon'] at hsafe
            rw [h]
            exact hsafe

/-- Flipping starts, or there is nothing to do. -/
theorem initSharedPixmapFlipping_cases {p : Pair V} (hp : Safe p) (htracked : p.targetsTracked)
    (hstale : p.stale = false) (answer : PresentAnswer V) :
    (initSharedPixmapFlipping p answer).1 = p ∨
      ∃ ppix, Ready p ppix ∧ p.sink.enableFlipping = true ∧
        (initSharedPixmapFlipping p answer).1 = (present p ppix answer).1.withSink
          { (present p ppix answer).1.sink with flippingActive := (present p ppix answer).2 } := by
  unfold initSharedPixmapFlipping
  cases henable : p.sink.enableFlipping with
  | false => exact Or.inl rfl
  | true =>
      cases hactive : p.sink.flippingActive with
      | true => exact Or.inl rfl
      | false =>
          cases hback : p.sink.primePixmapBack with
          | none => exact Or.inl rfl
          | some ppix =>
              have hprime : p.sink.primePixmap ≠ some ppix := fun heq => hp.distinct ppix heq hback
              have hwait : p.waits ppix = true → p.pending ppix = false := by
                intro hon
                simpa [Pair.stale, hactive, hback, hon] using hstale
              exact Or.inr ⟨ppix, ⟨hp.asks, hp.linked, hp.chain.calm_of_inactive hactive, hback,
                hprime, hp.front, htracked, hwait, hp.fault, hp.frames⟩, rfl, rfl⟩

theorem initSharedPixmapFlipping_safe {p : Pair V} (hp : Safe p) (htracked : p.targetsTracked)
    (hstale : p.stale = false) (tree : PresentTree) :
    Safe (initSharedPixmapFlipping p tree.answer).1 := by
  rcases initSharedPixmapFlipping_cases hp htracked hstale tree.answer with
    hsame | ⟨ppix, hready, _, hinit⟩
  · rw [hsame]
    exact hp
  · rw [hinit]
    exact (hready.turned tree).safe hready id

/-! ## The update -/

/-- Parts of a pair that no other part depends on are changed. -/
theorem Safe.congr {p p' : Pair V} (hp : Safe p) (hasks : Asks p') (hf : Frozen p p')
    (hchain : Chain p'.sink) (hprime : p'.sink.primePixmap = p.sink.primePixmap)
    (hback : p'.sink.primePixmapBack = p.sink.primePixmapBack)
    (hactive : p'.sink.flippingActive = true → p.sink.flippingActive = true)
    (hwaits : ∀ a, p.sink.primePixmap = some a → p.waits a = false → p'.waits a = false)
    (hfault : p'.source.fault = p.source.fault) (hframes : p'.frames = p.frames) : Safe p' where
  asks := hasks
  linked := hf.linked hp.linked
  chain := hchain
  distinct := by
    intro a ha hb
    rw [hprime] at ha
    rw [hback] at hb
    exact hp.distinct a ha hb
  front := by
    intro a ha
    rw [hprime] at ha
    exact hwaits a ha (hp.front a ha)
  tracked := by
    intro hon
    refine (hp.tracked (hactive hon)).congr hf fun a ha => ?_
    rw [hprime, hback] at ha
    exact ha
  fault := hfault.trans hp.fault
  frames := by
    rw [hframes]
    exact hp.frames

/-- A turn is refused for any pixmap but the back one. -/
theorem presentOnVBlank_other {p : Pair V} {ppix : Nat}
    (hback : p.sink.primePixmapBack ≠ some ppix) (tree : VBlankTree) :
    presentOnVBlank p ppix tree.answer =
      (p.withSink (sharedPixmapPresentOnVBlank p.sink ppix tree.flags.answer).1,
        (sharedPixmapPresentOnVBlank p.sink ppix tree.flags.answer).2) := by
  have hne : some ppix ≠ p.sink.primePixmapBack := Ne.symm hback
  unfold presentOnVBlank sharedPixmapPresentOnVBlank
  by_cases hprime : some ppix = p.sink.primePixmap
  · rw [if_pos hprime, if_pos hprime]
    rfl
  · rw [if_neg hprime, if_neg hprime, if_pos hne, if_pos hne]
    rfl

/-- A pixmap of a chain that is told of damage: the events that are read meanwhile are none of the
chain's. -/
theorem notifyDamage_chain {p : Pair V} (h : Chain p.sink) (ppix : Nat) (tree : VBlankTree) :
    notifyDamage p ppix tree.answer =
      p.withSink (SharedPixmap.msSharedPixmapNotifyDamage p.sink ppix tree.flags.answer) := by
  unfold notifyDamage SharedPixmap.msSharedPixmapNotifyDamage
  cases hwait : (p.sink.priv ppix).waitForDamage with
  | false => rfl
  | true =>
      have hcall : presentOnVBlank (p.withSink (p.sink.setWait ppix false)) ppix tree.answer =
          (p.withSink (sharedPixmapPresentOnVBlank (p.sink.setWait ppix false) ppix
              tree.flags.answer).1,
            (sharedPixmapPresentOnVBlank (p.sink.setWait ppix false) ppix
              tree.flags.answer).2) := by
        by_cases hback : p.sink.primePixmapBack = some ppix
        · have hcalm : Calm p.sink := by
            cases h with
            | calm h => exact h
            | queued front k args h hfront _ =>
                cases hback.symm.trans hfront
                have hoff : (p.sink.priv ppix).waitForDamage = false := by rw [h.priv]
                exact absurd (hoff.symm.trans hwait) Bool.false_ne_true
          exact presentOnVBlank_calm (p := p.withSink _) (hcalm.setWait ppix false) ppix tree
        · exact presentOnVBlank_other (p := p.withSink (p.sink.setWait ppix false)) hback tree
      simp only [Bool.not_true, Bool.false_eq_true, if_false, hcall, withSink_sink]
      split <;> rfl

theorem sharedPixmapPresentOnVBlank_same (s : Sink) (ppix : Nat) (tree : VBlankTree) :
    SameTargets s (sharedPixmapPresentOnVBlank s ppix tree.flags.answer).1 := by
  cases tree with
  | mk argsOk queueOk flushes accepted =>
      simp only [VBlankTree.flags, SharedPixmap.VBlankTree.answer]
      unfold sharedPixmapPresentOnVBlank
      split
      · exact .refl s
      · split
        · exact .refl s
        · split
          · exact .refl s
          · have hqueue := SharedPixmap.enqueue_same s ppix ⟨ppix, s.primePixmap, false⟩ queueOk
            simp only [SharedPixmap.msQueueVblank, SharedPixmap.flushesOf, List.foldl_nil]
            split
            · exact ⟨hqueue.prime, hqueue.back, hqueue.enable, hqueue.active⟩
            · exact hqueue.trans (SharedPixmap.msDrmAbortSeq_same _ _)

/-- Being told of damage makes no pixmap wait. -/
theorem msSharedPixmapNotifyDamage_less (s : Sink) (ppix : Nat) (tree : VBlankTree) :
    SameTargets s (SharedPixmap.msSharedPixmapNotifyDamage s ppix tree.flags.answer) ∧
      ∀ a, ((SharedPixmap.msSharedPixmapNotifyDamage s ppix tree.flags.answer).priv
        a).waitForDamage = true → (s.priv a).waitForDamage = true := by
  have hless : ∀ a, ((s.setWait ppix false).priv a).waitForDamage = true →
      (s.priv a).waitForDamage = true := by
    intro a ha
    rw [setWait_waits] at ha
    by_cases heq : a = ppix
    · rw [if_pos heq] at ha
      cases ha
    · rw [if_neg heq] at ha
      exact ha
  have hset := SharedPixmap.setWait_same s ppix false
  unfold SharedPixmap.msSharedPixmapNotifyDamage
  split
  · exact ⟨.refl s, fun _ h => h⟩
  · simp only []
    split
    · refine ⟨hset.trans (sharedPixmapPresentOnVBlank_same _ ppix tree), fun a ha => hless a ?_⟩
      exact (sharedPixmapPresentOnVBlank_waits _ ppix tree a).symm.trans ha
    · exact ⟨hset, hless⟩

/-- What a turn of the update keeps. -/
structure Kept (p p' : Pair V) : Prop where
  safe : Safe p'
  frozen : Frozen p p'
  same : SameTargets p.sink p'.sink
  waits : ∀ a, p'.waits a = true → p.waits a = true

theorem Kept.refl {p : Pair V} (hp : Safe p) : Kept p p :=
  ⟨hp, .refl p, .refl p.sink, fun _ h => h⟩

theorem Kept.trans {p p' p'' : Pair V} (h : Kept p p') (h' : Kept p' p'') : Kept p p'' :=
  ⟨h'.safe, h.frozen.trans h'.frozen, h.same.trans h'.same, fun a ha => h.waits a (h'.waits a ha)⟩

/-- A stale chain does not come about in the update. -/
theorem Kept.stale {p p' : Pair V} (h : Kept p p') (hp : p.stale = false) : p'.stale = false := by
  refine Bool.eq_false_of_not_eq_true fun hstale => ?_
  have hon : p.stale = true := by
    unfold Pair.stale at hstale ⊢
    rw [h.same.active, h.same.back] at hstale
    rw [Bool.and_eq_true] at hstale ⊢
    refine ⟨hstale.1, ?_⟩
    cases hback : p.sink.primePixmapBack with
    | none =>
        have hboth := hstale.2
        rw [hback] at hboth
        cases hboth
    | some ppix =>
        have hboth := hstale.2
        rw [hback] at hboth
        simp only [Bool.and_eq_true] at hboth ⊢
        exact ⟨h.waits ppix hboth.1, h.frozen.pending hboth.2⟩
  exact absurd (hp.symm.trans hon) Bool.false_ne_true

/-- A pixmap is told of damage.  If it is the back pixmap and waits, flipping is active. -/
theorem wakeSink_kept {p : Pair V} (hp : Safe p) {ppix : Nat}
    (hon : p.sink.primePixmapBack = some ppix → p.waits ppix = true →
      p.sink.flippingActive = true) (tree : VBlankTree) :
    Kept p (wakeSink p ppix tree.answer) := by
  have hmoves := wakeSink_all p ppix (VBlankTree.answer_moves (V := V) tree)
  have hasks := hmoves.asks hp.asks
  have hf := hmoves.frozen
  have hchain := SharedPixmap.msSharedPixmapNotifyDamage_chain hp.chain tree.flags hon
  obtain ⟨hsame, hless⟩ := msSharedPixmapNotifyDamage_less p.sink ppix tree
  have hcall := notifyDamage_chain (p := p.withSource (p.source.setPriv ppix
    { p.source.priv ppix with notifyOnDamage := false })) hp.chain ppix tree
  unfold wakeSink at hasks hf ⊢
  cases hnotify : (p.source.priv ppix).notifyOnDamage with
  | false =>
      simp only [hnotify, Bool.false_eq_true, if_false]
      exact .refl hp
  | true =>
      simp only [hnotify, if_true, hcall] at hasks hf ⊢
      refine ⟨hp.congr hasks hf hchain hsame.prime hsame.back
        (fun h => hsame.active.symm.trans h) (fun a _ hoff => ?_) rfl rfl, hf, hsame, hless⟩
      refine Bool.eq_false_of_not_eq_true fun ha => ?_
      exact absurd (hoff.symm.trans (hless a ha)) Bool.false_ne_true

theorem redisplay_kept {p : Pair V} (hp : Safe p) {k : Nat} {e : DirtyUpdate}
    (hfind : p.source.dirtyList.find? k = some e) (timeout : Option Int) :
    Kept p (redisplay p k e timeout).1 :=
  have hmoves := redisplay_micros hfind timeout
  ⟨hp.congr (hmoves.asks hp.asks) hmoves.frozen hp.chain rfl rfl id (fun _ _ h => h) rfl rfl,
    hmoves.frozen, .refl _, fun _ h => h⟩

theorem dirtyEntry_kept {p : Pair V} (hp : Safe p) (hstale : p.stale = false)
    (timeout : Option Int) (k : Nat) (tree : VBlankTree) :
    Kept p (dirtyEntry p timeout k tree.answer).1 := by
  unfold dirtyEntry
  cases hfind : p.source.dirtyList.find? k with
  | none => exact .refl hp
  | some e =>
      simp only []
      by_cases hdamage : p.source.damage k = ∅
      · rw [if_pos hdamage]
        exact .refl hp
      · rw [if_neg hdamage]
        split
        · have hon : p.sink.primePixmapBack = some e.slaveDst → p.waits e.slaveDst = true →
              p.sink.flippingActive = true := by
            intro hback hwait
            refine Bool.eq_true_of_not_eq_false fun hoff => ?_
            have hpending := pending_of_mem hfind hdamage
            simp [Pair.stale, hoff, hback, hwait, hpending] at hstale
          have hwake := wakeSink_kept hp hon tree
          split
          · exact hwake
          · refine hwake.trans (redisplay_kept hwake.safe ?_ timeout)
            rw [hwake.frozen.list]
            exact hfind
        · exact redisplay_kept hp hfind timeout

theorem dirtyEntries_kept (answers : Nat → VBlankTree) (ks : List Nat) {p : Pair V} (hp : Safe p)
    (hstale : p.stale = false) (timeout : Option Int) :
    Kept p (ks.foldl (fun r k => dirtyEntry r.1 r.2 k (answers k).answer) (p, timeout)).1 := by
  induction ks generalizing p timeout with
  | nil => exact .refl hp
  | cons k ks ih =>
      have hbody := dirtyEntry_kept hp hstale timeout k (answers k)
      exact hbody.trans (ih hbody.safe (hbody.stale hstale) _)

/-! ## Every call -/

/-- A change of the sink that leaves its pixmaps and who waits alone, or takes the pixmaps away. -/
theorem Safe.withSink {p : Pair V} (hp : Safe p) {s : Sink} (hchain : Chain s)
    (hwaits : SameWaits p.sink s) (hprime : s.primePixmap = p.sink.primePixmap)
    (hback : s.primePixmapBack = p.sink.primePixmapBack)
    (hactive : s.flippingActive = true → p.sink.flippingActive = true) : Safe (p.withSink s) :=
  hp.congr (hp.asks.withSink hwaits) (withSink_frozen p s) hchain hprime hback hactive
    (fun a _ hoff => (hwaits a).trans hoff) rfl rfl

theorem Safe.retarget {p : Pair V} (hp : Safe p) {s : Sink} (hcalm : Calm s)
    (hwaits : SameWaits p.sink s) (hoff : s.flippingActive = false)
    (hdistinct : ∀ a, s.primePixmap = some a → s.primePixmapBack ≠ some a)
    (hfront : ∀ a, s.primePixmap = some a → p.waits a = false) : Safe (p.withSink s) where
  asks := hp.asks.withSink hwaits
  linked := hp.linked
  chain := .calm hcalm
  distinct := hdistinct
  front := fun a ha => (hwaits a).trans (hfront a ha)
  tracked := fun hon => absurd (hoff.symm.trans hon) Bool.false_ne_true
  fault := hp.fault
  frames := hp.frames

theorem abortFlipSeq_same (s : Sink) (target : Option Nat) :
    SameTargets s (SharedPixmap.abortFlipSeq s target) := by
  cases target with
  | none => exact .refl s
  | some ppix => exact SharedPixmap.msDrmAbortSeq_same s _

/-- Stopping leaves the pixmaps, and flipping is not active. -/
theorem finiSharedPixmapFlipping_targets (s : Sink) :
    (finiSharedPixmapFlipping s).primePixmap = s.primePixmap ∧
      (finiSharedPixmapFlipping s).primePixmapBack = s.primePixmapBack ∧
      (finiSharedPixmapFlipping s).flippingActive = false := by
  unfold finiSharedPixmapFlipping
  split
  case isTrue hactive => exact ⟨rfl, rfl, (Bool.not_eq_true' _).mp hactive⟩
  case isFalse =>
    have hboth := (abortFlipSeq_same { s with flippingActive := false } s.primePixmap).trans
      (abortFlipSeq_same _
        (SharedPixmap.abortFlipSeq { s with flippingActive := false } s.primePixmap).primePixmapBack)
    exact ⟨hboth.prime, hboth.back, hboth.active⟩

theorem msDrmAbortScrn_same (s : Sink) : SameTargets s (msDrmAbortScrn s) := by
  unfold msDrmAbortScrn
  generalize s.queue.tokens = ks
  induction ks generalizing s with
  | nil => exact .refl s
  | cons k ks ih => exact (SharedPixmap.msDrmAbortSeq_same s (some k)).trans (ih _)

/-- The list changes, and the records of the sink's pixmaps still name entries. -/
theorem Safe.withSource {p : Pair V} (hp : Safe p) {s : Source V} (hlinked : s.Linked)
    (hnotify : ∀ ppix, (s.priv ppix).notifyOnDamage = (p.source.priv ppix).notifyOnDamage)
    (hdirty : ∀ a ∈ p.sink.primePixmap.toList ++ p.sink.primePixmapBack.toList,
      (p.source.priv a).dirty ≠ none → (s.priv a).dirty ≠ none)
    (hfault : s.fault = p.source.fault) : Safe (p.withSource s) where
  asks := by
    intro ppix hwait
    show (s.priv ppix).notifyOnDamage = true
    rw [hnotify]
    exact hp.asks ppix hwait
  linked := hlinked
  chain := hp.chain
  distinct := hp.distinct
  front := hp.front
  tracked := fun hon a ha => hdirty a ha (hp.tracked hon a ha)
  fault := hfault.trans hp.fault
  frames := hp.frames

/-- Where a front pixmap is taken, it is the given one, and so is the back pixmap. -/
theorem enableSharedPixmapFlipping_targets {s : Sink} {front back a : Nat} {frontOk backOk : Bool}
    (ha : (enableSharedPixmapFlipping s front back frontOk backOk).primePixmap = some a) :
    a = front ∧
      (enableSharedPixmapFlipping s front back frontOk backOk).primePixmapBack = some back := by
  cases frontOk with
  | false => cases ha
  | true =>
      cases backOk with
      | false => cases ha
      | true =>
          cases ha
          exact ⟨rfl, rfl⟩

theorem enableSharedPixmapFlipping_active (s : Sink) (front back : Nat) (frontOk backOk : Bool) :
    (enableSharedPixmapFlipping s front back frontOk backOk).flippingActive = s.flippingActive := by
  cases frontOk <;> cases backOk <;> rfl

theorem enableSharedPixmapFlipping_safe {p : Pair V} (hp : Safe p) {front back : Nat}
    (hoff : p.sink.flippingActive = false) (hne : front ≠ back) (hawake : p.waits front = false)
    (frontOk backOk : Bool) :
    Safe (p.withSink (enableSharedPixmapFlipping p.sink front back frontOk backOk)) := by
  have hempty := (hp.chain.calm_of_inactive hoff).entries
  have hcalm := SharedPixmap.enableSharedPixmapFlipping_calm hp.chain hempty front back frontOk
    backOk
  refine hp.retarget hcalm
    (enableSharedPixmapFlipping_waits p.sink front back frontOk backOk)
    ((enableSharedPixmapFlipping_active ..).trans hoff) (fun a ha => ?_) (fun a ha => ?_)
  · obtain ⟨rfl, hback⟩ := enableSharedPixmapFlipping_targets ha
    exact fun heq => hne (Option.some.inj (heq.symm.trans hback))
  · obtain ⟨rfl, -⟩ := enableSharedPixmapFlipping_targets ha
    exact hawake

theorem outputDpms_safe {p : Pair V} (hp : Safe p) {on : Bool}
    (hok : on = true → p.targetsTracked ∧ p.stale = false) (answer : PresentTree) :
    Safe (outputDpms p on answer.answer) := by
  unfold outputDpms
  split
  · exact hp
  · cases on with
    | true =>
        obtain ⟨htracked, hstale⟩ := hok rfl
        exact initSharedPixmapFlipping_safe hp htracked hstale answer
    | false =>
        obtain ⟨hprime, hback, hactive⟩ := finiSharedPixmapFlipping_targets p.sink
        have hcalm := SharedPixmap.finiSharedPixmapFlipping_calm hp.chain
        exact hp.withSink (.calm hcalm) (finiSharedPixmapFlipping_waits p.sink) hprime hback
          fun hon => absurd (hactive.symm.trans hon) Bool.false_ne_true

theorem safe_step (p : Pair V) (act : PairAct V) (hp : Safe p) (hok : Admitted p act) :
    Safe (step p act) := by
  cases act with
  | startTracking src dst1 dst2 t1 t2 ok1 ok2 =>
      obtain ⟨⟨hne, h1, h2⟩, _⟩ := hok
      refine hp.withSource (msStartFlippingPixmapTracking_linked hp.linked hne h1 h2 t1 t2 ok1 ok2)
        (msStartFlippingPixmapTracking_notify p.source src dst1 dst2 t1 t2 ok1 ok2)
        (fun a _ hdirty => ?_) (msStartFlippingPixmapTracking_fault ..)
      exact msStartFlippingPixmapTracking_dirty p.source src t1 t2 ok1 ok2 hdirty
        (fun heq => hdirty (heq ▸ hp.linked.dirty_none h1))
        (fun heq => hdirty (heq ▸ hp.linked.dirty_none h2))
  | stopTracking src dst1 dst2 =>
      refine hp.withSource (msStopFlippingPixmapTracking_linked hp.linked src dst1 dst2)
        (msStopFlippingPixmapTracking_notify p.source src dst1 dst2) (fun a ha hdirty => ?_) rfl
      obtain ⟨hne1, hne2⟩ := hok.2 a ha
      exact msStopFlippingPixmapTracking_dirty p.source src hdirty hne1 hne2
  | startSingle src dst t ok =>
      refine hp.withSource (hp.linked.startTracking hok.1 t ok) (fun ppix => ?_)
        (fun a _ hdirty => ?_) ?_
      · rw [pixmapStartDirtyTracking_priv]
      · rw [pixmapStartDirtyTracking_priv]
        exact hdirty
      · cases ok <;> rfl
  | stopSingle src dst =>
      exact hp.withSource (hp.linked.stopTracking src dst hok.1) (fun _ => rfl)
        (fun _ _ hdirty => hdirty) rfl
  | draw drawable region paint =>
      exact hp.withSource ⟨hp.linked.unique, hp.linked.dirty, hp.linked.deferred⟩ (fun _ => rfl)
        (fun _ _ hdirty => hdirty) rfl
  | blockHandler timeout answers =>
      exact (dirtyEntries_kept answers _ hp hok.2 timeout).safe
  | enable front back frontOk backOk =>
      obtain ⟨_, hoff, hne, hawake⟩ := hok
      exact enableSharedPixmapFlipping_safe hp hoff hne hawake frontOk backOk
  | disable =>
      refine hp.retarget (SharedPixmap.disableSharedPixmapFlipping_calm hp.chain)
        (finiSharedPixmapFlipping_waits { p.sink with enableFlipping := false }) ?_
        (fun a ha => ?_) (fun a ha => ?_)
      · exact (finiSharedPixmapFlipping_targets { p.sink with enableFlipping := false }).2.2
      · cases ha
      · cases ha
  | modeSet answer =>
      show Safe (setModeMajor p answer.answer)
      unfold setModeMajor
      split
      · exact initSharedPixmapFlipping_safe hp hok.2.1 hok.2.2 answer
      · exact hp
  | dpms on answer => exact outputDpms_safe hp hok.2 answer
  | event tree => exact EventTree.exec_safe hp tree
  | abortSeq k =>
      have hsame := SharedPixmap.msDrmAbortSeq_same p.sink (some k)
      exact hp.withSink (hp.chain.abortSeq (some k)) (msDrmAbortSeq_waits p.sink (some k))
        hsame.prime hsame.back fun hon => hsame.active.symm.trans hon
  | abortScrn =>
      have hsame := msDrmAbortScrn_same p.sink
      exact hp.withSink (SharedPixmap.msDrmAbortScrn_chain hp.chain) (msDrmAbortScrn_waits p.sink)
        hsame.prime hsame.back fun hon => hsame.active.symm.trans hon

/-- **No tearing.** In a run of admitted calls, with events read at any point of any call, every
copy went to a pixmap that was not shown and for which nothing was queued, and no copy was asked for
a pixmap whose entry was gone. -/
theorem no_tearing (isGPU : Bool) (content pixels : Nat → Pixel → V) (acts : List (PairAct V))
    (hacts : Guarded step Admitted (.start isGPU content pixels) acts) :
    Always step (fun p => p.source.fault = false ∧ ∀ f ∈ p.frames, f.Private)
      (.start isGPU content pixels) acts :=
  (hacts.always safe_step (safe_start isGPU content pixels)).mono fun _ h => ⟨h.fault, h.frames⟩

theorem no_tearing_played :
    Always step (fun p => p.source.fault = false ∧ ∀ f ∈ p.frames, f.Private)
      (.start false (fun _ _ => 0) fun _ _ => 0) playedActs :=
  no_tearing false _ _ playedActs (by decide +kernel)

/-- Flipping stops while the chain waits, damage wakes it, and the pixmaps are given up with an event
still to come: its handler follows a record that is gone. -/
example :
    let turn : PresentTree := .mk ⟨true, true, true⟩ (.mk true true [] true)
    (run step (.start false (fun _ _ => 0) fun _ _ => 0) (playedActs.dropLast ++
      [.dpms false turn, .draw 7 {(0, 0)} (fun _ => 5),
        .blockHandler none (fun _ => .mk true true [] true), .disable, .stopTracking 7 0 1,
        .event (.read 2 turn)])).source.fault = true := by
  decide +kernel

end LoongsonVideo.Driver.PrimePair
