import LoongsonVideo.Driver.PrimePair
import LoongsonVideo.Verified.Machine

/-!
# The sink of a pair is a sink

`SharedPixmap` models a CRTC with any master: what it answers, and when it
notifies, is left open.  Here the CRTC of a pair is shown to be one of those, so
that what is proved of every sink holds of it.

* `sink_run`: the sink of a run of both sides is a run of the sink.

The calls of the sink's run are those of the pair's, with what the source
answered, and a notification for each pixmap that the block handler wakes.
-/

namespace LoongsonVideo.Driver.PrimePair

open LoongsonVideo.Verified
open LoongsonVideo.Verified.Machine
open LoongsonVideo.Driver.PrimeSource
open LoongsonVideo.Driver.SharedPixmap (Sink SinkAct VblankEventArgs FlipAnswer enqueue submit
  msDrmAbortSeq sharedPixmapPresentOnVBlank sharedPixmapPresent sharedPixmapFlip)

variable {V : Type}

/-! ## One call -/

/-- What the flushes do to the sink is what events of the sink do. -/
def VBlankAnswer.Projects (answer : VBlankAnswer V) : Prop :=
  ∀ p : Pair V, ∃ flushes : List (List SharedPixmap.EventTree),
    (SharedPixmap.flushesOf flushes).foldl (fun s flush => flush s) p.sink =
      (answer.flushes.foldl (fun p flush => flush p) p).sink

theorem presentOnVBlank_projects (p : Pair V) (ppix : Nat) {answer : VBlankAnswer V}
    (h : answer.Projects) :
    ∃ tree : SharedPixmap.VBlankTree, sharedPixmapPresentOnVBlank p.sink ppix tree.answer =
      ((presentOnVBlank p ppix answer).1.sink, (presentOnVBlank p ppix answer).2) := by
  obtain ⟨flushes, hflushes⟩ := h (p.withSink
    (enqueue p.sink ppix ⟨ppix, p.sink.primePixmap, false⟩ answer.queueOk))
  refine ⟨.mk answer.argsOk answer.queueOk flushes answer.accepted, ?_⟩
  simp only [SharedPixmap.VBlankTree.answer]
  unfold sharedPixmapPresentOnVBlank presentOnVBlank
  split
  · rfl
  · split
    · rfl
    · split
      · rfl
      · simp only [SharedPixmap.msQueueVblank, msQueueVblank]
        rw [← hflushes]
        split <;> rfl

/-- A turn, with what the source answers. -/
theorem present_projects (p : Pair V) (ppix : Nat) {answer : PresentAnswer V}
    (h : answer.vblank.Projects) :
    ∃ tree : SharedPixmap.PresentTree, sharedPixmapPresent p.sink ppix tree.answer =
      ((present p ppix answer).1.sink, (present p ppix answer).2) := by
  cases hask : askMaster p ppix with
  | mk p' presented =>
      have hsink : p'.sink = p.sink := by
        have hsame : (askMaster p ppix).1.sink = p.sink := askMaster_sink p ppix
        rw [hask] at hsame
        exact hsame
      cases presented with
      | true =>
          cases hflip : sharedPixmapFlip p.sink ppix answer.flip with
          | mk s ok =>
              obtain ⟨vblank, hvblank⟩ := presentOnVBlank_projects (p'.withSink s) ppix h
              refine ⟨.mk true answer.flip .missing vblank, ?_⟩
              simp only [SharedPixmap.PresentTree.answer, sharedPixmapPresent, if_true, present,
                hask, hsink, hflip]
              cases ok with
              | true => rfl
              | false => exact hvblank
      | false =>
          refine ⟨.mk false answer.flip (.silent true) (.mk false false [] false), ?_⟩
          simp only [SharedPixmap.PresentTree.answer, sharedPixmapPresent, present, hask,
            Bool.false_eq_true, if_false, SharedPixmap.RequestTree.answer,
            SharedPixmap.waitOrRetry, sleep, msRequestSharedPixmapNotifyDamage, if_true]
          rw [← hsink]
          rfl

theorem vblankEventHandler_projects (p : Pair V) (args : VblankEventArgs)
    {answer : PresentAnswer V} (h : answer.vblank.Projects) :
    ∃ tree : SharedPixmap.PresentTree,
      SharedPixmap.sharedPixmapVBlankEventHandler p.sink args tree.answer =
        (vblankEventHandler p args answer).sink := by
  unfold SharedPixmap.sharedPixmapVBlankEventHandler vblankEventHandler
  split
  · cases args.backTarget with
    | none => exact ⟨.mk false answer.flip .missing (.mk false false [] false), rfl⟩
    | some ppix =>
        obtain ⟨tree, htree⟩ := present_projects (p.withSink { p.sink with
          primePixmap := some args.frontTarget
          primePixmapBack := some ppix }) ppix h
        exact ⟨tree, congrArg Prod.fst htree⟩
  · obtain ⟨tree, htree⟩ := present_projects p args.frontTarget h
    exact ⟨tree, congrArg Prod.fst htree⟩

theorem readEvent_projects (p : Pair V) (k : Nat) {answer : PresentAnswer V}
    (h : answer.vblank.Projects) :
    ∃ tree : SharedPixmap.EventTree, tree.exec p.sink = (readEvent p k answer).sink := by
  unfold readEvent
  by_cases hk : k ∈ p.sink.submitted
  · cases hfind : p.sink.queue.find? k with
    | none =>
        refine ⟨.read k (.mk false answer.flip .missing (.mk false false [] false)), ?_⟩
        simp only [SharedPixmap.EventTree.exec, SharedPixmap.readEvent, if_pos hk, hfind]
    | some args =>
        obtain ⟨tree, htree⟩ := vblankEventHandler_projects
          (p.withSink { p.sink with queue := p.sink.queue.remove k }) args h
        refine ⟨.read k tree, ?_⟩
        simp only [SharedPixmap.EventTree.exec, SharedPixmap.readEvent, if_pos hk, hfind]
        exact htree
  · refine ⟨.read k (.mk false answer.flip .missing (.mk false false [] false)), ?_⟩
    simp only [SharedPixmap.EventTree.exec, SharedPixmap.readEvent, if_neg hk]

theorem initSharedPixmapFlipping_projects (p : Pair V) {answer : PresentAnswer V}
    (h : answer.vblank.Projects) :
    ∃ tree : SharedPixmap.PresentTree, (SharedPixmap.initSharedPixmapFlipping p.sink tree.answer).1 =
      (initSharedPixmapFlipping p answer).1.sink := by
  have hany : SharedPixmap.PresentTree := .mk false answer.flip .missing (.mk false false [] false)
  unfold SharedPixmap.initSharedPixmapFlipping initSharedPixmapFlipping
  split
  · exact ⟨hany, rfl⟩
  · split
    · exact ⟨hany, rfl⟩
    · cases p.sink.primePixmapBack with
      | none => exact ⟨hany, rfl⟩
      | some ppix =>
          obtain ⟨tree, htree⟩ := present_projects p ppix h
          refine ⟨tree, ?_⟩
          simp only [htree]
          rfl

theorem notifyDamage_projects (p : Pair V) (ppix : Nat) {answer : VBlankAnswer V}
    (h : answer.Projects) :
    ∃ tree : SharedPixmap.VBlankTree,
      SharedPixmap.msSharedPixmapNotifyDamage p.sink ppix tree.answer =
        (notifyDamage p ppix answer).sink := by
  obtain ⟨tree, htree⟩ :=
    presentOnVBlank_projects (p.withSink (p.sink.setWait ppix false)) ppix h
  refine ⟨tree, ?_⟩
  unfold SharedPixmap.msSharedPixmapNotifyDamage notifyDamage
  split
  · rfl
  · by_cases htargets : ((p.sink.setWait ppix false).primePixmap.isSome &&
        (p.sink.setWait ppix false).primePixmapBack.isSome) = true
    · simp only [withSink_sink, htargets, if_true]
      exact congrArg Prod.fst htree
    · simp only [withSink_sink, htargets, Bool.false_eq_true, if_false]

/-- A wake-up is a notification, or nothing. -/
theorem wakeSink_projects (p : Pair V) (ppix : Nat) {answer : VBlankAnswer V}
    (h : answer.Projects) :
    ∃ acts : List SinkAct, run SharedPixmap.step p.sink acts = (wakeSink p ppix answer).sink := by
  unfold wakeSink
  simp only []
  split
  · obtain ⟨tree, htree⟩ := notifyDamage_projects (p.withSource (p.source.setPriv ppix
      { p.source.priv ppix with notifyOnDamage := false })) ppix h
    exact ⟨[.notifyDamage ppix tree], htree⟩
  · exact ⟨[], rfl⟩

/-! ## Calls within calls -/

mutual

theorem EventTree.exec_projects : (tree : EventTree) → (p : Pair V) →
    ∃ tree' : SharedPixmap.EventTree, tree'.exec p.sink = (tree.exec p).sink
  | .read k (.mk flip vblank), p => by
      simp only [EventTree.exec, PresentTree.answer]
      exact readEvent_projects p k (VBlankTree.answer_projects vblank)

theorem execAll_projects : (trees : List EventTree) → (p : Pair V) →
    ∃ trees' : List SharedPixmap.EventTree,
      SharedPixmap.execAll trees' p.sink = (execAll trees p).sink
  | [], p => ⟨[], by simp only [SharedPixmap.execAll, execAll]⟩
  | tree :: trees, p => by
      obtain ⟨tree', htree⟩ := EventTree.exec_projects tree p
      obtain ⟨trees', htrees⟩ := execAll_projects trees (tree.exec p)
      refine ⟨tree' :: trees', ?_⟩
      simp only [SharedPixmap.execAll, execAll, htree, htrees]

theorem flushesOf_projects : (flushes : List (List EventTree)) → (p : Pair V) →
    ∃ flushes' : List (List SharedPixmap.EventTree),
      (SharedPixmap.flushesOf flushes').foldl (fun s flush => flush s) p.sink =
        ((flushesOf flushes).foldl (fun p flush => flush p) p).sink
  | [], p => ⟨[], by simp only [SharedPixmap.flushesOf, flushesOf, List.foldl_nil]⟩
  | flush :: flushes, p => by
      obtain ⟨flush', hflush⟩ := execAll_projects flush p
      obtain ⟨flushes', hflushes⟩ := flushesOf_projects flushes (execAll flush p)
      refine ⟨flush' :: flushes', ?_⟩
      simp only [SharedPixmap.flushesOf, flushesOf, List.foldl_cons, hflush, hflushes]

theorem VBlankTree.answer_projects : (tree : VBlankTree) →
    VBlankAnswer.Projects (V := V) tree.answer
  | .mk argsOk queueOk flushes accepted => fun p => by
      simp only [VBlankTree.answer]
      exact flushesOf_projects flushes p

end

theorem PresentTree.answer_projects (tree : PresentTree) :
    VBlankAnswer.Projects (PresentTree.answer (V := V) tree).vblank := by
  cases tree with
  | mk flip vblank =>
      simp only [PresentTree.answer]
      exact VBlankTree.answer_projects vblank

/-! ## Runs -/

theorem dirtyEntry_projects (p : Pair V) (timeout : Option Int) (k : Nat)
    {answer : VBlankAnswer V} (h : answer.Projects) :
    ∃ acts : List SinkAct,
      run SharedPixmap.step p.sink acts = (dirtyEntry p timeout k answer).1.sink := by
  unfold dirtyEntry
  split
  · exact ⟨[], rfl⟩
  · split
    · exact ⟨[], rfl⟩
    · split
      · obtain ⟨acts, hacts⟩ := wakeSink_projects p _ h
        refine ⟨acts, ?_⟩
        simp only []
        split
        · exact hacts
        · exact hacts
      · exact ⟨[], rfl⟩

theorem dirtyEntries_projects (answers : Nat → VBlankTree) (ks : List Nat) (p : Pair V)
    (timeout : Option Int) :
    ∃ acts : List SinkAct, run SharedPixmap.step p.sink acts =
      (ks.foldl (fun r k => dirtyEntry r.1 r.2 k (answers k).answer) (p, timeout)).1.sink := by
  induction ks generalizing p timeout with
  | nil => exact ⟨[], rfl⟩
  | cons k ks ih =>
      obtain ⟨acts, hacts⟩ := dirtyEntry_projects p timeout k
        (VBlankTree.answer_projects (V := V) (answers k))
      obtain ⟨acts', hacts'⟩ := ih (dirtyEntry p timeout k (answers k).answer).1
        (dirtyEntry p timeout k (answers k).answer).2
      refine ⟨acts ++ acts', ?_⟩
      rw [run_append, hacts]
      exact hacts'

/-- One call of the pair is calls of the sink. -/
theorem step_projects (p : Pair V) (act : PairAct V) :
    ∃ acts : List SinkAct, run SharedPixmap.step p.sink acts = (step p act).sink := by
  cases act with
  | startTracking | stopTracking | startSingle | stopSingle | draw => exact ⟨[], rfl⟩
  | blockHandler timeout answers => exact dirtyEntries_projects answers _ p timeout
  | enable front back frontOk backOk => exact ⟨[.enable front back frontOk backOk], rfl⟩
  | disable => exact ⟨[.disable], rfl⟩
  | modeSet answer =>
      obtain ⟨tree, htree⟩ := initSharedPixmapFlipping_projects p (V := V) answer.answer_projects
      refine ⟨[.modeSet tree], ?_⟩
      show SharedPixmap.setModeMajor p.sink tree.answer = (setModeMajor p answer.answer).sink
      unfold SharedPixmap.setModeMajor setModeMajor
      split
      · exact htree
      · rfl
  | dpms on answer =>
      obtain ⟨tree, htree⟩ := initSharedPixmapFlipping_projects p (V := V) answer.answer_projects
      refine ⟨[.dpms on tree], ?_⟩
      show SharedPixmap.outputDpms p.sink on tree.answer = (outputDpms p on answer.answer).sink
      unfold SharedPixmap.outputDpms outputDpms
      split
      · rfl
      · split
        · exact htree
        · rfl
  | event tree =>
      obtain ⟨tree', htree⟩ := EventTree.exec_projects tree p
      exact ⟨[.event tree'], htree⟩
  | abortSeq k => exact ⟨[.abortSeq k], rfl⟩
  | abortScrn => exact ⟨[.abortScrn], rfl⟩

/-- **The sink of a pair is a sink.** In any run of both sides, with events read at any point of any
call, the sink goes through a run of the sink alone. -/
theorem sink_run (p : Pair V) (acts : List (PairAct V)) :
    ∃ acts' : List SinkAct, run SharedPixmap.step p.sink acts' = (run step p acts).sink := by
  induction acts generalizing p with
  | nil => exact ⟨[], rfl⟩
  | cons act acts ih =>
      obtain ⟨first, hfirst⟩ := step_projects p act
      obtain ⟨rest, hrest⟩ := ih (step p act)
      refine ⟨first ++ rest, ?_⟩
      rw [run_append, hfirst]
      exact hrest

end LoongsonVideo.Driver.PrimePair
