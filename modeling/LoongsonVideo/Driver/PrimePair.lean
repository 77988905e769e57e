import LoongsonVideo.Driver.PrimeSource
import LoongsonVideo.Driver.SharedPixmap
import Mathlib.Logic.Relation

/-!
# Source and sink together

Both sides of PRIME: the screen that is drawn on, and a CRTC of another GPU that
flips between two pixmaps shared with it.  `SharedPixmap` leaves open what the
master answers; here it is the code of `PrimeSource`, and the notifications of
the CRTC come from the master's `ms_dirty_update`.

* `present`, `presentOnVBlank`, `vblankEventHandler`: the calls of the sink, with
  the state of both sides handed through, as either side calls the other.
* `msDirtyUpdate`: the update of the source, which wakes the sink.
* `Micro`: what all these calls are made of, events that are read in the middle of
  them included, and `Frozen`: what no move changes.

The pixmaps handed over are noted in `frames`, with what was drawn at that time,
which pixmap was on the screen and what was queued.
-/

namespace LoongsonVideo.Driver.PrimePair

open LoongsonVideo.Verified
open LoongsonVideo.Driver.PrimeSource
open LoongsonVideo.Driver.SharedPixmap (Sink VblankEventArgs FlipAnswer enqueue submit
  msDrmAbortSeq msDrmAbortScrn sharedPixmapFlip enableSharedPixmapFlipping
  disableSharedPixmapFlipping finiSharedPixmapFlipping)

/-- A pixmap is handed over: what is to be seen in it, what is, which pixmap is
shown and what is queued. -/
structure Frame (V : Type) where
  ppix : Nat
  cells : Finset Pixel
  scene : Pixel → V
  image : Pixel → V
  shown : Option Nat
  queued : List VblankEventArgs

structure Pair (V : Type) where
  source : Source V
  sink : Sink
  frames : List (Frame V)

variable {V : Type}

def Pair.start (isGPU : Bool) (content : Nat → Pixel → V) (pixels : Nat → Pixel → V) : Pair V :=
  ⟨.start isGPU content pixels, .start, []⟩

def Pair.withSink (p : Pair V) (sink : Sink) : Pair V := { p with sink := sink }

def Pair.withSource (p : Pair V) (source : Source V) : Pair V := { p with source := source }

@[simp] theorem withSink_sink (p : Pair V) (s : Sink) : (p.withSink s).sink = s := rfl

@[simp] theorem withSink_source (p : Pair V) (s : Sink) : (p.withSink s).source = p.source := rfl

@[simp] theorem withSource_sink (p : Pair V) (s : Source V) :
    (p.withSource s).sink = p.sink := rfl

@[simp] theorem withSource_source (p : Pair V) (s : Source V) :
    (p.withSource s).source = s := rfl

/-- The frame of a pixmap that has just been brought up to date. -/
def Pair.frame (p : Pair V) (ppix : Nat) : List (Frame V) :=
  match (p.source.priv ppix).dirty.bind p.source.dirtyList.find? with
  | none => []
  | some e =>
      [⟨ppix, e.cells, fun q => p.source.content e.src (e.view q), p.source.pixels ppix,
        p.sink.primePixmap, p.sink.queue.requests⟩]

/-! ## The calls of the sink -/

/-- What `drmmode_SharedPixmapPresentOnVBlank` meets. -/
structure VBlankAnswer (V : Type) where
  argsOk : Bool
  queueOk : Bool
  flushes : List (Pair V → Pair V)
  accepted : Bool

/-- What `drmmode_SharedPixmapPresent` meets, apart from the master. -/
structure PresentAnswer (V : Type) where
  flip : FlipAnswer
  vblank : VBlankAnswer V

/-- `ms_queue_vblank`. -/
def msQueueVblank (p : Pair V) (seq : Option Nat) (flushes : List (Pair V → Pair V))
    (accepted : Bool) : Pair V × Bool :=
  let p := flushes.foldl (fun p flush => flush p) p
  if accepted then (p.withSink (submit p.sink seq), true)
  else (p.withSink (msDrmAbortSeq p.sink seq), false)

/-- `drmmode_SharedPixmapPresentOnVBlank`. -/
def presentOnVBlank (p : Pair V) (ppix : Nat) (answer : VBlankAnswer V) : Pair V × Bool :=
  if some ppix = p.sink.primePixmap then (p, false)
  else if some ppix ≠ p.sink.primePixmapBack then (p, false)
  else if !answer.argsOk then (p, false)
  else
    let p := p.withSink (enqueue p.sink ppix ⟨ppix, p.sink.primePixmap, false⟩ answer.queueOk)
    msQueueVblank p (p.sink.priv ppix).flipSeq answer.flushes answer.accepted

/-- The master's `PresentSharedPixmap`. -/
def askMaster (p : Pair V) (ppix : Nat) : Pair V × Bool :=
  let r := msPresentSharedPixmap p.source ppix
  let p := p.withSource r.1
  (if r.2 then { p with frames := p.frame ppix ++ p.frames } else p, r.2)

/-- `wait_for_damage`, and the master's `RequestSharedPixmapNotifyDamage`. -/
def sleep (p : Pair V) (ppix : Nat) : Pair V × Bool :=
  let p := p.withSink (p.sink.setWait ppix true)
  let r := msRequestSharedPixmapNotifyDamage p.source ppix
  (p.withSource r.1, r.2)

/-- `drmmode_SharedPixmapPresent`. -/
def present (p : Pair V) (ppix : Nat) (answer : PresentAnswer V) : Pair V × Bool :=
  match askMaster p ppix with
  | (p, true) =>
      match sharedPixmapFlip p.sink ppix answer.flip with
      | (s, true) => (p.withSink s, true)
      | (s, false) => presentOnVBlank (p.withSink s) ppix answer.vblank
  | (p, false) =>
      match sleep p ppix with
      | (p, true) => (p, true)
      | (p, false) => presentOnVBlank (p.withSink (p.sink.setWait ppix false)) ppix answer.vblank

/-- `drmmode_SharedPixmapVBlankEventHandler`. -/
def vblankEventHandler (p : Pair V) (args : VblankEventArgs) (answer : PresentAnswer V) :
    Pair V :=
  if args.flip then
    let p := p.withSink { p.sink with
      primePixmap := some args.frontTarget
      primePixmapBack := args.backTarget }
    match args.backTarget with
    | none => p
    | some ppix => (present p ppix answer).1
  else (present p args.frontTarget answer).1

/-- An event for sequence `k` is read. -/
def readEvent (p : Pair V) (k : Nat) (answer : PresentAnswer V) : Pair V :=
  if k ∈ p.sink.submitted then
    match p.sink.queue.find? k with
    | none => p
    | some args =>
        vblankEventHandler (p.withSink { p.sink with queue := p.sink.queue.remove k }) args answer
  else p

/-- `msSharedPixmapNotifyDamage`. -/
def notifyDamage (p : Pair V) (ppix : Nat) (answer : VBlankAnswer V) : Pair V :=
  if !(p.sink.priv ppix).waitForDamage then p
  else
    let p := p.withSink (p.sink.setWait ppix false)
    if p.sink.primePixmap.isSome && p.sink.primePixmapBack.isSome then
      (presentOnVBlank p ppix answer).1
    else p

/-- `drmmode_InitSharedPixmapFlipping`. -/
def initSharedPixmapFlipping (p : Pair V) (answer : PresentAnswer V) : Pair V × Bool :=
  if !p.sink.enableFlipping then (p, false)
  else if p.sink.flippingActive then (p, true)
  else
    match p.sink.primePixmapBack with
    | none => (p, false)
    | some ppix =>
        let r := present p ppix answer
        (r.1.withSink { r.1.sink with flippingActive := r.2 }, r.2)

/-- The end of a mode set in `drmmode_set_mode_major`. -/
def setModeMajor (p : Pair V) (answer : PresentAnswer V) : Pair V :=
  if p.sink.primePixmapBack.isSome then (initSharedPixmapFlipping p answer).1 else p

/-- The end of `drmmode_output_dpms`. -/
def outputDpms (p : Pair V) (on : Bool) (answer : PresentAnswer V) : Pair V :=
  if !p.sink.enableFlipping then p
  else if on then (initSharedPixmapFlipping p answer).1
  else p.withSink (finiSharedPixmapFlipping p.sink)

/-! ## The update of the source -/

/-- The damage of one entry is copied, now. -/
def redisplay (p : Pair V) (k : Nat) (e : DirtyUpdate) (timeout : Option Int) :
    Pair V × Option Int :=
  let r := redisplayDirty p.source k e timeout
  (p.withSource (r.1.damageEmpty k), r.2)

/-- `notify_on_damage` of an entry's pixmap. -/
def wakeSink (p : Pair V) (ppix : Nat) (answer : VBlankAnswer V) : Pair V :=
  let priv := p.source.priv ppix
  if priv.notifyOnDamage then
    notifyDamage (p.withSource (p.source.setPriv ppix { priv with notifyOnDamage := false })) ppix
      answer
  else p

/-- One turn of the loop of `ms_dirty_update`. -/
def dirtyEntry (p : Pair V) (timeout : Option Int) (k : Nat) (answer : VBlankAnswer V) :
    Pair V × Option Int :=
  match p.source.dirtyList.find? k with
  | none => (p, timeout)
  | some e =>
      if p.source.damage k = ∅ then (p, timeout)
      else if !p.source.isGPU then
        let p := wakeSink p e.slaveDst answer
        if (p.source.priv e.slaveDst).deferDirtyUpdate then (p, timeout)
        else redisplay p k e timeout
      else redisplay p k e timeout

/-- `ms_dirty_update`; `answers` is what a wake-up for an entry meets. -/
def msDirtyUpdate (p : Pair V) (timeout : Option Int) (answers : Nat → VBlankAnswer V) :
    Pair V × Option Int :=
  p.source.dirtyList.tokens.foldl (fun r k => dirtyEntry r.1 r.2 k (answers k)) (p, timeout)

/-! ## Runs as trees -/

mutual

/-- The event of sequence `k` is read, and what its handler meets. -/
inductive EventTree where
  | read (k : Nat) (answer : PresentTree)

inductive PresentTree where
  | mk (flip : FlipAnswer) (vblank : VBlankTree)

/-- Each flush is the events that are read in it. -/
inductive VBlankTree where
  | mk (argsOk queueOk : Bool) (flushes : List (List EventTree)) (accepted : Bool)

end

mutual

def EventTree.exec : EventTree → Pair V → Pair V
  | .read k answer, p => readEvent p k answer.answer

def execAll : List EventTree → Pair V → Pair V
  | [], p => p
  | tree :: trees, p => execAll trees (tree.exec p)

def flushesOf : List (List EventTree) → List (Pair V → Pair V)
  | [] => []
  | flush :: flushes => execAll flush :: flushesOf flushes

def PresentTree.answer : PresentTree → PresentAnswer V
  | .mk flip vblank => ⟨flip, vblank.answer⟩

def VBlankTree.answer : VBlankTree → VBlankAnswer V
  | .mk argsOk queueOk flushes accepted => ⟨argsOk, queueOk, flushesOf flushes, accepted⟩

end

/-- One thing that happens to the pair.  `startSingle` and `stopSingle` are the
server's tracking of a pixmap that is not flipped. -/
inductive PairAct (V : Type) where
  | startTracking (src slaveDst1 slaveDst2 : Nat) (t1 t2 : Tracking) (ok1 ok2 : Bool)
  | stopTracking (src slaveDst1 slaveDst2 : Nat)
  | startSingle (src slaveDst : Nat) (t : Tracking) (ok : Bool)
  | stopSingle (src slaveDst : Nat)
  | draw (drawable : Nat) (region : Finset Pixel) (paint : Pixel → V)
  | blockHandler (timeout : Option Int) (answers : Nat → VBlankTree)
  | enable (front back : Nat) (frontOk backOk : Bool)
  | disable
  | modeSet (answer : PresentTree)
  | dpms (on : Bool) (answer : PresentTree)
  | event (tree : EventTree)
  | abortSeq (k : Nat)
  | abortScrn

def step (p : Pair V) : PairAct V → Pair V
  | .startTracking src dst1 dst2 t1 t2 ok1 ok2 =>
      p.withSource (msStartFlippingPixmapTracking p.source src dst1 dst2 t1 t2 ok1 ok2).1
  | .stopTracking src dst1 dst2 =>
      p.withSource (msStopFlippingPixmapTracking p.source src dst1 dst2).1
  | .startSingle src dst t ok => p.withSource (pixmapStartDirtyTracking p.source src dst t ok).1
  | .stopSingle src dst => p.withSource (pixmapStopDirtyTracking p.source src dst).1
  | .draw drawable region paint => p.withSource (draw p.source drawable region paint)
  | .blockHandler timeout answers => (msDirtyUpdate p timeout fun k => (answers k).answer).1
  | .enable front back frontOk backOk =>
      p.withSink (enableSharedPixmapFlipping p.sink front back frontOk backOk)
  | .disable => p.withSink (disableSharedPixmapFlipping p.sink)
  | .modeSet answer => setModeMajor p answer.answer
  | .dpms on answer => outputDpms p on answer.answer
  | .event tree => tree.exec p
  | .abortSeq k => p.withSink (msDrmAbortSeq p.sink (some k))
  | .abortScrn => p.withSink (msDrmAbortScrn p.sink)

/-! ## What the calls are made of -/

/-- One move of a call. -/
inductive Micro : Pair V → Pair V → Prop where
  | enqueue (p : Pair V) (ppix : Nat) (args : VblankEventArgs) (ok : Bool) :
      Micro p (p.withSink (enqueue p.sink ppix args ok))
  | submit (p : Pair V) (seq : Option Nat) : Micro p (p.withSink (submit p.sink seq))
  | abort (p : Pair V) (seq : Option Nat) : Micro p (p.withSink (msDrmAbortSeq p.sink seq))
  | remove (p : Pair V) (k : Nat) :
      Micro p (p.withSink { p.sink with queue := p.sink.queue.remove k })
  | targets (p : Pair V) (prime back : Option Nat) :
      Micro p (p.withSink { p.sink with primePixmap := prime, primePixmapBack := back })
  | active (p : Pair V) (on : Bool) : Micro p (p.withSink { p.sink with flippingActive := on })
  | handOver (p : Pair V) (ppix : Nat) (h : (askMaster p ppix).2 = true) :
      Micro p (askMaster p ppix).1
  | sleep (p : Pair V) (ppix : Nat) (h : (askMaster p ppix).2 = false) :
      Micro p (sleep (askMaster p ppix).1 ppix).1
  | wake (p : Pair V) (ppix : Nat) :
      Micro p ((p.withSource (p.source.setPriv ppix
        { p.source.priv ppix with notifyOnDamage := false })).withSink (p.sink.setWait ppix false))
  | redisplay (p : Pair V) (k : Nat) (e : DirtyUpdate) (timeout : Option Int)
      (h : p.source.dirtyList.find? k = some e) : Micro p (redisplay p k e timeout).1

def Micros : Pair V → Pair V → Prop := Relation.ReflTransGen Micro

theorem Micros.refl (p : Pair V) : Micros p p := Relation.ReflTransGen.refl

theorem Micro.micros {p p' : Pair V} (h : Micro p p') : Micros p p' := .single h

theorem Micros.trans {p p' p'' : Pair V} (h : Micros p p') (h' : Micros p' p'') : Micros p p'' :=
  Relation.ReflTransGen.trans h h'

/-- What every move keeps, all moves keep. -/
theorem Micros.keeps {I : Pair V → Prop} (hmicro : ∀ p p', Micro p p' → I p → I p')
    {p p' : Pair V} (h : Micros p p') (hp : I p) : I p' := by
  induction h with
  | refl => exact hp
  | tail _ hlast ih => exact hmicro _ _ hlast ih

/-- Whatever the flushes do is made of moves. -/
def VBlankAnswer.Moves (answer : VBlankAnswer V) : Prop :=
  ∀ p, Micros p (answer.flushes.foldl (fun p flush => flush p) p)

theorem presentOnVBlank_micros (p : Pair V) (ppix : Nat) {answer : VBlankAnswer V}
    (h : answer.Moves) : Micros p (presentOnVBlank p ppix answer).1 := by
  unfold presentOnVBlank
  split
  · exact .refl p
  · split
    · exact .refl p
    · split
      · exact .refl p
      · have hqueue : Micros p (p.withSink
            (enqueue p.sink ppix ⟨ppix, p.sink.primePixmap, false⟩ answer.queueOk)) :=
          (Micro.enqueue p ppix _ _).micros
        simp only [msQueueVblank]
        split
        · exact (hqueue.trans (h _)).trans (Micro.submit _ _).micros
        · exact (hqueue.trans (h _)).trans (Micro.abort _ _).micros

/-- `drmmode_SharedPixmapFlip` does what the sink does. -/
theorem sharedPixmapFlip_micros (p : Pair V) (ppix : Nat) (answer : FlipAnswer) :
    Micros p (p.withSink (sharedPixmapFlip p.sink ppix answer).1) := by
  unfold sharedPixmapFlip
  split
  · exact .refl p
  · have hqueue : Micros p (p.withSink
        (enqueue p.sink ppix ⟨ppix, p.sink.primePixmap, true⟩ answer.queueOk)) :=
      (Micro.enqueue p ppix _ _).micros
    simp only []
    split
    · exact hqueue.trans (Micro.submit (p.withSink _) _).micros
    · exact hqueue.trans (Micro.abort (p.withSink _) _).micros

theorem present_micros (p : Pair V) (ppix : Nat) {answer : PresentAnswer V}
    (h : answer.vblank.Moves) : Micros p (present p ppix answer).1 := by
  unfold present
  cases hask : askMaster p ppix with
  | mk p' presented =>
      cases presented with
      | true =>
          have hover : Micros p p' := by
            have hmicro := Micro.handOver p ppix (by rw [hask])
            rw [hask] at hmicro
            exact hmicro.micros
          have hflip := hover.trans (sharedPixmapFlip_micros p' ppix answer.flip)
          simp only []
          cases hresult : sharedPixmapFlip p'.sink ppix answer.flip with
          | mk s ok =>
              rw [hresult] at hflip
              cases ok with
              | true => exact hflip
              | false => exact hflip.trans (presentOnVBlank_micros _ ppix h)
      | false =>
          have hmicro := Micro.sleep p ppix (by rw [hask])
          rw [hask] at hmicro
          exact hmicro.micros

theorem vblankEventHandler_micros (p : Pair V) (args : VblankEventArgs) {answer : PresentAnswer V}
    (h : answer.vblank.Moves) : Micros p (vblankEventHandler p args answer) := by
  unfold vblankEventHandler
  split
  · have htargets := (Micro.targets p (some args.frontTarget) args.backTarget).micros
    simp only []
    split
    · exact htargets
    · exact htargets.trans (present_micros _ _ h)
  · exact present_micros p _ h

theorem readEvent_micros (p : Pair V) (k : Nat) {answer : PresentAnswer V}
    (h : answer.vblank.Moves) : Micros p (readEvent p k answer) := by
  unfold readEvent
  split
  · split
    · exact .refl p
    · exact (Micro.remove p k).micros.trans (vblankEventHandler_micros _ _ h)
  · exact .refl p

theorem initSharedPixmapFlipping_micros (p : Pair V) {answer : PresentAnswer V}
    (h : answer.vblank.Moves) : Micros p (initSharedPixmapFlipping p answer).1 := by
  unfold initSharedPixmapFlipping
  split
  · exact .refl p
  · split
    · exact .refl p
    · split
      · exact .refl p
      · exact (present_micros p _ h).trans (Micro.active _ _).micros

theorem setWait_false_of_not {s : Sink} {ppix : Nat} (h : (s.priv ppix).waitForDamage = false) :
    s.setWait ppix false = s := by
  have hpriv : ({ s.priv ppix with waitForDamage := false } : SharedPixmap.PixmapPriv) =
      s.priv ppix := by
    rw [← h]
  unfold Sink.setWait
  rw [hpriv, Function.update_eq_self]

/-- A wake-up is the move and what the sink goes on with. -/
theorem wakeSink_micros (p : Pair V) (ppix : Nat) {answer : VBlankAnswer V} (h : answer.Moves) :
    ((p.source.priv ppix).notifyOnDamage = false ∧ wakeSink p ppix answer = p) ∨
      Micros ((p.withSource (p.source.setPriv ppix
        { p.source.priv ppix with notifyOnDamage := false })).withSink (p.sink.setWait ppix false))
        (wakeSink p ppix answer) := by
  unfold wakeSink
  cases hnotify : (p.source.priv ppix).notifyOnDamage with
  | false =>
      simp only [hnotify, Bool.false_eq_true, if_false]
      exact Or.inl ⟨trivial, trivial⟩
  | true =>
      apply Or.inr
      simp only [hnotify, if_true, notifyDamage]
      split
      case isTrue hwait =>
        have hwait' : (p.sink.priv ppix).waitForDamage = false :=
          (Bool.not_eq_true' _).mp hwait
        rw [setWait_false_of_not hwait']
        exact .refl _
      case isFalse hwait =>
        split
        · exact presentOnVBlank_micros _ ppix h
        · exact .refl _

theorem wakeSink_all (p : Pair V) (ppix : Nat) {answer : VBlankAnswer V} (h : answer.Moves) :
    Micros p (wakeSink p ppix answer) := by
  rcases wakeSink_micros p ppix h with ⟨_, hsame⟩ | hmicros
  · rw [hsame]
    exact .refl p
  · exact (Micro.wake p ppix).micros.trans hmicros

mutual

theorem EventTree.exec_micros : (tree : EventTree) → (p : Pair V) → Micros p (tree.exec p)
  | .read k (.mk flip vblank), p => by
      simp only [EventTree.exec, PresentTree.answer]
      exact readEvent_micros p k (VBlankTree.answer_moves vblank)

theorem execAll_micros : (trees : List EventTree) → (p : Pair V) → Micros p (execAll trees p)
  | [], p => by
      simp only [execAll]
      exact .refl p
  | tree :: trees, p => by
      simp only [execAll]
      exact (EventTree.exec_micros tree p).trans (execAll_micros trees _)

theorem flushesOf_micros : (flushes : List (List EventTree)) → (p : Pair V) →
    Micros p ((flushesOf flushes).foldl (fun p flush => flush p) p)
  | [], p => by
      simp only [flushesOf, List.foldl_nil]
      exact .refl p
  | flush :: flushes, p => by
      simp only [flushesOf, List.foldl_cons]
      exact (execAll_micros flush p).trans (flushesOf_micros flushes _)

theorem VBlankTree.answer_moves : (tree : VBlankTree) →
    VBlankAnswer.Moves (V := V) tree.answer
  | .mk argsOk queueOk flushes accepted => fun p => by
      simp only [VBlankTree.answer]
      exact flushesOf_micros flushes p

end

theorem redisplay_micros {p : Pair V} {k : Nat} {e : DirtyUpdate}
    (h : p.source.dirtyList.find? k = some e) (timeout : Option Int) :
    Micros p (redisplay p k e timeout).1 := (Micro.redisplay p k e timeout h).micros

/-! ## What no move changes -/

/-- What the moves leave alone. -/
structure Frozen (p p' : Pair V) : Prop where
  list : p'.source.dirtyList = p.source.dirtyList
  content : p'.source.content = p.source.content
  gpu : p'.source.isGPU = p.source.isGPU
  dirty : ∀ ppix, (p'.source.priv ppix).dirty = (p.source.priv ppix).dirty
  deferred : ∀ ppix, (p'.source.priv ppix).deferDirtyUpdate = (p.source.priv ppix).deferDirtyUpdate
  damage : ∀ k, p'.source.damage k = p.source.damage k ∨ p'.source.damage k = ∅

theorem Frozen.refl (p : Pair V) : Frozen p p :=
  ⟨rfl, rfl, rfl, fun _ => rfl, fun _ => rfl, fun _ => Or.inl rfl⟩

theorem Frozen.trans {p p' p'' : Pair V} (h : Frozen p p') (h' : Frozen p' p'') :
    Frozen p p'' := by
  refine ⟨h'.list.trans h.list, h'.content.trans h.content, h'.gpu.trans h.gpu,
    fun ppix => (h'.dirty ppix).trans (h.dirty ppix),
    fun ppix => (h'.deferred ppix).trans (h.deferred ppix), fun k => ?_⟩
  rcases h'.damage k with hsame | hempty
  · rw [hsame]
    exact h.damage k
  · exact Or.inr hempty

theorem Frozen.linked {p p' : Pair V} (h : Frozen p p') (hp : p.source.Linked) :
    p'.source.Linked := by
  refine ⟨?_, fun ppix k hdirty => ?_, fun ppix hdefer => ?_⟩
  · rw [h.list]
    exact hp.unique
  · rw [h.dirty] at hdirty
    rw [h.list]
    exact hp.dirty ppix k hdirty
  · rw [h.deferred] at hdefer
    rw [h.dirty]
    exact hp.deferred ppix hdefer

theorem withSink_frozen (p : Pair V) (sink : Sink) : Frozen p (p.withSink sink) :=
  ⟨rfl, rfl, rfl, fun _ => rfl, fun _ => rfl, fun _ => Or.inl rfl⟩

theorem damageEmpty_frozen (p : Pair V) (k : Nat) (e : DirtyUpdate) :
    Frozen p (p.withSource ((pixmapSyncDirtyHelper p.source k e).damageEmpty k)) := by
  refine ⟨rfl, rfl, rfl, fun _ => rfl, fun _ => rfl, fun j => ?_⟩
  show Function.update p.source.damage k ∅ j = _ ∨ Function.update p.source.damage k ∅ j = ∅
  by_cases hj : j = k
  · subst hj
    exact Or.inr (Function.update_self ..)
  · exact Or.inl (Function.update_of_ne hj ..)

theorem notify_frozen (p : Pair V) (ppix : Nat) (notify : Bool) :
    Frozen p (p.withSource (p.source.setPriv ppix
      { p.source.priv ppix with notifyOnDamage := notify })) := by
  refine ⟨rfl, rfl, rfl, fun j => ?_, fun j => ?_, fun _ => Or.inl rfl⟩
  all_goals
    by_cases hj : j = ppix
    · subst hj
      simp [Pair.withSource]
    · simp [Pair.withSource, setPriv_of_ne hj]

/-- How the master answers `PresentSharedPixmap`: the record or its entry is gone, there is
nothing to copy, or the entry is copied. -/
inductive Asked (p : Pair V) (ppix : Nat) : Prop where
  | gone (hsource : (askMaster p ppix).1 = p.withSource { p.source with fault := true })
      (h : ∀ k e, (p.source.priv ppix).dirty = some k → p.source.dirtyList.find? k ≠ some e)
      (hfalse : (askMaster p ppix).2 = false)
  | clean (k : Nat) (e : DirtyUpdate) (hdirty : (p.source.priv ppix).dirty = some k)
      (hfind : p.source.dirtyList.find? k = some e) (hdamage : p.source.damage k = ∅)
      (hsame : (askMaster p ppix).1 = p) (hfalse : (askMaster p ppix).2 = false)
  | copied (k : Nat) (e : DirtyUpdate) (hdirty : (p.source.priv ppix).dirty = some k)
      (hfind : p.source.dirtyList.find? k = some e) (hdamage : p.source.damage k ≠ ∅)
      (hsource : (askMaster p ppix).1.source =
        (pixmapSyncDirtyHelper p.source k e).damageEmpty k)
      (hsink : (askMaster p ppix).1.sink = p.sink)
      (hframes : (askMaster p ppix).1.frames =
        (p.withSource ((pixmapSyncDirtyHelper p.source k e).damageEmpty k)).frame ppix ++ p.frames)
      (htrue : (askMaster p ppix).2 = true)

theorem askMaster_cases (p : Pair V) (ppix : Nat) : Asked p ppix := by
  cases hdirty : (p.source.priv ppix).dirty with
  | none =>
      refine .gone ?_ (fun k e hk => ?_) ?_
      · simp [askMaster, msPresentSharedPixmap, hdirty]
      · exact absurd (hk.symm.trans hdirty) (Option.some_ne_none k)
      · simp [askMaster, msPresentSharedPixmap, hdirty]
  | some k =>
      cases hfind : p.source.dirtyList.find? k with
      | none =>
          refine .gone ?_ (fun j e hj => ?_) ?_
          · simp [askMaster, msPresentSharedPixmap, hdirty, hfind]
          · cases hdirty.symm.trans hj
            rw [hfind]
            exact fun hnone => by cases hnone
          · simp [askMaster, msPresentSharedPixmap, hdirty, hfind]
      | some e =>
          by_cases hdamage : p.source.damage k = ∅
          · refine .clean k e hdirty hfind hdamage ?_ ?_
            · simp [askMaster, msPresentSharedPixmap, hdirty, hfind, hdamage, Pair.withSource]
            · simp [askMaster, msPresentSharedPixmap, hdirty, hfind, hdamage]
          · refine .copied k e hdirty hfind hdamage ?_ ?_ ?_ ?_
            all_goals
              simp [askMaster, msPresentSharedPixmap, hdirty, hfind, hdamage, redisplayDirty,
                Pair.withSource]

theorem askMaster_sink (p : Pair V) (ppix : Nat) : (askMaster p ppix).1.sink = p.sink := by
  cases askMaster_cases p ppix with
  | gone hsource _ _ => rw [hsource]; rfl
  | clean k e _ _ _ hsame _ => rw [hsame]
  | copied k e _ _ _ _ hsink _ _ => exact hsink

theorem askMaster_priv (p : Pair V) (ppix : Nat) :
    (askMaster p ppix).1.source.priv = p.source.priv := by
  cases askMaster_cases p ppix with
  | gone hsource _ _ => rw [hsource]; rfl
  | clean k e _ _ _ hsame _ => rw [hsame]
  | copied k e _ _ _ hsource _ _ _ => rw [hsource]; rfl

theorem askMaster_frozen (p : Pair V) (ppix : Nat) : Frozen p (askMaster p ppix).1 := by
  cases askMaster_cases p ppix with
  | gone hsource _ _ =>
      rw [hsource]
      exact ⟨rfl, rfl, rfl, fun _ => rfl, fun _ => rfl, fun _ => Or.inl rfl⟩
  | clean k e _ _ _ hsame _ =>
      rw [hsame]
      exact .refl p
  | copied k e _ _ _ hsource _ _ _ =>
      have hfrozen := damageEmpty_frozen p k e
      refine ⟨?_, ?_, ?_, ?_, ?_, ?_⟩
      all_goals rw [hsource]
      · exact hfrozen.list
      · exact hfrozen.content
      · exact hfrozen.gpu
      · exact hfrozen.dirty
      · exact hfrozen.deferred
      · exact hfrozen.damage

theorem Micro.frozen {p p' : Pair V} (h : Micro p p') : Frozen p p' := by
  cases h with
  | enqueue | submit | abort | remove | targets | active => exact withSink_frozen p _
  | handOver ppix _ => exact askMaster_frozen p ppix
  | sleep ppix _ =>
      have hwait := withSink_frozen (askMaster p ppix).1
        ((askMaster p ppix).1.sink.setWait ppix true)
      exact (askMaster_frozen p ppix).trans (hwait.trans (notify_frozen _ ppix true))
  | wake ppix =>
      exact (notify_frozen p ppix false).trans (withSink_frozen _ _)
  | redisplay k e timeout _ => exact damageEmpty_frozen p k e

theorem Micros.frozen {p p' : Pair V} (h : Micros p p') : Frozen p p' := by
  induction h with
  | refl => exact .refl p
  | tail _ hlast ih => exact ih.trans hlast.frozen

end LoongsonVideo.Driver.PrimePair
