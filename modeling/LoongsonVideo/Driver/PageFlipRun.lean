import LoongsonVideo.Driver.PageFlip
import LoongsonVideo.Verified.Machine
import Mathlib.Logic.Relation

/-!
# Runs of page flips

What can happen to the flips of a screen is a tree: `ms_do_pageflip` is called,
events are delivered, entries are aborted, and while `ms_do_pageflip` flushes
events, or an `event_handler` runs, the same can happen again to any depth.
`FlipOp` is such a tree and `FlipOp.exec` what it does.

Every proof about runs goes through one description of what the code can do in
a single move, `Move`.  It works on the state together with what is on the C
stack: the `ms_do_pageflip` calls in their loop, and the carriers whose
`event_handler` is running.  `exec_moves` says that every tree is a path of
moves, so that an invariant is proved by looking at the moves alone.
-/

namespace LoongsonVideo.Driver.PageFlipRun

open LoongsonVideo.Driver.PageFlip
open LoongsonVideo.Verified
open LoongsonVideo.Verified.Ledger

/-! ## Runs as trees -/

/-- What happens on a CRTC in the loop of `ms_do_pageflip`, less the flushes. -/
structure CrtcOutcome where
  crtcOn : Bool
  carrierOk : Bool
  queueOk : Bool
  accepted : Bool
  deriving DecidableEq, Repr

/-- One thing that happens.  After `event` comes what the server does next:
inside `event_handler` if the event calls it, else right after the event. -/
inductive FlipOp (ε : Type*) where
  | doPageflip (call : FlipCall ε) (crtcs : List (CrtcOutcome × List (List (FlipOp ε))))
  | event (k : Nat) (msc usec : UInt64) (next : List (FlipOp ε))
  | abortSeq (k : Nat)
  | abortScrn

variable {ε σ : Type*}

def CrtcOutcome.answer (o : CrtcOutcome) (flushes : List (FlipState ε σ → FlipState ε σ)) :
    CrtcAnswer ε σ :=
  ⟨o.crtcOn, o.carrierOk, o.queueOk, flushes, o.accepted⟩

/-- `ms_drm_sequence_handler` on an entry of the flip code, and what the server
does next. -/
def deliver (client : FlipClient ε σ) (next : FlipState ε σ → FlipState ε σ)
    (s : FlipState ε σ) (k : Nat) (msc usec : UInt64) : FlipState ε σ :=
  match s.queue.find? k with
  | none => next s
  | some flip =>
      let s := unlinkCompleted s k flip msc usec
      if (s.flips flip.flipdata).flipCount = 1 then
        msPageflipHandler client next s msc usec k flip
      else next (msPageflipHandler client id s msc usec k flip)

section Exec

variable (kernel : FbKernel) (config : CrtcConfig) (client : FlipClient ε σ)

mutual

/-- What one tree does. -/
def FlipOp.exec : FlipOp ε → FlipState ε σ → FlipState ε σ
  | .doPageflip call crtcs, s =>
      (msDoPageflip kernel config client s call (answersOf crtcs)).1
  | .event k msc usec next, s => deliver client (execAll next) s k msc usec
  | .abortSeq k, s => msDrmAbortSeq client s k
  | .abortScrn, s => msDrmAbortScrn client s

/-- One after the other. -/
def execAll : List (FlipOp ε) → FlipState ε σ → FlipState ε σ
  | [], s => s
  | op :: ops, s => execAll ops (FlipOp.exec op s)

/-- The loop's answers, with each flush as what it does. -/
def answersOf : List (CrtcOutcome × List (List (FlipOp ε))) → List (CrtcAnswer ε σ)
  | [] => []
  | crtc :: crtcs => answerOf crtc :: answersOf crtcs

def answerOf : CrtcOutcome × List (List (FlipOp ε)) → CrtcAnswer ε σ
  | (o, flushes) => o.answer (flushesOf flushes)

def flushesOf : List (List (FlipOp ε)) → List (FlipState ε σ → FlipState ε σ)
  | [] => []
  | flush :: flushes => execAll flush :: flushesOf flushes

end

end Exec

/-- Before the first call: `fb_id` names the one framebuffer that is registered.
`flips` is what the heap happens to hold. -/
def FlipState.start (fbId : Nat) (flips : Nat → Flipdata ε) (client : σ) : FlipState ε σ where
  queue := Pending.empty
  fbId := fbId
  flips := flips
  calls := 0
  client := client
  log := [.act (.acquire (.fb fbId))]

/-! ## What the code can do -/

/-- A call of `ms_do_pageflip` in its loop: its flip, the CRTCs still to come
and the reference pipe it was given. -/
structure Frame where
  f : Nat
  nums : List Nat
  refCrtcVblankPipe : Int
  deriving DecidableEq, Repr

/-- The state and the C stack: the calls in their loop and the carriers whose
`event_handler` is running, innermost first. -/
structure Stacked (ε σ : Type*) where
  frames : List Frame
  running : List (Nat × Carrier)
  st : FlipState ε σ

section Moves

variable (kernel : FbKernel) (config : CrtcConfig) (client : FlipClient ε σ)

/-- A new call has its number and its buffer object. -/
def gotNewFront (s : FlipState ε σ) : FlipState ε σ :=
  ({ s with calls := s.calls + 1 } : FlipState ε σ).act (.acquire (.newFront s.calls))

/-- The first half of the handler of a flip's last entry, up to and with the
call of `event_handler`. -/
def handlerEntered (s : FlipState ε σ) (k : Nat) (flip : Carrier) (msc usec : UInt64) :
    FlipState ε σ :=
  let f := flip.flipdata
  let s := ((unlinkCompleted s k flip msc usec).act (.touch (.carrier k))).act
    (.touch (.flipdata f))
  callEventHandler client (recordReference s flip msc usec) f

/-- The second half: remove the old framebuffer, free the carrier and the
flip. -/
def handlerLeft (s : FlipState ε σ) (k : Nat) (flip : Carrier) : FlipState ε σ :=
  let f := flip.flipdata
  msPageflipFree (drmModeRmFB (s.act (.touch (.flipdata f))) (s.flips f).oldFbId) k flip

/-- The last entry's carrier and flip are gone, and nothing else has changed. -/
theorem handlerLeft_last (s : FlipState ε σ) (k : Nat) (flip : Carrier)
    (h : (s.flips flip.flipdata).flipCount = 1) :
    handlerLeft s k flip =
      { s with
        flips := Function.update s.flips flip.flipdata
          { s.flips flip.flipdata with flipCount := 0 }
        log := .act (.release (.flipdata flip.flipdata)) ::
          .act (.touch (.flipdata flip.flipdata)) :: .act (.release (.carrier k)) ::
          .act (.touch (.carrier k)) :: .act (.release (.fb (s.flips flip.flipdata).oldFbId)) ::
          .act (.touch (.flipdata flip.flipdata)) :: s.log } := by
  simp [handlerLeft, msPageflipFree, drmModeRmFB, FlipState.setFlip, FlipState.act,
    FlipState.emit, h]

/-- One move of the code. -/
inductive Move : Stacked ε σ → Stacked ε σ → Prop where
  | gbmFails (frames running) (s : FlipState ε σ) :
      Move ⟨frames, running, s⟩
        ⟨frames, running, (returnToCaller { s with calls := s.calls + 1 } s.calls false).1⟩
  | flipdataFails (frames running) (s : FlipState ε σ) :
      Move ⟨frames, running, s⟩
        ⟨frames, running,
          (returnToCaller (drmmodeBoDestroy (gotNewFront s) s.calls true) s.calls false).1⟩
  | importFails (frames running) (s : FlipState ε σ) (event : ε) :
      Move ⟨frames, running, s⟩
        ⟨frames, running,
          (errorOut (openFlip (gotNewFront s) s.calls event) s.calls true).1⟩
  | start (frames running) (s : FlipState ε σ) (event : ε) (ref : Int) :
      Move ⟨frames, running, s⟩
        ⟨⟨s.calls, config.nums, ref⟩ :: frames, running,
          drmmodeBoImport kernel (openFlip (gotNewFront s) s.calls event)⟩
  | skip (frames running) (s : FlipState ε σ) (f num : Nat) (nums) (ref : Int) :
      Move ⟨⟨f, num :: nums, ref⟩ :: frames, running, s⟩ ⟨⟨f, nums, ref⟩ :: frames, running, s⟩
  | carrierOnly (frames running) (s : FlipState ε σ) :
      Move ⟨frames, running, s⟩
        ⟨frames, running,
          (s.act (.acquire (.carrier s.queue.next))).act (.release (.carrier s.queue.next))⟩
  | enter (frames running) (s : FlipState ε σ) (f num : Nat) (nums) (ref : Int) :
      Move ⟨⟨f, num :: nums, ref⟩ :: frames, running, s⟩
        ⟨⟨f, nums, ref⟩ :: frames, running,
          enterFlip s f (drmmodeCrtcVblankPipe num == UInt32.ofInt ref)⟩
  | accepted (frames running) (s : FlipState ε σ) (f : Nat) (nums) (ref : Int)
      (hcount : 1 < (s.flips f).flipCount) :
      Move ⟨⟨f, nums, ref⟩ :: frames, running, s⟩
        ⟨frames, running,
          (returnToCaller (dropLocal (drmmodeBoDestroy s f true) f) f true).1⟩
  | allDone (frames running) (s : FlipState ε σ) (f : Nat) (nums) (ref : Int)
      (hcount : ¬ 1 < (s.flips f).flipCount) :
      Move ⟨⟨f, nums, ref⟩ :: frames, running, s⟩
        ⟨frames, running, (errorOut (errorUndo (drmmodeBoDestroy s f true) f) f false).1⟩
  | giveUp (frames running) (s : FlipState ε σ) (f : Nat) (nums) (ref : Int) :
      Move ⟨⟨f, nums, ref⟩ :: frames, running, s⟩
        ⟨frames, running, (errorOut (errorUndo s f) f true).1⟩
  | complete (frames running) (s : FlipState ε σ) (k : Nat) (flip : Carrier)
      (msc usec : UInt64) (hfind : s.queue.find? k = some flip)
      (hcount : (s.flips flip.flipdata).flipCount ≠ 1) :
      Move ⟨frames, running, s⟩
        ⟨frames, running,
          msPageflipHandler client id (unlinkCompleted s k flip msc usec) msc usec k flip⟩
  | completeLast (frames running) (s : FlipState ε σ) (k : Nat) (flip : Carrier)
      (msc usec : UInt64) (hfind : s.queue.find? k = some flip)
      (hcount : (s.flips flip.flipdata).flipCount = 1) :
      Move ⟨frames, running, s⟩
        ⟨frames, (k, flip) :: running, handlerEntered client s k flip msc usec⟩
  | handlerReturns (frames running) (s : FlipState ε σ) (k : Nat) (flip : Carrier) :
      Move ⟨frames, (k, flip) :: running, s⟩ ⟨frames, running, handlerLeft s k flip⟩
  | abort (frames running) (s : FlipState ε σ) (k : Nat) (flip : Carrier)
      (hfind : s.queue.find? k = some flip) :
      Move ⟨frames, running, s⟩
        ⟨frames, running, msPageflipAbort client (unlinkAborted s k flip) k flip⟩

/-- Any number of moves. -/
def Path : Stacked ε σ → Stacked ε σ → Prop :=
  Relation.ReflTransGen (Move kernel config client)

variable {kernel config client}

theorem Path.refl (m : Stacked ε σ) : Path kernel config client m m := Relation.ReflTransGen.refl

theorem Path.single {m m' : Stacked ε σ} (h : Move kernel config client m m') :
    Path kernel config client m m' := Relation.ReflTransGen.single h

theorem Path.trans {m m' m'' : Stacked ε σ} (h : Path kernel config client m m')
    (h' : Path kernel config client m' m'') : Path kernel config client m m'' :=
  Relation.ReflTransGen.trans h h'

/-- **Invariant rule.** What every move preserves holds at the end of a path. -/
theorem Path.invariant {P : Stacked ε σ → Prop}
    (hmove : ∀ m m', Move kernel config client m m' → P m → P m') {m m' : Stacked ε σ} (hpath : Path kernel config client m m') (hm : P m) : P m' := by
  induction hpath with
  | refl => exact hm
  | tail _ hstep ih => exact hmove _ _ hstep ih

variable (kernel config client)

/-- A function of the state that is a path of moves on whatever stack it
runs. -/
def Moves (g : FlipState ε σ → FlipState ε σ) : Prop :=
  ∀ frames running s,
    Path kernel config client ⟨frames, running, s⟩ ⟨frames, running, g s⟩

variable {kernel config client}

theorem Moves.comp {g h : FlipState ε σ → FlipState ε σ} (hg : Moves kernel config client g)
    (hh : Moves kernel config client h) : Moves kernel config client fun s => h (g s) :=
  fun frames running s => (hg frames running s).trans (hh frames running (g s))

theorem msDrmAbortSeq_moves (k : Nat) :
    Moves kernel config client fun s => msDrmAbortSeq client s k := by
  intro frames running s
  simp only [msDrmAbortSeq]
  cases hfind : s.queue.find? k with
  | none => exact .refl _
  | some flip => exact .single (.abort frames running s k flip hfind)

theorem msDrmAbortScrn_moves : Moves kernel config client (msDrmAbortScrn client) := by
  intro frames running s
  have hfold : ∀ (ks : List Nat) (s : FlipState ε σ),
      Path kernel config client ⟨frames, running, s⟩
        ⟨frames, running, ks.foldl (msDrmAbortSeq client) s⟩ := by
    intro ks
    induction ks with
    | nil => exact fun s => .refl _
    | cons k ks ih =>
        intro s
        exact (msDrmAbortSeq_moves k frames running s).trans (ih _)
  exact hfold _ s

@[simp] theorem recordReference_flipCount (s : FlipState ε σ) (flip : Carrier)
    (msc ust : UInt64) (f : Nat) :
    ((recordReference s flip msc ust).flips f).flipCount = (s.flips f).flipCount := by
  unfold recordReference
  split
  · by_cases hf : f = flip.flipdata
    · subst hf
      simp [FlipState.setFlip]
    · simp [FlipState.setFlip, Function.update_of_ne hf]
  · rfl

/-- The handler of a flip's last entry, cut where `event_handler` runs. -/
theorem msPageflipHandler_last (next : FlipState ε σ → FlipState ε σ) (s : FlipState ε σ)
    (k : Nat) (flip : Carrier) (msc usec : UInt64)
    (hcount : (s.flips flip.flipdata).flipCount = 1) :
    msPageflipHandler client next (unlinkCompleted s k flip msc usec) msc usec k flip =
      handlerLeft (next (handlerEntered client s k flip msc usec)) k flip := by
  simp only [msPageflipHandler]
  rw [if_pos (by rw [recordReference_flipCount]; exact hcount)]
  rfl

/-- The handler of one of several entries only frees its carrier. -/
theorem msPageflipHandler_shared (s : FlipState ε σ) (k : Nat) (flip : Carrier)
    (msc usec : UInt64) (hcount : (s.flips flip.flipdata).flipCount ≠ 1) :
    msPageflipHandler client id (unlinkCompleted s k flip msc usec) msc usec k flip =
      msPageflipFree (recordReference (((unlinkCompleted s k flip msc usec).act
        (.touch (.carrier k))).act (.touch (.flipdata flip.flipdata))) flip msc usec) k flip := by
  simp only [msPageflipHandler]
  rw [if_neg (by rw [recordReference_flipCount]; exact hcount)]

theorem deliver_moves {next : FlipState ε σ → FlipState ε σ}
    (hnext : Moves kernel config client next) (k : Nat) (msc usec : UInt64) :
    Moves kernel config client fun s => deliver client next s k msc usec := by
  intro frames running s
  simp only [deliver]
  cases hfind : s.queue.find? k with
  | none => exact hnext frames running s
  | some flip =>
      by_cases hcount : (s.flips flip.flipdata).flipCount = 1
      · have henter : Path kernel config client ⟨frames, running, s⟩
            ⟨frames, (k, flip) :: running, handlerEntered client s k flip msc usec⟩ :=
          .single (.completeLast frames running s k flip msc usec hfind hcount)
        have hduring := hnext frames ((k, flip) :: running)
          (handlerEntered client s k flip msc usec)
        have hleave : Path kernel config client
            ⟨frames, (k, flip) :: running, next (handlerEntered client s k flip msc usec)⟩
            ⟨frames, running,
              handlerLeft (next (handlerEntered client s k flip msc usec)) k flip⟩ :=
          .single (.handlerReturns frames running _ k flip)
        have hcount' : ((unlinkCompleted s k flip msc usec).flips flip.flipdata).flipCount = 1 :=
          hcount
        simp only [if_pos hcount']
        rw [msPageflipHandler_last next s k flip msc usec hcount]
        exact henter.trans (hduring.trans hleave)
      · have hfirst : Path kernel config client ⟨frames, running, s⟩ ⟨frames, running,
            msPageflipHandler client id (unlinkCompleted s k flip msc usec) msc usec k flip⟩ :=
          .single (.complete frames running s k flip msc usec hfind hcount)
        have hpath := hfirst.trans (hnext frames running _)
        simpa [unlinkCompleted, hcount] using hpath

theorem flushAndRetry_moves {flushes : List (FlipState ε σ → FlipState ε σ)}
    (hflush : ∀ g ∈ flushes, Moves kernel config client g) :
    Moves kernel config client fun s => flushAndRetry s flushes := by
  induction flushes with
  | nil => exact fun frames running s => .refl _
  | cons g flushes ih =>
      have hrest := ih fun h hh => hflush h (List.mem_cons_of_mem g hh)
      exact (hflush g List.mem_cons_self).comp hrest

/-- Queueing on one CRTC takes it from the frame. -/
theorem queueFlipOnCrtc_path {answer : CrtcAnswer ε σ}
    (hflush : ∀ g ∈ answer.flushes, Moves kernel config client g) (frames running)
    (s : FlipState ε σ) (num f : Nat) (nums : List Nat) (ref : Int) :
    Path kernel config client ⟨⟨f, num :: nums, ref⟩ :: frames, running, s⟩
      ⟨⟨f, nums, ref⟩ :: frames, running, (queueFlipOnCrtc client s num f ref answer).1⟩ := by
  have hskip : Path kernel config client ⟨⟨f, num :: nums, ref⟩ :: frames, running, s⟩
      ⟨⟨f, nums, ref⟩ :: frames, running, s⟩ :=
    .single (.skip frames running s f num nums ref)
  simp only [queueFlipOnCrtc]
  cases hcarrier : answer.carrierOk with
  | false => simpa using hskip
  | true =>
      cases hqueue : answer.queueOk with
      | false =>
          exact hskip.trans (.single (.carrierOnly _ running s))
      | true =>
          have henter : Path kernel config client _ _ :=
            .single (.enter frames running s f num nums ref)
          have hloop := henter.trans
            (flushAndRetry_moves hflush (⟨f, nums, ref⟩ :: frames) running _)
          cases haccepted : answer.accepted with
          | true => simpa using hloop
          | false =>
              have habort : Path kernel config client _ _ :=
                msDrmAbortSeq_moves s.queue.next (⟨f, nums, ref⟩ :: frames) running
                  (flushAndRetry (enterFlip s f
                    (drmmodeCrtcVblankPipe num == UInt32.ofInt ref)) answer.flushes)
              simpa using hloop.trans habort

theorem queueFlips_path {answers : List (CrtcAnswer ε σ)}
    (hflush : ∀ a ∈ answers, ∀ g ∈ a.flushes, Moves kernel config client g) (frames running)
    (s : FlipState ε σ) (f : Nat) (nums : List Nat) (ref : Int) :
    ∃ nums', Path kernel config client ⟨⟨f, nums, ref⟩ :: frames, running, s⟩
      ⟨⟨f, nums', ref⟩ :: frames, running, (queueFlips client f ref s nums answers).1⟩ := by
  induction answers generalizing nums s with
  | nil =>
      refine ⟨nums, ?_⟩
      cases nums <;> exact .refl _
  | cons answer answers ih =>
      have hrest := fun s nums => ih (fun a ha => hflush a (List.mem_cons_of_mem answer ha)) s nums
      cases nums with
      | nil => exact ⟨[], .refl _⟩
      | cons num nums =>
          simp only [queueFlips]
          cases hon : answer.crtcOn with
          | false =>
              obtain ⟨nums', hpath⟩ := hrest s nums
              have hskip : Path kernel config client _ _ :=
                .single (.skip frames running s f num nums ref)
              exact ⟨nums', by simpa using hskip.trans hpath⟩
          | true =>
              have hone := queueFlipOnCrtc_path (hflush answer List.mem_cons_self)
                frames running s num f nums ref
              simp only [Bool.not_true, Bool.false_eq_true, if_false]
              cases hcall : queueFlipOnCrtc client s num f ref answer with
              | mk s' ok =>
                  rw [hcall] at hone
                  cases ok with
                  | true =>
                      obtain ⟨nums', hpath⟩ := hrest s' nums
                      exact ⟨nums', hone.trans hpath⟩
                  | false => exact ⟨nums, hone⟩

theorem msDoPageflip_moves {answers : List (CrtcAnswer ε σ)}
    (hflush : ∀ a ∈ answers, ∀ g ∈ a.flushes, Moves kernel config client g)
    (call : FlipCall ε) :
    Moves kernel config client fun s => (msDoPageflip kernel config client s call answers).1 := by
  intro frames running s
  simp only [msDoPageflip]
  cases hgbm : call.gbmOk with
  | false => exact .single (.gbmFails frames running s)
  | true =>
      cases hflipdata : call.flipdataOk with
      | false => exact .single (.flipdataFails frames running s)
      | true =>
          cases himport : call.importOk with
          | false => exact .single (.importFails frames running s call.event)
          | true =>
              have hstart : Path kernel config client _ _ :=
                .single (.start frames running s call.event call.refCrtcVblankPipe)
              obtain ⟨nums', hloop⟩ := queueFlips_path hflush frames running
                (drmmodeBoImport kernel (openFlip (gotNewFront s) s.calls call.event))
                s.calls config.nums call.refCrtcVblankPipe
              simp only [Bool.not_true, Bool.false_eq_true, if_false]
              have hpath := hstart.trans hloop
              simp only [gotNewFront] at hpath
              split
              case h_1 s' hcall =>
                  rw [hcall] at hpath
                  exact hpath.trans (.single (.giveUp frames running s' s.calls nums' _))
              case h_2 s' hcall =>
                  rw [hcall] at hpath
                  refine hpath.trans ?_
                  by_cases hcount : 1 < (s'.flips s.calls).flipCount
                  · have hmove : Move kernel config client _ _ :=
                      .accepted frames running s' s.calls nums' call.refCrtcVblankPipe hcount
                    simpa [drmmodeBoDestroy, FlipState.act, FlipState.emit, hcount]
                      using Path.single hmove
                  · have hmove : Move kernel config client _ _ :=
                      .allDone frames running s' s.calls nums' call.refCrtcVblankPipe hcount
                    simpa [drmmodeBoDestroy, FlipState.act, FlipState.emit, hcount]
                      using Path.single hmove

mutual

/-- **Every tree is a path of moves.** -/
theorem FlipOp.exec_moves : ∀ op : FlipOp ε,
    Moves kernel config client (FlipOp.exec kernel config client op)
  | .doPageflip call crtcs => by
      simpa only [FlipOp.exec] using msDoPageflip_moves (answersOf_moves crtcs) call
  | .event k msc usec next => by
      simpa only [FlipOp.exec] using deliver_moves (execAll_moves next) k msc usec
  | .abortSeq k => by
      simpa only [FlipOp.exec] using msDrmAbortSeq_moves k
  | .abortScrn => by
      simpa only [FlipOp.exec] using msDrmAbortScrn_moves

theorem execAll_moves : ∀ ops : List (FlipOp ε),
    Moves kernel config client (execAll kernel config client ops)
  | [] => fun _ _ _ => .refl _
  | op :: ops => by
      simpa only [execAll] using (FlipOp.exec_moves op).comp (execAll_moves ops)

theorem answersOf_moves : ∀ crtcs : List (CrtcOutcome × List (List (FlipOp ε))),
    ∀ a ∈ answersOf kernel config client crtcs, ∀ g ∈ a.flushes,
      Moves kernel config client (σ := σ) g
  | [] => by simp [answersOf]
  | crtc :: crtcs => by
      intro a ha
      rw [answersOf] at ha
      rcases List.mem_cons.mp ha with rfl | ha
      · exact answerOf_moves crtc
      · exact answersOf_moves crtcs a ha

theorem answerOf_moves : ∀ crtc : CrtcOutcome × List (List (FlipOp ε)),
    ∀ g ∈ (answerOf kernel config client crtc).flushes, Moves kernel config client (σ := σ) g
  | (o, flushes) => by
      simpa only [answerOf, CrtcOutcome.answer] using flushesOf_moves flushes

theorem flushesOf_moves : ∀ flushes : List (List (FlipOp ε)),
    ∀ g ∈ flushesOf kernel config client flushes, Moves kernel config client (σ := σ) g
  | [] => by simp [flushesOf]
  | flush :: flushes => by
      intro g hg
      rw [flushesOf] at hg
      rcases List.mem_cons.mp hg with rfl | hg
      · exact execAll_moves flush
      · exact flushesOf_moves flushes g hg

end

end Moves

end LoongsonVideo.Driver.PageFlipRun
