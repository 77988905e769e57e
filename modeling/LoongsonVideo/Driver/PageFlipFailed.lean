import LoongsonVideo.Driver.PageFlipNotify

/-!
# Page flips that are reported as failed

`ms_do_pageflip` returns `FALSE` as soon as one CRTC cannot be queued.  What it
has queued on earlier CRTCs stays in the event queue, and the flip's data with
it; when those entries resolve, the owner is told about a flip that it was told
had failed.

When that happens is read off a tree of calls without running it.  A `Summary`
says how many entries a tree allocates, which of the earlier entries it
resolves, and whether every `ms_do_pageflip` in it that gave up on a CRTC had
seen the entries of its earlier CRTCs resolved by its flushes (`answered`).
`exec_summarised` says that the run of a tree is what its summary says.
-/

namespace LoongsonVideo.Driver.PageFlipFailed

open LoongsonVideo.Driver.PageFlip
open LoongsonVideo.Driver.PageFlipRun
open LoongsonVideo.Driver.PageFlipLedger
open LoongsonVideo.Driver.PageFlipNotify
open LoongsonVideo.Verified
open LoongsonVideo.Verified.Ledger
open LoongsonVideo.Verified.Machine

variable {ε σ : Type*}

/-! ## Summaries of trees -/

/-- `allocs`: the entries a tree allocates; `resolves`: the earlier entries its
events and aborts name; `answered`: no call in it gave up with an entry of its
own flip outstanding, given the number of entries allocated before. -/
structure Summary where
  allocs : Nat
  resolves : Nat → Bool
  answered : Nat → Bool

def Summary.nothing : Summary := ⟨0, fun _ => false, fun _ => true⟩

/-- One entry is allocated. -/
def Summary.entry : Summary := ⟨1, fun _ => false, fun _ => true⟩

/-- Entry `k` is completed or aborted. -/
def Summary.resolve (k : Nat) : Summary := ⟨0, fun j => j == k, fun _ => true⟩

/-- Every entry is aborted. -/
def Summary.resolveAll : Summary := ⟨0, fun _ => true, fun _ => true⟩

def Summary.andThen (a b : Summary) : Summary where
  allocs := a.allocs + b.allocs
  resolves k := a.resolves k || b.resolves k
  answered next := a.answered next && b.answered (next + a.allocs)

@[simp] theorem Summary.andThen_nothing (a : Summary) : a.andThen .nothing = a := by
  cases a
  simp [Summary.andThen, Summary.nothing]

@[simp] theorem Summary.nothing_andThen (a : Summary) : Summary.nothing.andThen a = a := by
  cases a
  simp [Summary.andThen, Summary.nothing]

/-- The loop of `ms_do_pageflip`: each CRTC's outcome, and what its flushes
do. -/
def loopSummary : List Nat → List (CrtcOutcome × Summary) → Summary
  | _ :: nums, (o, flush) :: crtcs =>
      if !o.crtcOn then loopSummary nums crtcs
      else if !o.carrierOk || !o.queueOk then .nothing
      else (Summary.entry.andThen flush).andThen
        (if o.accepted then loopSummary nums crtcs else .nothing)
  | _, _ => .nothing

/-- The entries of the flip that are outstanding when the loop gives up on a
CRTC; none if it does not.  `next` is the next entry to be allocated, `left` the
entries outstanding so far. -/
def leftOver : List Nat → List (CrtcOutcome × Summary) → Nat → List Nat → List Nat
  | _ :: nums, (o, flush) :: crtcs, next, left =>
      if !o.crtcOn then leftOver nums crtcs next left
      else if !o.carrierOk || !o.queueOk then left
      else
        let left := (next :: left).filter fun k => !flush.resolves k
        if o.accepted then leftOver nums crtcs (next + 1 + flush.allocs) left
        else left.filter fun k => k != next
  | _, _, _, _ => []

/-- The entries of the flip that are outstanding when the loop is left, whether
it gave up or not. -/
def atEnd : List Nat → List (CrtcOutcome × Summary) → Nat → List Nat → List Nat
  | _ :: nums, (o, flush) :: crtcs, next, left =>
      if !o.crtcOn then atEnd nums crtcs next left
      else if !o.carrierOk || !o.queueOk then left
      else
        let left := (next :: left).filter fun k => !flush.resolves k
        if o.accepted then atEnd nums crtcs (next + 1 + flush.allocs) left
        else left.filter fun k => k != next
  | _, _, _, left => left

/-- A call of `ms_do_pageflip`. -/
def callSummary (call : FlipCall ε) (nums : List Nat) (crtcs : List (CrtcOutcome × Summary)) :
    Summary :=
  if call.gbmOk && call.flipdataOk && call.importOk then
    { loopSummary nums crtcs with
      answered := fun next =>
        (loopSummary nums crtcs).answered next && (leftOver nums crtcs next []).isEmpty }
  else .nothing

section Trees

variable (nums : List Nat)

mutual

def FlipOp.summary : FlipOp ε → Summary
  | .doPageflip call crtcs => callSummary call nums (outcomesOf crtcs)
  | .event k _ _ next => (Summary.resolve k).andThen (summaryAll next)
  | .abortSeq k => .resolve k
  | .abortScrn => .resolveAll

def summaryAll : List (FlipOp ε) → Summary
  | [] => .nothing
  | op :: ops => (FlipOp.summary op).andThen (summaryAll ops)

def outcomesOf : List (CrtcOutcome × List (List (FlipOp ε))) → List (CrtcOutcome × Summary)
  | [] => []
  | crtc :: crtcs => outcomeOf crtc :: outcomesOf crtcs

def outcomeOf : CrtcOutcome × List (List (FlipOp ε)) → CrtcOutcome × Summary
  | (o, flushes) => (o, summaryFlushes flushes)

def summaryFlushes : List (List (FlipOp ε)) → Summary
  | [] => .nothing
  | flush :: flushes => (summaryAll flush).andThen (summaryFlushes flushes)

end

end Trees

/-! ## What a run does to the queue and the log -/

/-- No call that failed has left an entry behind. -/
def NoneLeft (log : List FlipLine) : Prop :=
  ∀ f left, .returned f false left ∈ log → left = 0

/-- From `s` to `s'` the queue and the log change as the summary says; new
entries belong to flips from number `bound` on. -/
structure Ran (bound : Nat) (s s' : FlipState ε σ) (sum : Summary) : Prop where
  calls : s.calls ≤ s'.calls
  next : s'.queue.next = s.queue.next + sum.allocs
  old : ∀ k, k < s.queue.next →
    s'.queue.find? k = if sum.resolves k then none else s.queue.find? k
  new : ∀ k c, s.queue.next ≤ k → s'.queue.find? k = some c → bound ≤ c.flipdata
  kept : ∀ line ∈ s.log, line ∈ s'.log
  quiet : NoneLeft s'.log ↔ NoneLeft s.log ∧ sum.answered s.queue.next = true

theorem find?_next (p : Pending Carrier) {k : Nat} (hk : p.next ≤ k) : p.find? k = none := by
  rw [Pending.find?_eq_none]
  intro hin
  exact Nat.lt_irrefl _ (Nat.lt_of_lt_of_le (Pending.lt_next_of_mem hin) hk)

section Ran

variable {bound : Nat} {s s' s'' : FlipState ε σ} {sum sum' : Summary}

theorem Ran.andThen (h : Ran bound s s' sum) (h' : Ran bound s' s'' sum') :
    Ran bound s s'' (sum.andThen sum') where
  calls := Nat.le_trans h.calls h'.calls
  next := by
    rw [h'.next, h.next, Nat.add_assoc]
    rfl
  old := by
    intro k hk
    rw [h'.old k (by rw [h.next]; omega), h.old k hk]
    cases hr : sum.resolves k <;> cases hr' : sum'.resolves k <;> simp [Summary.andThen, hr, hr']
  new := by
    intro k c hk hfind
    by_cases hlt : k < s'.queue.next
    · rw [h'.old k hlt] at hfind
      split at hfind
      · cases hfind
      · exact h.new k c hk hfind
    · exact h'.new k c (Nat.le_of_not_lt hlt) hfind
  kept := fun line hl => h'.kept line (h.kept line hl)
  quiet := by
    rw [h'.quiet, h.quiet, h.next, and_assoc]
    simp [Summary.andThen]

theorem Ran.mono {bound' : Nat} (h : Ran bound s s' sum) (hle : bound' ≤ bound) :
    Ran bound' s s' sum :=
  { h with new := fun k c hk hfind => Nat.le_trans hle (h.new k c hk hfind) }

/-- Only what a summary says of earlier entries matters. -/
theorem Ran.congr (h : Ran bound s s' sum) (hallocs : sum'.allocs = sum.allocs)
    (hresolves : ∀ k, k < s.queue.next → sum'.resolves k = sum.resolves k)
    (hanswered : sum'.answered s.queue.next = sum.answered s.queue.next) :
    Ran bound s s' sum' where
  calls := h.calls
  next := by rw [h.next, hallocs]
  old := fun k hk => by rw [h.old k hk, hresolves k hk]
  new := h.new
  kept := h.kept
  quiet := by rw [h.quiet, hanswered]

/-- Steps that leave the queue alone. -/
theorem Ran.frame (hqueue : s'.queue = s.queue) (hcalls : s.calls ≤ s'.calls)
    (hkept : ∀ line ∈ s.log, line ∈ s'.log)
    (hquiet : ∀ f left, .returned f false left ∈ s'.log → .returned f false left ∈ s.log) :
    Ran bound s s' .nothing where
  calls := hcalls
  next := by rw [hqueue]; rfl
  old := fun k _ => by rw [hqueue]; rfl
  new := by
    intro k c hk hfind
    rw [hqueue, find?_next _ hk] at hfind
    cases hfind
  kept := hkept
  quiet := by
    constructor
    · exact fun h => ⟨fun f left hin => h f left (hkept _ hin), rfl⟩
    · exact fun h f left hin => h.1 f left (hquiet f left hin)

/-- Steps that take entry `k` out. -/
theorem Ran.unlink {k : Nat} (hqueue : s'.queue = s.queue.remove k)
    (hcalls : s'.calls = s.calls) (hkept : ∀ line ∈ s.log, line ∈ s'.log)
    (hquiet : ∀ f left, .returned f false left ∈ s'.log → .returned f false left ∈ s.log) :
    Ran bound s s' (.resolve k) where
  calls := Nat.le_of_eq hcalls.symm
  next := by rw [hqueue]; rfl
  old := by
    intro j _
    rw [hqueue]
    by_cases hj : j = k
    · subst hj
      rw [Pending.find?_remove_self]
      simp [Summary.resolve]
    · rw [Pending.find?_remove_ne hj]
      simp [Summary.resolve, hj]
  new := by
    intro j c hj hfind
    rw [hqueue, find?_next _ (by rw [Pending.remove_next]; exact hj)] at hfind
    cases hfind
  kept := hkept
  quiet := by
    constructor
    · exact fun h => ⟨fun f left hin => h f left (hkept _ hin), rfl⟩
    · exact fun h f left hin => h.1 f left (hquiet f left hin)

end Ran

/-! ## The functions of the model -/

section Functions

variable (kernel : FbKernel) (config : CrtcConfig) (client : FlipClient ε σ)

/-- A function of the state that is a path of moves and does what the summary
says. -/
structure Summarised (g : FlipState ε σ → FlipState ε σ) (sum : Summary) : Prop where
  moves : Moves kernel config client g
  ran : ∀ frames running s, (∃ live leaked, Inv live leaked ⟨frames, running, s⟩) →
    Ran s.calls s (g s) sum

variable {kernel config client}

theorem Moves.inv {g : FlipState ε σ → FlipState ε σ} (h : Moves kernel config client g)
    {frames : List Frame} {running : List (Nat × Carrier)} {s : FlipState ε σ}
    (hinv : ∃ live leaked, Inv live leaked ⟨frames, running, s⟩) :
    ∃ live leaked, Inv live leaked ⟨frames, running, g s⟩ :=
  Path.invariant (P := fun m => ∃ live leaked, Inv live leaked m)
    (fun _ _ hmove => Move.inv hmove) (h frames running s) hinv

theorem Summarised.andThen {g h : FlipState ε σ → FlipState ε σ} {a b : Summary}
    (hg : Summarised kernel config client g a) (hh : Summarised kernel config client h b) :
    Summarised kernel config client (fun s => h (g s)) (a.andThen b) where
  moves := hg.moves.comp hh.moves
  ran := by
    intro frames running s hinv
    have hfirst := hg.ran frames running s hinv
    exact hfirst.andThen ((hh.ran frames running (g s) (Moves.inv hg.moves hinv)).mono hfirst.calls)

theorem summarised_id : Summarised kernel config client id .nothing where
  moves := fun _ _ _ => .refl _
  ran := fun _ _ _ _ => Ran.frame rfl (Nat.le_refl _) (fun _ hl => hl) fun _ _ hin => hin

@[simp] theorem msPageflipFree_queue (s : FlipState ε σ) (k : Nat) (flip : Carrier) :
    (msPageflipFree s k flip).queue = s.queue := by
  simp only [msPageflipFree]
  split <;> rfl

@[simp] theorem msPageflipFree_calls (s : FlipState ε σ) (k : Nat) (flip : Carrier) :
    (msPageflipFree s k flip).calls = s.calls := by
  simp only [msPageflipFree]
  split <;> rfl

theorem msPageflipFree_kept (s : FlipState ε σ) (k : Nat) (flip : Carrier) :
    ∀ line ∈ s.log, line ∈ (msPageflipFree s k flip).log := by
  intro line hl
  simp only [msPageflipFree]
  split <;> simp [FlipState.act, FlipState.emit, FlipState.setFlip, hl]

theorem msPageflipFree_returned {s : FlipState ε σ} {k : Nat} {flip : Carrier} {f left : Nat}
    {ok : Bool} (h : .returned f ok left ∈ (msPageflipFree s k flip).log) :
    .returned f ok left ∈ s.log := by
  simp only [msPageflipFree] at h
  split at h <;> simpa [FlipState.act, FlipState.emit, FlipState.setFlip] using h

theorem abort_ran (client : FlipClient ε σ) (bound : Nat) (s : FlipState ε σ) (k : Nat)
    (flip : Carrier) :
    Ran bound s (msPageflipAbort client (unlinkAborted s k flip) k flip) (.resolve k) := by
  simp only [msPageflipAbort]
  refine Ran.unlink ?_ ?_ ?_ ?_
  · rw [msPageflipFree_queue]
    split <;> rfl
  · rw [msPageflipFree_calls]
    split <;> rfl
  · intro line hl
    refine msPageflipFree_kept _ _ _ line ?_
    split <;> simp [callAbortHandler, unlinkAborted, FlipState.act, FlipState.emit, hl]
  · intro f left hin
    have hin' := msPageflipFree_returned hin
    split at hin' <;>
      simpa [callAbortHandler, unlinkAborted, FlipState.act, FlipState.emit] using hin'

theorem msDrmAbortSeq_ran (client : FlipClient ε σ) (bound : Nat) (s : FlipState ε σ) (k : Nat) :
    Ran bound s (msDrmAbortSeq client s k) (.resolve k) := by
  simp only [msDrmAbortSeq]
  cases hfind : s.queue.find? k with
  | none =>
      refine Ran.unlink ?_ rfl (fun _ hl => hl) fun _ _ hin => hin
      exact (Pending.remove_of_find?_none hfind).symm
  | some flip => exact abort_ran client bound s k flip

theorem msDrmAbortSeq_summarised (k : Nat) :
    Summarised kernel config client (fun s => msDrmAbortSeq client s k) (.resolve k) where
  moves := msDrmAbortSeq_moves k
  ran := fun _ _ s _ => msDrmAbortSeq_ran client s.calls s k

theorem msDrmAbortScrn_summarised :
    Summarised kernel config client (msDrmAbortScrn client) .resolveAll where
  moves := msDrmAbortScrn_moves
  ran := by
    intro frames running s _
    have hfold : ∀ (ks : List Nat) (s : FlipState ε σ) (bound : Nat),
        Ran bound s (ks.foldl (msDrmAbortSeq client) s)
          ⟨0, fun k => decide (k ∈ ks), fun _ => true⟩ := by
      intro ks
      induction ks with
      | nil =>
          intro s bound
          exact (Ran.frame rfl (Nat.le_refl _) (fun _ hl => hl) fun _ _ hin => hin).congr rfl
            (by simp [Summary.nothing]) rfl
      | cons k ks ih =>
          intro s bound
          refine ((msDrmAbortSeq_ran client bound s k).andThen (ih _ bound)).congr rfl ?_ rfl
          intro j _
          by_cases hj : j = k <;> simp [Summary.andThen, Summary.resolve, hj]
    have hall := hfold s.queue.tokens s s.calls
    refine { hall with old := fun k hk => ?_, quiet := hall.quiet }
    refine (hall.old k hk).trans ?_
    by_cases hin : k ∈ s.queue.tokens
    · simp [hin, Summary.resolveAll]
    · simp [hin, Summary.resolveAll, Pending.find?_eq_none.mpr hin]

@[simp] theorem handlerLeft_queue (s : FlipState ε σ) (k : Nat) (flip : Carrier) :
    (handlerLeft s k flip).queue = s.queue :=
  msPageflipFree_queue _ k flip

@[simp] theorem handlerLeft_calls (s : FlipState ε σ) (k : Nat) (flip : Carrier) :
    (handlerLeft s k flip).calls = s.calls :=
  msPageflipFree_calls _ k flip

theorem handlerEntered_ran (client : FlipClient ε σ) (bound : Nat) (s : FlipState ε σ) (k : Nat)
    (flip : Carrier) (msc usec : UInt64) :
    Ran bound s (handlerEntered client s k flip msc usec) (.resolve k) := by
  set s₀ := ((unlinkCompleted s k flip msc usec).act (.touch (.carrier k))).act
    (.touch (.flipdata flip.flipdata)) with hs₀
  have hlog : (handlerEntered client s k flip msc usec).log =
      .eventHandler flip.flipdata ((recordReference s₀ flip msc usec).flips flip.flipdata).feMsc
        ((recordReference s₀ flip msc usec).flips flip.flipdata).feUsec :: s₀.log :=
    congrArg (_ :: ·) (recordReference_log s₀ flip msc usec)
  refine Ran.unlink (recordReference_queue s₀ flip msc usec)
    (recordReference_calls s₀ flip msc usec) (fun line hl => ?_) (fun f left hin => ?_)
  · rw [hlog]
    simp [s₀, unlinkCompleted, FlipState.act, FlipState.emit, hl]
  · rw [hlog] at hin
    simpa [s₀, unlinkCompleted, FlipState.act, FlipState.emit] using hin

theorem handlerLeft_ran (bound : Nat) (s : FlipState ε σ) (k : Nat) (flip : Carrier) :
    Ran bound s (handlerLeft s k flip) .nothing := by
  refine Ran.frame (handlerLeft_queue s k flip) ?_ (fun line hl => ?_) (fun f left hin => ?_)
  · exact Nat.le_of_eq (handlerLeft_calls s k flip).symm
  · exact msPageflipFree_kept _ k flip line (by simp [drmModeRmFB, FlipState.act, FlipState.emit, hl])
  · have hin' := msPageflipFree_returned hin
    simpa [drmModeRmFB, FlipState.act, FlipState.emit] using hin'

theorem complete_ran (client : FlipClient ε σ) (bound : Nat) (s : FlipState ε σ) (k : Nat)
    (flip : Carrier) (msc usec : UInt64) (hcount : (s.flips flip.flipdata).flipCount ≠ 1) :
    Ran bound s
      (msPageflipHandler client id (unlinkCompleted s k flip msc usec) msc usec k flip)
      (.resolve k) := by
  set s₀ := ((unlinkCompleted s k flip msc usec).act (.touch (.carrier k))).act
    (.touch (.flipdata flip.flipdata)) with hs₀
  have hstate : msPageflipHandler client id (unlinkCompleted s k flip msc usec) msc usec k flip =
      msPageflipFree (recordReference s₀ flip msc usec) k flip :=
    msPageflipHandler_shared s k flip msc usec hcount
  rw [hstate]
  refine Ran.unlink ?_ ?_ (fun line hl => ?_) (fun f left hin => ?_)
  · rw [msPageflipFree_queue, recordReference_queue]
    rfl
  · rw [msPageflipFree_calls, recordReference_calls]
    rfl
  · refine msPageflipFree_kept _ k flip line ?_
    rw [recordReference_log]
    simp [s₀, unlinkCompleted, FlipState.act, FlipState.emit, hl]
  · have hin' := msPageflipFree_returned hin
    rw [recordReference_log] at hin'
    simpa [s₀, unlinkCompleted, FlipState.act, FlipState.emit] using hin'

theorem deliver_summarised {next : FlipState ε σ → FlipState ε σ} {sum : Summary}
    (hnext : Summarised kernel config client next sum) (k : Nat) (msc usec : UInt64) :
    Summarised kernel config client (fun s => deliver client next s k msc usec)
      ((Summary.resolve k).andThen sum) where
  moves := deliver_moves hnext.moves k msc usec
  ran := by
    intro frames running s hinv
    simp only [deliver]
    cases hfind : s.queue.find? k with
    | none =>
        have hnone : Ran s.calls s s (.resolve k) :=
          Ran.unlink (Pending.remove_of_find?_none hfind).symm rfl (fun _ hl => hl)
            fun _ _ hin => hin
        exact hnone.andThen (hnext.ran frames running s hinv)
    | some flip =>
        by_cases hcount : (s.flips flip.flipdata).flipCount = 1
        · have hmove : Move kernel config client _ _ :=
            .completeLast frames running s k flip msc usec hfind hcount
          have henter := handlerEntered_ran client s.calls s k flip msc usec
          have hduring := (hnext.ran frames ((k, flip) :: running)
            (handlerEntered client s k flip msc usec) (Move.inv hmove hinv)).mono henter.calls
          have hleave := handlerLeft_ran s.calls
            (next (handlerEntered client s k flip msc usec)) k flip
          have hcount' :
              ((unlinkCompleted s k flip msc usec).flips flip.flipdata).flipCount = 1 := hcount
          simp only [if_pos hcount']
          rw [msPageflipHandler_last next s k flip msc usec hcount]
          have hran := (henter.andThen hduring).andThen hleave
          rw [Summary.andThen_nothing] at hran
          exact hran
        · have hmove : Move kernel config client _ _ :=
            .complete frames running s k flip msc usec hfind hcount
          have hfirst := complete_ran client s.calls s k flip msc usec hcount
          have hcount' :
              ¬ ((unlinkCompleted s k flip msc usec).flips flip.flipdata).flipCount = 1 := hcount
          simp only [if_neg hcount']
          exact hfirst.andThen
            ((hnext.ran frames running _ (Move.inv hmove hinv)).mono hfirst.calls)

/-- The answers of a CRTC are those of its outcome, and its flushes do what the
summary says. -/
structure AnswerOf (kernel : FbKernel) (config : CrtcConfig) (client : FlipClient ε σ)
    (a : CrtcAnswer ε σ) (o : CrtcOutcome × Summary) : Prop where
  crtcOn : a.crtcOn = o.1.crtcOn
  carrierOk : a.carrierOk = o.1.carrierOk
  queueOk : a.queueOk = o.1.queueOk
  accepted : a.accepted = o.1.accepted
  moves : ∀ g ∈ a.flushes, Moves kernel config client g
  flushes : Summarised kernel config client (fun s => flushAndRetry s a.flushes) o.2

/-- The entries of flip `f` that are outstanding. -/
def Holds (s : FlipState ε σ) (f : Nat) (left : List Nat) : Prop :=
  ∀ k, k ∈ left ↔ ∃ c, s.queue.find? k = some c ∧ c.flipdata = f

section Loop

variable {frames : List Frame} {running : List (Nat × Carrier)} {s : FlipState ε σ} {f : Nat}
  {nums : List Nat} {ref : Int} {left : List Nat}

theorem Holds.lt (h : Holds s f left) {k : Nat} (hk : k ∈ left) : k < s.queue.next := by
  obtain ⟨c, hfind, -⟩ := (h k).mp hk
  exact Pending.lt_next_of_find? hfind

theorem enterFlip_ran (s : FlipState ε σ) (f : Nat) (onReference : Bool) :
    Ran f s (enterFlip s f onReference) .entry where
  calls := Nat.le_refl _
  next := rfl
  old := fun k hk => Pending.find?_alloc_ne (Nat.ne_of_lt hk)
  new := by
    intro k c hk hfind
    by_cases he : k = s.queue.next
    · subst he
      change (s.queue.alloc ⟨onReference, f⟩).find? s.queue.next = some c at hfind
      rw [Pending.find?_alloc_self] at hfind
      cases hfind
      exact Nat.le_refl _
    · change (s.queue.alloc ⟨onReference, f⟩).find? k = some c at hfind
      rw [Pending.find?_alloc_ne he, find?_next _ hk] at hfind
      cases hfind
  kept := fun line hl => by simp [enterFlip, FlipState.act, FlipState.emit, FlipState.setFlip, hl]
  quiet := by
    simp [NoneLeft, enterFlip, FlipState.act, FlipState.emit, FlipState.setFlip, Summary.entry]

theorem enterFlip_holds (h : Holds s f left) (onReference : Bool) :
    Holds (enterFlip s f onReference) f (s.queue.next :: left) := by
  intro k
  change _ ↔ ∃ c, (s.queue.alloc ⟨onReference, f⟩).find? k = some c ∧ _
  by_cases he : k = s.queue.next
  · subst he
    simp
  · rw [Pending.find?_alloc_ne he, ← h k, List.mem_cons]
    simp [he]

/-- What is left of a flip's entries after a run that belongs to other flips. -/
theorem Ran.holds {s' : FlipState ε σ} {sum : Summary} {bound : Nat} (h : Ran bound s s' sum)
    (hholds : Holds s f left) (hbound : f < bound) :
    Holds s' f (left.filter fun k => !sum.resolves k) := by
  intro k
  rw [List.mem_filter]
  by_cases hlt : k < s.queue.next
  · rw [h.old k hlt, hholds k]
    cases sum.resolves k <;> simp
  · constructor
    · exact fun hk => absurd (hholds.lt hk.1) hlt
    · rintro ⟨c, hfind, hc⟩
      have hle := h.new k c (Nat.le_of_not_lt hlt) hfind
      omega

theorem queueFlips_ran {answers : List (CrtcAnswer ε σ)} {outcomes : List (CrtcOutcome × Summary)}
    (hall : List.Forall₂ (AnswerOf kernel config client) answers outcomes)
    (hinv : ∃ live leaked, Inv live leaked ⟨⟨f, nums, ref⟩ :: frames, running, s⟩)
    (hholds : Holds s f left) :
    Ran f s (queueFlips client f ref s nums answers).1 (loopSummary nums outcomes) ∧
      Holds (queueFlips client f ref s nums answers).1 f
        (atEnd nums outcomes s.queue.next left) ∧
      leftOver nums outcomes s.queue.next left =
        if (queueFlips client f ref s nums answers).2 then []
        else atEnd nums outcomes s.queue.next left := by
  have hstay : ∀ s : FlipState ε σ, Ran f s s .nothing := fun s =>
    Ran.frame rfl (Nat.le_refl _) (fun _ hl => hl) fun _ _ hin => hin
  induction hall generalizing nums s left with
  | nil =>
      have hdone : queueFlips client f ref s nums [] = (s, true) := by cases nums <;> rfl
      have hsum : loopSummary nums [] = .nothing := by cases nums <;> rfl
      have hend : atEnd nums [] s.queue.next left = left := by cases nums <;> rfl
      have hover : leftOver nums [] s.queue.next left = [] := by cases nums <;> rfl
      rw [hdone, hsum, hend, hover]
      exact ⟨hstay s, hholds, rfl⟩
  | @cons a o answers outcomes ha _ ih =>
      obtain ⟨o, flush⟩ := o
      cases nums with
      | nil => exact ⟨hstay s, hholds, rfl⟩
      | cons num nums =>
          have hmove : Move kernel config client _ _ := .skip frames running s f num nums ref
          have hskip := Move.inv hmove hinv
          simp only [queueFlips, loopSummary, leftOver, atEnd, ha.crtcOn]
          cases hon : o.crtcOn with
          | false => simpa using ih hskip hholds
          | true =>
              simp only [Bool.not_true, Bool.false_eq_true, if_false, queueFlipOnCrtc,
                ha.carrierOk, ha.queueOk, ha.accepted]
              cases hcarrier : o.carrierOk with
              | false => exact ⟨hstay s, hholds, rfl⟩
              | true =>
                  cases hqueue : o.queueOk with
                  | false =>
                      refine ⟨?_, hholds, rfl⟩
                      refine Ran.frame rfl (Nat.le_refl _) (fun line hl => ?_) fun g l hin => ?_
                      · simp [FlipState.act, FlipState.emit, hl]
                      · simpa [FlipState.act, FlipState.emit] using hin
                  | true =>
                      simp only [Bool.not_true, Bool.false_eq_true, if_false, Bool.or_self]
                      have hmove : Move kernel config client _ _ :=
                        .enter frames running s f num nums ref
                      have henterInv := Move.inv hmove hinv
                      set onRef := drmmodeCrtcVblankPipe num == UInt32.ofInt ref
                      have henter := enterFlip_ran s f onRef
                      have hflush := ha.flushes.ran _ running _ henterInv
                      have hlt : f < s.calls := by
                        obtain ⟨live, leaked, hold⟩ := hinv
                        by_contra hnot
                        have hzero := hold.fresh f (Nat.le_of_not_lt hnot)
                        have hpos : 0 < refs ⟨⟨f, num :: nums, ref⟩ :: frames, running, s⟩ f :=
                          refs_pos_of_frame (c := ⟨f, num :: nums, ref⟩) List.mem_cons_self
                        rw [hzero] at hpos
                        exact Nat.lt_irrefl 0 hpos
                      have hafter := hflush.holds (enterFlip_holds hholds onRef) hlt
                      have hboth := henter.andThen (hflush.mono (Nat.le_of_lt hlt))
                      have hinv' := Moves.inv ha.flushes.moves henterInv
                      have hnext : (flushAndRetry (enterFlip s f onRef) a.flushes).queue.next =
                          s.queue.next + 1 + flush.allocs := by
                        rw [hboth.next]
                        exact (Nat.add_assoc _ _ _).symm
                      cases haccepted : o.accepted with
                      | true =>
                          obtain ⟨hran, hend, hover⟩ := ih hinv' hafter
                          rw [hnext] at hend hover
                          exact ⟨hboth.andThen hran, hend, hover⟩
                      | false =>
                          have habort := msDrmAbortSeq_ran client s.calls
                            (flushAndRetry (enterFlip s f onRef) a.flushes) s.queue.next
                          refine ⟨?_, habort.holds hafter hlt, rfl⟩
                          · refine (hboth.andThen (habort.mono (Nat.le_of_lt hlt))).congr rfl
                              (fun k hk => ?_) rfl
                            simp [Summary.andThen, Summary.nothing, Summary.resolve,
                              Nat.ne_of_lt hk]

theorem Holds.outstanding_eq_zero (h : Holds s f left) :
    s.outstanding f = 0 ↔ left.isEmpty = true := by
  rw [List.isEmpty_iff, FlipState.outstanding, List.countP_eq_zero]
  constructor
  · intro hnone
    refine List.eq_nil_iff_forall_not_mem.mpr fun k hk => ?_
    obtain ⟨c, hfind, hc⟩ := (h k).mp hk
    exact hnone c (Pending.find?_mem hfind) (by simp [hc])
  · rintro rfl c hc hcf
    obtain ⟨⟨k, d⟩, hmem, rfl⟩ := List.mem_map.mp hc
    have hin := (h k).mpr ⟨d, Pending.find?_eq_some.mpr hmem, by simpa using hcf⟩
    cases hin

/-- The return to the caller. -/
theorem Ran.returned {bound : Nat} {s' : FlipState ε σ} {sum : Summary} (h : Ran bound s s' sum)
    (f : Nat) (ok : Bool) (left : Nat) (b : Bool) (hb : b = true ↔ (ok = false → left = 0)) :
    Ran bound s (s'.emit (.returned f ok left))
      { sum with answered := fun next => sum.answered next && b } where
  calls := h.calls
  next := h.next
  old := h.old
  new := h.new
  kept := fun line hl => List.mem_cons_of_mem _ (h.kept line hl)
  quiet := by
    have hcons : NoneLeft (s'.emit (.returned f ok left)).log ↔
        NoneLeft s'.log ∧ (ok = false → left = 0) := by
      constructor
      · intro hall
        refine ⟨fun g l hin => hall g l (List.mem_cons_of_mem _ hin), fun hok => ?_⟩
        subst hok
        exact hall f left List.mem_cons_self
      · rintro ⟨hold, hnew⟩ g l hin
        rcases List.mem_cons.mp hin with e | hin
        · cases e
          exact hnew rfl
        · exact hold g l hin
    rw [hcons, h.quiet, ← hb, and_assoc]
    simp

/-- The error labels change no entry and log nothing but the return. -/
theorem errorOut_ran (bound : Nat) (s : FlipState ε σ) (f : Nat) (gbm : Bool) :
    ∃ s', (errorOut (errorUndo s f) f gbm).1 = s'.emit (.returned f false (s.outstanding f)) ∧
      Ran bound s s' .nothing := by
  by_cases hcount : (s.flips f).flipCount = 1
  · rw [errorUndo_last s f hcount, errorOut_last (takeBackFb s f) f gbm hcount]
    refine ⟨_, rfl, ?_⟩
    cases gbm <;> refine Ran.frame rfl (Nat.le_refl _) (fun line hl => ?_) fun g l hin => ?_
    · simp [takeBackFb, drmModeRmFB, drmmodeBoDestroy, FlipState.act, FlipState.emit, hl]
    · simpa [takeBackFb, drmModeRmFB, drmmodeBoDestroy, FlipState.act, FlipState.emit] using hin
    · simp [takeBackFb, drmModeRmFB, drmmodeBoDestroy, FlipState.act, FlipState.emit, hl]
    · simpa [takeBackFb, drmModeRmFB, drmmodeBoDestroy, FlipState.act, FlipState.emit] using hin
  · rw [errorUndo_shared s f hcount, errorOut_shared s f gbm hcount]
    refine ⟨_, rfl, ?_⟩
    cases gbm <;> refine Ran.frame rfl (Nat.le_refl _) (fun line hl => ?_) fun g l hin => ?_
    · simp [dropLocal, drmmodeBoDestroy, FlipState.setFlip, FlipState.act, FlipState.emit, hl]
    · simpa [dropLocal, drmmodeBoDestroy, FlipState.setFlip, FlipState.act, FlipState.emit]
        using hin
    · simp [dropLocal, drmmodeBoDestroy, FlipState.setFlip, FlipState.act, FlipState.emit, hl]
    · simpa [dropLocal, drmmodeBoDestroy, FlipState.setFlip, FlipState.act, FlipState.emit]
        using hin

end Loop

/-- The state in which the loop of a call starts. -/
theorem started_ran (kernel : FbKernel) (s : FlipState ε σ) (event : ε) (bound : Nat) :
    Ran bound s (drmmodeBoImport kernel (openFlip (gotNewFront s) s.calls event)) .nothing := by
  refine Ran.frame rfl (Nat.le_succ _) (fun line hl => ?_) fun g l hin => ?_
  · simp [drmmodeBoImport, openFlip, gotNewFront, FlipState.setFlip, FlipState.act,
      FlipState.emit, hl]
  · simpa [drmmodeBoImport, openFlip, gotNewFront, FlipState.setFlip, FlipState.act,
      FlipState.emit] using hin

/-- A new flip has no entries. -/
theorem started_holds (kernel : FbKernel) (s : FlipState ε σ) (event : ε) {frames : List Frame}
    {running : List (Nat × Carrier)} (hinv : ∃ live leaked, Inv live leaked ⟨frames, running, s⟩) :
    Holds (drmmodeBoImport kernel (openFlip (gotNewFront s) s.calls event)) s.calls [] := by
  intro k
  obtain ⟨live, leaked, hold⟩ := hinv
  have hout : s.outstanding s.calls = 0 := outstanding_fresh hold (Nat.le_refl _)
  rw [FlipState.outstanding, List.countP_eq_zero] at hout
  constructor
  · intro hk
    cases hk
  · rintro ⟨c, hfind, hc⟩
    exact absurd (by simpa using hc) (hout c (Pending.find?_mem hfind))

/-- A call that fails before its loop. -/
theorem early_ran {s s' : FlipState ε σ} {frames : List Frame} {running : List (Nat × Carrier)}
    (hinv : ∃ live leaked, Inv live leaked ⟨frames, running, s⟩)
    (h : Ran s.calls s s' .nothing) (hqueue : s'.queue = s.queue) :
    Ran s.calls s (returnToCaller s' s.calls false).1 .nothing := by
  obtain ⟨live, leaked, hold⟩ := hinv
  have hout : s'.outstanding s.calls = 0 := by
    rw [FlipState.outstanding, hqueue]
    exact outstanding_fresh hold (Nat.le_refl _)
  exact (h.returned s.calls false (s'.outstanding s.calls) true
    (by simp [hout])).congr rfl (fun _ _ => rfl) rfl

theorem answers_moves {answers : List (CrtcAnswer ε σ)}
    {outcomes : List (CrtcOutcome × Summary)}
    (hall : List.Forall₂ (AnswerOf kernel config client) answers outcomes) :
    ∀ a ∈ answers, ∀ g ∈ a.flushes, Moves kernel config client g := by
  induction hall with
  | nil => simp
  | cons ha _ ih =>
      intro a hmem
      rcases List.mem_cons.mp hmem with rfl | hmem
      · exact ha.moves
      · exact ih a hmem

/-- What `ms_do_pageflip` does when its loop is left. -/
def loopLeft (f : Nat) : FlipState ε σ × Bool → FlipState ε σ × Bool
  | (s, false) => errorOut (errorUndo s f) f true
  | (s, true) =>
      let s := drmmodeBoDestroy s f true
      if 1 < (s.flips f).flipCount then returnToCaller (dropLocal s f) f true
      else errorOut (errorUndo s f) f false

/-- A call that gives up notes what is outstanding; one whose loop has run through
leaves nothing behind if it fails. -/
theorem loopLeft_ran {s s' : FlipState ε σ} {sum : Summary} {bound f : Nat} {nums left : List Nat}
    {ref : Int} {frames : List Frame} {running : List (Nat × Carrier)}
    (hinv : ∃ live leaked, Inv live leaked ⟨⟨f, nums, ref⟩ :: frames, running, s'⟩)
    (hend : Holds s' f left) (ok : Bool) (h : Ran bound s s' sum) :
    Ran bound s (loopLeft f (s', ok)).1
      { sum with answered := fun next => sum.answered next && (ok || left.isEmpty) } := by
  cases ok with
  | false =>
      obtain ⟨t, heq, hundo⟩ := errorOut_ran bound s' f true
      have hran := (h.andThen hundo).returned f false (s'.outstanding f) left.isEmpty
        (by simp [hend.outstanding_eq_zero])
      rw [Summary.andThen_nothing] at hran
      rw [loopLeft, heq]
      exact hran
  | true =>
      have hfree : Ran bound s' (drmmodeBoDestroy s' f true) .nothing := by
        refine Ran.frame rfl (Nat.le_refl _) (fun line hl => ?_) fun g l hin => ?_
        · simp [drmmodeBoDestroy, FlipState.act, FlipState.emit, hl]
        · simpa [drmmodeBoDestroy, FlipState.act, FlipState.emit] using hin
      rw [loopLeft]
      by_cases hcount : 1 < ((drmmodeBoDestroy s' f true).flips f).flipCount
      · have hdrop : Ran bound (drmmodeBoDestroy s' f true)
            (dropLocal (drmmodeBoDestroy s' f true) f) .nothing := by
          refine Ran.frame rfl (Nat.le_refl _) (fun line hl => ?_) fun g l hin => ?_
          · simp [dropLocal, FlipState.setFlip, FlipState.act, FlipState.emit, hl]
          · simpa [dropLocal, FlipState.setFlip, FlipState.act, FlipState.emit] using hin
        have hran := ((h.andThen hfree).andThen hdrop).returned f true
          ((dropLocal (drmmodeBoDestroy s' f true) f).outstanding f) true (by simp)
        simp only [Summary.andThen_nothing] at hran
        rw [if_pos hcount]
        exact hran
      · obtain ⟨live, leaked, hold⟩ := hinv
        have hout : (drmmodeBoDestroy s' f true).outstanding f = 0 := by
          obtain ⟨-, hrefs⟩ := refs_of_frame hold
          have hc := hold.count f (by rw [hrefs]; omega)
          rw [hrefs] at hc
          rw [drmmodeBoDestroy_flips] at hcount
          change (s'.flips f).flipCount = ((s'.outstanding f + 1 : Nat) : Int) at hc
          change s'.outstanding f = 0
          omega
        obtain ⟨t, heq, hundo⟩ := errorOut_ran bound (drmmodeBoDestroy s' f true) f false
        have hran := ((h.andThen hfree).andThen hundo).returned f false 0 true (by simp)
        simp only [Summary.andThen_nothing] at hran
        rw [if_neg hcount, heq, hout]
        exact hran

theorem msDoPageflip_summarised {answers : List (CrtcAnswer ε σ)}
    {outcomes : List (CrtcOutcome × Summary)}
    (hall : List.Forall₂ (AnswerOf kernel config client) answers outcomes)
    (call : FlipCall ε) :
    Summarised kernel config client
      (fun s => (msDoPageflip kernel config client s call answers).1)
      (callSummary call config.nums outcomes) where
  moves := msDoPageflip_moves (answers_moves hall) call
  ran := by
    intro frames running s hinv
    simp only [msDoPageflip, callSummary]
    cases hgbm : call.gbmOk with
    | false =>
        refine early_ran hinv ?_ rfl
        exact Ran.frame rfl (Nat.le_succ _) (fun _ hl => hl) fun _ _ hin => hin
    | true =>
        cases hflipdata : call.flipdataOk with
        | false =>
            refine early_ran hinv ?_ rfl
            refine Ran.frame rfl (Nat.le_succ _) (fun line hl => ?_) fun g l hin => ?_
            · simp [drmmodeBoDestroy, FlipState.act, FlipState.emit, hl]
            · simpa [drmmodeBoDestroy, FlipState.act, FlipState.emit] using hin
        | true =>
            simp only [Bool.not_true, Bool.false_eq_true, if_false, Bool.true_and]
            cases himport : call.importOk with
            | false =>
                have hcount : ((openFlip (gotNewFront s) s.calls call.event).flips
                    s.calls).flipCount = 1 := by
                  simp [openFlip, FlipState.setFlip]
                change Ran _ _ (errorOut (openFlip (gotNewFront s) s.calls call.event) s.calls
                  true).1 .nothing
                rw [errorOut_last _ _ _ hcount]
                refine early_ran hinv ?_ rfl
                refine Ran.frame rfl (Nat.le_succ _) (fun line hl => ?_) fun g l hin => ?_
                · simp [drmmodeBoDestroy, openFlip, gotNewFront, FlipState.setFlip,
                    FlipState.act, FlipState.emit, hl]
                · simpa [drmmodeBoDestroy, openFlip, gotNewFront, FlipState.setFlip,
                    FlipState.act, FlipState.emit] using hin
            | true =>
                simp only [Bool.not_true, Bool.false_eq_true, if_false, if_true]
                set s₁ := drmmodeBoImport kernel (openFlip (gotNewFront s) s.calls call.event)
                  with hs₁
                have hstart : Ran s.calls s s₁ .nothing := started_ran kernel s call.event _
                have hmove : Move kernel config client _ _ :=
                  .start frames running s call.event call.refCrtcVblankPipe
                have hinv₁ := Move.inv hmove hinv
                have hempty : Holds s₁ s.calls [] := started_holds kernel s call.event hinv
                obtain ⟨hran, hend, hover⟩ := queueFlips_ran hall hinv₁ hempty
                obtain ⟨nums', hpath⟩ := queueFlips_path (answers_moves hall)
                  frames running s₁ s.calls config.nums
                  call.refCrtcVblankPipe
                have hinv₂ := Path.invariant (P := fun m => ∃ live leaked, Inv live leaked m)
                  (fun _ _ hmove => Move.inv hmove) hpath hinv₁
                have hloop := hstart.andThen hran
                have hnext : s₁.queue.next = s.queue.next := rfl
                rw [hnext] at hend hover
                rw [Summary.nothing_andThen] at hloop
                change Ran s.calls s (loopLeft s.calls (queueFlips client s.calls
                  call.refCrtcVblankPipe s₁ config.nums answers)).1 _
                refine (loopLeft_ran hinv₂ hend _ hloop).congr rfl (fun _ _ => rfl) ?_
                dsimp only
                rw [hover]
                cases (queueFlips client s.calls call.refCrtcVblankPipe s₁ config.nums answers).2
                · rfl
                · rfl

mutual

/-- **The run of a tree is what its summary says.** -/
theorem FlipOp.exec_summarised : ∀ op : FlipOp ε,
    Summarised kernel config client (FlipOp.exec kernel config client op)
      (FlipOp.summary config.nums op)
  | .doPageflip call crtcs => by
      simpa only [FlipOp.exec, FlipOp.summary] using
        msDoPageflip_summarised (answersOf_summarised crtcs) call
  | .event k msc usec next => by
      simpa only [FlipOp.exec, FlipOp.summary] using
        deliver_summarised (execAll_summarised next) k msc usec
  | .abortSeq k => by
      simpa only [FlipOp.exec, FlipOp.summary] using msDrmAbortSeq_summarised k
  | .abortScrn => by
      simpa only [FlipOp.exec, FlipOp.summary] using msDrmAbortScrn_summarised

theorem execAll_summarised : ∀ ops : List (FlipOp ε),
    Summarised kernel config client (execAll kernel config client ops)
      (summaryAll config.nums ops)
  | [] => summarised_id
  | op :: ops => by
      simpa only [execAll, summaryAll] using
        (FlipOp.exec_summarised op).andThen (execAll_summarised ops)

theorem answersOf_summarised : ∀ crtcs : List (CrtcOutcome × List (List (FlipOp ε))),
    List.Forall₂ (AnswerOf kernel config client (σ := σ)) (answersOf kernel config client crtcs)
      (outcomesOf config.nums crtcs)
  | [] => .nil
  | crtc :: crtcs => by
      rw [answersOf, outcomesOf]
      exact .cons (answerOf_summarised crtc) (answersOf_summarised crtcs)

theorem answerOf_summarised : ∀ crtc : CrtcOutcome × List (List (FlipOp ε)),
    AnswerOf kernel config client (σ := σ) (answerOf kernel config client crtc)
      (outcomeOf config.nums crtc)
  | (o, flushes) => by
      rw [answerOf, outcomeOf]
      exact ⟨rfl, rfl, rfl, rfl, flushesOf_moves flushes, flushesOf_summarised flushes⟩

theorem flushesOf_summarised : ∀ flushes : List (List (FlipOp ε)),
    Summarised kernel config client
      (fun s : FlipState ε σ => flushAndRetry s (flushesOf kernel config client flushes))
      (summaryFlushes config.nums flushes)
  | [] => by
      rw [flushesOf, summaryFlushes]
      exact summarised_id
  | flush :: flushes => by
      rw [flushesOf, summaryFlushes]
      exact (execAll_summarised flush).andThen (flushesOf_summarised flushes)

end

end Functions

/-! ## Silence -/

theorem run_eq_execAll (kernel : FbKernel) (config : CrtcConfig) (client : FlipClient ε σ)
    (ops : List (FlipOp ε)) (s : FlipState ε σ) :
    run (flipStep kernel config client) s ops = execAll kernel config client ops s := by
  induction ops generalizing s with
  | nil => rfl
  | cons op ops ih =>
      rw [run_cons, ih, execAll]
      rfl

/-- **When a failed flip stays silent.** Whatever happens later, no handler is
called for a flip for which `ms_do_pageflip` returned `FALSE` in the run `ops`,
if and only if no call of the run gave up on a CRTC while an entry it had queued
on an earlier CRTC was still to be resolved. -/
theorem failed_flip_silent_iff (kernel : FbKernel) (config : CrtcConfig)
    (client : FlipClient ε σ) (fbId : Nat) (flips : Nat → Flipdata ε) (c : σ)
    (ops : List (FlipOp ε)) :
    (∀ f left, .returned f false left ∈
        (run (flipStep kernel config client) (FlipState.start fbId flips c) ops).log →
      ∀ later, (view f (run (flipStep kernel config client) (FlipState.start fbId flips c)
        (ops ++ later)).log).notified = 0) ↔
      (summaryAll config.nums ops).answered 0 = true := by
  have hnotify : ∀ ops : List (FlipOp ε), NotifyInv ⟨[], [],
      run (flipStep kernel config client) (FlipState.start fbId flips c) ops⟩ := fun ops =>
    run_of_step (flipStep_notifyInv kernel config client) (notifyInv_start fbId flips c) ops
  have hall : ∀ ops, Summarised kernel config client (execAll kernel config client ops)
      (summaryAll config.nums ops) := execAll_summarised
  have hran := (hall ops).ran [] [] (FlipState.start fbId flips c) ⟨0, 0, inv_start fbId flips c⟩
  rw [← run_eq_execAll] at hran
  set s := run (flipStep kernel config client) (FlipState.start fbId flips c) ops with hs
  have hstart : NoneLeft (FlipState.start fbId flips c).log := by
    intro f left hin
    simp [FlipState.start] at hin
  have hquiet : NoneLeft s.log ↔ (summaryAll config.nums ops).answered 0 = true :=
    hran.quiet.trans (and_iff_right hstart)
  rw [← hquiet]
  constructor
  · intro hsilent f left hin
    by_contra hleft
    -- abort whatever is outstanding: then the flip has been reported
    have hscrn : Summarised kernel config client _ _ := msDrmAbortScrn_summarised
    have habort := hscrn.ran [] [] s (hnotify ops).inv
    have hlater := hsilent f left hin [.abortScrn]
    rw [run_append, ← hs] at hlater
    have hend := hnotify (ops ++ [.abortScrn])
    rw [run_append, ← hs] at hend
    have hnone : (msDrmAbortScrn client s).outstanding f = 0 := by
      refine List.countP_eq_zero.mpr fun d hd => ?_
      obtain ⟨⟨k, d'⟩, hmem, -⟩ := List.mem_map.mp hd
      have hfind := Pending.find?_eq_some.mpr hmem
      by_cases hlt : k < s.queue.next
      · rw [habort.old k hlt] at hfind
        cases hfind
      · have hnext := habort.next
        have hk := Pending.lt_next_of_find? hfind
        change _ = s.queue.next + 0 at hnext
        omega
    have hsettled := hend.returned f false left (habort.kept _ hin)
    have honce := (hsettled.once (Nat.pos_of_ne_zero hleft)).2.2
    change (view f (msDrmAbortScrn client s).log).notified =
      if (msDrmAbortScrn client s).outstanding f = 0 then 1 else 0 at honce
    change (view f (msDrmAbortScrn client s).log).notified = 0 at hlater
    rw [hlater, if_pos hnone] at honce
    cases honce
  · intro hnone f left hin later
    have hend := hnotify (ops ++ later)
    have hmore := (hall later).ran [] [] s (hnotify ops).inv
    rw [← run_eq_execAll] at hmore
    rw [run_append, ← hs] at hend ⊢
    exact ((hend.returned f false left (hmore.kept _ hin)).silent (hnone f left hin)).2

/-- Two CRTCs; the kernel accepts the flip on the first and rejects it on the
second.  The call returns `FALSE`, and the first CRTC's event calls the
handler. -/
theorem rejected_flip_is_reported :
    ¬ ∀ (config : CrtcConfig) (ops later : List (FlipOp Unit)) (f left : Nat),
      .returned f false left ∈ (run (flipStep FbKernel.upwards config
        ⟨fun _ _ _ => id, fun _ => id⟩) (FlipState.start 1 (fun _ => ⟨(), 0, 0, 0, 0⟩) ())
          ops).log →
      (view f (run (flipStep FbKernel.upwards config ⟨fun _ _ _ => id, fun _ => id⟩)
        (FlipState.start 1 (fun _ => ⟨(), 0, 0, 0, 0⟩) ()) (ops ++ later)).log).notified = 0 := by
  intro h
  have hcall := h ⟨[0, 1], by decide, by decide⟩
    [.doPageflip ⟨(), 0, true, true, true⟩
      [(⟨true, true, true, true⟩, []), (⟨true, true, true, false⟩, [])]]
    [.event 0 5 7 []] 0 1 (by decide)
  exact absurd hcall (by decide)

end LoongsonVideo.Driver.PageFlipFailed
