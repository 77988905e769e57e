import LoongsonVideo.Driver.FlipExclusion
import LoongsonVideo.Driver.GlamorHooks
import LoongsonVideo.Driver.PageFlipFailed

/-!
# The flips behind the flags

`FlipFlags` and `PageFlip` both model `ms_do_pageflip` and its callbacks: the first one follows
the flags of the two extensions and what is on the C stack, the second one what a flip owns.
Here every step of the flags is shown to be moves of `PageFlipRun`, so that what no move breaks
is not broken in a run of the flags either.

* `step_projects`: one step is moves, and both have the same flips afterwards.
* `run_projects`, `run_held`: so is a run, and the flips in its queue have not been freed.
* `scheduleFlip_flags`, `presentPageflip_flags`, `unflipPageflip_flags`: the flags that
  `GlamorHooks` keeps for its tests.

The record of a flip that is freed keeps its count in one model and has none in the other; only
flips with a reference are compared.
-/

namespace LoongsonVideo.Driver.FlipProjection

open LoongsonVideo.Driver.FlipFlags
open LoongsonVideo.Driver.FlipExclusion (TakesOut)
open LoongsonVideo.Driver.PageFlip (FlipState FlipClient FbKernel CrtcConfig Carrier msPageflipFree
  openFlip drmmodeBoImport recordReference unlinkAborted unlinkCompleted)
open LoongsonVideo.Driver.PageFlipRun (Stacked Move Path gotNewFront handlerEntered handlerLeft)
open LoongsonVideo.Driver.PageFlipFailed (msPageflipFree_queue msPageflipFree_calls
  handlerLeft_queue handlerLeft_calls)
open LoongsonVideo.Driver.PageFlipLedger (recordReference_queue recordReference_calls)
open LoongsonVideo.Verified
open LoongsonVideo.Verified.Machine

variable {σ : Type*}

/-! ## Tables with the same flips -/

section Tables

variable {δ δ' : Type*} {g : δ → Nat} {g' : δ' → Nat} {p : Pending δ} {p' : Pending δ'}

/-- Both tables have the same tokens, for the same flips. -/
structure SameEntries (g : δ → Nat) (g' : δ' → Nat) (p : Pending δ) (p' : Pending δ') : Prop where
  next : p'.next = p.next
  entries : (p'.entries.map fun e => (e.1, g' e.2)) = p.entries.map fun e => (e.1, g e.2)

theorem map_find? (g : δ → Nat) (p : Pending δ) (k : Nat) :
    (p.find? k).map g = ((p.entries.map fun e => (e.1, g e.2)).find? fun e => e.1 == k).map
      Prod.snd := by
  rw [Pending.find?, List.find?_map, Option.map_map, Option.map_map]
  rfl

theorem map_filter_token (g : δ → Nat) (l : List (Nat × δ)) (k : Nat) :
    ((l.filter fun e => e.1 != k).map fun e => (e.1, g e.2)) =
      (l.map fun e => (e.1, g e.2)).filter fun e => e.1 != k := by
  rw [List.filter_map]
  rfl

theorem SameEntries.find? (h : SameEntries g g' p p') (k : Nat) :
    (p'.find? k).map g' = (p.find? k).map g := by
  rw [map_find?, map_find?, h.entries]

theorem SameEntries.remove (h : SameEntries g g' p p') (k : Nat) :
    SameEntries g g' (p.remove k) (p'.remove k) := by
  refine ⟨h.next, ?_⟩
  simp only [Pending.remove]
  rw [map_filter_token, map_filter_token, h.entries]

theorem SameEntries.alloc (h : SameEntries g g' p p') {d : δ} {d' : δ'} (hd : g' d' = g d) :
    SameEntries g g' (p.alloc d) (p'.alloc d') := by
  refine ⟨by rw [Pending.alloc_next, Pending.alloc_next, h.next], ?_⟩
  rw [Pending.alloc_entries, Pending.alloc_entries, List.map_cons, List.map_cons, h.entries, h.next,
    hd]

end Tables

/-! ## States with the same flips -/

def Call.frame? : Call → Option (Nat × List Nat)
  | .doPageflip loop => some (loop.flipdata, loop.crtcs)
  | .unflipNotify => none

/-- Both have the same flips in the queue, and the same counts of those with a reference. -/
structure SeesState (t : FlipScreen) (s : FlipState FlipOwner σ) : Prop where
  queue : SameEntries FlipEntry.flipdata Carrier.flipdata t.queue s.queue
  flips : ∀ f, 0 < (t.flips f).flipCount →
    (s.flips f).event = (t.flips f).owner ∧ (s.flips f).flipCount = (t.flips f).flipCount
  calls : s.calls = t.calls

/-- And the same calls in their loop, with no handler running. -/
structure Sees (t : FlipScreen) (m : Stacked FlipOwner σ) : Prop where
  frames : t.stack.filterMap Call.frame? = m.frames.map fun frame => (frame.f, frame.nums)
  running : m.running = []
  state : SeesState t m.st

theorem sees_start (fbId : Nat) (flips : Nat → PageFlip.Flipdata FlipOwner) (client : σ) :
    Sees .start ⟨[], [], PageFlipRun.FlipState.start fbId flips client⟩ where
  frames := rfl
  running := rfl
  state := ⟨⟨rfl, rfl⟩, fun _ h => absurd h (Int.lt_irrefl 0), rfl⟩

variable {t t' : FlipScreen} {s s' : FlipState FlipOwner σ} {m : Stacked FlipOwner σ}

/-- Flags, events and what the kernel scans out are not compared. -/
theorem SeesState.frame (h : SeesState t s) (hqueue : t'.queue = t.queue)
    (hflips : t'.flips = t.flips) (hcalls : t'.calls = t.calls) : SeesState t' s := by
  refine ⟨?_, ?_, ?_⟩
  · rw [hqueue]
    exact h.queue
  · rw [hflips]
    exact h.flips
  · rw [hcalls]
    exact h.calls

/-- The innermost call. -/
theorem Sees.top (h : Sees t m) {loop : FlipLoop} {rest : List Call}
    (hstack : t.stack = .doPageflip loop :: rest) :
    ∃ ref frames, m = ⟨⟨loop.flipdata, loop.crtcs, ref⟩ :: frames, [], m.st⟩ ∧
      rest.filterMap Call.frame? = frames.map fun frame => (frame.f, frame.nums) := by
  obtain ⟨frames, running, st⟩ := m
  have hframes := h.frames
  have hrunning : running = [] := h.running
  rw [hstack, List.filterMap_cons_some (by rfl)] at hframes
  cases frames with
  | nil => cases hframes
  | cons frame frames =>
      obtain ⟨f, nums, ref⟩ := frame
      rw [List.map_cons, List.cons.injEq, Prod.mk.injEq] at hframes
      obtain ⟨⟨rfl, rfl⟩, hrest⟩ := hframes
      exact ⟨ref, frames, by rw [hrunning], hrest⟩

/-! ## References -/

/-- A reference of flip `f` is gone. -/
structure Drops (f : Nat) (s s' : FlipState FlipOwner σ) : Prop where
  event : ∀ g, (s'.flips g).event = (s.flips g).event
  count : ∀ g, (s'.flips g).flipCount = (s.flips g).flipCount - if g = f then 1 else 0

theorem SeesState.drop (h : SeesState t s) {f : Nat} (hdrop : Drops f s s')
    (hqueue : SameEntries FlipEntry.flipdata Carrier.flipdata t'.queue s'.queue)
    (hflips : t'.flips = (dropReference t f).flips) (hcalls : t'.calls = t.calls)
    (hcalls' : s'.calls = s.calls) : SeesState t' s' := by
  refine ⟨hqueue, fun g hg => ?_, by rw [hcalls, hcalls', h.calls]⟩
  have hcount : (t'.flips g).flipCount = (t.flips g).flipCount - if g = f then 1 else 0 := by
    rw [hflips, FlipExclusion.dropReference_flipCount]
  have hlive : 0 < (t.flips g).flipCount := by
    split at hcount <;> omega
  obtain ⟨hevent, hsame⟩ := h.flips g hlive
  exact ⟨by rw [hdrop.event, hevent, hflips, FlipExclusion.dropReference_owner],
    by rw [hdrop.count, hsame, hcount]⟩

section Callbacks

variable (client : FlipClient FlipOwner σ) (k : Nat) (flip : Carrier) (msc usec : UInt64)

/-- A change of what the other model has not. -/
theorem Drops.of_same {u : FlipState FlipOwner σ} {f : Nat} (h : Drops f u s')
    (hevent : ∀ g, (u.flips g).event = (s.flips g).event)
    (hcount : ∀ g, (u.flips g).flipCount = (s.flips g).flipCount) : Drops f s s' :=
  ⟨fun g => (h.event g).trans (hevent g), fun g => by rw [h.count, hcount]⟩

theorem drops_setFlip (s : FlipState FlipOwner σ) (f : Nat) :
    Drops f s (s.setFlip f { s.flips f with flipCount := (s.flips f).flipCount - 1 }) := by
  constructor
  · intro g
    by_cases hg : g = f
    · subst hg
      simp only [FlipState.setFlip, Function.update_self]
    · simp only [FlipState.setFlip, Function.update_of_ne hg]
  · intro g
    by_cases hg : g = f
    · subst hg
      simp only [FlipState.setFlip, Function.update_self, if_true]
    · simp only [FlipState.setFlip, Function.update_of_ne hg, if_neg hg, Int.sub_zero]

theorem msPageflipFree_drops (s : FlipState FlipOwner σ) :
    Drops flip.flipdata s (msPageflipFree s k flip) := by
  have hset := drops_setFlip s flip.flipdata
  simp only [msPageflipFree]
  split
  · exact ⟨hset.event, hset.count⟩
  · exact ⟨hset.event, hset.count⟩

theorem msPageflipAbort_drops (s : FlipState FlipOwner σ) :
    Drops flip.flipdata s
      (PageFlip.msPageflipAbort client (unlinkAborted s k flip) k flip) := by
  simp only [PageFlip.msPageflipAbort]
  split
  · exact (msPageflipFree_drops k flip _).of_same (fun _ => rfl) fun _ => rfl
  · exact (msPageflipFree_drops k flip _).of_same (fun _ => rfl) fun _ => rfl

theorem recordReference_event (s : FlipState FlipOwner σ) (g : Nat) :
    ((recordReference s flip msc usec).flips g).event = (s.flips g).event := by
  unfold recordReference
  split
  · by_cases hg : g = flip.flipdata
    · subst hg
      simp only [FlipState.setFlip, Function.update_self]
    · simp only [FlipState.setFlip, Function.update_of_ne hg]
  · rfl

theorem handlerLeft_drops (s : FlipState FlipOwner σ) :
    Drops flip.flipdata s (handlerLeft (handlerEntered client s k flip msc usec) k flip) := by
  have hleft := msPageflipFree_drops k flip (PageFlip.drmModeRmFB
    ((handlerEntered client s k flip msc usec).act (.touch (.flipdata flip.flipdata)))
    ((handlerEntered client s k flip msc usec).flips flip.flipdata).oldFbId)
  exact hleft.of_same (recordReference_event flip msc usec _) fun g =>
    PageFlipRun.recordReference_flipCount _ flip msc usec g

theorem msPageflipHandler_drops {s : FlipState FlipOwner σ}
    (hcount : (s.flips flip.flipdata).flipCount ≠ 1) :
    Drops flip.flipdata s (PageFlip.msPageflipHandler client id
      (unlinkCompleted s k flip msc usec) msc usec k flip) := by
  rw [PageFlipRun.msPageflipHandler_shared s k flip msc usec hcount]
  exact (msPageflipFree_drops k flip _).of_same (recordReference_event flip msc usec _) fun g =>
    PageFlipRun.recordReference_flipCount _ flip msc usec g

end Callbacks

/-! ## Entries that are taken out -/

section Moves

variable {kernel : FbKernel} {config : CrtcConfig} {client : FlipClient FlipOwner σ}

/-- An entry is taken out of both. -/
theorem SeesState.takesOut (h : SeesState t s) {k : Nat} {e : FlipEntry} {flip : Carrier}
    (hflip : flip.flipdata = e.flipdata) (htakes : TakesOut t k e t')
    (hdrop : Drops flip.flipdata s s') (hqueue : s'.queue = s.queue.remove k)
    (hcalls : s'.calls = s.calls) : SeesState t' s' := by
  rw [hflip] at hdrop
  refine h.drop hdrop ?_ htakes.flips htakes.calls hcalls
  rw [htakes.queue, hqueue]
  exact h.queue.remove k

/-- The entry of the other model. -/
theorem SeesState.found (h : SeesState t s) {k : Nat} {e : FlipEntry}
    (hfind : t.queue.find? k = some e) :
    ∃ flip, s.queue.find? k = some flip ∧ flip.flipdata = e.flipdata := by
  have hsame := h.queue.find? k
  rw [hfind] at hsame
  exact Option.map_eq_some_iff.mp hsame

theorem abortSeq_projects (h : Sees t m) (k : Nat) :
    ∃ m', Path kernel config client m m' ∧ Sees (FlipFlags.msDrmAbortSeq t k) m' := by
  cases hfind : t.queue.find? k with
  | none =>
      refine ⟨m, .refl m, ?_⟩
      rw [FlipFlags.msDrmAbortSeq, hfind]
      exact h
  | some e =>
      obtain ⟨frames, running, s⟩ := m
      obtain ⟨flip, hflip, hsame⟩ := h.state.found hfind
      have htakes := FlipExclusion.msDrmAbortSeq_takesOut hfind
      refine ⟨_, .single (.abort frames running s k flip hflip), ?_, h.running, ?_⟩
      · rw [htakes.stack]
        exact h.frames
      · refine h.state.takesOut hsame htakes (msPageflipAbort_drops client k flip s) ?_ ?_
        · simp only [PageFlip.msPageflipAbort, msPageflipFree_queue]
          split <;> rfl
        · simp only [PageFlip.msPageflipAbort, msPageflipFree_calls]
          split <;> rfl

theorem abortScrn_projects (h : Sees t m) :
    ∃ m', Path kernel config client m m' ∧ Sees (FlipFlags.msDrmAbortScrn t) m' := by
  have hfold : ∀ (ks : List Nat) (t : FlipScreen) (m : Stacked FlipOwner σ), Sees t m →
      ∃ m', Path kernel config client m m' ∧ Sees (ks.foldl FlipFlags.msDrmAbortSeq t) m' := by
    intro ks
    induction ks with
    | nil => exact fun t m h => ⟨m, .refl m, h⟩
    | cons k ks ih =>
        intro t m h
        have habort : ∃ m', Path kernel config client m m' ∧
            Sees (FlipFlags.msDrmAbortSeq t k) m' := abortSeq_projects h k
        obtain ⟨m', hpath, hsees⟩ := habort
        obtain ⟨m'', hrest, hdone⟩ := ih _ _ hsees
        exact ⟨m'', hpath.trans hrest, hdone⟩
  exact hfold t.queue.tokens t m h

/-- The event of a flip's last entry enters its handler and leaves it: what the handler notifies
is done afterwards. -/
theorem event_projects (h : Sees t m) (k : Nat) :
    ∃ m', Path kernel config client m m' ∧ Sees (FlipFlags.msDrmSequenceHandler t k) m' := by
  cases hfind : t.queue.find? k with
  | none =>
      refine ⟨m, .refl m, ?_⟩
      rw [FlipFlags.msDrmSequenceHandler, hfind]
      exact h
  | some e =>
      obtain ⟨frames, running, s⟩ := m
      obtain ⟨flip, hflip, hsame⟩ := h.state.found hfind
      have htakes := FlipExclusion.msDrmSequenceHandler_takesOut hfind
      by_cases hcount : (s.flips flip.flipdata).flipCount = 1
      · have henter : Move kernel config client _ _ :=
          .completeLast frames running s k flip 0 0 hflip hcount
        refine ⟨_, (Path.single henter).trans (.single (.handlerReturns frames running _ k flip)),
          ?_, h.running, ?_⟩
        · rw [htakes.stack]
          exact h.frames
        · refine h.state.takesOut hsame htakes (handlerLeft_drops client k flip 0 0 s) ?_ ?_
          · rw [handlerLeft_queue]
            exact recordReference_queue _ flip 0 0
          · rw [handlerLeft_calls]
            exact recordReference_calls _ flip 0 0
      · refine ⟨_, .single (.complete frames running s k flip 0 0 hflip hcount), ?_, h.running, ?_⟩
        · rw [htakes.stack]
          exact h.frames
        · refine h.state.takesOut hsame htakes (msPageflipHandler_drops client k flip 0 0 hcount)
            ?_ ?_
          · rw [PageFlipRun.msPageflipHandler_shared s k flip 0 0 hcount, msPageflipFree_queue]
            exact recordReference_queue _ flip 0 0
          · rw [PageFlipRun.msPageflipHandler_shared s k flip 0 0 hcount, msPageflipFree_calls]
            exact recordReference_calls _ flip 0 0

/-! ## Calls -/

/-- What the callers do with the answer is not of the flips. -/
theorem Sees.returned (h : Sees t m) (owner : FlipOwner) (ok : Bool) :
    Sees (flipReturned t owner ok) m := by
  cases owner with
  | dri2 => cases ok <;> exact ⟨h.frames, h.running, h.state.frame rfl rfl rfl⟩
  | present unflip =>
      cases unflip <;> cases ok <;> exact ⟨h.frames, h.running, h.state.frame rfl rfl rfl⟩

/-- A call drops its reference, or frees the flip with the last one. -/
theorem SeesState.leave (h : SeesState t s) {f : Nat} (rest : List Call)
    (hqueue : s'.queue = s.queue) (hcalls : s'.calls = s.calls)
    (hflips : (s.flips f).flipCount = 1 ∧ s'.flips = s.flips ∨ Drops f s s') :
    SeesState (leaveLoop t f rest) s' := by
  rcases hflips with ⟨hlast, hsame⟩ | hdrop
  · refine ⟨?_, fun g hg => ?_, hcalls.trans h.calls⟩
    · rw [hqueue]
      exact h.queue
    · have hcount : ((leaveLoop t f rest).flips g).flipCount =
          (t.flips g).flipCount - if g = f then 1 else 0 :=
        FlipExclusion.dropReference_flipCount t f g
      have hlive : 0 < (t.flips g).flipCount := by
        split at hcount <;> omega
      obtain ⟨hevent, hmany⟩ := h.flips g hlive
      have hne : g ≠ f := by
        intro hgf
        subst hgf
        rw [if_pos rfl] at hcount
        omega
      rw [if_neg hne, Int.sub_zero] at hcount
      refine ⟨?_, by rw [hsame, hmany, hcount]⟩
      rw [hsame, hevent]
      exact (FlipExclusion.dropReference_owner t f g).symm
  · refine h.drop hdrop ?_ rfl rfl hcalls
    rw [hqueue]
    exact h.queue

theorem errorOut_leaves (s : FlipState FlipOwner σ) (f : Nat) (gbm : Bool) :
    (s.flips f).flipCount = 1 ∧ (PageFlip.errorOut s f gbm).1.flips = s.flips ∨
      Drops f s (PageFlip.errorOut s f gbm).1 := by
  by_cases hcount : (s.flips f).flipCount = 1
  · refine Or.inl ⟨hcount, ?_⟩
    rw [PageFlip.errorOut_last s f gbm hcount]
    exact PageFlip.drmmodeBoDestroy_flips s f gbm
  · refine Or.inr ?_
    rw [PageFlip.errorOut_shared s f gbm hcount]
    have hset := drops_setFlip (PageFlip.drmmodeBoDestroy s f gbm) f
    refine Drops.of_same (u := PageFlip.drmmodeBoDestroy s f gbm) ⟨hset.event, hset.count⟩ ?_ ?_
    · intro g
      rw [PageFlip.drmmodeBoDestroy_flips]
    · intro g
      rw [PageFlip.drmmodeBoDestroy_flips]

theorem errorOut_rest (s : FlipState FlipOwner σ) (f : Nat) (gbm : Bool) :
    (PageFlip.errorOut s f gbm).1.queue = s.queue ∧
      (PageFlip.errorOut s f gbm).1.calls = s.calls := by
  by_cases hcount : (s.flips f).flipCount = 1
  · rw [PageFlip.errorOut_last s f gbm hcount]
    cases gbm <;> exact ⟨rfl, rfl⟩
  · rw [PageFlip.errorOut_shared s f gbm hcount]
    cases gbm <;> exact ⟨rfl, rfl⟩

theorem errorUndo_same (s : FlipState FlipOwner σ) (f : Nat) :
    (PageFlip.errorUndo s f).flips = s.flips ∧ (PageFlip.errorUndo s f).queue = s.queue ∧
      (PageFlip.errorUndo s f).calls = s.calls := by
  unfold PageFlip.errorUndo
  split <;> exact ⟨rfl, rfl, rfl⟩

/-- A call gives up on a CRTC. -/
theorem errorOut_projects (h : Sees t m) {loop : FlipLoop} {rest : List Call}
    (hstack : t.stack = .doPageflip loop :: rest) :
    ∃ m', Path kernel config client m m' ∧ Sees (FlipFlags.errorOut t loop.flipdata rest) m' := by
  obtain ⟨ref, frames, hm, hrest⟩ := h.top hstack
  have hstate := h.state
  generalize m.st = s at hm hstate
  subst hm
  obtain ⟨hflips, hqueue, hcalls⟩ := errorUndo_same s loop.flipdata
  obtain ⟨hqueue', hcalls'⟩ := errorOut_rest (PageFlip.errorUndo s loop.flipdata) loop.flipdata true
  refine ⟨_, .single (.giveUp frames [] s loop.flipdata loop.crtcs ref), Sees.returned ?_ _ _⟩
  refine ⟨hrest, rfl, hstate.leave rest (hqueue'.trans hqueue) (hcalls'.trans hcalls) ?_⟩
  have hleaves := errorOut_leaves (PageFlip.errorUndo s loop.flipdata) loop.flipdata true
  rw [hflips] at hleaves
  exact hleaves.imp id fun hdrop => hdrop.of_same (fun g => by rw [hflips]) fun g => by rw [hflips]

/-- The loop is done. -/
theorem loopDone_projects (h : Sees t m) {loop : FlipLoop} {rest : List Call}
    (hstack : t.stack = .doPageflip loop :: rest) :
    ∃ m', Path kernel config client m m' ∧ Sees (loopDone t loop.flipdata rest) m' := by
  unfold loopDone
  split
  · next hcount =>
      obtain ⟨ref, frames, hm, hrest⟩ := h.top hstack
      have hstate := h.state
      generalize m.st = s at hm hstate
      subst hm
      obtain ⟨_, hsame⟩ := hstate.flips loop.flipdata (by omega)
      refine ⟨_, .single (.accepted frames [] s loop.flipdata loop.crtcs ref (by omega)),
        Sees.returned ?_ _ _⟩
      have hset := drops_setFlip s loop.flipdata
      exact ⟨hrest, rfl, hstate.leave rest rfl rfl (Or.inr ⟨hset.event, hset.count⟩)⟩
  · exact errorOut_projects h hstack

/-- A call that is in its loop has a reference. -/
theorem live_of_stack (hinv : FlipExclusion.Inv t) {loop : FlipLoop} {rest : List Call}
    (hstack : t.stack = .doPageflip loop :: rest) : 0 < (t.flips loop.flipdata).flipCount := by
  have hmem : loop.flipdata ∈ t.inCall := by
    rw [FlipScreen.inCall, hstack, List.filterMap_cons_some (by rfl)]
    exact List.mem_cons_self
  have hcalling := List.count_pos_iff.mpr hmem
  rw [hinv.count]
  omega

theorem enter_projects (h : Sees t m) (hinv : FlipExclusion.Inv t) {f num : Nat} {nums : List Nat}
    {rest : List Call} (hstack : t.stack = .doPageflip ⟨f, num :: nums, none⟩ :: rest) :
    ∃ m', Path kernel config client m m' ∧
      Sees { enterFlip t num f with
        stack := .doPageflip ⟨f, nums, some (num, t.queue.next)⟩ :: rest } m' := by
  have hlive : 0 < (t.flips f).flipCount := live_of_stack hinv hstack
  obtain ⟨ref, frames, hm, hrest⟩ := h.top hstack
  have hstate := h.state
  generalize m.st = s at hm hstate
  subst hm
  refine ⟨_, .single (.enter frames [] s f num nums ref), ?_, rfl, ?_⟩
  · simp only [List.filterMap_cons, Call.frame?, List.map_cons, hrest]
  · refine ⟨hstate.queue.alloc rfl, fun g hg => ?_, hstate.calls⟩
    by_cases hgf : g = f
    · subst hgf
      obtain ⟨hevent, hsame⟩ := hstate.flips g hlive
      simp only [PageFlip.enterFlip, FlipState.setFlip, FlipState.act, FlipState.emit, enterFlip,
        Function.update_self]
      exact ⟨hevent, by rw [hsame]⟩
    · simp only [PageFlip.enterFlip, FlipState.setFlip, FlipState.act, FlipState.emit, enterFlip,
        Function.update_of_ne hgf] at hg ⊢
      exact hstate.flips g hg

/-- A call starts, or does not get to its loop. -/
theorem msDoPageflip_projects (h : Sees t m) (owner : FlipOwner) (setup : FlipSetup) :
    ∃ m', Path kernel config client m m' ∧
      Sees (FlipFlags.msDoPageflip config.nums t owner setup) m' := by
  unfold FlipFlags.msDoPageflip
  split
  · obtain ⟨frames, running, s⟩ := m
    have hcalls : s.calls = t.calls := h.state.calls
    refine ⟨_, .single (.start frames running s owner (-1)), ?_, h.running, ?_⟩
    · have hframes := h.frames
      simp only [List.filterMap_cons, Call.frame?, List.map_cons, hcalls]
      exact congrArg _ hframes
    · refine ⟨h.state.queue, fun g hg => ?_, congrArg (· + 1) hcalls⟩
      have hflips : (drmmodeBoImport kernel (openFlip (gotNewFront s) s.calls owner)).flips =
          Function.update s.flips t.calls ⟨owner, 1, 0, 0, s.fbId⟩ := by
        rw [← hcalls]
        rfl
      rw [hflips]
      by_cases hgf : g = t.calls
      · subst hgf
        simp only [Function.update_self, and_self]
      · simp only [Function.update_of_ne hgf] at hg ⊢
        exact h.state.flips g hg
  · exact ⟨m, .refl m, h.returned owner false⟩

/-! ## Steps and runs -/

theorem nextCrtc_projects (h : Sees t m) (hinv : FlipExclusion.Inv t) {f : Nat} {nums : List Nat}
    {rest : List Call} (hstack : t.stack = .doPageflip ⟨f, nums, none⟩ :: rest) (turn : CrtcTurn) :
    ∃ m', Path kernel config client m m' ∧ Sees (nextCrtc t f rest turn nums) m' := by
  cases nums with
  | nil => exact loopDone_projects h hstack
  | cons num nums =>
      cases turn with
      | off =>
          obtain ⟨ref, frames, hm, hrest⟩ := h.top hstack
          have hstate := h.state
          generalize m.st = s at hm hstate
          subst hm
          refine ⟨_, .single (.skip frames [] s f num nums ref), ?_, rfl,
            hstate.frame rfl rfl rfl⟩
          simp only [nextCrtc, List.filterMap_cons, Call.frame?, List.map_cons, hrest]
      | noCarrier => exact errorOut_projects h hstack
      | noQueue => exact errorOut_projects h hstack
      | queued => exact enter_projects h hinv hstack

/-- Nothing that is compared changes. -/
theorem Sees.frame (h : Sees t m) (hstack : t'.stack.filterMap Call.frame? =
    t.stack.filterMap Call.frame?) (hqueue : t'.queue = t.queue) (hflips : t'.flips = t.flips)
    (hcalls : t'.calls = t.calls) : Sees t' m :=
  ⟨hstack.trans h.frames, h.running, h.state.frame hqueue hflips hcalls⟩

theorem dispatch_projects (h : Sees t m) (act : FlipAct) :
    ∃ m', Path kernel config client m m' ∧ Sees (dispatch config.nums t act) m' := by
  cases act with
  | dri2FrameEvent others eventOk setup =>
      simp only [dispatch, FlipFlags.msDri2FrameEventHandler, FlipFlags.msDri2ScheduleFlip]
      split
      · split
        · exact msDoPageflip_projects h .dri2 setup
        · exact ⟨m, .refl m, h⟩
      · exact ⟨m, .refl m, h⟩
  | presentFlip spritesVisible others eventOk setup =>
      simp only [dispatch, FlipFlags.msPresentFlip]
      split
      · exact ⟨m, .refl m, h⟩
      · split
        · exact ⟨m, .refl m, h⟩
        · exact msDoPageflip_projects h (.present false) setup
  | presentUnflip others eventOk setup =>
      simp only [dispatch, FlipFlags.msPresentUnflip]
      split
      · exact ⟨m, .refl m, h⟩
      · split
        · exact msDoPageflip_projects h (.present true) setup
        · exact ⟨m, .refl m, h.returned (.present true) false⟩
  | event k =>
      simp only [dispatch, readEvent]
      split
      · exact event_projects (t := { t with events := t.events.erase k })
          (h.frame rfl rfl rfl rfl) k
      · exact ⟨m, .refl m, h⟩
  | abortSeq k => exact abortSeq_projects h k
  | abortScrn => exact abortScrn_projects h
  | loop turn => exact ⟨m, .refl m, h⟩
  | accepted => exact ⟨m, .refl m, h⟩
  | rejected => exact ⟨m, .refl m, h⟩
  | notified => exact ⟨m, .refl m, h⟩
  | vblank num => exact ⟨m, .refl m, h⟩

/-- **A step of the flags is moves of the flips.** -/
theorem step_projects (h : Sees t m) (hinv : FlipExclusion.Inv t) (act : FlipAct) :
    ∃ m', Path kernel config client m m' ∧ Sees (step config.nums t act) m' := by
  have hdispatch : ∃ m', Path kernel config client m m' ∧
      Sees (if t.dispatching then dispatch config.nums t act else t) m' := by
    split
    · exact dispatch_projects h act
    · exact ⟨m, .refl m, h⟩
  cases act with
  | vblank num => exact ⟨m, .refl m, h.frame rfl rfl rfl rfl⟩
  | loop turn =>
      simp only [step]
      split
      case h_1 f nums rest hstack => exact nextCrtc_projects h hinv hstack turn
      case h_2 => exact ⟨m, .refl m, h⟩
  | accepted =>
      simp only [step]
      split
      case h_1 f nums num k rest hstack =>
          refine ⟨m, .refl m, ?_⟩
          unfold crtcAccepted
          split
          · exact h
          · exact h.frame (by rw [hstack]; rfl) rfl rfl rfl
      case h_2 => exact ⟨m, .refl m, h⟩
  | rejected =>
      simp only [step]
      split
      case h_1 f nums num k rest hstack =>
          have haborted : ∃ m', Path kernel config client m m' ∧
              Sees (FlipFlags.msDrmAbortSeq t k) m' := abortSeq_projects h k
          obtain ⟨m', habort, hsees⟩ := haborted
          obtain ⟨m'', hleave, hdone⟩ := errorOut_projects hsees
            ((FlipExclusion.msDrmAbortSeq_stack t k).trans hstack)
          exact ⟨m'', habort.trans hleave, hdone⟩
      case h_2 => exact ⟨m, .refl m, h⟩
  | notified =>
      simp only [step]
      split
      case h_1 rest hstack =>
          exact ⟨m, .refl m, h.frame (by rw [hstack]; rfl) rfl rfl rfl⟩
      case h_2 => exact ⟨m, .refl m, h⟩
  | dri2FrameEvent others eventOk setup => exact hdispatch
  | presentFlip spritesVisible others eventOk setup => exact hdispatch
  | presentUnflip others eventOk setup => exact hdispatch
  | event k => exact hdispatch
  | abortSeq k => exact hdispatch
  | abortScrn => exact hdispatch

/-- **So is a run**, from any start of the flips. -/
theorem run_projects (kernel : FbKernel) (config : CrtcConfig) (client : FlipClient FlipOwner σ)
    (fbId : Nat) (flips : Nat → PageFlip.Flipdata FlipOwner) (client₀ : σ)
    (acts : List FlipAct) :
    ∃ m', Path kernel config client ⟨[], [], PageFlipRun.FlipState.start fbId flips client₀⟩ m' ∧
      Sees (run (step config.nums) .start acts) m' := by
  have hrun : ∀ (acts : List FlipAct) (t : FlipScreen) (m : Stacked FlipOwner σ),
      FlipExclusion.Inv t → Sees t m → ∃ m', Path kernel config client m m' ∧
        Sees (run (step config.nums) t acts) m' := by
    intro acts
    induction acts with
    | nil => exact fun t m _ h => ⟨m, .refl m, h⟩
    | cons act acts ih =>
        intro t m hinv h
        obtain ⟨m', hstep, hsees⟩ := step_projects h hinv act
        obtain ⟨m'', hrest, hdone⟩ := ih _ m' (FlipExclusion.inv_step config.nums t act hinv) hsees
        exact ⟨m'', hstep.trans hrest, hdone⟩
  exact hrun acts _ _ FlipExclusion.inv_start (sees_start fbId flips client₀)

/-- **What an entry points to is there**: behind any run of the flags nothing is freed twice, and
the carrier and the flip of each entry in the queue have not been freed. -/
theorem run_held (kernel : FbKernel) (config : CrtcConfig) (client : FlipClient FlipOwner σ)
    (fbId : Nat) (flips : Nat → PageFlip.Flipdata FlipOwner) (client₀ : σ)
    (acts : List FlipAct) :
    ∃ m, Path kernel config client ⟨[], [], PageFlipRun.FlipState.start fbId flips client₀⟩ m ∧
      Ledger.Lawful (PageFlip.ledger m.st.log) ∧
      ∀ k e, (run (step config.nums) .start acts).queue.find? k = some e →
        .carrier k ∈ Ledger.held (PageFlip.ledger m.st.log) ∧
          .flipdata e.flipdata ∈ Ledger.held (PageFlip.ledger m.st.log) := by
  obtain ⟨m, hpath, hsees⟩ := run_projects kernel config client fbId flips client₀ acts
  have hkept : ∃ live leaked, PageFlipLedger.Inv live leaked m :=
    hpath.invariant (fun _ _ hmove => PageFlipLedger.Move.inv hmove)
      ⟨0, 0, PageFlipLedger.inv_start fbId flips client₀⟩
  obtain ⟨live, leaked, hinv⟩ := hkept
  refine ⟨m, hpath, hinv.owns.lawful, fun k e hfind => ?_⟩
  obtain ⟨flip, hflip, hsame⟩ := hsees.state.found hfind
  have htoken : k ∈ m.st.queue.tokens := List.mem_map.mpr
    ⟨(k, flip), Pending.find?_eq_some.mp hflip, rfl⟩
  have hrefs : 0 < PageFlipLedger.refs m flip.flipdata :=
    PageFlipLedger.refs_pos_of_find hflip
  refine ⟨hinv.owns.mem_held.mpr (PageFlipLedger.carrier_mem_owned.mpr (Or.inl htoken)), ?_⟩
  rw [← hsame]
  exact hinv.owns.mem_held.mpr (PageFlipLedger.flipdata_mem_owned.mpr ((hinv.liveIff _).mpr hrefs))

end Moves

/-! ## The flags of `GlamorHooks` -/

section GlamorHooks

/-- Both flags are the same. -/
structure SameFlags (w : GlamorHooks.World) (t : FlipScreen) : Prop where
  dri2 : w.dri2Flipping = t.dri2Flipping
  present : w.presentFlipping = t.presentFlipping

variable (conf : GlamorHooks.Conf) (a : GlamorHooks.FlipAnswer) {g : GlamorHooks.State}

theorem msDoPageflip_eq (g : GlamorHooks.State) :
    (GlamorHooks.msDoPageflip a g).1.world = g.world ∧
      (GlamorHooks.msDoPageflip a g).2 = (a.flipBo && a.queued) := by
  unfold GlamorHooks.msDoPageflip
  cases a.flipBo <;> exact ⟨rfl, rfl⟩

theorem crtcSetMode_world (a : GlamorHooks.SetAnswer) (g : GlamorHooks.State) :
    (GlamorHooks.drmmodeCrtcSetMode conf a g).1.world = g.world := by
  unfold GlamorHooks.drmmodeCrtcSetMode
  split
  · rfl
  · simp only
    split <;> rfl

theorem shadowCreate_world (shadow : Option Bool) (g : GlamorHooks.State) :
    (GlamorHooks.drmmodeShadowCreate conf shadow g).world = g.world := by
  unfold GlamorHooks.drmmodeShadowCreate GlamorHooks.drmmodeSetPixmapBo
  split
  · rfl
  · split <;> rfl

theorem setModeMajor_world (a : GlamorHooks.ModeAnswer) (g : GlamorHooks.State) :
    (GlamorHooks.drmmodeSetModeMajor conf a g).world = g.world := by
  have hshadow := shadowCreate_world conf a.shadow g
  unfold GlamorHooks.drmmodeSetModeMajor
  simp only
  split
  · exact hshadow
  · have hfirst := crtcSetMode_world conf a.first
      (GlamorHooks.drmmodeShadowCreate conf a.shadow g)
    split
    · next s' hset =>
        rw [hset] at hfirst
        exact hfirst.trans hshadow
    · next s' hset =>
        rw [hset] at hfirst
        split
        · exact (crtcSetMode_world conf a.real s').trans (hfirst.trans hshadow)
        · exact hfirst.trans hshadow

theorem setModes_world (which : GlamorHooks.Crtc → Bool) (sets : Nat → GlamorHooks.ModeAnswer)
    (k : Nat) (crtcs : List GlamorHooks.Crtc) (g : GlamorHooks.State) :
    (GlamorHooks.setModes conf which sets k crtcs g).world = g.world := by
  induction crtcs generalizing k g with
  | nil => rfl
  | cons crtc crtcs ih =>
      rw [GlamorHooks.setModes, ih]
      split
      · exact setModeMajor_world conf (sets k) g
      · rfl

/-- `ms_dri2_schedule_flip` sets the flag when `FlipFlags` does. -/
theorem scheduleFlip_flags (h : SameFlags g.world t) :
    SameFlags (GlamorHooks.msDri2ScheduleFlip a g).world
      (flipReturned t .dri2 (a.event && (a.flipBo && a.queued))) := by
  unfold GlamorHooks.msDri2ScheduleFlip
  cases a.event with
  | false => exact h
  | true =>
      obtain ⟨hworld, hok⟩ := msDoPageflip_eq a g
      generalize GlamorHooks.msDoPageflip a g = out at hworld hok
      obtain ⟨g', ok⟩ := out
      simp only at hworld hok
      subst hok
      rw [← hworld] at h
      cases a.flipBo && a.queued with
      | false => exact h
      | true => exact ⟨rfl, h.present⟩

/-- `ms_present_flip` after its check. -/
theorem presentPageflip_flags (h : SameFlags g.world t) :
    SameFlags (GlamorHooks.presentPageflip a g).world
      (flipReturned t (.present false) (a.event && (a.flipBo && a.queued))) := by
  unfold GlamorHooks.presentPageflip
  cases a.event with
  | false => exact h
  | true =>
      obtain ⟨hworld, hok⟩ := msDoPageflip_eq a g
      generalize GlamorHooks.msDoPageflip a g = out at hworld hok
      obtain ⟨g', ok⟩ := out
      simp only at hworld hok
      subst hok
      rw [← hworld] at h
      cases a.flipBo && a.queued with
      | false => exact h
      | true => exact ⟨h.dri2, rfl⟩

/-- `ms_present_unflip` after its check: with the mode sets, the server is notified at once. -/
theorem unflipPageflip_flags (sets : Nat → GlamorHooks.ModeAnswer) (h : SameFlags g.world t) :
    SameFlags (GlamorHooks.unflipPageflip conf a sets g).world
      (if a.flipBo && a.queued then flipReturned t (.present true) true
        else unflipNotified (flipReturned t (.present true) false) t.stack) := by
  unfold GlamorHooks.unflipPageflip
  obtain ⟨hworld, hok⟩ := msDoPageflip_eq a g
  generalize GlamorHooks.msDoPageflip a g = out at hworld hok
  obtain ⟨g', ok⟩ := out
  simp only at hworld hok
  subst hok
  rw [← hworld] at h
  cases a.flipBo && a.queued with
  | true => exact h
  | false =>
      have hsets := setModes_world conf GlamorHooks.msCrtcOn sets 0 g'.world.crtcs g'
      refine ⟨?_, rfl⟩
      show (GlamorHooks.setModes conf GlamorHooks.msCrtcOn sets 0 g'.world.crtcs
        g').world.dri2Flipping = t.dri2Flipping
      rw [hsets]
      exact h.dri2

end GlamorHooks

end LoongsonVideo.Driver.FlipProjection
