import LoongsonVideo.Driver.PageFlipFailed

/-!
# Event records of page flips

`ms_present_flip`, `ms_present_unflip` and `ms_dri2_schedule_flip` allocate a record for
`ms_do_pageflip`, which one of the two handlers they give it frees.  None of them frees it when
`ms_do_pageflip` returns `FALSE`.

* `freed_at_most_once`: no record is freed twice.
* `FlipOp.leaves`: every call leaves an entry in the queue, read off the tree of calls.
* `records_freed_once_iff`: when every record is freed exactly once.
-/

namespace LoongsonVideo.Driver.FlipRecords

open LoongsonVideo.Driver.PageFlip
open LoongsonVideo.Driver.PageFlipRun
open LoongsonVideo.Driver.PageFlipLedger
open LoongsonVideo.Driver.PageFlipNotify
open LoongsonVideo.Driver.PageFlipFailed
open LoongsonVideo.Verified
open LoongsonVideo.Verified.Ledger
open LoongsonVideo.Verified.Machine

/-! ## The callers -/

inductive FlipCaller where
  | presentFlip
  | presentUnflip
  | dri2Flip
  deriving DecidableEq, Repr

/-- `struct ms_present_vblank_event` or `struct ms_dri2_vblank_event`.  `record` names the
allocation, after the call of `ms_do_pageflip` that it is made for. -/
structure FlipEvent where
  caller : FlipCaller
  record : Nat
  deriving DecidableEq, Repr

/-- `free(event)`, on the list of the records that have been freed. -/
def freeEvent (event : FlipEvent) (freed : List Nat) : List Nat := event.record :: freed

/-- `ms_present_vblank_handler`, after it has told Present. -/
def msPresentVblankHandler (_msc _ust : UInt64) (event : FlipEvent) (freed : List Nat) : List Nat :=
  freeEvent event freed

/-- `ms_present_flip_handler`. -/
def msPresentFlipHandler (msc ust : UInt64) (event : FlipEvent) (freed : List Nat) : List Nat :=
  msPresentVblankHandler msc ust event freed

/-- `ms_present_flip_abort`. -/
def msPresentFlipAbort (event : FlipEvent) (freed : List Nat) : List Nat := freeEvent event freed

/-- `ms_dri2_flip_handler`, after it has told the client. -/
def msDri2FlipHandler (_msc _ust : UInt64) (event : FlipEvent) (freed : List Nat) : List Nat :=
  freeEvent event freed

/-- `ms_dri2_flip_abort`. -/
def msDri2FlipAbort (event : FlipEvent) (freed : List Nat) : List Nat := freeEvent event freed

/-- The handlers each caller gives to `ms_do_pageflip`. -/
def flipHandlers : FlipClient FlipEvent (List Nat) where
  eventHandler msc ust event freed :=
    match event.caller with
    | .presentFlip | .presentUnflip => msPresentFlipHandler msc ust event freed
    | .dri2Flip => msDri2FlipHandler msc ust event freed
  abortHandler event freed :=
    match event.caller with
    | .presentFlip | .presentUnflip => msPresentFlipAbort event freed
    | .dri2Flip => msDri2FlipAbort event freed

/-- The flips and the records that have been freed. -/
abbrev Records := FlipState FlipEvent (List Nat)

section Callers

variable (kernel : FbKernel) (config : CrtcConfig)

/-- `ms_present_flip`, less the flag it sets when `ret` is `TRUE`. -/
def msPresentFlip (s : Records) (checkFlip callocOk : Bool) (call : FlipCall FlipCaller)
    (answers : List (CrtcAnswer FlipEvent (List Nat))) : Records × Bool :=
  if !checkFlip then (s, false)
  else if !callocOk then (s, false)
  else
    msDoPageflip kernel config flipHandlers s
      ⟨⟨.presentFlip, s.calls⟩, call.refCrtcVblankPipe, call.gbmOk, call.flipdataOk, call.importOk⟩
      answers

/-- `ms_present_unflip` up to the mode sets that follow when there is no flip. -/
def msPresentUnflip (s : Records) (callocOk checkUnflip : Bool) (call : FlipCall FlipCaller)
    (answers : List (CrtcAnswer FlipEvent (List Nat))) : Records :=
  if !callocOk then s
  else if !checkUnflip then s
  else
    (msDoPageflip kernel config flipHandlers s
      ⟨⟨.presentUnflip, s.calls⟩, -1, call.gbmOk, call.flipdataOk, call.importOk⟩ answers).1

/-- `ms_dri2_schedule_flip`, less the flag. -/
def msDri2ScheduleFlip (s : Records) (callocOk : Bool) (call : FlipCall FlipCaller)
    (answers : List (CrtcAnswer FlipEvent (List Nat))) : Records × Bool :=
  if !callocOk then (s, false)
  else
    msDoPageflip kernel config flipHandlers s
      ⟨⟨.dri2Flip, s.calls⟩, call.refCrtcVblankPipe, call.gbmOk, call.flipdataOk, call.importOk⟩
      answers

/-- The caller in `call.event` gets as far as `ms_do_pageflip`. -/
def requestFlip (s : Records) (call : FlipCall FlipCaller)
    (answers : List (CrtcAnswer FlipEvent (List Nat))) : Records :=
  match call.event with
  | .presentFlip => (msPresentFlip kernel config s true true call answers).1
  | .presentUnflip => msPresentUnflip kernel config s true true call answers
  | .dri2Flip => (msDri2ScheduleFlip kernel config s true call answers).1

mutual

/-- What one tree does, with each call made by its caller. -/
def FlipOp.perform : FlipOp FlipCaller → Records → Records
  | .doPageflip call crtcs, s => requestFlip kernel config s call (performAnswers crtcs)
  | .event k msc usec next, s => deliver flipHandlers (performAll next) s k msc usec
  | .abortSeq k, s => msDrmAbortSeq flipHandlers s k
  | .abortScrn, s => msDrmAbortScrn flipHandlers s

def performAll : List (FlipOp FlipCaller) → Records → Records
  | [], s => s
  | op :: ops, s => performAll ops (FlipOp.perform op s)

def performAnswers : List (CrtcOutcome × List (List (FlipOp FlipCaller))) →
    List (CrtcAnswer FlipEvent (List Nat))
  | [] => []
  | crtc :: crtcs => performAnswer crtc :: performAnswers crtcs

def performAnswer : CrtcOutcome × List (List (FlipOp FlipCaller)) →
    CrtcAnswer FlipEvent (List Nat)
  | (o, flushes) => o.answer (performFlushes flushes)

def performFlushes : List (List (FlipOp FlipCaller)) → List (Records → Records)
  | [] => []
  | flush :: flushes => performAll flush :: performFlushes flushes

end

def recordStep (s : Records) (op : FlipOp FlipCaller) : Records := FlipOp.perform kernel config op s

end Callers

/-- **Each record is freed exactly once**: when the last entry of its flip is resolved, and not
before. -/
def FreedOnce (s : Records) : Prop :=
  ∀ f ok left, .returned f ok left ∈ s.log →
    s.client.count f = if s.outstanding f = 0 then 1 else 0

/-! ## Calls that leave an entry -/

/-- The calls made while the loop of `ms_do_pageflip` flushes events, with what each CRTC's
flushes say. -/
def loopLeaves : List Nat → List ((CrtcOutcome × Summary) × (Nat → Bool)) → Nat → Bool
  | _ :: nums, ((o, flush), leaves) :: crtcs, next =>
      if !o.crtcOn then loopLeaves nums crtcs next
      else if !o.carrierOk || !o.queueOk then true
      else
        leaves (next + 1) && (!o.accepted || loopLeaves nums crtcs (next + 1 + flush.allocs))
  | _, _, _ => true

section Leaves

variable {ε : Type*} (nums : List Nat)

mutual

/-- **The condition**: every call of `ms_do_pageflip` in the tree gets to its loop and has an
entry in the queue when it leaves it.  `next` is the next entry to be allocated. -/
def FlipOp.leaves : FlipOp ε → Nat → Bool
  | .doPageflip call crtcs, next =>
      call.gbmOk && call.flipdataOk && call.importOk && loopLeaves nums (keptOf crtcs) next &&
        !(atEnd nums (outcomesOf nums crtcs) next []).isEmpty
  | .event _ _ _ ops, next => leavesAll ops next
  | .abortSeq _, _ => true
  | .abortScrn, _ => true

def leavesAll : List (FlipOp ε) → Nat → Bool
  | [], _ => true
  | op :: ops, next =>
      FlipOp.leaves op next && leavesAll ops (next + (FlipOp.summary nums op).allocs)

def keptOf : List (CrtcOutcome × List (List (FlipOp ε))) →
    List ((CrtcOutcome × Summary) × (Nat → Bool))
  | [] => []
  | crtc :: crtcs => keptOne crtc :: keptOf crtcs

def keptOne : CrtcOutcome × List (List (FlipOp ε)) → (CrtcOutcome × Summary) × (Nat → Bool)
  | (o, flushes) => ((o, summaryFlushes nums flushes), leavesFlushes flushes)

def leavesFlushes : List (List (FlipOp ε)) → Nat → Bool
  | [], _ => true
  | flush :: flushes, next =>
      leavesAll flush next && leavesFlushes flushes (next + (summaryAll nums flush).allocs)

end

end Leaves

/-! ## What the log says of records -/

/-- The lines that matter to the callers: a flip's data is allocated, and a call returns. -/
def isMark : FlipLine → Bool
  | .returned _ _ _ => true
  | .act (.acquire (.flipdata _)) => true
  | _ => false

def marks (log : List FlipLine) : List FlipLine := log.filter isMark

/-- The flip whose handler a line calls. -/
def toldOf : FlipLine → Option Nat
  | .eventHandler f _ _ => some f
  | .abortHandler f => some f
  | _ => none

/-- The flips whose handlers were called. -/
def told (log : List FlipLine) : List Nat := log.filterMap toldOf

/-- **The invariant of the records**: a flip has the record that is named after it, and the
records freed are those of the flips whose handlers were called. -/
structure Named (s : Records) : Prop where
  event : ∀ f, .act (.acquire (.flipdata f)) ∈ s.log → (s.flips f).event.record = f
  freed : s.client = told s.log

/-- Every call that has returned left an entry. -/
def AllLeft (log : List FlipLine) : Prop := ∀ f ok left, .returned f ok left ∈ log → 0 < left

theorem mem_marks {line : FlipLine} {log : List FlipLine} (hline : isMark line = true) :
    line ∈ marks log ↔ line ∈ log := by
  rw [marks, List.mem_filter, and_iff_left hline]

theorem allLeft_congr {log log' : List FlipLine} (h : marks log' = marks log) :
    AllLeft log' ↔ AllLeft log := by
  have hmem : ∀ f ok left, .returned f ok left ∈ log' ↔ .returned f ok left ∈ log := by
    intro f ok left
    rw [← mem_marks rfl, h, mem_marks rfl]
  simp only [AllLeft, hmem]

theorem allLeft_returned (f : Nat) (ok : Bool) (left : Nat) (log : List FlipLine) :
    AllLeft (.returned f ok left :: log) ↔ AllLeft log ∧ 0 < left := by
  constructor
  · intro h
    exact ⟨fun g b l hin => h g b l (List.mem_cons_of_mem _ hin), h f ok left List.mem_cons_self⟩
  · rintro ⟨hold, hnew⟩ g b l hin
    rcases List.mem_cons.mp hin with heq | hin
    · cases heq
      exact hnew
    · exact hold g b l hin

theorem count_told (f : Nat) (log : List FlipLine) :
    (told log).count f = (view f log).notified := by
  induction log with
  | nil => rfl
  | cons line log ih =>
      rw [view, told, List.filterMap_cons]
      rw [told] at ih
      cases line with
      | eventHandler g msc usec =>
          simp only [toldOf, FlipView.add, List.count_cons, ih]
          split <;> simp_all
      | abortHandler g =>
          simp only [toldOf, FlipView.add, List.count_cons, ih]
          split <;> simp_all
      | act a =>
          simp only [toldOf, ih]
          cases a with
          | acquire r =>
              cases r with
              | flipdata g =>
                  simp only [FlipView.add]
                  split <;> rfl
              | _ => rfl
          | _ => rfl
      | completed g k onReference msc usec =>
          simp only [toldOf, FlipView.add, ih]
          split <;> [split; skip] <;> rfl
      | queued g k onReference =>
          simp only [toldOf, FlipView.add, ih]
          split <;> rfl
      | aborted g k onReference flipCount =>
          simp only [toldOf, FlipView.add, ih]
          split <;> rfl
      | returned g ok left => exact ih

/-! ## Steps between a call and its return -/

/-- Records, returns and allocations of flips are left alone. -/
structure Inside (s s' : Records) : Prop where
  event : ∀ f, (s'.flips f).event = (s.flips f).event
  marks : marks s'.log = marks s.log
  told : told s'.log = told s.log
  client : s'.client = s.client

/-- The invariant is kept, and there are no returns and allocations. -/
structure Plain (s s' : Records) : Prop where
  named : Named s → Named s'
  marks : marks s'.log = marks s.log

section Steps

variable {s s' s'' : Records} {k : Nat} {flip : Carrier} {frames : List Frame}
  {running : List (Nat × Carrier)}

theorem Inside.trans (h : Inside s s') (h' : Inside s' s'') : Inside s s'' :=
  ⟨fun f => (h'.event f).trans (h.event f), h'.marks.trans h.marks, h'.told.trans h.told,
    h'.client.trans h.client⟩

theorem Inside.plain (h : Inside s s') : Plain s s' where
  named := by
    intro hnamed
    refine ⟨fun f hin => ?_, ?_⟩
    · rw [← mem_marks rfl, h.marks, mem_marks rfl] at hin
      rw [h.event]
      exact hnamed.event f hin
    · rw [h.client, h.told]
      exact hnamed.freed
  marks := h.marks

theorem Plain.trans (h : Plain s s') (h' : Plain s' s'') : Plain s s'' :=
  ⟨fun hnamed => h'.named (h.named hnamed), h'.marks.trans h.marks⟩

/-- A flip keeps its event when its other fields change. -/
theorem inside_update {f : Nat} {d : Flipdata FlipEvent}
    (hflips : s'.flips = Function.update s.flips f d) (h : d.event = (s.flips f).event)
    (hmarks : marks s'.log =
      marks s.log)
    (htold : told s'.log =
      told s.log)
    (hclient : s'.client = s.client) : Inside s s' := by
  refine ⟨fun g => ?_, hmarks, htold, hclient⟩
  rw [hflips]
  by_cases hg : g = f
  · rw [hg, ← h, Function.update_self]
  · rw [Function.update_of_ne hg]

theorem msPageflipFree_inside (s : Records) (k : Nat) (flip : Carrier) :
    Inside s (msPageflipFree s k flip) := by
  rw [msPageflipFree]
  split
  · exact inside_update rfl rfl rfl rfl rfl
  · exact inside_update rfl rfl rfl rfl rfl

theorem recordReference_inside (s : Records) (flip : Carrier) (msc ust : UInt64) :
    Inside s (recordReference s flip msc ust) := by
  rw [recordReference]
  split
  · exact inside_update rfl rfl rfl rfl rfl
  · exact ⟨fun _ => rfl, rfl, rfl, rfl⟩

/-- An entry is taken out, and its carrier and flip are looked at. -/
theorem completed_inside (s : Records) (k : Nat) (flip : Carrier) (msc usec : UInt64) :
    Inside s (((unlinkCompleted s k flip msc usec).act (.touch (.carrier k))).act
      (.touch (.flipdata flip.flipdata))) := ⟨fun _ => rfl, rfl, rfl, rfl⟩

theorem complete_inside (s : Records) (k : Nat) (flip : Carrier) (msc usec : UInt64)
    (hcount : (s.flips flip.flipdata).flipCount ≠ 1) :
    Inside s (msPageflipHandler flipHandlers id (unlinkCompleted s k flip msc usec) msc usec k
      flip) := by
  have hrecorded := (completed_inside s k flip msc usec).trans
    (recordReference_inside _ flip msc usec)
  rw [msPageflipHandler_shared s k flip msc usec hcount]
  exact hrecorded.trans (msPageflipFree_inside _ k flip)

theorem handlerLeft_inside (s : Records) (k : Nat) (flip : Carrier) :
    Inside s (handlerLeft s k flip) := by
  have hremoved : Inside s (drmModeRmFB (s.act (.touch (.flipdata flip.flipdata)))
      (s.flips flip.flipdata).oldFbId) := ⟨fun _ => rfl, rfl, rfl, rfl⟩
  exact hremoved.trans (msPageflipFree_inside _ k flip)

/-- A flip with an entry has been given its record. -/
theorem NotifyInv.allocated (h : NotifyInv ⟨frames, running, s⟩)
    (hfind : s.queue.find? k = some flip) :
    .act (.acquire (.flipdata flip.flipdata)) ∈ s.log := by
  have hrefs : 0 < refs ⟨frames, running, s⟩ flip.flipdata := refs_pos_of_find hfind
  have hopened := h.opened_eq_one hrefs
  have hpos : 0 < acquires (ledger s.log) (.flipdata flip.flipdata) := by
    rw [← view_opened, hopened]
    exact Nat.one_pos
  obtain ⟨line, hline, hact⟩ := List.mem_flatMap.mp (List.count_pos_iff.mp hpos)
  cases line with
  | act a =>
      obtain rfl := List.mem_singleton.mp hact
      exact hline
  | _ => cases hact

/-- A handler frees the record of its flip. -/
theorem callHandler_plain {s s' : Records} {f : Nat} {line : FlipLine}
    (hopen : .act (.acquire (.flipdata f)) ∈ s.log) (hflips : s'.flips = s.flips)
    (hlog : s'.log = line :: s.log) (hmark : isMark line = false) (htold : toldOf line = some f)
    (hclient : s'.client = (s.flips f).event.record :: s.client) : Plain s s' := by
  have hmarks : marks s'.log = marks s.log := by
    rw [hlog]
    exact List.filter_cons_of_neg (by rw [hmark]; exact Bool.false_ne_true)
  refine ⟨fun hnamed => ⟨fun g hin => ?_, ?_⟩, hmarks⟩
  · rw [← mem_marks rfl, hmarks, mem_marks rfl] at hin
    rw [hflips]
    exact hnamed.event g hin
  · rw [hclient, hlog, hnamed.event f hopen, hnamed.freed]
    exact (List.filterMap_cons_some htold).symm

theorem callEventHandler_plain {f : Nat} (hopen : .act (.acquire (.flipdata f)) ∈ s.log) :
    Plain s (callEventHandler flipHandlers s f) := by
  refine callHandler_plain hopen rfl rfl rfl rfl ?_
  rw [callEventHandler]
  dsimp only [flipHandlers]
  cases (s.flips f).event.caller <;> rfl

theorem callAbortHandler_plain {f : Nat} (hopen : .act (.acquire (.flipdata f)) ∈ s.log) :
    Plain s (callAbortHandler flipHandlers s f) := by
  refine callHandler_plain hopen rfl rfl rfl rfl ?_
  rw [callAbortHandler]
  dsimp only [flipHandlers]
  cases (s.flips f).event.caller <;> rfl

theorem Inside.mem_log (h : Inside s s') {line : FlipLine} (hline : isMark line = true)
    (hin : line ∈ s.log) : line ∈ s'.log := by
  rw [← mem_marks hline, h.marks, mem_marks hline]
  exact hin

theorem handlerEntered_plain (h : NotifyInv ⟨frames, running, s⟩)
    (hfind : s.queue.find? k = some flip) (msc usec : UInt64) :
    Plain s (handlerEntered flipHandlers s k flip msc usec) := by
  have hrecorded := (completed_inside s k flip msc usec).trans
    (recordReference_inside _ flip msc usec)
  have hopen := hrecorded.mem_log rfl (NotifyInv.allocated h hfind)
  exact hrecorded.plain.trans (callEventHandler_plain hopen)

theorem abort_plain (h : NotifyInv ⟨frames, running, s⟩) (hfind : s.queue.find? k = some flip) :
    Plain s (msPageflipAbort flipHandlers (unlinkAborted s k flip) k flip) := by
  have htouch : Inside s (((unlinkAborted s k flip).act (.touch (.carrier k))).act
      (.touch (.flipdata flip.flipdata))) := ⟨fun _ => rfl, rfl, rfl, rfl⟩
  rw [msPageflipAbort]
  split
  · have hopen := htouch.mem_log rfl (NotifyInv.allocated h hfind)
    exact (htouch.plain.trans (callAbortHandler_plain hopen)).trans
      (msPageflipFree_inside _ k flip).plain
  · exact (htouch.trans (msPageflipFree_inside _ k flip)).plain

theorem msDrmAbortSeq_plain (h : NotifyInv ⟨frames, running, s⟩) (k : Nat) :
    Plain s (msDrmAbortSeq flipHandlers s k) := by
  rw [msDrmAbortSeq]
  split
  · exact ⟨id, rfl⟩
  · next flip hfind => exact abort_plain h hfind

end Steps

/-! ## What the functions do -/

/-- The invariant is kept, and every call that has returned on the way left an entry exactly
when `b` says so. -/
structure Tracked (s s' : Records) (b : Bool) : Prop where
  named : Named s → Named s'
  left : AllLeft s'.log ↔ AllLeft s.log ∧ b = true

section Functions

variable (kernel : FbKernel) (config : CrtcConfig)

/-- A function of the state that does what its summary says, with the calls that leave an
entry. -/
structure Tracks (g : Records → Records) (sum : Summary) (leaves : Nat → Bool) : Prop where
  summarised : Summarised kernel config flipHandlers g sum
  tracked : ∀ frames running s, NotifyInv ⟨frames, running, s⟩ →
    Tracked s (g s) (leaves s.queue.next)

/-- The answers of a CRTC, with what its flushes do. -/
structure AnswerTracks (a : CrtcAnswer FlipEvent (List Nat))
    (crtc : (CrtcOutcome × Summary) × (Nat → Bool)) : Prop where
  answer : AnswerOf kernel config flipHandlers a crtc.1
  flushes : Tracks kernel config (fun s => flushAndRetry s a.flushes) crtc.1.2 crtc.2

variable {kernel config} {s s' s'' : Records} {frames : List Frame}
  {running : List (Nat × Carrier)}

theorem Tracked.trans {b b' : Bool} (h : Tracked s s' b) (h' : Tracked s' s'' b') :
    Tracked s s'' (b && b') where
  named := fun hnamed => h'.named (h.named hnamed)
  left := by rw [h'.left, h.left, Bool.and_eq_true, and_assoc]

theorem Plain.tracked (h : Plain s s') : Tracked s s' true where
  named := h.named
  left := by rw [allLeft_congr h.marks, and_iff_left rfl]

theorem Moves.notifyInv {g : Records → Records} (h : Moves kernel config flipHandlers g)
    (hinv : NotifyInv ⟨frames, running, s⟩) : NotifyInv ⟨frames, running, g s⟩ :=
  Path.invariant (P := NotifyInv) (fun _ _ hmove => Move.notifyInv hmove) (h frames running s) hinv

theorem Tracks.andThen {g h : Records → Records} {sum sum' : Summary} {leaves leaves' : Nat → Bool}
    (hg : Tracks kernel config g sum leaves) (hh : Tracks kernel config h sum' leaves') :
    Tracks kernel config (fun s => h (g s)) (sum.andThen sum')
      fun next => leaves next && leaves' (next + sum.allocs) where
  summarised := hg.summarised.andThen hh.summarised
  tracked := by
    intro frames running s hinv
    have hfirst := hg.tracked frames running s hinv
    have hnext := (hg.summarised.ran frames running s hinv.inv).next
    have hsecond := hh.tracked frames running (g s) (Moves.notifyInv hg.summarised.moves hinv)
    rw [hnext] at hsecond
    exact hfirst.trans hsecond

theorem tracks_id : Tracks kernel config id .nothing fun _ => true where
  summarised := summarised_id
  tracked := fun _ _ _ _ => Plain.tracked ⟨id, rfl⟩

theorem msDrmAbortSeq_tracks (k : Nat) :
    Tracks kernel config (fun s => msDrmAbortSeq flipHandlers s k) (.resolve k)
      fun _ => true where
  summarised := msDrmAbortSeq_summarised k
  tracked := fun _ _ _ hinv => (msDrmAbortSeq_plain hinv k).tracked

theorem msDrmAbortScrn_tracks :
    Tracks kernel config (msDrmAbortScrn flipHandlers) .resolveAll fun _ => true where
  summarised := msDrmAbortScrn_summarised
  tracked := by
    intro frames running s hinv
    have hfold : ∀ (ks : List Nat) (s : Records), NotifyInv ⟨frames, running, s⟩ →
        Plain s (ks.foldl (msDrmAbortSeq flipHandlers) s) := by
      intro ks
      induction ks with
      | nil => exact fun s _ => ⟨id, rfl⟩
      | cons k ks ih =>
          intro s hinv
          have hmoves : Moves kernel config flipHandlers fun s => msDrmAbortSeq flipHandlers s k :=
            msDrmAbortSeq_moves k
          exact (msDrmAbortSeq_plain hinv k).trans (ih _ (Moves.notifyInv hmoves hinv))
    exact (hfold s.queue.tokens s hinv).tracked

theorem deliver_tracks {next : Records → Records} {sum : Summary} {leaves : Nat → Bool}
    (hnext : Tracks kernel config next sum leaves) (k : Nat) (msc usec : UInt64) :
    Tracks kernel config (fun s => deliver flipHandlers next s k msc usec)
      ((Summary.resolve k).andThen sum) leaves where
  summarised := deliver_summarised hnext.summarised k msc usec
  tracked := by
    intro frames running s hinv
    simp only [deliver]
    cases hfind : s.queue.find? k with
    | none => exact hnext.tracked frames running s hinv
    | some flip =>
        by_cases hcount : (s.flips flip.flipdata).flipCount = 1
        · have hmove : Move kernel config flipHandlers _ _ :=
            .completeLast frames running s k flip msc usec hfind hcount
          have henter := (handlerEntered_plain hinv hfind msc usec).tracked
          have hduring := hnext.tracked frames ((k, flip) :: running)
            (handlerEntered flipHandlers s k flip msc usec) (Move.notifyInv hmove hinv)
          have hqueue : (handlerEntered flipHandlers s k flip msc usec).queue.next = s.queue.next :=
            (handlerEntered_ran flipHandlers 0 s k flip msc usec).next
          have hleave := (handlerLeft_inside
            (next (handlerEntered flipHandlers s k flip msc usec)) k flip).plain.tracked
          have hcount' :
              ((unlinkCompleted s k flip msc usec).flips flip.flipdata).flipCount = 1 := hcount
          simp only [if_pos hcount']
          rw [msPageflipHandler_last next s k flip msc usec hcount]
          rw [hqueue] at hduring
          simpa using (henter.trans hduring).trans hleave
        · have hmove : Move kernel config flipHandlers _ _ :=
            .complete frames running s k flip msc usec hfind hcount
          have hfirst := (complete_inside s k flip msc usec hcount).plain.tracked
          have hqueue : (msPageflipHandler flipHandlers id (unlinkCompleted s k flip msc usec) msc
              usec k flip).queue.next = s.queue.next :=
            (complete_ran flipHandlers 0 s k flip msc usec hcount).next
          have hafter := hnext.tracked frames running _ (Move.notifyInv hmove hinv)
          have hcount' :
              ¬((unlinkCompleted s k flip msc usec).flips flip.flipdata).flipCount = 1 := hcount
          simp only [if_neg hcount']
          rw [hqueue] at hafter
          simpa using hfirst.trans hafter

theorem enterFlip_inside (s : Records) (f : Nat) (onReference : Bool) :
    Inside s (enterFlip s f onReference) :=
  inside_update rfl rfl rfl rfl rfl

theorem answers_of {answers : List (CrtcAnswer FlipEvent (List Nat))}
    {crtcs : List ((CrtcOutcome × Summary) × (Nat → Bool))}
    (hall : List.Forall₂ (AnswerTracks kernel config) answers crtcs) :
    List.Forall₂ (AnswerOf kernel config flipHandlers) answers (crtcs.map Prod.fst) :=
  List.forall₂_map_right_iff.mpr (hall.imp fun _ _ h => h.answer)

/-- **The loop** of a call keeps the records of other calls. -/
theorem queueFlips_tracked {f : Nat} {nums : List Nat} {ref : Int}
    {answers : List (CrtcAnswer FlipEvent (List Nat))}
    {crtcs : List ((CrtcOutcome × Summary) × (Nat → Bool))}
    (hall : List.Forall₂ (AnswerTracks kernel config) answers crtcs)
    (hinv : NotifyInv ⟨⟨f, nums, ref⟩ :: frames, running, s⟩) :
    Tracked s (queueFlips flipHandlers f ref s nums answers).1
      (loopLeaves nums crtcs s.queue.next) := by
  have hstay : ∀ s : Records, Tracked s s true := fun s => Plain.tracked ⟨id, rfl⟩
  induction hall generalizing nums s with
  | nil =>
      have hdone : queueFlips flipHandlers f ref s nums [] = (s, true) := by cases nums <;> rfl
      have hleaves : loopLeaves nums [] s.queue.next = true := by cases nums <;> rfl
      rw [hdone, hleaves]
      exact hstay s
  | @cons a crtc answers crtcs ha _ ih =>
      obtain ⟨⟨o, flush⟩, leaves⟩ := crtc
      cases nums with
      | nil => exact hstay s
      | cons num nums =>
          have hmove : Move kernel config flipHandlers _ _ := .skip frames running s f num nums ref
          have hskip := Move.notifyInv hmove hinv
          simp only [queueFlips, loopLeaves, ha.answer.crtcOn]
          cases hon : o.crtcOn with
          | false => simpa using ih hskip
          | true =>
              simp only [Bool.not_true, Bool.false_eq_true, if_false, queueFlipOnCrtc,
                ha.answer.carrierOk, ha.answer.queueOk, ha.answer.accepted]
              cases hcarrier : o.carrierOk with
              | false => exact hstay s
              | true =>
                  cases hqueue : o.queueOk with
                  | false =>
                      have hcarrier : Inside s ((s.act (.acquire (.carrier s.queue.next))).act
                          (.release (.carrier s.queue.next))) := ⟨fun _ => rfl, rfl, rfl, rfl⟩
                      exact hcarrier.plain.tracked
                  | true =>
                      simp only [Bool.not_true, Bool.false_eq_true, if_false, Bool.or_self]
                      have hmove : Move kernel config flipHandlers _ _ :=
                        .enter frames running s f num nums ref
                      have henterInv := Move.notifyInv hmove hinv
                      set onRef := drmmodeCrtcVblankPipe num == UInt32.ofInt ref
                      have henter := (enterFlip_inside s f onRef).plain.tracked
                      have hflush : Tracked _ (flushAndRetry (enterFlip s f onRef) a.flushes)
                          (leaves (s.queue.next + 1)) := ha.flushes.tracked _ running _ henterInv
                      have hran := ha.flushes.summarised.ran _ running _ henterInv.inv
                      have hboth := henter.trans hflush
                      have hinv' := Moves.notifyInv ha.flushes.summarised.moves henterInv
                      have hnext : (flushAndRetry (enterFlip s f onRef) a.flushes).queue.next =
                          s.queue.next + 1 + flush.allocs := hran.next
                      cases haccepted : o.accepted with
                      | true =>
                          have hrest := ih hinv'
                          rw [hnext] at hrest
                          exact hboth.trans hrest
                      | false =>
                          have habort := (msDrmAbortSeq_plain hinv' s.queue.next).tracked
                          simpa using hboth.trans habort

/-! ### The call -/

theorem dropLocal_inside (s : Records) (f : Nat) : Inside s (dropLocal s f) :=
  inside_update rfl rfl rfl rfl rfl

theorem boDestroy_inside (s : Records) (f : Nat) (gbm : Bool) :
    Inside s (drmmodeBoDestroy s f gbm) := by
  cases gbm with
  | false => exact ⟨fun _ => rfl, rfl, rfl, rfl⟩
  | true => exact ⟨fun _ => rfl, rfl, rfl, rfl⟩

theorem errorUndo_inside (s : Records) (f : Nat) : Inside s (errorUndo s f) := by
  rw [errorUndo]
  split
  · exact ⟨fun _ => rfl, rfl, rfl, rfl⟩
  · exact ⟨fun _ => rfl, rfl, rfl, rfl⟩

/-- The call returns with what is outstanding. -/
theorem errorOut_inside (s : Records) (f : Nat) (gbm : Bool) :
    ∃ s', Inside s s' ∧
      (errorOut s f gbm).1 = s'.emit (.returned f false (s.outstanding f)) := by
  have hfree := boDestroy_inside s f gbm
  by_cases hcount : (s.flips f).flipCount = 1
  · rw [errorOut_last s f gbm hcount]
    have hfreed : Inside (drmmodeBoDestroy s f gbm)
        ((drmmodeBoDestroy s f gbm).act (.release (.flipdata f))) := ⟨fun _ => rfl, rfl, rfl, rfl⟩
    exact ⟨_, hfree.trans hfreed, rfl⟩
  · rw [errorOut_shared s f gbm hcount]
    exact ⟨_, hfree.trans (dropLocal_inside _ f), rfl⟩

theorem loopLeft_inside (s : Records) (f : Nat) (ok : Bool) :
    ∃ s' ok', Inside s s' ∧
      (loopLeft f (s, ok)).1 = s'.emit (.returned f ok' (s.outstanding f)) := by
  cases ok with
  | false =>
      obtain ⟨s', hinside, hout⟩ := errorOut_inside (errorUndo s f) f true
      have hqueue : (errorUndo s f).outstanding f = s.outstanding f := by
        rw [errorUndo]
        split <;> rfl
      rw [hqueue] at hout
      exact ⟨s', false, (errorUndo_inside s f).trans hinside, hout⟩
  | true =>
      have hfree := boDestroy_inside s f true
      rw [loopLeft]
      split
      · exact ⟨_, true, hfree.trans (dropLocal_inside _ f), rfl⟩
      · obtain ⟨s', hinside, hout⟩ := errorOut_inside (errorUndo (drmmodeBoDestroy s f true) f) f
          false
        have hqueue : (errorUndo (drmmodeBoDestroy s f true) f).outstanding f =
            s.outstanding f := by
          rw [errorUndo]
          split <;> rfl
        rw [hqueue] at hout
        exact ⟨s', false, (hfree.trans (errorUndo_inside _ f)).trans hinside, hout⟩

theorem returned_tracked (s : Records) (f : Nat) (ok : Bool) (left : Nat) :
    Tracked s (s.emit (.returned f ok left)) (decide (0 < left)) where
  named := by
    intro hnamed
    refine ⟨fun g hin => hnamed.event g ?_, hnamed.freed⟩
    exact (List.mem_cons.mp hin).resolve_left fun heq => by cases heq
  left := by
    rw [decide_eq_true_eq]
    exact allLeft_returned f ok left s.log

/-- A new flip has the record it was made for. -/
theorem openFlip_tracked (s : Records) {f : Nat} (event : FlipEvent) (hrecord : event.record = f) :
    Tracked s (openFlip s f event) true where
  named := by
    intro hnamed
    refine ⟨fun g hin => ?_, hnamed.freed⟩
    have hflips : (openFlip s f event).flips = Function.update s.flips f ⟨event, 1, 0, 0, s.fbId⟩ :=
      rfl
    rw [hflips]
    by_cases hg : g = f
    · rw [hg, Function.update_self]
      exact hrecord
    · rw [Function.update_of_ne hg]
      refine hnamed.event g ((List.mem_cons.mp hin).resolve_left fun heq => hg ?_)
      cases heq
      rfl
  left := by
    rw [and_iff_left rfl]
    constructor
    · exact fun h g ok left hin => h g ok left (List.mem_cons_of_mem _ hin)
    · intro h g ok left hin
      exact h g ok left ((List.mem_cons.mp hin).resolve_left fun heq => by cases heq)

theorem Holds.outstanding_pos {f : Nat} {left : List Nat} (h : Holds s f left) :
    decide (0 < s.outstanding f) = !left.isEmpty := by
  have hzero := h.outstanding_eq_zero
  cases hleft : left.isEmpty with
  | true => rw [hzero.mpr hleft, Bool.not_true, decide_eq_false (Nat.lt_irrefl 0)]
  | false =>
      have hne : s.outstanding f ≠ 0 := fun h => by rw [hzero, hleft] at h; cases h
      rw [Bool.not_false, decide_eq_true (Nat.pos_of_ne_zero hne)]

/-- A call that fails before its loop leaves no entry. -/
theorem early_tracked {f : Nat} (h : Tracked s s' true) (hout : s'.outstanding f = 0) :
    Tracked s (returnToCaller s' f false).1 false := by
  have hreturned := h.trans (returned_tracked s' f false (s'.outstanding f))
  rw [hout] at hreturned
  rw [returnToCaller, hout]
  exact hreturned

theorem errorOut_tracked (s : Records) (f : Nat) (gbm : Bool) :
    Tracked s (errorOut s f gbm).1 (decide (0 < s.outstanding f)) := by
  obtain ⟨s', hinside, hreturn⟩ := errorOut_inside s f gbm
  rw [hreturn]
  exact hinside.plain.tracked.trans (returned_tracked s' f false (s.outstanding f))

/-- What a call does when its loop is left. -/
theorem loopLeft_tracked {f : Nat} {left : List Nat} (h : Holds s f left) (ok : Bool) :
    Tracked s (loopLeft f (s, ok)).1 (!left.isEmpty) := by
  obtain ⟨s', ok', hinside, hreturn⟩ := loopLeft_inside s f ok
  rw [hreturn, ← Holds.outstanding_pos h]
  exact hinside.plain.tracked.trans (returned_tracked s' f ok' (s.outstanding f))

/-- **One call** of `ms_do_pageflip`, for the record that is named after it. -/
theorem msDoPageflip_tracked {answers : List (CrtcAnswer FlipEvent (List Nat))}
    {crtcs : List ((CrtcOutcome × Summary) × (Nat → Bool))}
    (hall : List.Forall₂ (AnswerTracks kernel config) answers crtcs) (call : FlipCall FlipEvent)
    (hrecord : call.event.record = s.calls) (hinv : NotifyInv ⟨frames, running, s⟩) :
    Tracked s (msDoPageflip kernel config flipHandlers s call answers).1
      (call.gbmOk && call.flipdataOk && call.importOk &&
        loopLeaves config.nums crtcs s.queue.next &&
        !(atEnd config.nums (crtcs.map Prod.fst) s.queue.next []).isEmpty) := by
  obtain ⟨live, leaked, hold⟩ := hinv.inv
  have hout : s.outstanding s.calls = 0 := outstanding_fresh hold (Nat.le_refl _)
  have hfront : Inside s (gotNewFront s) := ⟨fun _ => rfl, rfl, rfl, rfl⟩
  simp only [msDoPageflip]
  cases hgbm : call.gbmOk with
  | false => exact early_tracked (Plain.tracked ⟨fun h => ⟨h.event, h.freed⟩, rfl⟩) hout
  | true =>
      cases hflipdata : call.flipdataOk with
      | false => exact early_tracked (hfront.trans (boDestroy_inside _ _ true)).plain.tracked hout
      | true =>
          have hopen := hfront.plain.tracked.trans
            (openFlip_tracked (gotNewFront s) call.event hrecord)
          cases himport : call.importOk with
          | false =>
              have hfailed := errorOut_tracked (openFlip (gotNewFront s) s.calls call.event)
                s.calls true
              have hleft : (openFlip (gotNewFront s) s.calls call.event).outstanding s.calls = 0 :=
                hout
              rw [hleft] at hfailed
              exact hopen.trans hfailed
          | true =>
              set s₁ := drmmodeBoImport kernel (openFlip (gotNewFront s) s.calls call.event)
              have himported : Inside (openFlip (gotNewFront s) s.calls call.event) s₁ :=
                ⟨fun _ => rfl, rfl, rfl, rfl⟩
              have hmove : Move kernel config flipHandlers _ _ :=
                .start frames running s call.event call.refCrtcVblankPipe
              have hinv₁ := Move.notifyInv hmove hinv
              have hloop := queueFlips_tracked hall hinv₁
              obtain ⟨-, hend, -⟩ := queueFlips_ran (answers_of hall) hinv₁.inv
                (started_holds kernel s call.event hinv.inv)
              have hnext : s₁.queue.next = s.queue.next := rfl
              rw [hnext] at hloop hend
              have hdone := loopLeft_tracked hend (queueFlips flipHandlers s.calls
                call.refCrtcVblankPipe s₁ config.nums answers).2
              change Tracked s (loopLeft s.calls (queueFlips flipHandlers s.calls
                call.refCrtcVblankPipe s₁ config.nums answers)).1 _
              simpa using ((hopen.trans himported.plain.tracked).trans hloop).trans hdone

/-- Each caller hands its own record to `ms_do_pageflip`. -/
theorem requestFlip_eq (kernel : FbKernel) (config : CrtcConfig) (call : FlipCall FlipCaller)
    (answers : List (CrtcAnswer FlipEvent (List Nat))) :
    ∃ ref, ∀ s, requestFlip kernel config s call answers =
      (msDoPageflip kernel config flipHandlers s
        ⟨⟨call.event, s.calls⟩, ref, call.gbmOk, call.flipdataOk, call.importOk⟩ answers).1 := by
  obtain ⟨caller, vblankPipe, gbmOk, flipdataOk, importOk⟩ := call
  cases caller with
  | presentFlip => exact ⟨vblankPipe, fun _ => rfl⟩
  | presentUnflip => exact ⟨-1, fun _ => rfl⟩
  | dri2Flip => exact ⟨vblankPipe, fun _ => rfl⟩

theorem requestFlip_tracks {answers : List (CrtcAnswer FlipEvent (List Nat))}
    {crtcs : List ((CrtcOutcome × Summary) × (Nat → Bool))}
    (hall : List.Forall₂ (AnswerTracks kernel config) answers crtcs) (call : FlipCall FlipCaller) :
    Tracks kernel config (fun s => requestFlip kernel config s call answers)
      (callSummary call config.nums (crtcs.map Prod.fst))
      fun next => call.gbmOk && call.flipdataOk && call.importOk &&
        loopLeaves config.nums crtcs next &&
        !(atEnd config.nums (crtcs.map Prod.fst) next []).isEmpty := by
  obtain ⟨ref, heq⟩ := requestFlip_eq kernel config call answers
  have hsum : ∀ s : Records, Summarised kernel config flipHandlers _ _ := fun s =>
    msDoPageflip_summarised (answers_of hall)
      ⟨⟨call.event, s.calls⟩, ref, call.gbmOk, call.flipdataOk, call.importOk⟩
  refine ⟨⟨fun frames running s => ?_, fun frames running s hinv => ?_⟩,
    fun frames running s hinv => ?_⟩
  · rw [heq]
    exact (hsum s).moves frames running s
  · rw [heq]
    exact (hsum s).ran frames running s hinv
  · rw [heq]
    exact msDoPageflip_tracked hall
      ⟨⟨call.event, s.calls⟩, ref, call.gbmOk, call.flipdataOk, call.importOk⟩ rfl hinv

theorem keptOf_fst (nums : List Nat)
    (crtcs : List (CrtcOutcome × List (List (FlipOp FlipCaller)))) :
    (keptOf nums crtcs).map Prod.fst = outcomesOf nums crtcs := by
  induction crtcs with
  | nil => rfl
  | cons crtc crtcs ih =>
      obtain ⟨o, flushes⟩ := crtc
      rw [keptOf, keptOne, outcomesOf, outcomeOf, List.map_cons, ih]

mutual

/-- **The run of a tree** does what its summary says, and leaves entries as it says. -/
theorem FlipOp.perform_tracks : ∀ op : FlipOp FlipCaller,
    Tracks kernel config (FlipOp.perform kernel config op) (FlipOp.summary config.nums op)
      (FlipOp.leaves config.nums op)
  | .doPageflip call crtcs => by
      have hcall := requestFlip_tracks (performAnswers_tracks crtcs) call
      rw [keptOf_fst] at hcall
      exact hcall
  | .event k msc usec next => deliver_tracks (performAll_tracks next) k msc usec
  | .abortSeq k => msDrmAbortSeq_tracks k
  | .abortScrn => msDrmAbortScrn_tracks

theorem performAll_tracks : ∀ ops : List (FlipOp FlipCaller),
    Tracks kernel config (performAll kernel config ops) (summaryAll config.nums ops)
      (leavesAll config.nums ops)
  | [] => tracks_id
  | op :: ops => (FlipOp.perform_tracks op).andThen (performAll_tracks ops)

theorem performAnswers_tracks :
    ∀ crtcs : List (CrtcOutcome × List (List (FlipOp FlipCaller))),
      List.Forall₂ (AnswerTracks kernel config) (performAnswers kernel config crtcs)
        (keptOf config.nums crtcs)
  | [] => .nil
  | crtc :: crtcs => by
      rw [performAnswers, keptOf]
      exact .cons (performAnswer_tracks crtc) (performAnswers_tracks crtcs)

theorem performAnswer_tracks : ∀ crtc : CrtcOutcome × List (List (FlipOp FlipCaller)),
    AnswerTracks kernel config (performAnswer kernel config crtc) (keptOne config.nums crtc)
  | (o, flushes) => by
      have hall := performFlushes_tracks flushes
      rw [performAnswer, keptOne]
      exact ⟨⟨rfl, rfl, rfl, rfl, performFlushes_moves flushes, hall.summarised⟩, hall⟩

theorem performFlushes_moves : ∀ flushes : List (List (FlipOp FlipCaller)),
    ∀ g ∈ performFlushes kernel config flushes, Moves kernel config flipHandlers g
  | [] => fun g hg => by cases hg
  | flush :: flushes => by
      intro g hg
      rw [performFlushes] at hg
      rcases List.mem_cons.mp hg with rfl | hg
      · exact (performAll_tracks flush).summarised.moves
      · exact performFlushes_moves flushes g hg

theorem performFlushes_tracks : ∀ flushes : List (List (FlipOp FlipCaller)),
    Tracks kernel config (fun s => flushAndRetry s (performFlushes kernel config flushes))
      (summaryFlushes config.nums flushes) (leavesFlushes config.nums flushes)
  | [] => tracks_id
  | flush :: flushes => (performAll_tracks flush).andThen (performFlushes_tracks flushes)

end

end Functions

/-! ## Whole runs -/

section Run

variable (kernel : FbKernel) (config : CrtcConfig) (fbId : Nat)
  (flips : Nat → Flipdata FlipEvent)

/-- Before the first request, no record has been freed. -/
def recordsStart : Records := FlipState.start fbId flips []

theorem run_eq_performAll (ops : List (FlipOp FlipCaller)) (s : Records) :
    run (recordStep kernel config) s ops = performAll kernel config ops s := by
  induction ops generalizing s with
  | nil => rfl
  | cons op ops ih =>
      rw [run_cons, ih, performAll]
      rfl

/-- The invariants of a run. -/
theorem run_notifyInv (ops : List (FlipOp FlipCaller)) :
    NotifyInv ⟨[], [], run (recordStep kernel config) (recordsStart fbId flips) ops⟩ := by
  rw [run_eq_performAll]
  exact Moves.notifyInv (performAll_tracks ops).summarised.moves (notifyInv_start fbId flips [])

theorem run_tracked (ops : List (FlipOp FlipCaller)) :
    Tracked (recordsStart fbId flips)
      (run (recordStep kernel config) (recordsStart fbId flips) ops)
      (leavesAll config.nums ops 0) := by
  rw [run_eq_performAll]
  exact (performAll_tracks ops).tracked [] [] _ (notifyInv_start fbId flips [])

theorem named_start : Named (recordsStart fbId flips) := by
  refine ⟨fun f hin => ?_, rfl⟩
  cases List.mem_singleton.mp hin

/-- A handler's line is the first for its flip. -/
theorem notified_le_one {log : List FlipLine} (h : History.Justified Timely log) (f : Nat) :
    (view f log).notified ≤ 1 := by
  induction log with
  | nil => exact Nat.zero_le 1
  | cons line log ih =>
      have hold := ih h.2
      have hfirst : ∀ g, (view g log).notified = 0 → (g :: told log).count f ≤ 1 := by
        intro g hnone
        rw [List.count_cons, count_told]
        by_cases hg : g = f
        · rw [← hg, hnone, if_pos (beq_self_eq_true g)]
        · rw [if_neg (by simpa using hg)]
          exact hold
      rw [← count_told]
      cases line with
      | eventHandler g msc usec => exact hfirst g h.1.1.silent
      | abortHandler g => exact hfirst g h.1.1.silent
      | _ =>
          rw [← count_told] at hold
          exact hold

/-- **No record is freed twice**, whatever the calls return. -/
theorem freed_at_most_once (ops : List (FlipOp FlipCaller)) (f : Nat) :
    (run (recordStep kernel config) (recordsStart fbId flips) ops).client.count f ≤ 1 := by
  rw [((run_tracked kernel config fbId flips ops).named (named_start fbId flips)).freed, count_told]
  exact notified_le_one (run_notifyInv kernel config fbId flips ops).justified f

/-- **Every record is freed exactly once** exactly when every call of `ms_do_pageflip` leaves an
entry in the queue. -/
theorem records_freed_once_iff (ops : List (FlipOp FlipCaller)) :
    FreedOnce (run (recordStep kernel config) (recordsStart fbId flips) ops) ↔
      leavesAll config.nums ops 0 = true := by
  have hinv := run_notifyInv kernel config fbId flips ops
  have htracked := run_tracked kernel config fbId flips ops
  have hfreed := (htracked.named (named_start fbId flips)).freed
  have hstart : AllLeft (recordsStart fbId flips).log := by
    intro f ok left hin
    cases List.mem_singleton.mp hin
  have hleft := htracked.left.trans (and_iff_right hstart)
  rw [← hleft]
  generalize run (recordStep kernel config) (recordsStart fbId flips) ops = s at hinv hfreed
  constructor
  · intro hall f ok left hin
    by_contra hzero
    obtain ⟨hrefs, hsilent⟩ := (hinv.returned f ok left hin).silent (Nat.eq_zero_of_not_pos hzero)
    have hout : s.outstanding f = 0 := hrefs
    have hone := hall f ok left hin
    rw [hfreed, count_told, if_pos hout] at hone
    exact absurd (hsilent.symm.trans hone) Nat.zero_ne_one
  · intro hall f ok left hin
    rw [hfreed, count_told]
    exact ((hinv.returned f ok left hin).once (hall f ok left hin)).2.2

end Run

/-- One CRTC, and the kernel rejects the flip. -/
def rejectedFlip : List (FlipOp FlipCaller) :=
  [.doPageflip ⟨.presentFlip, 0, true, true, true⟩ [(⟨true, true, true, false⟩, [])]]

/-- **A rejected flip leaks its record**: the call has returned `FALSE`, nothing is outstanding
and nothing has been freed. -/
theorem rejected_flip_leaks_record :
    let s := run (recordStep FbKernel.upwards ⟨[0], by decide, by decide⟩)
      (recordsStart 1 fun _ => ⟨⟨.presentFlip, 0⟩, 0, 0, 0, 0⟩) rejectedFlip
    .returned 0 false 0 ∈ s.log ∧ s.queue.requests = [] ∧ s.client = [] ∧ ¬FreedOnce s := by
  refine ⟨by decide, by decide, by decide, fun hall => ?_⟩
  have hone := hall 0 false 0 (by decide)
  exact absurd hone (by decide)

end LoongsonVideo.Driver.FlipRecords
