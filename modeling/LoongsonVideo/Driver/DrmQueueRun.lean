import LoongsonVideo.Driver.DrmQueue
import LoongsonVideo.Verified.Machine
import LoongsonVideo.Verified.Pending
import Mathlib.Algebra.Ring.Nat

/-!
# Runs of the DRM event queue

The queue of `DrmQueue.lean` under arbitrary runs: screens come and go, entries
are allocated, kernel events of either form and aborts of every kind arrive in
any order.  The data of an entry is the number of the allocation that made it,
so the trace can say for which entry a callback was called.

An event handler runs while `ms_drm_sequence_handler` is on the stack: its
entry is unlinked but not yet freed.  The stack `active` holds these entries.
Every call of the run may be made with any stack, so a handler may allocate,
abort or dispatch further events before it returns (`handlerReturn`).

## Main results

* `seqOf`, `SeqInv`: the number returned by the `k`-th allocation, whatever
  happened in between.
* `takeFirst_seq`: inside the window of `2 ^ 32 - 1` allocations a number leads
  to the entry it was handed out for, or to none.
* `seq_identifies_entry`: so it is in every state of every run.
* `table`: in the window the list behaves as a table of outstanding requests
  (`Verified/Pending.lean`) whose tokens are the allocations.  The modules above
  this one use the table.
-/

namespace LoongsonVideo.Driver.DrmQueueRun

open LoongsonVideo.Driver.DrmQueue
open LoongsonVideo.Verified
open LoongsonVideo.Verified.Machine

/-- One line of the trace.  Entries are named by their allocation. -/
inductive QueueEvent where
  | alloc (k : Nat) (scrn : Nat) (seq : UInt32)
  | handler (k : Nat)
  | freed (k : Nat)
  | abort (k : Nat)
  | closed (scrn : Nat)
  deriving DecidableEq, Repr

/-- The queue with its trace, newest line first. -/
structure QueueRun where
  v : Vblank Nat
  allocs : Nat
  active : List Nat
  log : List QueueEvent

/-- Program start. -/
def QueueRun.start : QueueRun := ⟨Vblank.start, 0, [], []⟩

/-- The calls a run is made of. -/
inductive QueueOp where
  | screenInit (screen : Screen) (serverGeneration : Nat)
  | queueAlloc (crtc : Crtc) (callocOk : Bool)
  | event (e : KernelEvent)
  | handlerReturn
  | abortSeq (scrn : Nat) (seq : UInt32)
  | abort (scrn : Nat) (isMatch : Nat → Bool)
  | closeScreen (screen : Screen) (serverGeneration : Nat)

/-- The abort callbacks of `ks` are called, in this order, and the records
freed. -/
def logAborts (ks : List Nat) (log : List QueueEvent) : List QueueEvent :=
  (ks.map .abort).reverse ++ log

/-- One call. -/
def queueStep (st : QueueRun) : QueueOp → QueueRun
  | .screenInit screen gen => { st with v := msVblankScreenInit st.v screen gen }
  | .queueAlloc crtc callocOk =>
      let r := msDrmQueueAlloc st.v crtc st.allocs callocOk
      if callocOk then
        { st with
          v := r.1
          allocs := st.allocs + 1
          log := .alloc st.allocs crtc.scrn r.2 :: st.log }
      else { st with v := r.1 }
  | .event e =>
      let r := drmHandleEvent st.v e
      match r.2 with
      | none => { st with v := r.1 }
      | some f =>
          { st with
            v := r.1
            active := f.data :: st.active
            log := .handler f.data :: st.log }
  | .handlerReturn =>
      match st.active with
      | [] => st
      | k :: active => { st with active := active, log := .freed k :: st.log }
  | .abortSeq scrn seq =>
      let r := msDrmAbortSeq st.v scrn seq
      { st with v := r.1, log := logAborts r.2.toList st.log }
  | .abort scrn isMatch =>
      let r := msDrmAbort st.v scrn isMatch
      { st with v := r.1, log := logAborts r.2.toList st.log }
  | .closeScreen screen gen =>
      let r := msVblankCloseScreen st.v screen gen
      { st with v := r.1, log := .closed screen.scrn :: logAborts r.2 st.log }

/-- The allocations whose entry is queued, newest first. -/
def QueueRun.queued (st : QueueRun) : List Nat := st.v.msDrmQueue.map QueueEntry.data

/-! ## The queue numbers -/

/-- The number the `k`-th successful allocation returns: `1`, `2`, and so on
up to `2 ^ 32 - 1`, and then `1` again. -/
def seqOf (k : Nat) : UInt32 := UInt32.ofNat (k % (2 ^ 32 - 1) + 1)

/-- `ms_drm_seq` after `n` successful allocations. -/
def counterAfter (n : Nat) : UInt32 := if n = 0 then 0 else seqOf (n - 1) + 1

theorem seqOf_toNat (k : Nat) : (seqOf k).toNat = k % (2 ^ 32 - 1) + 1 := by
  have hlt : k % (2 ^ 32 - 1) < 2 ^ 32 - 1 := Nat.mod_lt _ (by decide)
  rw [seqOf, UInt32.toNat_ofNat']
  exact Nat.mod_eq_of_lt (by omega)

theorem seqOf_ne_zero (k : Nat) : seqOf k ≠ 0 := by
  intro h
  have hval := seqOf_toNat k
  rw [h] at hval
  simp at hval

/-- The counter and the skip of `0` produce `seqOf`. -/
theorem seqOf_eq_counter (n : Nat) :
    (if counterAfter n = 0 then counterAfter n + 1 else counterAfter n) = seqOf n := by
  by_cases hn : n = 0
  · subst hn
    decide
  · have hprev := seqOf_toNat (n - 1)
    have hcount : (counterAfter n).toNat = ((n - 1) % (2 ^ 32 - 1) + 2) % 2 ^ 32 := by
      rw [counterAfter, if_neg hn, UInt32.toNat_add, hprev]
      rfl
    have hstep : n % (2 ^ 32 - 1) =
        if (n - 1) % (2 ^ 32 - 1) = 2 ^ 32 - 2 then 0 else (n - 1) % (2 ^ 32 - 1) + 1 := by
      split <;> omega
    apply UInt32.toNat_inj.mp
    rw [seqOf_toNat]
    by_cases hzero : counterAfter n = 0
    · have hval : (counterAfter n).toNat = 0 := by rw [hzero]; rfl
      have hlt : (n - 1) % (2 ^ 32 - 1) < 2 ^ 32 - 1 := Nat.mod_lt _ (by decide)
      rw [if_pos hzero, hzero, hstep, if_pos (by omega)]
      rfl
    · have hval : (counterAfter n).toNat ≠ 0 := by
        intro h
        exact hzero (UInt32.toNat_inj.mp h)
      have hlt : (n - 1) % (2 ^ 32 - 1) < 2 ^ 32 - 1 := Nat.mod_lt _ (by decide)
      rw [if_neg hzero, hcount, hstep, if_neg (by omega)]
      omega

/-- Fewer than `2 ^ 32 - 1` allocations apart, numbers differ. -/
theorem seqOf_inj_of_age {n j k : Nat} (hj : j < n) (hk : k < n)
    (hagej : n - j ≤ 2 ^ 32 - 1) (hagek : n - k ≤ 2 ^ 32 - 1)
    (h : seqOf j = seqOf k) : j = k := by
  have hval := congrArg UInt32.toNat h
  rw [seqOf_toNat, seqOf_toNat] at hval
  omega

/-- What holds of the numbers on every run, however long and whatever
`ms_vblank_screen_init` did to the list. -/
structure SeqInv (st : QueueRun) : Prop where
  counter : st.v.msDrmSeq = counterAfter st.allocs
  logged : ∀ k s seq, .alloc k s seq ∈ st.log → k < st.allocs ∧ seq = seqOf k
  screen : ∀ k s s' seq seq', .alloc k s seq ∈ st.log → .alloc k s' seq' ∈ st.log → s = s'
  entry : ∀ q ∈ st.v.msDrmQueue, .alloc q.data q.scrn q.seq ∈ st.log
  nodup : st.queued.Nodup

theorem SeqInv.entry_lt {st : QueueRun} (h : SeqInv st) {q : QueueEntry Nat}
    (hq : q ∈ st.v.msDrmQueue) : q.data < st.allocs :=
  (h.logged _ _ _ (h.entry q hq)).1

theorem SeqInv.entry_seq {st : QueueRun} (h : SeqInv st) {q : QueueEntry Nat}
    (hq : q ∈ st.v.msDrmQueue) : q.seq = seqOf q.data :=
  (h.logged _ _ _ (h.entry q hq)).2

theorem seqInv_start : SeqInv QueueRun.start where
  counter := rfl
  logged := by simp [QueueRun.start]
  screen := by simp [QueueRun.start]
  entry := by simp [QueueRun.start, Vblank.start]
  nodup := by simp [QueueRun.queued, QueueRun.start, Vblank.start]

/-- Every call but an allocation leaves the counter and the logged allocations
alone and keeps part of the queue. -/
theorem SeqInv.shrink {st st' : QueueRun} (h : SeqInv st)
    (hseq : st'.v.msDrmSeq = st.v.msDrmSeq) (hallocs : st'.allocs = st.allocs)
    (hlog : ∀ k s seq, .alloc k s seq ∈ st'.log ↔ .alloc k s seq ∈ st.log)
    (hqueue : st'.v.msDrmQueue.Sublist st.v.msDrmQueue) : SeqInv st' where
  counter := by rw [hseq, hallocs]; exact h.counter
  logged := by
    intro k s seq hmem
    rw [hallocs]
    exact h.logged k s seq ((hlog k s seq).mp hmem)
  screen := by
    intro k s s' seq seq' hmem hmem'
    exact h.screen k s s' seq seq' ((hlog _ _ _).mp hmem) ((hlog _ _ _).mp hmem')
  entry := by
    intro q hq
    exact (hlog _ _ _).mpr (h.entry q (hqueue.subset hq))
  nodup := (hqueue.map _).nodup h.nodup

private theorem mem_logAborts_alloc {ks : List Nat} {log : List QueueEvent} {k s : Nat}
    {seq : UInt32} : .alloc k s seq ∈ logAborts ks log ↔ .alloc k s seq ∈ log := by
  simp [logAborts]

private theorem rest_sublist {p : QueueEntry Nat → Bool} (l : List (QueueEntry Nat)) :
    (((takeFirst p l).map Prod.snd).getD l).Sublist l := by
  cases h : takeFirst p l with
  | none => exact List.Sublist.refl l
  | some r => exact takeFirst_sublist h

/-- Every call keeps the numbers right. -/
theorem queueStep_seqInv (st : QueueRun) (op : QueueOp) (h : SeqInv st) :
    SeqInv (queueStep st op) := by
  cases op with
  | screenInit screen gen =>
      refine h.shrink (by simp [queueStep]) rfl (fun _ _ _ => Iff.rfl) ?_
      simp [queueStep]
  | queueAlloc crtc callocOk =>
      cases callocOk with
      | false => exact h
      | true =>
          have hnum := seqOf_eq_counter st.allocs
          rw [← h.counter] at hnum
          simp only [queueStep, msDrmQueueAlloc, if_true]
          rw [hnum]
          refine ⟨?_, ?_, ?_, ?_, ?_⟩
          · simp [counterAfter]
          · intro k s seq hmem
            rcases List.mem_cons.mp hmem with heq | hmem
            · cases heq
              exact ⟨Nat.lt_succ_self _, rfl⟩
            · obtain ⟨hlt, hseq⟩ := h.logged k s seq hmem
              exact ⟨Nat.lt_succ_of_lt hlt, hseq⟩
          · intro k s s' seq seq' hmem hmem'
            rcases List.mem_cons.mp hmem with heq | hmem <;>
              rcases List.mem_cons.mp hmem' with heq' | hmem'
            · cases heq
              cases heq'
              rfl
            · cases heq
              exact absurd (h.logged _ _ _ hmem').1 (Nat.lt_irrefl _)
            · cases heq'
              exact absurd (h.logged _ _ _ hmem).1 (Nat.lt_irrefl _)
            · exact h.screen k s s' seq seq' hmem hmem'
          · intro q hq
            rcases List.mem_cons.mp hq with rfl | hq
            · exact List.mem_cons_self
            · exact List.mem_cons_of_mem _ (h.entry q hq)
          · refine List.nodup_cons.mpr ⟨?_, h.nodup⟩
            intro hmem
            obtain ⟨q, hq, hdata⟩ := List.mem_map.mp hmem
            have hlt := h.entry_lt hq
            rw [hdata] at hlt
            exact Nat.lt_irrefl _ hlt
  | event e =>
      obtain ⟨hqueue, -, hseq⟩ := drmHandleEvent_queue st.v e
      have hsub := rest_sublist (p := fun q => q.seq == e.seq) st.v.msDrmQueue
      rw [← hqueue] at hsub
      cases hr : (drmHandleEvent st.v e).2 with
      | none =>
          refine h.shrink ?_ ?_ ?_ ?_ <;> simp [queueStep, hr, hseq, hsub]
      | some f =>
          refine h.shrink ?_ ?_ ?_ ?_ <;> simp [queueStep, hr, hseq, hsub]
  | handlerReturn =>
      cases hactive : st.active with
      | nil => simpa [queueStep, hactive] using h
      | cons k active =>
          refine h.shrink ?_ ?_ ?_ ?_ <;> simp [queueStep, hactive]
  | abortSeq scrn seq =>
      have hsub := rest_sublist (p := fun q => q.seq == seq) st.v.msDrmQueue
      rw [← (abortFirst_queue st.v _).1] at hsub
      exact h.shrink (abortFirst_seq _ _) rfl (fun _ _ _ => mem_logAborts_alloc) hsub
  | abort scrn isMatch =>
      have hsub := rest_sublist (p := fun q => isMatch q.data) st.v.msDrmQueue
      rw [← (abortFirst_queue st.v _).1] at hsub
      exact h.shrink (abortFirst_seq _ _) rfl (fun _ _ _ => mem_logAborts_alloc) hsub
  | closeScreen screen gen =>
      refine h.shrink (by simp [queueStep]) rfl ?_ ?_
      · intro k s seq
        simp [queueStep, mem_logAborts_alloc]
      · simp [queueStep, List.filter_sublist]

/-- No entry in the queue is `2 ^ 32 - 1` or more allocations old. -/
def QueueWindow (st : QueueRun) : Prop :=
  ∀ q ∈ st.v.msDrmQueue, st.allocs - q.data ≤ 2 ^ 32 - 1

/-- **Numbers lead home.** In the window, the walk for the number of allocation
`k` finds the entry of `k` if it is queued, and otherwise nothing. -/
theorem takeFirst_seq {st : QueueRun} (h : SeqInv st) (hw : QueueWindow st)
    {k s : Nat} {seq : UInt32} (hmem : .alloc k s seq ∈ st.log)
    (hage : st.allocs - k ≤ 2 ^ 32 - 1) :
    (takeFirst (fun q => q.seq == seq) st.v.msDrmQueue).map (fun r => r.1.data) =
      if k ∈ st.queued then some k else none := by
  obtain ⟨hk, rfl⟩ := h.logged k s seq hmem
  have hhome : ∀ q ∈ st.v.msDrmQueue, q.seq = seqOf k → q.data = k := by
    intro q hq hseq
    rw [h.entry_seq hq] at hseq
    exact seqOf_inj_of_age (h.entry_lt hq) hk (hw q hq) hage hseq
  cases ht : takeFirst (fun q => q.seq == seqOf k) st.v.msDrmQueue with
  | none =>
      have hnot : k ∉ st.queued := by
        intro hin
        obtain ⟨q, hq, rfl⟩ := List.mem_map.mp hin
        have hmiss := takeFirst_eq_none.mp ht q hq
        rw [h.entry_seq hq] at hmiss
        simp at hmiss
      rw [if_neg hnot]
      rfl
  | some r =>
      obtain ⟨hr, hseq⟩ := takeFirst_mem ht
      have hdata : r.1.data = k := hhome r.1 hr (by simpa using hseq)
      have hin : k ∈ st.queued := List.mem_map.mpr ⟨r.1, hr, hdata⟩
      rw [if_pos hin, Option.map_some, hdata]

/-! ## The sequence numbers of a run -/

/-- Sequence numbers identify queue entries: they are handed out in the order
`seqOf` and never `0`, they are distinct in the queue, and an event or an abort
that comes in time reaches exactly the entry its number was handed out for. -/
structure SeqIdentifies (st : QueueRun) : Prop where
  handed : ∀ k s seq, .alloc k s seq ∈ st.log → seq = seqOf k ∧ seq ≠ 0
  distinct : (st.v.msDrmQueue.map QueueEntry.seq).Nodup
  fires : ∀ k s seq, .alloc k s seq ∈ st.log → st.allocs - k ≤ 2 ^ 32 - 1 →
    ∀ e : KernelEvent, e.seq = seq →
      (drmHandleEvent st.v e).2.map Firing.data = if k ∈ st.queued then some k else none
  aborts : ∀ k s seq, .alloc k s seq ∈ st.log → st.allocs - k ≤ 2 ^ 32 - 1 →
    ∀ scrn, (msDrmAbortSeq st.v scrn seq).2 = if k ∈ st.queued then some k else none

theorem SeqInv.identifies {st : QueueRun} (h : SeqInv st) (hw : QueueWindow st) :
    SeqIdentifies st where
  handed := by
    intro k s seq hmem
    obtain ⟨-, rfl⟩ := h.logged k s seq hmem
    exact ⟨rfl, seqOf_ne_zero k⟩
  distinct := by
    refine List.Nodup.map_on ?_ (List.Nodup.of_map _ h.nodup)
    intro q hq q' hq' hseq
    rw [h.entry_seq hq, h.entry_seq hq'] at hseq
    have hdata := seqOf_inj_of_age (h.entry_lt hq) (h.entry_lt hq') (hw q hq) (hw q' hq') hseq
    exact List.inj_on_of_nodup_map h.nodup hq hq' hdata
  fires := by
    intro k s seq hmem hage e he
    subst he
    rw [(drmHandleEvent_queue st.v e).2.1]
    exact takeFirst_seq h hw hmem hage
  aborts := by
    intro k s seq hmem hage scrn
    rw [msDrmAbortSeq, (abortFirst_queue st.v _).2]
    exact takeFirst_seq h hw hmem hage

theorem run_seqInv (ops : List QueueOp) : Always queueStep SeqInv QueueRun.start ops :=
  always_of_step queueStep_seqInv seqInv_start ops

/-- **Sequence numbers identify queue entries.** On a run of any length, over
any number of wraps of the counter and server generations, in which no entry
stays queued for `2 ^ 32 - 1` allocations: in every state the numbers handed
out are nonzero, those in the queue are distinct, and an event or abort that
carries the number of an allocation less than `2 ^ 32 - 1` allocations old
reaches that allocation's entry, or none when it is no longer queued. -/
theorem seq_identifies_entry (ops : List QueueOp)
    (hw : Always queueStep QueueWindow QueueRun.start ops) :
    Always queueStep SeqIdentifies QueueRun.start ops :=
  ((run_seqInv ops).and hw).mono fun _ h => h.1.identifies h.2

instance (st : QueueRun) : Decidable (QueueWindow st) := by
  unfold QueueWindow
  infer_instance

/-- A run with two entries, one of which is answered. -/
theorem seq_identifies_entry_two :
    Always queueStep SeqIdentifies QueueRun.start
      [.screenInit ⟨0, 0, 3⟩ 1, .queueAlloc ⟨0, 0⟩ true, .queueAlloc ⟨1, 0⟩ true,
        .event (.sequence 7 0 1)] :=
  seq_identifies_entry _ (by decide)

/-! ## The list as a table of outstanding requests -/

/-- The table the list stands for: the tokens are the allocations, the data
the screens. -/
def table (st : QueueRun) (h : SeqInv st) : Pending Nat where
  next := st.allocs
  entries := st.v.msDrmQueue.map fun q => (q.data, q.scrn)
  fresh := by
    intro e he
    obtain ⟨q, hq, rfl⟩ := List.mem_map.mp he
    exact h.entry_lt hq
  nodup := by
    rw [List.map_map]
    exact h.nodup

theorem table_alloc (st : QueueRun) (h : SeqInv st) (crtc : Crtc) :
    table (queueStep st (.queueAlloc crtc true)) (queueStep_seqInv st _ h) =
      (table st h).alloc crtc.scrn :=
  Pending.eq_of rfl rfl

private theorem table_take {st : QueueRun} (h : SeqInv st) (hw : QueueWindow st)
    {k s : Nat} {seq : UInt32} (hmem : .alloc k s seq ∈ st.log)
    (hage : st.allocs - k ≤ 2 ^ 32 - 1) :
    (((takeFirst (fun q => q.seq == seq) st.v.msDrmQueue).map Prod.snd).getD
        st.v.msDrmQueue).map (fun q => (q.data, q.scrn)) =
      ((table st h).remove k).entries := by
  have hhome := takeFirst_seq h hw hmem hage
  cases ht : takeFirst (fun q => q.seq == seq) st.v.msDrmQueue with
  | none =>
      rw [ht] at hhome
      have hnot : k ∉ st.queued := by
        intro hin
        rw [if_pos hin] at hhome
        cases hhome
      have hnone : (table st h).find? k = none := by
        rw [Pending.find?_eq_none, Pending.tokens, table, List.map_map]
        exact hnot
      rw [Pending.remove_of_find?_none hnone]
      rfl
  | some r =>
      rw [ht, Option.map_some] at hhome
      have hdata : r.1.data = k := by
        split at hhome
        · exact Option.some.inj hhome
        · cases hhome
      obtain ⟨before, after, hqueue, hrest, -, -⟩ := takeFirst_eq_some ht
      have hnodup := h.nodup
      rw [QueueRun.queued, hqueue, List.map_append, List.map_cons, hdata] at hnodup
      have hnodup := List.nodup_middle.mp hnodup
      have hnot := (List.nodup_cons.mp hnodup).1
      simp only [List.mem_append, List.mem_map, not_or, not_exists, not_and] at hnot
      simp only [Option.map_some, Option.getD_some, Pending.remove, table]
      rw [hqueue, hrest]
      simp only [List.map_append, List.map_cons, List.filter_append, List.filter_cons, hdata,
        bne_self_eq_false, Bool.false_eq_true, if_false]
      congr 1 <;> symm <;> refine List.filter_eq_self.mpr fun e he => ?_
      · obtain ⟨q, hq, rfl⟩ := List.mem_map.mp he
        simpa using hnot.1 q hq
      · obtain ⟨q, hq, rfl⟩ := List.mem_map.mp he
        simpa using hnot.2 q hq

/-- An event that carries the number of allocation `k` takes token `k` out. -/
theorem table_event {st : QueueRun} (h : SeqInv st) (hw : QueueWindow st)
    {k s : Nat} {seq : UInt32} (hmem : .alloc k s seq ∈ st.log)
    (hage : st.allocs - k ≤ 2 ^ 32 - 1) {e : KernelEvent} (he : e.seq = seq) :
    table (queueStep st (.event e)) (queueStep_seqInv st _ h) = (table st h).remove k := by
  subst he
  have htake := table_take h hw hmem hage
  rw [← (drmHandleEvent_queue st.v e).1] at htake
  cases hr : (drmHandleEvent st.v e).2 with
  | none => exact Pending.eq_of (by simp [table, queueStep, hr]) (by simpa [table, queueStep, hr])
  | some f => exact Pending.eq_of (by simp [table, queueStep, hr]) (by simpa [table, queueStep, hr])

/-- So does `ms_drm_abort_seq` with that number. -/
theorem table_abortSeq {st : QueueRun} (h : SeqInv st) (hw : QueueWindow st)
    {k s : Nat} {seq : UInt32} (hmem : .alloc k s seq ∈ st.log)
    (hage : st.allocs - k ≤ 2 ^ 32 - 1) (scrn : Nat) :
    table (queueStep st (.abortSeq scrn seq)) (queueStep_seqInv st _ h) =
      (table st h).remove k := by
  have htake := table_take h hw hmem hage
  rw [← (abortFirst_queue st.v _).1] at htake
  exact Pending.eq_of rfl htake

end LoongsonVideo.Driver.DrmQueueRun
