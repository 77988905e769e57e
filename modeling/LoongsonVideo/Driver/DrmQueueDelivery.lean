import LoongsonVideo.Driver.DrmQueueRun
import LoongsonVideo.Verified.Ledger

/-!
# Every queued entry is answered once

`SeqInv` holds whatever happens to the list.  Whether every entry gets its one
callback is another matter: `ms_vblank_screen_init` initialises the list head
each time a screen is initialised, and the head is shared by all screens.  An
entry that is outstanding at that moment is unlinked from the head without a
callback, and nothing finds it again.

The trace of a run is read as a ledger: an allocation acquires two things, the
right to one callback and the record's memory; a handler call gives back the
first, an abort gives back both, the return of a handler the second.

The file proves that this is the only way to lose an entry.  `Delivers` is what
the queue is for; along a run of fewer than `2 ^ 32 - 1` allocations it holds in
every state if and only if screens are initialised on an empty list.
-/

namespace LoongsonVideo.Driver.DrmQueueDelivery

open LoongsonVideo.Driver.DrmQueue
open LoongsonVideo.Driver.DrmQueueRun
open LoongsonVideo.Verified.Ledger
open LoongsonVideo.Verified.Machine

/-! ## The trace as a ledger -/

/-- What an allocation hands out: the right to one callback, and the memory of
the record. -/
inductive Right where
  | callback (k : Nat)
  | record (k : Nat)
  deriving DecidableEq, Repr

/-- What a line of the trace does to these rights, newest act first. -/
def acts : QueueEvent → List (Act Right)
  | .alloc k _ _ => [.acquire (.callback k), .acquire (.record k)]
  | .handler k => [.release (.callback k), .touch (.record k)]
  | .freed k => [.release (.record k)]
  | .abort k => [.release (.record k), .release (.callback k), .touch (.record k)]
  | .closed _ => []

def ledger (log : List QueueEvent) : List (Act Right) := log.flatMap acts

@[simp] theorem ledger_nil : ledger [] = [] := rfl

@[simp] theorem ledger_cons (e : QueueEvent) (log : List QueueEvent) :
    ledger (e :: log) = acts e ++ ledger log := List.flatMap_cons

/-- How often one of the two callbacks of entry `k` was called. -/
def calls (log : List QueueEvent) (k : Nat) : Nat :=
  log.count (.handler k) + log.count (.abort k)

theorem calls_eq_releases (log : List QueueEvent) (k : Nat) :
    calls log k = releases (ledger log) (.callback k) := by
  induction log with
  | nil => rfl
  | cons e log ih =>
      simp only [calls, releases] at ih ⊢
      rw [ledger_cons, List.count_append, ← ih]
      cases e <;> simp [acts, List.count_cons] <;> split <;> omega

theorem acquires_cons (e : QueueEvent) (log : List QueueEvent) (k : Nat) :
    acquires (ledger (e :: log)) (.callback k) =
      (acts e).count (.acquire (.callback k)) + acquires (ledger log) (.callback k) := by
  rw [ledger_cons, acquires, List.count_append, acquires]

/-- The trace, the list and the running handlers agree: the ledger is lawful,
the rights to a callback that are out are those of the queued entries, and the
records still allocated are the queued ones and those of running handlers. -/
structure LedgerInv (queued active : List Nat) (allocs : Nat)
    (log : List QueueEvent) : Prop where
  lawful : Lawful (ledger log)
  acquired : ∀ k, acquires (ledger log) (.callback k) = if k < allocs then 1 else 0
  callbacks : ∀ k, .callback k ∈ held (ledger log) ↔ k ∈ queued
  records : ∀ k, .record k ∈ held (ledger log) ↔ k ∈ queued ∨ k ∈ active
  activeNodup : active.Nodup
  activeLt : ∀ k ∈ active, k < allocs ∧ k ∉ queued

theorem ledgerInv_start : LedgerInv [] [] 0 [] :=
  ⟨trivial, fun _ => rfl, by simp, by simp, List.nodup_nil, by simp⟩

section Steps

variable {queued queued' active : List Nat} {allocs : Nat} {log : List QueueEvent}

theorem LedgerInv.alloc (h : LedgerInv queued active allocs log)
    (hlt : ∀ k ∈ queued, k < allocs) (s : Nat) (seq : UInt32) :
    LedgerInv (allocs :: queued) active (allocs + 1) (.alloc allocs s seq :: log) := by
  have hq : allocs ∉ queued := fun hin => Nat.lt_irrefl _ (hlt _ hin)
  have ha : allocs ∉ active := fun hin => Nat.lt_irrefl _ (h.activeLt _ hin).1
  refine ⟨?_, ?_, ?_, ?_, h.activeNodup, ?_⟩
  · have hrec : .record allocs ∉ held (ledger log) := by simp [h.records, hq, ha]
    have hcall : .callback allocs ∉ held (ledger log) := by simp [h.callbacks, hq]
    simp [acts, hrec, hcall, h.lawful]
  · intro k
    rw [acquires_cons, h.acquired]
    simp only [acts, List.count_cons, List.count_nil, beq_iff_eq, Act.acquire.injEq,
      Right.callback.injEq, reduceCtorEq, if_false]
    split <;> split <;> split <;> omega
  · intro k
    simp [acts, h.callbacks]
  · intro k
    simp [acts, h.records, or_assoc]
  · intro k hk
    refine ⟨Nat.lt_succ_of_lt (h.activeLt k hk).1, ?_⟩
    rw [List.mem_cons, not_or]
    exact ⟨fun e => ha (e ▸ hk), (h.activeLt k hk).2⟩

/-- A handler call: the entry leaves the list, its record stays allocated. -/
theorem LedgerInv.handler (h : LedgerInv queued active allocs log) {k : Nat}
    (hk : k ∈ queued) (hlt : k < allocs)
    (hq : ∀ j, j ∈ queued' ↔ j ∈ queued ∧ j ≠ k) :
    LedgerInv queued' (k :: active) allocs (.handler k :: log) := by
  have hcall : .callback k ∈ held (ledger log) := (h.callbacks k).mpr hk
  have hrec : .record k ∈ held (ledger log) := (h.records k).mpr (Or.inl hk)
  have hactive : k ∉ active := fun hin => (h.activeLt k hin).2 hk
  have hlaw : Lawful (.touch (.record k) :: ledger log) := ⟨hrec, h.lawful⟩
  have hheld := fun x => hlaw.mem_held_release (r := .callback k) (x := x)
  simp only [held_touch] at hheld
  refine ⟨⟨hcall, hlaw⟩, ?_, ?_, ?_, ?_, ?_⟩
  · intro j
    rw [acquires_cons, h.acquired]
    simp [acts]
  · intro j
    rw [ledger_cons]
    simp only [acts, List.cons_append, List.nil_append]
    rw [hheld, h.callbacks, hq, ne_eq, Right.callback.injEq]
    exact And.comm
  · intro j
    rw [ledger_cons]
    simp only [acts, List.cons_append, List.nil_append]
    rw [hheld, h.records, hq, List.mem_cons]
    by_cases hj : j = k <;> simp [hj, hk]
  · exact List.nodup_cons.mpr ⟨hactive, h.activeNodup⟩
  · intro j hj
    rcases List.mem_cons.mp hj with rfl | hj
    · exact ⟨hlt, fun hin => ((hq _).mp hin).2 rfl⟩
    · exact ⟨(h.activeLt j hj).1, fun hin => (h.activeLt j hj).2 ((hq j).mp hin).1⟩

/-- The return of a handler frees its record. -/
theorem LedgerInv.freed {k : Nat} (h : LedgerInv queued (k :: active) allocs log) :
    LedgerInv queued active allocs (.freed k :: log) := by
  obtain ⟨hnot, hnodup⟩ := List.nodup_cons.mp h.activeNodup
  have hqueued : k ∉ queued := (h.activeLt k List.mem_cons_self).2
  have hrec : .record k ∈ held (ledger log) := (h.records k).mpr (Or.inr List.mem_cons_self)
  have hheld := fun x => h.lawful.mem_held_release (r := .record k) (x := x)
  refine ⟨⟨hrec, h.lawful⟩, ?_, ?_, ?_, hnodup, ?_⟩
  · intro j
    rw [acquires_cons, h.acquired]
    simp [acts]
  · intro j
    rw [ledger_cons]
    simp only [acts, List.cons_append, List.nil_append]
    rw [hheld, h.callbacks]
    simp
  · intro j
    rw [ledger_cons]
    simp only [acts, List.cons_append, List.nil_append]
    rw [hheld, h.records, List.mem_cons]
    by_cases hj : j = k <;> simp [hj, hqueued, hnot]
  · intro j hj
    exact h.activeLt j (List.mem_cons_of_mem k hj)

/-- An abort calls back and frees at once. -/
theorem LedgerInv.abort (h : LedgerInv queued active allocs log) {k : Nat}
    (hk : k ∈ queued) (hq : ∀ j, j ∈ queued' ↔ j ∈ queued ∧ j ≠ k) :
    LedgerInv queued' active allocs (.abort k :: log) := by
  have hcall : .callback k ∈ held (ledger log) := (h.callbacks k).mpr hk
  have hrec : .record k ∈ held (ledger log) := (h.records k).mpr (Or.inl hk)
  have hactive : k ∉ active := fun hin => (h.activeLt k hin).2 hk
  have hlaw : Lawful (.touch (.record k) :: ledger log) := ⟨hrec, h.lawful⟩
  have hlaw' : Lawful (.release (.callback k) :: .touch (.record k) :: ledger log) :=
    ⟨hcall, hlaw⟩
  have hheld := fun x => hlaw.mem_held_release (r := .callback k) (x := x)
  have hheld' := fun x => hlaw'.mem_held_release (r := .record k) (x := x)
  simp only [held_touch] at hheld
  refine ⟨⟨(hheld _).mpr ⟨by simp, hrec⟩, hlaw'⟩, ?_, ?_, ?_, h.activeNodup, ?_⟩
  · intro j
    rw [acquires_cons, h.acquired]
    simp [acts]
  · intro j
    rw [ledger_cons]
    simp only [acts, List.cons_append, List.nil_append]
    rw [hheld', hheld, h.callbacks, hq]
    simp [and_comm]
  · intro j
    rw [ledger_cons]
    simp only [acts, List.cons_append, List.nil_append]
    rw [hheld', hheld, h.records, hq]
    by_cases hj : j = k <;> simp [hj, hactive]
  · intro j hj
    exact ⟨(h.activeLt j hj).1, fun hin => (h.activeLt j hj).2 ((hq j).mp hin).1⟩

theorem LedgerInv.aborts {ks : List Nat} (h : LedgerInv queued active allocs log)
    (hnodup : ks.Nodup) (hks : ∀ k ∈ ks, k ∈ queued)
    (hq : ∀ j, j ∈ queued' ↔ j ∈ queued ∧ j ∉ ks) :
    LedgerInv queued' active allocs (logAborts ks log) := by
  induction ks generalizing queued log with
  | nil =>
      have hsame : ∀ j, j ∈ queued' ↔ j ∈ queued := by simpa using hq
      exact ⟨h.lawful, h.acquired, fun k => (h.callbacks k).trans (hsame k).symm,
        fun k => (h.records k).trans (or_congr_left (hsame k).symm), h.activeNodup,
        fun k hk => ⟨(h.activeLt k hk).1, fun hin => (h.activeLt k hk).2 ((hsame k).mp hin)⟩⟩
  | cons k ks ih =>
      obtain ⟨hnot, hnodup⟩ := List.nodup_cons.mp hnodup
      have hone : LedgerInv (queued.filter (· ≠ k)) active allocs (.abort k :: log) :=
        h.abort (hks k List.mem_cons_self) (by simp)
      have hrest := ih hone hnodup
        (fun j hj => by
          have hne : j ≠ k := fun e => hnot (e ▸ hj)
          simpa [hne] using hks j (List.mem_cons_of_mem k hj))
        (fun j => by simp [hq, and_assoc])
      simpa [logAborts] using hrest

/-- A closing mark changes no right. -/
theorem LedgerInv.closed (h : LedgerInv queued active allocs log) (s : Nat) :
    LedgerInv queued active allocs (.closed s :: log) :=
  ⟨h.lawful, h.acquired, h.callbacks, h.records, h.activeNodup, h.activeLt⟩

end Steps

/-! ## Runs that initialise screens on an empty list -/

/-- `ms_vblank_screen_init` is called only while no entry is outstanding. -/
def InitOnEmpty (st : QueueRun) : QueueOp → Prop
  | .screenInit _ _ => st.v.msDrmQueue = []
  | _ => True

instance (st : QueueRun) (op : QueueOp) : Decidable (InitOnEmpty st op) := by
  cases op <;> unfold InitOnEmpty <;> infer_instance

/-- After `ms_vblank_close_screen(s)` every entry allocated for `s` so far has
had exactly one of its callbacks called. -/
def Drained (log : List QueueEvent) : Prop :=
  ∀ later s earlier, log = later ++ .closed s :: earlier →
    ∀ k seq, .alloc k s seq ∈ earlier → calls earlier k = 1

theorem Drained.cons {log : List QueueEvent} (h : Drained log) {e : QueueEvent}
    (he : ∀ s, e = .closed s → ∀ k seq, .alloc k s seq ∈ log → calls log k = 1) :
    Drained (e :: log) := by
  intro later s earlier hlog
  cases later with
  | nil =>
      obtain ⟨rfl, rfl⟩ := List.cons.inj hlog
      exact he s rfl
  | cons x later =>
      rw [List.cons_append, List.cons.injEq] at hlog
      exact h later s earlier hlog.2

theorem Drained.logAborts {log : List QueueEvent} (h : Drained log) (ks : List Nat) :
    Drained (logAborts ks log) := by
  induction ks generalizing log with
  | nil => exact h
  | cons k ks ih =>
      have hone : Drained (.abort k :: log) := h.cons (by simp)
      simpa [DrmQueueRun.logAborts] using ih hone

/-- The invariant of a run that initialises screens on an empty list. -/
structure RunInv (st : QueueRun) : Prop where
  seqs : SeqInv st
  rights : LedgerInv st.queued st.active st.allocs st.log
  drained : Drained st.log

theorem runInv_start : RunInv QueueRun.start :=
  ⟨seqInv_start, ledgerInv_start, by intro later s earlier h; simp [QueueRun.start] at h⟩

/-- An allocated entry is in the list or has had its one callback. -/
theorem RunInv.calls_eq {st : QueueRun} (h : RunInv st) {k s : Nat} {seq : UInt32}
    (hmem : .alloc k s seq ∈ st.log) :
    calls st.log k = if k ∈ st.queued then 0 else 1 := by
  have hone : acquires (ledger st.log) (.callback k) = 1 := by
    rw [h.rights.acquired, if_pos (h.seqs.logged k s seq hmem).1]
  rw [calls_eq_releases]
  by_cases hk : k ∈ st.queued
  · rw [if_pos hk]
    exact h.rights.lawful.releases_eq_zero hone ((h.rights.callbacks k).mpr hk)
  · rw [if_neg hk]
    exact h.rights.lawful.releases_eq_one hone fun hin => hk ((h.rights.callbacks k).mp hin)

private theorem queued_of_takeFirst {p : QueueEntry Nat → Bool}
    {l rest : List (QueueEntry Nat)} {q : QueueEntry Nat}
    (ht : takeFirst p l = some (q, rest)) (hnodup : (l.map QueueEntry.data).Nodup) (j : Nat) :
    j ∈ rest.map QueueEntry.data ↔ j ∈ l.map QueueEntry.data ∧ j ≠ q.data := by
  have hperm := (takeFirst_perm ht).map QueueEntry.data
  have hnot : q.data ∉ rest.map QueueEntry.data :=
    (List.nodup_cons.mp (hperm.nodup_iff.mp hnodup)).1
  rw [hperm.mem_iff, List.map_cons, List.mem_cons]
  constructor
  · intro hj
    exact ⟨Or.inr hj, fun e => hnot (e ▸ hj)⟩
  · rintro ⟨hj | hj, hne⟩
    · exact absurd hj hne
    · exact hj

/-- One abort of the first match, as `ms_drm_abort_seq` and `ms_drm_abort` do
it. -/
private theorem abortFirst_rights {st : QueueRun} (h : RunInv st)
    (p : QueueEntry Nat → Bool) :
    LedgerInv ((abortFirst st.v p).1.msDrmQueue.map QueueEntry.data) st.active st.allocs
      (logAborts (abortFirst st.v p).2.toList st.log) := by
  obtain ⟨hqueue, haborted⟩ := abortFirst_queue st.v p
  rw [hqueue, haborted]
  cases ht : takeFirst p st.v.msDrmQueue with
  | none => simpa [logAborts, QueueRun.queued] using h.rights
  | some r =>
      have hin : r.1.data ∈ st.queued :=
        List.mem_map.mpr ⟨r.1, (takeFirst_mem ht).1, rfl⟩
      refine h.rights.aborts (List.nodup_singleton _) ?_ ?_
      · intro k hk
        rw [List.mem_singleton.mp hk]
        exact hin
      · intro j
        simp only [Option.map_some, Option.toList_some, List.mem_singleton,
          Option.getD_some]
        exact queued_of_takeFirst ht h.seqs.nodup j

/-- **Step lemma.** Every call admitted by `InitOnEmpty` keeps the invariant. -/
theorem queueStep_runInv (st : QueueRun) (op : QueueOp) (h : RunInv st)
    (hop : InitOnEmpty st op) : RunInv (queueStep st op) := by
  have hseqs := queueStep_seqInv st op h.seqs
  cases op with
  | screenInit screen gen =>
      refine ⟨hseqs, ?_, h.drained⟩
      have hempty : st.queued = [] := by rw [QueueRun.queued, hop]; rfl
      have hrights := h.rights
      rw [hempty] at hrights
      simpa [queueStep, QueueRun.queued] using hrights
  | queueAlloc crtc callocOk =>
      cases callocOk with
      | false => exact h
      | true =>
          refine ⟨hseqs, ?_, h.drained.cons (by simp)⟩
          refine h.rights.alloc (fun k hk => ?_) crtc.scrn _
          obtain ⟨q, hq, rfl⟩ := List.mem_map.mp hk
          exact h.seqs.entry_lt hq
  | event e =>
      obtain ⟨hqueue, hfired, -⟩ := drmHandleEvent_queue st.v e
      cases ht : takeFirst (fun q => q.seq == e.seq) st.v.msDrmQueue with
      | none =>
          simp only [ht, Option.map_none, Option.getD_none, Option.map_eq_none_iff]
            at hqueue hfired
          simp only [queueStep, hfired] at hseqs ⊢
          refine ⟨hseqs, ?_, h.drained⟩
          rw [QueueRun.queued, hqueue]
          exact h.rights
      | some r =>
          simp only [ht, Option.map_some, Option.getD_some, Option.map_eq_some_iff]
            at hqueue hfired
          obtain ⟨f, hf, hdata⟩ := hfired
          simp only [queueStep, hf] at hseqs ⊢
          refine ⟨hseqs, ?_, h.drained.cons (by simp)⟩
          rw [QueueRun.queued, hqueue, hdata]
          have hmem := (takeFirst_mem ht).1
          exact h.rights.handler (List.mem_map.mpr ⟨r.1, hmem, rfl⟩)
            (h.seqs.entry_lt hmem) (queued_of_takeFirst ht h.seqs.nodup)
  | handlerReturn =>
      have hrights := h.rights
      cases hactive : st.active with
      | nil => simpa [queueStep, hactive] using h
      | cons k active =>
          rw [hactive] at hrights
          simp only [queueStep, hactive] at hseqs ⊢
          exact ⟨hseqs, hrights.freed, h.drained.cons (by simp)⟩
  | abortSeq scrn seq =>
      exact ⟨hseqs, abortFirst_rights h _, h.drained.logAborts _⟩
  | abort scrn isMatch =>
      exact ⟨hseqs, abortFirst_rights h _, h.drained.logAborts _⟩
  | closeScreen screen gen =>
      have hrights : LedgerInv
          ((st.v.msDrmQueue.filter (fun q => q.scrn ≠ screen.scrn)).map QueueEntry.data)
          st.active st.allocs
          (logAborts ((st.v.msDrmQueue.filter (fun q => q.scrn = screen.scrn)).map
            QueueEntry.data) st.log) := by
        refine h.rights.aborts ((List.filter_sublist.map _).nodup h.seqs.nodup) ?_ ?_
        · intro k hk
          obtain ⟨q, hq, rfl⟩ := List.mem_map.mp hk
          exact List.mem_map.mpr ⟨q, List.mem_of_mem_filter hq, rfl⟩
        · intro j
          constructor
          · intro hj
            obtain ⟨q, hq, rfl⟩ := List.mem_map.mp hj
            obtain ⟨hq, hne⟩ := List.mem_filter.mp hq
            refine ⟨List.mem_map.mpr ⟨q, hq, rfl⟩, fun hin => ?_⟩
            obtain ⟨q', hq', hdata⟩ := List.mem_map.mp hin
            obtain ⟨hq', heq⟩ := List.mem_filter.mp hq'
            have hsame := List.inj_on_of_nodup_map h.seqs.nodup hq' hq hdata
            subst hsame
            simp only [decide_eq_true_eq] at hne heq
            exact hne heq
          · rintro ⟨hj, hnot⟩
            obtain ⟨q, hq, rfl⟩ := List.mem_map.mp hj
            refine List.mem_map.mpr ⟨q, List.mem_filter.mpr ⟨hq, ?_⟩, rfl⟩
            simp only [decide_eq_true_eq]
            intro heq
            exact hnot (List.mem_map.mpr ⟨q, List.mem_filter.mpr ⟨hq, by simpa using heq⟩, rfl⟩)
      have hqueued : (queueStep st (.closeScreen screen gen)).queued =
          (st.v.msDrmQueue.filter (fun q => q.scrn ≠ screen.scrn)).map QueueEntry.data := by
        simp [QueueRun.queued, queueStep]
      have hlog : (queueStep st (.closeScreen screen gen)).log =
          .closed screen.scrn :: logAborts ((st.v.msDrmQueue.filter
            (fun q => q.scrn = screen.scrn)).map QueueEntry.data) st.log := by
        simp [queueStep]
      refine ⟨hseqs, by rw [hqueued, hlog]; exact hrights.closed _, ?_⟩
      rw [hlog]
      refine (h.drained.logAborts _).cons ?_
      rintro s hs k seq hmem
      cases hs
      -- an entry of the closed screen cannot be left in the filtered list
      have hmem' : .alloc k screen.scrn seq ∈ st.log := by simpa [logAborts] using hmem
      have hout : .callback k ∉ held (ledger (logAborts ((st.v.msDrmQueue.filter
          (fun q => q.scrn = screen.scrn)).map QueueEntry.data) st.log)) := by
        rw [hrights.callbacks]
        intro hin
        obtain ⟨q, hq, rfl⟩ := List.mem_map.mp hin
        obtain ⟨hq, hne⟩ := List.mem_filter.mp hq
        have hscrn := h.seqs.screen _ _ _ _ _ (h.seqs.entry q hq) hmem'
        simp [hscrn] at hne
      have hone := hrights.acquired k
      rw [if_pos (h.seqs.logged _ _ _ hmem').1] at hone
      rw [calls_eq_releases]
      exact hrights.lawful.releases_eq_one hone hout

/-! ## What the queue is for -/

/-- No loss and no duplication: every entry is called back at most once; one
that was not called back is found by an event or an abort that carries its
number; and closing a screen leaves none of its entries unanswered. -/
structure Delivers (st : QueueRun) : Prop where
  once : ∀ k, calls st.log k ≤ 1
  found : ∀ k s seq, .alloc k s seq ∈ st.log → calls st.log k = 0 →
    (∀ e : KernelEvent, e.seq = seq →
      (drmHandleEvent st.v e).2.map Firing.data = some k) ∧
    ∀ scrn, (msDrmAbortSeq st.v scrn seq).2 = some k
  drained : Drained st.log

theorem RunInv.delivers {st : QueueRun} (h : RunInv st) (hlt : st.allocs < 2 ^ 32 - 1) :
    Delivers st where
  once := by
    intro k
    rw [calls_eq_releases]
    have hle := h.rights.lawful.releases_le (.callback k)
    have hacq := h.rights.acquired k
    split at hacq <;> omega
  found := by
    intro k s seq hmem hcalls
    have hw : QueueWindow st := by
      intro q _
      omega
    have hids := h.seqs.identifies hw
    have hin : k ∈ st.queued := by
      by_contra hnot
      rw [h.calls_eq hmem, if_neg hnot] at hcalls
      cases hcalls
    refine ⟨fun e he => ?_, fun scrn => ?_⟩
    · rw [hids.fires k s seq hmem (by omega) e he, if_pos hin]
    · rw [hids.aborts k s seq hmem (by omega) scrn, if_pos hin]
  drained := h.drained

theorem queueStep_allocs_le (st : QueueRun) (op : QueueOp) :
    st.allocs ≤ (queueStep st op).allocs := by
  cases op with
  | queueAlloc crtc callocOk => cases callocOk <;> simp [queueStep]
  | event e => cases h : (drmHandleEvent st.v e).2 <;> simp [queueStep, h]
  | handlerReturn => cases h : st.active <;> simp [queueStep, h]
  | _ => exact Nat.le_refl _

/-- Initialising a screen while an entry is queued loses the entry: it has not
been called back, and no event with its number finds it any more. -/
theorem screenInit_loses {st : QueueRun} (h : RunInv st) {q : QueueEntry Nat}
    (hq : q ∈ st.v.msDrmQueue) (screen : Screen) (gen : Nat) :
    ¬ Delivers (queueStep st (.screenInit screen gen)) := by
  intro hd
  have hmem := h.seqs.entry q hq
  have hcalls := h.calls_eq hmem
  have hin : q.data ∈ st.queued := List.mem_map.mpr ⟨q, hq, rfl⟩
  rw [if_pos hin] at hcalls
  have hfound := (hd.found q.data q.scrn q.seq hmem hcalls).2 0
  rw [msDrmAbortSeq, (abortFirst_queue _ _).2] at hfound
  simp [queueStep, takeFirst] at hfound

/-- **The queue neither loses nor duplicates an entry exactly when screens are
initialised on an empty list.** -/
theorem delivers_iff_initOnEmpty (ops : List QueueOp)
    (hlt : (run queueStep QueueRun.start ops).allocs < 2 ^ 32 - 1) :
    Always queueStep Delivers QueueRun.start ops ↔
      Guarded queueStep InitOnEmpty QueueRun.start ops := by
  constructor
  · intro hd
    have hguard : ∀ (ops : List QueueOp) (st : QueueRun), RunInv st →
        Always queueStep Delivers st ops → Guarded queueStep InitOnEmpty st ops := by
      intro ops
      induction ops with
      | nil => intro st _ _; trivial
      | cons op ops ih =>
          intro st hinv hd
          have hop : InitOnEmpty st op := by
            cases op with
            | screenInit screen gen =>
                refine List.eq_nil_iff_forall_not_mem.mpr fun q hq => ?_
                exact screenInit_loses hinv hq screen gen hd.2.head
            | _ => trivial
          exact ⟨hop, ih _ (queueStep_runInv st op hinv hop) hd.2⟩
    exact hguard ops QueueRun.start runInv_start hd
  · intro hg
    have hinv := Guarded.always queueStep_runInv runInv_start hg
    have hle := always_le_last QueueRun.allocs queueStep_allocs_le QueueRun.start ops
    exact (hinv.and hle).mono fun st h => h.1.delivers (Nat.lt_of_le_of_lt h.2 hlt)

/-- One screen, one entry, answered before the screen is closed. -/
theorem delivers_one_screen :
    Always queueStep Delivers QueueRun.start
        [.screenInit ⟨0, 0, 3⟩ 1, .queueAlloc ⟨0, 0⟩ true, .event (.sequence 7 0 1),
          .handlerReturn, .closeScreen ⟨0, 0, 3⟩ 1] ↔
      Guarded queueStep InitOnEmpty QueueRun.start
        [.screenInit ⟨0, 0, 3⟩ 1, .queueAlloc ⟨0, 0⟩ true, .event (.sequence 7 0 1),
          .handlerReturn, .closeScreen ⟨0, 0, 3⟩ 1] :=
  delivers_iff_initOnEmpty _ (by decide)

/-- A second screen is initialised while the first has an entry outstanding:
the entry is lost. -/
theorem second_screen_loses_entry :
    ¬ ∀ ops, (run queueStep QueueRun.start ops).allocs < 2 ^ 32 - 1 →
      Always queueStep Delivers QueueRun.start ops := by
  intro h
  have hd := (h [.screenInit ⟨0, 0, 3⟩ 1, .queueAlloc ⟨0, 0⟩ true,
    .screenInit ⟨1, 0, 3⟩ 1] (by decide)).last
  have hfound := (hd.found 0 0 1 (by decide) (by decide)).2 0
  exact absurd hfound (by decide)

end LoongsonVideo.Driver.DrmQueueDelivery
