import LoongsonVideo.Driver.Dri2FrameEvent
import LoongsonVideo.Verified.Machine
import Mathlib.Algebra.BigOperators.Group.List.Basic
import Mathlib.Algebra.Order.Group.Multiset
import Mathlib.Tactic.Abel

/-!
# Who owns a DRI2 frame event

The record of a frame event and its two buffer references have one owner at a time:
the scheduling function that made the record, then the queue entry, then the handler
or the abort callback that runs on it.  `Inv frame s` says so: what is held is what
the outstanding queue entries own, plus `frame`, what the functions on the C stack
own.

Each function has a rule that moves things between the two, and the rules of
`Verified.Ledger` then give `ReleasedOnce` in every state of a run.  They fail in one
place.  When the kernel refuses a request, `ms_queue_vblank` aborts the queue entry,
whose abort callback frees the record, and its caller frees the record again.  So
`released_once_iff` holds exactly as long as no request is refused.
-/

namespace LoongsonVideo.Driver.Dri2Ownership

open LoongsonVideo.Driver.Dri2FrameEvent
open LoongsonVideo.Driver.QueueVblank
open LoongsonVideo.Verified
open LoongsonVideo.Verified.Ledger
open LoongsonVideo.Verified.Machine

/-! ## What is owned -/

/-- A reference on a buffer that is there. -/
def refOf (x : Resource) : Option Nat → Multiset Resource
  | none => 0
  | some _ => {x}

/-- What the owner of a record owns. -/
def holds (r : Nat) (info : FrameEvent) : Multiset Resource :=
  {.record r} + (refOf (.front r) info.front + refOf (.back r) info.back)

/-- What the outstanding queue entries own. -/
def queued (s : Dri2State) : Multiset Resource :=
  (s.queue.requests.map fun q => holds q.record (s.records q.record)).sum

/-- **The property.** Nothing is released twice or used after its release, every
resource is acquired at most once, and it is released exactly once unless an
outstanding queue entry owns it, when it has not been released. -/
def ReleasedOnce (s : Dri2State) : Prop :=
  Lawful s.log ∧ ∀ x, acquires s.log x ≤ 1 ∧
    releases s.log x = if x ∈ queued s then 0 else acquires s.log x

/-- The invariant, with what the functions on the C stack own. -/
structure Inv (frame : Multiset Resource) (s : Dri2State) : Prop where
  owns : Owns s.log (frame + queued s)
  once : ∀ x, acquires s.log x ≤ 1
  fresh : ∀ x, s.nextRecord ≤ x.of → acquires s.log x = 0
  linked : ∀ type id list, s.resources type id = some list → ∀ r ∈ list,
    .record r ∈ frame + queued s ∧ (s.records r).link type = some id
  kernel : ∀ k ∈ s.kernelPending, k < s.queue.next

/-- The record is on no list of a type. -/
def Unlinked (s : Dri2State) (type : Restype) (r : Nat) : Prop :=
  ∀ id list, s.resources type id = some list → r ∉ list

/-- What the functions that work on one record leave alone. -/
structure Same (s s' : Dri2State) : Prop where
  queue : s'.queue = s.queue
  kernelPending : s'.kernelPending = s.kernelPending
  nextRecord : s'.nextRecord = s.nextRecord
  queueSequence : s'.queueSequence = s.queueSequence
  holds : ∀ r, holds r (s'.records r) = holds r (s.records r)
  acquires : ∀ x, acquires s'.log x = acquires s.log x

/-- What the delivery of events leaves alone: the requests the kernel has not taken
keep their entries. -/
structure Later (s s' : Dri2State) : Prop where
  kernelPending : s'.kernelPending ⊆ s.kernelPending
  next : s'.queue.next = s.queue.next
  queueSequence : s'.queueSequence = s.queueSequence
  holds : ∀ r, holds r (s'.records r) = holds r (s.records r)
  kept : ∀ k ∉ s.kernelPending, s'.queue.find? k = s.queue.find? k

theorem Same.refl (s : Dri2State) : Same s s :=
  ⟨rfl, rfl, rfl, rfl, fun _ => rfl, fun _ => rfl⟩

theorem Same.trans {s t u : Dri2State} (h : Same s t) (h' : Same t u) : Same s u :=
  ⟨h'.queue.trans h.queue, h'.kernelPending.trans h.kernelPending,
    h'.nextRecord.trans h.nextRecord, h'.queueSequence.trans h.queueSequence,
    fun r => (h'.holds r).trans (h.holds r), fun x => (h'.acquires x).trans (h.acquires x)⟩

theorem Same.queued {s s' : Dri2State} (h : Same s s') : queued s' = queued s := by
  simp only [Dri2Ownership.queued, h.queue, h.holds]

theorem Same.later {s s' : Dri2State} (h : Same s s') : Later s s' where
  kernelPending := by rw [h.kernelPending]; exact List.Subset.refl _
  next := by rw [h.queue]
  queueSequence := h.queueSequence
  holds := h.holds
  kept := fun k _ => by rw [h.queue]

theorem Later.refl (s : Dri2State) : Later s s := (Same.refl s).later

theorem Later.trans {s t u : Dri2State} (h : Later s t) (h' : Later t u) : Later s u where
  kernelPending := List.Subset.trans h'.kernelPending h.kernelPending
  next := h'.next.trans h.next
  queueSequence := h'.queueSequence.trans h.queueSequence
  holds := fun r => (h'.holds r).trans (h.holds r)
  kept := fun k hk =>
    (h'.kept k fun hin => hk (h.kernelPending hin)).trans (h.kept k hk)

theorem record_mem_holds (r : Nat) (info : FrameEvent) : Resource.record r ∈ holds r info := by
  simp [holds]

/-- What the queue owns is what one entry owns and what the others own. -/
theorem queued_remove {s : Dri2State} {k : Nat} {q : QueueData}
    (h : s.queue.find? k = some q) :
    queued s = holds q.record (s.records q.record) +
      queued { s with queue := s.queue.remove k } := by
  have hperm := (Pending.perm_remove h).map fun q => holds q.record (s.records q.record)
  simp only [queued, hperm.sum_eq, List.map_cons, List.sum_cons]

/-- A queue entry owns its record. -/
theorem mem_queued {s : Dri2State} {k : Nat} {q : QueueData} (h : s.queue.find? k = some q) :
    Resource.record q.record ∈ queued s := by
  rw [queued_remove h]
  exact Multiset.mem_add.mpr (Or.inl (record_mem_holds _ _))

/-! ## Rules for single acts -/

section Acts

variable {frame : Multiset Resource} {s : Dri2State}

theorem Inv.congr {frame' : Multiset Resource} (h : Inv frame s) (heq : frame = frame') :
    Inv frame' s := heq ▸ h

theorem Inv.mem_of_frame (_h : Inv frame s) {x : Resource} (hx : x ∈ frame) :
    x ∈ frame + queued s := Multiset.mem_add.mpr (Or.inl hx)

theorem Inv.touch (h : Inv frame s) {r : Nat} (hr : .record r ∈ frame + queued s) :
    Inv frame (s.act (.touch (.record r))) where
  owns := h.owns.touch hr
  once := fun x => by simpa [Dri2State.act] using h.once x
  fresh := fun x hx => by simpa [Dri2State.act] using h.fresh x hx
  linked := h.linked
  kernel := h.kernel

theorem Inv.touchAll (h : Inv frame s) {rs : List Nat}
    (hrs : ∀ r ∈ rs, .record r ∈ frame + queued s) : Inv frame (s.touchAll rs) := by
  have hlog : (s.touchAll rs).log = (rs.map Resource.record).map .touch ++ s.log := by
    simp [Dri2State.touchAll]
  refine ⟨?_, fun x => ?_, fun x hx => ?_, h.linked, h.kernel⟩
  · rw [hlog]
    refine h.owns.touches fun x hx => ?_
    obtain ⟨r, hr, rfl⟩ := List.mem_map.mp hx
    exact hrs r hr
  · rw [hlog, acquires_touches]
    exact h.once x
  · rw [hlog, acquires_touches]
    exact h.fresh x hx

theorem Inv.acquire (h : Inv frame s) {x : Resource} (hx : acquires s.log x = 0)
    (hof : x.of < s.nextRecord) : Inv (x ::ₘ frame) (s.act (.acquire x)) where
  owns := by
    rw [Multiset.cons_add]
    exact h.owns.acquire (h.owns.notMem_of_acquires hx)
  once := fun y => by
    simp only [Dri2State.act, acquires_acquire]
    have hy := h.once y
    split
    · next hxy => subst hxy; omega
    · omega
  fresh := fun y hy => by
    have hne : x ≠ y := fun hxy => by subst hxy; exact absurd hof (Nat.not_lt.mpr hy)
    simpa [Dri2State.act, acquires_acquire, hne] using h.fresh y hy
  linked := fun type id list hl r hr => by
    obtain ⟨hmem, hlink⟩ := h.linked type id list hl r hr
    refine ⟨?_, hlink⟩
    rw [Multiset.cons_add]
    exact Multiset.mem_cons_of_mem hmem
  kernel := h.kernel

/-- A reference is dropped. -/
theorem Inv.releaseRef {x : Resource} (h : Inv (x ::ₘ frame) s) (hx : ∀ r, x ≠ .record r) :
    Inv frame (s.act (.release x)) where
  owns := h.owns.release (Multiset.cons_add x frame _)
  once := fun y => by simpa [Dri2State.act] using h.once y
  fresh := fun y hy => by simpa [Dri2State.act] using h.fresh y hy
  linked := fun type id list hl r hr => by
    obtain ⟨hmem, hlink⟩ := h.linked type id list hl r hr
    rw [Multiset.cons_add] at hmem
    exact ⟨(Multiset.mem_cons.mp hmem).resolve_left (hx r).symm, hlink⟩
  kernel := h.kernel

/-- An unlinked record is freed. -/
theorem Inv.free {r : Nat} (h : Inv (.record r ::ₘ frame) s)
    (hr : ∀ type, Unlinked s type r) : Inv frame (s.act (.release (.record r))) where
  owns := h.owns.release (Multiset.cons_add _ frame _)
  once := fun y => by simpa [Dri2State.act] using h.once y
  fresh := fun y hy => by simpa [Dri2State.act] using h.fresh y hy
  linked := fun type id list hl r' hr' => by
    obtain ⟨hmem, hlink⟩ := h.linked type id list hl r' hr'
    rw [Multiset.cons_add] at hmem
    refine ⟨(Multiset.mem_cons.mp hmem).resolve_left fun heq => ?_, hlink⟩
    cases heq
    exact hr type id list hl hr'
  kernel := h.kernel

theorem Inv.reply (h : Inv frame s) (a : Reply) : Inv frame (s.reply a) :=
  ⟨h.owns, h.once, h.fresh, h.linked, h.kernel⟩

/-- What is owned was acquired, so it belongs to a record that was made. -/
theorem Inv.of_lt (h : Inv frame s) {x : Resource} (hx : x ∈ frame + queued s) :
    x.of < s.nextRecord := by
  by_contra hge
  exact h.owns.notMem_of_acquires (h.fresh x (Nat.le_of_not_lt hge)) hx

/-- A record nobody owns is on no list. -/
theorem Inv.unlinked (h : Inv frame s) {r : Nat} (hr : .record r ∉ frame + queued s)
    (type : Restype) : Unlinked s type r :=
  fun id list hl hin => hr (h.linked type id list hl r hin).1

end Acts

/-! ## Resource lists -/

section Lists

variable {frame : Multiset Resource} {s : Dri2State} {r : Nat}

theorem setResource_apply (s : Dri2State) (type type' : Restype) (id id' : Nat)
    (list : Option (List Nat)) :
    (s.setResource type id list).resources type' id' =
      if type' = type ∧ id' = id then list else s.resources type' id' := by
  by_cases htype : type' = type
  · subst htype
    by_cases hid : id' = id <;> simp [Dri2State.setResource, hid]
  · simp [Dri2State.setResource, htype]

theorem adjacent_subset (r : Nat) (list : List Nat) : ∀ x ∈ adjacent r list, x ∈ list := by
  induction list with
  | nil => simp [adjacent]
  | cons a rest ih =>
      cases rest with
      | nil => simp [adjacent]
      | cons b rest =>
          intro x hx
          simp only [adjacent] at hx
          split at hx
          · simp_all
          · split at hx
            · rcases List.mem_cons.mp hx with rfl | hx
              · simp
              · have hmem : x ∈ rest := by
                  cases rest with
                  | nil => simp at hx
                  | cons c rest => simp_all
                simp [hmem]
            · exact List.mem_cons_of_mem a (ih x hx)

/-- The invariant reads the records only through their links and what they hold. -/
theorem Inv.setRecord (h : Inv frame s) {a : FrameEvent}
    (hlink : ∀ type, a.link type = (s.records r).link type)
    (hholds : holds r a = holds r (s.records r)) :
    Inv frame (s.setRecord r a) ∧ Same s (s.setRecord r a) := by
  have hsame : Same s (s.setRecord r a) := by
    refine ⟨rfl, rfl, rfl, rfl, fun r' => ?_, fun _ => rfl⟩
    by_cases hr : r' = r
    · subst hr
      simpa [Dri2State.setRecord] using hholds
    · simp [Dri2State.setRecord, hr]
  refine ⟨⟨?_, h.once, h.fresh, fun type id list hl r' hr' => ?_, h.kernel⟩, hsame⟩
  · rw [hsame.queued]
    exact h.owns
  · obtain ⟨hmem, hl'⟩ := h.linked type id list hl r' hr'
    refine ⟨by rw [hsame.queued]; exact hmem, ?_⟩
    by_cases hr : r' = r
    · subst hr
      simpa [Dri2State.setRecord, hlink] using hl'
    · simpa [Dri2State.setRecord, hr] using hl'

/-- A list is replaced, and one record's link with it. -/
theorem Inv.relink (h : Inv frame s) {type : Restype} {id : Nat} {l : List Nat}
    {b : Option Nat} (hmem : ∀ x ∈ l, .record x ∈ frame + queued s)
    (hlink : ∀ x ∈ l, x ≠ r → (s.records x).link type = some id)
    (hself : r ∈ l → b = some id)
    (hother : ∀ id' list', id' ≠ id → s.resources type id' = some list' → r ∉ list') :
    let s' := (s.setRecord r { s.records r with
      link := Function.update (s.records r).link type b }).setResource type id (some l)
    Inv frame s' ∧ Same s s' := by
  intro s'
  have hsame : Same s s' := by
    refine ⟨rfl, rfl, rfl, rfl, fun r' => ?_, fun _ => rfl⟩
    by_cases hr : r' = r
    · subst hr
      simp [s', Dri2State.setRecord, Dri2State.setResource, Dri2Ownership.holds]
    · simp [s', Dri2State.setRecord, Dri2State.setResource, hr]
  have hlinks : ∀ x type', (s'.records x).link type' =
      if x = r ∧ type' = type then b else (s.records x).link type' := by
    intro x type'
    by_cases hx : x = r
    · subst hx
      by_cases htype : type' = type
      · subst htype
        simp [s', Dri2State.setRecord, Dri2State.setResource]
      · simp [s', Dri2State.setRecord, Dri2State.setResource, htype]
    · simp [s', Dri2State.setRecord, Dri2State.setResource, hx]
  refine ⟨⟨?_, h.once, h.fresh, fun type' id' list' hl x hx => ?_, h.kernel⟩, hsame⟩
  · rw [hsame.queued]
    exact h.owns
  · rw [hsame.queued, hlinks]
    rw [setResource_apply] at hl
    split at hl
    · next hat =>
        obtain ⟨rfl, rfl⟩ := hat
        cases hl
        refine ⟨hmem x hx, ?_⟩
        by_cases hxr : x = r
        · subst hxr
          simpa using hself hx
        · simpa [hxr] using hlink x hx hxr
    · next hat =>
        obtain ⟨hmem', hlink'⟩ := h.linked type' id' list' hl x hx
        refine ⟨hmem', ?_⟩
        rw [if_neg]
        · exact hlink'
        · rintro ⟨rfl, rfl⟩
          exact hother id' list' (fun hid => hat ⟨rfl, hid⟩) hl hx

theorem Same.act_touch (s : Dri2State) (x : Resource) : Same s (s.act (.touch x)) :=
  ⟨rfl, rfl, rfl, rfl, fun _ => rfl, fun _ => acquires_touch _ _ _⟩

theorem Same.act_release (s : Dri2State) (x : Resource) : Same s (s.act (.release x)) :=
  ⟨rfl, rfl, rfl, rfl, fun _ => rfl, fun _ => acquires_release _ _ _⟩

theorem Same.reply (s : Dri2State) (a : Reply) : Same s (s.reply a) :=
  ⟨rfl, rfl, rfl, rfl, fun _ => rfl, fun _ => rfl⟩

theorem Same.touchAll (s : Dri2State) (rs : List Nat) : Same s (s.touchAll rs) := by
  refine ⟨rfl, rfl, rfl, rfl, fun _ => rfl, fun x => ?_⟩
  have hlog : (s.touchAll rs).log = (rs.map Resource.record).map .touch ++ s.log := by
    simp [Dri2State.touchAll]
  rw [hlog, acquires_touches]

/-- The members of a list are alive. -/
theorem Inv.members (h : Inv frame s) (type : Restype) (id : Nat) :
    ∀ x ∈ (s.resources type id).getD [], .record x ∈ frame + queued s ∧
      (s.records x).link type = some id := by
  intro x hx
  cases hl : s.resources type id with
  | none => simp [hl] at hx
  | some list => exact h.linked type id list hl x (by simpa [hl] using hx)

/-- `xorg_list_add` of a live record that is on no list of this type. -/
theorem xorgListAdd_spec (h : Inv frame s) {type : Restype} (id : Nat)
    (hr : .record r ∈ frame + queued s) (hun : Unlinked s type r) :
    Inv frame (xorgListAdd s r type id) ∧ Same s (xorgListAdd s r type id) := by
  have hmembers := h.members type id
  have htouched : Inv frame ((s.touchAll ((s.resources type id).getD []).head?.toList).act
      (.touch (.record r))) := by
    refine (h.touchAll fun x hx => (hmembers x ?_).1).touch hr
    cases hl : (s.resources type id).getD [] with
    | nil => simp [hl] at hx
    | cons y list => simp_all
  have hsame := (Same.touchAll s ((s.resources type id).getD []).head?.toList).trans
    (Same.act_touch _ (.record r))
  obtain ⟨hinv, hsame'⟩ := htouched.relink (r := r) (l := r :: (s.resources type id).getD []) (b := some id)
    (fun x hx => by
      rcases List.mem_cons.mp hx with rfl | hx
      · exact hr
      · exact (hmembers x hx).1)
    (fun x hx hne => (hmembers x ((List.mem_cons.mp hx).resolve_left hne)).2)
    (fun _ => rfl)
    (fun id' list' _ hl => hun id' list' hl)
  exact ⟨hinv, hsame.trans hsame'⟩

/-- `xorg_list_del` of a live record. -/
theorem xorgListDel_spec (h : Inv frame s) (type : Restype)
    (hr : .record r ∈ frame + queued s) :
    Inv frame (xorgListDel s r type) ∧ Same s (xorgListDel s r type) ∧
      Unlinked (xorgListDel s r type) type r := by
  have htouched := h.touch hr
  have hsame := Same.act_touch s (.record r)
  cases hlink : (s.records r).link type with
  | none =>
      have heq : xorgListDel s r type = s.act (.touch (.record r)) := by
        simp [xorgListDel, Dri2State.act, hlink]
      rw [heq]
      refine ⟨htouched, hsame, fun id list hl hin => ?_⟩
      have := (h.linked type id list hl r hin).2
      simp [hlink] at this
  | some id =>
      have hmembers := htouched.members type id
      have hall : Inv frame ((s.act (.touch (.record r))).touchAll
          (adjacent r ((s.resources type id).getD []))) :=
        htouched.touchAll fun x hx => (hmembers x (adjacent_subset _ _ x hx)).1
      have hsame' := hsame.trans (Same.touchAll (s.act (.touch (.record r)))
        (adjacent r ((s.resources type id).getD [])))
      have hself : ∀ id' list', s.resources type id' = some list' → r ∈ list' → id' = id := by
        intro id' list' hl hin
        have := (h.linked type id' list' hl r hin).2
        rw [hlink] at this
        exact (Option.some.inj this).symm
      obtain ⟨hinv, hsame''⟩ := hall.relink (r := r) (l := ((s.resources type id).getD []).filter (· ≠ r)) (b := none)
        (fun x hx => (hmembers x (List.mem_of_mem_filter hx)).1)
        (fun x hx _ => (hmembers x (List.mem_of_mem_filter hx)).2)
        (fun hin => by simp at hin)
        (fun id' list' hne hl hin => hne (hself id' list' hl hin))
      have heq : xorgListDel s r type =
          (((s.act (.touch (.record r))).touchAll
            (adjacent r ((s.resources type id).getD []))).setRecord r
              { s.records r with
                link := Function.update (s.records r).link type none }).setResource type id
            (some (((s.resources type id).getD []).filter (· ≠ r))) := by
        simp [xorgListDel, Dri2State.act, hlink]
      rw [heq]
      refine ⟨hinv, hsame'.trans hsame'', fun id' list' hl hin => ?_⟩
      rw [setResource_apply] at hl
      split at hl
      · cases hl
        simp at hin
      · next hat => exact hat ⟨rfl, hself id' list' hl hin⟩

theorem xorgListDel_resources {type type' : Restype} (hne : type' ≠ type) :
    (xorgListDel s r type).resources type' = s.resources type' := by
  simp only [xorgListDel]
  split
  · rfl
  · funext id
    simp [setResource_apply, hne, Dri2State.setRecord, Dri2State.touchAll, Dri2State.act]

end Lists

theorem xorgListAdd_resources {s : Dri2State} {r id : Nat} {type type' : Restype}
    (hne : type' ≠ type) : (xorgListAdd s r type id).resources type' = s.resources type' := by
  funext id'
  simp [xorgListAdd, setResource_apply, hne, Dri2State.setRecord, Dri2State.touchAll,
    Dri2State.act]

/-! ## Freeing a record -/

section Free

variable {frame : Multiset Resource} {s : Dri2State} {r : Nat}

theorem dropBuffer_spec {x : Resource} (hx : ∀ r, x ≠ .record r) {buffer : Option Nat}
    (h : Inv (refOf x buffer + frame) s) :
    Inv frame (dropBuffer s x buffer) ∧ Same s (dropBuffer s x buffer) := by
  cases buffer with
  | none => exact ⟨h.congr (zero_add frame), Same.refl s⟩
  | some b =>
      have hcount : Inv (x ::ₘ frame)
          { s with
            refcnt := Function.update s.refcnt b (s.refcnt b - 1)
            destroyed := if s.refcnt b - 1 = 0 then b :: s.destroyed else s.destroyed } :=
        ⟨h.owns, h.once, h.fresh, h.linked, h.kernel⟩
      exact ⟨hcount.releaseRef hx,
        ⟨rfl, rfl, rfl, rfl, fun _ => rfl, fun _ => acquires_release _ _ _⟩⟩

theorem dropBuffer_resources (s : Dri2State) (x : Resource) (buffer : Option Nat) :
    (dropBuffer s x buffer).resources = s.resources := by
  cases buffer <;> rfl

theorem dropBuffer_records (s : Dri2State) (x : Resource) (buffer : Option Nat) :
    (dropBuffer s x buffer).records = s.records := by
  cases buffer <;> rfl

theorem xorgListDel_buffers (s : Dri2State) (r r' : Nat) (type : Restype) :
    ((xorgListDel s r type).records r').front = (s.records r').front ∧
      ((xorgListDel s r type).records r').back = (s.records r').back := by
  simp only [xorgListDel]
  split
  · exact ⟨rfl, rfl⟩
  · by_cases hr : r' = r
    · subst hr
      simp [Dri2State.setResource, Dri2State.setRecord, Dri2State.touchAll, Dri2State.act]
    · simp [Dri2State.setResource, Dri2State.setRecord, Dri2State.touchAll, Dri2State.act, hr]

/-- **`ms_dri2_del_frame_event`** gives up all that the owner of the record owns. -/
theorem msDri2DelFrameEvent_spec (h : Inv (holds r (s.records r) + frame) s) :
    Inv frame (msDri2DelFrameEvent s r) ∧ Same s (msDri2DelFrameEvent s r) := by
  have hr : .record r ∈ holds r (s.records r) + frame + queued s :=
    h.mem_of_frame (Multiset.mem_add.mpr (Or.inl (record_mem_holds _ _)))
  obtain ⟨hclient, hsame, hunClient⟩ := xorgListDel_spec h .client hr
  have hr' : .record r ∈ holds r (s.records r) + frame +
      queued (xorgListDel s r .client) := by rwa [hsame.queued]
  obtain ⟨hlists, hsame', hunDrawable⟩ := xorgListDel_spec hclient .drawable hr'
  have hsame := hsame.trans hsame'
  have hfront : ((xorgListDel (xorgListDel s r .client) r .drawable).records r).front =
      (s.records r).front := by
    rw [(xorgListDel_buffers _ r r .drawable).1, (xorgListDel_buffers _ r r .client).1]
  have hback : ((xorgListDel (xorgListDel s r .client) r .drawable).records r).back =
      (s.records r).back := by
    rw [(xorgListDel_buffers _ r r .drawable).2, (xorgListDel_buffers _ r r .client).2]
  have hunlinked : ∀ type, Unlinked (xorgListDel (xorgListDel s r .client) r .drawable)
      type r := by
    intro type
    cases type with
    | client =>
        intro id list hl
        rw [xorgListDel_resources (by decide)] at hl
        exact hunClient id list hl
    | drawable => exact hunDrawable
  have heq : msDri2DelFrameEvent s r =
      (dropBuffer (dropBuffer (xorgListDel (xorgListDel s r .client) r .drawable) (.front r)
        (s.records r).front) (.back r) (s.records r).back).act (.release (.record r)) := by
    simp only [msDri2DelFrameEvent, dropBuffer_records, hfront, hback]
  generalize xorgListDel (xorgListDel s r .client) r .drawable = t at *
  have hparts : Inv (refOf (.front r) (s.records r).front +
      (refOf (.back r) (s.records r).back + (.record r ::ₘ frame))) t := by
    refine hlists.congr ?_
    rw [holds, ← Multiset.singleton_add]
    abel
  obtain ⟨hdropped, hsame₁⟩ := dropBuffer_spec (fun _ => by simp) hparts
  obtain ⟨hdropped', hsame₂⟩ := dropBuffer_spec (fun _ => by simp) hdropped
  rw [heq]
  refine ⟨hdropped'.free fun type id list hl => ?_,
    ((hsame.trans hsame₁).trans hsame₂).trans (Same.act_release _ _)⟩
  rw [dropBuffer_resources, dropBuffer_resources] at hl
  exact hunlinked type id list hl

end Free

/-! ## Events -/

section Events

variable {frame : Multiset Resource} {s : Dri2State} {r : Nat}

/-- What a flush keeps, whatever the functions on the C stack own. -/
def Preserves (flushed : Dri2State → Dri2State) : Prop :=
  ∀ frame s, Inv frame s → Inv frame (flushed s) ∧ Later s (flushed s)

theorem blitSwap_spec (h : Inv frame s) (hr : .record r ∈ frame) (drawable : Nat)
    (msc usec : UInt64) :
    Inv frame (blitSwap s r drawable msc usec) ∧
      Later s (blitSwap s r drawable msc usec) := by
  have htouched := h.touch (h.mem_of_frame hr)
  exact ⟨htouched.reply _, ((Same.act_touch s (.record r)).trans (Same.reply _ _)).later⟩

theorem msDri2ScheduleFlip_spec {flushed : Dri2State → Dri2State} (hf : Preserves flushed)
    (h : Inv frame s) (hr : .record r ∈ frame) (drawable : Nat) (o : FlipOutcome) :
    Inv frame (msDri2ScheduleFlip s r drawable o flushed).1 ∧
      Later s (msDri2ScheduleFlip s r drawable o flushed).1 := by
  have htouched := h.touch (h.mem_of_frame hr)
  obtain ⟨hinv, hlater⟩ := hf frame _ htouched
  have hlater := (Same.act_touch s (.record r)).later.trans hlater
  cases hc : o.callocOk with
  | false => simpa [msDri2ScheduleFlip, hc] using ⟨h, Later.refl s⟩
  | true =>
      have hflips : ∀ (t : Dri2State) flips, Inv frame t → Later s t →
          Inv frame { t with flips := flips } ∧ Later s { t with flips := flips } :=
        fun t flips hinv hlater =>
          ⟨⟨hinv.owns, hinv.once, hinv.fresh, hinv.linked, hinv.kernel⟩,
            ⟨hlater.kernelPending, hlater.next, hlater.queueSequence, hlater.holds,
              hlater.kept⟩⟩
      simp only [msDri2ScheduleFlip, hc, Bool.not_true, Bool.false_eq_true, if_false]
      split
      · exact hflips _ _ hinv hlater
      · split
        · exact hflips _ _ hinv hlater
        · exact ⟨hinv, hlater⟩

theorem completeFrameEvent_spec {flushed : Dri2State → Dri2State} (hf : Preserves flushed)
    (h : Inv frame s) (hr : .record r ∈ frame) (drawable : Nat) (msc usec : UInt64)
    (o : FlipOutcome) :
    Inv frame (completeFrameEvent s r drawable msc usec o flushed) ∧
      Later s (completeFrameEvent s r drawable msc usec o flushed) := by
  have hblit := blitSwap_spec h hr drawable msc usec
  cases ht : (s.records r).type with
  | queueSwap => simpa only [completeFrameEvent, ht] using hblit
  | queueFlip =>
      simp only [completeFrameEvent, ht]
      split
      · obtain ⟨hinv, hlater⟩ := msDri2ScheduleFlip_spec hf h hr drawable o
        generalize msDri2ScheduleFlip s r drawable o flushed = out at hinv hlater ⊢
        obtain ⟨t, scheduled⟩ := out
        cases scheduled with
        | true =>
            exact ⟨hinv.touch (hinv.mem_of_frame hr),
              hlater.trans (Same.act_touch t (.record r)).later⟩
        | false =>
            obtain ⟨hinv', hlater'⟩ := blitSwap_spec hinv hr drawable msc usec
            exact ⟨hinv', hlater.trans hlater'⟩
      · exact hblit
  | waitMsc =>
      simp only [completeFrameEvent, ht]
      split
      · exact ⟨h.reply _, (Same.reply s _).later⟩
      · exact ⟨h, Later.refl s⟩

/-- **`ms_dri2_frame_event_handler`** uses up what it is given. -/
theorem msDri2FrameEventHandler_spec {flushed : Dri2State → Dri2State}
    (hf : Preserves flushed) (h : Inv (holds r (s.records r) + frame) s) (msc usec : UInt64)
    (o : FlipOutcome) :
    Inv frame (msDri2FrameEventHandler s r msc usec o flushed) ∧
      Later s (msDri2FrameEventHandler s r msc usec o flushed) := by
  have hr : .record r ∈ holds r (s.records r) + frame :=
    Multiset.mem_add.mpr (Or.inl (record_mem_holds _ _))
  have hsame := Same.act_touch s (.record r)
  have htouched : Inv (holds r ((s.act (.touch (.record r))).records r) + frame)
      (s.act (.touch (.record r))) := h.touch (h.mem_of_frame hr)
  simp only [msDri2FrameEventHandler]
  split
  · obtain ⟨hinv, hsame'⟩ := msDri2DelFrameEvent_spec htouched
    exact ⟨hinv, (hsame.trans hsame').later⟩
  · next drawable _ =>
      obtain ⟨hinv, hlater⟩ := completeFrameEvent_spec hf htouched hr drawable msc usec o
      rw [← hlater.holds r] at hinv
      obtain ⟨hinv', hsame'⟩ := msDri2DelFrameEvent_spec hinv
      exact ⟨hinv', (hsame.later.trans hlater).trans hsame'.later⟩

/-- An entry leaves the queue: what it owns passes to the function that took it. -/
theorem Inv.unlink (h : Inv frame s) {k : Nat} {q : QueueData}
    (hq : s.queue.find? k = some q) :
    Inv (holds q.record (s.records q.record) + frame)
      { s with queue := s.queue.remove k } := by
  have howned : frame + queued s = holds q.record (s.records q.record) + frame +
      queued { s with queue := s.queue.remove k } := by
    rw [queued_remove hq]
    abel
  refine ⟨?_, h.once, h.fresh, fun type id list hl r hr => ?_, h.kernel⟩
  · rw [← howned]
    exact h.owns
  · rw [← howned]
    exact h.linked type id list hl r hr

theorem leaveKernel_spec (h : Inv frame s) (k : Nat) :
    Inv frame (leaveKernel s k) ∧ Later s (leaveKernel s k) :=
  ⟨⟨h.owns, h.once, h.fresh, h.linked, fun j hj => h.kernel j (List.mem_of_mem_erase hj)⟩,
    ⟨fun _ hj => List.mem_of_mem_erase hj, rfl, rfl, fun _ => rfl, fun _ _ => rfl⟩⟩

theorem unlinkEvent_spec (h : Inv frame s) {k : Nat} {q : QueueData}
    (hq : s.queue.find? k = some q) (hk : k ∈ s.kernelPending) (frameNo : UInt64)
    (is64bit : Bool) :
    Inv (holds q.record (s.records q.record) + frame)
        (unlinkEvent (leaveKernel s k) k q frameNo is64bit).1 ∧
      Later s (unlinkEvent (leaveKernel s k) k q frameNo is64bit).1 := by
  obtain ⟨hinv, -⟩ := leaveKernel_spec h k
  have hun := hinv.unlink hq
  refine ⟨⟨hun.owns, hun.once, hun.fresh, hun.linked, hun.kernel⟩,
    ⟨fun _ hj => List.mem_of_mem_erase hj, rfl, rfl, fun _ => rfl, fun j hj => ?_⟩⟩
  exact Pending.find?_remove_ne fun hjk => hj (hjk ▸ hk)

theorem msDri2FlipHandler_spec (h : Inv frame s) (event : FlipEvent) (msc ust : UInt64) :
    Inv frame (msDri2FlipHandler s event msc ust) ∧
      Same s (msDri2FlipHandler s event msc ust) := by
  simp only [msDri2FlipHandler]
  split
  · exact ⟨h, Same.refl s⟩
  · exact ⟨h.reply _, Same.reply s _⟩

mutual

/-- **Delivery of an event** keeps the invariant, at any depth of nesting. -/
theorem deliver_preserves : (d : Delivery) → Preserves d.deliver
  | .vblank k frameNo is64bit usec o flushed => by
      intro frame s h
      simp only [Delivery.deliver]
      split
      · next hk =>
          split
          · exact leaveKernel_spec h k
          · next q hq =>
              obtain ⟨hinv, hlater⟩ := unlinkEvent_spec h hq hk frameNo is64bit
              rw [← hlater.holds q.record] at hinv
              obtain ⟨hinv', hlater'⟩ := msDri2FrameEventHandler_spec
                (deliverAll_preserves flushed) hinv
                (unlinkEvent (leaveKernel s k) k q frameNo is64bit).2 usec o
              exact ⟨hinv', hlater.trans hlater'⟩
      · exact ⟨h, Later.refl s⟩
  | .flip k msc ust => by
      intro frame s h
      simp only [Delivery.deliver]
      split
      · exact ⟨h, Later.refl s⟩
      · next event _ =>
          have hremoved : Inv frame { s with flips := s.flips.remove k } :=
            ⟨h.owns, h.once, h.fresh, h.linked, h.kernel⟩
          obtain ⟨hinv, hsame⟩ := msDri2FlipHandler_spec hremoved event msc ust
          exact ⟨hinv, ⟨hsame.later.kernelPending, hsame.later.next,
            hsame.later.queueSequence, hsame.later.holds, hsame.later.kept⟩⟩

theorem deliverAll_preserves : (ds : List Delivery) → Preserves (deliverAll ds)
  | [] => fun _ s h => ⟨h, Later.refl s⟩
  | d :: ds => by
      intro frame s h
      obtain ⟨hinv, hlater⟩ := deliver_preserves d frame s h
      obtain ⟨hinv', hlater'⟩ := deliverAll_preserves ds frame _ hinv
      simp only [deliverAll]
      exact ⟨hinv', hlater.trans hlater'⟩

end

/-- `ms_drm_abort_seq`. -/
theorem msDrmAbortSeq_spec (h : Inv frame s) (k : Nat) : Inv frame (msDrmAbortSeq s k) := by
  simp only [msDrmAbortSeq]
  split
  · exact h
  · next q hq => exact (msDri2DelFrameEvent_spec (h.unlink hq)).1

end Events

/-! ## Queueing -/

section Queueing

variable {s : Dri2State} {r : Nat}

/-- **`ms_queue_vblank`** on an entry the kernel has not taken yet: either the entry is
still there when it returns, or the kernel refused and the entry was aborted. -/
theorem msQueueVblank_spec {crtc seq : Nat} (turns : List QueueTurn) (h : Inv 0 s)
    (hq : s.queue.find? seq = some ⟨crtc, r⟩) (hk : seq ∉ s.kernelPending) :
    ((msQueueVblank s crtc seq turns).2 = .refused ∧
        refuses s.queueSequence (turns.map QueueTurn.answer) = true ∧
        ∃ t, Inv 0 t ∧ t.queue.find? seq = some ⟨crtc, r⟩ ∧
          (msQueueVblank s crtc seq turns).1 = msDrmAbortSeq t seq) ∨
      ((msQueueVblank s crtc seq turns).2 ≠ .refused ∧
        refuses s.queueSequence (turns.map QueueTurn.answer) = false ∧
        Inv 0 (msQueueVblank s crtc seq turns).1 ∧
        (msQueueVblank s crtc seq turns).1.queue.find? seq = some ⟨crtc, r⟩) := by
  induction turns generalizing s with
  | nil => exact Or.inr ⟨by simp [msQueueVblank], rfl, h, hq⟩
  | cons turn turns ih =>
      cases hround : queueRound s.queueSequence turn.answer with
      | mk api result =>
          cases result with
          | queued kernelQueued is64bit =>
              simp only [msQueueVblank, hround, refuses, List.map_cons]
              refine Or.inr ⟨by simp, trivial, ⟨h.owns, h.once, h.fresh, h.linked, ?_⟩, hq⟩
              intro k hin
              rcases List.mem_cons.mp hin with rfl | hin
              · exact Pending.lt_next_of_find? hq
              · exact h.kernel k hin
          | check e =>
              have hinv : Inv 0 { s with queueSequence := api } :=
                ⟨h.owns, h.once, h.fresh, h.linked, h.kernel⟩
              simp only [msQueueVblank, hround, refuses, List.map_cons]
              by_cases he : e = .ebusy
              · simp only [he, ne_eq, not_true_eq_false, if_false, if_true]
                obtain ⟨hflushed, hlater⟩ := deliverAll_preserves turn.flushed 0 _ hinv
                have hrest := ih hflushed ((hlater.kept seq hk).trans hq)
                  fun hin => hk (hlater.kernelPending hin)
                rwa [hlater.queueSequence] at hrest
              · simp only [he, ne_eq, not_false_eq_true, if_true, if_false]
                exact Or.inl ⟨trivial, trivial, _, hinv, hq, rfl⟩

/-- After an abort nobody owns the record. -/
theorem msDrmAbortSeq_disowns {seq : Nat} {q : QueueData} (h : Inv 0 s)
    (hq : s.queue.find? seq = some q) : .record q.record ∉ queued (msDrmAbortSeq s seq) := by
  have hun := h.unlink hq
  have hnodup := hun.owns.nodup
  have heq : msDrmAbortSeq s seq =
      msDri2DelFrameEvent { s with queue := s.queue.remove seq } q.record := by
    simp [msDrmAbortSeq, hq, msDri2FrameEventAbort]
  rw [heq, (msDri2DelFrameEvent_spec hun).2.queued]
  have hdisjoint := (Multiset.nodup_add.mp hnodup).2.2
  exact Multiset.disjoint_left.mp hdisjoint
    (Multiset.mem_add.mpr (Or.inl (record_mem_holds _ _)))

/-- **Queueing a record its caller owns.** A failed allocation leaves it with the
caller, a taken request hands it to the queue, a refused one frees it. -/
theorem queueFrameEvent_spec (h : Inv (holds r (s.records r) + 0) s) (crtc : Nat)
    (flags : QueueFlag) (msc : UInt64) (allocOk : Bool) (turns : List QueueTurn) :
    (allocOk = false ∧ queueFrameEvent s r crtc flags msc allocOk turns = (s, none)) ∨
      (allocOk = true ∧ refuses s.queueSequence (turns.map QueueTurn.answer) = true ∧
        (queueFrameEvent s r crtc flags msc allocOk turns).2 = some .refused ∧
        Inv 0 (queueFrameEvent s r crtc flags msc allocOk turns).1 ∧
        .record r ∉ queued (queueFrameEvent s r crtc flags msc allocOk turns).1) ∨
      (allocOk = true ∧ refuses s.queueSequence (turns.map QueueTurn.answer) = false ∧
        (∃ result, result ≠ .refused ∧
          (queueFrameEvent s r crtc flags msc allocOk turns).2 = some result) ∧
        Inv 0 (queueFrameEvent s r crtc flags msc allocOk turns).1 ∧
        .record r ∈ queued (queueFrameEvent s r crtc flags msc allocOk turns).1) := by
  cases allocOk with
  | false => exact Or.inl ⟨rfl, rfl⟩
  | true =>
      right
      have hentered : Inv 0 { s with
          queue := s.queue.alloc ⟨crtc, r⟩
          requests := (flags, msc) :: s.requests } := by
        have howned : holds r (s.records r) + 0 + queued s = 0 + queued { s with
            queue := s.queue.alloc ⟨crtc, r⟩
            requests := (flags, msc) :: s.requests } := by
          simp [queued]
        refine ⟨?_, h.once, h.fresh, fun type id list hl x hx => ?_, fun k hk => ?_⟩
        · rw [← howned]
          exact h.owns
        · rw [← howned]
          exact h.linked type id list hl x hx
        · exact Nat.lt_succ_of_lt (h.kernel k hk)
      have hk : s.queue.next ∉ s.kernelPending := fun hin =>
        Nat.lt_irrefl _ (h.kernel _ hin)
      simp only [queueFrameEvent, Bool.not_true, Bool.false_eq_true, if_false]
      rcases msQueueVblank_spec turns hentered (Pending.find?_alloc_self _ _) hk with
        ⟨hresult, hrefuses, t, ht, hq, hout⟩ | ⟨hresult, hrefuses, hinv, hq⟩
      · refine Or.inl ⟨trivial, hrefuses, congrArg some hresult, ?_, ?_⟩
        · rw [hout]
          exact msDrmAbortSeq_spec ht _
        · rw [hout]
          exact msDrmAbortSeq_disowns ht hq
      · exact Or.inr ⟨trivial, hrefuses, ⟨_, hresult, rfl⟩, hinv, mem_queued hq⟩

end Queueing

/-! ## A record freed twice -/

section Twice

variable {s : Dri2State} {r : Nat}

theorem xorgListDel_suffix (s : Dri2State) (r : Nat) (type : Restype) :
    (Act.touch (.record r) :: s.log) <:+ (xorgListDel s r type).log := by
  simp only [xorgListDel]
  split
  · exact List.suffix_rfl
  · exact List.suffix_append _ _

theorem dropBuffer_suffix (s : Dri2State) (x : Resource) (buffer : Option Nat) :
    s.log <:+ (dropBuffer s x buffer).log := by
  cases buffer with
  | none => exact List.suffix_rfl
  | some b => exact List.suffix_cons _ _

/-- `ms_dri2_del_frame_event` uses the record it frees. -/
theorem msDri2DelFrameEvent_suffix (s : Dri2State) (r : Nat) :
    (Act.touch (.record r) :: s.log) <:+ (msDri2DelFrameEvent s r).log := by
  simp only [msDri2DelFrameEvent, Dri2State.act]
  refine List.IsSuffix.trans ?_ (List.suffix_cons _ _)
  refine List.IsSuffix.trans ?_ (dropBuffer_suffix _ _ _)
  refine List.IsSuffix.trans ?_ (dropBuffer_suffix _ _ _)
  refine List.IsSuffix.trans ?_ (xorgListDel_suffix _ r .drawable)
  exact (xorgListDel_suffix s r .client).trans (List.suffix_cons _ _)

/-- Freeing a record that nobody owns is unlawful. -/
theorem msDri2DelFrameEvent_unlawful (h : Inv 0 s) (hr : .record r ∉ queued s) :
    ¬ Lawful (msDri2DelFrameEvent s r).log := by
  intro hlaw
  have htouch := (hlaw.of_suffix (msDri2DelFrameEvent_suffix s r)).1
  rw [h.owns.mem_held, zero_add] at htouch
  exact hr htouch

end Twice

/-! ## Scheduling -/

/-- Both lists the record goes on are there or can be made. -/
def registers (c : Call) (s : Dri2State) : Bool :=
  c.registerClient.succeeds (s.resources .client c.client) &&
    c.registerDrawable.succeeds (s.resources .drawable c.draw)

/-- The call reaches `ms_queue_vblank`, if the query of the count does not stop it,
and the kernel answers with an error that is not `EBUSY`. -/
def requestRefused (c : Call) (s : Dri2State) : Bool :=
  c.covering.isSome && c.callocOk && registers c s && c.queueAllocOk &&
    refuses (msGetKernelUstMsc s.queueSequence c.getMsc).1 (c.turns.map QueueTurn.answer)

/-- A scheduling call whose request the kernel refuses. -/
def refusedByKernel (s : Dri2State) : Dri2Op → Bool
  | .scheduleSwap c =>
      (msGetKernelUstMsc s.queueSequence c.getMsc).2.isSome && requestRefused c.toCall s
  | .scheduleWaitMsc c => requestRefused c.toCall s
  | _ => false

/-- How a call ends: with the invariant, or with a record freed twice. -/
def Ends (refused : Bool) (s : Dri2State) : Prop :=
  (refused = false → Inv 0 s) ∧ (refused = true → ¬ Lawful s.log)

section Schedule

variable {s : Dri2State} {r : Nat}

theorem msGetResource_fst (s : Dri2State) (id : Nat) (type : Restype) (a : Registration) :
    (msGetResource s id type a).2 = a.succeeds (s.resources type id) := by
  cases hl : s.resources type id with
  | some list => simp [msGetResource, Registration.succeeds, hl]
  | none =>
      cases hm : a.mallocOk <;> cases ha : a.addResourceOk <;>
        simp [msGetResource, Registration.succeeds, hl, hm, ha]

theorem msGetResource_spec {frame : Multiset Resource} (h : Inv frame s) (id : Nat)
    (type : Restype) (a : Registration) :
    Inv frame (msGetResource s id type a).1 ∧ Same s (msGetResource s id type a).1 ∧
      (∀ type', Unlinked s type' r → Unlinked (msGetResource s id type a).1 type' r) ∧
      ∀ type' ≠ type, (msGetResource s id type a).1.resources type' = s.resources type' := by
  have hkeep : Inv frame s ∧ Same s s ∧ (∀ type', Unlinked s type' r → Unlinked s type' r) ∧
      ∀ type' ≠ type, s.resources type' = s.resources type' :=
    ⟨h, Same.refl s, fun _ hu => hu, fun _ _ => rfl⟩
  simp only [msGetResource]
  split
  · exact hkeep
  · split
    · exact hkeep
    · split
      · exact hkeep
      · refine ⟨⟨h.owns, h.once, h.fresh, fun type' id' list hl x hx => ?_, h.kernel⟩,
          ⟨rfl, rfl, rfl, rfl, fun _ => rfl, fun _ => rfl⟩, fun type' hu id' list hl hx => ?_,
          fun type' hne => ?_⟩
        · rw [setResource_apply] at hl
          split at hl
          · cases hl
            cases hx
          · exact h.linked type' id' list hl x hx
        · rw [setResource_apply] at hl
          split at hl
          · cases hl
            cases hx
          · exact hu id' list hl hx
        · funext id'
          simp [setResource_apply, hne]

/-- **`ms_dri2_add_frame_event`** of a new record.  When it fails the record is on no
list. -/
theorem msDri2AddFrameEvent_spec {frame : Multiset Resource} (h : Inv frame s)
    (hr : .record r ∈ frame) (hun : ∀ type, Unlinked s type r) (client drawable : Nat)
    (a b : Registration) :
    Inv frame (msDri2AddFrameEvent s r client drawable a b).1 ∧
      Same s (msDri2AddFrameEvent s r client drawable a b).1 ∧
      (msDri2AddFrameEvent s r client drawable a b).2 =
        (a.succeeds (s.resources .client client) &&
          b.succeeds (s.resources .drawable drawable)) ∧
      ((msDri2AddFrameEvent s r client drawable a b).2 = false →
        ∀ type, Unlinked (msDri2AddFrameEvent s r client drawable a b).1 type r) := by
  have hclientSpec := msGetResource_spec (r := r) h client .client a
  have hclientOk := msGetResource_fst s client .client a
  generalize hout : msGetResource s client .client a = out at hclientSpec hclientOk
  obtain ⟨t, found⟩ := out
  obtain ⟨hinv, hsame, hkept, hothers⟩ := hclientSpec
  simp only at hinv hsame hkept hothers hclientOk
  cases found with
  | false =>
      simp only [msDri2AddFrameEvent, hout]
      exact ⟨hinv, hsame, by rw [← hclientOk, Bool.false_and],
        fun _ type => hkept type (hun type)⟩
  | true =>
      have hmem : .record r ∈ frame + queued t := hinv.mem_of_frame hr
      obtain ⟨hadd, hsameAdd⟩ := xorgListAdd_spec hinv client hmem (hkept .client (hun .client))
      have hunDrawable : Unlinked (xorgListAdd t r .client client) .drawable r := by
        intro id list hl
        rw [xorgListAdd_resources (by decide)] at hl
        exact hkept .drawable (hun .drawable) id list hl
      have hdrawableSpec := msGetResource_spec (r := r) hadd drawable .drawable b
      have hdrawableOk := msGetResource_fst (xorgListAdd t r .client client) drawable .drawable b
      rw [xorgListAdd_resources (by decide), hothers .drawable (by decide)] at hdrawableOk
      generalize hout' : msGetResource (xorgListAdd t r .client client) drawable .drawable b =
        out at hdrawableSpec hdrawableOk
      obtain ⟨u, found⟩ := out
      obtain ⟨hinv', hsame', hkept', -⟩ := hdrawableSpec
      simp only at hinv' hsame' hkept' hdrawableOk
      have hsame := (hsame.trans hsameAdd).trans hsame'
      have hmem' : .record r ∈ frame + queued u := hinv'.mem_of_frame hr
      cases found with
      | false =>
          obtain ⟨hdel, hsameDel, hunClient⟩ := xorgListDel_spec hinv' .client hmem'
          simp only [msDri2AddFrameEvent, hout, hout']
          refine ⟨hdel, hsame.trans hsameDel, by rw [← hdrawableOk, Bool.and_false], ?_⟩
          intro _ type
          cases type with
          | client => exact hunClient
          | drawable =>
              intro id list hl
              rw [xorgListDel_resources (by decide)] at hl
              exact hkept' .drawable hunDrawable id list hl
      | true =>
          obtain ⟨hadd', hsameAdd'⟩ := xorgListAdd_spec hinv' drawable hmem'
            (hkept' .drawable hunDrawable)
          simp only [msDri2AddFrameEvent, hout, hout']
          exact ⟨hadd', hsame.trans hsameAdd', by rw [← hclientOk, ← hdrawableOk, Bool.and_true],
            by simp⟩

/-- The record is made: its scheduling function owns it, and only it. -/
theorem newRecord_spec (h : Inv 0 s) (info : FrameEvent) :
    Inv {.record s.nextRecord} (newRecord s info) ∧
      (newRecord s info).queueSequence = s.queueSequence ∧
      (newRecord s info).resources = s.resources ∧
      (newRecord s info).records s.nextRecord = info ∧
      (newRecord s info).nextRecord = s.nextRecord + 1 ∧
      (∀ type, Unlinked (newRecord s info) type s.nextRecord) ∧
      ∀ x, x ≠ .record s.nextRecord → s.nextRecord ≤ x.of →
        acquires (newRecord s info).log x = 0 := by
  have hmade : ∀ q ∈ s.queue.requests, q.record < s.nextRecord := by
    intro q hq
    obtain ⟨e, he, rfl⟩ := List.mem_map.mp hq
    have hfind : s.queue.find? e.1 = some e.2 := Pending.find?_eq_some.mpr he
    exact h.of_lt (Multiset.mem_add.mpr (Or.inr (mem_queued hfind)))
  have hqueued : queued (newRecord s info) = queued s := by
    refine congrArg List.sum (List.map_congr_left fun q hq => ?_)
    have hne : q.record ≠ s.nextRecord := Nat.ne_of_lt (hmade q hq)
    simp [newRecord, Dri2State.setRecord, Dri2State.act, hne]
  have hzero : acquires s.log (.record s.nextRecord) = 0 :=
    h.fresh _ (Nat.le_refl s.nextRecord)
  have hcount : ∀ x, acquires (newRecord s info).log x =
      acquires s.log x + if .record s.nextRecord = x then 1 else 0 :=
    fun x => acquires_acquire _ _ _
  refine ⟨⟨?_, fun x => ?_, fun x hx => ?_, fun type id list hl r hr => ?_, h.kernel⟩, rfl, rfl,
    Function.update_self _ _ _, rfl, fun type => ?_, fun x hne hx => ?_⟩
  · have hacquired := h.owns.acquire (h.owns.notMem_of_acquires hzero)
    rw [hqueued, Multiset.singleton_add]
    rwa [zero_add] at hacquired
  · rw [hcount]
    have hx := h.once x
    split
    · next hat => subst hat; omega
    · omega
  · have hx' : s.nextRecord + 1 ≤ x.of := hx
    have hne : Resource.record s.nextRecord ≠ x := by
      rintro rfl
      exact Nat.not_succ_le_self _ hx'
    rw [hcount, if_neg hne, h.fresh x (by omega)]
  · obtain ⟨hmem, hlink⟩ := h.linked type id list hl r hr
    have hne : r ≠ s.nextRecord := Nat.ne_of_lt (h.of_lt hmem)
    rw [hqueued]
    refine ⟨?_, ?_⟩
    · rw [zero_add] at hmem
      exact Multiset.mem_add.mpr (Or.inr hmem)
    · simpa [newRecord, Dri2State.setRecord, Dri2State.act, hne] using hlink
  · exact h.unlinked (h.owns.notMem_of_acquires hzero) type
  · rw [hcount, if_neg fun heq => hne heq.symm, h.fresh x hx]

/-- A reference is taken. -/
theorem msDri2ReferenceBuffer_spec {frame : Multiset Resource} (h : Inv frame s)
    {x : Resource} (hx : acquires s.log x = 0) (hof : x.of < s.nextRecord) (buffer : Nat) :
    Inv (x ::ₘ frame) (msDri2ReferenceBuffer s x buffer) := by
  have hcount : Inv frame
      { s with refcnt := Function.update s.refcnt buffer (s.refcnt buffer + 1) } :=
    ⟨h.owns, h.once, h.fresh, h.linked, h.kernel⟩
  exact hcount.acquire hx hof

theorem getCrtcUstMsc_spec {frame : Multiset Resource} (h : Inv frame s) (crtc : Nat)
    (answer : GetAnswer) :
    Inv frame (getCrtcUstMsc s crtc answer).1 ∧
      (getCrtcUstMsc s crtc answer).1.records = s.records ∧
      (getCrtcUstMsc s crtc answer).1.queueSequence =
        (msGetKernelUstMsc s.queueSequence answer).1 ∧
      (getCrtcUstMsc s crtc answer).2.isSome =
        (msGetKernelUstMsc s.queueSequence answer).2.isSome := by
  refine ⟨⟨h.owns, h.once, h.fresh, h.linked, h.kernel⟩, rfl, ?_, ?_⟩ <;>
    cases hget : msGetKernelUstMsc s.queueSequence answer with
    | mk api result => cases result <;> simp [getCrtcUstMsc, msGetCrtcUstMsc, hget]

/-! ### Swaps -/

theorem blitFallback_none (h : Inv 0 s) (c : SwapCall) : Inv 0 (blitFallback s c none).1 :=
  h.reply _

/-- The fallback with a record that is still its caller's. -/
theorem blitFallback_owned (h : Inv (holds r (s.records r) + 0) s) (c : SwapCall) :
    Inv 0 (blitFallback s c (some r)).1 :=
  (msDri2DelFrameEvent_spec (h.reply _)).1

/-- The fallback with a record that has been freed. -/
theorem blitFallback_freed (h : Inv 0 s) (hr : .record r ∉ queued s) (c : SwapCall) :
    ¬ Lawful (blitFallback s c (some r)).1.log :=
  msDri2DelFrameEvent_unlawful (h.reply _) hr

/-- `frame_info->type = MS_DRI2_QUEUE_FLIP`. -/
theorem markFlip_spec (h : Inv (holds r (s.records r) + 0) s) (canFlip : Bool) :
    let t := if canFlip then
        (s.act (.touch (.record r))).setRecord r { s.records r with type := .queueFlip }
      else s
    Inv (holds r (t.records r) + 0) t ∧ t.queueSequence = s.queueSequence := by
  cases canFlip with
  | false => exact ⟨h, rfl⟩
  | true =>
      have hr : .record r ∈ holds r (s.records r) + 0 + queued s :=
        h.mem_of_frame (Multiset.mem_add.mpr (Or.inl (record_mem_holds _ _)))
      obtain ⟨hinv, hsame⟩ := (h.touch hr).setRecord (r := r)
        (a := { s.records r with type := .queueFlip }) (fun _ => rfl) rfl
      refine ⟨?_, rfl⟩
      have hholds := hsame.holds r
      simp only [if_true]
      rw [hholds]
      exact hinv

/-- **The rest of a swap** once its record is registered and its buffers are
referenced. -/
theorem swapFromQuery_spec (h : Inv (holds r (s.records r) + 0) s) (c : SwapCall)
    (crtc : Nat) :
    Ends ((msGetKernelUstMsc s.queueSequence c.getMsc).2.isSome && (c.queueAllocOk &&
        refuses (msGetKernelUstMsc s.queueSequence c.getMsc).1 (c.turns.map QueueTurn.answer)))
      (swapFromQuery s c crtc r).1 := by
  obtain ⟨hinv, hrecords, hapi, hsome⟩ := getCrtcUstMsc_spec h crtc c.getMsc
  rw [← hsome, ← hapi]
  generalize hget : getCrtcUstMsc s crtc c.getMsc = out at hinv hrecords hapi hsome ⊢
  obtain ⟨t, current⟩ := out
  simp only at hinv hrecords ⊢
  rw [← hrecords] at hinv
  cases current with
  | none =>
      simp only [swapFromQuery, hget]
      exact ⟨fun _ => blitFallback_owned hinv c, by simp⟩
  | some current =>
      obtain ⟨hmarked, hapi'⟩ := markFlip_spec hinv c.canFlip
      simp only [swapFromQuery, hget, Option.isSome_some, Bool.true_and]
      rw [← hapi']
      generalize (if c.canFlip = true then _ else t) = u at hmarked ⊢
      have hqueue := queueFrameEvent_spec hmarked crtc ⟨false, !c.canFlip⟩
        (swapRequest current.msc c.targetMsc c.divisor c.remainder c.canFlip) c.queueAllocOk
        c.turns
      generalize queueFrameEvent u r crtc _ _ c.queueAllocOk c.turns = out at hqueue ⊢
      obtain ⟨v, result⟩ := out
      rcases hqueue with ⟨halloc, hout⟩ | ⟨halloc, hrefuses, hresult, hinv', hout⟩ |
        ⟨halloc, hrefuses, ⟨result', hne, hresult⟩, hinv', hin⟩
      · cases hout
        exact ⟨fun _ => blitFallback_owned hmarked c, by simp [halloc]⟩
      · cases hresult
        rw [halloc, hrefuses]
        exact ⟨by simp, fun _ => blitFallback_freed hinv' hout c⟩
      · cases hresult
        rw [halloc, hrefuses]
        refine ⟨fun _ => ?_, by simp⟩
        cases result' with
        | queued m =>
            exact hinv'.touch (Multiset.mem_add.mpr (Or.inr hin))
        | refused => exact absurd rfl hne
        | looping => exact hinv'

/-- The references on both buffers complete what the record's owner owns. -/
theorem referenceBuffers_spec (h : Inv {.record r} s) (hr : r < s.nextRecord)
    (hfront : acquires s.log (.front r) = 0) (hback : acquires s.log (.back r) = 0)
    (hholds : holds r (s.records r) = {.record r} + ({.front r} + {.back r}))
    (front back : Nat) :
    let t := msDri2ReferenceBuffer (msDri2ReferenceBuffer s (.front r) front) (.back r) back
    Inv (holds r (t.records r) + 0) t ∧ t.queueSequence = s.queueSequence := by
  have hinv := msDri2ReferenceBuffer_spec h hfront hr front
  have hback' : acquires (msDri2ReferenceBuffer s (.front r) front).log (.back r) = 0 := by
    simpa [msDri2ReferenceBuffer, Dri2State.act, acquires_acquire] using hback
  have hinv' := msDri2ReferenceBuffer_spec hinv hback' hr back
  refine ⟨hinv'.congr ?_, rfl⟩
  have hrecords : holds r ((msDri2ReferenceBuffer (msDri2ReferenceBuffer s (.front r) front)
      (.back r) back).records r) = {.record r} + ({.front r} + {.back r}) := hholds
  rw [hrecords]
  simp only [← Multiset.singleton_add]
  abel

/-- **`ms_dri2_schedule_swap`.** -/
theorem msDri2ScheduleSwap_spec (h : Inv 0 s) (c : SwapCall) :
    Ends (refusedByKernel s (.scheduleSwap c)) (msDri2ScheduleSwap s c).1 := by
  cases hcover : c.covering with
  | none =>
      simp only [msDri2ScheduleSwap, hcover]
      exact ⟨fun _ => blitFallback_none h c, by simp [refusedByKernel, requestRefused, hcover]⟩
  | some crtc =>
      cases hcalloc : c.callocOk with
      | false =>
          simp only [msDri2ScheduleSwap, hcover, hcalloc, Bool.not_false, if_true]
          exact ⟨fun _ => blitFallback_none h c,
            by simp [refusedByKernel, requestRefused, hcalloc]⟩
      | true =>
          simp only [msDri2ScheduleSwap, hcover, hcalloc, Bool.not_true, Bool.false_eq_true,
            if_false]
          obtain ⟨hnew, hapi, hlists, hinfo, hnext, hun, hzero⟩ := newRecord_spec h
            ⟨some c.draw, some c.client, .queueSwap, some c.front, some c.back, fun _ => none⟩
          obtain ⟨hadd, hsame, hok, hfreed⟩ := msDri2AddFrameEvent_spec hnew
            (Multiset.mem_singleton_self _) hun c.client c.draw c.registerClient
            c.registerDrawable
          have hholds := hsame.holds s.nextRecord
          rw [hinfo] at hholds
          rw [hlists] at hok
          have hzero' : ∀ x, x ≠ .record s.nextRecord → s.nextRecord ≤ x.of →
              acquires (msDri2AddFrameEvent _ s.nextRecord c.client c.draw c.registerClient
                c.registerDrawable).1.log x = 0 :=
            fun x hne hx => (hsame.acquires x).trans (hzero x hne hx)
          have hapi' := hsame.queueSequence.trans hapi
          have hnext' := hsame.nextRecord.trans hnext
          clear hsame hzero hnew hun
          generalize msDri2AddFrameEvent _ s.nextRecord c.client c.draw c.registerClient
            c.registerDrawable = out at hadd hok hfreed hholds hzero' hapi' hnext' ⊢
          obtain ⟨t, registered⟩ := out
          simp only at hadd hok hfreed hholds hzero' hapi' hnext'
          cases registered with
          | false =>
              refine ⟨fun _ => blitFallback_none (hadd.free (hfreed rfl)) c, ?_⟩
              simp [refusedByKernel, requestRefused, registers, ← hok]
          | true =>
              obtain ⟨hreferenced, hapi''⟩ := referenceBuffers_spec hadd (by omega)
                (hzero' _ (by simp) (Nat.le_refl _)) (hzero' _ (by simp) (Nat.le_refl _))
                hholds c.front c.back
              have hends := swapFromQuery_spec hreferenced c crtc
              rw [hapi'', hapi'] at hends
              simpa [refusedByKernel, requestRefused, registers, ← hok, hcover, hcalloc]
                using hends

/-! ### Waits -/

/-- **The rest of a wait** once its record is registered. -/
theorem waitFromQuery_spec (h : Inv (holds r (s.records r) + 0) s) (c : WaitCall)
    (crtc : Nat) :
    Ends (c.queueAllocOk &&
        refuses (msGetKernelUstMsc s.queueSequence c.getMsc).1 (c.turns.map QueueTurn.answer))
      (waitFromQuery s c crtc r) := by
  obtain ⟨hinv, hrecords, hapi, -⟩ := getCrtcUstMsc_spec h crtc c.getMsc
  rw [← hapi]
  generalize hget : getCrtcUstMsc s crtc c.getMsc = out at hinv hrecords hapi ⊢
  obtain ⟨t, current⟩ := out
  simp only at hinv hrecords ⊢
  rw [← hrecords] at hinv
  simp only [waitFromQuery, hget]
  generalize (Option.map UstMsc.msc current).getD c.stackMsc = currentMsc
  have hqueue := queueFrameEvent_spec hinv crtc ⟨false, false⟩
    (waitRequest currentMsc c.targetMsc c.divisor c.remainder) c.queueAllocOk c.turns
  generalize queueFrameEvent t r crtc _ _ c.queueAllocOk c.turns = out at hqueue ⊢
  obtain ⟨v, result⟩ := out
  rcases hqueue with ⟨halloc, hout⟩ | ⟨halloc, hrefuses, hresult, hinv', hout⟩ |
    ⟨halloc, hrefuses, ⟨result', hne, hresult⟩, hinv', hin⟩
  · cases hout
    exact ⟨fun _ => (msDri2DelFrameEvent_spec hinv).1.reply _, by simp [halloc]⟩
  · cases hresult
    rw [halloc, hrefuses]
    exact ⟨by simp, fun _ => msDri2DelFrameEvent_unlawful hinv' hout⟩
  · cases hresult
    rw [halloc, hrefuses]
    refine ⟨fun _ => ?_, by simp⟩
    cases result' with
    | queued m => exact hinv'.touch (Multiset.mem_add.mpr (Or.inr hin))
    | refused => exact absurd rfl hne
    | looping => exact hinv'

/-- **`ms_dri2_schedule_wait_msc`.** -/
theorem msDri2ScheduleWaitMsc_spec (h : Inv 0 s) (c : WaitCall) :
    Ends (refusedByKernel s (.scheduleWaitMsc c)) (msDri2ScheduleWaitMsc s c) := by
  cases hcover : c.covering with
  | none =>
      simp only [msDri2ScheduleWaitMsc, hcover]
      exact ⟨fun _ => h.reply _, by simp [refusedByKernel, requestRefused, hcover]⟩
  | some crtc =>
      cases hcalloc : c.callocOk with
      | false =>
          simp only [msDri2ScheduleWaitMsc, hcover, hcalloc, Bool.not_false, if_true]
          exact ⟨fun _ => h.reply _, by simp [refusedByKernel, requestRefused, hcalloc]⟩
      | true =>
          simp only [msDri2ScheduleWaitMsc, hcover, hcalloc, Bool.not_true, Bool.false_eq_true,
            if_false]
          obtain ⟨hnew, hapi, hlists, hinfo, -, hun, -⟩ := newRecord_spec h
            ⟨some c.draw, some c.client, .waitMsc, none, none, fun _ => none⟩
          obtain ⟨hadd, hsame, hok, hfreed⟩ := msDri2AddFrameEvent_spec hnew
            (Multiset.mem_singleton_self _) hun c.client c.draw c.registerClient
            c.registerDrawable
          have hholds := hsame.holds s.nextRecord
          rw [hinfo] at hholds
          rw [hlists] at hok
          have hapi' := hsame.queueSequence.trans hapi
          clear hsame hnew hun
          generalize msDri2AddFrameEvent _ s.nextRecord c.client c.draw c.registerClient
            c.registerDrawable = out at hadd hok hfreed hholds hapi' ⊢
          obtain ⟨t, registered⟩ := out
          simp only at hadd hok hfreed hholds hapi'
          cases registered with
          | false =>
              refine ⟨fun _ => (hadd.free (hfreed rfl)).reply _, ?_⟩
              simp [refusedByKernel, requestRefused, registers, ← hok]
          | true =>
              have hready : Inv (holds s.nextRecord (t.records s.nextRecord) + 0) t := by
                refine hadd.congr ?_
                rw [hholds]
                rfl
              have hends := waitFromQuery_spec hready c crtc
              rw [hapi'] at hends
              simpa [refusedByKernel, requestRefused, registers, ← hok, hcover, hcalloc]
                using hends

end Schedule

/-! ## Clients and drawables that go away -/

section Gone

variable {s : Dri2State}

theorem frameEventGone_spec (type : Restype) (list : List Nat) (h : Inv 0 s)
    (hlist : ∀ r ∈ list, .record r ∈ queued s) : Inv 0 (frameEventGone type list s) := by
  induction list generalizing s with
  | nil => exact h
  | cons r rest ih =>
      have hr : .record r ∈ 0 + queued s := by
        rw [zero_add]
        exact hlist r List.mem_cons_self
      obtain ⟨hdel, hsame, -⟩ := xorgListDel_spec h type hr
      have hforget : (∀ t, (((xorgListDel s r type).records r).forget type).link t =
            ((xorgListDel s r type).records r).link t) ∧
          holds r (((xorgListDel s r type).records r).forget type) =
            holds r ((xorgListDel s r type).records r) := by
        cases type <;> exact ⟨fun _ => rfl, rfl⟩
      obtain ⟨hset, hsame'⟩ := hdel.setRecord hforget.1 hforget.2
      refine ih hset fun x hx => ?_
      rw [(hsame.trans hsame').queued]
      exact hlist x (List.mem_cons_of_mem r hx)

theorem freeResource_spec (h : Inv 0 s) (type : Restype) (id : Nat) :
    Inv 0 (freeResource type s id) := by
  simp only [freeResource]
  split
  · exact h
  · next list hl =>
      have hgone : Inv 0 (frameEventGone type list s) := by
        refine frameEventGone_spec type list h fun r hr => ?_
        have hmem := (h.linked type id list hl r hr).1
        rwa [zero_add] at hmem
      refine ⟨hgone.owns, hgone.once, hgone.fresh, fun type' id' list' hl' r hr => ?_,
        hgone.kernel⟩
      rw [setResource_apply] at hl'
      split at hl'
      · cases hl'
      · exact hgone.linked type' id' list' hl' r hr

end Gone

/-! ## Runs -/

/-- What one step does, by whether a request is refused. -/
theorem dri2Step_spec {s : Dri2State} (h : Inv 0 s) (op : Dri2Op) :
    Ends (refusedByKernel s op) (dri2Step s op) := by
  cases op with
  | scheduleSwap call => exact msDri2ScheduleSwap_spec h call
  | scheduleWaitMsc call => exact msDri2ScheduleWaitMsc_spec h call
  | deliver d => exact ⟨fun _ => (deliver_preserves d 0 s h).1, by simp [refusedByKernel]⟩
  | abort k => exact ⟨fun _ => msDrmAbortSeq_spec h k, by simp [refusedByKernel]⟩
  | abortFlip k =>
      exact ⟨fun _ => ⟨h.owns, h.once, h.fresh, h.linked, h.kernel⟩, by simp [refusedByKernel]⟩
  | clientGone client =>
      exact ⟨fun _ => freeResource_spec h .client client, by simp [refusedByKernel]⟩
  | drawableGone drawable =>
      refine ⟨fun _ => freeResource_spec ?_ .drawable drawable, by simp [refusedByKernel]⟩
      exact ⟨h.owns, h.once, h.fresh, h.linked, h.kernel⟩

theorem start_inv (records : Nat → FrameEvent) (refcnt : Nat → Int) :
    Inv 0 (Dri2State.start records refcnt) where
  owns := ⟨trivial, rfl⟩
  once := fun x => by simp [Dri2State.start, acquires]
  fresh := fun x _ => by simp [Dri2State.start, acquires]
  linked := fun type id list hl => by cases hl
  kernel := fun k hk => by cases hk

/-- The invariant gives the property. -/
theorem Inv.releasedOnce {s : Dri2State} (h : Inv 0 s) : ReleasedOnce s := by
  have hlaw := h.owns.lawful
  refine ⟨hlaw, fun x => ⟨h.once x, ?_⟩⟩
  have hmem : x ∈ held s.log ↔ x ∈ queued s := by rw [h.owns.mem_held, zero_add]
  have hconserved := hlaw.acquires_eq x
  split
  · next hx =>
      have hpos := List.count_pos_iff.mpr (hmem.mpr hx)
      have hle := h.once x
      omega
  · next hx =>
      have hzero := List.count_eq_zero.mpr fun hin => hx (hmem.mp hin)
      omega

/-- A swap on a displayed drawable whose request meets `ENOMEM` (errno 12). -/
def refusedSwap : SwapCall where
  client := 1
  draw := 2
  covering := some 0
  callocOk := true
  registerClient := ⟨true, true⟩
  registerDrawable := ⟨true, true⟩
  getMsc := ⟨.ok ⟨100, 0⟩, .error .enotty⟩
  queueAllocOk := true
  turns := [⟨⟨.error (.other 12), .error .enotty⟩, []⟩]
  targetMsc := 200
  divisor := 0
  remainder := 0
  front := 10
  back := 11
  canFlip := false

end LoongsonVideo.Driver.Dri2Ownership
