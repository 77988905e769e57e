import LoongsonVideo.Driver.Dri2Ownership

/-!
# For whom a DRI2 request completes

A frame event is on the resource lists of its client and its drawable, and forgets
the one that goes away.  The event of a flip is on no list: it keeps the client's
pointer until the flip is done, and looks the drawable up by its id.

`Good gone` is the invariant, for the clients and drawables that are gone: they have
no list any more, and what is queued is still on the lists of its owners, so its
owners are not gone.  For flips the code does not see to it.  `no_late_completion`
therefore asks that no client exits while a flip it asked for is outstanding, one of
which only some CRTCs were queued included, and then nothing is ever completed for a
client or a drawable that has gone.
-/

namespace LoongsonVideo.Driver.Dri2Completion

open LoongsonVideo.Driver.Dri2FrameEvent
open LoongsonVideo.Driver.Dri2Ownership (setResource_apply)
open LoongsonVideo.Driver.QueueVblank
open LoongsonVideo.Verified
open LoongsonVideo.Verified.Machine

/-! ## The invariant -/

/-- The client or the drawable of a record. -/
def owner (info : FrameEvent) : Restype → Option Nat
  | .client => info.client
  | .drawable => info.drawable

/-- A completion names nobody that has gone. -/
def Alive (gone : Restype → List Nat) : Reply → Prop
  | .swapComplete client drawable _ _ =>
      (∀ c, client = some c → c ∉ gone .client) ∧ drawable ∉ gone .drawable
  | .waitMscComplete client drawable _ => client ∉ gone .client ∧ drawable ∉ gone .drawable

/-- A linked record is on the list it is linked into, and who is gone has no list. -/
structure Lists (gone : Restype → List Nat) (s : Dri2State) : Prop where
  onList : ∀ r, r < s.nextRecord → ∀ type id, (s.records r).link type = some id →
    ∃ list, s.resources type id = some list ∧ r ∈ list
  noList : ∀ type, ∀ id ∈ gone type, s.resources type id = none
  members : ∀ type id list, s.resources type id = some list → ∀ r ∈ list, r < s.nextRecord

/-- The invariant. -/
structure Good (gone : Restype → List Nat) (s : Dri2State) : Prop extends Lists gone s where
  linked : ∀ q ∈ s.queue.requests, ∀ type id, owner (s.records q.record) type = some id →
    (s.records q.record).link type = some id
  known : ∀ q ∈ s.queue.requests, q.record < s.nextRecord
  nodup : (s.queue.requests.map QueueData.record).Nodup
  flips : ∀ e ∈ s.flips.requests, ∀ c, e.client = some c → c ∉ gone .client
  drawables : s.goneDrawables = gone .drawable

/-- The completions a function makes are for clients and drawables that are there. -/
def Answers (gone : Restype → List Nat) (s t : Dri2State) : Prop :=
  ∃ new, t.replies = new ++ s.replies ∧ ∀ reply ∈ new, Alive gone reply

/-- What the delivery of events does: it answers, takes entries out of the queue and
changes no record's owners. -/
structure Serves (gone : Restype → List Nat) (s t : Dri2State) : Prop where
  good : Good gone t
  answers : Answers gone s t
  entries : ∀ e ∈ t.queue.entries, e ∈ s.queue.entries
  owner : ∀ r, owner (t.records r) = owner (s.records r)
  nextRecord : t.nextRecord = s.nextRecord

/-- Only buffers, the kernel's side and the log change. -/
structure Quiet (s t : Dri2State) : Prop where
  queue : t.queue = s.queue
  records : t.records = s.records
  nextRecord : t.nextRecord = s.nextRecord
  resources : t.resources = s.resources
  flips : t.flips = s.flips
  goneDrawables : t.goneDrawables = s.goneDrawables
  replies : t.replies = s.replies

section Rules

variable {gone : Restype → List Nat} {s t u : Dri2State}

theorem Answers.refl (gone : Restype → List Nat) (s : Dri2State) : Answers gone s s :=
  ⟨[], rfl, by simp⟩

theorem Answers.of_eq (h : t.replies = s.replies) : Answers gone s t := ⟨[], h, by simp⟩

theorem Answers.trans (h : Answers gone s t) (h' : Answers gone t u) : Answers gone s u := by
  obtain ⟨new, heq, hnew⟩ := h
  obtain ⟨new', heq', hnew'⟩ := h'
  refine ⟨new' ++ new, by rw [heq', heq, List.append_assoc], fun reply hr => ?_⟩
  cases List.mem_append.mp hr with
  | inl hr => exact hnew' reply hr
  | inr hr => exact hnew reply hr

theorem Answers.reply {reply : Reply} (h : Alive gone reply) : Answers gone s (s.reply reply) := by
  refine ⟨[reply], rfl, fun r hr => ?_⟩
  rw [List.mem_singleton.mp hr]
  exact h

theorem Quiet.trans (h : Quiet s t) (h' : Quiet t u) : Quiet s u :=
  ⟨h'.queue.trans h.queue, h'.records.trans h.records, h'.nextRecord.trans h.nextRecord,
    h'.resources.trans h.resources, h'.flips.trans h.flips,
    h'.goneDrawables.trans h.goneDrawables, h'.replies.trans h.replies⟩

theorem Lists.congr (h : Lists gone s) (hrecords : t.records = s.records)
    (hnext : t.nextRecord = s.nextRecord) (hres : t.resources = s.resources) : Lists gone t where
  onList := by
    rw [hnext, hrecords, hres]
    exact h.onList
  noList := by
    rw [hres]
    exact h.noList
  members := by
    rw [hres, hnext]
    exact h.members

theorem Quiet.good (hq : Quiet s t) (h : Good gone s) : Good gone t where
  toLists := h.toLists.congr hq.records hq.nextRecord hq.resources
  linked := by
    rw [hq.queue, hq.records]
    exact h.linked
  known := by
    rw [hq.queue, hq.nextRecord]
    exact h.known
  nodup := by
    rw [hq.queue]
    exact h.nodup
  flips := by
    rw [hq.flips]
    exact h.flips
  drawables := hq.goneDrawables.trans h.drawables

theorem Quiet.serves (hq : Quiet s t) (h : Good gone s) : Serves gone s t where
  good := hq.good h
  answers := Answers.of_eq hq.replies
  entries := by
    rw [hq.queue]
    exact fun e hin => hin
  owner := by
    rw [hq.records]
    exact fun r => rfl
  nextRecord := hq.nextRecord

theorem Serves.refl (h : Good gone s) : Serves gone s s :=
  ⟨h, Answers.refl gone s, fun _ hin => hin, fun _ => rfl, rfl⟩

theorem Serves.trans (h : Serves gone s t) (h' : Serves gone t u) : Serves gone s u :=
  ⟨h'.good, h.answers.trans h'.answers, fun e hin => h.entries e (h'.entries e hin),
    fun r => (h'.owner r).trans (h.owner r), h'.nextRecord.trans h.nextRecord⟩

theorem Serves.requests (h : Serves gone s t) {q : QueueData} (hq : q ∈ t.queue.requests) :
    q ∈ s.queue.requests := by
  obtain ⟨e, he, rfl⟩ := List.mem_map.mp hq
  exact List.mem_map.mpr ⟨e, h.entries e he, rfl⟩

/-- A completion for owners that are there. -/
theorem Good.reply (h : Good gone s) {reply : Reply} (halive : Alive gone reply) :
    Serves gone s (s.reply reply) :=
  ⟨⟨h.toLists.congr rfl rfl rfl, h.linked, h.known, h.nodup, h.flips, h.drawables⟩,
    Answers.reply halive, fun _ hin => hin, fun _ => rfl, rfl⟩

theorem quiet_act (s : Dri2State) (a) : Quiet s (s.act a) := ⟨rfl, rfl, rfl, rfl, rfl, rfl, rfl⟩

theorem quiet_dropBuffer (s : Dri2State) (x : Resource) (buffer : Option Nat) :
    Quiet s (dropBuffer s x buffer) := by
  cases buffer <;> exact ⟨rfl, rfl, rfl, rfl, rfl, rfl, rfl⟩

/-- An owner of a queued record is not gone. -/
theorem Good.owner_alive (h : Good gone s) {q : QueueData} (hq : q ∈ s.queue.requests)
    (type : Restype) (id : Nat) (howner : owner (s.records q.record) type = some id) :
    id ∉ gone type := by
  intro hgone
  obtain ⟨list, hlist, -⟩ := h.onList q.record (h.known q hq) type id (h.linked q hq type id howner)
  rw [h.noList type id hgone] at hlist
  cases hlist

/-- An entry leaves the queue, and its record is then the record of no entry. -/
theorem Good.unlink (h : Good gone s) {k : Nat} {q : QueueData} (hfind : s.queue.find? k = some q) :
    Serves gone s { s with queue := s.queue.remove k } ∧
      ∀ q' ∈ (s.queue.remove k).requests, q'.record ≠ q.record := by
  have hperm := (Pending.perm_remove hfind).map QueueData.record
  have hnodup := hperm.nodup_iff.mp h.nodup
  rw [List.map_cons, List.nodup_cons] at hnodup
  have hsub : ∀ q' ∈ (s.queue.remove k).requests, q' ∈ s.queue.requests :=
    fun q' hin => Pending.mem_requests_of_remove hin
  refine ⟨⟨⟨h.toLists.congr rfl rfl rfl, fun q' hin => h.linked q' (hsub q' hin),
    fun q' hin => h.known q' (hsub q' hin), hnodup.2, h.flips, h.drawables⟩,
    Answers.of_eq rfl, fun e he => (Pending.mem_remove.mp he).1, fun _ => rfl, rfl⟩,
    fun q' hin heq => ?_⟩
  exact hnodup.1 (List.mem_map.mpr ⟨q', hin, heq⟩)

end Rules

/-! ## Resource lists -/

section ResourceLists

variable {gone : Restype → List Nat} {s : Dri2State} {r : Nat}

/-- What taking a record off a list does to the links. -/
theorem xorgListDel_link (s : Dri2State) (r r' : Nat) (type type' : Restype) :
    ((xorgListDel s r type).records r').link type' =
      if r' = r ∧ type' = type then none else (s.records r').link type' := by
  by_cases hr : r' = r
  · subst hr
    cases hlink : (s.records r').link type with
    | none =>
        have hsame : (xorgListDel s r' type).records = s.records := by
          simp [xorgListDel, Dri2State.act, hlink]
        rw [hsame]
        by_cases htype : type' = type
        · rw [if_pos ⟨rfl, htype⟩, htype, hlink]
        · rw [if_neg fun h => htype h.2]
    | some id =>
        by_cases htype : type' = type <;>
          simp [xorgListDel, Dri2State.act, Dri2State.touchAll, Dri2State.setRecord,
            Dri2State.setResource, hlink, htype]
  · rw [if_neg fun h => hr h.1]
    simp only [xorgListDel]
    split <;>
      simp [Dri2State.act, Dri2State.touchAll, Dri2State.setRecord, Dri2State.setResource, hr]

theorem xorgListDel_owner (s : Dri2State) (r r' : Nat) (type : Restype) :
    owner ((xorgListDel s r type).records r') = owner (s.records r') := by
  simp only [xorgListDel]
  split
  · rfl
  · funext type'
    by_cases hr : r' = r
    · subst hr
      cases type' <;>
        simp [owner, Dri2State.act, Dri2State.touchAll, Dri2State.setRecord, Dri2State.setResource]
    · simp [Dri2State.act, Dri2State.touchAll, Dri2State.setRecord, Dri2State.setResource, hr]

/-- The other fields stay. -/
theorem xorgListDel_rest (s : Dri2State) (r : Nat) (type : Restype) :
    Quiet s { xorgListDel s r type with records := s.records, resources := s.resources } := by
  simp only [xorgListDel]
  split <;> exact ⟨rfl, rfl, rfl, rfl, rfl, rfl, rfl⟩

/-- A list loses the record at most, and none is made. -/
theorem xorgListDel_lists (h : Lists gone s) (hr : r < s.nextRecord) (type : Restype) :
    Lists gone (xorgListDel s r type) := by
  have hnext : (xorgListDel s r type).nextRecord = s.nextRecord :=
    (xorgListDel_rest s r type).nextRecord
  have hat : ∀ type' id, (xorgListDel s r type).resources type' id = s.resources type' id ∨
      type' = type ∧ ∃ list, s.resources type' id = some list ∧
        (xorgListDel s r type).resources type' id = some (list.filter (· ≠ r)) := by
    intro type' id
    simp only [xorgListDel]
    split
    · exact Or.inl rfl
    · next id' hlink =>
        obtain ⟨list, hlist, -⟩ := h.onList r hr type id' hlink
        by_cases hhere : type' = type ∧ id = id'
        · obtain ⟨rfl, rfl⟩ := hhere
          right
          refine ⟨rfl, list, hlist, ?_⟩
          simp [setResource_apply, Dri2State.act, hlist]
        · left
          rw [setResource_apply, if_neg hhere]
          rfl
  constructor
  · intro r' hr' type' id hlink
    rw [xorgListDel_link] at hlink
    split at hlink
    · cases hlink
    · next hnot =>
        rw [hnext] at hr'
        obtain ⟨list, hlist, hmem⟩ := h.onList r' hr' type' id hlink
        cases hat type' id with
        | inl hsame => exact ⟨list, hsame.trans hlist, hmem⟩
        | inr hdel =>
            obtain ⟨htype, list', hlist', hdel⟩ := hdel
            rw [hlist] at hlist'
            cases hlist'
            refine ⟨_, hdel, List.mem_filter.mpr ⟨hmem, ?_⟩⟩
            simpa using fun heq : r' = r => hnot ⟨heq, htype⟩
  · intro type' id hgone
    have hnone := h.noList type' id hgone
    cases hat type' id with
    | inl hsame => exact hsame.trans hnone
    | inr hdel =>
        obtain ⟨-, list, hlist, -⟩ := hdel
        rw [hnone] at hlist
        cases hlist
  · intro type' id list hlist r' hmem
    rw [hnext]
    cases hat type' id with
    | inl hsame => exact h.members type' id list (hsame.symm.trans hlist) r' hmem
    | inr hdel =>
        obtain ⟨-, list', hlist', hdel⟩ := hdel
        rw [hdel] at hlist
        cases hlist
        exact h.members type' id list' hlist' r' (List.mem_of_mem_filter hmem)

/-- Only the lists and the links of a record that no entry has change. -/
theorem relinked_serves {t : Dri2State} (h : Good gone s)
    (hoff : ∀ q ∈ s.queue.requests, q.record ≠ r) (hlists : Lists gone t)
    (hrest : Quiet s { t with records := s.records, resources := s.resources })
    (howner : ∀ r', owner (t.records r') = owner (s.records r'))
    (hlink : ∀ r' type', r' ≠ r → (t.records r').link type' = (s.records r').link type') :
    Serves gone s t := by
  have hqueue : t.queue = s.queue := hrest.queue
  have hnext : t.nextRecord = s.nextRecord := hrest.nextRecord
  have hflips : t.flips = s.flips := hrest.flips
  refine ⟨⟨hlists, ?_, ?_, ?_, ?_, hrest.goneDrawables.trans h.drawables⟩,
    Answers.of_eq hrest.replies, ?_, howner, hnext⟩
  · intro q hq type' id ho
    rw [hqueue] at hq
    rw [howner] at ho
    rw [hlink q.record type' (hoff q hq)]
    exact h.linked q hq type' id ho
  · rw [hqueue, hnext]
    exact h.known
  · rw [hqueue]
    exact h.nodup
  · rw [hflips]
    exact h.flips
  · rw [hqueue]
    exact fun e he => he

/-- **A record that no entry has leaves a list.** -/
theorem xorgListDel_serves (h : Good gone s) (hr : r < s.nextRecord)
    (hoff : ∀ q ∈ s.queue.requests, q.record ≠ r) (type : Restype) :
    Serves gone s (xorgListDel s r type) := by
  refine relinked_serves h hoff (xorgListDel_lists h.toLists hr type) (xorgListDel_rest s r type)
    (fun r' => xorgListDel_owner s r r' type) fun r' type' hne => ?_
  rw [xorgListDel_link, if_neg fun hsame => hne hsame.1]

/-- **Freeing a record** that no entry has. -/
theorem msDri2DelFrameEvent_serves (h : Good gone s) (hr : r < s.nextRecord)
    (hoff : ∀ q ∈ s.queue.requests, q.record ≠ r) :
    Serves gone s (msDri2DelFrameEvent s r) := by
  have hclient := xorgListDel_serves h hr hoff .client
  have hboth := hclient.trans (xorgListDel_serves hclient.good (by rw [hclient.nextRecord]; exact hr)
    (fun q hq => hoff q (hclient.requests hq)) .drawable)
  exact hboth.trans ((((quiet_dropBuffer _ _ _).trans (quiet_dropBuffer _ _ _)).trans
    (quiet_act _ _)).serves hboth.good)

end ResourceLists

/-! ## Events -/

section Events

variable {gone : Restype → List Nat} {s : Dri2State} {r : Nat}

/-- The owners of a record that are there. -/
def OwnersAlive (gone : Restype → List Nat) (s : Dri2State) (r : Nat) : Prop :=
  ∀ type id, owner (s.records r) type = some id → id ∉ gone type

theorem Serves.ownersAlive {t : Dri2State} (h : Serves gone s t) (ho : OwnersAlive gone s r) :
    OwnersAlive gone t r := by
  intro type id howner
  rw [h.owner] at howner
  exact ho type id howner

/-- A blit is completed for the record's client. -/
theorem blitSwap_serves (h : Good gone s) (ho : OwnersAlive gone s r) {drawable : Nat}
    (hd : drawable ∉ gone .drawable) (msc usec : UInt64) :
    Serves gone s (blitSwap s r drawable msc usec) := by
  have htouch := (quiet_act s (.touch (.record r))).serves h
  exact htouch.trans (htouch.good.reply ⟨fun c hc => ho .client c hc, hd⟩)

/-- A flip is started for the record's client. -/
theorem msDri2ScheduleFlip_serves (h : Good gone s) (ho : OwnersAlive gone s r) (drawable : Nat)
    (o : FlipOutcome) {flushed : Dri2State → Dri2State}
    (hflush : ∀ s, Good gone s → Serves gone s (flushed s)) :
    Serves gone s (msDri2ScheduleFlip s r drawable o flushed).1 := by
  unfold msDri2ScheduleFlip
  cases o.callocOk with
  | false => exact Serves.refl h
  | true =>
      have htouch := (quiet_act s (.touch (.record r))).serves h
      have hflushed := htouch.trans (hflush _ htouch.good)
      have hgood := hflushed.good
      generalize flushed (s.act (.touch (.record r))) = t at hflushed hgood ⊢
      have hqueued : Serves gone s
          { t with flips := t.flips.alloc ⟨drawable, (s.records r).client⟩ } := by
        refine ⟨⟨hgood.toLists.congr rfl rfl rfl, hgood.linked, hgood.known, hgood.nodup,
          fun e he c hc => ?_, hgood.drawables⟩, hflushed.answers, hflushed.entries,
          hflushed.owner, hflushed.nextRecord⟩
        cases List.mem_cons.mp he with
        | inl hnew =>
            subst hnew
            exact ho .client c hc
        | inr hold => exact hgood.flips e hold c hc
      cases o.doPageflipOk with
      | true => exact hqueued
      | false =>
          cases o.halfQueued with
          | true => exact hqueued
          | false => exact hflushed

theorem completeFrameEvent_serves (h : Good gone s) (ho : OwnersAlive gone s r) {drawable : Nat}
    (hd : drawable ∉ gone .drawable) (msc usec : UInt64) (o : FlipOutcome)
    {flushed : Dri2State → Dri2State} (hflush : ∀ s, Good gone s → Serves gone s (flushed s)) :
    Serves gone s (completeFrameEvent s r drawable msc usec o flushed) := by
  unfold completeFrameEvent
  split
  · have hflip := msDri2ScheduleFlip_serves h ho drawable o hflush
    split
    · generalize msDri2ScheduleFlip s r drawable o flushed = out at hflip ⊢
      obtain ⟨t, started⟩ := out
      cases started with
      | true => exact hflip.trans ((quiet_act t _).serves hflip.good)
      | false =>
          exact hflip.trans (blitSwap_serves hflip.good (hflip.ownersAlive ho) hd msc usec)
    · exact blitSwap_serves h ho hd msc usec
  · exact blitSwap_serves h ho hd msc usec
  · cases hclient : (s.records r).client with
    | none => exact Serves.refl h
    | some client => exact h.reply ⟨ho .client client hclient, hd⟩

/-- **The handler of a frame event** whose entry has left the queue. -/
theorem msDri2FrameEventHandler_serves (h : Good gone s) (hr : r < s.nextRecord)
    (hoff : ∀ q ∈ s.queue.requests, q.record ≠ r) (ho : OwnersAlive gone s r)
    (msc usec : UInt64) (o : FlipOutcome) {flushed : Dri2State → Dri2State}
    (hflush : ∀ s, Good gone s → Serves gone s (flushed s)) :
    Serves gone s (msDri2FrameEventHandler s r msc usec o flushed) := by
  unfold msDri2FrameEventHandler
  have htouch := (quiet_act s (.touch (.record r))).serves h
  have hfree : ∀ t, Serves gone s t → Serves gone s (msDri2DelFrameEvent t r) := by
    intro t ht
    exact ht.trans (msDri2DelFrameEvent_serves ht.good (by rw [ht.nextRecord]; exact hr)
      fun q hq => hoff q (ht.requests hq))
  cases hdrawable : (s.records r).drawable with
  | none =>
      have hnone : ((s.act (.touch (.record r))).records r).drawable = none := hdrawable
      simp only [hnone]
      exact hfree _ htouch
  | some drawable =>
      have hsome : ((s.act (.touch (.record r))).records r).drawable = some drawable := hdrawable
      simp only [hsome]
      apply hfree
      exact htouch.trans (completeFrameEvent_serves htouch.good (htouch.ownersAlive ho)
        (ho .drawable drawable hdrawable) msc usec o hflush)

/-- The completion of a flip whose event names nobody that has gone. -/
theorem msDri2FlipHandler_serves (h : Good gone s) {event : FlipEvent}
    (hclient : ∀ c, event.client = some c → c ∉ gone .client) (msc ust : UInt64) :
    Serves gone s (msDri2FlipHandler s event msc ust) := by
  unfold msDri2FlipHandler
  split
  · exact Serves.refl h
  · next hd =>
      rw [h.drawables] at hd
      exact h.reply ⟨hclient, hd⟩

/-- The event of a flip leaves the table of flips. -/
theorem Good.removeFlip (h : Good gone s) (k : Nat) :
    Serves gone s { s with flips := s.flips.remove k } :=
  ⟨⟨h.toLists.congr rfl rfl rfl, h.linked, h.known, h.nodup,
    fun e he => h.flips e (Pending.mem_requests_of_remove he), h.drawables⟩,
    Answers.of_eq rfl, fun _ hin => hin, fun _ => rfl, rfl⟩

theorem msDrmAbortSeq_serves (h : Good gone s) (k : Nat) :
    Serves gone s (msDrmAbortSeq s k) := by
  unfold msDrmAbortSeq
  cases hfind : s.queue.find? k with
  | none => exact Serves.refl h
  | some q =>
      obtain ⟨hunlinked, hoff⟩ := h.unlink hfind
      exact hunlinked.trans (msDri2DelFrameEvent_serves hunlinked.good
        (h.known q (Pending.find?_mem hfind)) hoff)

mutual

/-- **Delivery of events** completes requests only for who is there. -/
theorem deliver_serves : ∀ (d : Delivery) (s : Dri2State), Good gone s →
    Serves gone s (Delivery.deliver d s)
  | .vblank k frame is64bit usec o flushed, s, h => by
      rw [Delivery.deliver]
      have hkernel : Serves gone s (leaveKernel s k) :=
        Quiet.serves ⟨rfl, rfl, rfl, rfl, rfl, rfl, rfl⟩ h
      split
      · cases hfind : s.queue.find? k with
        | none => exact hkernel
        | some q =>
            have hin : q ∈ s.queue.requests := Pending.find?_mem hfind
            have hfind' : (leaveKernel s k).queue.find? k = some q := hfind
            obtain ⟨hremoved, hoff⟩ := hkernel.good.unlink hfind'
            have hunlinked : Serves gone (leaveKernel s k)
                (unlinkEvent (leaveKernel s k) k q frame is64bit).1 :=
              hremoved.trans (Quiet.serves ⟨rfl, rfl, rfl, rfl, rfl, rfl, rfl⟩ hremoved.good)
            have hentered := hkernel.trans hunlinked
            have howners : OwnersAlive gone s q.record := h.owner_alive hin
            exact hentered.trans (msDri2FrameEventHandler_serves hentered.good (h.known q hin) hoff
              (hentered.ownersAlive howners) _ usec o fun s hs => deliverAll_serves flushed s hs)
      · exact Serves.refl h
  | .flip k msc ust, s, h => by
      rw [Delivery.deliver]
      cases hfind : s.flips.find? k with
      | none => exact Serves.refl h
      | some event =>
          have hremoved := h.removeFlip k
          exact hremoved.trans (msDri2FlipHandler_serves hremoved.good
            (h.flips event (Pending.find?_mem hfind)) msc ust)

theorem deliverAll_serves : ∀ (ds : List Delivery) (s : Dri2State), Good gone s →
    Serves gone s (deliverAll ds s)
  | [], s, h => by
      rw [deliverAll]
      exact Serves.refl h
  | d :: ds, s, h => by
      rw [deliverAll]
      have hfirst := deliver_serves d s h
      exact hfirst.trans (deliverAll_serves ds _ hfirst.good)

end

end Events

/-! ## Scheduling -/

section Scheduling

variable {gone : Restype → List Nat} {s t : Dri2State} {r : Nat}

/-- What a function that also enters requests keeps. -/
structure Done (gone : Restype → List Nat) (s t : Dri2State) : Prop where
  good : Good gone t
  answers : Answers gone s t

theorem Serves.done (h : Serves gone s t) : Done gone s t := ⟨h.good, h.answers⟩

theorem Done.trans {u : Dri2State} (h : Done gone s t) (h' : Done gone t u) : Done gone s u :=
  ⟨h'.good, h.answers.trans h'.answers⟩

/-- A record that its scheduling function holds, registered with owners that are
there. -/
structure Held (gone : Restype → List Nat) (s : Dri2State) (r : Nat) : Prop where
  known : r < s.nextRecord
  off : ∀ q ∈ s.queue.requests, q.record ≠ r
  alive : OwnersAlive gone s r
  linked : ∀ type id, owner (s.records r) type = some id → (s.records r).link type = some id

theorem Held.quiet (h : Held gone s r) (hq : Quiet s t) : Held gone t r where
  known := by
    rw [hq.nextRecord]
    exact h.known
  off := by
    rw [hq.queue]
    exact h.off
  alive := by
    unfold OwnersAlive
    rw [hq.records]
    exact h.alive
  linked := by
    rw [hq.records]
    exact h.linked

/-- An entry that is aborted is gone. -/
theorem msDrmAbortSeq_gone (h : Good gone s) (k : Nat) :
    ∀ e ∈ (msDrmAbortSeq s k).queue.entries, e.1 ≠ k := by
  intro e he hk
  unfold msDrmAbortSeq at he
  cases hfind : s.queue.find? k with
  | none =>
      rw [hfind] at he
      exact Pending.find?_eq_none.mp hfind (List.mem_map.mpr ⟨e, he, hk⟩)
  | some q =>
      rw [hfind] at he
      obtain ⟨hunlinked, hoff⟩ := h.unlink hfind
      have hserves := msDri2DelFrameEvent_serves hunlinked.good
        (h.known q (Pending.find?_mem hfind)) hoff
      exact (Pending.mem_remove.mp (hserves.entries e he)).2 hk

/-- The loop of `ms_queue_vblank`; when it gives up the entry is gone. -/
theorem msQueueVblank_serves (crtc seq : Nat) (turns : List QueueTurn) (h : Good gone s) :
    Serves gone s (msQueueVblank s crtc seq turns).1 ∧
      ((msQueueVblank s crtc seq turns).2 = .refused →
        ∀ e ∈ (msQueueVblank s crtc seq turns).1.queue.entries, e.1 ≠ seq) := by
  induction turns generalizing s with
  | nil => exact ⟨Serves.refl h, fun hno => by cases hno⟩
  | cons turn turns ih =>
      rw [msQueueVblank]
      split
      · exact ⟨Quiet.serves ⟨rfl, rfl, rfl, rfl, rfl, rfl, rfl⟩ h, fun hno => by cases hno⟩
      · next api e hround =>
          have hflags : Serves gone s { s with queueSequence := api } :=
            Quiet.serves ⟨rfl, rfl, rfl, rfl, rfl, rfl, rfl⟩ h
          simp only
          split
          · exact ⟨hflags.trans (msDrmAbortSeq_serves hflags.good seq),
              fun _ => msDrmAbortSeq_gone hflags.good seq⟩
          · have hflushed := hflags.trans (deliverAll_serves turn.flushed _ hflags.good)
            obtain ⟨hrest, hgone⟩ := ih hflushed.good
            exact ⟨hflushed.trans hrest, hgone⟩

/-- The held record gets an entry. -/
theorem Good.alloc (h : Good gone s) (hh : Held gone s r) (crtc : Nat)
    (requests : List (QueueFlag × UInt64)) :
    Done gone s { s with queue := s.queue.alloc ⟨crtc, r⟩, requests := requests } := by
  refine ⟨⟨h.toLists.congr rfl rfl rfl, fun q hq => ?_, fun q hq => ?_, ?_, h.flips,
    h.drawables⟩, Answers.of_eq rfl⟩
  · cases List.mem_cons.mp hq with
    | inl hnew =>
        subst hnew
        exact hh.linked
    | inr hold => exact h.linked q hold
  · cases List.mem_cons.mp hq with
    | inl hnew =>
        subst hnew
        exact hh.known
    | inr hold => exact h.known q hold
  · show (r :: s.queue.requests.map QueueData.record).Nodup
    refine List.nodup_cons.mpr ⟨fun hin => ?_, h.nodup⟩
    obtain ⟨q, hq, hqr⟩ := List.mem_map.mp hin
    exact hh.off q hq hqr

/-- What `queueFrameEvent` leaves: unless the request is outstanding, no entry has the
record. -/
theorem queueFrameEvent_done (h : Good gone s) (hh : Held gone s r) (crtc : Nat)
    (flags : QueueFlag) (msc : UInt64) (allocOk : Bool) (turns : List QueueTurn) :
    let out := queueFrameEvent s r crtc flags msc allocOk turns
    Done gone s out.1 ∧ r < out.1.nextRecord ∧
      (out.2 = none ∨ out.2 = some .refused →
        ∀ q ∈ out.1.queue.requests, q.record ≠ r) := by
  intro out
  simp only [out, queueFrameEvent]
  cases allocOk with
  | false => exact ⟨(Serves.refl h).done, hh.known, fun _ => hh.off⟩
  | true =>
      have halloc := h.alloc hh crtc ((flags, msc) :: s.requests)
      obtain ⟨hloop, hgone⟩ := msQueueVblank_serves crtc s.queue.next turns halloc.good
      refine ⟨halloc.trans hloop.done, ?_, fun hend q hq hqr => ?_⟩
      · show r < (msQueueVblank _ crtc s.queue.next turns).1.nextRecord
        rw [hloop.nextRecord]
        exact hh.known
      · have hleft := hgone <| by
          cases hend with
          | inl hnone => cases hnone
          | inr hsome => exact Option.some.inj hsome
        obtain ⟨e, he, rfl⟩ := List.mem_map.mp hq
        have hold := hloop.entries e he
        cases List.mem_cons.mp hold with
        | inl hnew => exact hleft e he (by rw [hnew])
        | inr hin => exact hh.off e.2 (List.mem_map.mpr ⟨e, hin, rfl⟩) hqr

/-- The fields of a record other than its owners and links are set. -/
theorem Good.setRecord (h : Good gone s) (info : FrameEvent)
    (howner : owner info = owner (s.records r)) (hlink : info.link = (s.records r).link) :
    Done gone s (s.setRecord r info) ∧ (Held gone s r → Held gone (s.setRecord r info) r) := by
  have howners : ∀ r', owner ((s.setRecord r info).records r') = owner (s.records r') := by
    intro r'
    by_cases hr : r' = r
    · subst hr
      simpa [Dri2State.setRecord] using howner
    · simp [Dri2State.setRecord, hr]
  have hlinks : ∀ r', ((s.setRecord r info).records r').link = (s.records r').link := by
    intro r'
    by_cases hr : r' = r
    · subst hr
      simpa [Dri2State.setRecord] using hlink
    · simp [Dri2State.setRecord, hr]
  refine ⟨⟨⟨⟨fun r' hr' type id hl => ?_, h.noList, h.members⟩, fun q hq type id ho => ?_, h.known,
    h.nodup, h.flips, h.drawables⟩, Answers.of_eq rfl⟩,
    fun hh => ⟨hh.known, hh.off, fun type id ho => ?_, fun type id ho => ?_⟩⟩
  · rw [hlinks] at hl
    exact h.onList r' hr' type id hl
  · rw [howners] at ho
    rw [hlinks]
    exact h.linked q hq type id ho
  · rw [howners] at ho
    exact hh.alive type id ho
  · rw [howners] at ho
    rw [hlinks]
    exact hh.linked type id ho

/-- A list that is there or made for an owner that is there. -/
theorem msGetResource_serves (h : Good gone s) {id : Nat} {type : Restype} (hid : id ∉ gone type)
    (a : Registration) :
    Serves gone s (msGetResource s id type a).1 ∧
      (msGetResource s id type a).1.records = s.records ∧
      ((msGetResource s id type a).2 = true →
        ∃ list, (msGetResource s id type a).1.resources type id = some list) := by
  unfold msGetResource
  cases hlist : s.resources type id with
  | some list => exact ⟨Serves.refl h, rfl, fun _ => ⟨list, hlist⟩⟩
  | none =>
      have hmade : Serves gone s (s.setResource type id (some [])) := by
        refine ⟨⟨⟨fun r' hr' type' id' hl => ?_, fun type' id' hgone => ?_,
          fun type' id' list hl r' hr' => ?_⟩, h.linked, h.known, h.nodup, h.flips, h.drawables⟩,
          Answers.of_eq rfl, fun _ he => he, fun _ => rfl, rfl⟩
        · obtain ⟨list, hin, hmem⟩ := h.onList r' hr' type' id' hl
          refine ⟨list, ?_, hmem⟩
          rw [setResource_apply, if_neg]
          · exact hin
          · rintro ⟨rfl, rfl⟩
            rw [hlist] at hin
            cases hin
        · rw [setResource_apply, if_neg]
          · exact h.noList type' id' hgone
          · rintro ⟨rfl, rfl⟩
            exact hid hgone
        · rw [setResource_apply] at hl
          split at hl
          · cases hl
            cases hr'
          · exact h.members type' id' list hl r' hr'
      cases a.mallocOk with
      | false => exact ⟨Serves.refl h, rfl, fun hno => by cases hno⟩
      | true =>
          cases a.addResourceOk with
          | false => exact ⟨Serves.refl h, rfl, fun hno => by cases hno⟩
          | true =>
              refine ⟨hmade, rfl, fun _ => ⟨[], ?_⟩⟩
              show (s.setResource type id (some [])).resources type id = _
              rw [setResource_apply, if_pos ⟨rfl, rfl⟩]

/-- What putting a record on a list does to the links. -/
theorem xorgListAdd_link (s : Dri2State) (r r' id : Nat) (type type' : Restype) :
    ((xorgListAdd s r type id).records r').link type' =
      if r' = r ∧ type' = type then some id else (s.records r').link type' := by
  by_cases hr : r' = r
  · subst hr
    by_cases htype : type' = type <;>
      simp [xorgListAdd, Dri2State.act, Dri2State.touchAll, Dri2State.setRecord,
        Dri2State.setResource, htype]
  · rw [if_neg fun h => hr h.1]
    simp [xorgListAdd, Dri2State.act, Dri2State.touchAll, Dri2State.setRecord,
      Dri2State.setResource, hr]

theorem xorgListAdd_owner (s : Dri2State) (r r' id : Nat) (type : Restype) :
    owner ((xorgListAdd s r type id).records r') = owner (s.records r') := by
  funext type'
  by_cases hr : r' = r
  · subst hr
    cases type' <;>
      simp [owner, xorgListAdd, Dri2State.act, Dri2State.touchAll, Dri2State.setRecord,
        Dri2State.setResource]
  · simp [xorgListAdd, Dri2State.act, Dri2State.touchAll, Dri2State.setRecord,
      Dri2State.setResource, hr]

/-- The other fields stay. -/
theorem xorgListAdd_rest (s : Dri2State) (r id : Nat) (type : Restype) :
    Quiet s { xorgListAdd s r type id with records := s.records, resources := s.resources } := by
  constructor <;> rfl

/-- A list that is there gains the record. -/
theorem xorgListAdd_lists (h : Lists gone s) (hr : r < s.nextRecord) {type : Restype} {id : Nat}
    (hid : id ∉ gone type) : Lists gone (xorgListAdd s r type id) := by
  have hnext : (xorgListAdd s r type id).nextRecord = s.nextRecord :=
    (xorgListAdd_rest s r id type).nextRecord
  have hat : ∀ type' id', (xorgListAdd s r type id).resources type' id' =
      if type' = type ∧ id' = id then some (r :: (s.resources type id).getD [])
      else s.resources type' id' := by
    intro type' id'
    simp only [xorgListAdd]
    rw [setResource_apply]
    rfl
  constructor
  · intro r' hr' type' id' hl
    rw [hnext] at hr'
    rw [xorgListAdd_link] at hl
    rw [hat]
    split at hl
    · next hhere =>
        obtain ⟨rfl, rfl⟩ := hhere
        cases hl
        exact ⟨_, if_pos ⟨rfl, rfl⟩, List.mem_cons_self⟩
    · obtain ⟨list, hin, hmem⟩ := h.onList r' hr' type' id' hl
      split
      · next hhere =>
          obtain ⟨rfl, rfl⟩ := hhere
          refine ⟨_, rfl, List.mem_cons_of_mem r ?_⟩
          rw [hin]
          exact hmem
      · exact ⟨list, hin, hmem⟩
  · intro type' id' hgone
    rw [hat, if_neg]
    · exact h.noList type' id' hgone
    · rintro ⟨rfl, rfl⟩
      exact hid hgone
  · intro type' id' list hl r' hr'
    rw [hnext]
    rw [hat] at hl
    split at hl
    · cases hl
      cases List.mem_cons.mp hr' with
      | inl hself => exact hself ▸ hr
      | inr hin =>
          cases hlist : s.resources type id with
          | none =>
              rw [hlist] at hin
              cases hin
          | some list =>
              rw [hlist] at hin
              exact h.members type id list hlist r' hin
    · exact h.members type' id' list hl r' hr'

/-- A record that no entry has goes on a list. -/
theorem xorgListAdd_serves (h : Good gone s) (hr : r < s.nextRecord)
    (hoff : ∀ q ∈ s.queue.requests, q.record ≠ r) {type : Restype} {id : Nat}
    (hid : id ∉ gone type) : Serves gone s (xorgListAdd s r type id) := by
  refine relinked_serves h hoff (xorgListAdd_lists h.toLists hr hid)
    (xorgListAdd_rest s r id type) (fun r' => xorgListAdd_owner s r r' id type)
    fun r' type' hne => ?_
  rw [xorgListAdd_link, if_neg fun hsame => hne hsame.1]

/-- **Registering a record** with a client and a drawable that are there. -/
theorem msDri2AddFrameEvent_serves (h : Good gone s) (hr : r < s.nextRecord)
    (hoff : ∀ q ∈ s.queue.requests, q.record ≠ r) {client drawable : Nat}
    (hclient : client ∉ gone .client) (hdrawable : drawable ∉ gone .drawable)
    (a b : Registration) :
    Serves gone s (msDri2AddFrameEvent s r client drawable a b).1 ∧
      ((msDri2AddFrameEvent s r client drawable a b).2 = true →
        ((msDri2AddFrameEvent s r client drawable a b).1.records r).link .client = some client ∧
        ((msDri2AddFrameEvent s r client drawable a b).1.records r).link .drawable =
          some drawable) := by
  simp only [msDri2AddFrameEvent]
  obtain ⟨hfirst, -, -⟩ := msGetResource_serves h hclient a
  generalize msGetResource s client .client a = out at hfirst ⊢
  obtain ⟨t, ok⟩ := out
  simp only at hfirst
  cases ok with
  | false => exact ⟨hfirst, fun hno => by cases hno⟩
  | true =>
      have hr₁ : r < t.nextRecord := hfirst.nextRecord ▸ hr
      have hadd := hfirst.trans (xorgListAdd_serves hfirst.good hr₁
        (fun q hq => hoff q (hfirst.requests hq)) hclient)
      obtain ⟨hsecond, hrecords, -⟩ := msGetResource_serves hadd.good hdrawable b
      simp only
      generalize msGetResource (xorgListAdd t r .client client) drawable .drawable b = out
        at hsecond hrecords ⊢
      obtain ⟨u, ok⟩ := out
      simp only at hsecond hrecords
      have hboth := hadd.trans hsecond
      have hr₂ : r < u.nextRecord := hboth.nextRecord ▸ hr
      have hoff₂ : ∀ q ∈ u.queue.requests, q.record ≠ r := fun q hq => hoff q (hboth.requests hq)
      cases ok with
      | false =>
          exact ⟨hboth.trans (xorgListDel_serves hboth.good hr₂ hoff₂ .client),
            fun hno => by cases hno⟩
      | true =>
          refine ⟨hboth.trans (xorgListAdd_serves hboth.good hr₂ hoff₂ hdrawable), fun _ => ?_⟩
          simp only [xorgListAdd_link]
          rw [hrecords, xorgListAdd_link]
          simp

/-- A new record. -/
theorem newRecord_done (h : Good gone s) {info : FrameEvent} (hlink : info.link = fun _ => none) :
    Done gone s (newRecord s info) := by
  have hother : ∀ r', r' < s.nextRecord → (newRecord s info).records r' = s.records r' := by
    intro r' hr'
    simp [newRecord, Dri2State.setRecord, Dri2State.act, Nat.ne_of_lt hr']
  have hself : (newRecord s info).records s.nextRecord = info := by
    simp [newRecord, Dri2State.setRecord, Dri2State.act]
  refine ⟨⟨⟨fun r' hr' type id hl => ?_, h.noList, fun type id list hl r' hr' =>
    Nat.lt_succ_of_lt (h.members type id list hl r' hr')⟩, fun q hq type id ho => ?_,
    fun q hq => Nat.lt_succ_of_lt (h.known q hq), h.nodup, h.flips, h.drawables⟩,
    Answers.of_eq rfl⟩
  · cases Nat.lt_succ_iff_lt_or_eq.mp hr' with
    | inl hlt =>
        rw [hother r' hlt] at hl
        exact h.onList r' hlt type id hl
    | inr heq =>
        rw [heq, hself, hlink] at hl
        cases hl
  · rw [hother _ (h.known q hq)] at ho ⊢
    exact h.linked q hq type id ho

/-- `blit_fallback` for a client and a drawable that are there. -/
theorem blitFallback_done (h : Good gone s) (c : SwapCall) (hclient : c.client ∉ gone .client)
    (hdraw : c.draw ∉ gone .drawable) (frameInfo : Option Nat)
    (hr : ∀ r ∈ frameInfo, r < s.nextRecord ∧ ∀ q ∈ s.queue.requests, q.record ≠ r) :
    Done gone s (blitFallback s c frameInfo).1 := by
  have hreply : Serves gone s
      (s.reply (.swapComplete (some c.client) c.draw (Stamp.of 0 0) .blit)) :=
    h.reply ⟨fun c' hc' => Option.some.inj hc' ▸ hclient, hdraw⟩
  cases frameInfo with
  | none => exact hreply.done
  | some r =>
      obtain ⟨hknown, hoff⟩ := hr r rfl
      exact (hreply.trans (msDri2DelFrameEvent_serves hreply.good hknown hoff)).done

theorem quiet_getCrtcUstMsc (s : Dri2State) (crtc : Nat) (answer : GetAnswer) :
    Quiet s (getCrtcUstMsc s crtc answer).1 := ⟨rfl, rfl, rfl, rfl, rfl, rfl, rfl⟩

/-- A swap with its record registered. -/
theorem swapFromQuery_done (h : Good gone s) (hh : Held gone s r) (c : SwapCall)
    (hclient : c.client ∉ gone .client) (hdraw : c.draw ∉ gone .drawable) (crtc : Nat) :
    Done gone s (swapFromQuery s c crtc r).1 := by
  have hquery := quiet_getCrtcUstMsc s crtc c.getMsc
  have hgot := (hquery.serves h).done
  have hheld := hh.quiet hquery
  unfold swapFromQuery
  generalize getCrtcUstMsc s crtc c.getMsc = out at hgot hheld ⊢
  obtain ⟨t, current⟩ := out
  cases current with
  | none =>
      exact hgot.trans (blitFallback_done hgot.good c hclient hdraw (some r)
        fun r' hr' => Option.some.inj hr' ▸ ⟨hheld.known, hheld.off⟩)
  | some current =>
      simp only
      -- the type of the record is set for a flip
      have hmark : ∀ u, u = (if c.canFlip then (t.act (.touch (.record r))).setRecord r
          { t.records r with type := .queueFlip } else t) →
          Done gone s u ∧ Held gone u r := by
        intro u hu
        cases hflip : c.canFlip with
        | false =>
            rw [hflip] at hu
            exact hu ▸ ⟨hgot, hheld⟩
        | true =>
            rw [hflip] at hu
            have htouch := quiet_act t (.touch (.record r))
            have hset := (htouch.good hgot.good).setRecord (r := r)
              { t.records r with type := .queueFlip }
              (by funext type; cases type <;> rfl) rfl
            exact hu ▸ ⟨(hgot.trans (htouch.serves hgot.good).done).trans hset.1,
              hset.2 (hheld.quiet htouch)⟩
      obtain ⟨hmarked, hheldMarked⟩ := hmark _ rfl
      obtain ⟨hqueued, hknown, hoff⟩ := queueFrameEvent_done hmarked.good hheldMarked crtc
        ⟨false, !c.canFlip⟩
        (swapRequest current.msc c.targetMsc c.divisor c.remainder c.canFlip) c.queueAllocOk c.turns
      have hall := hmarked.trans hqueued
      generalize queueFrameEvent _ r crtc _ _ c.queueAllocOk c.turns = out at hall hknown hoff ⊢
      obtain ⟨u, result⟩ := out
      simp only at hall hknown hoff
      have hfallback : (result = none ∨ result = some .refused) →
          Done gone s (blitFallback u c (some r)).1 := fun hend =>
        hall.trans (blitFallback_done hall.good c hclient hdraw (some r)
          fun r' hr' => Option.some.inj hr' ▸ ⟨hknown, hoff hend⟩)
      cases result with
      | none => exact hfallback (Or.inl rfl)
      | some result =>
          cases result with
          | queued m => exact hall.trans ((quiet_act u _).serves hall.good).done
          | refused => exact hfallback (Or.inr rfl)
          | looping => exact hall

/-- A new record that its client and its drawable are told of. -/
theorem register_done (h : Good gone s) (info : FrameEvent) (hlink : info.link = fun _ => none)
    {client drawable : Nat} (howner : info.client = some client ∧ info.drawable = some drawable)
    (hclient : client ∉ gone .client) (hdrawable : drawable ∉ gone .drawable)
    (a b : Registration) :
    let out := msDri2AddFrameEvent (newRecord s info) s.nextRecord client drawable a b
    Done gone s out.1 ∧ (out.2 = true → Held gone out.1 s.nextRecord) := by
  intro out
  have hnew := newRecord_done h hlink
  have hknown : s.nextRecord < (newRecord s info).nextRecord := Nat.lt_succ_self _
  have hoff : ∀ q ∈ (newRecord s info).queue.requests, q.record ≠ s.nextRecord :=
    fun q hq heq => Nat.lt_irrefl _ (heq ▸ h.known q hq)
  have hself : (newRecord s info).records s.nextRecord = info := by
    simp [newRecord, Dri2State.setRecord, Dri2State.act]
  obtain ⟨hadd, hlinks⟩ := msDri2AddFrameEvent_serves hnew.good hknown hoff hclient hdrawable a b
  have howners : ∀ type id, owner (out.1.records s.nextRecord) type = some id →
      (type = .client ∧ id = client) ∨ (type = .drawable ∧ id = drawable) := by
    intro type id ho
    rw [hadd.owner, hself] at ho
    cases type with
    | client => exact Or.inl ⟨rfl, Option.some.inj (ho.symm.trans howner.1)⟩
    | drawable => exact Or.inr ⟨rfl, Option.some.inj (ho.symm.trans howner.2)⟩
  refine ⟨hnew.trans hadd.done, fun hok => ⟨hadd.nextRecord ▸ hknown,
    fun q hq => hoff q (hadd.requests hq), fun type id ho => ?_, fun type id ho => ?_⟩⟩
  · rcases howners type id ho with ⟨rfl, rfl⟩ | ⟨rfl, rfl⟩
    · exact hclient
    · exact hdrawable
  · rcases howners type id ho with ⟨rfl, rfl⟩ | ⟨rfl, rfl⟩
    · exact (hlinks hok).1
    · exact (hlinks hok).2

/-- **`ms_dri2_schedule_swap`.** -/
theorem msDri2ScheduleSwap_done (h : Good gone s) (c : SwapCall)
    (hclient : c.client ∉ gone .client) (hdraw : c.draw ∉ gone .drawable) :
    Done gone s (msDri2ScheduleSwap s c).1 := by
  have hnone : ∀ t, Done gone s t → Done gone s (blitFallback t c none).1 := fun t ht =>
    ht.trans (blitFallback_done ht.good c hclient hdraw none fun r hr => by cases hr)
  unfold msDri2ScheduleSwap
  cases c.covering with
  | none => exact hnone s (Serves.refl h).done
  | some crtc =>
      cases c.callocOk with
      | false => exact hnone s (Serves.refl h).done
      | true =>
          simp only [Bool.not_true, Bool.false_eq_true, if_false]
          obtain ⟨hadd, hheld⟩ := register_done h ⟨some c.draw, some c.client, .queueSwap,
            some c.front, some c.back, fun _ => none⟩ rfl ⟨rfl, rfl⟩ hclient hdraw
            c.registerClient c.registerDrawable
          generalize msDri2AddFrameEvent _ s.nextRecord c.client c.draw c.registerClient
            c.registerDrawable = out at hadd hheld ⊢
          obtain ⟨t, registered⟩ := out
          simp only at hadd hheld
          cases registered with
          | false =>
              exact hnone _ (hadd.trans ((quiet_act t _).serves hadd.good).done)
          | true =>
              have hrefs : Quiet t (msDri2ReferenceBuffer (msDri2ReferenceBuffer t
                  (.front s.nextRecord) c.front) (.back s.nextRecord) c.back) :=
                ⟨rfl, rfl, rfl, rfl, rfl, rfl, rfl⟩
              have hready := hadd.trans (hrefs.serves hadd.good).done
              exact hready.trans (swapFromQuery_done hready.good ((hheld rfl).quiet hrefs) c
                hclient hdraw crtc)

/-- **`ms_dri2_schedule_wait_msc`.** -/
theorem msDri2ScheduleWaitMsc_done (h : Good gone s) (c : WaitCall)
    (hclient : c.client ∉ gone .client) (hdraw : c.draw ∉ gone .drawable) :
    Done gone s (msDri2ScheduleWaitMsc s c) := by
  have hcomplete : ∀ t m, Done gone s t → Done gone s (outComplete t c m) := by
    intro t m ht
    have halive : Alive gone (.waitMscComplete c.client c.draw (Stamp.of m 0)) := ⟨hclient, hdraw⟩
    exact ht.trans (ht.good.reply halive).done
  unfold msDri2ScheduleWaitMsc
  cases c.covering with
  | none => exact hcomplete s _ (Serves.refl h).done
  | some crtc =>
      cases c.callocOk with
      | false => exact hcomplete s _ (Serves.refl h).done
      | true =>
          simp only [Bool.not_true, Bool.false_eq_true, if_false]
          obtain ⟨hadd, hheld⟩ := register_done h ⟨some c.draw, some c.client, .waitMsc,
            none, none, fun _ => none⟩ rfl ⟨rfl, rfl⟩ hclient hdraw
            c.registerClient c.registerDrawable
          generalize msDri2AddFrameEvent _ s.nextRecord c.client c.draw c.registerClient
            c.registerDrawable = out at hadd hheld ⊢
          obtain ⟨t, registered⟩ := out
          simp only at hadd hheld
          cases registered with
          | false => exact hcomplete _ _ (hadd.trans ((quiet_act t _).serves hadd.good).done)
          | true =>
              have hquery := quiet_getCrtcUstMsc t crtc c.getMsc
              have hgot := hadd.trans (hquery.serves hadd.good).done
              have hheld' := (hheld rfl).quiet hquery
              simp only [waitFromQuery]
              generalize getCrtcUstMsc t crtc c.getMsc = out at hgot hheld' ⊢
              obtain ⟨u, current⟩ := out
              simp only at hgot hheld' ⊢
              generalize (Option.map UstMsc.msc current).getD c.stackMsc = currentMsc
              obtain ⟨hqueued, hknown, hoff⟩ := queueFrameEvent_done hgot.good hheld' crtc
                ⟨false, false⟩ (waitRequest currentMsc c.targetMsc c.divisor c.remainder)
                c.queueAllocOk c.turns
              have hall := hgot.trans hqueued
              generalize queueFrameEvent u s.nextRecord crtc _ _ c.queueAllocOk c.turns = out
                at hall hknown hoff ⊢
              obtain ⟨v, result⟩ := out
              simp only at hall hknown hoff
              have hfree : (result = none ∨ result = some .refused) → ∀ m,
                  Done gone s (outFree v c s.nextRecord m) := fun hend m =>
                hcomplete _ m (hall.trans
                  (msDri2DelFrameEvent_serves hall.good hknown (hoff hend)).done)
              cases result with
              | none => exact hfree (Or.inl rfl) _
              | some result =>
                  cases result with
                  | queued m => exact hall.trans ((quiet_act v _).serves hall.good).done
                  | refused => exact hfree (Or.inr rfl) _
                  | looping => exact hall

end Scheduling

/-! ## Clients and drawables that go away -/

section Gone

variable {gone : Restype → List Nat} {s : Dri2State}

/-- The records of a list are taken off it and forget its owner. -/
theorem frameEventGone_spec (type : Restype) (list : List Nat) (h : Lists gone s)
    (hlist : ∀ r ∈ list, r < s.nextRecord) :
    let t := frameEventGone type list s
    Lists gone t ∧
      (∀ r type', (t.records r).link type' =
        if type' = type ∧ r ∈ list then none else (s.records r).link type') ∧
      (∀ r type', owner (t.records r) type' =
        if type' = type ∧ r ∈ list then none else owner (s.records r) type') ∧
      Quiet s { t with records := s.records, resources := s.resources } := by
  induction list generalizing s with
  | nil =>
      exact ⟨h, by simp [frameEventGone], by simp [frameEventGone],
        ⟨rfl, rfl, rfl, rfl, rfl, rfl, rfl⟩⟩
  | cons r rest ih =>
      have hdel := xorgListDel_lists h (hlist r List.mem_cons_self) type
      have hrest := xorgListDel_rest s r type
      have hset : ∀ r', ((xorgListDel s r type).setRecord r
          (((xorgListDel s r type).records r).forget type)).records r' =
          if r' = r then ((xorgListDel s r type).records r).forget type
          else (xorgListDel s r type).records r' := by
        intro r'
        by_cases hr : r' = r
        · subst hr
          simp [Dri2State.setRecord]
        · simp [Dri2State.setRecord, hr]
      have hlink : ∀ r' type', (((xorgListDel s r type).setRecord r
          (((xorgListDel s r type).records r).forget type)).records r').link type' =
          if r' = r ∧ type' = type then none else (s.records r').link type' := by
        intro r' type'
        rw [hset, ← xorgListDel_link]
        by_cases hr : r' = r
        · subst hr
          rw [if_pos rfl]
          cases type <;> rfl
        · rw [if_neg hr]
      have howner : ∀ r' type', owner (((xorgListDel s r type).setRecord r
          (((xorgListDel s r type).records r).forget type)).records r') type' =
          if r' = r ∧ type' = type then none else owner (s.records r') type' := by
        intro r' type'
        rw [hset]
        by_cases hr : r' = r
        · subst hr
          rw [if_pos rfl, ← xorgListDel_owner s r' r' type]
          cases type <;> cases type' <;> simp [owner, FrameEvent.forget]
        · rw [if_neg hr, if_neg fun hsame => hr hsame.1, xorgListDel_owner]
      have hnext : (xorgListDel s r type).nextRecord = s.nextRecord := hrest.nextRecord
      have hforgot : Lists gone ((xorgListDel s r type).setRecord r
          (((xorgListDel s r type).records r).forget type)) := by
        refine ⟨fun r' hr' type' id hl => ?_, hdel.noList, hdel.members⟩
        rw [hlink, ← xorgListDel_link] at hl
        exact hdel.onList r' hr' type' id hl
      obtain ⟨hlists, hlinks, howners, hquiet⟩ := ih hforgot fun r' hr' => by
        show r' < (xorgListDel s r type).nextRecord
        rw [hnext]
        exact hlist r' (List.mem_cons_of_mem r hr')
      refine ⟨hlists, fun r' type' => ?_, fun r' type' => ?_,
        ⟨hquiet.queue.trans hrest.queue, rfl, hquiet.nextRecord.trans hrest.nextRecord, rfl,
          hquiet.flips.trans hrest.flips, hquiet.goneDrawables.trans hrest.goneDrawables,
          hquiet.replies.trans hrest.replies⟩⟩
      · show ((frameEventGone type rest _).records r').link type' = _
        rw [hlinks, hlink]
        by_cases htype : type' = type <;> by_cases hr : r' = r <;> simp [htype, hr]
      · show owner ((frameEventGone type rest _).records r') type' = _
        rw [howners, howner]
        by_cases htype : type' = type <;> by_cases hr : r' = r <;> simp [htype, hr]

/-- **The resource of a client or a drawable is freed.** -/
theorem freeResource_good (h : Good gone { s with goneDrawables := gone .drawable })
    (type : Restype) (id : Nat)
    (gone' : Restype → List Nat) (hgone : ∀ type', ∀ id' ∈ gone' type',
      id' ∈ gone type' ∨ type' = type ∧ id' = id)
    (hflips : ∀ e ∈ s.flips.requests, ∀ c, e.client = some c → c ∉ gone' .client)
    (hdrawables : s.goneDrawables = gone' .drawable) :
    Good gone' (freeResource type s id) ∧ (freeResource type s id).replies = s.replies := by
  unfold freeResource
  cases hlist : s.resources type id with
  | none =>
      refine ⟨⟨⟨h.onList, fun type' id' hin => ?_, h.members⟩, h.linked, h.known, h.nodup, hflips,
        hdrawables⟩, rfl⟩
      show s.resources type' id' = none
      cases hgone type' id' hin with
      | inl hold => exact h.noList type' id' hold
      | inr hnew =>
          obtain ⟨rfl, rfl⟩ := hnew
          exact hlist
  | some list =>
      have hstart : Lists gone s := h.toLists.congr rfl rfl rfl
      obtain ⟨hlists, hlinks, howners, hquiet⟩ := frameEventGone_spec type list hstart
        (h.members type id list hlist)
      -- who was linked into the freed list was on it
      have hstill : ∀ r type' id', r < s.nextRecord →
          ((frameEventGone type list s).records r).link type' = some id' →
          ¬ (type' = type ∧ id' = id) := by
        rintro r type' id' hr hl ⟨rfl, rfl⟩
        rw [hlinks] at hl
        split at hl
        · cases hl
        · next hnot =>
            obtain ⟨list', hlist', hmem⟩ := hstart.onList r hr _ _ hl
            rw [hlist] at hlist'
            cases hlist'
            exact hnot ⟨rfl, hmem⟩
      have hnext : (frameEventGone type list s).nextRecord = s.nextRecord := hquiet.nextRecord
      have hqueue : (frameEventGone type list s).queue = s.queue := hquiet.queue
      refine ⟨⟨⟨fun r hr type' id' hl => ?_, fun type' id' hin => ?_,
        fun type' id' list' hl r hr => ?_⟩, fun q hq type' id' ho => ?_, ?_, ?_, ?_, ?_⟩,
        hquiet.replies⟩
      · have hr' : r < (frameEventGone type list s).nextRecord := hr
        rw [setResource_apply, if_neg (hstill r type' id' (hnext ▸ hr') hl)]
        exact hlists.onList r hr type' id' hl
      · rw [setResource_apply]
        split
        · rfl
        · next hnot =>
            cases hgone type' id' hin with
            | inl hold => exact hlists.noList type' id' hold
            | inr hnew => exact absurd hnew hnot
      · rw [setResource_apply] at hl
        split at hl
        · cases hl
        · exact hlists.members type' id' list' hl r hr
      · have hq' : q ∈ (frameEventGone type list s).queue.requests := hq
        rw [hqueue] at hq'
        have ho' : owner ((frameEventGone type list s).records q.record) type' = some id' := ho
        show ((frameEventGone type list s).records q.record).link type' = some id'
        rw [howners] at ho'
        rw [hlinks]
        split at ho'
        · cases ho'
        · next hnot =>
            rw [if_neg hnot]
            exact h.linked q hq' type' id' ho'
      · show ∀ q ∈ (frameEventGone type list s).queue.requests,
          q.record < (frameEventGone type list s).nextRecord
        rw [hqueue, hnext]
        exact h.known
      · show ((frameEventGone type list s).queue.requests.map QueueData.record).Nodup
        rw [hqueue]
        exact h.nodup
      · show ∀ e ∈ (frameEventGone type list s).flips.requests, _
        rw [show (frameEventGone type list s).flips = s.flips from hquiet.flips]
        exact hflips
      · exact hquiet.goneDrawables.trans hdrawables

end Gone

/-! ## Runs -/

/-- The DRI2 code, and the clients that have gone. -/
structure Server where
  dri2 : Dri2State
  goneClients : List Nat

def Server.start (records : Nat → FrameEvent) (refcnt : Nat → Int) : Server :=
  ⟨Dri2State.start records refcnt, []⟩

/-- Who has gone. -/
def Server.gone (v : Server) : Restype → List Nat
  | .client => v.goneClients
  | .drawable => v.dri2.goneDrawables

/-- Who goes with a step. -/
def goes : Dri2Op → Restype → List Nat
  | .clientGone client, .client => [client]
  | .drawableGone drawable, .drawable => [drawable]
  | _, _ => []

def serverStep (v : Server) (op : Dri2Op) : Server :=
  ⟨dri2Step v.dri2 op, goes op .client ++ v.goneClients⟩

/-- Requests come from clients that are there, for drawables that are there. -/
def Requested (v : Server) : Dri2Op → Bool
  | .scheduleSwap c => decide (c.client ∉ v.goneClients ∧ c.draw ∉ v.dri2.goneDrawables)
  | .scheduleWaitMsc c => decide (c.client ∉ v.goneClients ∧ c.draw ∉ v.dri2.goneDrawables)
  | _ => true

/-- No client exits while a flip it asked for is outstanding. -/
def NoFlipLeft (v : Server) : Dri2Op → Bool
  | .clientGone client => v.dri2.flips.requests.all fun e => e.client != some client
  | _ => true

def Reply.client : Reply → Option Nat
  | .swapComplete client _ _ _ => client
  | .waitMscComplete client _ _ => some client

def Reply.drawable : Reply → Nat
  | .swapComplete _ drawable _ _ => drawable
  | .waitMscComplete _ drawable _ => drawable

theorem Alive.named {gone : Restype → List Nat} {reply : Reply} (h : Alive gone reply) :
    (∀ c ∈ gone .client, Reply.client reply ≠ some c) ∧
      ∀ d ∈ gone .drawable, Reply.drawable reply ≠ d := by
  cases reply with
  | swapComplete client drawable stamp kind =>
      refine ⟨fun c hc heq => h.1 c heq hc, fun d hd heq => ?_⟩
      cases heq
      exact h.2 hd
  | waitMscComplete client drawable stamp =>
      refine ⟨fun c hc heq => ?_, fun d hd heq => ?_⟩
      · cases heq
        exact h.1 hc
      · cases heq
        exact h.2 hd

theorem Alive.mono {gone gone' : Restype → List Nat} (hsub : ∀ type, ∀ id ∈ gone type, id ∈ gone' type)
    {reply : Reply} (h : Alive gone' reply) : Alive gone reply := by
  cases reply with
  | swapComplete client drawable stamp kind =>
      exact ⟨fun c hc hin => h.1 c hc (hsub .client c hin), fun hin => h.2 (hsub .drawable _ hin)⟩
  | waitMscComplete client drawable stamp =>
      exact ⟨fun hin => h.1 (hsub .client _ hin), fun hin => h.2 (hsub .drawable _ hin)⟩

/-- Who has gone after a step. -/
def goneNext (v : Server) (op : Dri2Op) (type : Restype) : List Nat := goes op type ++ v.gone type

/-- **One step** keeps the invariant, answers only who is there, and adds who goes. -/
theorem serverStep_spec {v : Server} (h : Good v.gone v.dri2) (op : Dri2Op)
    (hrequested : Requested v op = true) (hflips : NoFlipLeft v op = true) :
    Good (serverStep v op).gone (serverStep v op).dri2 ∧
      Answers v.gone v.dri2 (serverStep v op).dri2 ∧
      ∀ type, (serverStep v op).gone type = goes op type ++ v.gone type := by
  -- a step that takes nobody away
  have hstays : ∀ t, Done v.gone v.dri2 t → serverStep v op = ⟨t, v.goneClients⟩ →
      (∀ type, goes op type = []) →
      Good (serverStep v op).gone (serverStep v op).dri2 ∧
        Answers v.gone v.dri2 (serverStep v op).dri2 ∧
        ∀ type, (serverStep v op).gone type = goes op type ++ v.gone type := by
    intro t ht hstep hnobody
    have hgone : (serverStep v op).gone = v.gone := by
      funext type
      rw [hstep]
      cases type with
      | client => rfl
      | drawable => exact ht.good.drawables
    rw [hgone, hstep]
    exact ⟨ht.good, ht.answers, fun type => by rw [hnobody]; rfl⟩
  -- a step that takes somebody away
  have hleaves : ∀ t, Good (goneNext v op) t → t.replies = v.dri2.replies →
      serverStep v op = ⟨t, goes op .client ++ v.goneClients⟩ →
      Good (serverStep v op).gone (serverStep v op).dri2 ∧
        Answers v.gone v.dri2 (serverStep v op).dri2 ∧
        ∀ type, (serverStep v op).gone type = goes op type ++ v.gone type := by
    intro t ht hreplies hstep
    have hgone : (serverStep v op).gone = goneNext v op := by
      funext type
      rw [hstep]
      cases type with
      | client => rfl
      | drawable => exact ht.drawables
    rw [hgone, hstep]
    exact ⟨ht, Answers.of_eq hreplies, fun type => rfl⟩
  cases op with
  | scheduleSwap c =>
      have hthere := of_decide_eq_true hrequested
      exact hstays _ (msDri2ScheduleSwap_done h c hthere.1 hthere.2) rfl fun type => by
        cases type <;> rfl
  | scheduleWaitMsc c =>
      have hthere := of_decide_eq_true hrequested
      exact hstays _ (msDri2ScheduleWaitMsc_done h c hthere.1 hthere.2) rfl fun type => by
        cases type <;> rfl
  | deliver d =>
      exact hstays _ (deliver_serves d v.dri2 h).done rfl fun type => by cases type <;> rfl
  | abort k =>
      exact hstays _ (msDrmAbortSeq_serves h k).done rfl fun type => by cases type <;> rfl
  | abortFlip k =>
      exact hstays _ (h.removeFlip k).done rfl fun type => by cases type <;> rfl
  | clientGone client =>
      have hall : ∀ e ∈ v.dri2.flips.requests, e.client ≠ some client := by
        simpa [NoFlipLeft, List.all_eq_true] using hflips
      have hspec := freeResource_good h .client client (goneNext v (.clientGone client))
        (fun type id hin => by
          cases type with
          | client =>
              cases List.mem_cons.mp hin with
              | inl hnew => exact Or.inr ⟨rfl, hnew⟩
              | inr hold => exact Or.inl hold
          | drawable => exact Or.inl hin)
        (fun e he c hc hin => by
          cases List.mem_cons.mp hin with
          | inl hnew => exact hall e he (hnew ▸ hc)
          | inr hold => exact h.flips e he c hc hold)
        rfl
      exact hleaves _ hspec.1 hspec.2 rfl
  | drawableGone drawable =>
      have hspec := freeResource_good
        (s := { v.dri2 with goneDrawables := drawable :: v.dri2.goneDrawables }) h .drawable drawable
        (goneNext v (.drawableGone drawable))
        (fun type id hin => by
          cases type with
          | client => exact Or.inl hin
          | drawable =>
              cases List.mem_cons.mp hin with
              | inl hnew => exact Or.inr ⟨rfl, hnew⟩
              | inr hold => exact Or.inl hold)
        h.flips rfl
      exact hleaves _ hspec.1 hspec.2 rfl

theorem start_good (records : Nat → FrameEvent) (refcnt : Nat → Int) :
    Good (Server.start records refcnt).gone (Server.start records refcnt).dri2 where
  onList := fun r hr => absurd hr (Nat.not_lt_zero r)
  noList := fun type id hin => by cases type <;> cases hin
  members := fun type id list hl => by cases hl
  linked := fun q hq => by cases hq
  known := fun q hq => by cases hq
  nodup := List.nodup_nil
  flips := fun e he => by cases he
  drawables := rfl

/-- The guards of a run. -/
def Admits (v : Server) (op : Dri2Op) : Prop := Requested v op = true ∧ NoFlipLeft v op = true

/-- **A run** keeps the invariant, answers only who was there at its start, and everybody
who goes in it has gone. -/
theorem run_spec {v : Server} (h : Good v.gone v.dri2) (ops : List Dri2Op)
    (hadmits : Guarded serverStep Admits v ops) :
    Good (run serverStep v ops).gone (run serverStep v ops).dri2 ∧
      Answers v.gone v.dri2 (run serverStep v ops).dri2 ∧
      (∀ type, ∀ id ∈ v.gone type, id ∈ (run serverStep v ops).gone type) ∧
      ∀ op ∈ ops, ∀ type, ∀ id ∈ goes op type, id ∈ (run serverStep v ops).gone type := by
  induction ops generalizing v with
  | nil => exact ⟨h, Answers.refl _ _, fun _ _ hin => hin, fun op hop => by cases hop⟩
  | cons op ops ih =>
      obtain ⟨⟨hrequested, hflips⟩, hrest⟩ := hadmits
      obtain ⟨hgood, hanswers, hgone⟩ := serverStep_spec h op hrequested hflips
      obtain ⟨hend, hlater, hkept, hwent⟩ := ih hgood hrest
      have hgrows : ∀ type, ∀ id ∈ v.gone type, id ∈ (serverStep v op).gone type := by
        intro type id hin
        rw [hgone]
        exact List.mem_append_right _ hin
      refine ⟨hend, ?_, fun type id hin => hkept type id (hgrows type id hin),
        fun op' hop' type id hin => ?_⟩
      · obtain ⟨new, heq, hnew⟩ := hlater
        exact hanswers.trans ⟨new, heq, fun reply hr => (hnew reply hr).mono hgrows⟩
      · cases List.mem_cons.mp hop' with
        | inl hfirst =>
            apply hkept
            rw [hgone]
            exact List.mem_append_left _ (hfirst ▸ hin)
        | inr hlate => exact hwent op' hlate type id hin

/-- A run of the server is a run of the DRI2 code. -/
theorem run_dri2 (v : Server) (ops : List Dri2Op) :
    (run serverStep v ops).dri2 = run dri2Step v.dri2 ops := by
  induction ops generalizing v with
  | nil => rfl
  | cons op ops ih => exact ih (serverStep v op)

/-- **No completion for one who has gone**, in any run in which no client exits while a
flip it asked for is outstanding: what is completed after `pre` names no client and no
drawable that went away in `pre`. -/
theorem no_late_completion (records : Nat → FrameEvent) (refcnt : Nat → Int)
    (pre post : List Dri2Op)
    (hrequested : Guarded serverStep (fun v op => Requested v op = true)
      (Server.start records refcnt) (pre ++ post))
    (hflips : Guarded serverStep (fun v op => NoFlipLeft v op = true)
      (Server.start records refcnt) (pre ++ post)) :
    ∃ new, (run dri2Step (Dri2State.start records refcnt) (pre ++ post)).replies =
        new ++ (run dri2Step (Dri2State.start records refcnt) pre).replies ∧
      ∀ reply ∈ new, (∀ c, .clientGone c ∈ pre → Reply.client reply ≠ some c) ∧
        ∀ d, .drawableGone d ∈ pre → Reply.drawable reply ≠ d := by
  have hboth : Guarded serverStep Admits (Server.start records refcnt) (pre ++ post) :=
    hrequested.and hflips
  obtain ⟨hpre, hpost⟩ := guarded_append.mp hboth
  obtain ⟨hgood, -, -, hwent⟩ := run_spec (start_good records refcnt) pre hpre
  obtain ⟨-, ⟨new, heq, hnew⟩, -, -⟩ := run_spec hgood post hpost
  rw [run_dri2, run_dri2, ← run_append] at heq
  refine ⟨new, heq, fun reply hr => ?_⟩
  obtain ⟨hclient, hdrawable⟩ := (hnew reply hr).named
  exact ⟨fun c hc => hclient c (hwent _ hc .client c List.mem_cons_self),
    fun d hd => hdrawable d (hwent _ hd .drawable d List.mem_cons_self)⟩

/-- A swap of client 1 on drawable 2, with its buffers exchanged by a flip. -/
def flippedSwap : SwapCall where
  client := 1
  draw := 2
  covering := some 0
  callocOk := true
  registerClient := ⟨true, true⟩
  registerDrawable := ⟨true, true⟩
  getMsc := ⟨.ok ⟨100, 0⟩, .error .enotty⟩
  queueAllocOk := true
  turns := [⟨⟨.ok 200, .error .enotty⟩, []⟩]
  targetMsc := 200
  divisor := 0
  remainder := 0
  front := 10
  back := 11
  canFlip := true

def noRecord : FrameEvent := ⟨none, none, .queueSwap, none, none, fun _ => none⟩

/-- The vblank the swap waits for comes, and the flip is started: on all CRTCs, or on the
first one only. -/
def swapDue (onAll : Bool) : Dri2Op :=
  .deliver (.vblank 0 199 true 0 ⟨true, true, onAll, true⟩ [])

/-- The client asks for the swap and exits before the vblank. -/
def exitsEarly : List Dri2Op := [.scheduleSwap flippedSwap, .clientGone 1]

/-- The flip of the swap is started and completed. -/
def flipped : List Dri2Op := [swapDue true, .deliver (.flip 0 200 0)]

theorem no_late_completion_exit :
    ∃ new, (run dri2Step (Dri2State.start (fun _ => noRecord) fun _ => 1)
        (exitsEarly ++ flipped)).replies =
        new ++ (run dri2Step (Dri2State.start (fun _ => noRecord) fun _ => 1) exitsEarly).replies ∧
      ∀ reply ∈ new, (∀ c, .clientGone c ∈ exitsEarly → Reply.client reply ≠ some c) ∧
        ∀ d, .drawableGone d ∈ exitsEarly → Reply.drawable reply ≠ d :=
  no_late_completion (fun _ => noRecord) (fun _ => 1) exitsEarly flipped (by decide) (by decide)

/-- **A flip completes for a client that has exited** since it was started, and so does one
that was queued on some CRTCs only and followed by a blit. -/
theorem flip_completes_for_gone_client :
    (run dri2Step (Dri2State.start (fun _ => noRecord) fun _ => 1)
        [.scheduleSwap flippedSwap, swapDue true, .clientGone 1]).replies = [] ∧
      (run dri2Step (Dri2State.start (fun _ => noRecord) fun _ => 1)
        [.scheduleSwap flippedSwap, swapDue true, .clientGone 1,
          .deliver (.flip 0 200 0)]).replies =
        [.swapComplete (some 1) 2 (Stamp.of 200 0) .flip] ∧
      (run dri2Step (Dri2State.start (fun _ => noRecord) fun _ => 1)
        [.scheduleSwap flippedSwap, swapDue false, .clientGone 1,
          .deliver (.flip 0 200 0)]).replies =
        [.swapComplete (some 1) 2 (Stamp.of 200 0) .flip,
          .swapComplete (some 1) 2 (Stamp.of 199 0) .blit] := by decide

end LoongsonVideo.Driver.Dri2Completion
