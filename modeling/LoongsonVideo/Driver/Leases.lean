import LoongsonVideo.Verified.Ledger
import LoongsonVideo.Verified.Machine
import LoongsonVideo.Verified.Pending

/-!
# Leases of CRTCs and connectors

A client takes a lease through RandR: the kernel makes a lessee and gives out its id, which the
driver keeps in `lease->devPrivate`.  The client ends it by closing its file descriptor, without
the server, and `drmmode_validate_leases` looks for that after hotplug events and on VT entry.

* `leases_safe_iff`: when no private is used after it is freed, freed twice or leaked, and no NULL
  is followed.
* `lease_named_iff`: when the id of a lease on the list names nobody else's lessee.
* `validated_leases`: after the kernel has been asked, the list is the kernel's list.
-/

namespace LoongsonVideo.Driver.Leases

open LoongsonVideo.Verified
open LoongsonVideo.Verified.Ledger
open LoongsonVideo.Verified.Machine

/-! ## Data -/

/-- What the driver allocates for a lease: the private record, and the array for the kernel.  A
number stands for the call of `drmmode_create_lease`. -/
inductive LeaseMem where
  | leasePrivate (n : Nat)
  | objects (n : Nat)
  deriving DecidableEq, Repr

/-- `drmmode_lease_private_rec`. -/
structure LeasePrivate where
  lesseeId : UInt32
  deriving DecidableEq, Repr

/-- `crtc->driver_private`, as far as a lease reads it. -/
structure LeaseCrtc where
  crtcId : UInt32
  planeId : UInt32
  deriving DecidableEq, Repr

/-- `RRLeaseRec`.  An output is its `mode_output->connector_id`, or `none` where `mode_output` is
NULL: the connector was taken away by a hotplug event. -/
structure RRLease where
  crtcs : List LeaseCrtc
  outputs : List (Option UInt32)
  devPrivate : Option Nat
  deriving DecidableEq, Repr

/-- A lessee of the kernel, which is listed until it is revoked or its descriptor is closed.
`owner` is the lease that it was made for. -/
structure Lessee where
  lesseeId : UInt32
  objects : List UInt32
  owner : Nat
  deriving DecidableEq, Repr

/-- The screen, its leases and the kernel. -/
structure LeaseState where
  rrKey : Bool
  vtSema : Bool
  atomicModeset : Bool
  leases : Pending RRLease
  priv : Nat → LeasePrivate
  calls : Nat
  mem : List (Act LeaseMem)
  kernel : List Lessee
  fault : Bool

/-- A screen without leases. -/
def LeaseState.start (rrKey atomicModeset : Bool) : LeaseState where
  rrKey := rrKey
  vtSema := true
  atomicModeset := atomicModeset
  leases := .empty
  priv := fun _ => ⟨0⟩
  calls := 0
  mem := []
  kernel := []
  fault := false

/-- What a request answers. -/
inductive XStatus where
  | success (fd : Nat)
  | badValue
  | badAlloc
  | badMatch
  deriving DecidableEq, Repr

/-- What the allocator and `drmModeCreateLease` answer: a descriptor and a lessee id, or an
error. -/
structure LeaseAnswer where
  callocOk : Bool
  objectsOk : Bool
  lease : Option (Nat × UInt32)
  deriving DecidableEq, Repr

/-! ## The functions -/

/-- `nobjects`. -/
def nobjects (atomicModeset : Bool) (lease : RRLease) : Nat :=
  lease.crtcs.length + lease.outputs.length + if atomicModeset then lease.crtcs.length else 0

/-- What the first loop writes for one CRTC. -/
def crtcObjects (atomicModeset : Bool) (crtc : LeaseCrtc) : List UInt32 :=
  crtc.crtcId :: if atomicModeset then [crtc.planeId] else []

/-- The array `objects`, or `none` where a NULL `mode_output` is followed. -/
def leaseObjects (atomicModeset : Bool) (lease : RRLease) : Option (List UInt32) :=
  (lease.outputs.mapM id).map (lease.crtcs.flatMap (crtcObjects atomicModeset) ++ ·)

/-- The server's request handler puts a lease that the driver has made on the screen's list. -/
def serverLists (s : LeaseState) (lease : RRLease) : LeaseState :=
  { s with leases := s.leases.alloc lease }

/-- The server takes a lease off the list, told by `xf86CrtcLeaseTerminated`. -/
def serverUnlists (s : LeaseState) (k : Nat) : LeaseState :=
  { s with leases := s.leases.remove k }

def LeaseState.act (s : LeaseState) (act : Act LeaseMem) : LeaseState :=
  { s with mem := act :: s.mem }

/-- The kernel grants a lease, and its id is written to `lease_private->lessee_id`. -/
def kernelGrants (s : LeaseState) (n : Nat) (objects : List UInt32) (lesseeId : UInt32) :
    LeaseState :=
  { s with
    priv := Function.update s.priv n ⟨lesseeId⟩
    kernel := ⟨lesseeId, objects, s.leases.next⟩ :: s.kernel }

/-- `drmmode_create_lease`. -/
def drmmodeCreateLease (s : LeaseState) (lease : RRLease) (answer : LeaseAnswer) :
    LeaseState × XStatus :=
  if nobjects s.atomicModeset lease = 0 then (s, .badValue)
  else if !answer.callocOk then (s, .badAlloc)
  else
    let n := s.calls
    let s' := { s with calls := n + 1 }
    let mem := .acquire (.leasePrivate n) :: s.mem
    if !answer.objectsOk then ({ s' with mem := .release (.leasePrivate n) :: mem }, .badAlloc)
    else
      let mem := .acquire (.objects n) :: mem
      match leaseObjects s.atomicModeset lease with
      | none => ({ s' with mem := mem, fault := true }, .badMatch)
      | some objects =>
          let mem := .touch (.leasePrivate n) :: .touch (.objects n) :: mem
          let mem := .release (.objects n) :: mem
          match answer.lease with
          | none => ({ s' with mem := .release (.leasePrivate n) :: mem }, .badMatch)
          | some (leaseFd, lesseeId) =>
              (serverLists (kernelGrants { s' with mem := mem } n objects lesseeId)
                { lease with devPrivate := some n }, .success leaseFd)

/-- `drmmode_terminate_lease`.  `revoked` is whether `drmModeRevokeLease` answers 0. -/
def drmmodeTerminateLease (s : LeaseState) (k : Nat) (lease : RRLease) (revoked : Bool) :
    LeaseState :=
  match lease.devPrivate with
  | none => { s with fault := true }
  | some n =>
      let s1 := s.act (.touch (.leasePrivate n))
      if revoked then
        let s2 := { s1 with
          kernel := s.kernel.filter fun e => e.lesseeId != (s.priv n).lesseeId }
        serverUnlists (s2.act (.release (.leasePrivate n))) k
      else s1

/-- One turn of the loop of `drmmode_validate_leases`. -/
def validateLease (lessees : List UInt32) (s : LeaseState) (k : Nat) (lease : RRLease) :
    LeaseState :=
  match lease.devPrivate with
  | none =>
      -- The private is only read when there is an id to compare with, and `free(NULL)` is allowed.
      if lessees.isEmpty then serverUnlists s k else { s with fault := true }
  | some n =>
      let s1 := if lessees.isEmpty then s else s.act (.touch (.leasePrivate n))
      if lessees.contains (s.priv n).lesseeId then s1
      else serverUnlists (s1.act (.release (.leasePrivate n))) k

/-- The loop, over the entries that `xorg_list_for_each_entry_safe` visits. -/
def validateLoop (lessees : List UInt32) : List (Nat × RRLease) → LeaseState → LeaseState
  | [], s => s
  | (k, lease) :: rest, s =>
      let s' := validateLease lessees s k lease
      if s'.fault then s' else validateLoop lessees rest s'

/-- `drmmode_validate_leases`.  `listOk` is whether `drmModeListLessees` answers. -/
def drmmodeValidateLeases (s : LeaseState) (listOk : Bool) : LeaseState :=
  if !s.rrKey then s
  else if !s.vtSema then s
  else if !listOk then s
  else validateLoop (s.kernel.map Lessee.lesseeId) s.leases.entries s

/-- `drmmode_set_desired_modes`.  `modesOk` is whether the loop over the CRTCs gets to its end:
where a mode cannot be set, the leases are not looked at. -/
def drmmodeSetDesiredModes (s : LeaseState) (modesOk listOk : Bool) : LeaseState × Bool :=
  if !modesOk then (s, false) else (drmmodeValidateLeases s listOk, true)

/-- `EnterVT`. -/
def enterVT (s : LeaseState) (modesOk listOk : Bool) : LeaseState :=
  (drmmodeSetDesiredModes { s with vtSema := true } modesOk listOk).1

/-- `LeaveVT`. -/
def leaveVT (s : LeaseState) : LeaseState := { s with vtSema := false }

/-- `drmmode_handle_uevents`, after an event was received.  `resOk` is whether
`drmModeGetResources` answers. -/
def drmmodeHandleUevents (s : LeaseState) (resOk listOk : Bool) : LeaseState :=
  if resOk then drmmodeValidateLeases s listOk else s

inductive LeaseAct where
  | create (crtcs : List LeaseCrtc) (outputs : List (Option UInt32)) (answer : LeaseAnswer)
  | terminate (k : Nat) (revoked : Bool)
  | setDesiredModes (modesOk listOk : Bool)
  | enterVT (modesOk listOk : Bool)
  | leaveVT
  | uevents (resOk listOk : Bool)
  | closed (lesseeId : UInt32)
  deriving DecidableEq, Repr

/-- The server terminates leases that are on its list. -/
def rrTerminateLease (s : LeaseState) (k : Nat) (revoked : Bool) : LeaseState :=
  match s.leases.find? k with
  | none => s
  | some lease => drmmodeTerminateLease s k lease revoked

def perform (s : LeaseState) : LeaseAct → LeaseState
  | .create crtcs outputs answer => (drmmodeCreateLease s ⟨crtcs, outputs, none⟩ answer).1
  | .terminate k revoked => rrTerminateLease s k revoked
  | .setDesiredModes modesOk listOk => (drmmodeSetDesiredModes s modesOk listOk).1
  | .enterVT modesOk listOk => enterVT s modesOk listOk
  | .leaveVT => leaveVT s
  | .uevents resOk listOk => drmmodeHandleUevents s resOk listOk
  | .closed lesseeId => { s with kernel := s.kernel.filter fun e => e.lesseeId != lesseeId }

/-- One call.  A process that has followed NULL does nothing any more. -/
def step (s : LeaseState) (act : LeaseAct) : LeaseState := if s.fault then s else perform s act

/-! ## The objects of a lease -/

theorem crtcObjects_length (atomicModeset : Bool) (crtc : LeaseCrtc) :
    (crtcObjects atomicModeset crtc).length = 1 + if atomicModeset then 1 else 0 := by
  cases atomicModeset <;> rfl

theorem crtcsObjects_length (atomicModeset : Bool) (crtcs : List LeaseCrtc) :
    (crtcs.flatMap (crtcObjects atomicModeset)).length =
      crtcs.length + if atomicModeset then crtcs.length else 0 := by
  induction crtcs with
  | nil => cases atomicModeset <;> rfl
  | cons crtc crtcs ih =>
      rw [List.flatMap_cons, List.length_append, crtcObjects_length, ih, List.length_cons]
      cases atomicModeset <;> simp only [if_true, if_false, Bool.false_eq_true] <;> omega

theorem mapM_id_length {α : Type*} {xs : List (Option α)} {ys : List α}
    (h : xs.mapM id = some ys) : ys.length = xs.length := by
  induction xs generalizing ys with
  | nil =>
      cases h
      rfl
  | cons x xs ih =>
      cases x with
      | none => cases h
      | some x =>
          cases hrest : xs.mapM id with
          | none => simp [hrest] at h
          | some zs =>
              have hys : x :: zs = ys := by simpa [hrest] using h
              rw [← hys, List.length_cons, List.length_cons, ih hrest]

/-- The assertion before `drmModeCreateLease`. -/
theorem leaseObjects_length {atomicModeset : Bool} {lease : RRLease} {objects : List UInt32}
    (h : leaseObjects atomicModeset lease = some objects) :
    objects.length = nobjects atomicModeset lease := by
  obtain ⟨connectors, hconnectors, rfl⟩ := Option.map_eq_some_iff.mp h
  rw [List.length_append, crtcsObjects_length, mapM_id_length hconnectors, nobjects]
  omega

/-! ## The two lists

What a lease on the list says of the kernel is a lessee too.  A call makes one move on the two
lists of lessees: what the server believes, and what the kernel has. -/

/-- The lessee that a lease stands for. -/
def LeaseState.lesseeOf (s : LeaseState) (k : Nat) (lease : RRLease) : Option Lessee :=
  lease.devPrivate.bind fun n =>
    (leaseObjects s.atomicModeset lease).map fun objects => ⟨(s.priv n).lesseeId, objects, k⟩

/-- The lessees of the leases on the list. -/
def LeaseState.listed (s : LeaseState) : List Lessee :=
  s.leases.entries.filterMap fun e => s.lesseeOf e.1 e.2

/-- The list of the server and the list of the kernel. -/
structure Lists where
  listed : List Lessee
  kernel : List Lessee

def LeaseState.lists (s : LeaseState) : Lists := ⟨s.listed, s.kernel⟩

/-- A move.  The lessee, if there is one, is the one that the kernel grants in it. -/
inductive Move : Lists → Option Lessee → Lists → Prop where
  | idle (v : Lists) : Move v none v
  | grant (v : Lists) (e : Lessee) (hfresh : ∀ l ∈ v.listed, l.owner ≠ e.owner) :
      Move v (some e) ⟨e :: v.listed, e :: v.kernel⟩
  | revoke (v : Lists) (l : Lessee) (hl : l ∈ v.listed) :
      Move v none ⟨v.listed.filter fun x => x.owner != l.owner,
        v.kernel.filter fun e => e.lesseeId != l.lesseeId⟩
  | close (v : Lists) (lesseeId : UInt32) :
      Move v none ⟨v.listed, v.kernel.filter fun e => e.lesseeId != lesseeId⟩
  | sweep (v : Lists) :
      Move v none ⟨v.listed.filter fun l => (v.kernel.map Lessee.lesseeId).contains l.lesseeId,
        v.kernel⟩

/-- The kernel's lessees are among those of the list. -/
structure Covered (v : Lists) : Prop where
  owners : (v.listed.map Lessee.owner).Nodup
  sublist : v.kernel.Sublist v.listed

/-- An id on the list names the lessee that it was given out for, or none. -/
def Named (v : Lists) : Prop :=
  ∀ l ∈ v.listed, ∀ e ∈ v.kernel, e.lesseeId = l.lesseeId → e = l

theorem Covered.eq_of_owner {v : Lists} (h : Covered v) {l l' : Lessee} (hl : l ∈ v.listed)
    (hl' : l' ∈ v.listed) (howner : l.owner = l'.owner) : l = l' :=
  List.inj_on_of_nodup_map h.owners hl hl' howner

theorem Move.covered {v v' : Lists} {granted : Option Lessee} (h : Move v granted v')
    (hv : Covered v) : Covered v' := by
  cases h with
  | idle => exact hv
  | grant e hfresh =>
      refine ⟨List.nodup_cons.mpr ⟨fun hmem => ?_, hv.owners⟩, hv.sublist.cons_cons e⟩
      obtain ⟨l, hl, howner⟩ := List.mem_map.mp hmem
      exact hfresh l hl howner
  | revoke l hl =>
      refine ⟨(List.filter_sublist.map _).nodup hv.owners, ?_⟩
      -- The revoked lessee is the one that leaves the list.
      have hkeep : (v.kernel.filter fun e => e.lesseeId != l.lesseeId).filter
          (fun x => x.owner != l.owner) = v.kernel.filter fun e => e.lesseeId != l.lesseeId := by
        refine List.filter_eq_self.mpr fun e he => ?_
        obtain ⟨hkernel, hid⟩ := List.mem_filter.mp he
        rw [bne_iff_ne] at hid ⊢
        intro howner
        exact hid (congrArg Lessee.lesseeId (hv.eq_of_owner (hv.sublist.subset hkernel) hl howner))
      show (v.kernel.filter fun e => e.lesseeId != l.lesseeId).Sublist _
      rw [← hkeep]
      exact (List.filter_sublist.trans hv.sublist).filter _
  | close lesseeId => exact ⟨hv.owners, List.filter_sublist.trans hv.sublist⟩
  | sweep =>
      refine ⟨(List.filter_sublist.map _).nodup hv.owners, ?_⟩
      have hkeep : v.kernel.filter
          (fun l => (v.kernel.map Lessee.lesseeId).contains l.lesseeId) = v.kernel := by
        refine List.filter_eq_self.mpr fun e he => ?_
        rw [List.contains_iff_mem]
        exact List.mem_map_of_mem he
      show v.kernel.Sublist _
      conv => lhs; rw [← hkeep]
      exact hv.sublist.filter _

/-- What is left of both lists keeps its names. -/
theorem Named.mono {v v' : Lists} (h : Named v) (hlisted : v'.listed ⊆ v.listed)
    (hkernel : v'.kernel ⊆ v.kernel) : Named v' :=
  fun l hl e he => h l (hlisted hl) e (hkernel he)

/-- A new id keeps the names apart exactly when no lease on the list has it. -/
theorem named_grant_iff {v : Lists} (hv : Covered v) (hnamed : Named v) {e : Lessee}
    (hfresh : ∀ l ∈ v.listed, l.owner ≠ e.owner) :
    Named ⟨e :: v.listed, e :: v.kernel⟩ ↔ ∀ l ∈ v.listed, l.lesseeId ≠ e.lesseeId := by
  constructor
  · intro h l hl hid
    have hsame : e = l := h l (List.mem_cons_of_mem e hl) e List.mem_cons_self hid.symm
    exact hfresh l hl (congrArg Lessee.owner hsame.symm)
  · intro h l hl x hx hid
    rcases List.mem_cons.mp hl with rfl | hold
    · rcases List.mem_cons.mp hx with rfl | hkernel
      · rfl
      · exact absurd hid (h x (hv.sublist.subset hkernel))
    · rcases List.mem_cons.mp hx with rfl | hkernel
      · exact absurd hid.symm (h l hold)
      · exact hnamed l hold x hkernel hid

/-- The names survive a move exactly when the id that it grants is not on the list. -/
theorem Move.named_iff {v v' : Lists} {granted : Option Lessee} (h : Move v granted v')
    (hv : Covered v) (hnamed : Named v) :
    Named v' ↔ ∀ e, granted = some e → ∀ l ∈ v.listed, l.lesseeId ≠ e.lesseeId := by
  cases h with
  | idle => exact iff_of_true hnamed fun e he => nomatch he
  | grant e hfresh =>
      rw [named_grant_iff hv hnamed hfresh]
      exact ⟨fun h x hx => Option.some.inj hx ▸ h, fun h => h e rfl⟩
  | revoke l hl =>
      exact iff_of_true (hnamed.mono (List.filter_subset_self _) (List.filter_subset_self _))
        fun e he => nomatch he
  | close lesseeId =>
      exact iff_of_true (hnamed.mono (List.Subset.refl _) (List.filter_subset_self _))
        fun e he => nomatch he
  | sweep =>
      exact iff_of_true (hnamed.mono (List.filter_subset_self _) (List.Subset.refl _))
        fun e he => nomatch he

/-- Once the list has been compared with the kernel's, it is the kernel's. -/
theorem sweep_eq {v : Lists} (hv : Covered v) (hnamed : Named v) :
    v.listed.filter (fun l => (v.kernel.map Lessee.lesseeId).contains l.lesseeId) = v.kernel := by
  have hswept := (Move.sweep v).covered hv
  have hsubset : v.listed.filter (fun l => (v.kernel.map Lessee.lesseeId).contains l.lesseeId) ⊆
      v.kernel := by
    intro l hl
    obtain ⟨hlisted, hid⟩ := List.mem_filter.mp hl
    obtain ⟨e, he, hsame⟩ := List.mem_map.mp (List.contains_iff_mem.mp hid)
    exact hnamed l hlisted e he hsame ▸ he
  have hnodup := List.Nodup.of_map Lessee.owner hswept.owners
  have hle := (List.subperm_of_subset hnodup hsubset).length_le
  exact (hswept.sublist.eq_of_length_le hle).symm

/-! ## What is held -/

/-- The privates of the leases on the list. -/
def LeaseState.privates (s : LeaseState) : Multiset LeaseMem :=
  ((s.leases.requests.filterMap RRLease.devPrivate).map LeaseMem.leasePrivate : List LeaseMem)

/-- A lease on the list has a private and its objects. -/
structure Held (s : LeaseState) : Prop where
  named : ∀ lease ∈ s.leases.requests,
    ∃ n, lease.devPrivate = some n ∧ n < s.calls ∧
      (leaseObjects s.atomicModeset lease).isSome = true
  owns : Owns s.mem s.privates

section Held

variable {s s' : LeaseState}

theorem notMem_objects (n : Nat) : LeaseMem.objects n ∉ s.privates := by
  intro hmem
  obtain ⟨m, -, hm⟩ := List.mem_map.mp (Multiset.mem_coe.mp hmem)
  cases hm

theorem Held.notMem_calls (h : Held s) : LeaseMem.leasePrivate s.calls ∉ s.privates := by
  intro hmem
  obtain ⟨m, hmem, hm⟩ := List.mem_map.mp (Multiset.mem_coe.mp hmem)
  obtain ⟨lease, hlease, hpriv⟩ := List.mem_filterMap.mp hmem
  obtain ⟨n, hn, hlt, -⟩ := h.named lease hlease
  cases hm
  rw [hn] at hpriv
  cases hpriv
  exact Nat.lt_irrefl _ hlt

theorem mem_privates {lease : RRLease} {n : Nat} (hlease : lease ∈ s.leases.requests)
    (hn : lease.devPrivate = some n) : LeaseMem.leasePrivate n ∈ s.privates :=
  Multiset.mem_coe.mpr (List.mem_map.mpr ⟨n, List.mem_filterMap.mpr ⟨lease, hlease, hn⟩, rfl⟩)

/-- A lease that is found owns its private. -/
theorem privates_remove {k n : Nat} {lease : RRLease} (hfind : s.leases.find? k = some lease)
    (hn : lease.devPrivate = some n) :
    s.privates = LeaseMem.leasePrivate n ::ₘ (serverUnlists s k).privates := by
  have hperm := (Pending.perm_remove hfind).filterMap RRLease.devPrivate
  rw [List.filterMap_cons_some hn] at hperm
  exact Multiset.coe_eq_coe.mpr (hperm.map LeaseMem.leasePrivate)

theorem mem_listed {l : Lessee} :
    l ∈ s.listed ↔ ∃ lease, s.leases.find? l.owner = some lease ∧
      s.lesseeOf l.owner lease = some l := by
  have howner : ∀ {k : Nat} {lease : RRLease}, s.lesseeOf k lease = some l → l.owner = k := by
    intro k lease h
    obtain ⟨n, -, h⟩ := Option.bind_eq_some_iff.mp h
    obtain ⟨objects, -, rfl⟩ := Option.map_eq_some_iff.mp h
    rfl
  constructor
  · intro h
    obtain ⟨⟨k, lease⟩, he, hl⟩ := List.mem_filterMap.mp h
    obtain rfl := howner hl
    exact ⟨lease, Pending.find?_eq_some.mpr he, hl⟩
  · rintro ⟨lease, hfind, hl⟩
    exact List.mem_filterMap.mpr ⟨(l.owner, lease), Pending.find?_eq_some.mp hfind, hl⟩

/-- Termination takes the lease's lessee off the list. -/
theorem listed_terminated (s : LeaseState) (k : Nat) :
    (serverUnlists s k).listed = s.listed.filter fun l => l.owner != k := by
  show (s.leases.entries.filter fun e => e.1 != k).filterMap (fun e => s.lesseeOf e.1 e.2) =
    (s.leases.entries.filterMap fun e => s.lesseeOf e.1 e.2).filter fun l => l.owner != k
  rw [List.filterMap_filter, List.filter_filterMap]
  refine List.filterMap_congr fun e _ => ?_
  unfold LeaseState.lesseeOf
  cases e.2.devPrivate with
  | none => simp
  | some n =>
      cases leaseObjects s.atomicModeset e.2 with
      | none => simp
      | some objects => by_cases hk : e.1 = k <;> simp [hk, Option.filter]

/-- The id of a lessee on the list is the one in the private of its lease. -/
theorem lesseeId_eq {k n : Nat} {lease : RRLease} (hfind : s.leases.find? k = some lease)
    (hn : lease.devPrivate = some n) {l : Lessee} (hl : l ∈ s.listed) (howner : l.owner = k) :
    l.lesseeId = (s.priv n).lesseeId := by
  obtain ⟨lease', hfind', hl⟩ := mem_listed.mp hl
  rw [howner, hfind] at hfind'
  cases hfind'
  obtain ⟨m, hm, hl⟩ := Option.bind_eq_some_iff.mp hl
  obtain ⟨objects, -, hl⟩ := Option.map_eq_some_iff.mp hl
  rw [hn] at hm
  cases hm
  exact (congrArg Lessee.lesseeId hl).symm

/-- A lease on the list has a lessee there. -/
theorem Held.lesseeOf (h : Held s) {k n : Nat} {lease : RRLease}
    (hfind : s.leases.find? k = some lease) (hn : lease.devPrivate = some n) :
    ∃ l ∈ s.listed, l.owner = k ∧ l.lesseeId = (s.priv n).lesseeId := by
  obtain ⟨_, -, -, hobjects⟩ := h.named lease (Pending.find?_mem hfind)
  obtain ⟨objects, hobjects⟩ := Option.isSome_iff_exists.mp hobjects
  refine ⟨⟨(s.priv n).lesseeId, objects, k⟩, mem_listed.mpr ⟨lease, hfind, ?_⟩, rfl, rfl⟩
  rw [LeaseState.lesseeOf, hn, hobjects]
  rfl

theorem Held.terminated (h : Held s) {k n : Nat} {lease : RRLease}
    (hfind : s.leases.find? k = some lease) (hn : lease.devPrivate = some n)
    {mem : List (Act LeaseMem)} (hmem : Owns mem s.privates) {kernel : List Lessee} :
    Held (serverUnlists
      { s with mem := .release (.leasePrivate n) :: mem, kernel := kernel } k) where
  named := fun lease' hlease' => h.named lease' (Pending.mem_requests_of_remove hlease')
  owns := hmem.release (privates_remove hfind hn)

end Held

/-! ## The functions on the lists -/

/-- A request that reaches the kernel follows the `mode_output` of every output. -/
def followsNull (s : LeaseState) (lease : RRLease) (answer : LeaseAnswer) : Bool :=
  nobjects s.atomicModeset lease != 0 && answer.callocOk && answer.objectsOk &&
    (leaseObjects s.atomicModeset lease).isNone

/-- The lessee that a request is granted. -/
def grantOf (s : LeaseState) (lease : RRLease) (answer : LeaseAnswer) : Option Lessee :=
  if nobjects s.atomicModeset lease != 0 && answer.callocOk && answer.objectsOk then
    (leaseObjects s.atomicModeset lease).bind fun objects =>
      answer.lease.map fun granted => ⟨granted.2, objects, s.leases.next⟩
  else none

section Functions

variable {s : LeaseState}

/-- A state that differs in what the leases do not read, with the same privates held. -/
theorem Held.of_mem (h : Held s) {calls : Nat} (hcalls : s.calls ≤ calls)
    {mem : List (Act LeaseMem)} (hmem : Owns mem s.privates) {fault : Bool} :
    Held { s with calls := calls, mem := mem, fault := fault } where
  named := by
    intro lease hlease
    obtain ⟨n, hn, hlt, hobjects⟩ := h.named lease hlease
    exact ⟨n, hn, Nat.lt_of_lt_of_le hlt hcalls, hobjects⟩
  owns := hmem

/-- `t` has one lease more than `s`, with the private that was allocated for it. -/
structure Started (s t : LeaseState) (lease : RRLease) (lesseeId : UInt32) : Prop where
  leases : t.leases = s.leases.alloc { lease with devPrivate := some s.calls }
  priv : t.priv = Function.update s.priv s.calls ⟨lesseeId⟩
  atomic : t.atomicModeset = s.atomicModeset
  calls : t.calls = s.calls + 1

variable {t : LeaseState} {lease : RRLease} {lesseeId : UInt32} {objects : List UInt32}

theorem Started.listed (hstarted : Started s t lease lesseeId) (h : Held s)
    (hobjects : leaseObjects s.atomicModeset lease = some objects) :
    t.listed = ⟨lesseeId, objects, s.leases.next⟩ :: s.listed := by
  have hnew : t.lesseeOf s.leases.next { lease with devPrivate := some s.calls } =
      some ⟨lesseeId, objects, s.leases.next⟩ := by
    have hsame : leaseObjects t.atomicModeset { lease with devPrivate := some s.calls } =
        some objects := by
      rw [hstarted.atomic]
      exact hobjects
    rw [LeaseState.lesseeOf, Option.bind_some, hsame, hstarted.priv, Function.update_self]
    rfl
  -- The older privates are others.
  have hold : ∀ e ∈ s.leases.entries, t.lesseeOf e.1 e.2 = s.lesseeOf e.1 e.2 := by
    intro e he
    obtain ⟨n, hn, hlt, -⟩ := h.named e.2 (List.mem_map_of_mem he)
    rw [LeaseState.lesseeOf, LeaseState.lesseeOf, hn, Option.bind_some, Option.bind_some,
      hstarted.atomic, hstarted.priv, Function.update_of_ne (Nat.ne_of_lt hlt)]
  rw [LeaseState.listed, hstarted.leases, Pending.alloc_entries, List.filterMap_cons, hnew,
    List.filterMap_congr hold]
  rfl

theorem Started.held (hstarted : Started s t lease lesseeId) (h : Held s)
    (hobjects : leaseObjects s.atomicModeset lease = some objects)
    (howns : Owns t.mem (LeaseMem.leasePrivate s.calls ::ₘ s.privates)) : Held t where
  named := by
    intro lease' hlease'
    rw [hstarted.leases, Pending.alloc_requests] at hlease'
    rw [hstarted.calls, hstarted.atomic]
    rcases List.mem_cons.mp hlease' with rfl | hold
    · exact ⟨s.calls, rfl, Nat.lt_succ_self _, Option.isSome_of_mem hobjects⟩
    · obtain ⟨n, hn, hlt, hsome⟩ := h.named lease' hold
      exact ⟨n, hn, Nat.lt_succ_of_lt hlt, hsome⟩
  owns := by
    have hprivates : t.privates = LeaseMem.leasePrivate s.calls ::ₘ s.privates := by
      rw [LeaseState.privates, hstarted.leases, Pending.alloc_requests]
      rfl
    rw [hprivates]
    exact howns

theorem Started.move (hstarted : Started s t lease lesseeId) (h : Held s)
    (hobjects : leaseObjects s.atomicModeset lease = some objects)
    (hkernel : t.kernel = ⟨lesseeId, objects, s.leases.next⟩ :: s.kernel) :
    Move s.lists (some ⟨lesseeId, objects, s.leases.next⟩) t.lists := by
  have hlists : t.lists = ⟨⟨lesseeId, objects, s.leases.next⟩ :: s.listed,
      ⟨lesseeId, objects, s.leases.next⟩ :: s.kernel⟩ := by
    rw [LeaseState.lists, hstarted.listed h hobjects, hkernel]
  rw [hlists]
  refine .grant s.lists _ fun l hl => ?_
  obtain ⟨lease', hfind, -⟩ := mem_listed.mp hl
  exact Nat.ne_of_lt (Pending.lt_next_of_find? hfind)

theorem Held.create (h : Held s) (hfault : s.fault = false) (lease : RRLease)
    (answer : LeaseAnswer) :
    (drmmodeCreateLease s lease answer).1.fault = followsNull s lease answer ∧
      (followsNull s lease answer = false → Held (drmmodeCreateLease s lease answer).1) ∧
      Move s.lists (grantOf s lease answer) (drmmodeCreateLease s lease answer).1.lists := by
  unfold drmmodeCreateLease followsNull grantOf
  by_cases hzero : nobjects s.atomicModeset lease = 0
  · simp only [hzero, if_true]
    exact ⟨hfault, fun _ => h, .idle _⟩
  rw [if_neg hzero, bne_iff_ne.mpr hzero]
  cases hcalloc : answer.callocOk with
  | false => exact ⟨hfault, fun _ => h, .idle _⟩
  | true =>
      have hpriv : Owns (.acquire (.leasePrivate s.calls) :: s.mem)
          (LeaseMem.leasePrivate s.calls ::ₘ s.privates) := h.owns.acquire h.notMem_calls
      cases hxalloc : answer.objectsOk with
      | false =>
          exact ⟨hfault, fun _ => h.of_mem (Nat.le_succ _) (hpriv.release rfl), .idle _⟩
      | true =>
          have hnew : LeaseMem.objects s.calls ∉ LeaseMem.leasePrivate s.calls ::ₘ s.privates := by
            rw [Multiset.mem_cons]
            rintro (heq | hmem)
            · cases heq
            · exact notMem_objects _ hmem
          have harray := hpriv.acquire hnew
          have htouch := (harray.touch (Multiset.mem_cons_self _ _)).touch
            (Multiset.mem_cons_of_mem (Multiset.mem_cons_self _ _))
          cases hobjects : leaseObjects s.atomicModeset lease with
          | none =>
              refine ⟨rfl, fun hsafe => ?_, .idle _⟩
              cases hsafe
          | some objects =>
              cases hlease : answer.lease with
              | none =>
                  have hfreed := (htouch.release rfl).release rfl
                  exact ⟨hfault, fun _ => h.of_mem (Nat.le_succ _) hfreed, .idle _⟩
              | some granted =>
                  obtain ⟨leaseFd, lesseeId⟩ := granted
                  have hfreed := htouch.release rfl
                  exact ⟨hfault, fun _ => Started.held ⟨rfl, rfl, rfl, rfl⟩ h hobjects hfreed,
                    Started.move ⟨rfl, rfl, rfl, rfl⟩ h hobjects rfl⟩

/-- A step that cannot follow NULL: what it keeps, and its move. -/
structure Kept (s s' : LeaseState) : Prop where
  fault : s'.fault = false
  held : Held s'
  move : Move s.lists none s'.lists

theorem Held.terminate (h : Held s) (hfault : s.fault = false) {k : Nat}
    (hfind : s.leases.find? k = some lease) (revoked : Bool) :
    Kept s (drmmodeTerminateLease s k lease revoked) := by
  obtain ⟨n, hn, -, -⟩ := h.named lease (Pending.find?_mem hfind)
  have htouch := h.owns.touch (mem_privates (Pending.find?_mem hfind) hn)
  unfold drmmodeTerminateLease
  rw [hn]
  cases revoked with
  | false => exact ⟨hfault, h.of_mem (Nat.le_refl _) htouch, .idle _⟩
  | true =>
      refine ⟨hfault, h.terminated hfind hn htouch, ?_⟩
      obtain ⟨l, hl, rfl, hid⟩ := h.lesseeOf hfind hn
      have hmove := Move.revoke s.lists l hl
      rw [hid] at hmove
      have hlisted := listed_terminated s l.owner
      show Move s.lists none ⟨(serverUnlists s l.owner).listed, _⟩
      rw [hlisted]
      exact hmove

/-! ## The loop over the list -/

/-- What the loop has done after the entries with the tokens `visited`: the others are there, and
of these the ones that the kernel still has. -/
structure Checked (lessees : List UInt32) (visited : List Nat) (s s' : LeaseState) : Prop where
  fault : s'.fault = false
  held : Held s'
  atomic : s'.atomicModeset = s.atomicModeset
  priv : s'.priv = s.priv
  kernel : s'.kernel = s.kernel
  rest : ∀ k, k ∉ visited → s'.leases.find? k = s.leases.find? k
  listed : s'.listed =
    s.listed.filter fun l => !visited.contains l.owner || lessees.contains l.lesseeId

theorem Checked.refl (lessees : List UInt32) (h : Held s) (hfault : s.fault = false) :
    Checked lessees [] s s where
  fault := hfault
  held := h
  atomic := rfl
  priv := rfl
  kernel := rfl
  rest := fun _ _ => rfl
  listed := (List.filter_eq_self.mpr fun _ _ => rfl).symm

theorem Checked.trans {lessees : List UInt32} {xs ys : List Nat} {s' s'' : LeaseState}
    (h : Checked lessees xs s s') (h' : Checked lessees ys s' s'') :
    Checked lessees (xs ++ ys) s s'' where
  fault := h'.fault
  held := h'.held
  atomic := h'.atomic.trans h.atomic
  priv := h'.priv.trans h.priv
  kernel := h'.kernel.trans h.kernel
  rest := by
    intro k hk
    rw [List.mem_append, not_or] at hk
    exact (h'.rest k hk.2).trans (h.rest k hk.1)
  listed := by
    rw [h'.listed, h.listed, List.filter_filter]
    refine List.filter_congr fun l _ => ?_
    simp only [List.contains_eq_mem, List.mem_append, Bool.decide_or, Bool.not_or]
    cases decide (l.owner ∈ xs) <;> cases decide (l.owner ∈ ys) <;>
      cases decide (l.lesseeId ∈ lessees) <;> rfl

theorem Held.validateLease (h : Held s) (hfault : s.fault = false) {k : Nat}
    (hfind : s.leases.find? k = some lease) (lessees : List UInt32) :
    Checked lessees [k] s (validateLease lessees s k lease) := by
  obtain ⟨n, hn, -, -⟩ := h.named lease (Pending.find?_mem hfind)
  have howned := mem_privates (Pending.find?_mem hfind) hn
  have hid : ∀ l ∈ s.listed, l.owner = k → l.lesseeId = (s.priv n).lesseeId :=
    fun l hl howner => lesseeId_eq hfind hn hl howner
  -- The id is compared only when there are ids.
  obtain ⟨mem, hmem, hstate⟩ : ∃ mem, Owns mem s.privates ∧
      (if lessees.isEmpty then s else s.act (.touch (.leasePrivate n))) = { s with mem := mem } := by
    cases lessees with
    | nil => exact ⟨s.mem, h.owns, rfl⟩
    | cons id ids => exact ⟨_, h.owns.touch howned, rfl⟩
  unfold Leases.validateLease
  rw [hn]
  simp only [hstate]
  cases hcontains : lessees.contains (s.priv n).lesseeId with
  | true =>
      refine ⟨hfault, h.of_mem (Nat.le_refl _) hmem, rfl, rfl, rfl, fun _ _ => rfl, ?_⟩
      refine (List.filter_eq_self.mpr fun l hl => ?_).symm
      by_cases howner : l.owner = k
      · rw [hid l hl howner, hcontains, Bool.or_true]
      · simp [howner]
  | false =>
      refine ⟨hfault, h.terminated hfind hn hmem, rfl, rfl, rfl, fun j hj => ?_, ?_⟩
      · exact Pending.find?_remove_ne fun heq => hj (heq ▸ List.mem_singleton_self _)
      · have hlisted := listed_terminated s k
        refine hlisted.trans (List.filter_congr fun l hl => ?_)
        by_cases howner : l.owner = k
        · rw [hid l hl howner, hcontains, Bool.or_false]
          simp [howner]
        · simp [howner]

theorem Held.validateLoop (lessees : List UInt32) (es : List (Nat × RRLease)) :
    ∀ {s : LeaseState}, Held s → s.fault = false → (es.map Prod.fst).Nodup →
      (∀ e ∈ es, s.leases.find? e.1 = some e.2) →
        Checked lessees (es.map Prod.fst) s (validateLoop lessees es s) := by
  induction es with
  | nil => exact fun h hfault _ _ => Checked.refl lessees h hfault
  | cons e es ih =>
      intro s h hfault hnodup hes
      obtain ⟨hnot, hnodup⟩ := List.nodup_cons.mp hnodup
      have hturn := h.validateLease hfault (hes e List.mem_cons_self) lessees
      have hrest := ih hturn.held hturn.fault hnodup fun e' he' => by
        have hne : e'.1 ∉ [e.1] := fun hmem =>
          hnot (List.mem_singleton.mp hmem ▸ List.mem_map_of_mem he')
        rw [hturn.rest e'.1 hne]
        exact hes e' (List.mem_cons_of_mem e he')
      unfold Leases.validateLoop
      simp only [hturn.fault, Bool.false_eq_true, if_false]
      exact hturn.trans hrest

/-- The whole loop compares every lease. -/
theorem Held.validateAll (h : Held s) (hfault : s.fault = false) :
    Kept s (Leases.validateLoop (s.kernel.map Lessee.lesseeId) s.leases.entries s) ∧
      (Leases.validateLoop (s.kernel.map Lessee.lesseeId) s.leases.entries s).lists =
        ⟨s.listed.filter fun l => (s.kernel.map Lessee.lesseeId).contains l.lesseeId,
          s.kernel⟩ := by
  have hloop := Held.validateLoop (s.kernel.map Lessee.lesseeId) s.leases.entries h hfault
    s.leases.nodup fun e he => Pending.find?_eq_some.mpr he
  have hlists : (Leases.validateLoop (s.kernel.map Lessee.lesseeId) s.leases.entries s).lists =
      ⟨s.listed.filter fun l => (s.kernel.map Lessee.lesseeId).contains l.lesseeId,
        s.kernel⟩ := by
    rw [LeaseState.lists, hloop.listed, hloop.kernel]
    refine congrArg (Lists.mk · s.kernel) (List.filter_congr fun l hl => ?_)
    obtain ⟨lease, hfind, -⟩ := mem_listed.mp hl
    have howner : (s.leases.entries.map Prod.fst).contains l.owner = true :=
      List.contains_iff_mem.mpr (List.mem_map_of_mem (Pending.find?_eq_some.mp hfind))
    rw [howner]
    rfl
  refine ⟨⟨hloop.fault, hloop.held, ?_⟩, hlists⟩
  rw [hlists]
  exact .sweep s.lists

theorem Held.validate (h : Held s) (hfault : s.fault = false) (listOk : Bool) :
    Kept s (drmmodeValidateLeases s listOk) := by
  unfold drmmodeValidateLeases
  cases s.rrKey with
  | false => exact ⟨hfault, h, .idle _⟩
  | true =>
      cases s.vtSema with
      | false => exact ⟨hfault, h, .idle _⟩
      | true =>
          cases listOk with
          | false => exact ⟨hfault, h, .idle _⟩
          | true => exact (h.validateAll hfault).1

end Functions

/-! ## One call -/

section Step

variable {s : LeaseState}

/-- The call follows the `mode_output` of an output whose connector is gone. -/
def faults (s : LeaseState) : LeaseAct → Bool
  | .create crtcs outputs answer => followsNull s ⟨crtcs, outputs, none⟩ answer
  | _ => false

/-- The lessee that the kernel grants in a call. -/
def granted (s : LeaseState) : LeaseAct → Option Lessee
  | .create crtcs outputs answer => grantOf s ⟨crtcs, outputs, none⟩ answer
  | _ => none

theorem Kept.calls {s' : LeaseState} (h : Kept s s') :
    s'.fault = false ∧ (false = false → Held s') ∧ Move s.lists none s'.lists :=
  ⟨h.fault, fun _ => h.held, h.move⟩

/-- What a call does. -/
theorem Held.next (h : Held s) (hfault : s.fault = false) (act : LeaseAct) :
    (step s act).fault = faults s act ∧ (faults s act = false → Held (step s act)) ∧
      Move s.lists (granted s act) (step s act).lists := by
  rw [step, hfault, if_neg Bool.false_ne_true]
  cases act with
  | create crtcs outputs answer => exact h.create hfault ⟨crtcs, outputs, none⟩ answer
  | terminate k revoked =>
      show (rrTerminateLease s k revoked).fault = false ∧
        (false = false → Held (rrTerminateLease s k revoked)) ∧
        Move s.lists none (rrTerminateLease s k revoked).lists
      unfold rrTerminateLease
      cases hfind : s.leases.find? k with
      | none => exact ⟨hfault, fun _ => h, .idle _⟩
      | some lease => exact (h.terminate hfault hfind revoked).calls
  | setDesiredModes modesOk listOk =>
      cases modesOk with
      | false => exact ⟨hfault, fun _ => h, .idle _⟩
      | true => exact (h.validate hfault listOk).calls
  | enterVT modesOk listOk =>
      have hactive : Held { s with vtSema := true } := ⟨h.named, h.owns⟩
      cases modesOk with
      | false => exact ⟨hfault, fun _ => hactive, .idle _⟩
      | true => exact (hactive.validate hfault listOk).calls
  | leaveVT => exact ⟨hfault, fun _ => ⟨h.named, h.owns⟩, .idle _⟩
  | uevents resOk listOk =>
      cases resOk with
      | false => exact ⟨hfault, fun _ => h, .idle _⟩
      | true => exact (h.validate hfault listOk).calls
  | closed lesseeId => exact ⟨hfault, fun _ => ⟨h.named, h.owns⟩, .close _ lesseeId⟩

theorem step_fault (hfault : s.fault = true) (act : LeaseAct) : step s act = s := by
  unfold step
  rw [hfault]
  rfl

/-- The invariant of every run. -/
structure Inv (s : LeaseState) : Prop where
  held : s.fault = false → Held s
  covered : Covered s.lists

theorem inv_start (rrKey atomicModeset : Bool) : Inv (.start rrKey atomicModeset) where
  held := fun _ => ⟨(fun _ hlease => nomatch hlease), trivial, rfl⟩
  covered := ⟨List.nodup_nil, List.Sublist.slnil⟩

theorem Inv.next (h : Inv s) (act : LeaseAct) : Inv (step s act) := by
  cases hfault : s.fault with
  | true =>
      rw [step_fault hfault]
      exact h
  | false =>
      obtain ⟨hfaults, hheld, hmove⟩ := (h.held hfault).next hfault act
      exact ⟨fun hsafe => hheld (hfaults.symm.trans hsafe), hmove.covered h.covered⟩

end Step

/-! ## Runs -/

/-- The state after a run from a screen without leases. -/
abbrev leaseRun (rrKey atomicModeset : Bool) (acts : List LeaseAct) : LeaseState :=
  run step (.start rrKey atomicModeset) acts

/-- No NULL was followed, nothing is used after it was freed, freed twice or leaked: what is held
are the privates of the leases on the list, one each. -/
def Safe (s : LeaseState) : Prop := s.fault = false ∧ Owns s.mem s.privates

/-- No lease is asked for with an output whose connector is gone. -/
def Connected (s : LeaseState) (act : LeaseAct) : Prop := faults s act = false

/-- The id that the kernel gives out is not that of a lease on the list. -/
def NotReused (s : LeaseState) (act : LeaseAct) : Prop :=
  s.fault = false → ∀ e ∈ granted s act, ∀ l ∈ s.listed, l.lesseeId ≠ e.lesseeId

instance (s : LeaseState) (act : LeaseAct) : Decidable (NotReused s act) :=
  inferInstanceAs (Decidable (_ → _))

/-- **A run is safe exactly when every lease is asked for with connected outputs.** -/
theorem leases_safe_iff (rrKey atomicModeset : Bool) (acts : List LeaseAct) :
    Always step Safe (.start rrKey atomicModeset) acts ↔
      Guarded step Connected (.start rrKey atomicModeset) acts := by
  have hstart := inv_start rrKey atomicModeset
  refine always_iff_guarded (I := Inv) (fun s act h => h.next act) (fun s act h hsafe => ?_)
    hstart ⟨rfl, (hstart.held rfl).owns⟩ acts
  obtain ⟨hfaults, hheld, -⟩ := (h.held hsafe.1).next hsafe.1 act
  constructor
  · intro hnext
    exact hfaults.symm.trans hnext.1
  · intro hok
    exact ⟨hfaults.trans hok, (hheld hok).owns⟩

/-- A call keeps the names exactly when no id of the list is given out. -/
theorem named_step_iff {s : LeaseState} (h : Inv s) (hnamed : Named s.lists) (act : LeaseAct) :
    Named (step s act).lists ↔ NotReused s act := by
  cases hfault : s.fault with
  | true =>
      rw [step_fault hfault]
      exact iff_of_true hnamed fun hsafe => absurd (hfault.symm.trans hsafe) (by decide)
  | false =>
      have hmove := ((h.held hfault).next hfault act).2.2
      rw [hmove.named_iff h.covered hnamed]
      exact ⟨fun hok _ e he => hok e he, fun hok e he => hok hfault e he⟩

theorem named_start (rrKey atomicModeset : Bool) :
    Named (LeaseState.start rrKey atomicModeset).lists := fun _ hl => nomatch hl

/-- **The id of a lease on the list names its own lessee, or none, exactly as long as the kernel
gives out no id that a lease on the list still has.** -/
theorem lease_named_iff (rrKey atomicModeset : Bool) (acts : List LeaseAct) :
    Always step (fun s => Named s.lists) (.start rrKey atomicModeset) acts ↔
      Guarded step NotReused (.start rrKey atomicModeset) acts :=
  always_iff_guarded (I := Inv) (fun _ act h => h.next act)
    (fun _ act h hnamed => named_step_iff h hnamed act) (inv_start rrKey atomicModeset)
    (named_start rrKey atomicModeset) acts

/-- The call compares the list with the kernel's. -/
def asks (s : LeaseState) : LeaseAct → Bool
  | .setDesiredModes modesOk listOk => !s.fault && s.rrKey && s.vtSema && modesOk && listOk
  | .uevents resOk listOk => !s.fault && s.rrKey && s.vtSema && resOk && listOk
  | .enterVT modesOk listOk => !s.fault && s.rrKey && modesOk && listOk
  | _ => false

theorem validate_lists {s : LeaseState} (hheld : Held s) (hcovered : Covered s.lists)
    (hnamed : Named s.lists) (hfault : s.fault = false) (hkey : s.rrKey = true)
    (hvt : s.vtSema = true) : (drmmodeValidateLeases s true).lists = ⟨s.kernel, s.kernel⟩ := by
  rw [drmmodeValidateLeases, hkey, hvt]
  exact (hheld.validateAll hfault).2.trans (congrArg (Lists.mk · s.kernel)
    (sweep_eq hcovered hnamed))

theorem Inv.validated {s : LeaseState} (h : Inv s) (hnamed : Named s.lists) {act : LeaseAct}
    (hasks : asks s act = true) : (step s act).lists = ⟨s.kernel, s.kernel⟩ := by
  cases act with
  | setDesiredModes modesOk listOk =>
      simp only [asks, Bool.and_eq_true, Bool.not_eq_true'] at hasks
      obtain ⟨⟨⟨⟨hfault, hkey⟩, hvt⟩, rfl⟩, rfl⟩ := hasks
      rw [step, hfault]
      exact validate_lists (h.held hfault) h.covered hnamed hfault hkey hvt
  | uevents resOk listOk =>
      simp only [asks, Bool.and_eq_true, Bool.not_eq_true'] at hasks
      obtain ⟨⟨⟨⟨hfault, hkey⟩, hvt⟩, rfl⟩, rfl⟩ := hasks
      rw [step, hfault]
      exact validate_lists (h.held hfault) h.covered hnamed hfault hkey hvt
  | enterVT modesOk listOk =>
      simp only [asks, Bool.and_eq_true, Bool.not_eq_true'] at hasks
      obtain ⟨⟨⟨hfault, hkey⟩, rfl⟩, rfl⟩ := hasks
      have hactive : Held { s with vtSema := true } :=
        ⟨(h.held hfault).named, (h.held hfault).owns⟩
      rw [step, hfault]
      exact validate_lists hactive h.covered hnamed hfault hkey rfl
  | create _ _ _ | terminate _ _ | leaveVT | closed _ => cases hasks

/-- **No lessee is lost**: whatever the kernel still has belongs to a lease on the list, which
keeps its id and was asked for with its objects. -/
theorem lessees_listed (rrKey atomicModeset : Bool) (acts : List LeaseAct) :
    Always step (fun s => ∀ e ∈ s.kernel, ∃ lease n, s.leases.find? e.owner = some lease ∧
      lease.devPrivate = some n ∧ (s.priv n).lesseeId = e.lesseeId ∧
      leaseObjects s.atomicModeset lease = some e.objects)
      (.start rrKey atomicModeset) acts := by
  refine (always_of_step (P := Inv) (fun s act h => h.next act)
    (inv_start rrKey atomicModeset) acts).mono fun s h e he => ?_
  obtain ⟨lease, hfind, hl⟩ := mem_listed.mp (h.covered.sublist.subset he)
  obtain ⟨n, hn, hl⟩ := Option.bind_eq_some_iff.mp hl
  obtain ⟨objects, hobjects, hl⟩ := Option.map_eq_some_iff.mp hl
  refine ⟨lease, n, hfind, hn, congrArg Lessee.lesseeId hl, ?_⟩
  rw [hobjects, ← hl]

/-- **After a call that has asked the kernel, the leases on the list are the kernel's lessees**, in
every run in which no id is given out that is still on the list. -/
theorem validated_leases (rrKey atomicModeset : Bool) (acts : List LeaseAct)
    (hreused : Guarded step NotReused (.start rrKey atomicModeset) acts) (act : LeaseAct)
    (hasks : asks (leaseRun rrKey atomicModeset acts) act = true) :
    (leaseRun rrKey atomicModeset (acts ++ [act])).lists =
      ⟨(leaseRun rrKey atomicModeset acts).kernel, (leaseRun rrKey atomicModeset acts).kernel⟩ := by
  have hlast : leaseRun rrKey atomicModeset (acts ++ [act]) =
      step (leaseRun rrKey atomicModeset acts) act := run_append step _ acts [act]
  obtain ⟨hinv, hnamed⟩ := (Guarded.always
    (P := fun s => Inv s ∧ Named s.lists)
    (fun s act h hok => ⟨h.1.next act, (named_step_iff h.1 h.2 act).mpr hok⟩)
    ⟨inv_start rrKey atomicModeset, named_start rrKey atomicModeset⟩ hreused).last
  rw [hlast]
  exact hinv.validated hnamed hasks

/-- A run with two leases, whose first client is gone. -/
def playedLeases : List LeaseAct :=
  [.create [⟨41, 31⟩] [some 51] ⟨true, true, some (9, 1)⟩, .leaveVT,
    .create [⟨42, 32⟩] [some 52] ⟨true, true, some (10, 2)⟩, .closed 1]

theorem validated_leases_played :
    (leaseRun true true (playedLeases ++ [.enterVT true true])).lists =
      ⟨(leaseRun true true playedLeases).kernel, (leaseRun true true playedLeases).kernel⟩ :=
  validated_leases true true playedLeases (by decide) (.enterVT true true) (by decide)

-- The id of a lease that is gone is given out again before the hotplug event is handled: both stay
-- on the list, and ending the first one ends the second one's lease.
example :
    let s := leaseRun true true
      [.create [⟨41, 31⟩] [some 51] ⟨true, true, some (9, 1)⟩, .closed 1,
        .create [⟨42, 32⟩] [some 52] ⟨true, true, some (10, 1)⟩, .uevents true true]
    s.listed.map Lessee.owner = [1, 0] ∧ s.kernel.map Lessee.owner = [1] ∧
      (step s (.terminate 0 true)).kernel = [] := by
  decide

end LoongsonVideo.Driver.Leases
