import LoongsonVideo.Driver.ExaPixmap
import LoongsonVideo.Verified.Machine
import Mathlib.Algebra.BigOperators.Group.List.Basic
import Mathlib.Algebra.Order.Group.Multiset
import Mathlib.Tactic.Abel

/-!
# The ledger of EXA pixmaps

What a pixmap owns is read off its private: the private itself, its `malloc` block,
its buffer object if `owned` says so, and its descriptor if `fd` is positive
(`holds`).  In a good state exactly what the pixmaps and the callers own is held, so
that when they are all gone nothing is.

Several branches break this, each by itself: `LS_CreateDumbPixmap` stores its
descriptor nowhere and leaves the private behind when the export fails,
`LS_CreateExaPixmap` frees a field of the private instead of the private,
`ms_exa_set_pixmap_bo` lets go of the old buffer before it knows that it has a new one,
and `LS_DestroyExaPixmap` does not look at the buffer object and the descriptor.
`Clean` says, before each step, that none of these branches is taken.
-/

namespace LoongsonVideo.Driver.ExaPixmapLedger

open LoongsonVideo.Driver.ExaPixmap
open LoongsonVideo.Verified.Ledger
open LoongsonVideo.Verified.Machine

/-! ## Runs -/

/-- One call.  `importBo` and `callerDestroys` are what the callers of
`ms_exa_set_pixmap_bo` do with a buffer object that is not, or not yet, a pixmap's. -/
inductive ExaOp where
  | create (call : CreateCall)
  | importBo (pitch size : UInt32) (a : ImportDumb)
  | setBo (p b : Nat) (owned : Bool) (a : SetAnswer)
  | exchange (front back : Nat)
  | destroy (p : Nat) (ioctlOk : Bool)
  | callerDestroys (b : Nat) (ioctlOk : Bool)
  deriving DecidableEq, Repr

/-- A call that names a pixmap that does not exist, or a buffer object the caller does
not own, is not made. -/
def exaStep (s : ExaState) : ExaOp → ExaState
  | .create call => (msExaCreatePixmap2 s call).1
  | .importBo pitch size a =>
      match dumbGetBoFromFd s pitch size a with
      | (s, none) => s
      | (s, some b) => { s with callerBos := b :: s.callerBos }
  | .setBo p b owned a =>
      if p ∈ s.live ∧ b ∈ s.callerBos then
        match msExaSetPixmapBo s p b owned a with
        | (s, true) => if owned then { s with callerBos := s.callerBos.erase b } else s
        | (s, false) => s
      else s
  | .exchange front back =>
      if front ∈ s.live ∧ back ∈ s.live then msExaExchangeBuffers s front back else s
  | .destroy p ioctlOk => if p ∈ s.live then msExaDestroyPixmap s p ioctlOk else s
  | .callerDestroys b ioctlOk =>
      if b ∈ s.callerBos then
        dumbBoDestroy { s with callerBos := s.callerBos.erase b } b ioctlOk
      else s

/-- Before the first pixmap.  The tables are what the heap happens to hold; `nextFd`
is the first descriptor the kernel will hand out. -/
def start (exaDrvPtr : Bool) (nextFd : Nat) : ExaState where
  exaDrvPtr := exaDrvPtr
  privs := fun _ => ExaPixmapPriv.new 0
  bos := fun _ => ⟨0, none, 0⟩
  pixmaps := fun _ => ⟨0, 0, 0, 0, 0, none⟩
  live := []
  callerBos := []
  next := 0
  nextFd := nextFd
  log := []

/-- **The property.** Everything is released at most once, and only as what it was
acquired as; and when all pixmaps are destroyed, and no caller keeps a buffer object
it imported, nothing is held. -/
def Sound (s : ExaState) : Prop :=
  Lawful s.log ∧ (∀ x, releases s.log x ≤ 1) ∧
    (s.live = [] → s.callerBos = [] → held s.log = [])

/-- The private owns a descriptor or a buffer object. -/
def ownsBuffer (priv : ExaPixmapPriv) : Bool :=
  decide (priv.fd > 0) || (priv.owned && priv.bo.isSome)

/-- `LS_CreateDumbPixmap` gets as far as a buffer object. -/
def getsDumb (c : CreateCall) : Bool :=
  c.callocOk && !(decide (c.width = 0) && decide (c.height = 0)) && c.createDumb.callocOk &&
    c.createDumb.reply.isSome

/-- **The condition** on a call and the state before it:

* no pixmap with a dumb hint and a size gets its buffer object;
* `malloc` does not fail for a pixmap of the other kind;
* a buffer object is replaced only if the old one, if owned, is destroyed and the new
  one exported, to a positive descriptor, or there is no old one;
* a pixmap of the other kind owns no buffer object or descriptor when destroyed;
* the kernel destroys the buffer objects it is asked to destroy. -/
def Clean (s : ExaState) : ExaOp → Bool
  | .create c =>
      if lsIsDumbPixmap c.usageHint then !getsDumb c
      else !c.callocOk || !c.hasSize || c.mallocOk
  | .importBo _ _ _ => true
  | .setBo p _ _ a =>
      !s.exaDrvPtr ||
        ((!(s.privs p).owned || (s.privs p).bo.isNone || a.destroyOk) &&
          if a.primeOk then decide (0 < s.nextFd) else !ownsBuffer (s.privs p))
  | .exchange _ _ => true
  | .destroy p ioctlOk =>
      if lsIsDumbPixmap (s.privs p).usageHint then
        !(s.privs p).owned || (s.privs p).bo.isNone || ioctlOk
      else !ownsBuffer (s.privs p)
  | .callerDestroys _ ioctlOk => ioctlOk

/-! ## What is owned -/

def blockOf (buf : LoongsonBuf) : Multiset Resource :=
  match buf.pDat with
  | none => 0
  | some block => {.buf block}

def boOf (priv : ExaPixmapPriv) : Multiset Resource :=
  match priv.owned, priv.bo with
  | true, some b => {.bo b}
  | _, _ => 0

def fdOf (fd : Int) : Multiset Resource := if fd > 0 then {.fd fd.toNat} else 0

/-- What a pixmap owns. -/
def holds (p : Nat) (priv : ExaPixmapPriv) : Multiset Resource :=
  {.priv p} + (blockOf priv.buf + (boOf priv + fdOf priv.fd))

/-- What some pixmaps own together. -/
def holdsAll (live : List Nat) (privs : Nat → ExaPixmapPriv) : Multiset Resource :=
  (live.map fun p => holds p (privs p)).sum

/-- What the callers own. -/
def callersOwn (bos : List Nat) : Multiset Resource := (bos.map Resource.bo : List Resource)

/-- The number of a thing has been given out. -/
def Made (s : ExaState) : Resource → Prop
  | .priv p => p < s.next
  | .bufField _ => False
  | .buf block => block < s.next
  | .bo b => b < s.next
  | .fd n => n < s.nextFd

/-- Exactly `owned` is held, and nothing was acquired twice. -/
structure Inv (owned : Multiset Resource) (s : ExaState) : Prop where
  owns : Owns s.log owned
  once : ∀ x, acquires s.log x ≤ 1
  fresh : ∀ x, ¬ Made s x → acquires s.log x = 0

/-- A state between two calls. -/
structure Good (s : ExaState) : Prop where
  inv : Inv (holdsAll s.live s.privs + callersOwn s.callerBos) s
  nodup : s.live.Nodup
  dumb : ∀ p ∈ s.live, lsIsDumbPixmap (s.privs p).usageHint → (s.privs p).buf.pDat = none

theorem holdsAll_cons (p : Nat) (live : List Nat) (privs : Nat → ExaPixmapPriv) :
    holdsAll (p :: live) privs = holds p (privs p) + holdsAll live privs := by
  simp [holdsAll]

/-- One pixmap's share, and the others'. -/
theorem holdsAll_erase {live : List Nat} {p : Nat} (hp : p ∈ live)
    (privs : Nat → ExaPixmapPriv) :
    holdsAll live privs = holds p (privs p) + holdsAll (live.erase p) privs := by
  have hperm := (List.perm_cons_erase hp).map fun p => holds p (privs p)
  simp only [holdsAll, hperm.sum_eq, List.map_cons, List.sum_cons]

/-- The others do not notice a change of one private. -/
theorem holdsAll_update {live : List Nat} {p : Nat} (hp : p ∉ live)
    (privs : Nat → ExaPixmapPriv) (priv : ExaPixmapPriv) :
    holdsAll live (Function.update privs p priv) = holdsAll live privs := by
  refine congrArg List.sum (List.map_congr_left fun q hq => ?_)
  have hne : q ≠ p := fun heq => hp (heq ▸ hq)
  simp [hne]

theorem callersOwn_erase {bos : List Nat} {b : Nat} (hb : b ∈ bos) :
    callersOwn bos = {.bo b} + callersOwn (bos.erase b) := by
  have hperm := (List.perm_cons_erase hb).map Resource.bo
  rw [callersOwn, callersOwn, Multiset.coe_eq_coe.mpr hperm, List.map_cons,
    ← Multiset.cons_coe, Multiset.singleton_add]

/-! ## Rules for the parts of the calls -/

section Rules

variable {owned rest : Multiset Resource} {s : ExaState}

theorem Inv.congr {owned' : Multiset Resource} (h : Inv owned s) (heq : owned = owned') :
    Inv owned' s := heq ▸ h

theorem Inv.touch (h : Inv owned s) {x : Resource} (hx : x ∈ owned) :
    Inv owned (s.act (.touch x)) where
  owns := h.owns.touch hx
  once := fun y => by simpa [ExaState.act] using h.once y
  fresh := fun y hy => by simpa [ExaState.act] using h.fresh y hy

theorem Inv.release {x : Resource} (h : Inv ({x} + rest) s) :
    Inv rest (s.act (.release x)) where
  owns := h.owns.release (Multiset.singleton_add x rest)
  once := fun y => by simpa [ExaState.act] using h.once y
  fresh := fun y hy => by simpa [ExaState.act] using h.fresh y hy

/-- The log of an acquisition under a new number. -/
theorem Inv.acquire (h : Inv owned s) {s' : ExaState} {x : Resource}
    (hlog : s'.log = .acquire x :: s.log) (hnew : ¬ Made s x) (hmade : Made s' x)
    (hmono : ∀ y, Made s y → Made s' y) : Inv ({x} + owned) s' where
  owns := by
    rw [hlog, Multiset.singleton_add]
    exact h.owns.acquire (h.owns.notMem_of_acquires (h.fresh x hnew))
  once := fun y => by
    rw [hlog, acquires_acquire]
    have hy := h.once y
    split
    · next heq =>
        subst heq
        have := h.fresh x hnew
        omega
    · omega
  fresh := fun y hy => by
    have hne : x ≠ y := fun heq => hy (heq ▸ hmade)
    rw [hlog, acquires_acquire, if_neg hne, h.fresh y fun hin => hy (hmono y hin)]

theorem made_next {s s' : ExaState} (hnext : s.next ≤ s'.next) (hfd : s.nextFd ≤ s'.nextFd) :
    ∀ y, Made s y → Made s' y := by
  intro y hy
  cases y with
  | priv p => exact Nat.lt_of_lt_of_le hy hnext
  | bufField p => exact hy
  | buf block => exact Nat.lt_of_lt_of_le hy hnext
  | bo b => exact Nat.lt_of_lt_of_le hy hnext
  | fd n => exact Nat.lt_of_lt_of_le hy hfd

/-- The invariant reads the log and the two counters only. -/
theorem Inv.frame (h : Inv owned s) {s' : ExaState} (hlog : s'.log = s.log)
    (hnext : s'.next = s.next) (hfd : s'.nextFd = s.nextFd) : Inv owned s' where
  owns := by rw [hlog]; exact h.owns
  once := by rw [hlog]; exact h.once
  fresh := fun x hx => by
    rw [hlog]
    exact h.fresh x fun hin => hx (made_next hnext.ge hfd.ge x hin)

theorem closeFd_inv {fd : Int} (h : Inv (fdOf fd + rest) s) : Inv rest (closeFd s fd) := by
  simp only [closeFd, fdOf] at h ⊢
  split
  · next hpos => exact Inv.release (by simpa [hpos] using h)
  · next hpos => exact h.congr (by simp [hpos])

theorem dumbBoDestroy_inv {b : Nat} (h : Inv ({.bo b} + rest) s) :
    Inv rest (dumbBoDestroy s b true) := by
  have htouched := h.touch (Multiset.mem_add.mpr (Or.inl (Multiset.mem_singleton_self _)))
  simp only [dumbBoDestroy, if_true]
  exact Inv.release (htouched.frame rfl rfl rfl)

theorem destroyOwned_inv {priv : ExaPixmapPriv} {ioctlOk : Bool}
    (hok : (!priv.owned || priv.bo.isNone || ioctlOk) = true) (h : Inv (boOf priv + rest) s) :
    Inv rest (destroyOwned s priv ioctlOk) := by
  cases howned : priv.owned with
  | false =>
      have heq : destroyOwned s priv ioctlOk = s := by simp [destroyOwned, howned]
      rw [heq]
      exact h.congr (by simp [boOf, howned])
  | true =>
      cases hbo : priv.bo with
      | none =>
          have heq : destroyOwned s priv ioctlOk = s := by simp [destroyOwned, hbo]
          rw [heq]
          exact h.congr (by simp [boOf, hbo])
      | some b =>
          have hioctl : ioctlOk = true := by simpa [howned, hbo] using hok
          subst hioctl
          simp only [destroyOwned, howned, hbo]
          exact dumbBoDestroy_inv (h.congr (by simp [boOf, howned, hbo]))

/-- A successful export adds a descriptor. -/
theorem drmPrimeHandleToFD_inv {b : Nat} (h : Inv owned s) (hb : .bo b ∈ owned) :
    Inv ({.fd s.nextFd} + owned) (drmPrimeHandleToFD s b true).1 := by
  refine (h.touch hb).acquire rfl ?_ ?_ (made_next (Nat.le_refl _) (Nat.le_succ _))
  · exact Nat.lt_irrefl _
  · exact Nat.lt_succ_self _

end Rules

/-! ## What the parts leave alone -/

/-- Only the log and the buffer objects changed. -/
structure Kept (s s' : ExaState) : Prop where
  privs : s'.privs = s.privs
  live : s'.live = s.live
  callerBos : s'.callerBos = s.callerBos
  nextFd : s'.nextFd = s.nextFd

theorem Kept.trans {s t u : ExaState} (h : Kept s t) (h' : Kept t u) : Kept s u :=
  ⟨h'.privs.trans h.privs, h'.live.trans h.live, h'.callerBos.trans h.callerBos,
    h'.nextFd.trans h.nextFd⟩

theorem kept_act (s : ExaState) (a : Act Resource) : Kept s (s.act a) := ⟨rfl, rfl, rfl, rfl⟩

theorem kept_closeFd (s : ExaState) (fd : Int) : Kept s (closeFd s fd) := by
  simp only [closeFd]
  split
  · exact kept_act s _
  · exact ⟨rfl, rfl, rfl, rfl⟩

theorem kept_dumbBoDestroy (s : ExaState) (b : Nat) (ioctlOk : Bool) :
    Kept s (dumbBoDestroy s b ioctlOk) := by
  cases ioctlOk <;> exact ⟨rfl, rfl, rfl, rfl⟩

theorem kept_destroyOwned (s : ExaState) (priv : ExaPixmapPriv) (ioctlOk : Bool) :
    Kept s (destroyOwned s priv ioctlOk) := by
  simp only [destroyOwned]
  split
  · exact kept_dumbBoDestroy s _ _
  · exact ⟨rfl, rfl, rfl, rfl⟩

/-! ## Creation -/

section Create

variable {owned : Multiset Resource} {s : ExaState}

theorem newPriv_inv (h : Inv owned s) (usageHint : UInt32) :
    Inv ({.priv s.next} + owned) (newPriv s usageHint) := by
  refine h.acquire rfl ?_ ?_ (made_next (Nat.le_succ _) (Nat.le_refl _))
  · exact Nat.lt_irrefl _
  · exact Nat.lt_succ_self _

/-- What is left alone by the creation of a pixmap: the other privates. -/
structure Created (s s' : ExaState) : Prop where
  live : s'.live = s.live
  callerBos : s'.callerBos = s.callerBos
  privs : ∀ p, p ≠ s.next → s'.privs p = s.privs p

/-- What a creation gives: nothing, or a new pixmap that owns what it holds. -/
def Creates (owned : Multiset Resource) (s : ExaState) :
    ExaState × Option (Nat × Option Int) → Prop
  | (s', none) => Inv owned s' ∧ Created s s'
  | (s', some (p, _)) =>
      p = s.next ∧ Inv (holds p (s'.privs p) + owned) s' ∧ Created s s' ∧
        (lsIsDumbPixmap (s'.privs p).usageHint → (s'.privs p).buf.pDat = none)

theorem created_newPriv (s : ExaState) (usageHint : UInt32) :
    Created s (newPriv s usageHint) :=
  ⟨rfl, rfl, fun _ hp => Function.update_of_ne hp _ _⟩

/-- A private with no memory behind it. -/
theorem creates_empty (h : Inv owned s) (usageHint : UInt32) (pitch : Option Int) :
    Creates owned s (newPriv s usageHint, some (s.next, pitch)) := by
  have hpriv : (newPriv s usageHint).privs s.next = ExaPixmapPriv.new usageHint :=
    Function.update_self _ _ _
  refine ⟨rfl, (newPriv_inv h usageHint).congr ?_, created_newPriv s usageHint, fun _ => ?_⟩
  · rw [hpriv]
    simp [holds, ExaPixmapPriv.new, blockOf, boOf, fdOf, LoongsonBuf.zero]
  · rw [hpriv]
    rfl

theorem lsCreateDumbPixmap_creates (h : Inv owned s) (c : CreateCall)
    (hclean : getsDumb c = false) : Creates owned s (lsCreateDumbPixmap s c) := by
  simp only [lsCreateDumbPixmap]
  split
  · exact ⟨h, rfl, rfl, fun _ _ => rfl⟩
  · next hcalloc =>
      split
      · exact creates_empty h c.usageHint none
      · next hsize =>
          have hnone : dumbBoCreate (newPriv s c.usageHint) c.createDumb =
              (newPriv s c.usageHint, none) := by
            simp only [getsDumb] at hclean
            unfold dumbBoCreate
            split
            · simp_all
            · rfl
          simp only [hnone]
          have hnew := created_newPriv s c.usageHint
          exact ⟨(newPriv_inv h c.usageHint).release, hnew.live, hnew.callerBos, hnew.privs⟩

theorem lsCreateExaPixmap_creates (h : Inv owned s) (c : CreateCall)
    (hkind : lsIsDumbPixmap c.usageHint = false)
    (hclean : (!c.callocOk || !c.hasSize || c.mallocOk) = true) :
    Creates owned s (lsCreateExaPixmap s c) := by
  simp only [lsCreateExaPixmap]
  split
  · exact ⟨h, rfl, rfl, fun _ _ => rfl⟩
  · next hcalloc =>
      split
      · next hsize =>
          have hmalloc : c.mallocOk = true := by simpa [hcalloc, hsize] using hclean
          simp only [lsAllocBuf, hmalloc, if_true]
          have hnew := newPriv_inv h c.usageHint
          have hblock : Inv ({.buf (newPriv s c.usageHint).next} +
              ({.priv s.next} + owned)) ((newPriv s c.usageHint).allocate .buf) :=
            hnew.acquire rfl (Nat.lt_irrefl _) (Nat.lt_succ_self _)
              (made_next (Nat.le_succ _) (Nat.le_refl _))
          refine ⟨rfl, (hblock.congr ?_).frame rfl rfl rfl, ⟨rfl, rfl, fun p hp => ?_⟩,
            fun hdumb => ?_⟩
          · simp [holds, ExaState.setPriv, ExaState.allocate, ExaState.act, newPriv,
              ExaPixmapPriv.new, blockOf, boOf, fdOf]
          · simp [ExaState.setPriv, ExaState.allocate, ExaState.act, newPriv, hp]
          · simp [ExaState.setPriv, ExaState.allocate, ExaState.act, newPriv,
              ExaPixmapPriv.new, hkind] at hdumb
      · exact creates_empty h c.usageHint (some 0)

end Create

/-! ## Steps -/

section Steps

variable {s : ExaState}

/-- A pixmap that exists has its number from the counter. -/
theorem Good.lt_next (h : Good s) {p : Nat} (hp : p ∈ s.live) : p < s.next := by
  by_contra hge
  have hzero := h.inv.fresh (.priv p) hge
  refine h.inv.owns.notMem_of_acquires hzero ?_
  rw [holdsAll_erase hp]
  simp [holds]

theorem create_good (h : Good s) (c : CreateCall) (hclean : Clean s (.create c)) :
    Good (exaStep s (.create c)) := by
  have hcreates : Creates (holdsAll s.live s.privs + callersOwn s.callerBos) s
      (if lsIsDumbPixmap c.usageHint then lsCreateDumbPixmap s c
        else lsCreateExaPixmap s c) := by
    simp only [Clean] at hclean
    split at hclean
    · next hdumb =>
        rw [if_pos hdumb]
        exact lsCreateDumbPixmap_creates h.inv c (by simpa using hclean)
    · next hdumb =>
        rw [if_neg hdumb]
        exact lsCreateExaPixmap_creates h.inv c (by simpa using hdumb) hclean
  simp only [exaStep, msExaCreatePixmap2]
  generalize (if lsIsDumbPixmap c.usageHint = true then lsCreateDumbPixmap s c
    else lsCreateExaPixmap s c) = out at hcreates ⊢
  obtain ⟨s', result⟩ := out
  have hothers : ∀ {s' : ExaState}, Created s s' → holdsAll s.live s'.privs =
      holdsAll s.live s.privs := by
    intro s' hcreated
    refine congrArg List.sum (List.map_congr_left fun p hp => ?_)
    rw [hcreated.privs p (Nat.ne_of_lt (h.lt_next hp))]
  cases result with
  | none =>
      obtain ⟨hinv, hcreated⟩ := hcreates
      refine ⟨hinv.congr ?_, hcreated.live ▸ h.nodup, fun p hp => ?_⟩
      · rw [hcreated.live, hcreated.callerBos, hothers hcreated]
      · rw [hcreated.live] at hp
        rw [hcreated.privs p (Nat.ne_of_lt (h.lt_next hp))]
        exact h.dumb p hp
  | some made =>
      obtain ⟨p, pitch⟩ := made
      obtain ⟨rfl, hinv, hcreated, hdumb⟩ := hcreates
      refine ⟨(hinv.congr ?_).frame rfl rfl rfl, ?_, fun p hp => ?_⟩
      · simp only [holdsAll_cons, hcreated.live, hcreated.callerBos, hothers hcreated]
        abel
      · simp only [hcreated.live]
        exact List.nodup_cons.mpr ⟨fun hin => Nat.lt_irrefl _ (h.lt_next hin), h.nodup⟩
      · rcases List.mem_cons.mp hp with rfl | hp
        · exact hdumb
        · rw [hcreated.live] at hp
          simp only [hcreated.privs p (Nat.ne_of_lt (h.lt_next hp))]
          exact h.dumb p hp

theorem importBo_good (h : Good s) (pitch size : UInt32) (a : ImportDumb) :
    Good (exaStep s (.importBo pitch size a)) := by
  simp only [exaStep, dumbGetBoFromFd]
  cases a.callocOk with
  | false => exact h
  | true =>
      cases a.primeFDToHandleOk with
      | false => exact h
      | true =>
          simp only [Bool.not_true, Bool.false_eq_true, if_false]
          have hbo : Inv ({.bo s.next} + (holdsAll s.live s.privs + callersOwn s.callerBos))
              (s.allocate .bo) :=
            h.inv.acquire rfl (Nat.lt_irrefl _) (Nat.lt_succ_self _)
              (made_next (Nat.le_succ _) (Nat.le_refl _))
          refine ⟨(hbo.congr ?_).frame rfl rfl rfl, h.nodup, h.dumb⟩
          change _ = holdsAll s.live s.privs + callersOwn (s.next :: s.callerBos)
          rw [callersOwn_erase List.mem_cons_self, List.erase_cons_head]
          abel

/-- A private is exchanged for one that owns something else. -/
theorem good_update (h : Good s) {p : Nat} (hp : p ∈ s.live) {s' : ExaState}
    (priv : ExaPixmapPriv) (callers : List Nat)
    (hprivs : s'.privs = Function.update s.privs p priv) (hlive : s'.live = s.live)
    (hcallers : s'.callerBos = callers)
    (hinv : Inv (holds p priv + (holdsAll (s.live.erase p) s.privs + callersOwn callers)) s')
    (hdumb : lsIsDumbPixmap priv.usageHint → priv.buf.pDat = none) : Good s' where
  inv := by
    refine hinv.congr ?_
    have hrest : p ∉ s.live.erase p := h.nodup.not_mem_erase
    rw [hprivs, hlive, hcallers, holdsAll_erase hp, holdsAll_update hrest,
      Function.update_self]
    abel
  nodup := hlive ▸ h.nodup
  dumb := fun q hq => by
    rw [hlive] at hq
    rw [hprivs]
    by_cases hqp : q = p
    · subst hqp
      rwa [Function.update_self]
    · rw [Function.update_of_ne hqp]
      exact h.dumb q hq

theorem fdOf_eq_zero {priv : ExaPixmapPriv} (h : ownsBuffer priv = false) :
    fdOf priv.fd = 0 ∧ boOf priv = 0 := by
  simp only [ownsBuffer, Bool.or_eq_false_iff, decide_eq_false_iff_not] at h
  refine ⟨by simp [fdOf, h.1], ?_⟩
  cases howned : priv.owned <;> cases hbo : priv.bo <;> simp_all [boOf]

/-- The first half of `ms_exa_set_pixmap_bo`: the old descriptor and buffer object are
gone. -/
theorem dropOld_inv {p : Nat} {rest : Multiset Resource} {destroyOk : Bool}
    (h : Inv (holds p (s.privs p) + rest) s)
    (hok : (!(s.privs p).owned || (s.privs p).bo.isNone || destroyOk) = true) :
    Inv ({.priv p} + blockOf (s.privs p).buf + rest)
      (destroyOwned (closeFd (s.act (.touch (.priv p))) (s.privs p).fd) (s.privs p)
        destroyOk) := by
  have htouched := h.touch (x := .priv p) (by simp [holds])
  refine destroyOwned_inv hok (closeFd_inv (htouched.congr ?_))
  rw [holds]
  abel

theorem setBo_good (h : Good s) (p b : Nat) (owned : Bool) (a : SetAnswer)
    (hclean : Clean s (.setBo p b owned a)) : Good (exaStep s (.setBo p b owned a)) := by
  simp only [exaStep]
  split
  · next hcall =>
      obtain ⟨hp, hb⟩ := hcall
      cases hdrv : s.exaDrvPtr with
      | false => simpa [msExaSetPixmapBo, hdrv] using h
      | true =>
          simp only [Clean, hdrv, Bool.not_true, Bool.false_or, Bool.and_eq_true] at hclean
          obtain ⟨hdestroy, hprime⟩ := hclean
          have htotal := h.inv
          rw [holdsAll_erase hp, add_assoc] at htotal
          have hdropped := dropOld_inv htotal hdestroy
          have hkept := ((kept_act s (.touch (.priv p))).trans
            (kept_closeFd _ (s.privs p).fd)).trans
            (kept_destroyOwned _ (s.privs p) a.destroyOk)
          simp only [msExaSetPixmapBo, hdrv, Bool.not_true, Bool.false_eq_true, if_false]
          generalize destroyOwned (closeFd (s.act (.touch (.priv p))) (s.privs p).fd)
            (s.privs p) a.destroyOk = t at hdropped hkept ⊢
          have hbo : Resource.bo b ∈ {.priv p} + blockOf (s.privs p).buf +
              (holdsAll (s.live.erase p) s.privs + callersOwn s.callerBos) := by
            rw [callersOwn_erase hb]
            simp
          cases hok : a.primeOk with
          | false =>
              simp only [hok, Bool.false_eq_true, if_false, Bool.not_eq_true'] at hprime
              obtain ⟨hfd, hbo'⟩ := fdOf_eq_zero hprime
              simp only [drmPrimeHandleToFD, Bool.false_eq_true, if_false]
              refine good_update h hp (s.privs p) s.callerBos ?_ hkept.live hkept.callerBos
                ((hdropped.touch hbo).congr ?_) (h.dumb p hp)
              · rw [Function.update_eq_self]
                exact hkept.privs
              · rw [holds, hfd, hbo']
                abel
          | true =>
              simp only [hok, if_true, decide_eq_true_eq] at hprime
              have hexported := drmPrimeHandleToFD_inv hdropped hbo
              have hpositive : (t.nextFd : Int) > 0 := by
                rw [hkept.nextFd]
                exact_mod_cast hprime
              have hfd : fdOf (t.nextFd : Int) = {.fd t.nextFd} := by
                rw [fdOf, if_pos hpositive, Int.toNat_natCast]
              simp only [drmPrimeHandleToFD, if_true] at hexported ⊢
              cases owned with
              | false =>
                  simp only [Bool.false_eq_true, if_false]
                  refine good_update h hp _ s.callerBos
                    (congrArg (fun privs => Function.update privs p _) hkept.privs) hkept.live
                    hkept.callerBos ((hexported.congr ?_).frame rfl rfl rfl) ?_
                  · simp only [holds, ExaState.act, hkept.privs, hfd, boOf]
                    abel
                  · simpa [ExaState.act, hkept.privs] using h.dumb p hp
              | true =>
                  simp only [if_true]
                  refine good_update h hp _ (s.callerBos.erase b)
                    (congrArg (fun privs => Function.update privs p _) hkept.privs) hkept.live
                    (congrArg (fun bos => List.erase bos b) hkept.callerBos)
                    ((hexported.congr ?_).frame rfl rfl rfl) ?_
                  · simp only [holds, ExaState.act, hkept.privs, hfd, boOf,
                      callersOwn_erase hb]
                    abel
                  · simpa [ExaState.act, hkept.privs] using h.dumb p hp
  · exact h

theorem exchange_good (h : Good s) (front back : Nat) :
    Good (exaStep s (.exchange front back)) := by
  simp only [exaStep]
  split
  · next hcall =>
      obtain ⟨hfront, hback⟩ := hcall
      have hmem : ∀ {p}, p ∈ s.live → Resource.priv p ∈
          holdsAll s.live s.privs + callersOwn s.callerBos := by
        intro p hp
        rw [holdsAll_erase hp]
        simp [holds]
      have htouched := (h.inv.touch (hmem hfront)).touch (hmem hback)
      have hprivs : (msExaExchangeBuffers s front back).privs =
          Function.update (Function.update s.privs front (s.privs back)) back
            (s.privs front) := rfl
      have hhint : ∀ q ∈ s.live, ∃ r ∈ s.live,
          (msExaExchangeBuffers s front back).privs q = s.privs r := by
        intro q hq
        rw [hprivs]
        by_cases hqb : q = back
        · exact ⟨front, hfront, by simp [hqb]⟩
        · by_cases hqf : q = front
          · subst hqf
            exact ⟨back, hback, by simp [Function.update_of_ne hqb]⟩
          · exact ⟨q, hq, by simp [hqb, hqf]⟩
      refine ⟨(htouched.congr ?_).frame rfl rfl rfl, h.nodup, fun q hq hd => ?_⟩
      · rw [hprivs]
        change _ = holdsAll s.live _ + callersOwn s.callerBos
        refine congrArg (· + callersOwn s.callerBos) ?_
        by_cases hne : back = front
        · subst hne
          simp
        · have hback' : back ∈ s.live.erase front := (List.mem_erase_of_ne hne).mpr hback
          have hnot : back ∉ (s.live.erase front).erase back :=
            (h.nodup.erase front).not_mem_erase
          have hnot' : front ∉ (s.live.erase front).erase back := fun hin =>
            h.nodup.not_mem_erase (List.mem_of_mem_erase hin)
          rw [holdsAll_erase hfront, holdsAll_erase hback', holdsAll_erase hfront,
            holdsAll_erase hback', holdsAll_update hnot, holdsAll_update hnot',
            Function.update_self, Function.update_of_ne (Ne.symm hne), Function.update_self]
          simp only [holds]
          abel
      · obtain ⟨r, hr, heq⟩ := hhint q hq
        rw [heq] at hd ⊢
        exact h.dumb r hr hd
  · exact h

theorem lsFreeBuf_inv {p : Nat} {rest : Multiset Resource}
    (h : Inv (blockOf (s.privs p).buf + rest) s) : Inv rest (lsFreeBuf s p) := by
  cases hblock : (s.privs p).buf.pDat with
  | none =>
      simp only [lsFreeBuf, hblock]
      exact h.congr (by simp [blockOf, hblock])
  | some block =>
      simp only [lsFreeBuf, hblock]
      have hrelease : Inv ({.buf block} + rest) s := h.congr (by simp [blockOf, hblock])
      exact hrelease.release.frame rfl rfl rfl

theorem lsFreeBuf_live (s : ExaState) (p : Nat) :
    (lsFreeBuf s p).live = s.live ∧ (lsFreeBuf s p).callerBos = s.callerBos ∧
      ∀ q, q ≠ p → (lsFreeBuf s p).privs q = s.privs q := by
  simp only [lsFreeBuf]
  split
  · exact ⟨rfl, rfl, fun _ _ => rfl⟩
  · exact ⟨rfl, rfl, fun q hq => Function.update_of_ne hq _ _⟩

/-- A pixmap is gone, and what it owned with it. -/
theorem good_remove (h : Good s) {p : Nat} {s' : ExaState}
    (hlive : s'.live = s.live.erase p) (hcallers : s'.callerBos = s.callerBos)
    (hprivs : ∀ q, q ≠ p → s'.privs q = s.privs q)
    (hinv : Inv (holdsAll (s.live.erase p) s.privs + callersOwn s.callerBos) s') :
    Good s' where
  inv := by
    refine hinv.congr ?_
    rw [hlive, hcallers]
    refine congrArg (· + callersOwn s.callerBos) (congrArg List.sum ?_)
    refine List.map_congr_left fun q hq => ?_
    have hne : q ≠ p := fun heq => h.nodup.not_mem_erase (heq ▸ hq)
    rw [hprivs q hne]
  nodup := hlive ▸ h.nodup.erase p
  dumb := fun q hq => by
    rw [hlive] at hq
    have hne : q ≠ p := fun heq => h.nodup.not_mem_erase (heq ▸ hq)
    rw [hprivs q hne]
    exact h.dumb q (List.mem_of_mem_erase hq)

theorem destroy_good (h : Good s) (p : Nat) (ioctlOk : Bool)
    (hclean : Clean s (.destroy p ioctlOk)) : Good (exaStep s (.destroy p ioctlOk)) := by
  simp only [exaStep]
  split
  · next hp =>
      have htotal := h.inv
      rw [holdsAll_erase hp, add_assoc] at htotal
      have htouched : Inv _ (({ s with live := s.live.erase p } : ExaState).act
          (.touch (.priv p))) :=
        (htotal.touch (x := .priv p) (by simp [holds])).frame rfl rfl rfl
      simp only [Clean] at hclean
      simp only [msExaDestroyPixmap]
      split
      · next hdumb =>
          have hblock := h.dumb p hp hdumb
          have hhint : lsIsDumbPixmap (s.privs p).usageHint = true := hdumb
          rw [if_pos hhint] at hclean
          have hkept := (kept_closeFd (({ s with live := s.live.erase p } : ExaState).act
            (.touch (.priv p))) (s.privs p).fd).trans
              (kept_destroyOwned _ (s.privs p) ioctlOk)
          have hparts : Inv (fdOf (s.privs p).fd + (boOf (s.privs p) + ({.priv p} +
              (holdsAll (s.live.erase p) s.privs + callersOwn s.callerBos)))) _ :=
            htouched.congr (by simp only [holds, blockOf, hblock]; abel)
          refine good_remove h hkept.live hkept.callerBos (fun q _ => congrFun hkept.privs q) ?_
          exact Inv.release (destroyOwned_inv hclean (closeFd_inv hparts))
      · next hexa =>
          have hhint : ¬ lsIsDumbPixmap (s.privs p).usageHint = true := hexa
          rw [if_neg hhint] at hclean
          obtain ⟨hfd, hbo⟩ := fdOf_eq_zero (by simpa using hclean)
          obtain ⟨hlive, hcallers, hprivs⟩ := lsFreeBuf_live
            (({ s with live := s.live.erase p } : ExaState).act (.touch (.priv p))) p
          have hparts : Inv (blockOf (s.privs p).buf + ({.priv p} +
              (holdsAll (s.live.erase p) s.privs + callersOwn s.callerBos))) _ :=
            htouched.congr (by simp only [holds, hfd, hbo]; abel)
          exact good_remove h hlive hcallers hprivs (Inv.release (lsFreeBuf_inv hparts))
  · exact h

theorem callerDestroys_good (h : Good s) (b : Nat) :
    Good (exaStep s (.callerDestroys b true)) := by
  simp only [exaStep]
  split
  · next hb =>
      have htotal := h.inv
      rw [callersOwn_erase hb] at htotal
      have hparts : Inv ({.bo b} + (holdsAll s.live s.privs +
          callersOwn (s.callerBos.erase b))) s := htotal.congr (by abel)
      exact ⟨dumbBoDestroy_inv (hparts.frame rfl rfl rfl), h.nodup, h.dumb⟩
  · exact h

/-- **Step rule.** -/
theorem exaStep_good (h : Good s) (op : ExaOp) (hclean : Clean s op) : Good (exaStep s op) := by
  cases op with
  | create call => exact create_good h call hclean
  | importBo pitch size a => exact importBo_good h pitch size a
  | setBo p b owned a => exact setBo_good h p b owned a hclean
  | exchange front back => exact exchange_good h front back
  | destroy p ioctlOk => exact destroy_good h p ioctlOk hclean
  | callerDestroys b ioctlOk =>
      have hok : ioctlOk = true := hclean
      subst hok
      exact callerDestroys_good h b

end Steps

theorem start_good (exaDrvPtr : Bool) (nextFd : Nat) : Good (start exaDrvPtr nextFd) where
  inv := ⟨⟨trivial, by simp [start, holdsAll, callersOwn]⟩, fun x => by simp [start, acquires],
    fun x _ => by simp [start, acquires]⟩
  nodup := List.nodup_nil
  dumb := fun p hp => by cases hp

theorem Good.sound {s : ExaState} (h : Good s) : Sound s := by
  refine ⟨h.inv.owns.lawful, fun x => ?_, fun hlive hcallers => ?_⟩
  · exact (h.inv.owns.lawful.releases_le x).trans (h.inv.once x)
  · have hheld := h.inv.owns.2
    rw [hlive, hcallers] at hheld
    simpa [holdsAll, callersOwn] using hheld

/-- **The ledger of EXA pixmaps.** In every run whose steps all meet the condition,
everything is released at most once and only as what it was acquired as, and nothing is
held when all pixmaps are destroyed. -/
theorem exa_ledger_sound (exaDrvPtr : Bool) (nextFd : Nat) (ops : List ExaOp)
    (hclean : Guarded exaStep (fun s op => Clean s op = true) (start exaDrvPtr nextFd) ops) :
    Always exaStep Sound (start exaDrvPtr nextFd) ops :=
  have hgood : Always exaStep Good (start exaDrvPtr nextFd) ops :=
    Guarded.always (fun _ op h hc => exaStep_good h op hc) (start_good exaDrvPtr nextFd) hclean
  hgood.mono fun _ => Good.sound

/-- A pixmap of the given size, hint and `malloc` answer; the kernel grants whatever
it is asked for. -/
def createCall (width height : Int) (usageHint : UInt32) (mallocOk : Bool) : CreateCall :=
  ⟨width, height, 24, 32, usageHint, true, mallocOk, ⟨true, some (16384, 256)⟩, true⟩

/-- An imported buffer goes to an empty pixmap, changes places with a `malloc` pixmap,
and both are destroyed. -/
theorem exa_ledger_sound_exchange :
    Always exaStep Sound (start true 3)
      [.create (createCall 0 0 usageBackingPixmap true), .importBo 256 16384 ⟨true, true⟩,
        .setBo 0 1 true ⟨true, true⟩, .create (createCall 64 64 0 true), .exchange 0 2,
        .destroy 0 true, .destroy 2 true] :=
  exa_ledger_sound true 3 _ (by decide)

/-- A dumb pixmap is created and destroyed. -/
def dumbPixmapGone : ExaState :=
  run exaStep (start true 3)
    [.create (createCall 64 64 usageBackingPixmap true), .destroy 0 true]

/-- A `malloc` pixmap gets no memory. -/
def mallocFailed : ExaState := exaStep (start true 3) (.create (createCall 64 64 0 false))

/-- **Two defects.** The descriptor of a dumb pixmap outlives it, and a `malloc` pixmap
that gets no memory has its `buf` field freed and its private leaked. -/
theorem exa_ledger_unsound :
    (dumbPixmapGone.live = [] ∧ dumbPixmapGone.callerBos = [] ∧
        held dumbPixmapGone.log = [.fd 3] ∧ ¬ Sound dumbPixmapGone) ∧
      mallocFailed.live = [] ∧ held mallocFailed.log = [.priv 0] ∧
        ¬ Lawful mallocFailed.log ∧ ¬ Sound mallocFailed := by
  refine ⟨⟨by decide, by decide, by decide, fun h => ?_⟩, by decide, by decide, by decide,
    fun h => ?_⟩
  · exact absurd (h.2.2 (by decide) (by decide)) (by decide)
  · exact absurd h.1 (by decide)

end LoongsonVideo.Driver.ExaPixmapLedger
