import LoongsonVideo.Driver.ExaAccess
import Mathlib.Logic.Equiv.Basic

/-!
# The memory that EXA pixmaps name

A private names a buffer object or a block of plain memory.  A block goes with its pixmap.  A
buffer object can be destroyed while a private still names it: `ms_exa_set_pixmap_bo` destroys
the old one before it has exported the new one, and a buffer object that a pixmap does not own
is destroyed by its owner, another pixmap or a caller.

* `namesHeld_step_iff`: when a call leaves no private with memory that was released.
* `aimed_iff`: when every pixmap's CPU pointer is to memory of its own that is still there.
-/

namespace LoongsonVideo.Driver.ExaAccess

open LoongsonVideo.Driver.ExaPixmap
open LoongsonVideo.Driver.ExaPixmapLedger
open LoongsonVideo.Verified.Ledger
open LoongsonVideo.Verified.Machine

/-! ## The property and the condition -/

def Released (s : ExaState) (x : Resource) : Prop := Act.release x ∈ s.log

/-- The memory that the private of a pixmap names. -/
def Names (s : ExaState) (p : Nat) : Resource → Prop
  | .bo b => (s.privs p).bo = some b
  | .buf block => (s.privs p).buf.pDat = some block
  | _ => False

/-- **The property**: no private of a pixmap names memory that has been released. -/
def NamesHeld (s : ExaState) : Prop := ∀ p ∈ s.live, ∀ x, Names s p x → ¬ Released s x

/-- The buffer object that `destroyOwned` destroys. -/
def ownedBo (priv : ExaPixmapPriv) (ioctlOk : Bool) : Option Nat :=
  if priv.owned && ioctlOk then priv.bo else none

/-- The buffer object that a call destroys. -/
def freedBo (s : ExaState) : ExaOp → Option Nat
  | .setBo p b _ a =>
      if p ∈ s.live ∧ b ∈ s.callerBos then
        if s.exaDrvPtr then ownedBo (s.privs p) a.destroyOk else none
      else none
  | .destroy p ioctlOk =>
      if p ∈ s.live then
        if lsIsDumbPixmap (s.privs p).usageHint then ownedBo (s.privs p) ioctlOk else none
      else none
  | .callerDestroys b ioctlOk =>
      if b ∈ s.callerBos then if ioctlOk then some b else none else none
  | _ => none

/-- The block of plain memory that a call frees. -/
def freedBlock (s : ExaState) : ExaOp → Option Nat
  | .destroy p _ =>
      if p ∈ s.live then
        if lsIsDumbPixmap (s.privs p).usageHint then none else (s.privs p).buf.pDat
      else none
  | _ => none

/-- The call destroys the pixmap, or gives it another buffer object. -/
def LetsGo (p : Nat) : ExaOp → Prop
  | .setBo q _ _ a => p = q ∧ a.primeOk = true
  | .destroy q _ => p = q
  | _ => False

/-- **The condition**: a buffer object is destroyed when no pixmap is left with it. -/
def KeepsMemory (s : RenderState) : RenderOp → Prop
  | .call op => ∀ b ∈ freedBo s.exa op, ∀ p ∈ s.exa.live, (s.exa.privs p).bo = some b → LetsGo p op
  | _ => True

/-! ## What a call releases -/

/-- Of the memory, this buffer object and this block are released. -/
structure Releases (s s' : ExaState) (bo block : Option Nat) : Prop where
  bos : ∀ b, Released s' (.bo b) ↔ bo = some b ∨ Released s (.bo b)
  blocks : ∀ k, Released s' (.buf k) ↔ block = some k ∨ Released s (.buf k)

/-- The callers keep what they have. -/
structure Frees (s s' : ExaState) (bo block : Option Nat) : Prop
    extends Releases s s' bo block where
  callers : s'.callerBos = s.callerBos
  next : s.next ≤ s'.next

section Frees

variable {s t u : ExaState} {bo block : Option Nat}

theorem frees_of_log (h : t.log = s.log) (hcallers : t.callerBos = s.callerBos)
    (hnext : t.next = s.next) : Frees s t none none where
  bos b := by simp [Released, h]
  blocks k := by simp [Released, h]
  callers := hcallers
  next := hnext.ge

theorem Frees.refl (s : ExaState) : Frees s s none none := frees_of_log rfl rfl rfl

theorem Frees.after (h : Frees s t none none) (h' : Frees t u bo block) : Frees s u bo block where
  bos b := by rw [h'.bos, h.bos]; simp
  blocks k := by rw [h'.blocks, h.blocks]; simp
  callers := h'.callers.trans h.callers
  next := h.next.trans h'.next

theorem Frees.quiet (h : Frees s t bo block) (h' : Frees t u none none) :
    Frees s u bo block where
  bos b := by rw [h'.bos, h.bos]; simp
  blocks k := by rw [h'.blocks, h.blocks]; simp
  callers := h'.callers.trans h.callers
  next := h.next.trans h'.next

variable (s)

theorem frees_touch (x : Resource) : Frees s (s.act (.touch x)) none none where
  bos b := by simp [Released, ExaState.act]
  blocks k := by simp [Released, ExaState.act]
  callers := rfl
  next := Nat.le_refl _

theorem frees_allocate (x : Nat → Resource) : Frees s (s.allocate x) none none where
  bos b := by simp [Released, ExaState.allocate, ExaState.act]
  blocks k := by simp [Released, ExaState.allocate, ExaState.act]
  callers := rfl
  next := Nat.le_succ _

theorem frees_setPriv (p : Nat) (priv : ExaPixmapPriv) :
    Frees s (s.setPriv p priv) none none := frees_of_log rfl rfl rfl

theorem frees_releaseBo (b : Nat) : Frees s (s.act (.release (.bo b))) (some b) none where
  bos b' := by simp [Released, ExaState.act, eq_comm]
  blocks k := by simp [Released, ExaState.act]
  callers := rfl
  next := Nat.le_refl _

theorem frees_releasePriv (p : Nat) : Frees s (s.act (.release (.priv p))) none none where
  bos b := by simp [Released, ExaState.act]
  blocks k := by simp [Released, ExaState.act]
  callers := rfl
  next := Nat.le_refl _

theorem frees_releaseField (p : Nat) :
    Frees s (s.act (.release (.bufField p))) none none where
  bos b := by simp [Released, ExaState.act]
  blocks k := by simp [Released, ExaState.act]
  callers := rfl
  next := Nat.le_refl _

theorem frees_releaseFd (n : Nat) : Frees s (s.act (.release (.fd n))) none none where
  bos b := by simp [Released, ExaState.act]
  blocks k := by simp [Released, ExaState.act]
  callers := rfl
  next := Nat.le_refl _

theorem frees_closeFd (fd : Int) : Frees s (closeFd s fd) none none := by
  unfold closeFd
  split
  · exact frees_releaseFd s _
  · exact frees_of_log rfl rfl rfl

theorem frees_drmPrimeHandleToFD (b : Nat) (ok : Bool) :
    Frees s (drmPrimeHandleToFD s b ok).1 none none := by
  cases ok with
  | false => exact frees_touch s _
  | true =>
      exact ⟨⟨fun b => by simp [Released, drmPrimeHandleToFD, ExaState.act],
        fun k => by simp [Released, drmPrimeHandleToFD, ExaState.act]⟩, rfl, Nat.le_refl _⟩

theorem frees_dumbBoDestroy (b : Nat) (ioctlOk : Bool) :
    Frees s (dumbBoDestroy s b ioctlOk) (if ioctlOk then some b else none) none := by
  have htouched : Frees s ((s.act (.touch (.bo b))).setBo b { s.bos b with ptr := none })
      none none := (frees_touch s _).after (frees_of_log rfl rfl rfl)
  cases ioctlOk with
  | false => exact htouched
  | true => exact htouched.after (frees_releaseBo _ b)

theorem frees_destroyOwned (priv : ExaPixmapPriv) (ioctlOk : Bool) :
    Frees s (destroyOwned s priv ioctlOk) (ownedBo priv ioctlOk) none := by
  unfold destroyOwned ownedBo
  split
  · next howned hbo =>
      rw [howned, hbo, Bool.true_and]
      exact frees_dumbBoDestroy s _ ioctlOk
  · next hnot =>
      have hnone : (if (priv.owned && ioctlOk) = true then priv.bo else none) = none := by
        cases howned : priv.owned with
        | false => rfl
        | true =>
            cases hbo : priv.bo with
            | none => exact ite_self none
            | some b => exact absurd hbo (hnot b howned)
      rw [hnone]
      exact frees_of_log rfl rfl rfl

theorem frees_lsFreeBuf (p : Nat) : Frees s (lsFreeBuf s p) none (s.privs p).buf.pDat := by
  unfold lsFreeBuf
  split
  · next hnone =>
      rw [hnone]
      exact frees_of_log rfl rfl rfl
  · next block hsome =>
      rw [hsome]
      exact ⟨⟨fun b => by simp [Released, ExaState.act, ExaState.setPriv],
        fun k => by simp [Released, ExaState.act, ExaState.setPriv, eq_comm]⟩, rfl, Nat.le_refl _⟩

theorem frees_newPriv (usageHint : UInt32) : Frees s (newPriv s usageHint) none none :=
  (frees_allocate s .priv).after (frees_of_log rfl rfl rfl)

theorem frees_lsCreateExaPixmap (c : CreateCall) :
    Frees s (lsCreateExaPixmap s c).1 none none := by
  have hnew := frees_newPriv s c.usageHint
  unfold lsCreateExaPixmap
  cases c.callocOk with
  | false => exact frees_of_log rfl rfl rfl
  | true =>
      cases c.hasSize with
      | false => exact hnew
      | true =>
          cases hmalloc : c.mallocOk with
          | false =>
              simp only [lsAllocBuf]
              exact hnew.after ((frees_setPriv _ _ _).after (frees_releaseField _ _))
          | true =>
              simp only [lsAllocBuf]
              exact hnew.after ((frees_allocate _ _).after (frees_setPriv _ _ _))

theorem frees_dumbBoCreate (a : CreateDumb) : Frees s (dumbBoCreate s a).1 none none := by
  unfold dumbBoCreate
  split
  · exact (frees_allocate s _).after (frees_of_log rfl rfl rfl)
  · exact frees_of_log rfl rfl rfl

theorem frees_lsCreateDumbPixmap (c : CreateCall) :
    Frees s (lsCreateDumbPixmap s c).1 none none := by
  have hnew := frees_newPriv s c.usageHint
  unfold lsCreateDumbPixmap
  cases c.callocOk with
  | false => exact frees_of_log rfl rfl rfl
  | true =>
      simp only [Bool.not_true, Bool.false_eq_true, if_false]
      split
      · exact hnew
      · have hcreate := hnew.after (frees_dumbBoCreate (newPriv s c.usageHint) c.createDumb)
        split
        · next t heq =>
            rw [heq] at hcreate
            exact hcreate.after (frees_releasePriv _ _)
        · next t b heq =>
            rw [heq] at hcreate
            have hset := hcreate.after
              (frees_setPriv t s.next { t.privs s.next with bo := some b, owned := true })
            have hprime := hset.after (frees_drmPrimeHandleToFD _ b c.primeOk)
            split
            · next heq' =>
                rw [heq'] at hprime
                exact hprime
            · next heq' =>
                rw [heq'] at hprime
                exact hprime.after (frees_setPriv _ _ _)

theorem frees_msExaCreatePixmap2 (c : CreateCall) :
    Frees s (msExaCreatePixmap2 s c).1 none none := by
  have hout : Frees s (if lsIsDumbPixmap c.usageHint then lsCreateDumbPixmap s c
      else lsCreateExaPixmap s c).1 none none := by
    split
    · exact frees_lsCreateDumbPixmap s c
    · exact frees_lsCreateExaPixmap s c
  unfold msExaCreatePixmap2
  dsimp only
  generalize (if lsIsDumbPixmap c.usageHint = true then lsCreateDumbPixmap s c
    else lsCreateExaPixmap s c) = out at hout ⊢
  obtain ⟨t, made⟩ := out
  cases made with
  | none => exact hout
  | some made => exact hout.quiet (frees_of_log rfl rfl rfl)

theorem frees_dumbGetBoFromFd (pitch size : UInt32) (a : ImportDumb) :
    Frees s (dumbGetBoFromFd s pitch size a).1 none none := by
  unfold dumbGetBoFromFd
  split
  · exact frees_of_log rfl rfl rfl
  · split
    · exact frees_of_log rfl rfl rfl
    · exact (frees_allocate s _).after (frees_of_log rfl rfl rfl)

theorem frees_msExaSetPixmapBo (p b : Nat) (owned : Bool) (a : SetAnswer) :
    Frees s (msExaSetPixmapBo s p b owned a).1
      (if s.exaDrvPtr then ownedBo (s.privs p) a.destroyOk else none) none := by
  unfold msExaSetPixmapBo
  cases s.exaDrvPtr with
  | false => exact frees_of_log rfl rfl rfl
  | true =>
      have hdestroyed := ((frees_touch s (.priv p)).after (frees_closeFd _ (s.privs p).fd)).after
        (frees_destroyOwned _ (s.privs p) a.destroyOk)
      simp only [Bool.not_true, Bool.false_eq_true, if_false, if_true]
      cases a.primeOk with
      | false => exact hdestroyed.quiet (frees_drmPrimeHandleToFD _ b false)
      | true =>
          exact (hdestroyed.quiet (frees_drmPrimeHandleToFD _ b true)).quiet
            (frees_of_log rfl rfl rfl)

theorem frees_msExaDestroyPixmap (p : Nat) (ioctlOk : Bool) :
    Frees s (msExaDestroyPixmap s p ioctlOk)
      (if lsIsDumbPixmap (s.privs p).usageHint then ownedBo (s.privs p) ioctlOk else none)
      (if lsIsDumbPixmap (s.privs p).usageHint then none else (s.privs p).buf.pDat) := by
  have htouched : Frees s (({ s with live := s.live.erase p } : ExaState).act
      (.touch (.priv p))) none none :=
    Frees.after (t := { s with live := s.live.erase p }) (frees_of_log rfl rfl rfl)
      (frees_touch _ _)
  have hprivs : (({ s with live := s.live.erase p } : ExaState).act (.touch (.priv p))).privs =
      s.privs := rfl
  unfold msExaDestroyPixmap
  dsimp only
  rw [hprivs]
  cases lsIsDumbPixmap (s.privs p).usageHint with
  | true => exact ((htouched.after (frees_closeFd _ _)).after
      (frees_destroyOwned _ (s.privs p) ioctlOk)).quiet (frees_releasePriv _ p)
  | false => exact (htouched.after (frees_lsFreeBuf _ p)).quiet (frees_releasePriv _ p)

/-- **What a call releases.** -/
theorem exaStep_releases (op : ExaOp) :
    Releases s (exaStep s op) (freedBo s op) (freedBlock s op) ∧ s.next ≤ (exaStep s op).next := by
  have hstay : Releases s s none none ∧ s.next ≤ s.next :=
    ⟨(Frees.refl s).toReleases, Nat.le_refl _⟩
  cases op with
  | create c =>
      have hcreate := frees_msExaCreatePixmap2 s c
      exact ⟨hcreate.toReleases, hcreate.next⟩
  | importBo pitch size a =>
      have himport := frees_dumbGetBoFromFd s pitch size a
      simp only [exaStep]
      generalize dumbGetBoFromFd s pitch size a = out at himport ⊢
      obtain ⟨t, made⟩ := out
      cases made with
      | none => exact ⟨himport.toReleases, himport.next⟩
      | some b => exact ⟨⟨himport.bos, himport.blocks⟩, himport.next⟩
  | setBo p b owned a =>
      have hset := frees_msExaSetPixmapBo s p b owned a
      simp only [exaStep, freedBo]
      split
      · generalize msExaSetPixmapBo s p b owned a = out at hset ⊢
        obtain ⟨t, ok⟩ := out
        cases ok with
        | false => exact ⟨hset.toReleases, hset.next⟩
        | true =>
            cases owned with
            | false => exact ⟨hset.toReleases, hset.next⟩
            | true => exact ⟨⟨hset.bos, hset.blocks⟩, hset.next⟩
      · exact hstay
  | exchange front back =>
      simp only [exaStep]
      split
      · have hexchange := ((frees_touch s (.priv front)).after (frees_touch _ (.priv back))).after
          (t := (s.act (.touch (.priv front))).act (.touch (.priv back)))
          (u := msExaExchangeBuffers s front back) (frees_of_log rfl rfl rfl)
        exact ⟨hexchange.toReleases, hexchange.next⟩
      · exact hstay
  | destroy p ioctlOk =>
      simp only [exaStep, freedBo, freedBlock]
      split
      · have hdestroy := frees_msExaDestroyPixmap s p ioctlOk
        exact ⟨hdestroy.toReleases, hdestroy.next⟩
      · exact hstay
  | callerDestroys b ioctlOk =>
      simp only [exaStep, freedBo]
      split
      · have hdestroy := frees_dumbBoDestroy { s with callerBos := s.callerBos.erase b } b ioctlOk
        exact ⟨⟨hdestroy.bos, hdestroy.blocks⟩, hdestroy.next⟩
      · exact hstay

end Frees

/-! ## What becomes of the privates -/

/-- A private keeps its buffer object, and gets no block. -/
def SameMemory (priv priv' : ExaPixmapPriv) : Prop :=
  priv'.bo = priv.bo ∧ priv'.owned = priv.owned ∧
    (priv'.buf.pDat = priv.buf.pDat ∨ priv'.buf.pDat = none)

theorem SameMemory.of_eq {priv priv' : ExaPixmapPriv} (h : priv' = priv) :
    SameMemory priv priv' := h ▸ ⟨rfl, rfl, Or.inl rfl⟩

/-- The memory of a private, if it has any, has been made since. -/
structure NewMemory (s s' : ExaState) (p : Nat) : Prop where
  bo : ∀ b, (s'.privs p).bo = some b → s.next ≤ b ∧ b < s'.next
  block : ∀ k, (s'.privs p).buf.pDat = some k → s.next ≤ k ∧ k < s'.next

section Privates

variable {s : ExaState}

theorem newMemory_none {s' : ExaState} {p : Nat} (hbo : (s'.privs p).bo = none)
    (hblock : (s'.privs p).buf.pDat = none) : NewMemory s s' p :=
  ⟨fun _ h => (nomatch hbo.symm.trans h), fun _ h => (nomatch hblock.symm.trans h)⟩

theorem lsCreateExaPixmap_new (c : CreateCall) {p : Nat} {pitch : Option Int}
    (hmade : (lsCreateExaPixmap s c).2 = some (p, pitch)) :
    NewMemory s (lsCreateExaPixmap s c).1 p := by
  have hself := newPriv_self s c.usageHint
  have hbo := (congrArg ExaPixmapPriv.bo hself).trans rfl
  unfold lsCreateExaPixmap at hmade ⊢
  cases hcalloc : c.callocOk with
  | false => simp [hcalloc] at hmade
  | true =>
      cases hsize : c.hasSize with
      | false =>
          simp only [hcalloc, hsize, Bool.not_true, Bool.false_eq_true, if_false] at hmade ⊢
          cases hmade
          exact newMemory_none hbo (congrArg (·.buf.pDat) hself)
      | true =>
          cases hmalloc : c.mallocOk with
          | false => simp [hcalloc, hsize, hmalloc, lsAllocBuf] at hmade
          | true =>
              simp only [hcalloc, hsize, hmalloc, lsAllocBuf, Bool.not_true, Bool.false_eq_true,
                if_false, if_true] at hmade ⊢
              cases hmade
              constructor
              · intro b hb
                have hnone : (Function.update (newPriv s c.usageHint).privs s.next
                    { (newPriv s c.usageHint).privs s.next with buf := _ } s.next).bo =
                      some b := hb
                rw [Function.update_self] at hnone
                exact absurd (hnone.symm.trans hbo) (Option.some_ne_none b)
              · intro k hk
                have hblock : (Function.update (newPriv s c.usageHint).privs s.next
                    { (newPriv s c.usageHint).privs s.next with buf := _ } s.next).buf.pDat =
                      some k := hk
                rw [Function.update_self] at hblock
                cases hblock
                exact ⟨Nat.le_succ _, Nat.lt_succ_self _⟩

theorem lsCreateDumbPixmap_new (c : CreateCall) {p : Nat} {pitch : Option Int}
    (hmade : (lsCreateDumbPixmap s c).2 = some (p, pitch)) :
    NewMemory s (lsCreateDumbPixmap s c).1 p := by
  have hself := newPriv_self s c.usageHint
  unfold lsCreateDumbPixmap at hmade ⊢
  cases hcalloc : c.callocOk with
  | false => simp [hcalloc] at hmade
  | true =>
      simp only [hcalloc, Bool.not_true, Bool.false_eq_true, if_false] at hmade ⊢
      by_cases hsize : c.width = 0 ∧ c.height = 0
      · rw [if_pos hsize] at hmade ⊢
        cases hmade
        exact newMemory_none (congrArg ExaPixmapPriv.bo hself) (congrArg (·.buf.pDat) hself)
      · rw [if_neg hsize] at hmade ⊢
        cases hok : c.createDumb.callocOk with
        | false => simp [dumbBoCreate, hok] at hmade
        | true =>
            cases hreply : c.createDumb.reply with
            | none => simp [dumbBoCreate, hok, hreply] at hmade
            | some reply =>
                cases hprime : c.primeOk with
                | false => simp [dumbBoCreate, hok, hreply, hprime, drmPrimeHandleToFD] at hmade
                | true =>
                    simp only [dumbBoCreate, hok, hreply, hprime, drmPrimeHandleToFD, if_true]
                      at hmade ⊢
                    cases hmade
                    constructor
                    · intro b hb
                      simp only [ExaState.setPriv, ExaState.act, ExaState.setBo,
                        ExaState.allocate, Function.update_self, Option.some.injEq] at hb
                      rw [← hb]
                      exact ⟨Nat.le_succ _, Nat.lt_succ_self _⟩
                    · intro k hk
                      simp [ExaState.setPriv, ExaState.act, ExaState.setBo, ExaState.allocate,
                        hself, ExaPixmapPriv.new, LoongsonBuf.zero] at hk

/-- A creation touches no other private. -/
theorem msExaCreatePixmap2_privs (c : CreateCall) (hlt : ∀ p ∈ s.live, p < s.next) :
    (∀ q ∈ s.live, (msExaCreatePixmap2 s c).1.privs q = s.privs q) ∧
      ((msExaCreatePixmap2 s c).1.live = s.live ∨
        (msExaCreatePixmap2 s c).1.live = s.next :: s.live ∧
          NewMemory s (msExaCreatePixmap2 s c).1 s.next) := by
  have hmakes : ∃ out, out = (if lsIsDumbPixmap c.usageHint then lsCreateDumbPixmap s c
        else lsCreateExaPixmap s c) ∧ Calm s out.1 ∧ Makes s c out ∧
      ∀ p pitch, out.2 = some (p, pitch) → NewMemory s out.1 p := by
    refine ⟨_, rfl, ?_⟩
    split
    · exact ⟨calm_lsCreateDumbPixmap s c, lsCreateDumbPixmap_makes s c,
        fun p pitch => lsCreateDumbPixmap_new c⟩
    · next hdumb =>
        exact ⟨calm_lsCreateExaPixmap s c, lsCreateExaPixmap_makes s c (by simpa using hdumb),
          fun p pitch => lsCreateExaPixmap_new c⟩
  obtain ⟨out, hout, hcalm, hmakes, hnew⟩ := hmakes
  unfold msExaCreatePixmap2
  dsimp only
  rw [← hout]
  clear hout
  obtain ⟨t, made⟩ := out
  have hothers : ∀ q ∈ s.live, t.privs q = s.privs q := fun q hq =>
    hmakes.others q (Nat.ne_of_lt (hlt q hq))
  cases made with
  | none => exact ⟨hothers, Or.inl hcalm.live⟩
  | some made =>
      obtain ⟨p, pitch⟩ := made
      obtain ⟨rfl, -⟩ := hmakes.made p pitch rfl
      have hfresh := hnew s.next pitch rfl
      exact ⟨hothers, Or.inr ⟨congrArg (s.next :: ·) hcalm.live, ⟨hfresh.bo, hfresh.block⟩⟩⟩

/-- `ms_exa_set_pixmap_bo` changes one private, or none. -/
theorem msExaSetPixmapBo_privs (p b : Nat) (owned : Bool) (a : SetAnswer) :
    (msExaSetPixmapBo s p b owned a).1.live = s.live ∧
      (((msExaSetPixmapBo s p b owned a).2 = false ∧ (s.exaDrvPtr = true → a.primeOk = false)) ∧
          (msExaSetPixmapBo s p b owned a).1.privs = s.privs ∨
        ((msExaSetPixmapBo s p b owned a).2 = true ∧ s.exaDrvPtr = true ∧ a.primeOk = true) ∧
          (∀ q, q ≠ p → (msExaSetPixmapBo s p b owned a).1.privs q = s.privs q) ∧
          ((msExaSetPixmapBo s p b owned a).1.privs p).bo = some b ∧
          ((msExaSetPixmapBo s p b owned a).1.privs p).owned = owned ∧
          ((msExaSetPixmapBo s p b owned a).1.privs p).buf = (s.privs p).buf) := by
  unfold msExaSetPixmapBo
  cases s.exaDrvPtr with
  | false => exact ⟨rfl, Or.inl ⟨⟨rfl, nofun⟩, rfl⟩⟩
  | true =>
      have hkept := ((kept_act s (.touch (.priv p))).trans (kept_closeFd _ (s.privs p).fd)).trans
        (kept_destroyOwned _ (s.privs p) a.destroyOk)
      simp only [Bool.not_true, Bool.false_eq_true, if_false]
      generalize destroyOwned (closeFd (s.act (.touch (.priv p))) (s.privs p).fd)
        (s.privs p) a.destroyOk = t at hkept ⊢
      cases a.primeOk with
      | false => exact ⟨hkept.live, Or.inl ⟨⟨rfl, fun _ => rfl⟩, hkept.privs⟩⟩
      | true =>
          have hself := congrFun hkept.privs p
          refine ⟨hkept.live, Or.inr ⟨⟨rfl, trivial, rfl⟩, fun q hq => ?_, ?_, ?_, ?_⟩⟩
          · exact (Function.update_of_ne hq _ _).trans (congrFun hkept.privs q)
          · simp [drmPrimeHandleToFD, ExaState.setPixmap, ExaState.setPriv, ExaState.act]
          · simp [drmPrimeHandleToFD, ExaState.setPixmap, ExaState.setPriv, ExaState.act]
          · simp [drmPrimeHandleToFD, ExaState.setPixmap, ExaState.setPriv, ExaState.act, hself]

theorem sameMemory_lsFreeBuf (s : ExaState) (p q : Nat) :
    SameMemory (s.privs q) ((lsFreeBuf s p).privs q) := by
  unfold lsFreeBuf
  split
  · exact SameMemory.of_eq rfl
  · by_cases hq : q = p
    · simp [SameMemory, ExaState.setPriv, ExaState.act, hq, LoongsonBuf.zero]
    · exact SameMemory.of_eq (Function.update_of_ne hq _ _)

theorem msExaDestroyPixmap_privs (p : Nat) (ioctlOk : Bool) :
    (msExaDestroyPixmap s p ioctlOk).live = s.live.erase p ∧
      ∀ q, SameMemory (s.privs q) ((msExaDestroyPixmap s p ioctlOk).privs q) := by
  unfold msExaDestroyPixmap
  dsimp only
  split
  · have hkept := (kept_closeFd (({ s with live := s.live.erase p } : ExaState).act
      (.touch (.priv p))) (s.privs p).fd).trans (kept_destroyOwned _ (s.privs p) ioctlOk)
    exact ⟨hkept.live, fun q => SameMemory.of_eq (congrFun hkept.privs q)⟩
  · have hcalm := calm_lsFreeBuf (({ s with live := s.live.erase p } : ExaState).act
      (.touch (.priv p))) p
    exact ⟨hcalm.live, fun q => sameMemory_lsFreeBuf _ p q⟩

end Privates

/-! ## The invariant -/

/-- **The invariant**: no number is given out twice, a block belongs to one pixmap, and what a
caller owns is there and is no pixmap's own. -/
structure Mem (s : ExaState) : Prop where
  nodup : s.live.Nodup
  callers : s.callerBos.Nodup
  borrowed : ∀ b ∈ s.callerBos, b < s.next ∧ ¬ Released s (.bo b)
  bos : ∀ p ∈ s.live, ∀ b, (s.privs p).bo = some b →
    b < s.next ∧ ((s.privs p).owned = true → b ∉ s.callerBos)
  blocks : ∀ p ∈ s.live, ∀ k, (s.privs p).buf.pDat = some k → k < s.next ∧ ¬ Released s (.buf k)
  alone : ∀ p ∈ s.live, ∀ q ∈ s.live, ∀ k, (s.privs p).buf.pDat = some k →
    (s.privs q).buf.pDat = some k → q = p
  freedBos : ∀ b, Released s (.bo b) → b < s.next
  freedBlocks : ∀ k, Released s (.buf k) → k < s.next

theorem mem_start (exaDrvPtr : Bool) (nextFd : Nat) :
    Mem (ExaPixmapLedger.start exaDrvPtr nextFd) where
  nodup := List.nodup_nil
  callers := List.nodup_nil
  borrowed _ h := nomatch h
  bos _ h := nomatch h
  blocks _ h := nomatch h
  alone _ h := nomatch h
  freedBos _ h := nomatch h
  freedBlocks _ h := nomatch h

section Steps

variable {s s' : ExaState}

theorem ownedBo_eq {priv : ExaPixmapPriv} {ioctlOk : Bool} {b : Nat}
    (h : ownedBo priv ioctlOk = some b) : priv.owned = true ∧ priv.bo = some b := by
  unfold ownedBo at h
  cases howned : priv.owned with
  | false => simp [howned] at h
  | true =>
      cases ioctlOk with
      | false => simp [howned] at h
      | true => exact ⟨rfl, by simpa [howned] using h⟩

/-- What a call destroys was a pixmap's own, or is taken from the caller. -/
theorem freedBo_cases {op : ExaOp} {b : Nat} (h : freedBo s op = some b) :
    (∃ p ∈ s.live, (s.privs p).owned = true ∧ (s.privs p).bo = some b) ∨
      b ∈ s.callerBos ∧ ∃ ioctlOk, op = .callerDestroys b ioctlOk := by
  cases op with
  | setBo p b' owned a =>
      simp only [freedBo] at h
      split at h
      · next hnamed =>
          split at h
          · exact Or.inl ⟨p, hnamed.1, ownedBo_eq h⟩
          · cases h
      · cases h
  | destroy p ioctlOk =>
      simp only [freedBo] at h
      split at h
      · next hlive =>
          split at h
          · exact Or.inl ⟨p, hlive, ownedBo_eq h⟩
          · cases h
      · cases h
  | callerDestroys b' ioctlOk =>
      simp only [freedBo] at h
      split at h
      · next hb =>
          split at h
          · cases h
            exact Or.inr ⟨hb, ioctlOk, rfl⟩
          · cases h
      · cases h
  | create c => cases h
  | importBo pitch size a => cases h
  | exchange front back => cases h

theorem freedBlock_cases {op : ExaOp} {k : Nat} (h : freedBlock s op = some k) :
    ∃ p ioctlOk, op = .destroy p ioctlOk ∧ p ∈ s.live ∧ (s.privs p).buf.pDat = some k := by
  cases op with
  | destroy p ioctlOk =>
      simp only [freedBlock] at h
      split at h
      · next hlive =>
          split at h
          · cases h
          · exact ⟨p, ioctlOk, rfl, hlive, h⟩
      · cases h
  | create c => cases h
  | importBo pitch size a => cases h
  | setBo p b owned a => cases h
  | exchange front back => cases h
  | callerDestroys b ioctlOk => cases h

theorem Mem.freedBo_lt (h : Mem s) {op : ExaOp} {b : Nat} (hfreed : freedBo s op = some b) :
    b < s.next := by
  rcases freedBo_cases hfreed with ⟨p, hp, -, hbo⟩ | ⟨hb, -⟩
  · exact (h.bos p hp b hbo).1
  · exact (h.borrowed b hb).1

theorem Mem.freedBo_ne (h : Mem s) {op : ExaOp} (hop : ∀ b ioctlOk, op ≠ .callerDestroys b ioctlOk)
    {b : Nat} (hb : b ∈ s.callerBos) : freedBo s op ≠ some b := by
  intro hfreed
  rcases freedBo_cases hfreed with ⟨p, hp, howned, hbo⟩ | ⟨-, ioctlOk, rfl⟩
  · exact (h.bos p hp b hbo).2 howned hb
  · exact hop b ioctlOk rfl

/-- What is left to show of a call: what it releases is known. -/
theorem Mem.step (h : Mem s) {op : ExaOp} (hnodup : (exaStep s op).live.Nodup)
    (hcallers : (exaStep s op).callerBos.Nodup)
    (hborrowed : ∀ b ∈ (exaStep s op).callerBos, freedBo s op ≠ some b ∧
      (b ∈ s.callerBos ∨ s.next ≤ b ∧ b < (exaStep s op).next))
    (hbos : ∀ p ∈ (exaStep s op).live, ∀ b, ((exaStep s op).privs p).bo = some b →
      b < (exaStep s op).next ∧
        (((exaStep s op).privs p).owned = true → b ∉ (exaStep s op).callerBos))
    (hblocks : ∀ p ∈ (exaStep s op).live, ∀ k, ((exaStep s op).privs p).buf.pDat = some k →
      freedBlock s op ≠ some k ∧ ((s.next ≤ k ∧ k < (exaStep s op).next) ∨
        ∃ q ∈ s.live, (s.privs q).buf.pDat = some k))
    (halone : ∀ p ∈ (exaStep s op).live, ∀ q ∈ (exaStep s op).live, ∀ k,
      ((exaStep s op).privs p).buf.pDat = some k → ((exaStep s op).privs q).buf.pDat = some k →
        q = p) :
    Mem (exaStep s op) := by
  obtain ⟨hreleases, hnext⟩ := exaStep_releases s op
  have hfreed : ∀ k, freedBlock s op = some k → k < s.next := by
    intro k hk
    obtain ⟨p, -, -, hp, hblock⟩ := freedBlock_cases hk
    exact (h.blocks p hp k hblock).1
  refine
    { nodup := hnodup
      callers := hcallers
      borrowed := fun b hb => ?_
      bos := hbos
      blocks := fun p hp k hk => ?_
      alone := halone
      freedBos := fun b hgone => ?_
      freedBlocks := fun k hgone => ?_ }
  · obtain ⟨hkept, hold | ⟨hfresh, hlt⟩⟩ := hborrowed b hb
    · obtain ⟨hlt, hheld⟩ := h.borrowed b hold
      exact ⟨hlt.trans_le hnext, fun hgone => ((hreleases.bos b).mp hgone).elim hkept hheld⟩
    · refine ⟨hlt, fun hgone => ((hreleases.bos b).mp hgone).elim hkept fun hold => ?_⟩
      exact Nat.not_lt.mpr hfresh (h.freedBos b hold)
  · obtain ⟨hkept, ⟨hfresh, hlt⟩ | ⟨q, hq, hold⟩⟩ := hblocks p hp k hk
    · refine ⟨hlt, fun hgone => ((hreleases.blocks k).mp hgone).elim hkept fun hold => ?_⟩
      exact Nat.not_lt.mpr hfresh (h.freedBlocks k hold)
    · obtain ⟨hlt, hheld⟩ := h.blocks q hq k hold
      exact ⟨hlt.trans_le hnext, fun hgone => ((hreleases.blocks k).mp hgone).elim hkept hheld⟩
  · exact (((hreleases.bos b).mp hgone).elim h.freedBo_lt (h.freedBos b)).trans_le hnext
  · exact (((hreleases.blocks k).mp hgone).elim (hfreed k) (h.freedBlocks k)).trans_le hnext

/-- A call by which no pixmap gets memory. -/
theorem Mem.thin (h : Mem s) {op : ExaOp} (hlive : (exaStep s op).live.Sublist s.live)
    (hcallers : (exaStep s op).callerBos.Nodup)
    (hborrowed : ∀ b ∈ (exaStep s op).callerBos, freedBo s op ≠ some b ∧
      (b ∈ s.callerBos ∨ s.next ≤ b ∧ b < (exaStep s op).next))
    (hsame : ∀ p ∈ (exaStep s op).live, SameMemory (s.privs p) ((exaStep s op).privs p))
    (hkept : ∀ p ∈ (exaStep s op).live, ∀ k, (s.privs p).buf.pDat = some k →
      freedBlock s op ≠ some k) :
    Mem (exaStep s op) := by
  have hnext := (exaStep_releases s op).2
  have hold : ∀ p ∈ (exaStep s op).live, ∀ k, ((exaStep s op).privs p).buf.pDat = some k →
      (s.privs p).buf.pDat = some k := by
    intro p hp k hk
    rcases (hsame p hp).2.2 with heq | hnone
    · exact heq.symm.trans hk
    · exact nomatch hnone.symm.trans hk
  refine h.step (h.nodup.sublist hlive) hcallers hborrowed (fun p hp b hb => ?_)
    (fun p hp k hk => ?_) fun p hp q hq k hpk hqk => ?_
  · obtain ⟨hbo, howned, -⟩ := hsame p hp
    obtain ⟨hlt, hown⟩ := h.bos p (hlive.subset hp) b (hbo ▸ hb)
    refine ⟨hlt.trans_le hnext, fun hown' hin => ?_⟩
    rcases (hborrowed b hin).2 with hin | ⟨hfresh, -⟩
    · exact hown (howned ▸ hown') hin
    · exact Nat.not_lt.mpr hfresh hlt
  · exact ⟨hkept p hp k (hold p hp k hk), Or.inr ⟨p, hlive.subset hp, hold p hp k hk⟩⟩
  · exact h.alone p (hlive.subset hp) q (hlive.subset hq) k (hold p hp k hpk) (hold q hq k hqk)

/-- A call that has no effect. -/
theorem Mem.idle (h : Mem s) {op : ExaOp} (heq : exaStep s op = s) : Mem (exaStep s op) := by
  rw [heq]
  exact h

theorem Mem.create (h : Mem s) (hlt : ∀ p ∈ s.live, p < s.next) (c : CreateCall) :
    Mem (exaStep s (.create c)) := by
  have hfrees := frees_msExaCreatePixmap2 s c
  have hcallers : (exaStep s (.create c)).callerBos = s.callerBos := hfrees.callers
  have hborrowed : ∀ b ∈ (exaStep s (.create c)).callerBos, freedBo s (.create c) ≠ some b ∧
      (b ∈ s.callerBos ∨ s.next ≤ b ∧ b < (exaStep s (.create c)).next) :=
    fun b hb => ⟨nofun, Or.inl (hcallers ▸ hb)⟩
  obtain ⟨hold, hlive | ⟨hlive, hnew⟩⟩ := msExaCreatePixmap2_privs c hlt
  · refine h.thin ?_ (hcallers ▸ h.callers) hborrowed (fun p hp => ?_) fun _ _ _ _ => nofun
    · show (msExaCreatePixmap2 s c).1.live.Sublist s.live
      rw [hlive]
    · exact SameMemory.of_eq (hold p (hlive ▸ hp))
  · have hcases : ∀ p ∈ (exaStep s (.create c)).live, p = s.next ∨ p ∈ s.live := fun p hp =>
      List.mem_cons.mp (hlive ▸ hp)
    refine h.step ?_ (hcallers ▸ h.callers) hborrowed (fun p hp b hb => ?_)
      (fun p hp k hk => ⟨nofun, ?_⟩) fun p hp q hq k hpk hqk => ?_
    · show (msExaCreatePixmap2 s c).1.live.Nodup
      rw [hlive]
      exact List.nodup_cons.mpr ⟨fun hin => Nat.lt_irrefl _ (hlt _ hin), h.nodup⟩
    · rw [hcallers]
      rcases hcases p hp with rfl | hin
      · obtain ⟨hfresh, hlt'⟩ := hnew.bo b hb
        exact ⟨hlt', fun _ hcaller => Nat.not_lt.mpr hfresh (h.borrowed b hcaller).1⟩
      · have hsame := hold p hin
        obtain ⟨hlt', hown⟩ := h.bos p hin b (congrArg ExaPixmapPriv.bo hsame ▸ hb)
        exact ⟨hlt'.trans_le hfrees.next, fun howned =>
          hown (congrArg ExaPixmapPriv.owned hsame ▸ howned)⟩
    · rcases hcases p hp with rfl | hin
      · exact Or.inl (hnew.block k hk)
      · exact Or.inr ⟨p, hin, congrArg (·.buf.pDat) (hold p hin) ▸ hk⟩
    · have hblock : ∀ r ∈ s.live, ((exaStep s (.create c)).privs r).buf.pDat = some k →
          (s.privs r).buf.pDat = some k := fun r hr hrk =>
        congrArg (·.buf.pDat) (hold r hr) ▸ hrk
      rcases hcases p hp with rfl | hinp
      · rcases hcases q hq with rfl | hinq
        · rfl
        · exact absurd (h.blocks q hinq k (hblock q hinq hqk)).1
            (Nat.not_lt.mpr (hnew.block k hpk).1)
      · rcases hcases q hq with rfl | hinq
        · exact absurd (h.blocks p hinp k (hblock p hinp hpk)).1
            (Nat.not_lt.mpr (hnew.block k hqk).1)
        · exact h.alone p hinp q hinq k (hblock p hinp hpk) (hblock q hinq hqk)

end Steps

section Calls

variable {s : ExaState}

theorem Mem.importBo (h : Mem s) (pitch size : UInt32) (a : ImportDumb) :
    Mem (exaStep s (.importBo pitch size a)) := by
  cases hcalloc : a.callocOk with
  | false => exact h.idle (by simp [exaStep, dumbGetBoFromFd, hcalloc])
  | true =>
      cases hhandle : a.primeFDToHandleOk with
      | false => exact h.idle (by simp [exaStep, dumbGetBoFromFd, hcalloc, hhandle])
      | true =>
          have heq : exaStep s (.importBo pitch size a) =
              { (s.allocate .bo).setBo s.next ⟨size, none, pitch⟩ with
                callerBos := s.next :: s.callerBos } := by
            simp only [exaStep, dumbGetBoFromFd, hcalloc, hhandle]
            rfl
          have hcallers : (exaStep s (.importBo pitch size a)).callerBos =
              s.next :: s.callerBos := by rw [heq]
          have hlt : s.next < (exaStep s (.importBo pitch size a)).next := by
            rw [heq]
            exact Nat.lt_succ_self _
          have hlive : (exaStep s (.importBo pitch size a)).live = s.live := by
            rw [heq]
            rfl
          have hprivs : (exaStep s (.importBo pitch size a)).privs = s.privs := by
            rw [heq]
            rfl
          refine h.thin (hlive ▸ List.Sublist.refl _) ?_
            (fun b hb => ⟨(Option.some_ne_none b).symm, ?_⟩)
            (fun p _ => SameMemory.of_eq (congrFun hprivs p))
            fun _ _ k _ => (Option.some_ne_none k).symm
          · rw [hcallers]
            exact List.nodup_cons.mpr
              ⟨fun hin => Nat.lt_irrefl _ (h.borrowed _ hin).1, h.callers⟩
          · rw [hcallers] at hb
            rcases List.mem_cons.mp hb with rfl | hold
            · exact Or.inr ⟨Nat.le_refl _, hlt⟩
            · exact Or.inl hold

/-- How `ms_exa_set_pixmap_bo` ends when it is called. -/
theorem setBo_cases (h : Mem s) (p b : Nat) (owned : Bool) (a : SetAnswer) :
    exaStep s (.setBo p b owned a) = s ∧ freedBo s (.setBo p b owned a) = none ∨
      (p ∈ s.live ∧ b ∈ s.callerBos) ∧ (exaStep s (.setBo p b owned a)).live = s.live ∧
        (((exaStep s (.setBo p b owned a)).callerBos = s.callerBos ∧
              (s.exaDrvPtr = true → a.primeOk = false)) ∧
            (exaStep s (.setBo p b owned a)).privs = s.privs ∨
          ((exaStep s (.setBo p b owned a)).callerBos.Nodup ∧
              (∀ b' ∈ (exaStep s (.setBo p b owned a)).callerBos, b' ∈ s.callerBos) ∧
              (owned = true → b ∉ (exaStep s (.setBo p b owned a)).callerBos)) ∧
            a.primeOk = true ∧
            (∀ q, q ≠ p → (exaStep s (.setBo p b owned a)).privs q = s.privs q) ∧
            ((exaStep s (.setBo p b owned a)).privs p).bo = some b ∧
            ((exaStep s (.setBo p b owned a)).privs p).owned = owned ∧
            ((exaStep s (.setBo p b owned a)).privs p).buf = (s.privs p).buf) := by
  have hfrees := frees_msExaSetPixmapBo s p b owned a
  have hprivs := msExaSetPixmapBo_privs (s := s) p b owned a
  simp only [exaStep]
  by_cases hnamed : p ∈ s.live ∧ b ∈ s.callerBos
  · simp only [if_pos hnamed]
    refine Or.inr ⟨hnamed, ?_⟩
    generalize msExaSetPixmapBo s p b owned a = out at hfrees hprivs ⊢
    obtain ⟨t, ok⟩ := out
    obtain ⟨hlive, ⟨⟨rfl, hfails⟩, hsame⟩ |
      ⟨⟨rfl, -, hprime⟩, hothers, hbo, howned, hbuf⟩⟩ := hprivs
    · exact ⟨hlive, Or.inl ⟨⟨hfrees.callers, hfails⟩, hsame⟩⟩
    · have hcallers : t.callerBos = s.callerBos := hfrees.callers
      cases owned with
      | false =>
          refine ⟨hlive, Or.inr ⟨⟨hcallers ▸ h.callers, fun b' hb' => hcallers ▸ hb', by simp⟩,
            hprime, hothers, hbo, howned, hbuf⟩⟩
      | true =>
          refine ⟨hlive, Or.inr ⟨⟨?_, fun b' hb' => ?_, fun _ hin => ?_⟩,
            hprime, hothers, hbo, howned, hbuf⟩⟩
          · exact (hcallers ▸ h.callers).erase b
          · exact hcallers ▸ List.mem_of_mem_erase hb'
          · exact (hcallers ▸ h.callers).not_mem_erase hin
  · exact Or.inl ⟨if_neg hnamed, if_neg hnamed⟩

theorem Mem.setBo (h : Mem s) (p b : Nat) (owned : Bool) (a : SetAnswer) :
    Mem (exaStep s (.setBo p b owned a)) := by
  have hfree : ∀ {b'}, b' ∈ s.callerBos → freedBo s (.setBo p b owned a) ≠ some b' :=
    fun hb' => h.freedBo_ne (by rintro _ _ ⟨⟩) hb'
  rcases setBo_cases h p b owned a with ⟨heq, -⟩ | ⟨⟨hp, hb⟩, hlive, ⟨⟨hcallers, -⟩, hprivs⟩ |
    ⟨⟨hnodup, hsub, hgiven⟩, -, hothers, hbo, howned, hbuf⟩⟩
  · exact h.idle heq
  · exact h.thin (hlive ▸ List.Sublist.refl _) (hcallers ▸ h.callers)
      (fun b' hb' => ⟨hfree (hcallers ▸ hb'), Or.inl (hcallers ▸ hb')⟩)
      (fun q _ => SameMemory.of_eq (congrFun hprivs q)) fun _ _ _ _ => nofun
  · have hnext := (exaStep_releases s (.setBo p b owned a)).2
    have hblock : ∀ q, ((exaStep s (.setBo p b owned a)).privs q).buf = (s.privs q).buf := by
      intro q
      by_cases hq : q = p
      · rw [hq]
        exact hbuf
      · rw [hothers q hq]
    refine h.step (hlive ▸ h.nodup) hnodup
      (fun b' hb' => ⟨hfree (hsub b' hb'), Or.inl (hsub b' hb')⟩) (fun q hq b' hb' => ?_)
      (fun q hq k hk => ⟨nofun, Or.inr ⟨q, hlive ▸ hq, hblock q ▸ hk⟩⟩)
      fun q hq r hr k hqk hrk => ?_
    · by_cases hqp : q = p
      · subst hqp
        cases hbo.symm.trans hb'
        exact ⟨(h.borrowed b hb).1.trans_le hnext, fun hown => hgiven (howned.symm.trans hown)⟩
      · rw [hothers q hqp] at hb' ⊢
        obtain ⟨hlt, hown⟩ := h.bos q (hlive ▸ hq) b' hb'
        exact ⟨hlt.trans_le hnext, fun hown' hin => hown hown' (hsub b' hin)⟩
    · exact h.alone q (hlive ▸ hq) r (hlive ▸ hr) k (hblock q ▸ hqk) (hblock r ▸ hrk)

/-- An exchange swaps the two privates. -/
theorem exchange_privs (front back p : Nat) :
    (msExaExchangeBuffers s front back).privs p = s.privs (Equiv.swap front back p) := by
  show Function.update (Function.update s.privs front (s.privs back)) back (s.privs front) p = _
  rw [Equiv.swap_apply_def]
  by_cases hback : p = back
  · rw [hback, Function.update_self]
    split
    · next heq => rw [heq]
    · rw [if_pos rfl]
  · rw [Function.update_of_ne hback]
    by_cases hfront : p = front
    · rw [hfront, Function.update_self, if_pos rfl]
    · rw [Function.update_of_ne hfront, if_neg hfront, if_neg hback]

theorem swap_mem {live : List Nat} {front back p : Nat} (hfront : front ∈ live)
    (hback : back ∈ live) (hp : p ∈ live) : Equiv.swap front back p ∈ live := by
  rw [Equiv.swap_apply_def]
  split
  · exact hback
  · split
    · exact hfront
    · exact hp

theorem Mem.exchange (h : Mem s) (front back : Nat) : Mem (exaStep s (.exchange front back)) := by
  by_cases hlive : front ∈ s.live ∧ back ∈ s.live
  · have heq : exaStep s (.exchange front back) = msExaExchangeBuffers s front back :=
      if_pos hlive
    have hprivs : ∀ p, (exaStep s (.exchange front back)).privs p =
        s.privs (Equiv.swap front back p) := fun p => heq ▸ exchange_privs front back p
    have hsame : (exaStep s (.exchange front back)).live = s.live := by
      rw [heq]
      rfl
    have hcallers : (exaStep s (.exchange front back)).callerBos = s.callerBos := by
      rw [heq]
      rfl
    have hnext := (exaStep_releases s (.exchange front back)).2
    have hswap : ∀ p ∈ (exaStep s (.exchange front back)).live,
        Equiv.swap front back p ∈ s.live := fun p hp =>
      swap_mem hlive.1 hlive.2 (hsame ▸ hp)
    refine h.step (hsame ▸ h.nodup) (hcallers ▸ h.callers)
      (fun b hb => ⟨nofun, Or.inl (hcallers ▸ hb)⟩) (fun p hp b hb => ?_)
      (fun p hp k hk => ⟨nofun, Or.inr ⟨_, hswap p hp, hprivs p ▸ hk⟩⟩)
      fun p hp q hq k hpk hqk => ?_
    · rw [hcallers, hprivs]
      obtain ⟨hlt, hown⟩ := h.bos _ (hswap p hp) b (hprivs p ▸ hb)
      exact ⟨hlt.trans_le hnext, hown⟩
    · exact (Equiv.swap front back).injective
        (h.alone _ (hswap p hp) _ (hswap q hq) k (hprivs p ▸ hpk) (hprivs q ▸ hqk))
  · exact h.idle (if_neg hlive)

theorem Mem.destroy (h : Mem s) (p : Nat) (ioctlOk : Bool) :
    Mem (exaStep s (.destroy p ioctlOk)) := by
  by_cases hlive : p ∈ s.live
  · have heq : exaStep s (.destroy p ioctlOk) = msExaDestroyPixmap s p ioctlOk := if_pos hlive
    obtain ⟨herased, hsame⟩ := msExaDestroyPixmap_privs (s := s) p ioctlOk
    have hcallers := (frees_msExaDestroyPixmap s p ioctlOk).callers
    rw [← heq] at herased hsame hcallers
    refine h.thin (herased ▸ List.erase_sublist) (hcallers ▸ h.callers)
      (fun b hb =>
        ⟨h.freedBo_ne (by rintro _ _ ⟨⟩) (hcallers ▸ hb), Or.inl (hcallers ▸ hb)⟩)
      (fun q _ => hsame q) fun q hq k hk hfreed => ?_
    -- The freed block is the destroyed pixmap's.
    obtain ⟨p', ioctlOk', hop, -, hblock⟩ := freedBlock_cases hfreed
    cases hop
    rw [herased] at hq
    have hqp := h.alone p hlive q (List.mem_of_mem_erase hq) k hblock hk
    exact h.nodup.not_mem_erase (hqp ▸ hq)
  · exact h.idle (if_neg hlive)

theorem Mem.callerDestroys (h : Mem s) (b : Nat) (ioctlOk : Bool) :
    Mem (exaStep s (.callerDestroys b ioctlOk)) := by
  by_cases hb : b ∈ s.callerBos
  · have heq : exaStep s (.callerDestroys b ioctlOk) =
        dumbBoDestroy { s with callerBos := s.callerBos.erase b } b ioctlOk := if_pos hb
    have hkept := kept_dumbBoDestroy { s with callerBos := s.callerBos.erase b } b ioctlOk
    rw [← heq] at hkept
    refine h.thin (hkept.live ▸ List.Sublist.refl _) (hkept.callerBos ▸ h.callers.erase b)
      (fun b' hb' => ?_) (fun p _ => SameMemory.of_eq (congrFun hkept.privs p)) fun _ _ _ _ => nofun
    rw [hkept.callerBos] at hb'
    have hold : b' ∈ s.callerBos := List.mem_of_mem_erase hb'
    refine ⟨fun hfreed => ?_, Or.inl hold⟩
    rcases freedBo_cases hfreed with ⟨p, hp, howned, hbo⟩ | ⟨-, ioctlOk', hop⟩
    · exact (h.bos p hp b' hbo).2 howned hold
    · cases hop
      exact h.callers.not_mem_erase hb'
  · exact h.idle (if_neg hb)

theorem Mem.exaStep (h : Mem s) (hlt : ∀ p ∈ s.live, p < s.next) (op : ExaOp) :
    Mem (exaStep s op) := by
  cases op with
  | create c => exact h.create hlt c
  | importBo pitch size a => exact h.importBo pitch size a
  | setBo p b owned a => exact h.setBo p b owned a
  | exchange front back => exact h.exchange front back
  | destroy p ioctlOk => exact h.destroy p ioctlOk
  | callerDestroys b ioctlOk => exact h.callerDestroys b ioctlOk

end Calls

/-! ## Which buffer objects pixmaps have -/

/-- A pixmap has the buffer object. -/
def Named (s : ExaState) (b : Nat) : Prop := ∃ p ∈ s.live, (s.privs p).bo = some b

/-- Which buffer objects stay with pixmaps in a call, and where those that pixmaps have after it
come from. -/
structure Hands (s : ExaState) (op : ExaOp) : Prop where
  stays : ∀ q ∈ s.live, ¬ LetsGo q op → ∀ b, (s.privs q).bo = some b → Named (exaStep s op) b
  comes : ∀ b, Named (exaStep s op) b →
    (∃ q ∈ s.live, (s.privs q).bo = some b ∧ (freedBo s op = some b → ¬ LetsGo q op)) ∨
      b ∈ s.callerBos ∧ freedBo s op ≠ some b ∨ s.next ≤ b

section Hands

variable {s : ExaState}

/-- No pixmap gets or loses a buffer object. -/
theorem hands_same {op : ExaOp} (hlive : (exaStep s op).live = s.live)
    (hprivs : (exaStep s op).privs = s.privs)
    (hkeeps : ∀ q b, freedBo s op = some b → ¬ LetsGo q op) : Hands s op where
  stays q hq _ b hb := ⟨q, hlive ▸ hq, hprivs ▸ hb⟩
  comes := by
    rintro b ⟨q, hq, hb⟩
    exact Or.inl ⟨q, hlive ▸ hq, hprivs ▸ hb, hkeeps q b⟩

theorem hands_idle {op : ExaOp} (heq : exaStep s op = s) (hnone : freedBo s op = none) :
    Hands s op :=
  hands_same (by rw [heq]) (by rw [heq]) fun _ _ hfreed => nomatch hnone.symm.trans hfreed

theorem hands (h : Mem s) (hlt : ∀ p ∈ s.live, p < s.next) (op : ExaOp) : Hands s op := by
  cases op with
  | create c =>
      obtain ⟨hold, hlive⟩ := msExaCreatePixmap2_privs c hlt
      refine ⟨fun q hq _ b hb => ?_, ?_⟩
      · refine ⟨q, ?_, (congrArg ExaPixmapPriv.bo (hold q hq)).trans hb⟩
        show q ∈ (msExaCreatePixmap2 s c).1.live
        rcases hlive with hlive | ⟨hlive, -⟩
        · rwa [hlive]
        · rw [hlive]
          exact List.mem_cons_of_mem _ hq
      · rintro b ⟨q, hq, hb⟩
        change q ∈ (msExaCreatePixmap2 s c).1.live at hq
        change ((msExaCreatePixmap2 s c).1.privs q).bo = some b at hb
        rcases hlive with hlive | ⟨hlive, hnew⟩
        · rw [hlive] at hq
          exact Or.inl ⟨q, hq, hold q hq ▸ hb, fun _ => id⟩
        · rw [hlive] at hq
          rcases List.mem_cons.mp hq with rfl | hq
          · exact Or.inr (Or.inr (hnew.bo b hb).1)
          · exact Or.inl ⟨q, hq, hold q hq ▸ hb, fun _ => id⟩
  | importBo pitch size a =>
      have hsame : (exaStep s (.importBo pitch size a)).live = s.live ∧
          (exaStep s (.importBo pitch size a)).privs = s.privs := by
        simp only [exaStep, dumbGetBoFromFd]
        cases a.callocOk <;> cases a.primeFDToHandleOk <;> exact ⟨rfl, rfl⟩
      exact hands_same hsame.1 hsame.2 fun _ _ _ => id
  | setBo p b owned a =>
      rcases setBo_cases h p b owned a with ⟨heq, hnone⟩ |
        ⟨⟨hp, hb⟩, hlive, ⟨⟨-, hfails⟩, hprivs⟩ | ⟨-, hprime, hothers, hbo, -, -⟩⟩
      · exact hands_idle heq hnone
      · refine hands_same hlive hprivs fun q b' hfreed hgo => ?_
        -- Without the driver's EXA record nothing is destroyed.
        cases hdrv : s.exaDrvPtr with
        | false => simp [freedBo, hdrv] at hfreed
        | true => exact Bool.false_ne_true ((hfails hdrv).symm.trans hgo.2)
      · refine ⟨fun q hq hgo b' hb' => ⟨q, hlive ▸ hq, ?_⟩, ?_⟩
        · rw [hothers q fun heq => hgo ⟨heq, hprime⟩]
          exact hb'
        · rintro b' ⟨q, hq, hb'⟩
          by_cases hqp : q = p
          · rw [hqp, hbo] at hb'
            cases hb'
            exact Or.inr (Or.inl ⟨hb, h.freedBo_ne (by rintro _ _ ⟨⟩) hb⟩)
          · rw [hothers q hqp] at hb'
            exact Or.inl ⟨q, hlive ▸ hq, hb', fun _ hgo => hqp hgo.1⟩
  | exchange front back =>
      by_cases hlive : front ∈ s.live ∧ back ∈ s.live
      · have heq : exaStep s (.exchange front back) = msExaExchangeBuffers s front back :=
          if_pos hlive
        refine ⟨fun q hq _ b hb => ?_, ?_⟩
        · rw [heq]
          refine ⟨Equiv.swap front back q, swap_mem hlive.1 hlive.2 hq, ?_⟩
          rw [exchange_privs, Equiv.swap_apply_self]
          exact hb
        · rw [heq]
          rintro b ⟨q, hq, hb⟩
          rw [exchange_privs] at hb
          exact Or.inl ⟨_, swap_mem hlive.1 hlive.2 hq, hb, fun _ => id⟩
      · exact hands_idle (if_neg hlive) rfl
  | destroy p ioctlOk =>
      by_cases hlive : p ∈ s.live
      · have heq : exaStep s (.destroy p ioctlOk) = msExaDestroyPixmap s p ioctlOk := if_pos hlive
        obtain ⟨herased, hsame⟩ := msExaDestroyPixmap_privs (s := s) p ioctlOk
        refine ⟨fun q hq hgo b hb => ?_, ?_⟩
        · rw [heq]
          refine ⟨q, ?_, (hsame q).1.trans hb⟩
          rw [herased]
          exact (List.mem_erase_of_ne hgo).mpr hq
        · rw [heq]
          rintro b ⟨q, hq, hb⟩
          rw [herased] at hq
          refine Or.inl ⟨q, List.mem_of_mem_erase hq, (hsame q).1.symm.trans hb, fun _ hgo => ?_⟩
          cases hgo
          exact h.nodup.not_mem_erase hq
      · exact hands_idle (if_neg hlive) (if_neg hlive)
  | callerDestroys b ioctlOk =>
      by_cases hb : b ∈ s.callerBos
      · have heq : exaStep s (.callerDestroys b ioctlOk) =
            dumbBoDestroy { s with callerBos := s.callerBos.erase b } b ioctlOk := if_pos hb
        have hkept := kept_dumbBoDestroy { s with callerBos := s.callerBos.erase b } b ioctlOk
        rw [← heq] at hkept
        exact hands_same hkept.live hkept.privs fun _ _ _ => id
      · exact hands_idle (if_neg hb) (if_neg hb)

/-- Blocks are never named after they were freed. -/
theorem Mem.namesHeld_iff (h : Mem s) :
    NamesHeld s ↔ ∀ b, Named s b → ¬ Released s (.bo b) := by
  constructor
  · rintro hheld b ⟨p, hp, hb⟩
    exact hheld p hp (.bo b) hb
  · intro hheld p hp x hx
    cases x with
    | bo b => exact hheld b ⟨p, hp, hx⟩
    | buf k => exact (h.blocks p hp k hx).2
    | priv q => exact absurd hx id
    | bufField q => exact absurd hx id
    | fd n => exact absurd hx id

/-- **One call**: no private is left with memory that was released exactly if no pixmap is left with
the buffer object that the call destroys. -/
theorem namesHeld_step_iff (h : Mem s) (hlt : ∀ p ∈ s.live, p < s.next) (hheld : NamesHeld s)
    (op : ExaOp) :
    NamesHeld (exaStep s op) ↔
      ∀ b ∈ freedBo s op, ∀ p ∈ s.live, (s.privs p).bo = some b → LetsGo p op := by
  obtain ⟨hreleases, -⟩ := exaStep_releases s op
  have hhands := hands h hlt op
  rw [(h.exaStep hlt op).namesHeld_iff]
  rw [h.namesHeld_iff] at hheld
  constructor
  · intro hafter b hfreed p hp hb
    by_contra hgo
    exact hafter b (hhands.stays p hp hgo b hb) ((hreleases.bos b).mpr (Or.inl hfreed))
  · intro hgo b hnamed hgone
    rcases hhands.comes b hnamed with ⟨q, hq, hb, hstays⟩ | ⟨hcaller, hkept⟩ | hfresh
    · rcases (hreleases.bos b).mp hgone with hfreed | hold
      · exact hstays hfreed (hgo b hfreed q hq hb)
      · exact hheld b ⟨q, hq, hb⟩ hold
    · exact ((hreleases.bos b).mp hgone).elim hkept (h.borrowed b hcaller).2
    · refine Nat.not_lt.mpr hfresh ?_
      exact ((hreleases.bos b).mp hgone).elim h.freedBo_lt (h.freedBos b)

end Hands

/-! ## Access -/

section Access

theorem frees_dumbBoMap (s : ExaState) (b : Nat) (a : MapDumb) :
    Frees s (dumbBoMap s b a) none none := by
  unfold dumbBoMap
  dsimp only
  split
  · exact frees_touch s _
  · split
    · exact (frees_touch s _).quiet (frees_of_log rfl rfl rfl)
    · exact frees_touch s _

theorem frees_prepareAccess (s : ExaState) (p : Nat) (a : MapDumb) :
    Frees s (msExaPrepareAccess s p a).1 none none := by
  unfold msExaPrepareAccess
  dsimp only
  split
  · split
    · exact Frees.refl s
    · split
      · exact Frees.refl s
      · exact (frees_dumbBoMap s _ a).quiet (frees_of_log rfl rfl rfl)
  · exact frees_of_log rfl rfl rfl

theorem frees_finishAccess (s : ExaState) (p : Nat) :
    Frees s (msExaFinishAccess s p) none none := by
  unfold msExaFinishAccess
  split
  · exact frees_of_log rfl rfl rfl
  · exact Frees.refl s

theorem frees_prepareAll (s : ExaState) (pixmaps : List (Nat × MapDumb)) :
    Frees s (pixmaps.foldl prepareAccess s) none none := by
  induction pixmaps generalizing s with
  | nil => exact Frees.refl s
  | cons pixmap pixmaps ih =>
      exact (frees_prepareAccess s pixmap.1 pixmap.2).after (ih (prepareAccess s pixmap))

theorem frees_finishAll (s : ExaState) (ps : List Nat) :
    Frees s (ps.foldl msExaFinishAccess s) none none := by
  induction ps generalizing s with
  | nil => exact Frees.refl s
  | cons p ps ih => exact (frees_finishAccess s p).after (ih (msExaFinishAccess s p))

/-- Drawing releases nothing. -/
theorem frees_bracket {s : RenderState} {call : FbCall} {pixmaps : List (Nat × MapDumb)} :
    Frees s.exa (bracket s call pixmaps).exa none none :=
  (frees_prepareAll s.exa pixmaps).after (frees_finishAll _ _)

theorem Mem.draws {s s' : ExaState} (h : Mem s) (hacc : Accessed s s')
    (hfrees : Frees s s' none none) : Mem s' := by
  have hbos : ∀ b, Released s' (.bo b) → Released s (.bo b) := fun b hgone =>
    ((hfrees.bos b).mp hgone).resolve_left nofun
  have hblocks : ∀ k, Released s' (.buf k) → Released s (.buf k) := fun k hgone =>
    ((hfrees.blocks k).mp hgone).resolve_left nofun
  refine ⟨?_, ?_, ?_, ?_, ?_, ?_, ?_, ?_⟩
  · exact hacc.live ▸ h.nodup
  · exact hfrees.callers ▸ h.callers
  · rw [hfrees.callers, hacc.next]
    exact fun b hb => ⟨(h.borrowed b hb).1, fun hgone => (h.borrowed b hb).2 (hbos b hgone)⟩
  · rw [hacc.live, hacc.privs, hacc.next, hfrees.callers]
    exact h.bos
  · rw [hacc.live, hacc.privs, hacc.next]
    exact fun p hp k hk =>
      ⟨(h.blocks p hp k hk).1, fun hgone => (h.blocks p hp k hk).2 (hblocks k hgone)⟩
  · rw [hacc.live, hacc.privs]
    exact h.alone
  · rw [hacc.next]
    exact fun b hgone => h.freedBos b (hbos b hgone)
  · rw [hacc.next]
    exact fun k hgone => h.freedBlocks k (hblocks k hgone)

theorem NamesHeld.draws {s s' : ExaState} (hheld : NamesHeld s) (h : Mem s)
    (hacc : Accessed s s') (hfrees : Frees s s' none none) : NamesHeld s' := by
  rw [(h.draws hacc hfrees).namesHeld_iff]
  rw [h.namesHeld_iff] at hheld
  rintro b ⟨p, hp, hb⟩ hgone
  rw [hacc.live] at hp
  rw [hacc.privs] at hb
  exact hheld b ⟨p, hp, hb⟩ (((hfrees.bos b).mp hgone).resolve_left nofun)

end Access

/-! ## Runs -/

section Runs

variable {s : RenderState}

theorem Mem.next (h : Mem s.exa) (hlt : ∀ p ∈ s.exa.live, p < s.exa.next) (op : RenderOp) :
    Mem (renderStep s op).exa := by
  by_cases hop : ∃ call, op = .call call
  · obtain ⟨call, rfl⟩ := hop
    exact h.exaStep hlt call
  · rcases renderStep_cases (s := s) fun call hcall => hop ⟨call, hcall⟩ with
      ⟨args, heq⟩ | ⟨call, heq, -⟩
    · rw [heq]
      exact h
    · rw [heq]
      exact h.draws (bracket_accessed s call _) frees_bracket

theorem keepsMemory_iff (h : Mem s.exa) (hlt : ∀ p ∈ s.exa.live, p < s.exa.next)
    (hheld : NamesHeld s.exa) (op : RenderOp) :
    NamesHeld (renderStep s op).exa ↔ KeepsMemory s op := by
  by_cases hop : ∃ call, op = .call call
  · obtain ⟨call, rfl⟩ := hop
    exact namesHeld_step_iff h hlt hheld call
  · have hkeeps : KeepsMemory s op := by
      unfold KeepsMemory
      split
      · next call => exact absurd ⟨call, rfl⟩ hop
      · trivial
    refine iff_of_true ?_ hkeeps
    rcases renderStep_cases (s := s) fun call hcall => hop ⟨call, hcall⟩ with
      ⟨args, heq⟩ | ⟨call, heq, -⟩
    · rw [heq]
      exact hheld
    · rw [heq]
      exact hheld.draws h (bracket_accessed s call _) frees_bracket

end Runs

/-- **CPU access goes to the pixmap's own memory, and no private names memory that was released,
exactly as long as** no exchange gives a private for kernel memory to a pixmap that has kept the
pointer of its plain memory, and no buffer object is destroyed that a pixmap is left with. -/
theorem aimed_iff (exaDrvPtr : Bool) (nextFd : Nat) (ops : List RenderOp) :
    Always renderStep (fun s => Aimed s ∧ NamesHeld s.exa) (.start exaDrvPtr nextFd) ops ↔
      Guarded renderStep (fun s op => KeepsKind s op ∧ KeepsMemory s op)
        (.start exaDrvPtr nextFd) ops := by
  refine always_iff_guarded (I := fun s => Inv s.exa ∧ Mem s.exa)
    (fun s op h => ⟨h.1.next op, h.2.next h.1.lt op⟩) (fun s op h hprop => ?_)
    ⟨inv_start exaDrvPtr nextFd, mem_start exaDrvPtr nextFd⟩
    ⟨(fun _ hp => nomatch hp), fun _ hp => nomatch hp⟩ ops
  obtain ⟨haimed, hheld⟩ := hprop
  rw [aimed_iff_clear (h.1.next op)]
  exact and_congr (clear_step_iff h.1 ((aimed_iff_clear h.1).mp haimed) op)
    (keepsMemory_iff h.2 h.1.lt hheld op)

/-- A `malloc` pixmap that was drawn with changes places with a pixmap in kernel memory, and the
latter is drawn with through the pointer that was left. -/
example :
    ((run renderStep (.start true 3)
      [.call (.create (createCall 64 64 0 true)), .solid 0 0 0 8 8 ⟨true, true⟩,
        .call (.create (createCall 64 64 usageScanout true)),
        .call (.exchange 0 2)]).exa.pixmaps 0).ptr = some (.malloced 1) := by decide

/-- The export of a new buffer object fails: the old one is gone, and the pixmap still names it. -/
example :
    let s := run renderStep (.start true 3)
      [.call (.create (createCall 64 64 usageScanout true)),
        .call (.importBo 256 16384 ⟨true, true⟩), .call (.setBo 0 2 true ⟨true, false⟩)]
    (s.exa.privs 0).bo = some 1 ∧ Act.release (.bo 1) ∈ s.exa.log := by decide

end LoongsonVideo.Driver.ExaAccess
