import LoongsonVideo.Driver.ExaPixmapLedger

/-!
# CPU access to EXA pixmaps

The software renderer of `src/fake_exa.c`: `ms_exa_solid`, `ms_exa_copy` and
`ms_exa_composite` prepare every pixmap for CPU access, let fb draw through
`devPrivate.ptr`, and finish the access.  `exa_prepare_args` carries the arguments over
from the prepare hooks.  EXA calls the hooks for pixmaps that `ms_exa_pixmap_is_offscreen`
accepts, and the results of `ms_exa_prepare_access` are not looked at.

* `aimed_iff_clear`, `clear_step_iff`: when a pixmap's pointer is to memory of its own.
* `no_null_draws`: when fb does not draw through `NULL`.
-/

namespace LoongsonVideo.Driver.ExaAccess

open LoongsonVideo.Driver.ExaPixmap
open LoongsonVideo.Driver.ExaPixmapLedger
open LoongsonVideo.Verified.Machine

/-! ## Arguments -/

/-- A `PicturePtr` and its `pDrawable`. -/
structure Picture where
  id : Nat
  pDrawable : Option Nat
  deriving DecidableEq, Repr

structure SolidArgs where
  alu : Int
  planemask : Nat
  fg : Nat
  deriving DecidableEq, Repr

structure CopyArgs where
  pSrcPixmap : Nat
  alu : Int
  planemask : Nat
  deriving DecidableEq, Repr

structure CompositeArgs where
  op : Int
  pSrcPicture : Picture
  pMaskPicture : Option Picture
  pDstPicture : Picture
  pSrc : Nat
  pMask : Option Nat
  deriving DecidableEq, Repr

/-- `exa_prepare_args`, which starts as zeros. -/
structure PrepareArgs where
  solid : SolidArgs
  copy : Option CopyArgs
  composite : Option CompositeArgs
  deriving DecidableEq, Repr

/-- `width` by `height` pixels at a place of the destination, and where they come from. -/
structure Area where
  srcX : Int
  srcY : Int
  maskX : Int
  maskY : Int
  dstX : Int
  dstY : Int
  width : Int
  height : Int
  deriving DecidableEq, Repr

/-- What fb is asked for. -/
inductive FbCall where
  | fbFill (p : Nat) (args : SolidArgs) (x y width height : Int)
  | fbCopyArea (src dst : Nat) (alu : Int) (planemask : Nat) (srcX srcY width height dstX dstY : Int)
  | fbComposite (args : CompositeArgs) (dst : Nat) (area : Area)
  deriving DecidableEq, Repr

/-- The pixmaps, the arguments, what fb has drawn, and whether it met a `NULL` pointer. -/
structure RenderState where
  exa : ExaState
  args : PrepareArgs
  drawn : List FbCall
  fault : Bool

def RenderState.start (exaDrvPtr : Bool) (nextFd : Nat) : RenderState where
  exa := ExaPixmapLedger.start exaDrvPtr nextFd
  args := ⟨⟨0, 0, 0⟩, none, none⟩
  drawn := []
  fault := false

/-! ## The hooks -/

/-- `ms_exa_prepare_access`, whose result is not looked at. -/
def prepareAccess (s : ExaState) (pixmap : Nat × MapDumb) : ExaState :=
  (msExaPrepareAccess s pixmap.1 pixmap.2).1

/-- The pixmaps are prepared in order, fb draws, and they are finished in the other order. -/
def bracket (s : RenderState) (call : FbCall) (pixmaps : List (Nat × MapDumb)) : RenderState :=
  let exa := pixmaps.foldl prepareAccess s.exa
  { s with
    exa := (pixmaps.map Prod.fst).reverse.foldl msExaFinishAccess exa
    drawn := call :: s.drawn
    fault := s.fault || pixmaps.any fun pixmap => (exa.pixmaps pixmap.1).ptr.isNone }

/-- `ms_exa_prepare_solid`. -/
def msExaPrepareSolid (s : RenderState) (alu : Int) (planemask fg : Nat) : RenderState :=
  { s with args := { s.args with solid := ⟨alu, planemask, fg⟩ } }

/-- `ms_exa_solid`. -/
def msExaSolid (s : RenderState) (p : Nat) (x1 y1 x2 y2 : Int) (a : MapDumb) : RenderState :=
  bracket s (.fbFill p s.args.solid x1 y1 (x2 - x1) (y2 - y1)) [(p, a)]

/-- `ms_exa_prepare_copy`. -/
def msExaPrepareCopy (s : RenderState) (src : Nat) (alu : Int) (planemask : Nat) : RenderState :=
  { s with args := { s.args with copy := some ⟨src, alu, planemask⟩ } }

/-- `ms_exa_copy`. -/
def msExaCopy (s : RenderState) (args : CopyArgs) (dst : Nat)
    (srcX srcY dstX dstY width height : Int) (a a' : MapDumb) : RenderState :=
  bracket s (.fbCopyArea args.pSrcPixmap dst args.alu args.planemask srcX srcY width height dstX dstY)
    [(args.pSrcPixmap, a), (dst, a')]

/-- `ms_exa_check_composite`. -/
def msExaCheckComposite (pSrcPicture : Picture) : Bool := pSrcPicture.pDrawable.isSome

/-- `ms_exa_prepare_composite`. -/
def msExaPrepareComposite (s : RenderState) (args : CompositeArgs) : RenderState :=
  { s with args := { s.args with composite := some args } }

/-- `ms_exa_composite`. -/
def msExaComposite (s : RenderState) (args : CompositeArgs) (dst : Nat) (area : Area)
    (a a' a'' : MapDumb) : RenderState :=
  bracket s (.fbComposite args dst area)
    ((args.pMask.toList.map fun mask => (mask, a)) ++ [(args.pSrc, a'), (dst, a'')])

/-- `ms_exa_pixmap_is_offscreen`. -/
def msExaPixmapIsOffscreen (s : ExaState) (p : Nat) : Bool :=
  if lsIsDumbPixmap (s.privs p).usageHint then (s.privs p).bo.isSome
  else (s.privs p).buf.pDat.isSome

/-! ## Runs -/

inductive RenderOp where
  | call (op : ExaOp)
  | prepareSolid (alu : Int) (planemask fg : Nat)
  | solid (p : Nat) (x1 y1 x2 y2 : Int) (a : MapDumb)
  | prepareCopy (src : Nat) (alu : Int) (planemask : Nat)
  | copy (dst : Nat) (srcX srcY dstX dstY width height : Int) (a a' : MapDumb)
  | prepareComposite (args : CompositeArgs)
  | composite (dst : Nat) (area : Area) (a a' a'' : MapDumb)
  deriving DecidableEq, Repr

/-- The pixmaps that an operation draws with, and the answers when they are mapped. -/
def drawnWith (s : RenderState) : RenderOp → List (Nat × MapDumb)
  | .solid p _ _ _ _ a => [(p, a)]
  | .copy dst _ _ _ _ _ _ a a' =>
      match s.args.copy with
      | none => []
      | some args => [(args.pSrcPixmap, a), (dst, a')]
  | .composite dst _ a a' a'' =>
      match s.args.composite with
      | none => []
      | some args => (args.pMask.toList.map fun mask => (mask, a)) ++ [(args.pSrc, a'), (dst, a'')]
  | _ => []

/-- EXA draws with pixmaps that exist and are offscreen, after it has asked the hooks. -/
def asked (s : RenderState) (op : RenderOp) : Bool :=
  (drawnWith s op).all fun pixmap =>
    decide (pixmap.1 ∈ s.exa.live) && msExaPixmapIsOffscreen s.exa pixmap.1

def renderStep (s : RenderState) (op : RenderOp) : RenderState :=
  match op with
  | .call op => { s with exa := exaStep s.exa op }
  | .prepareSolid alu planemask fg => msExaPrepareSolid s alu planemask fg
  | .solid p x1 y1 x2 y2 a => if asked s op then msExaSolid s p x1 y1 x2 y2 a else s
  | .prepareCopy src alu planemask => msExaPrepareCopy s src alu planemask
  | .copy dst srcX srcY dstX dstY width height a a' =>
      match s.args.copy with
      | none => s
      | some args =>
          if asked s op then msExaCopy s args dst srcX srcY dstX dstY width height a a' else s
  | .prepareComposite args =>
      if msExaCheckComposite args.pSrcPicture then msExaPrepareComposite s args else s
  | .composite dst area a a' a'' =>
      match s.args.composite with
      | none => s
      | some args => if asked s op then msExaComposite s args dst area a a' a'' else s

/-! ## Memory of one's own -/

/-- A place in memory is the pixmap's. -/
def ownMemory (s : ExaState) (p : Nat) : PixelData → Prop
  | .mapped m => (s.privs p).bo = some m.bo
  | .malloced block => (s.privs p).buf.pDat = some block

/-- **The property**: when a pixmap is prepared for access, the pointer is to its own memory. -/
def Aimed (s : RenderState) : Prop :=
  ∀ p ∈ s.exa.live, ∀ a d, (msExaPrepareAccess s.exa p a).2 = true →
    ((msExaPrepareAccess s.exa p a).1.pixmaps p).ptr = some d → ownMemory s.exa p d

/-- A private for kernel memory does not go to a pixmap that fb has drawn with and that has kept
its pointer. -/
def KeepsKind (s : RenderState) : RenderOp → Prop
  | .call (.exchange front back) =>
      front ∈ s.exa.live → back ∈ s.exa.live →
        ((s.exa.pixmaps front).ptr.isSome = true →
          lsIsDumbPixmap (s.exa.privs back).usageHint = false) ∧
        ((s.exa.pixmaps back).ptr.isSome = true →
          lsIsDumbPixmap (s.exa.privs front).usageHint = false)
  | _ => True

/-- The kernel maps what it is asked to map. -/
def Granted (s : RenderState) (op : RenderOp) : Prop :=
  ∀ pixmap ∈ drawnWith s op, lsIsDumbPixmap (s.exa.privs pixmap.1).usageHint = true →
    ∀ b ∈ (s.exa.privs pixmap.1).bo,
      ((s.exa.bos b).ptr.isSome || (pixmap.2.ioctlOk && pixmap.2.mmapOk)) = true

instance (s : RenderState) (op : RenderOp) : Decidable (Granted s op) :=
  List.decidableBAll _ _

/-! ## What the pixmap calls leave alone -/

/-- No pointer changes, no buffer object is mapped, and no pixmap comes or goes. -/
structure Calm (s s' : ExaState) : Prop where
  pixmaps : s'.pixmaps = s.pixmaps
  maps : ∀ b m, (s'.bos b).ptr = some m → (s.bos b).ptr = some m
  next : s.next ≤ s'.next
  live : s'.live = s.live

theorem Calm.refl (s : ExaState) : Calm s s := ⟨rfl, fun _ _ h => h, Nat.le_refl _, rfl⟩

theorem Calm.trans {s t u : ExaState} (h : Calm s t) (h' : Calm t u) : Calm s u :=
  ⟨h'.pixmaps.trans h.pixmaps, fun b m hm => h.maps b m (h'.maps b m hm), h.next.trans h'.next,
    h'.live.trans h.live⟩

section Calls

variable (s : ExaState)

/-- A buffer object that is not mapped. -/
theorem calm_setBo (b : Nat) {bo : DumbBo} (hbo : bo.ptr = none) : Calm s (s.setBo b bo) := by
  refine ⟨rfl, fun b' m hm => ?_, Nat.le_refl _, rfl⟩
  change (Function.update s.bos b bo b').ptr = some m at hm
  by_cases hb : b' = b
  · subst hb
    rw [Function.update_self, hbo] at hm
    cases hm
  · rw [Function.update_of_ne hb] at hm
    exact hm

theorem calm_act (a : Verified.Ledger.Act Resource) : Calm s (s.act a) :=
  ⟨rfl, fun _ _ h => h, Nat.le_refl _, rfl⟩

theorem calm_setPriv (p : Nat) (priv : ExaPixmapPriv) : Calm s (s.setPriv p priv) :=
  ⟨rfl, fun _ _ h => h, Nat.le_refl _, rfl⟩

theorem calm_allocate (x : Nat → Resource) : Calm s (s.allocate x) :=
  ⟨rfl, fun _ _ h => h, Nat.le_succ _, rfl⟩

theorem calm_newBo (bo : DumbBo) (hbo : bo.ptr = none) :
    Calm s ((s.allocate .bo).setBo s.next bo) :=
  (calm_allocate s _).trans (calm_setBo _ _ hbo)

theorem calm_dumbBoCreate (a : CreateDumb) : Calm s (dumbBoCreate s a).1 := by
  unfold dumbBoCreate
  split
  · exact calm_newBo s _ rfl
  · exact Calm.refl s

theorem calm_dumbBoDestroy (b : Nat) (ioctlOk : Bool) : Calm s (dumbBoDestroy s b ioctlOk) := by
  have hcleared : Calm s ((s.act (.touch (.bo b))).setBo b { s.bos b with ptr := none }) :=
    (calm_act s _).trans (calm_setBo _ b rfl)
  unfold dumbBoDestroy
  cases ioctlOk with
  | false => exact hcleared
  | true => exact hcleared.trans (calm_act _ _)

theorem calm_drmPrimeHandleToFD (b : Nat) (ok : Bool) :
    Calm s (drmPrimeHandleToFD s b ok).1 := by
  cases ok with
  | false => exact calm_act s _
  | true => exact ⟨rfl, fun _ _ h => h, Nat.le_refl _, rfl⟩

theorem calm_closeFd (fd : Int) : Calm s (closeFd s fd) := by
  unfold closeFd
  split
  · exact calm_act s _
  · exact Calm.refl s

theorem calm_destroyOwned (priv : ExaPixmapPriv) (ioctlOk : Bool) :
    Calm s (destroyOwned s priv ioctlOk) := by
  unfold destroyOwned
  split
  · exact calm_dumbBoDestroy s _ _
  · exact Calm.refl s

theorem calm_lsFreeBuf (p : Nat) : Calm s (lsFreeBuf s p) := by
  unfold lsFreeBuf
  split
  · exact Calm.refl s
  · exact (calm_act s _).trans (calm_setPriv _ _ _)

theorem calm_lsCreateExaPixmap (c : CreateCall) : Calm s (lsCreateExaPixmap s c).1 := by
  have hnew : Calm s (newPriv s c.usageHint) := (calm_allocate s _).trans (calm_setPriv _ _ _)
  unfold lsCreateExaPixmap
  cases c.callocOk with
  | false => exact Calm.refl s
  | true =>
      cases c.hasSize with
      | false => exact hnew
      | true =>
          cases hmalloc : c.mallocOk with
          | false =>
              simp only [lsAllocBuf]
              exact hnew.trans ((calm_setPriv _ _ _).trans (calm_act _ _))
          | true =>
              simp only [lsAllocBuf]
              exact hnew.trans ((calm_allocate _ _).trans (calm_setPriv _ _ _))

theorem calm_lsCreateDumbPixmap (c : CreateCall) : Calm s (lsCreateDumbPixmap s c).1 := by
  have hnew : Calm s (newPriv s c.usageHint) := (calm_allocate s _).trans (calm_setPriv _ _ _)
  unfold lsCreateDumbPixmap
  cases c.callocOk with
  | false => exact Calm.refl s
  | true =>
      simp only [Bool.not_true, Bool.false_eq_true, if_false]
      split
      · exact hnew
      · have hcreate := calm_dumbBoCreate (newPriv s c.usageHint) c.createDumb
        split
        · next t heq =>
            rw [heq] at hcreate
            exact hnew.trans (hcreate.trans (calm_act _ _))
        · next t b heq =>
            rw [heq] at hcreate
            have hset := (hnew.trans hcreate).trans
              (calm_setPriv t s.next { t.privs s.next with bo := some b, owned := true })
            have hprime := hset.trans (calm_drmPrimeHandleToFD _ b c.primeOk)
            split
            · next heq' =>
                rw [heq'] at hprime
                exact hprime
            · next heq' =>
                rw [heq'] at hprime
                exact hprime.trans (calm_setPriv _ _ _)

/-- What a creation makes of the privates. -/
structure Makes (s : ExaState) (c : CreateCall) (out : ExaState × Option (Nat × Option Int)) :
    Prop where
  others : ∀ q, q ≠ s.next → out.1.privs q = s.privs q
  made : ∀ p pitch, out.2 = some (p, pitch) → p = s.next ∧ s.next < out.1.next ∧
    (out.1.privs p).usageHint = c.usageHint ∧
    (lsIsDumbPixmap c.usageHint = true → (out.1.privs p).buf.pDat = none)

theorem newPriv_others (usageHint : UInt32) {q : Nat} (hq : q ≠ s.next) :
    (newPriv s usageHint).privs q = s.privs q := Function.update_of_ne hq _ _

theorem newPriv_self (usageHint : UInt32) :
    (newPriv s usageHint).privs s.next = ExaPixmapPriv.new usageHint := Function.update_self ..

theorem lsCreateExaPixmap_makes (c : CreateCall) (hdumb : lsIsDumbPixmap c.usageHint = false) :
    Makes s c (lsCreateExaPixmap s c) := by
  have hnot : ∀ {buf : LoongsonBuf}, lsIsDumbPixmap c.usageHint = true → buf.pDat = none :=
    fun h => absurd (h.symm.trans hdumb) Bool.noConfusion
  unfold lsCreateExaPixmap
  cases c.callocOk with
  | false => exact ⟨fun _ _ => rfl, fun _ _ h => nomatch h⟩
  | true =>
      have hothers : ∀ q, q ≠ s.next → (newPriv s c.usageHint).privs q = s.privs q :=
        fun q hq => newPriv_others s _ hq
      cases c.hasSize with
      | false =>
          refine ⟨hothers, fun p pitch h => ?_⟩
          cases h
          exact ⟨rfl, Nat.lt_succ_self _, congrArg _ (newPriv_self s _), hnot⟩
      | true =>
          cases hmalloc : c.mallocOk with
          | false =>
              refine ⟨fun q hq => ?_, fun _ _ h => nomatch h⟩
              exact (Function.update_of_ne hq _ _).trans (hothers q hq)
          | true =>
              refine ⟨fun q hq => ?_, fun p pitch h => ?_⟩
              · exact (Function.update_of_ne hq _ _).trans (hothers q hq)
              · cases h
                refine ⟨rfl, Nat.lt_succ_of_lt (Nat.lt_succ_self _), ?_, hnot⟩
                exact (congrArg _ (Function.update_self ..)).trans
                  (congrArg ExaPixmapPriv.usageHint (newPriv_self s _))

theorem lsCreateDumbPixmap_makes (c : CreateCall) : Makes s c (lsCreateDumbPixmap s c) := by
  unfold lsCreateDumbPixmap
  cases c.callocOk with
  | false => exact ⟨fun _ _ => rfl, fun _ _ h => nomatch h⟩
  | true =>
      simp only [Bool.not_true, Bool.false_eq_true, if_false]
      have hothers : ∀ q, q ≠ s.next → (newPriv s c.usageHint).privs q = s.privs q :=
        fun q hq => newPriv_others s _ hq
      have hself := newPriv_self s c.usageHint
      split
      · refine ⟨hothers, fun p pitch h => ?_⟩
        cases h
        exact ⟨rfl, Nat.lt_succ_self _, congrArg _ hself, fun _ => congrArg (·.buf.pDat) hself⟩
      · unfold dumbBoCreate
        cases c.createDumb.callocOk with
        | false => exact ⟨hothers, fun _ _ h => nomatch h⟩
        | true =>
            cases c.createDumb.reply with
            | none => exact ⟨hothers, fun _ _ h => nomatch h⟩
            | some reply =>
                cases c.primeOk with
                | false =>
                    refine ⟨fun q hq => ?_, fun _ _ h => nomatch h⟩
                    exact (Function.update_of_ne hq _ _).trans (hothers q hq)
                | true =>
                    refine ⟨fun q hq => ?_, fun p pitch h => ?_⟩
                    · exact ((Function.update_of_ne hq _ _).trans
                        (Function.update_of_ne hq _ _)).trans (hothers q hq)
                    · cases h
                      refine ⟨rfl, Nat.lt_succ_of_lt (Nat.lt_succ_self _), ?_, fun _ => ?_⟩
                      · simp [drmPrimeHandleToFD, ExaState.setPriv, ExaState.act, ExaState.setBo,
                          ExaState.allocate, hself, ExaPixmapPriv.new]
                      · simp [drmPrimeHandleToFD, ExaState.setPriv, ExaState.act, ExaState.setBo,
                          ExaState.allocate, hself, ExaPixmapPriv.new, LoongsonBuf.zero]

end Calls

/-! ## The invariant -/

/-- **The invariant**: between two calls a pointer that is left is to plain memory, and a buffer
object is mapped to an address of its own. -/
structure Inv (s : ExaState) : Prop where
  parked : ∀ p d, (s.pixmaps p).ptr = some d → ∃ block, d = .malloced block
  fresh : ∀ p, s.next ≤ p → (s.pixmaps p).ptr = none
  lt : ∀ p ∈ s.live, p < s.next
  maps : ∀ b m, (s.bos b).ptr = some m → m.bo = b
  dumb : ∀ p ∈ s.live, lsIsDumbPixmap (s.privs p).usageHint = true →
    (s.privs p).buf.pDat = none

/-- No pixmap in kernel memory keeps a pointer. -/
def Clear (s : ExaState) : Prop :=
  ∀ p ∈ s.live, lsIsDumbPixmap (s.privs p).usageHint = true → (s.pixmaps p).ptr = none

/-- A private keeps its hint, and gets no memory. -/
def SameKind (priv priv' : ExaPixmapPriv) : Prop :=
  priv'.usageHint = priv.usageHint ∧ (priv'.buf.pDat = priv.buf.pDat ∨ priv'.buf.pDat = none)

theorem SameKind.of_eq {priv priv' : ExaPixmapPriv} (h : priv' = priv) : SameKind priv priv' :=
  ⟨congrArg _ h, Or.inl (congrArg (·.buf.pDat) h)⟩

/-- What a call does that exchanges no privates. -/
structure Settled (s s' : ExaState) : Prop where
  ptr : ∀ p, (s'.pixmaps p).ptr = (s.pixmaps p).ptr ∨ (s'.pixmaps p).ptr = none
  maps : ∀ b m, (s'.bos b).ptr = some m → (s.bos b).ptr = some m
  next : s.next ≤ s'.next
  live : ∀ p ∈ s'.live,
    (p ∈ s.live ∧ SameKind (s.privs p) (s'.privs p)) ∨
    (p = s.next ∧ s.next < s'.next ∧
      (lsIsDumbPixmap (s'.privs p).usageHint = true → (s'.privs p).buf.pDat = none))

section Steps

variable {s s' : ExaState}

theorem Settled.none (h : Settled s s') {p : Nat} (hp : (s.pixmaps p).ptr = none) :
    (s'.pixmaps p).ptr = none := by
  rcases h.ptr p with hsame | hnone
  · rw [hsame, hp]
  · exact hnone

theorem Inv.settled (h : Inv s) (hset : Settled s s') : Inv s' where
  parked := by
    intro p d hd
    rcases hset.ptr p with hsame | hnone
    · exact h.parked p d (hsame ▸ hd)
    · rw [hnone] at hd
      cases hd
  fresh := fun p hp => hset.none (h.fresh p (hset.next.trans hp))
  lt := by
    intro p hp
    rcases hset.live p hp with ⟨hold, -, -⟩ | ⟨rfl, hlt, -⟩
    · exact (h.lt p hold).trans_le hset.next
    · exact hlt
  maps := fun b m hm => h.maps b m (hset.maps b m hm)
  dumb := by
    intro p hp hdumb
    rcases hset.live p hp with ⟨hold, hhint, hsame | hnone⟩ | ⟨-, -, hnew⟩
    · rw [hsame]
      exact h.dumb p hold (hhint ▸ hdumb)
    · exact hnone
    · exact hnew hdumb

theorem Clear.settled (hclear : Clear s) (h : Inv s) (hset : Settled s s') : Clear s' := by
  intro p hp hdumb
  rcases hset.live p hp with ⟨hold, hhint, -⟩ | ⟨rfl, -, -⟩
  · exact hset.none (hclear p hold (hhint ▸ hdumb))
  · exact hset.none (h.fresh _ (Nat.le_refl _))

theorem Calm.settled (h : Calm s s') (hprivs : s'.privs = s.privs) : Settled s s' where
  ptr := fun p => Or.inl (congrArg PixmapRec.ptr (congrFun h.pixmaps p))
  maps := h.maps
  next := h.next
  live := fun p hp => Or.inl ⟨h.live ▸ hp, SameKind.of_eq (congrFun hprivs p)⟩

theorem Settled.refl (s : ExaState) : Settled s s := (Calm.refl s).settled rfl

theorem settled_create (c : CreateCall) (h : Inv s) : Settled s (exaStep s (.create c)) := by
  have hmakes : Calm s (if lsIsDumbPixmap c.usageHint then lsCreateDumbPixmap s c
        else lsCreateExaPixmap s c).1 ∧
      Makes s c (if lsIsDumbPixmap c.usageHint then lsCreateDumbPixmap s c
        else lsCreateExaPixmap s c) := by
    split
    · exact ⟨calm_lsCreateDumbPixmap s c, lsCreateDumbPixmap_makes s c⟩
    · next hdumb =>
        exact ⟨calm_lsCreateExaPixmap s c, lsCreateExaPixmap_makes s c (by simpa using hdumb)⟩
  simp only [exaStep, msExaCreatePixmap2]
  generalize (if lsIsDumbPixmap c.usageHint = true then lsCreateDumbPixmap s c
    else lsCreateExaPixmap s c) = out at hmakes ⊢
  obtain ⟨hcalm, hmakes⟩ := hmakes
  obtain ⟨t, made⟩ := out
  have hold : ∀ p ∈ s.live, t.privs p = s.privs p := fun p hp =>
    hmakes.others p (Nat.ne_of_lt (h.lt p hp))
  have hptr : ∀ p, (t.pixmaps p).ptr = (s.pixmaps p).ptr := fun p =>
    congrArg PixmapRec.ptr (congrFun hcalm.pixmaps p)
  cases made with
  | none =>
      refine ⟨fun p => Or.inl (hptr p), hcalm.maps, hcalm.next, fun p hp => Or.inl ?_⟩
      have hp : p ∈ s.live := hcalm.live ▸ hp
      exact ⟨hp, SameKind.of_eq (hold p hp)⟩
  | some made =>
      obtain ⟨q, pitch⟩ := made
      obtain ⟨rfl, hlt, hhint, hdumb⟩ := hmakes.made q pitch rfl
      refine ⟨fun p => Or.inl (hptr p), hcalm.maps, hcalm.next, fun p hp => ?_⟩
      rcases List.mem_cons.mp hp with rfl | hp
      · exact Or.inr ⟨rfl, hlt, fun h => hdumb (hhint ▸ h)⟩
      · have hp : p ∈ s.live := hcalm.live ▸ hp
        exact Or.inl ⟨hp, SameKind.of_eq (hold p hp)⟩

theorem settled_importBo (pitch size : UInt32) (a : ImportDumb) :
    Settled s (exaStep s (.importBo pitch size a)) := by
  simp only [exaStep, dumbGetBoFromFd]
  cases a.callocOk with
  | false => exact Settled.refl s
  | true =>
      cases a.primeFDToHandleOk with
      | false => exact Settled.refl s
      | true =>
          have hcalm := calm_newBo s ⟨size, none, pitch⟩ rfl
          exact Calm.settled ⟨rfl, hcalm.maps, hcalm.next, rfl⟩ rfl

theorem settled_setBo (p b : Nat) (owned : Bool) (a : SetAnswer) :
    Settled s (exaStep s (.setBo p b owned a)) := by
  simp only [exaStep]
  split
  · unfold msExaSetPixmapBo
    cases s.exaDrvPtr with
    | false => exact Settled.refl s
    | true =>
        have hkept := ((kept_act s (.touch (.priv p))).trans (kept_closeFd _ (s.privs p).fd)).trans
          (kept_destroyOwned _ (s.privs p) a.destroyOk)
        have hcalm := ((calm_act s (.touch (.priv p))).trans (calm_closeFd _ (s.privs p).fd)).trans
          (calm_destroyOwned _ (s.privs p) a.destroyOk)
        simp only [Bool.not_true, Bool.false_eq_true, if_false]
        generalize destroyOwned (closeFd (s.act (.touch (.priv p))) (s.privs p).fd)
          (s.privs p) a.destroyOk = t at hkept hcalm ⊢
        have hptr : ∀ q, (t.pixmaps q).ptr = (s.pixmaps q).ptr := fun q =>
          congrArg PixmapRec.ptr (congrFun hcalm.pixmaps q)
        cases a.primeOk with
        | false => exact (hcalm.trans (calm_act t _)).settled hkept.privs
        | true =>
            have hset : Settled s (((drmPrimeHandleToFD t b true).1.setPriv p
                { t.privs p with
                  bo := some b
                  fd := t.nextFd
                  pitch := ((t.bos b).pitch.toInt32.toInt : Int)
                  owned := owned }).setPixmap p
                { t.pixmaps p with ptr := none, devKind := (t.bos b).pitch.toInt32.toInt }) := by
              refine ⟨fun q => ?_, hcalm.maps, hcalm.next, fun q hq => Or.inl ⟨hcalm.live ▸ hq, ?_⟩⟩
              · by_cases hq : q = p
                · exact Or.inr (by simp [ExaState.setPixmap, hq])
                · exact Or.inl ((congrArg PixmapRec.ptr (Function.update_of_ne hq _ _)).trans
                    (hptr q))
              · by_cases hq : q = p
                · have hself := congrFun hkept.privs p
                  simp [SameKind, ExaState.setPixmap, ExaState.setPriv, hq, hself]
                · exact SameKind.of_eq
                    ((Function.update_of_ne hq _ _).trans (congrFun hkept.privs q))
            cases owned with
            | false => exact hset
            | true => exact ⟨hset.ptr, hset.maps, hset.next, hset.live⟩
  · exact Settled.refl s

theorem sameKind_lsFreeBuf (s : ExaState) (p q : Nat) :
    SameKind (s.privs q) ((lsFreeBuf s p).privs q) := by
  unfold lsFreeBuf
  split
  · exact SameKind.of_eq rfl
  · by_cases hq : q = p
    · simp [SameKind, ExaState.setPriv, ExaState.act, hq, LoongsonBuf.zero]
    · exact SameKind.of_eq (Function.update_of_ne hq _ _)

theorem settled_destroy (p : Nat) (ioctlOk : Bool) :
    Settled s (exaStep s (.destroy p ioctlOk)) := by
  simp only [exaStep]
  split
  · have hgone : ∀ {t : ExaState},
        Calm (({ s with live := s.live.erase p } : ExaState).act (.touch (.priv p))) t →
          (∀ q, SameKind (s.privs q) (t.privs q)) → Settled s t := fun hcalm hkind =>
      ⟨fun q => Or.inl (congrArg PixmapRec.ptr (congrFun hcalm.pixmaps q)), hcalm.maps,
        hcalm.next, fun q hq => Or.inl ⟨List.mem_of_mem_erase (hcalm.live ▸ hq), hkind q⟩⟩
    unfold msExaDestroyPixmap
    simp only
    split
    · have hkept := (kept_closeFd (({ s with live := s.live.erase p } : ExaState).act
        (.touch (.priv p))) (s.privs p).fd).trans (kept_destroyOwned _ (s.privs p) ioctlOk)
      refine hgone (((calm_closeFd _ _).trans (calm_destroyOwned _ _ _)).trans (calm_act _ _)) ?_
      exact fun q => SameKind.of_eq (congrFun hkept.privs q)
    · refine hgone ((calm_lsFreeBuf _ _).trans (calm_act _ _)) ?_
      exact fun q => sameKind_lsFreeBuf _ p q
  · exact Settled.refl s

theorem settled_callerDestroys (b : Nat) (ioctlOk : Bool) :
    Settled s (exaStep s (.callerDestroys b ioctlOk)) := by
  simp only [exaStep]
  split
  · have hcalm := calm_dumbBoDestroy { s with callerBos := s.callerBos.erase b } b ioctlOk
    exact Calm.settled ⟨hcalm.pixmaps, hcalm.maps, hcalm.next, hcalm.live⟩
      (kept_dumbBoDestroy _ b ioctlOk).privs
  · exact Settled.refl s

/-! ## Exchanges -/

theorem Inv.exchange (h : Inv s) (front back : Nat) : Inv (exaStep s (.exchange front back)) := by
  simp only [exaStep]
  split
  · next hlive =>
      refine ⟨h.parked, h.fresh, h.lt, h.maps, fun p hp => ?_⟩
      show lsIsDumbPixmap (Function.update (Function.update s.privs front (s.privs back)) back
          (s.privs front) p).usageHint = true →
        (Function.update (Function.update s.privs front (s.privs back)) back
          (s.privs front) p).buf.pDat = none
      by_cases hback : p = back
      · rw [hback, Function.update_self]
        exact h.dumb front hlive.1
      · rw [Function.update_of_ne hback]
        by_cases hfront : p = front
        · rw [hfront, Function.update_self]
          exact h.dumb back hlive.2
        · rw [Function.update_of_ne hfront]
          exact h.dumb p hp
  · exact h

/-- An exchange leaves no pointer behind exactly when none is in its way. -/
theorem Clear.exchange_iff (hclear : Clear s) (front back : Nat) :
    Clear (exaStep s (.exchange front back)) ↔
      (front ∈ s.live → back ∈ s.live →
        ((s.pixmaps front).ptr.isSome = true → lsIsDumbPixmap (s.privs back).usageHint = false) ∧
        ((s.pixmaps back).ptr.isSome = true →
          lsIsDumbPixmap (s.privs front).usageHint = false)) := by
  by_cases hlive : front ∈ s.live ∧ back ∈ s.live
  · obtain ⟨hfront, hback⟩ := hlive
    have hstep : exaStep s (.exchange front back) = msExaExchangeBuffers s front back :=
      if_pos ⟨hfront, hback⟩
    have hprivFront : (msExaExchangeBuffers s front back).privs front = s.privs back := by
      show Function.update (Function.update s.privs front (s.privs back)) back
        (s.privs front) front = s.privs back
      by_cases heq : front = back
      · rw [heq, Function.update_self]
      · rw [Function.update_of_ne heq, Function.update_self]
    have hprivBack : (msExaExchangeBuffers s front back).privs back = s.privs front :=
      Function.update_self ..
    have hprivOther : ∀ p, p ≠ front → p ≠ back →
        (msExaExchangeBuffers s front back).privs p = s.privs p := fun p hf hb =>
      (Function.update_of_ne hb _ _).trans (Function.update_of_ne hf _ _)
    rw [hstep]
    constructor
    · intro hafter _ _
      refine ⟨fun hptr => ?_, fun hptr => ?_⟩
      · by_contra hdumb
        have hnone := hafter front hfront (by rw [hprivFront]; simpa using hdumb)
        exact Option.not_isSome_iff_eq_none.mpr hnone hptr
      · by_contra hdumb
        have hnone := hafter back hback (by rw [hprivBack]; simpa using hdumb)
        exact Option.not_isSome_iff_eq_none.mpr hnone hptr
    · intro hkeeps p hp hdumb
      obtain ⟨hkeepsFront, hkeepsBack⟩ := hkeeps hfront hback
      refine Option.not_isSome_iff_eq_none.mp fun hptr => ?_
      by_cases hpb : p = back
      · rw [hpb, hprivBack] at hdumb
        exact Bool.false_ne_true ((hkeepsBack (hpb ▸ hptr)).symm.trans hdumb)
      · by_cases hpf : p = front
        · rw [hpf, hprivFront] at hdumb
          exact Bool.false_ne_true ((hkeepsFront (hpf ▸ hptr)).symm.trans hdumb)
        · rw [hprivOther p hpf hpb] at hdumb
          exact Option.not_isSome_iff_eq_none.mpr (hclear p hp hdumb) hptr
  · have hstep : exaStep s (.exchange front back) = s := if_neg hlive
    rw [hstep]
    exact iff_of_true hclear fun hfront hback => absurd ⟨hfront, hback⟩ hlive

/-! ## Access -/

/-- What an access leaves alone. -/
structure Accessed (s s' : ExaState) : Prop where
  privs : s'.privs = s.privs
  live : s'.live = s.live
  next : s'.next = s.next
  maps : ∀ b m, (s'.bos b).ptr = some m → (s.bos b).ptr = some m ∨ m.bo = b
  mapped : ∀ b, (s.bos b).ptr.isSome = true → (s'.bos b).ptr.isSome = true

theorem Accessed.refl (s : ExaState) : Accessed s s :=
  ⟨rfl, rfl, rfl, fun _ _ h => Or.inl h, fun _ h => h⟩

theorem accessed_setPixmap (s : ExaState) (p : Nat) (pixmap : PixmapRec) :
    Accessed s (s.setPixmap p pixmap) := ⟨rfl, rfl, rfl, fun _ _ h => Or.inl h, fun _ h => h⟩

theorem accessed_touch (s : ExaState) (b : Nat) : Accessed s (s.act (.touch (.bo b))) :=
  ⟨rfl, rfl, rfl, fun _ _ h => Or.inl h, fun _ h => h⟩

theorem Accessed.trans {t : ExaState} (h : Accessed s t) (h' : Accessed t s') : Accessed s s' where
  privs := h'.privs.trans h.privs
  live := h'.live.trans h.live
  next := h'.next.trans h.next
  maps := fun b m hm => (h'.maps b m hm).elim (h.maps b m) Or.inr
  mapped := fun b hb => h'.mapped b (h.mapped b hb)

/-- `dumb_bo_map` maps one buffer object, if it answers. -/
theorem dumbBoMap_accessed (s : ExaState) (b : Nat) (a : MapDumb) :
    Accessed s (dumbBoMap s b a) ∧
      ((dumbBoMap s b a).bos b).ptr.isSome =
        ((s.bos b).ptr.isSome || (a.ioctlOk && a.mmapOk)) := by
  have htouched := accessed_touch s b
  have hbos : (s.act (.touch (.bo b))).bos = s.bos := rfl
  unfold dumbBoMap
  dsimp only
  rw [hbos]
  cases hptr : (s.bos b).ptr with
  | some m => exact ⟨htouched, by dsimp only; rw [hbos, hptr]; rfl⟩
  | none =>
      by_cases hok : (a.ioctlOk && a.mmapOk) = true
      · simp only [hok, if_true]
        refine ⟨⟨rfl, rfl, rfl, fun b' m hm => ?_, fun b' hb' => ?_⟩, ?_⟩
        · change (Function.update s.bos b _ b').ptr = some m at hm
          by_cases hb : b' = b
          · rw [hb, Function.update_self] at hm
            cases hm
            exact Or.inr hb.symm
          · rw [Function.update_of_ne hb] at hm
            exact Or.inl hm
        · show (Function.update s.bos b _ b').ptr.isSome = true
          by_cases hb : b' = b
          · rw [hb, Function.update_self]
            rfl
          · rw [Function.update_of_ne hb]
            exact hb'
        · simp [ExaState.setBo]
      · simp only [hok]
        exact ⟨htouched, by simp [hbos, hptr]⟩

theorem prepareAccess_accessed (s : ExaState) (p : Nat) (a : MapDumb) :
    Accessed s (msExaPrepareAccess s p a).1 := by
  unfold msExaPrepareAccess
  simp only
  split
  · split
    · exact Accessed.refl s
    · split
      · exact Accessed.refl s
      · next b _ =>
          have hmap := (dumbBoMap_accessed s b a).1
          exact ⟨hmap.privs, hmap.live, hmap.next, hmap.maps, hmap.mapped⟩
  · exact accessed_setPixmap s p _

theorem prepareAccess_ne (s : ExaState) {p q : Nat} (a : MapDumb) (hq : q ≠ p) :
    (msExaPrepareAccess s p a).1.pixmaps q = s.pixmaps q := by
  have hmap : ∀ b, (dumbBoMap s b a).pixmaps = s.pixmaps := by
    intro b
    unfold dumbBoMap
    dsimp only
    split
    · rfl
    · split
      · rfl
      · rfl
  unfold msExaPrepareAccess
  simp only
  split
  · split
    · rfl
    · split
      · rfl
      · exact (Function.update_of_ne hq _ _).trans (congrFun (hmap _) q)
  · exact Function.update_of_ne hq _ _

/-- A pixmap in plain memory gets its block. -/
theorem prepareAccess_malloced (s : ExaState) {p : Nat} (a : MapDumb)
    (hdumb : lsIsDumbPixmap (s.privs p).usageHint = false) :
    ((msExaPrepareAccess s p a).1.pixmaps p).ptr =
      (s.privs p).buf.pDat.map PixelData.malloced := by
  simp [msExaPrepareAccess, hdumb, ExaState.setPixmap]

theorem finishAccess_accessed (s : ExaState) (p : Nat) : Accessed s (msExaFinishAccess s p) := by
  unfold msExaFinishAccess
  split
  · exact accessed_setPixmap s p _
  · exact Accessed.refl s

theorem finishAccess_ptr (s : ExaState) (p q : Nat) :
    ((msExaFinishAccess s p).pixmaps q).ptr =
      if q = p ∧ (s.privs p).bo.isSome = true then none else (s.pixmaps q).ptr := by
  unfold msExaFinishAccess
  by_cases hbo : (s.privs p).bo.isSome = true
  · by_cases hq : q = p
    · simp [hbo, hq, ExaState.setPixmap]
    · simp [hbo, hq, ExaState.setPixmap]
  · simp [hbo]

/-- A pixmap that has memory is prepared, if the kernel maps it. -/
theorem prepareAccess_isSome {p : Nat} {a : MapDumb}
    (hoff : msExaPixmapIsOffscreen s p = true)
    (hgranted : lsIsDumbPixmap (s.privs p).usageHint = true → ∀ b ∈ (s.privs p).bo,
      ((s.bos b).ptr.isSome || (a.ioctlOk && a.mmapOk)) = true) :
    ((msExaPrepareAccess s p a).1.pixmaps p).ptr.isSome = true := by
  cases hdumb : lsIsDumbPixmap (s.privs p).usageHint with
  | false =>
      rw [prepareAccess_malloced s a hdumb, Option.isSome_map]
      simpa [msExaPixmapIsOffscreen, hdumb] using hoff
  | true =>
      cases hptr : (s.pixmaps p).ptr with
      | some d => simp [msExaPrepareAccess, hdumb, hptr]
      | none =>
          cases hbo : (s.privs p).bo with
          | none => simp [msExaPixmapIsOffscreen, hdumb, hbo] at hoff
          | some b =>
              have hmapped := (dumbBoMap_accessed s b a).2.trans (hgranted hdumb b hbo)
              simpa [msExaPrepareAccess, hdumb, hptr, hbo, ExaState.setPixmap] using hmapped

/-- All pixmaps of a bracket are prepared. -/
theorem prepareAll_accessed (s : ExaState) (pixmaps : List (Nat × MapDumb)) :
    Accessed s (pixmaps.foldl prepareAccess s) := by
  induction pixmaps generalizing s with
  | nil => exact Accessed.refl s
  | cons pixmap pixmaps ih =>
      exact (prepareAccess_accessed s pixmap.1 pixmap.2).trans (ih _)

theorem prepareAll_ne (s : ExaState) (pixmaps : List (Nat × MapDumb)) {q : Nat}
    (hq : q ∉ pixmaps.map Prod.fst) : (pixmaps.foldl prepareAccess s).pixmaps q = s.pixmaps q := by
  induction pixmaps generalizing s with
  | nil => rfl
  | cons pixmap pixmaps ih =>
      obtain ⟨hne, hrest⟩ := not_or.mp (List.mem_cons.not.mp hq)
      exact (ih _ hrest).trans (prepareAccess_ne s pixmap.2 hne)

theorem prepareAll_malloced (s : ExaState) (pixmaps : List (Nat × MapDumb)) {q : Nat}
    (hdumb : lsIsDumbPixmap (s.privs q).usageHint = false) (hq : q ∈ pixmaps.map Prod.fst) :
    ((pixmaps.foldl prepareAccess s).pixmaps q).ptr =
      (s.privs q).buf.pDat.map PixelData.malloced := by
  induction pixmaps generalizing s with
  | nil => cases hq
  | cons pixmap pixmaps ih =>
      have hprivs := (prepareAccess_accessed s pixmap.1 pixmap.2).privs
      by_cases hrest : q ∈ pixmaps.map Prod.fst
      · have hthen := ih (prepareAccess s pixmap) (by rw [prepareAccess, hprivs]; exact hdumb) hrest
        rw [List.foldl_cons, hthen, prepareAccess, hprivs]
      · have heq : q = pixmap.1 := (List.mem_cons.mp hq).resolve_right hrest
        rw [List.foldl_cons, prepareAll_ne _ pixmaps hrest, heq]
        exact prepareAccess_malloced s pixmap.2 (heq ▸ hdumb)

theorem finishAll_accessed (s : ExaState) (ps : List Nat) :
    Accessed s (ps.foldl msExaFinishAccess s) := by
  induction ps generalizing s with
  | nil => exact Accessed.refl s
  | cons p ps ih => exact (finishAccess_accessed s p).trans (ih _)

theorem finishAll_ptr (s : ExaState) (ps : List Nat) (q : Nat) :
    ((ps.foldl msExaFinishAccess s).pixmaps q).ptr =
      if q ∈ ps ∧ (s.privs q).bo.isSome = true then none else (s.pixmaps q).ptr := by
  induction ps generalizing s with
  | nil => simp
  | cons p ps ih =>
      rw [List.foldl_cons, ih, (finishAccess_accessed s p).privs, finishAccess_ptr]
      by_cases hbo : (s.privs q).bo.isSome = true
      · by_cases hq : q = p
        · subst hq
          simp [hbo]
        · simp [hbo, hq]
      · have hnot : ¬ (q = p ∧ (s.privs p).bo.isSome = true) := fun h => hbo (h.1 ▸ h.2)
        simp [hbo, hnot]

end Steps

section Draws

variable {s : RenderState} {call : FbCall} {pixmaps : List (Nat × MapDumb)}

/-- The pixmaps that EXA may draw with. -/
def Offscreen (s : ExaState) (pixmaps : List (Nat × MapDumb)) : Prop :=
  ∀ pixmap ∈ pixmaps, pixmap.1 ∈ s.live ∧ msExaPixmapIsOffscreen s pixmap.1 = true

theorem bracket_accessed (s : RenderState) (call : FbCall) (pixmaps : List (Nat × MapDumb)) :
    Accessed s.exa (bracket s call pixmaps).exa :=
  (prepareAll_accessed s.exa pixmaps).trans (finishAll_accessed _ _)

theorem bracket_ne {q : Nat} (hq : q ∉ pixmaps.map Prod.fst) :
    ((bracket s call pixmaps).exa.pixmaps q).ptr = (s.exa.pixmaps q).ptr := by
  refine (finishAll_ptr _ _ q).trans ?_
  rw [if_neg fun h => hq (List.mem_reverse.mp h.1), prepareAll_ne s.exa pixmaps hq]

/-- A pixmap that was drawn with keeps its pointer only in plain memory. -/
theorem bracket_mem (call : FbCall) (hoff : Offscreen s.exa pixmaps) {q : Nat}
    (hq : q ∈ pixmaps.map Prod.fst) :
    ((bracket s call pixmaps).exa.pixmaps q).ptr = none ∨
      lsIsDumbPixmap (s.exa.privs q).usageHint = false ∧
        ((bracket s call pixmaps).exa.pixmaps q).ptr =
          (s.exa.privs q).buf.pDat.map PixelData.malloced := by
  have hptr := finishAll_ptr (pixmaps.foldl prepareAccess s.exa)
    (pixmaps.map Prod.fst).reverse q
  rw [(prepareAll_accessed s.exa pixmaps).privs] at hptr
  by_cases hbo : (s.exa.privs q).bo.isSome = true
  · rw [if_pos ⟨List.mem_reverse.mpr hq, hbo⟩] at hptr
    exact Or.inl hptr
  · rw [if_neg fun h => hbo h.2] at hptr
    obtain ⟨pixmap, hpixmap, rfl⟩ := List.mem_map.mp hq
    have hplain : lsIsDumbPixmap (s.exa.privs pixmap.1).usageHint = false := by
      by_contra hdumb
      have hoffscreen := (hoff pixmap hpixmap).2
      rw [msExaPixmapIsOffscreen, if_pos (by simpa using hdumb)] at hoffscreen
      exact hbo hoffscreen
    exact Or.inr ⟨hplain, hptr.trans (prepareAll_malloced s.exa pixmaps hplain hq)⟩

theorem Inv.bracket (h : Inv s.exa) (hoff : Offscreen s.exa pixmaps) :
    Inv (bracket s call pixmaps).exa := by
  have hacc := bracket_accessed s call pixmaps
  refine ⟨fun p d hd => ?_, fun p hp => ?_, fun p hp => ?_, fun b m hm => ?_, fun p hp => ?_⟩
  · by_cases hp : p ∈ pixmaps.map Prod.fst
    · rcases bracket_mem call hoff hp with hnone | ⟨-, hsome⟩
      · rw [hnone] at hd
        cases hd
      · rw [hsome] at hd
        obtain ⟨block, -, rfl⟩ := Option.map_eq_some_iff.mp hd
        exact ⟨block, rfl⟩
    · rw [bracket_ne hp] at hd
      exact h.parked p d hd
  · rw [hacc.next] at hp
    have hnot : p ∉ pixmaps.map Prod.fst := by
      intro hin
      obtain ⟨pixmap, hpixmap, rfl⟩ := List.mem_map.mp hin
      exact absurd (h.lt _ (hoff pixmap hpixmap).1) (Nat.not_lt.mpr hp)
    rw [bracket_ne hnot]
    exact h.fresh p hp
  · rw [hacc.next]
    exact h.lt p (hacc.live ▸ hp)
  · exact (hacc.maps b m hm).elim (h.maps b m) id
  · rw [hacc.privs]
    exact h.dumb p (hacc.live ▸ hp)

theorem Clear.bracket (hclear : Clear s.exa) (hoff : Offscreen s.exa pixmaps) :
    Clear (bracket s call pixmaps).exa := by
  have hacc := bracket_accessed s call pixmaps
  intro p hp hdumb
  rw [hacc.privs] at hdumb
  by_cases hin : p ∈ pixmaps.map Prod.fst
  · rcases bracket_mem call hoff hin with hnone | ⟨hplain, -⟩
    · exact hnone
    · exact absurd (hplain.symm.trans hdumb) Bool.false_ne_true
  · rw [bracket_ne hin]
    exact hclear p (hacc.live ▸ hp) hdumb

end Draws

/-! ## Steps -/

section Runs

variable {s : RenderState}

/-- A step that is no pixmap call is a bracket of pixmaps that EXA may draw with, or draws
nothing. -/
theorem renderStep_cases {op : RenderOp} (hop : ∀ call, op ≠ .call call) :
    (∃ args, renderStep s op = { s with args := args }) ∨
      ∃ call, renderStep s op = bracket s call (drawnWith s op) ∧
        Offscreen s.exa (drawnWith s op) := by
  have hoff : asked s op = true → Offscreen s.exa (drawnWith s op) := by
    intro hasked pixmap hpixmap
    have hin := List.all_eq_true.mp hasked pixmap hpixmap
    simpa using hin
  cases op with
  | call call => exact absurd rfl (hop call)
  | prepareSolid alu planemask fg => exact Or.inl ⟨_, rfl⟩
  | solid p x1 y1 x2 y2 a =>
      simp only [renderStep]
      split
      · next hasked => exact Or.inr ⟨_, rfl, hoff hasked⟩
      · exact Or.inl ⟨s.args, rfl⟩
  | prepareCopy src alu planemask => exact Or.inl ⟨_, rfl⟩
  | copy dst srcX srcY dstX dstY width height a a' =>
      cases hargs : s.args.copy with
      | none => exact Or.inl ⟨s.args, by simp only [renderStep, hargs]⟩
      | some args =>
          simp only [renderStep, hargs]
          split
          · next hasked =>
              refine Or.inr ⟨.fbCopyArea args.pSrcPixmap dst args.alu args.planemask srcX srcY width
                height dstX dstY, ?_, hoff hasked⟩
              simp only [drawnWith, hargs]
              rfl
          · exact Or.inl ⟨s.args, rfl⟩
  | prepareComposite args =>
      simp only [renderStep]
      split
      · exact Or.inl ⟨_, rfl⟩
      · exact Or.inl ⟨s.args, rfl⟩
  | composite dst area a a' a'' =>
      cases hargs : s.args.composite with
      | none => exact Or.inl ⟨s.args, by simp only [renderStep, hargs]⟩
      | some args =>
          simp only [renderStep, hargs]
          split
          · next hasked =>
              refine Or.inr ⟨.fbComposite args dst area, ?_, hoff hasked⟩
              simp only [drawnWith, hargs]
              rfl
          · exact Or.inl ⟨s.args, rfl⟩

theorem settled_call (h : Inv s.exa) {op : ExaOp} (hop : ∀ front back, op ≠ .exchange front back) :
    Settled s.exa (exaStep s.exa op) := by
  cases op with
  | create c => exact settled_create c h
  | importBo pitch size a => exact settled_importBo pitch size a
  | setBo p b owned a => exact settled_setBo p b owned a
  | exchange front back => exact absurd rfl (hop front back)
  | destroy p ioctlOk => exact settled_destroy p ioctlOk
  | callerDestroys b ioctlOk => exact settled_callerDestroys b ioctlOk

theorem Inv.next (h : Inv s.exa) (op : RenderOp) : Inv (renderStep s op).exa := by
  by_cases hop : ∃ call, op = .call call
  · obtain ⟨call, rfl⟩ := hop
    by_cases hexchange : ∃ front back, call = .exchange front back
    · obtain ⟨front, back, rfl⟩ := hexchange
      exact h.exchange front back
    · exact h.settled (settled_call h fun front back hcall => hexchange ⟨front, back, hcall⟩)
  · rcases renderStep_cases (s := s) fun call hcall => hop ⟨call, hcall⟩ with
      ⟨args, heq⟩ | ⟨call, heq, hoff⟩
    · rw [heq]
      exact h
    · rw [heq]
      exact h.bracket hoff

/-- Only an exchange brings a pointer and kernel memory together. -/
theorem clear_step_iff (h : Inv s.exa) (hclear : Clear s.exa) (op : RenderOp) :
    Clear (renderStep s op).exa ↔ KeepsKind s op := by
  by_cases hexchange : ∃ front back, op = .call (.exchange front back)
  · obtain ⟨front, back, rfl⟩ := hexchange
    exact hclear.exchange_iff front back
  · have hkeeps : KeepsKind s op := by
      unfold KeepsKind
      split
      · next front back => exact absurd ⟨front, back, rfl⟩ hexchange
      · trivial
    refine iff_of_true ?_ hkeeps
    by_cases hop : ∃ call, op = .call call
    · obtain ⟨call, rfl⟩ := hop
      refine hclear.settled h (settled_call h fun front back hcall => ?_)
      exact hexchange ⟨front, back, congrArg RenderOp.call hcall⟩
    · rcases renderStep_cases (s := s) fun call hcall => hop ⟨call, hcall⟩ with
        ⟨args, heq⟩ | ⟨call, heq, hoff⟩
      · rw [heq]
        exact hclear
      · rw [heq]
        exact hclear.bracket hoff

/-- What an access finds is the pixmap's own exactly when kernel memory is mapped anew. -/
theorem aimed_iff_clear (h : Inv s.exa) : Aimed s ↔ Clear s.exa := by
  constructor
  · intro haimed p hp hdumb
    cases hptr : (s.exa.pixmaps p).ptr with
    | none => rfl
    | some d =>
        obtain ⟨block, rfl⟩ := h.parked p d hptr
        have hstale : ∀ a, msExaPrepareAccess s.exa p a = (s.exa, true) := by
          intro a
          simp [msExaPrepareAccess, hdumb, hptr]
        have hown := haimed p hp ⟨true, true⟩ (.malloced block) (by rw [hstale])
          (by rw [hstale]; exact hptr)
        exact absurd (hown.symm.trans (h.dumb p hp hdumb)) (Option.some_ne_none block)
  · intro hclear p hp a d hready hptr
    cases hdumb : lsIsDumbPixmap (s.exa.privs p).usageHint with
    | false =>
        rw [prepareAccess_malloced s.exa a hdumb] at hptr
        obtain ⟨block, hblock, rfl⟩ := Option.map_eq_some_iff.mp hptr
        exact hblock
    | true =>
        have hnone := hclear p hp hdumb
        cases hbo : (s.exa.privs p).bo with
        | none => simp [msExaPrepareAccess, hdumb, hnone, hbo] at hready
        | some b =>
            have hsome : ((dumbBoMap s.exa b a).bos b).ptr.map PixelData.mapped = some d := by
              simpa [msExaPrepareAccess, hdumb, hnone, hbo, ExaState.setPixmap] using hptr
            obtain ⟨m, hm, rfl⟩ := Option.map_eq_some_iff.mp hsome
            have hself : m.bo = b :=
              ((dumbBoMap_accessed s.exa b a).1.maps b m hm).elim (h.maps b m) id
            exact hbo.trans (congrArg some hself.symm)

/-- Every pixmap of a bracket has a pointer when fb draws. -/
theorem prepareAll_isSome (s : ExaState) (pixmaps : List (Nat × MapDumb))
    (hoff : Offscreen s pixmaps)
    (hgranted : ∀ pixmap ∈ pixmaps, lsIsDumbPixmap (s.privs pixmap.1).usageHint = true →
      ∀ b ∈ (s.privs pixmap.1).bo,
        ((s.bos b).ptr.isSome || (pixmap.2.ioctlOk && pixmap.2.mmapOk)) = true)
    {q : Nat} (hq : q ∈ pixmaps.map Prod.fst) :
    ((pixmaps.foldl prepareAccess s).pixmaps q).ptr.isSome = true := by
  induction pixmaps generalizing s with
  | nil => cases hq
  | cons pixmap pixmaps ih =>
      have hacc := prepareAccess_accessed s pixmap.1 pixmap.2
      by_cases hrest : q ∈ pixmaps.map Prod.fst
      · refine ih (prepareAccess s pixmap) (fun other hother => ?_) (fun other hother => ?_) hrest
        · have hin := hoff other (List.mem_cons_of_mem _ hother)
          refine ⟨hacc.live ▸ hin.1, ?_⟩
          rw [msExaPixmapIsOffscreen, prepareAccess, hacc.privs]
          exact hin.2
        · rw [prepareAccess, hacc.privs]
          intro hdumb b hb
          have hin := hgranted other (List.mem_cons_of_mem _ hother) hdumb b hb
          rcases Bool.or_eq_true_iff.mp hin with hmapped | hok
          · rw [hacc.mapped b hmapped, Bool.true_or]
          · rw [hok, Bool.or_true]
      · have heq : q = pixmap.1 := (List.mem_cons.mp hq).resolve_right hrest
        rw [List.foldl_cons, prepareAll_ne _ pixmaps hrest, heq]
        exact prepareAccess_isSome (hoff pixmap List.mem_cons_self).2
          (hgranted pixmap List.mem_cons_self)

theorem bracket_fault {call : FbCall} {pixmaps : List (Nat × MapDumb)}
    (hoff : Offscreen s.exa pixmaps)
    (hgranted : ∀ pixmap ∈ pixmaps, lsIsDumbPixmap (s.exa.privs pixmap.1).usageHint = true →
      ∀ b ∈ (s.exa.privs pixmap.1).bo,
        ((s.exa.bos b).ptr.isSome || (pixmap.2.ioctlOk && pixmap.2.mmapOk)) = true) :
    (bracket s call pixmaps).fault = s.fault := by
  have hdrawn : (pixmaps.any fun pixmap =>
      ((pixmaps.foldl prepareAccess s.exa).pixmaps pixmap.1).ptr.isNone) = false := by
    rw [List.any_eq_false]
    intro pixmap hpixmap
    have hsome := prepareAll_isSome s.exa pixmaps hoff hgranted (List.mem_map_of_mem hpixmap)
    rw [← Option.not_isSome, hsome]
    decide
  show (s.fault || _) = s.fault
  rw [hdrawn, Bool.or_false]

theorem fault_step (op : RenderOp) (hsafe : s.fault = false) (hgranted : Granted s op) :
    (renderStep s op).fault = false := by
  by_cases hop : ∃ call, op = .call call
  · obtain ⟨call, rfl⟩ := hop
    exact hsafe
  · rcases renderStep_cases (s := s) fun call hcall => hop ⟨call, hcall⟩ with
      ⟨args, heq⟩ | ⟨call, heq, hoff⟩
    · rw [heq]
      exact hsafe
    · rw [heq, bracket_fault hoff hgranted]
      exact hsafe

end Runs

theorem inv_start (exaDrvPtr : Bool) (nextFd : Nat) : Inv (RenderState.start exaDrvPtr nextFd).exa where
  parked := fun _ _ h => nomatch h
  fresh := fun _ _ => rfl
  lt := fun _ h => nomatch h
  maps := fun _ _ h => nomatch h
  dumb := fun _ h => nomatch h

/-- **fb never draws through `NULL` as long as the kernel maps what it is asked to map**, whatever
pixmaps are drawn with, replaced and exchanged. -/
theorem no_null_draws (exaDrvPtr : Bool) (nextFd : Nat) (ops : List RenderOp)
    (hgranted : Guarded renderStep Granted (.start exaDrvPtr nextFd) ops) :
    Always renderStep (fun s => s.fault = false) (.start exaDrvPtr nextFd) ops :=
  Guarded.always (fun _ op hsafe hop => fault_step op hsafe hop) rfl hgranted

/-- A pixmap in kernel memory is copied to one in plain memory. -/
theorem no_null_draws_copied :
    Always renderStep (fun s => s.fault = false) (.start true 3)
      [.call (.create (createCall 64 64 usageScanout true)),
        .call (.create (createCall 64 64 0 true)), .prepareCopy 0 3 255,
        .copy 2 0 0 8 8 16 16 ⟨true, true⟩ ⟨false, false⟩] :=
  no_null_draws true 3 _ (by decide)

end LoongsonVideo.Driver.ExaAccess
