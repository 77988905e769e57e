import LoongsonVideo.Driver.ExaPixmapLedger
import LoongsonVideo.Driver.Dri3Import

/-!
# Replacing the buffer of a pixmap

`ms_exa_set_pixmap_bo` of `src/fake_exa.c` and its callers `ms_exa_back_pixmap_from_fd`
and `ms_exa_pixmap_from_fds`.  The old descriptor is closed and the old buffer object
destroyed before the new one is exported.  When the export fails, the private still
names what is gone, and the pixmap's destruction releases it again.

`all_or_nothing_iff` says for which pixmaps a replacement that fails changes nothing.
-/

namespace LoongsonVideo.Driver.ExaReplace

open LoongsonVideo.Verified.Ledger
open LoongsonVideo.Driver.ExaPixmap
open LoongsonVideo.Driver.ExaPixmapLedger (boOf fdOf)
open LoongsonVideo.Driver.Dri3Import

/-- A call of `ms_exa_back_pixmap_from_fd` and the answers it meets.  The header change
is the server's own function. -/
structure BackFromFd where
  width : UInt16
  height : UInt16
  stride : UInt16
  depth : UInt8
  bpp : UInt8
  modifyPixmapHeader : PixmapRec → PixmapRec
  importBo : ImportDumb
  setBo : SetAnswer
  destroyOk : Bool

/-- `ms_exa_back_pixmap_from_fd`. -/
def msExaBackPixmapFromFd (s : ExaState) (p : Nat) (c : BackFromFd) : ExaState × Bool :=
  match dumbGetBoFromFd s c.stride.toUInt32 (c.stride.toUInt32 * c.height.toUInt32)
      c.importBo with
  | (s, none) => (s, false)
  | (s, some b) =>
      let s := s.setPixmap p (c.modifyPixmapHeader (s.pixmaps p))
      match msExaSetPixmapBo s p b true c.setBo with
      | (s, true) => (s, true)
      | (s, false) => (dumbBoDestroy s b c.destroyOk, false)

/-! ## What is released -/

section Releases

variable {s t u : ExaState} {p b : Nat}

/-- How often `x` is released between two states. -/
def released (s t : ExaState) (x : Resource) : Nat := releases t.log x - releases s.log x

/-- What a private drops. -/
def dropped (priv : ExaPixmapPriv) (destroyOk : Bool) : Multiset Resource :=
  fdOf priv.fd + if destroyOk then boOf priv else 0

theorem releases_closeFd (s : ExaState) (fd : Int) (x : Resource) :
    releases (closeFd s fd).log x = releases s.log x + (fdOf fd).count x := by
  rw [closeFd, fdOf]
  split
  · rw [Multiset.count_singleton]
    simp only [ExaState.act, releases_release, eq_comm]
  · rfl

theorem releases_dumbBoDestroy (s : ExaState) (b : Nat) (x : Resource) (ioctlOk : Bool) :
    releases (dumbBoDestroy s b ioctlOk).log x =
      releases s.log x + if ioctlOk = true ∧ x = .bo b then 1 else 0 := by
  cases ioctlOk with
  | false => simp [dumbBoDestroy, ExaState.act, ExaState.setBo]
  | true => simp [dumbBoDestroy, ExaState.act, ExaState.setBo, releases_release, eq_comm]

theorem releases_destroyOwned (s : ExaState) (priv : ExaPixmapPriv) (x : Resource)
    (ioctlOk : Bool) :
    releases (destroyOwned s priv ioctlOk).log x =
      releases s.log x + (if ioctlOk then boOf priv else 0).count x := by
  cases howned : priv.owned with
  | false => simp [destroyOwned, boOf, howned]
  | true =>
      cases hbo : priv.bo with
      | none => simp [destroyOwned, boOf, howned, hbo]
      | some b =>
          have hown : boOf priv = {.bo b} := by simp [boOf, howned, hbo]
          simp only [destroyOwned, howned, hbo, releases_dumbBoDestroy, hown]
          cases ioctlOk <;> simp [Multiset.count_singleton]

/-- The first half of `ms_exa_set_pixmap_bo`. -/
theorem releases_dropOld (s : ExaState) (p : Nat) (priv : ExaPixmapPriv) (x : Resource)
    (destroyOk : Bool) :
    releases (destroyOwned (closeFd (s.act (.touch (.priv p))) priv.fd) priv destroyOk).log x =
      releases s.log x + (dropped priv destroyOk).count x := by
  rw [releases_destroyOwned, releases_closeFd, dropped, Multiset.count_add, ← Nat.add_assoc]
  simp only [ExaState.act, releases_touch]

/-- What of a state the releases of old backings leave alone. -/
structure Kept (s t : ExaState) : Prop where
  privs : t.privs = s.privs
  pixmaps : t.pixmaps = s.pixmaps
  acquires : ∀ x, acquires t.log x = acquires s.log x

theorem Kept.trans (h : Kept s t) (h' : Kept t u) : Kept s u where
  privs := h'.privs.trans h.privs
  pixmaps := h'.pixmaps.trans h.pixmaps
  acquires := fun x => (h'.acquires x).trans (h.acquires x)

theorem kept_closeFd (s : ExaState) (fd : Int) : Kept s (closeFd s fd) := by
  rw [closeFd]
  split
  · exact ⟨rfl, rfl, fun x => acquires_release _ _ _⟩
  · exact ⟨rfl, rfl, fun x => rfl⟩

theorem kept_touch (s : ExaState) (x : Resource) : Kept s (s.act (.touch x)) :=
  ⟨rfl, rfl, fun y => acquires_touch x y s.log⟩

theorem kept_dumbBoDestroy (s : ExaState) (b : Nat) (ioctlOk : Bool) :
    Kept s (dumbBoDestroy s b ioctlOk) := by
  have htouched := kept_touch s (.bo b)
  rw [dumbBoDestroy]
  cases ioctlOk with
  | false => exact htouched.trans ⟨rfl, rfl, fun x => rfl⟩
  | true => exact htouched.trans ⟨rfl, rfl, fun x => acquires_release _ _ _⟩

theorem kept_destroyOwned (s : ExaState) (priv : ExaPixmapPriv) (ioctlOk : Bool) :
    Kept s (destroyOwned s priv ioctlOk) := by
  rw [destroyOwned]
  split
  · exact kept_dumbBoDestroy s _ ioctlOk
  · exact ⟨rfl, rfl, fun x => rfl⟩

/-- **A replacement that fails** has released what it drops first, and changed nothing
else. -/
theorem setPixmapBo_failed {owned : Bool} {a : SetAnswer}
    (h : (msExaSetPixmapBo s p b owned a).2 = false) :
    Kept s (msExaSetPixmapBo s p b owned a).1 ∧ (s.exaDrvPtr = true → a.primeOk = false) ∧
      ∀ x, releases (msExaSetPixmapBo s p b owned a).1.log x = releases s.log x +
        (if s.exaDrvPtr then dropped (s.privs p) a.destroyOk else 0).count x := by
  cases hdrv : s.exaDrvPtr with
  | false =>
      simp only [msExaSetPixmapBo, hdrv]
      exact ⟨⟨rfl, rfl, fun x => rfl⟩, fun hno => Bool.noConfusion hno, fun x => rfl⟩
  | true =>
      cases hprime : a.primeOk with
      | true => simp [msExaSetPixmapBo, hdrv, drmPrimeHandleToFD, hprime] at h
      | false =>
          simp only [msExaSetPixmapBo, hdrv, drmPrimeHandleToFD, hprime, Bool.not_true,
            Bool.false_eq_true, if_false, if_true]
          have htouched := kept_touch s (.priv p)
          have hclosed := htouched.trans (kept_closeFd _ (s.privs p).fd)
          have hdropped := hclosed.trans (kept_destroyOwned _ (s.privs p) a.destroyOk)
          refine ⟨hdropped.trans (kept_touch _ (.bo b)), fun _ => trivial, fun x => ?_⟩
          show releases (.touch (.bo b) :: _) x = _
          rw [releases_touch, releases_dropOld]

/-- What `LS_DestroyDumbPixmap` releases besides the private. -/
theorem releases_destroyPixmap (s : ExaState) (p : Nat) (ioctlOk : Bool)
    (hdumb : lsIsDumbPixmap (s.privs p).usageHint = true) (x : Resource) (hx : x ≠ .priv p) :
    releases (msExaDestroyPixmap s p ioctlOk).log x =
      releases s.log x + (dropped (s.privs p) ioctlOk).count x := by
  have hdumb' : lsIsDumbPixmap ((({ s with live := s.live.erase p } : ExaState).act
      (.touch (.priv p))).privs p).usageHint = true := hdumb
  rw [msExaDestroyPixmap]
  simp only [hdumb', if_true, lsDestroyDumbPixmap]
  show releases (.release (.priv p) :: _) x = _
  rw [releases_release, if_neg (Ne.symm hx), Nat.add_zero]
  exact releases_dropOld { s with live := s.live.erase p } p (s.privs p) x ioctlOk

end Releases

/-! ## The pixmap afterwards -/

section Replacement

variable {s : ExaState} {p : Nat} {a : SetAnswer}

/-- **The pixmap is as before**: its private, its data pointer and its pitch, and its
buffer object and descriptor are still open. -/
structure Unchanged (s t : ExaState) (p : Nat) : Prop where
  priv : t.privs p = s.privs p
  ptr : (t.pixmaps p).ptr = (s.pixmaps p).ptr
  devKind : (t.pixmaps p).devKind = (s.pixmaps p).devKind
  fdOpen : ∀ x ∈ fdOf (s.privs p).fd, released s t x = 0
  boOpen : ∀ b, (s.privs p).bo = some b → released s t (.bo b) = 0

/-- **The condition**: the new buffer is exported, or there is no EXA driver, or the
pixmap has no descriptor and no buffer object of its own that the kernel destroys. -/
def KeepsOld (s : ExaState) (p : Nat) (a : SetAnswer) : Prop :=
  s.exaDrvPtr = false ∨ a.primeOk = true ∨
    ((s.privs p).fd ≤ 0 ∧
      ((s.privs p).owned = false ∨ (s.privs p).bo = none ∨ a.destroyOk = false))

instance (s : ExaState) (p : Nat) (a : SetAnswer) : Decidable (KeepsOld s p a) :=
  inferInstanceAs (Decidable (_ ∨ _ ∨ _ ∧ (_ ∨ _ ∨ _)))

/-- The acts of a call and a later destruction release `x` once. -/
def ReleasedOnce (s t u v : ExaState) (x : Resource) : Prop := released s t x + released u v x = 1

/-- The old backing, or a new one of the call. -/
def Backing (s t : ExaState) (p : Nat) (x : Resource) : Prop :=
  x ∈ fdOf (s.privs p).fd + boOf (s.privs p) ∨ acquires t.log x = acquires s.log x + 1

/-- **All or nothing.**  A pixmap whose buffer could not be replaced is as before; and
when it is destroyed later, its old backing and the new one of
`ms_exa_back_pixmap_from_fd` have been released once each.  `ms_exa_pixmap_from_fds`
has released all it acquired. -/
structure AllOrNothing (s : ExaState) (p : Nat) (a : SetAnswer) : Prop where
  unchanged : ∀ b owned, (msExaSetPixmapBo s p b owned a).2 = false →
    Unchanged s (msExaSetPixmapBo s p b owned a).1 p
  backOnce : ∀ c : BackFromFd, c.setBo = a → c.destroyOk = true →
    lsIsDumbPixmap (s.privs p).usageHint = true → (∀ b, (s.privs p).bo = some b → b < s.next) →
    (msExaBackPixmapFromFd s p c).2 = false →
    ∀ u : ExaState, u.privs p = (msExaBackPixmapFromFd s p c).1.privs p →
      ∀ x, Backing s (msExaBackPixmapFromFd s p c).1 p x →
        ReleasedOnce s (msExaBackPixmapFromFd s p c).1 u (msExaDestroyPixmap u p true) x
  fdsOnce : ∀ c : FromFds, c.setBo = a → c.destroyOk = true → (msExaPixmapFromFds s c).2 = none →
    ∀ x, (∀ q, x ≠ .priv q) →
      releases (msExaPixmapFromFds s c).1.log x + acquires s.log x =
        releases s.log x + acquires (msExaPixmapFromFds s c).1.log x

theorem fdOf_nonpos {fd : Int} (h : fd ≤ 0) : fdOf fd = 0 := by
  rw [fdOf, if_neg (by omega)]

theorem boOf_eq_zero {priv : ExaPixmapPriv} (h : priv.owned = false ∨ priv.bo = none) :
    boOf priv = 0 := by
  rw [boOf]
  cases howned : priv.owned <;> cases hbo : priv.bo <;> simp_all

theorem boOf_some {priv : ExaPixmapPriv} {b : Nat} (howned : priv.owned = true)
    (hbo : priv.bo = some b) : boOf priv = {.bo b} := by
  simp [boOf, howned, hbo]

/-- What drops nothing is kept. -/
theorem dropped_eq_zero_iff (priv : ExaPixmapPriv) (destroyOk : Bool) :
    dropped priv destroyOk = 0 ↔
      priv.fd ≤ 0 ∧ (priv.owned = false ∨ priv.bo = none ∨ destroyOk = false) := by
  constructor
  · intro hzero
    rw [dropped] at hzero
    have hfd := Multiset.le_zero.mp ((Multiset.le_add_right _ _).trans_eq hzero)
    have hbo := Multiset.le_zero.mp ((Multiset.le_add_left _ _).trans_eq hzero)
    refine ⟨?_, ?_⟩
    · by_contra hpos
      rw [fdOf, if_pos (by omega)] at hfd
      exact Multiset.singleton_ne_zero _ hfd
    · cases howned : priv.owned with
      | false => exact Or.inl rfl
      | true =>
          cases hb : priv.bo with
          | none => exact Or.inr (Or.inl rfl)
          | some b =>
              cases destroyOk with
              | false => exact Or.inr (Or.inr rfl)
              | true =>
                  rw [if_pos rfl, boOf_some howned hb] at hbo
                  exact absurd hbo (Multiset.singleton_ne_zero _)
  · rintro ⟨hfd, hbo⟩
    rw [dropped, fdOf_nonpos hfd, Multiset.zero_add]
    split
    · next hok =>
        refine boOf_eq_zero ?_
        cases hbo with
        | inl hnot => exact Or.inl hnot
        | inr hor =>
            cases hor with
            | inl hnone => exact Or.inr hnone
            | inr hrefused => exact absurd (hok.symm.trans hrefused) (by decide)
    · rfl

/-- A descriptor and a buffer object are dropped once. -/
theorem count_backing_eq_one {priv : ExaPixmapPriv} {x : Resource} (hx : x ∈ fdOf priv.fd + boOf priv) :
    (dropped priv true).count x = 1 := by
  rw [dropped, if_pos rfl]
  have hfd : ∀ y ∈ fdOf priv.fd, (fdOf priv.fd).count y = 1 ∧ ∃ n, y = .fd n := by
    intro y hy
    rw [fdOf] at hy ⊢
    split at hy
    · next hpos =>
        rw [if_pos hpos, Multiset.mem_singleton.mp hy]
        exact ⟨Multiset.count_singleton_self _, _, rfl⟩
    · exact absurd hy (Multiset.notMem_zero y)
  have hbo : ∀ y ∈ boOf priv, (boOf priv).count y = 1 ∧ ∃ b, y = .bo b := by
    intro y hy
    rw [boOf] at hy ⊢
    split at hy
    · rw [Multiset.mem_singleton.mp hy]
      exact ⟨Multiset.count_singleton_self _, _, rfl⟩
    · exact absurd hy (Multiset.notMem_zero y)
  rw [Multiset.count_add]
  by_cases hin : x ∈ fdOf priv.fd
  · obtain ⟨hone, n, rfl⟩ := hfd x hin
    have hnot : Resource.fd n ∉ boOf priv := fun hb => by
      obtain ⟨-, b, hb⟩ := hbo _ hb
      cases hb
    rw [hone, Multiset.count_eq_zero_of_notMem hnot]
  · have hin' := (Multiset.mem_add.mp hx).resolve_left hin
    rw [Multiset.count_eq_zero_of_notMem hin, (hbo x hin').1]

theorem keepsOld_iff :
    KeepsOld s p a ↔ s.exaDrvPtr = false ∨ a.primeOk = true ∨
      dropped (s.privs p) a.destroyOk = 0 := by
  rw [KeepsOld, dropped_eq_zero_iff]

/-- What a failed replacement drops is nothing, when it keeps the old backing. -/
theorem KeepsOld.drops {b : Nat} {owned : Bool} (h : KeepsOld s p a)
    (hfailed : (msExaSetPixmapBo s p b owned a).2 = false) (x : Resource) :
    releases (msExaSetPixmapBo s p b owned a).1.log x = releases s.log x := by
  obtain ⟨-, hprime, hrel⟩ := setPixmapBo_failed hfailed
  have hnothing : (if s.exaDrvPtr then dropped (s.privs p) a.destroyOk else 0) = 0 := by
    split
    · next hdrv =>
        rcases keepsOld_iff.mp h with hno | hok | hzero
        · exact absurd (hdrv.symm.trans hno) (by decide)
        · exact absurd ((hprime hdrv).symm.trans hok) (by decide)
        · exact hzero
    · rfl
  rw [hrel, hnothing]
  rfl

/-- **A failed `ms_exa_set_pixmap_bo`** leaves the pixmap as before exactly when it keeps
the old backing. -/
theorem unchanged_iff :
    (∀ b owned, (msExaSetPixmapBo s p b owned a).2 = false →
        Unchanged s (msExaSetPixmapBo s p b owned a).1 p) ↔ KeepsOld s p a := by
  constructor
  · intro hall
    by_contra hnot
    rw [KeepsOld, not_or, not_or, Bool.not_eq_false, Bool.not_eq_true] at hnot
    obtain ⟨hdrv, hprime, hdrops⟩ := hnot
    have hfailed : (msExaSetPixmapBo s p 0 true a).2 = false := by
      simp [msExaSetPixmapBo, hdrv, drmPrimeHandleToFD, hprime]
    have hsame := hall 0 true hfailed
    have hrel := (setPixmapBo_failed hfailed).2.2
    have hopen : ∀ x, released s (msExaSetPixmapBo s p 0 true a).1 x = 0 →
        (dropped (s.privs p) a.destroyOk).count x = 0 := by
      intro x hzero
      rw [released, hrel, hdrv, if_pos rfl, Nat.add_sub_cancel_left] at hzero
      exact hzero
    refine hdrops ((dropped_eq_zero_iff _ _).mp (Multiset.eq_zero_of_forall_notMem ?_))
    intro x hx
    refine Multiset.count_ne_zero.mpr hx (hopen x ?_)
    cases Multiset.mem_add.mp hx with
    | inl hfd => exact hsame.fdOpen x hfd
    | inr hbo =>
        split at hbo
        · rw [boOf] at hbo
          split at hbo
          · next b _ hb =>
              rw [Multiset.mem_singleton.mp hbo]
              exact hsame.boOpen b hb
          · exact absurd hbo (Multiset.notMem_zero x)
        · exact absurd hbo (Multiset.notMem_zero x)
  · intro hkeeps b owned hfailed
    obtain ⟨hkept, -, -⟩ := setPixmapBo_failed hfailed
    have hnone : ∀ x, released s (msExaSetPixmapBo s p b owned a).1 x = 0 := by
      intro x
      rw [released, hkeeps.drops hfailed, Nat.sub_self]
    exact ⟨congrFun hkept.privs p, by rw [hkept.pixmaps], by rw [hkept.pixmaps],
      fun x _ => hnone x, fun b _ => hnone (.bo b)⟩

/-! ## The callers -/

/-- `dumb_get_bo_from_fd` makes one buffer object. -/
theorem dumbGetBoFromFd_made {s t : ExaState} {pitch size : UInt32} {i : ImportDumb} {b : Nat}
    (h : dumbGetBoFromFd s pitch size i = (t, some b)) :
    b = s.next ∧ t.privs = s.privs ∧ t.exaDrvPtr = s.exaDrvPtr ∧
      (∀ x, releases t.log x = releases s.log x) ∧
      ∀ x, acquires t.log x = acquires s.log x + if .bo b = x then 1 else 0 := by
  cases hcalloc : i.callocOk <;> cases hprime : i.primeFDToHandleOk <;>
    simp [dumbGetBoFromFd, hcalloc, hprime] at h
  obtain ⟨rfl, rfl⟩ := h
  exact ⟨rfl, rfl, rfl, fun x => releases_acquire _ _ _, fun x => acquires_acquire _ _ _⟩

theorem dumbGetBoFromFd_none {s t : ExaState} {pitch size : UInt32} {i : ImportDumb}
    (h : dumbGetBoFromFd s pitch size i = (t, none)) : t = s := by
  cases hcalloc : i.callocOk <;> cases hprime : i.primeFDToHandleOk <;>
    simp [dumbGetBoFromFd, hcalloc, hprime] at h
  all_goals exact h.symm

/-- A failed `ms_exa_back_pixmap_from_fd` releases the new buffer object, if there is
one, and nothing else. -/
theorem backPixmapFromFd_failed {c : BackFromFd} (hset : c.setBo = a)
    (hdestroy : c.destroyOk = true) (hkeeps : KeepsOld s p a)
    (hfailed : (msExaBackPixmapFromFd s p c).2 = false) :
    (msExaBackPixmapFromFd s p c).1.privs = s.privs ∧
      ∃ made : Option Nat, (∀ b ∈ made, b = s.next) ∧
        (∀ x, releases (msExaBackPixmapFromFd s p c).1.log x =
          releases s.log x + if ∃ b ∈ made, x = .bo b then 1 else 0) ∧
        ∀ x, acquires (msExaBackPixmapFromFd s p c).1.log x =
          acquires s.log x + if ∃ b ∈ made, x = .bo b then 1 else 0 := by
  revert hfailed
  unfold msExaBackPixmapFromFd
  split
  · next t himport =>
      rw [dumbGetBoFromFd_none himport]
      exact fun _ => ⟨rfl, none, by simp, by simp, by simp⟩
  · next t b himport =>
      obtain ⟨hnext, hprivs, hdrv, hrel, hacq⟩ := dumbGetBoFromFd_made himport
      -- The header change leaves the private and the log alone.
      have hkeeps' : KeepsOld (t.setPixmap p (c.modifyPixmapHeader (t.pixmaps p))) p a := by
        rw [KeepsOld] at hkeeps ⊢
        show t.exaDrvPtr = false ∨ _ ∨ (t.privs p).fd ≤ 0 ∧ ((t.privs p).owned = false ∨
          (t.privs p).bo = none ∨ _)
        rw [hdrv, hprivs]
        exact hkeeps
      simp only
      split
      · exact fun hno => Bool.noConfusion hno
      · next u hreplace =>
          intro _
          have hfst : u = (msExaSetPixmapBo _ p b true c.setBo).1 := (congrArg Prod.fst hreplace).symm
          have hfailed := congrArg Prod.snd hreplace
          rw [hset] at hfst hfailed
          obtain ⟨hkept, -, -⟩ := setPixmapBo_failed hfailed
          have hdrops := hkeeps'.drops hfailed
          rw [← hfst] at hkept hdrops
          have hfreed := kept_dumbBoDestroy u b c.destroyOk
          have hmem : ∀ x, (∃ b' ∈ some b, x = Resource.bo b') ↔ x = .bo b := by simp
          refine ⟨(hfreed.privs.trans hkept.privs).trans hprivs, some b, by simp [hnext],
            fun x => ?_, fun x => ?_⟩
          · rw [releases_dumbBoDestroy, hdrops]
            show releases t.log x + _ = _
            rw [hrel, hdestroy]
            simp only [true_and, hmem]
          · rw [hfreed.acquires, hkept.acquires]
            show acquires t.log x = _
            rw [hacq]
            simp only [hmem, eq_comm]

/-- The old and the new backing are released once, by the call and a later destruction
together. -/
theorem backPixmapFromFd_once {c : BackFromFd} (hset : c.setBo = a)
    (hdestroy : c.destroyOk = true) (hkeeps : KeepsOld s p a)
    (hdumb : lsIsDumbPixmap (s.privs p).usageHint = true)
    (hknown : ∀ b, (s.privs p).bo = some b → b < s.next)
    (hfailed : (msExaBackPixmapFromFd s p c).2 = false) {u : ExaState}
    (hu : u.privs p = (msExaBackPixmapFromFd s p c).1.privs p) {x : Resource}
    (hx : Backing s (msExaBackPixmapFromFd s p c).1 p x) :
    ReleasedOnce s (msExaBackPixmapFromFd s p c).1 u (msExaDestroyPixmap u p true) x := by
  obtain ⟨hprivs, made, hnext, hrel, hacq⟩ :=
    backPixmapFromFd_failed hset hdestroy hkeeps hfailed
  rw [hprivs] at hu
  have hold : ∀ y ∈ fdOf (s.privs p).fd + boOf (s.privs p), y ≠ .priv p ∧ y ≠ .bo s.next := by
    intro y hy
    cases Multiset.mem_add.mp hy with
    | inl hfd =>
        rw [fdOf] at hfd
        split at hfd
        · rw [Multiset.mem_singleton.mp hfd]
          exact ⟨(fun h => by cases h), fun h => by cases h⟩
        · exact absurd hfd (Multiset.notMem_zero y)
    | inr hbo =>
        rw [boOf] at hbo
        split at hbo
        · next b _ hb =>
            rw [Multiset.mem_singleton.mp hbo]
            refine ⟨(fun h => by cases h), fun h => ?_⟩
            have hlt := hknown b hb
            cases h
            omega
        · exact absurd hbo (Multiset.notMem_zero y)
  have hcall : released s (msExaBackPixmapFromFd s p c).1 x =
      if ∃ b ∈ made, x = .bo b then 1 else 0 := by
    rw [released, hrel, Nat.add_sub_cancel_left]
  have hlater : x ≠ .priv p → released u (msExaDestroyPixmap u p true) x =
      (dropped (s.privs p) true).count x := by
    intro hne
    rw [released, releases_destroyPixmap u p true (hu ▸ hdumb) x hne, Nat.add_sub_cancel_left, hu]
  rw [ReleasedOnce, hcall]
  cases hx with
  | inl hin =>
      obtain ⟨hpriv, hnew⟩ := hold x hin
      rw [hlater hpriv, count_backing_eq_one hin, if_neg]
      rintro ⟨b, hb, rfl⟩
      exact hnew (by rw [hnext b hb])
  | inr hnew =>
      have hmade : ∃ b ∈ made, x = .bo b := by
        by_contra hnot
        rw [hacq, if_neg hnot] at hnew
        omega
      obtain ⟨b, hb, rfl⟩ := hmade
      have hnotin : Resource.bo b ∉ fdOf (s.privs p).fd + boOf (s.privs p) := fun hin =>
        (hold _ hin).2 (by rw [hnext b hb])
      rw [hlater (fun h => by cases h), dropped, if_pos rfl,
        Multiset.count_eq_zero_of_notMem hnotin, if_pos ⟨b, hb, rfl⟩]

/-- `x` is released as often as it is acquired. -/
def Balanced (s t : ExaState) (x : Resource) : Prop :=
  releases t.log x + acquires s.log x = releases s.log x + acquires t.log x

/-- The empty pixmap of an import is only a private. -/
theorem createEmptyPixmap_balanced {s t : ExaState} {c : FromFds} {made : Option Nat}
    (h : createEmptyPixmap s c = (t, made)) (x : Resource) (hx : ∀ q, x ≠ .priv q) :
    releases t.log x = releases s.log x ∧ acquires t.log x = acquires s.log x := by
  have hnew : ∀ q, ¬ Resource.priv q = x := fun q heq => hx q heq.symm
  cases hcreate : c.createPixmapOk <;> cases hcalloc : c.callocOk <;>
    simp [createEmptyPixmap, hcreate, hcalloc, msExaCreatePixmap2, lsCreateDumbPixmap,
      lsIsDumbPixmap, newPriv, ExaState.allocate, ExaState.setPriv, ExaState.act] at h
  case true.true =>
    obtain ⟨rfl, -⟩ := h
    exact ⟨releases_acquire _ _ _, (acquires_acquire _ _ _).trans (by rw [if_neg (hnew _)]; rfl)⟩
  all_goals
    obtain ⟨rfl, -⟩ := h
    exact ⟨rfl, rfl⟩

/-- The destruction of an empty pixmap is only that of its private. -/
theorem destroyEmptyPixmap_balanced {s : ExaState} {p : Nat}
    (hnew : s.privs p = ExaPixmapPriv.new usageBackingPixmap) (ioctlOk : Bool) (x : Resource)
    (hx : ∀ q, x ≠ .priv q) :
    releases (msExaDestroyPixmap s p ioctlOk).log x = releases s.log x ∧
      acquires (msExaDestroyPixmap s p ioctlOk).log x = acquires s.log x := by
  have hdumb : lsIsDumbPixmap (s.privs p).usageHint = true := by
    rw [hnew]
    decide
  have hnothing : dropped (s.privs p) ioctlOk = 0 := by
    rw [hnew]
    exact (dropped_eq_zero_iff _ _).mpr ⟨Int.le_refl 0, Or.inl rfl⟩
  refine ⟨?_, ?_⟩
  · rw [releases_destroyPixmap s p ioctlOk hdumb x (hx p), hnothing]
    rfl
  · have hdumb' : lsIsDumbPixmap ((({ s with live := s.live.erase p } : ExaState).act
        (.touch (.priv p))).privs p).usageHint = true := hdumb
    rw [msExaDestroyPixmap]
    simp only [hdumb', if_true, lsDestroyDumbPixmap]
    have htouched := kept_touch { s with live := s.live.erase p } (.priv p)
    have hclosed := htouched.trans (kept_closeFd _ (s.privs p).fd)
    have hdropped := hclosed.trans (kept_destroyOwned _ (s.privs p) ioctlOk)
    exact (acquires_release _ _ _).trans (hdropped.acquires x)

/-- **A failed `ms_exa_pixmap_from_fds`** has released all it acquired. -/
theorem pixmapFromFds_balanced {s : ExaState} {c : FromFds} (hdestroy : c.destroyOk = true)
    (hfailed : (msExaPixmapFromFds s c).2 = none) (x : Resource) (hx : ∀ q, x ≠ .priv q) :
    Balanced s (msExaPixmapFromFds s c).1 x := by
  revert hfailed
  unfold msExaPixmapFromFds
  split
  · exact fun _ => rfl
  · split
    · next t hcreate =>
        obtain ⟨hrel, hacq⟩ := createEmptyPixmap_balanced hcreate x hx
        intro _
        rw [Balanced, hrel, hacq]
    · next t p hcreate =>
        obtain ⟨hrel, hacq⟩ := createEmptyPixmap_balanced hcreate x hx
        obtain ⟨-, hnew⟩ := createEmptyPixmap_some hcreate
        split
        · obtain ⟨hrel', hacq'⟩ := destroyEmptyPixmap_balanced hnew c.destroyOk x hx
          intro _
          rw [Balanced, hrel', hacq', hrel, hacq]
        · next pixmap _ =>
            have hnew' : (t.setPixmap p pixmap).privs p = ExaPixmapPriv.new usageBackingPixmap :=
              hnew
            simp only
            split
            · next u himport =>
                rw [dumbGetBoFromFd_none himport]
                obtain ⟨hrel', hacq'⟩ := destroyEmptyPixmap_balanced hnew' c.destroyOk x hx
                intro _
                rw [Balanced, hrel', hacq']
                show releases t.log x + _ = _ + acquires t.log x
                rw [hrel, hacq]
            · next u b himport =>
                obtain ⟨-, hprivs, -, hrel', hacq'⟩ := dumbGetBoFromFd_made himport
                have hmade : u.privs p = ExaPixmapPriv.new usageBackingPixmap :=
                  (congrFun hprivs p).trans hnew'
                split
                · next v hreplace =>
                    intro _
                    have hfst := congrArg Prod.fst hreplace
                    have hkeeps : KeepsOld u p c.setBo := by
                      rw [KeepsOld, hmade]
                      exact Or.inr (Or.inr ⟨Int.le_refl 0, Or.inl rfl⟩)
                    obtain ⟨hkept, -, -⟩ := setPixmapBo_failed (congrArg Prod.snd hreplace)
                    have hdrops := hkeeps.drops (congrArg Prod.snd hreplace) x
                    rw [hfst] at hkept hdrops
                    obtain ⟨hrel'', hacq''⟩ := destroyEmptyPixmap_balanced
                      ((congrFun hkept.privs p).trans hmade) c.destroyOk x hx
                    have hfreed := kept_dumbBoDestroy (msExaDestroyPixmap v p c.destroyOk) b
                      c.destroyOk
                    have hrelMade : releases u.log x = releases s.log x := (hrel' x).trans hrel
                    have hacqMade : acquires u.log x =
                        acquires s.log x + if .bo b = x then 1 else 0 := by
                      rw [hacq']
                      show acquires t.log x + _ = _
                      rw [hacq]
                    rw [Balanced, releases_dumbBoDestroy, hfreed.acquires, hrel'', hacq'', hdrops,
                      hkept.acquires, hrelMade, hacqMade, hdestroy]
                    simp only [true_and, eq_comm]
                    omega
                · exact fun hno => by cases hno

/-- **Replacing a pixmap's buffer** is all or nothing exactly when a failed export finds
no old backing to drop. -/
theorem all_or_nothing_iff (s : ExaState) (p : Nat) (a : SetAnswer) :
    AllOrNothing s p a ↔ KeepsOld s p a := by
  constructor
  · exact fun h => unchanged_iff.mp h.unchanged
  · intro hkeeps
    exact ⟨unchanged_iff.mpr hkeeps,
      fun c hset hdestroy hdumb hknown hfailed u hu x hx =>
        backPixmapFromFd_once hset hdestroy hkeeps hdumb hknown hfailed hu hx,
      fun c _ hdestroy hfailed x hx => pixmapFromFds_balanced hdestroy hfailed x hx⟩

end Replacement

/-- A shared pixmap with buffer object 1 and descriptor 5. -/
def sharedPixmap : ExaState where
  exaDrvPtr := true
  privs := fun _ => ⟨some 1, 5, 256, true, LoongsonBuf.zero, usageShared⟩
  bos := fun _ => ⟨16384, none, 256⟩
  pixmaps := fun _ => ⟨64, 64, 24, 32, 256, none⟩
  live := [0]
  callerBos := []
  next := 2
  nextFd := 6
  log := [.acquire (.fd 5), .acquire (.bo 1), .acquire (.priv 0)]

/-- A new backing that the kernel imports and does not export. -/
def refusedBacking : BackFromFd :=
  ⟨64, 64, 256, 24, 32, id, ⟨true, true⟩, ⟨true, false⟩, true⟩

/-- **A refused export leaves the old backing dangling**: `ms_exa_set_pixmap_bo` has
closed descriptor 5 and destroyed buffer object 1, and the pixmap's destruction does it
again. -/
theorem refused_export_releases_twice :
    let t := (msExaBackPixmapFromFd sharedPixmap 0 refusedBacking).1
    (msExaBackPixmapFromFd sharedPixmap 0 refusedBacking).2 = false ∧
      (t.privs 0).bo = some 1 ∧ (t.privs 0).fd = 5 ∧ releases t.log (.bo 1) = 1 ∧
      releases t.log (.fd 5) = 1 ∧ releases (msExaDestroyPixmap t 0 true).log (.bo 1) = 2 ∧
      releases (msExaDestroyPixmap t 0 true).log (.fd 5) = 2 ∧
      ¬ AllOrNothing sharedPixmap 0 refusedBacking.setBo := by
  refine ⟨by decide, by decide, by decide, by decide, by decide, by decide, by decide, ?_⟩
  intro hall
  exact absurd ((hall.unchanged 2 true (by decide)).boOpen 1 rfl) (by decide)

end LoongsonVideo.Driver.ExaReplace
