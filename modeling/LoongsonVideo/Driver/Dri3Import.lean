import LoongsonVideo.Driver.ExaPixmap
import Mathlib.Tactic.Linarith
import Mathlib.Tactic.Ring

/-!
# DRI3 import and the size of the mapping

`ms_exa_pixmap_from_fds` in `src/dri3.c` turns a client's dmabuf into a pixmap.
Width, height, stride, depth and bits per pixel are the client's, and none is checked
against another: the stride becomes the pixmap's `devKind` and the 32-bit product
`strides[0] * height` the size of the mapping that software rendering is given.

`dri3_import_inside_iff` says for which numbers rendering stays in the mapping.  Each
part of the condition has a client that breaks it: a stride shorter than a row, a stride
that is negative as an `int`, and a product that wraps.
-/

namespace LoongsonVideo.Driver.Dri3Import

open LoongsonVideo.Driver.ExaPixmap

/-- A call of `ms_exa_pixmap_from_fds` and the answers it meets.  The header change is
the server's own function; `none` stands for its `FALSE`. -/
structure FromFds where
  numFds : UInt8
  width : UInt16
  height : UInt16
  stride : UInt32
  offset : UInt32
  depth : UInt8
  bpp : UInt8
  createPixmapOk : Bool
  callocOk : Bool
  modifyPixmapHeader : PixmapRec → Option PixmapRec
  importBo : ImportDumb
  setBo : SetAnswer
  destroyOk : Bool

/-- `CreatePixmap(pScreen, 0, 0, depth, CREATE_PIXMAP_USAGE_BACKING_PIXMAP)`, which asks
this driver for the pixmap's private. -/
def createEmptyPixmap (s : ExaState) (c : FromFds) : ExaState × Option Nat :=
  if !c.createPixmapOk then (s, none)
  else
    msExaCreatePixmap2 s
      ⟨0, 0, c.depth.toNat, 0, usageBackingPixmap, c.callocOk, false, ⟨false, none⟩, false⟩

/-- `ms_exa_pixmap_from_fds`. -/
def msExaPixmapFromFds (s : ExaState) (c : FromFds) : ExaState × Option Nat :=
  if c.numFds ≠ 1 ∨ c.offset ≠ 0 then (s, none)
  else
    match createEmptyPixmap s c with
    | (s, none) => (s, none)
    | (s, some p) =>
        match c.modifyPixmapHeader (s.pixmaps p) with
        | none => (msExaDestroyPixmap s p c.destroyOk, none)
        | some pixmap =>
            let s := s.setPixmap p pixmap
            match dumbGetBoFromFd s c.stride (c.stride * c.height.toUInt32) c.importBo with
            | (s, none) => (msExaDestroyPixmap s p c.destroyOk, none)
            | (s, some b) =>
                match msExaSetPixmapBo s p b true c.setBo with
                | (s, false) =>
                    (dumbBoDestroy (msExaDestroyPixmap s p c.destroyOk) b c.destroyOk, none)
                | (s, true) => (s, some p)

/-- The bytes of one row of pixels. -/
def rowBytes (width : UInt16) (bpp : UInt8) : Nat := (width.toNat * bpp.toNat + 7) / 8

/-- **The property**: every row holds its pixels, and the last row ends inside the
buffer object's size. -/
def InsideMapping (s : ExaState) (p : Nat) (c : FromFds) : Prop :=
  ∃ b, (s.privs p).bo = some b ∧
    (rowBytes c.width c.bpp : Int) ≤ (s.pixmaps p).devKind ∧
    ((c.height.toNat : Int) - 1) * (s.pixmaps p).devKind + rowBytes c.width c.bpp ≤
      (s.bos b).size.toNat

/-- **The condition** on the client's numbers. -/
def FitsStride (c : FromFds) : Prop :=
  rowBytes c.width c.bpp ≤ c.stride.toNat ∧ c.stride.toNat < 2 ^ 31 ∧
    c.stride.toNat * c.height.toNat < 2 ^ 32

instance (c : FromFds) : Decidable (FitsStride c) :=
  inferInstanceAs (Decidable (_ ∧ _ ∧ _))

/-- What an import that succeeds leaves behind. -/
structure Imported (s : ExaState) (p : Nat) (c : FromFds) (b : Nat) : Prop where
  bo : (s.privs p).bo = some b
  hint : (s.privs p).usageHint = usageBackingPixmap
  devKind : (s.pixmaps p).devKind = c.stride.toInt32.toInt
  ptr : (s.pixmaps p).ptr = none
  object : s.bos b = ⟨c.stride * c.height.toUInt32, none, c.stride⟩

theorem createEmptyPixmap_some {s t : ExaState} {c : FromFds} {p : Nat}
    (h : createEmptyPixmap s c = (t, some p)) :
    p = s.next ∧ t.privs p = ExaPixmapPriv.new usageBackingPixmap := by
  cases hcreate : c.createPixmapOk with
  | false => simp [createEmptyPixmap, hcreate] at h
  | true =>
      cases hcalloc : c.callocOk with
      | false =>
          simp [createEmptyPixmap, hcreate, hcalloc, msExaCreatePixmap2, lsCreateDumbPixmap,
            lsIsDumbPixmap] at h
      | true =>
          simp [createEmptyPixmap, hcreate, hcalloc, msExaCreatePixmap2, lsCreateDumbPixmap,
            lsIsDumbPixmap] at h
          obtain ⟨rfl, rfl⟩ := h
          exact ⟨rfl, Function.update_self _ _ _⟩

/-- **`ms_exa_set_pixmap_bo`** on an empty pixmap: nothing old is dropped. -/
theorem msExaSetPixmapBo_empty {s t : ExaState} {p b : Nat} {a : SetAnswer}
    {hint : UInt32} (hempty : s.privs p = ExaPixmapPriv.new hint)
    (h : msExaSetPixmapBo s p b true a = (t, true)) :
    (t.privs p).bo = some b ∧ (t.privs p).usageHint = hint ∧
      (t.pixmaps p).devKind = (s.bos b).pitch.toInt32.toInt ∧ (t.pixmaps p).ptr = none ∧
      t.bos = s.bos := by
  cases hdrv : s.exaDrvPtr with
  | false => simp [msExaSetPixmapBo, hdrv] at h
  | true =>
      cases hprime : a.primeOk with
      | false =>
          simp [msExaSetPixmapBo, hdrv, hempty, ExaPixmapPriv.new, closeFd, destroyOwned,
            drmPrimeHandleToFD, hprime] at h
      | true =>
          simp [msExaSetPixmapBo, hdrv, hempty, ExaPixmapPriv.new, closeFd, destroyOwned,
            drmPrimeHandleToFD, hprime] at h
          subst h
          simp [ExaState.setPixmap, ExaState.setPriv, ExaState.act, hempty, ExaPixmapPriv.new]

theorem dumbGetBoFromFd_some {s t : ExaState} {pitch size : UInt32} {a : ImportDumb} {b : Nat}
    (h : dumbGetBoFromFd s pitch size a = (t, some b)) :
    t.bos b = ⟨size, none, pitch⟩ ∧ t.privs = s.privs := by
  cases hcalloc : a.callocOk <;> cases hprime : a.primeFDToHandleOk <;>
    simp [dumbGetBoFromFd, hcalloc, hprime] at h
  obtain ⟨rfl, rfl⟩ := h
  exact ⟨Function.update_self _ _ _, rfl⟩

theorem msExaPixmapFromFds_some {s t : ExaState} {c : FromFds} {p : Nat}
    (h : msExaPixmapFromFds s c = (t, some p)) : ∃ b, Imported t p c b := by
  simp only [msExaPixmapFromFds] at h
  split at h
  · cases h
  · split at h
    · cases h
    · next s₁ p₁ hcreate =>
        split at h
        · cases h
        · next pixmap _ =>
            split at h
            · cases h
            · next s₂ b himport =>
                split at h
                · cases h
                · next s₃ hset =>
                    cases h
                    obtain ⟨-, hnew⟩ := createEmptyPixmap_some hcreate
                    obtain ⟨hobject, hprivs⟩ := dumbGetBoFromFd_some himport
                    obtain ⟨hb, hhint, hkind, hptr, hbos⟩ :=
                      msExaSetPixmapBo_empty ((congrFun hprivs p).trans hnew) hset
                    refine ⟨b, hb, hhint, ?_, hptr, hbos ▸ hobject⟩
                    rw [hkind, hobject]

/-! ## The client's numbers -/

/-- The cast of a stride to `int`. -/
theorem toInt32_toInt (x : UInt32) :
    x.toInt32.toInt = if x.toNat < 2 ^ 31 then (x.toNat : Int) else x.toNat - 2 ^ 32 := by
  have hcond := BitVec.toInt_eq_toNat_cond x.toBitVec
  change x.toBitVec.toInt = _
  rw [hcond]
  change (if 2 * x.toNat < 2 ^ 32 then (x.toNat : Int) else x.toNat - (2 ^ 32 : Nat)) = _
  split <;> split <;> omega

/-- The size of the mapping. -/
theorem mapSize_toNat (stride : UInt32) (height : UInt16) :
    (stride * height.toUInt32).toNat = stride.toNat * height.toNat % 2 ^ 32 := by
  rw [UInt32.toNat_mul, UInt16.toNat_toUInt32]

/-- Rendering stays inside exactly when the row fits the stride, the stride is positive
as an `int` and the product does not wrap.  A product that wraps loses at least `2 ^ 32`,
which is more than the stride the last row could save. -/
theorem inside_iff (row stride height size : Nat) (devKind : Int) (hheight : 1 ≤ height)
    (hstride : stride < 2 ^ 32) (hsize : size = stride * height % 2 ^ 32)
    (hkind : devKind = if stride < 2 ^ 31 then (stride : Int) else stride - 2 ^ 32) :
    ((row : Int) ≤ devKind ∧ ((height : Int) - 1) * devKind + row ≤ size) ↔
      row ≤ stride ∧ stride < 2 ^ 31 ∧ stride * height < 2 ^ 32 := by
  have hrows : ((height : Int) - 1) * stride = (stride * height : Nat) - stride := by
    push_cast
    ring
  constructor
  · rintro ⟨hrow, hlast⟩
    have hpositive : stride < 2 ^ 31 := by
      by_contra hge
      rw [if_neg hge] at hkind
      omega
    rw [if_pos hpositive] at hkind
    subst hkind
    rw [hrows] at hlast
    have hmod := Nat.div_add_mod (stride * height) (2 ^ 32)
    refine ⟨by exact_mod_cast hrow, hpositive, ?_⟩
    by_contra hwraps
    have hquot : 1 ≤ stride * height / 2 ^ 32 :=
      (Nat.one_le_div_iff (by decide)).mpr (Nat.le_of_not_lt hwraps)
    omega
  · rintro ⟨hrow, hpositive, hfits⟩
    rw [if_pos hpositive] at hkind
    subst hkind
    rw [Nat.mod_eq_of_lt hfits] at hsize
    refine ⟨by exact_mod_cast hrow, ?_⟩
    rw [hrows, hsize]
    have hle : stride ≤ stride * height := Nat.le_mul_of_pos_right stride hheight
    omega

/-! ## The import -/

/-- What `ms_exa_prepare_access` hands out maps the buffer object in its full size. -/
theorem Imported.handsOut {s : ExaState} {p b : Nat} {c : FromFds} (h : Imported s p c b)
    (a : MapDumb) (hready : (msExaPrepareAccess s p a).2 = true) :
    ((msExaPrepareAccess s p a).1.pixmaps p).ptr =
      some (.mapped ⟨b, (s.bos b).size⟩) := by
  have hdumb : lsIsDumbPixmap (s.privs p).usageHint = true := by
    rw [h.hint]
    decide
  have hfree : (s.bos b).ptr = none := by rw [h.object]
  cases hok : (a.ioctlOk && a.mmapOk) with
  | false =>
      simp [msExaPrepareAccess, hdumb, h.ptr, h.bo, dumbBoMap, ExaState.act, hfree, hok] at hready
  | true =>
      simp [msExaPrepareAccess, hdumb, h.ptr, h.bo, dumbBoMap, ExaState.act, hfree, hok,
        ExaState.setPixmap, ExaState.setBo]

/-- **DRI3 import.** Whenever `ms_exa_pixmap_from_fds` returns a pixmap of at least one
row, rendering stays inside the buffer object if and only if the client's numbers fit; and
the object's size is the length of the mapping rendering is given. -/
theorem dri3_import_inside_iff (s t : ExaState) (c : FromFds) (p : Nat)
    (h : msExaPixmapFromFds s c = (t, some p)) (hheight : 1 ≤ c.height.toNat) :
    (InsideMapping t p c ↔ FitsStride c) ∧
      ∀ a, (msExaPrepareAccess t p a).2 = true → ∃ b, (t.privs p).bo = some b ∧
        ((msExaPrepareAccess t p a).1.pixmaps p).ptr =
          some (.mapped ⟨b, (t.bos b).size⟩) := by
  obtain ⟨b, himported⟩ := msExaPixmapFromFds_some h
  have hkind := himported.devKind.trans (toInt32_toInt c.stride)
  have hsize : (t.bos b).size.toNat = c.stride.toNat * c.height.toNat % 2 ^ 32 := by
    rw [himported.object]
    exact mapSize_toNat c.stride c.height
  have hinside := inside_iff (rowBytes c.width c.bpp) c.stride.toNat c.height.toNat _ _
    hheight c.stride.toNat_lt hsize hkind
  refine ⟨⟨?_, fun hfits => ⟨b, himported.bo, hinside.mpr hfits⟩⟩, fun a hready =>
    ⟨b, himported.bo, himported.handsOut a hready⟩⟩
  rintro ⟨b', hb', hproperty⟩
  rw [himported.bo] at hb'
  cases hb'
  exact hinside.mp hproperty

/-- An import with these numbers in which the server and the kernel refuse nothing. -/
def import32 (width height : UInt16) (stride : UInt32) : FromFds :=
  ⟨1, width, height, stride, 0, 24, 32, true, true,
    fun pixmap => some { pixmap with width := width.toNat, height := height.toNat },
    ⟨true, true⟩, ⟨true, true⟩, true⟩

/-- A screen with no pixmaps. -/
def noPixmaps : ExaState :=
  ⟨true, fun _ => ExaPixmapPriv.new 0, fun _ => ⟨0, none, 0⟩,
    fun _ => ⟨0, 0, 24, 32, 0, none⟩, [], [], 0, 3, []⟩

/-- A pixmap of 64 by 64 pixels, 256 bytes a row. -/
theorem dri3_import_inside_64 :
    InsideMapping (msExaPixmapFromFds noPixmaps (import32 64 64 256)).1 0 (import32 64 64 256) :=
  ((dri3_import_inside_iff noPixmaps _ (import32 64 64 256) 0
    (Prod.ext rfl (by decide)) (by decide)).1).mpr (by decide)

/-- **Rendering leaves the mapping** of a pixmap of 32767 by 32767 pixels whose stride
is 131080 bytes: the product of stride and height wraps to 131064. -/
theorem dri3_import_outside :
    (msExaPixmapFromFds noPixmaps (import32 32767 32767 131080)).2 = some 0 ∧
      ¬ InsideMapping (msExaPixmapFromFds noPixmaps (import32 32767 32767 131080)).1 0
        (import32 32767 32767 131080) := by
  refine ⟨by decide, ?_⟩
  rintro ⟨b, hb, -, hlast⟩
  have hbo : ((msExaPixmapFromFds noPixmaps (import32 32767 32767 131080)).1.privs 0).bo =
      some 1 := by decide
  rw [hbo] at hb
  cases hb
  exact absurd hlast (by decide)

end LoongsonVideo.Driver.Dri3Import
