import LoongsonVideo.Verified.Ledger
import LoongsonVideo.Verified.Machine

/-!
# Shadows of rotated CRTCs

`drmmode_shadow_allocate`, `drmmode_shadow_create` and `drmmode_shadow_destroy` of
`src/drmmode_display.c`.  The server draws what a rotated CRTC shows to a pixmap of its own, with
a buffer and a framebuffer that the driver keeps in the CRTC.  `drmmode_crtc_get_fb_id` gives the
framebuffer as long as it has a number.

The server keeps what it was given as data and as pixmap, and gives it back.  Everything but the
ledger belongs to one CRTC, and so it is the ledger of one.

* `shadow_kept_iff`: in which runs the CRTC shows its shadow just while the server has one, and
  nothing is lost or released twice.
-/

namespace LoongsonVideo.Driver.RotateShadow

open LoongsonVideo.Verified LoongsonVideo.Verified.Ledger LoongsonVideo.Verified.Machine

/-! ## Shadows -/

/-- What is acquired, by its number in time. -/
inductive Resource where
  | bo (n : Nat)
  | fb (n : Nat)
  | pixmap (n : Nat)
  deriving DecidableEq, Repr

def Resource.serial : Resource → Nat
  | .bo n => n
  | .fb n => n
  | .pixmap n => n

/-- `drmmode_bo`: a GBM buffer or a dumb one, which may be mapped. -/
structure RotateBo where
  serial : Nat
  gbm : Bool
  mapped : Bool
  deriving DecidableEq, Repr

/-- The CRTC's `rotate_bo` and `rotate_fb_id`, and the server's `rotatedData` and `rotatedPixmap`
for it.  `refused` has the dumb buffers that the kernel has not destroyed when asked to. -/
structure Shadow where
  rotateBo : Option RotateBo
  rotateFbId : Option Nat
  rotatedData : Option Nat
  rotatedPixmap : Option Nat
  refused : List Nat
  made : Nat
  log : List (Act Resource)
  deriving DecidableEq, Repr

def Shadow.start : Shadow := ⟨none, none, none, none, [], 0, []⟩

def Shadow.act (s : Shadow) (a : Act Resource) : Shadow := { s with log := a :: s.log }

/-- A number for what is acquired. -/
def Shadow.acquire (s : Shadow) (r : Nat → Resource) : Shadow :=
  { s with made := s.made + 1, log := .acquire (r s.made) :: s.log }

/-- `drmmode_bo_destroy` of the CRTC's buffer. -/
def drmmodeBoDestroy (s : Shadow) (ioctlOk : Bool) : Shadow :=
  match s.rotateBo with
  | none => s
  | some bo =>
      if bo.gbm || ioctlOk then { s with rotateBo := none }.act (.release (.bo bo.serial))
      else
        { s with rotateBo := some { bo with mapped := false }, refused := bo.serial :: s.refused }

/-- The answers to one `drmmode_shadow_allocate`: whether there is a buffer, a framebuffer for it,
and if not, whether the buffer could be destroyed. -/
structure AllocateAnswer where
  createOk : Bool
  addFbOk : Bool
  destroyOk : Bool
  deriving DecidableEq, Repr

/-- `drmmode_create_bo` for the CRTC, and the use of the buffer by `drmmode_bo_import`. -/
def newRotateBo (glamor : Bool) (s : Shadow) : Shadow where
  rotateBo := some ⟨s.made, glamor, false⟩
  rotateFbId := s.rotateFbId
  rotatedData := s.rotatedData
  rotatedPixmap := s.rotatedPixmap
  refused := s.refused
  made := s.made + 1
  log := .touch (.bo s.made) :: .acquire (.bo s.made) :: s.log

/-- The framebuffer that `drmmode_bo_import` gets. -/
def newRotateFb (s : Shadow) : Shadow :=
  { s with
    rotateFbId := some s.made
    made := s.made + 1
    log := .acquire (.fb s.made) :: s.log }

/-- `drmmode_shadow_allocate`, with the buffer that it returns as the data.  The buffer pointer is
overwritten in any case, the number of the framebuffer when there is one. -/
def drmmodeShadowAllocate (glamor : Bool) (s : Shadow) (a : AllocateAnswer) :
    Shadow × Option Nat :=
  if a.createOk then
    if a.addFbOk then (newRotateFb (newRotateBo glamor s), some s.made)
    else (drmmodeBoDestroy (newRotateBo glamor s) a.destroyOk, none)
  else ({ s with rotateBo := none }, none)

/-- The answers to one `drmmode_shadow_create`. -/
structure CreateAnswer where
  allocate : AllocateAnswer
  mapOk : Bool
  pixmapOk : Bool
  modifyOk : Bool
  deriving DecidableEq, Repr

/-- `drmmode_bo_map` of the CRTC's buffer.  A GBM buffer is not mapped. -/
def drmmodeBoMap (s : Shadow) (bo : RotateBo) (mapOk : Bool) : Shadow :=
  if bo.gbm || bo.mapped || !mapOk then s
  else { s with rotateBo := some { bo with mapped := true } }.act (.touch (.bo bo.serial))

/-- `drmmode_create_pixmap_header`. -/
def drmmodeCreatePixmapHeader (s : Shadow) (pixmapOk modifyOk : Bool) : Shadow × Option Nat :=
  if pixmapOk then
    let pixmap := s.made
    let s := s.acquire .pixmap
    if modifyOk then (s, some pixmap) else (s.act (.release (.pixmap pixmap)), none)
  else (s, none)

/-- `drmmode_shadow_create` from where there is data. -/
def createFromData (s : Shadow) (a : CreateAnswer) : Shadow × Option Nat :=
  match s.rotateBo with
  | none => (s, none)
  | some bo =>
      let s := (drmmodeBoMap s bo a.mapOk).act (.touch (.bo bo.serial))
      drmmodeCreatePixmapHeader s a.pixmapOk a.modifyOk

/-- `drmmode_shadow_create`. -/
def drmmodeShadowCreate (glamor : Bool) (s : Shadow) (data : Option Nat) (a : CreateAnswer) :
    Shadow × Option Nat :=
  match data with
  | some _ => createFromData s a
  | none =>
      match drmmodeShadowAllocate glamor s a.allocate with
      | (s, none) => (s, none)
      | (s, some _) => createFromData s a

/-- `drmModeRmFB` of the CRTC's framebuffer. -/
def rmRotateFb (s : Shadow) : Shadow :=
  match s.rotateFbId with
  | none => s
  | some fb => { s with rotateFbId := none }.act (.release (.fb fb))

/-- `drmmode_shadow_destroy`. -/
def drmmodeShadowDestroy (s : Shadow) (rotatePixmap data : Option Nat) (ioctlOk : Bool) :
    Shadow :=
  let s :=
    match rotatePixmap with
    | none => s
    | some pixmap => s.act (.release (.pixmap pixmap))
  match data with
  | none => s
  | some _ => { drmmodeBoDestroy (rmRotateFb s) ioctlOk with rotateBo := none }

/-! ## Runs -/

inductive ShadowCall where
  | allocate (a : AllocateAnswer)
  | create (a : CreateAnswer)
  | destroy (ioctlOk : Bool)
  deriving DecidableEq, Repr

/-- The server asks for what it does not have.  It keeps what it gets, and gives all back at
once. -/
def shadowStep (glamor : Bool) (s : Shadow) : ShadowCall → Shadow
  | .allocate a =>
      if s.rotatedData = none ∧ s.rotatedPixmap = none then
        let r := drmmodeShadowAllocate glamor s a
        { r.1 with rotatedData := r.2 }
      else s
  | .create a =>
      if s.rotatedPixmap = none then
        let r := drmmodeShadowCreate glamor s s.rotatedData a
        { r.1 with rotatedPixmap := r.2 }
      else s
  | .destroy ioctlOk =>
      if s.rotatedPixmap = none ∧ s.rotatedData = none then s
      else
        { drmmodeShadowDestroy s s.rotatedPixmap s.rotatedData ioctlOk with
          rotatedPixmap := none
          rotatedData := none }

/-- A pixmap, if there is one. -/
def pixmapOf : Option Nat → Multiset Resource
  | none => 0
  | some pixmap => {.pixmap pixmap}

/-- A framebuffer with its buffer. -/
def scanoutOf : Option Nat → Option RotateBo → Multiset Resource
  | some fb, some bo => {.fb fb, .bo bo.serial}
  | _, _ => 0

/-- What the shadow is made of. -/
def Shadow.owned (s : Shadow) : Multiset Resource :=
  pixmapOf s.rotatedPixmap + scanoutOf s.rotateFbId s.rotateBo

/-- What the kernel did not take back. -/
def Shadow.left (s : Shadow) : Multiset Resource := (s.refused.map .bo : List Resource)

/-- Exactly `owned` is held, and the numbers to come are new. -/
structure Holding (s : Shadow) (owned : Multiset Resource) : Prop where
  owns : Owns s.log owned
  fresh : ∀ r : Resource, s.made ≤ r.serial → acquires s.log r = 0

/-- The CRTC has a framebuffer of its own just while the server has a shadow for it, and what is
held is the shadow and what the kernel did not take back. -/
structure Kept (s : Shadow) : Prop where
  tracked : s.rotateFbId.isSome = s.rotatedData.isSome
  buffer : s.rotateFbId.isSome = true → s.rotateBo.isSome = true
  holding : Holding s (s.owned + s.left)

/-- A pixmap is asked for with the data that it is made of, or there is no memory for it. -/
def WithData (s : Shadow) : ShadowCall → Prop
  | .create a =>
      s.rotatedPixmap = none → s.rotatedData ≠ none ∨
        (a.allocate.createOk && a.allocate.addFbOk) = false
  | _ => True

/-! ## Rules -/

section Rules

variable {s s' : Shadow} {owned rest : Multiset Resource} {r : Resource}

theorem Holding.acquire (h : Holding s owned) {r : Nat → Resource}
    (hserial : (r s.made).serial = s.made) : Holding (s.acquire r) (r s.made ::ₘ owned) := by
  have hnew : acquires s.log (r s.made) = 0 := h.fresh _ (Nat.le_of_eq hserial.symm)
  refine ⟨h.owns.acquire (h.owns.notMem_of_acquires hnew), fun x hx => ?_⟩
  have hlt : s.made < x.serial := hx
  have hne : r s.made ≠ x := fun heq => by
    rw [← heq, hserial] at hlt
    exact Nat.lt_irrefl _ hlt
  show acquires (.acquire (r s.made) :: s.log) x = 0
  rw [acquires_acquire, if_neg hne, h.fresh x (Nat.le_of_lt hlt)]

theorem Holding.touch (h : Holding s owned) (hr : r ∈ owned) :
    Holding (s.act (.touch r)) owned := by
  refine ⟨h.owns.touch hr, fun x hx => ?_⟩
  rw [← h.fresh x hx]
  exact acquires_touch ..

theorem Holding.release (h : Holding s owned) (hr : owned = r ::ₘ rest) :
    Holding (s.act (.release r)) rest := by
  refine ⟨h.owns.release hr, fun x hx => ?_⟩
  rw [← h.fresh x hx]
  exact acquires_release ..

/-- What is held is a matter of the log. -/
theorem Holding.of_log (h : Holding s owned) (hlog : s'.log = s.log) (hmade : s'.made = s.made) :
    Holding s' owned := by
  refine ⟨?_, fun x hx => ?_⟩
  · rw [hlog]
    exact h.owns
  · rw [hmade] at hx
    rw [hlog]
    exact h.fresh x hx

end Rules

/-! ## What each function does -/

/-- The server's part and the refused buffers stay. -/
structure SameServer (s s' : Shadow) : Prop where
  data : s'.rotatedData = s.rotatedData
  pixmap : s'.rotatedPixmap = s.rotatedPixmap

section Functions

variable {s : Shadow} {rest : Multiset Resource} {glamor : Bool}

/-- The buffer is gone, or it is one the kernel has not taken back. -/
theorem drmmodeBoDestroy_holding {bo : RotateBo} (hbo : s.rotateBo = some bo)
    (h : Holding s (.bo bo.serial ::ₘ (rest + s.left))) (ioctlOk : Bool) :
    Holding (drmmodeBoDestroy s ioctlOk) (rest + (drmmodeBoDestroy s ioctlOk).left) ∧
      SameServer s (drmmodeBoDestroy s ioctlOk) ∧
      (drmmodeBoDestroy s ioctlOk).rotateFbId = s.rotateFbId := by
  unfold drmmodeBoDestroy
  simp only [hbo]
  split
  · refine ⟨?_, ⟨rfl, rfl⟩, rfl⟩
    have hlog : Holding { s with rotateBo := none } (.bo bo.serial ::ₘ (rest + s.left)) :=
      h.of_log rfl rfl
    exact hlog.release rfl
  · refine ⟨?_, ⟨rfl, rfl⟩, rfl⟩
    have hleft : rest + (.bo bo.serial ::ₘ s.left) = .bo bo.serial ::ₘ (rest + s.left) :=
      Multiset.add_cons ..
    exact (hleft ▸ h).of_log rfl rfl

variable (glamor) in
/-- What `drmmode_shadow_allocate` gives is the framebuffer and its buffer, or nothing. -/
theorem drmmodeShadowAllocate_holding (hfb : s.rotateFbId = none) (h : Holding s (rest + s.left))
    (a : AllocateAnswer) :
    SameServer s (drmmodeShadowAllocate glamor s a).1 ∧
      ((∃ fb bo, (a.createOk && a.addFbOk) = true ∧
        (drmmodeShadowAllocate glamor s a).2 = some bo.serial ∧
        (drmmodeShadowAllocate glamor s a).1.rotateFbId = some fb ∧
        (drmmodeShadowAllocate glamor s a).1.rotateBo = some bo ∧
        Holding (drmmodeShadowAllocate glamor s a).1
          ({.fb fb, .bo bo.serial} + rest + (drmmodeShadowAllocate glamor s a).1.left)) ∨
      ((a.createOk && a.addFbOk) = false ∧
        (drmmodeShadowAllocate glamor s a).2 = none ∧
        (drmmodeShadowAllocate glamor s a).1.rotateFbId = none ∧
        Holding (drmmodeShadowAllocate glamor s a).1
          (rest + (drmmodeShadowAllocate glamor s a).1.left))) := by
  obtain ⟨createOk, addFbOk, destroyOk⟩ := a
  cases createOk with
  | false => exact ⟨⟨rfl, rfl⟩, Or.inr ⟨rfl, rfl, hfb, h.of_log rfl rfl⟩⟩
  | true =>
      have hbo : Holding (newRotateBo glamor s) (.bo s.made ::ₘ (rest + s.left)) :=
        (((h.acquire (r := .bo) rfl).touch (Multiset.mem_cons_self _ _)).of_log rfl rfl)
      cases addFbOk with
      | false =>
          have hbo' : (newRotateBo glamor s).rotateBo = some ⟨s.made, glamor, false⟩ := rfl
          obtain ⟨hholding, hserver, hsame⟩ := drmmodeBoDestroy_holding hbo' hbo destroyOk
          exact ⟨⟨hserver.data, hserver.pixmap⟩, Or.inr ⟨rfl, rfl, hsame.trans hfb, hholding⟩⟩
      | true =>
          refine ⟨⟨rfl, rfl⟩, Or.inl ⟨s.made + 1, ⟨s.made, glamor, false⟩, rfl, rfl, rfl, rfl, ?_⟩⟩
          have hsum : ({.fb (s.made + 1), .bo s.made} : Multiset Resource) + rest + s.left =
              .fb (s.made + 1) ::ₘ .bo s.made ::ₘ (rest + s.left) := by
            rw [Multiset.insert_eq_cons, Multiset.add_assoc, Multiset.cons_add,
              Multiset.singleton_add]
          have hfbs : Holding (newRotateFb (newRotateBo glamor s))
              (.fb (s.made + 1) ::ₘ .bo s.made ::ₘ (rest + s.left)) :=
            (hbo.acquire (r := .fb) rfl).of_log rfl rfl
          exact hsum ▸ hfbs

/-- The CRTC's buffer and framebuffer stay, and what the server has. -/
structure SameShadow (s s' : Shadow) (bo : RotateBo) : Prop where
  bo : ∃ bo', s'.rotateBo = some bo' ∧ bo'.serial = bo.serial
  fb : s'.rotateFbId = s.rotateFbId
  refused : s'.refused = s.refused
  server : SameServer s s'

theorem drmmodeBoMap_holding {bo : RotateBo} {owned : Multiset Resource}
    (hbo : s.rotateBo = some bo) (h : Holding s owned) (hin : .bo bo.serial ∈ owned)
    (mapOk : Bool) :
    SameShadow s (drmmodeBoMap s bo mapOk) bo ∧ Holding (drmmodeBoMap s bo mapOk) owned := by
  unfold drmmodeBoMap
  split
  · exact ⟨⟨⟨bo, hbo, rfl⟩, rfl, rfl, rfl, rfl⟩, h⟩
  · exact ⟨⟨⟨_, rfl, rfl⟩, rfl, rfl, rfl, rfl⟩, (h.touch hin).of_log rfl rfl⟩

theorem drmmodeCreatePixmapHeader_holding {owned : Multiset Resource} (h : Holding s owned)
    (pixmapOk modifyOk : Bool) :
    Holding (drmmodeCreatePixmapHeader s pixmapOk modifyOk).1
      (pixmapOf (drmmodeCreatePixmapHeader s pixmapOk modifyOk).2 + owned) := by
  have hnone : pixmapOf none + owned = owned := Multiset.zero_add owned
  cases pixmapOk with
  | false => exact hnone.symm ▸ h
  | true =>
      have hnew := h.acquire (r := .pixmap) rfl
      cases modifyOk with
      | false => exact hnone.symm ▸ hnew.release rfl
      | true => exact hnew

/-- What `drmmode_shadow_create` gives from a buffer is a pixmap or nothing. -/
theorem createFromData_holding {bo : RotateBo} {owned : Multiset Resource}
    (hbo : s.rotateBo = some bo) (h : Holding s owned) (hin : .bo bo.serial ∈ owned)
    (a : CreateAnswer) :
    SameShadow s (createFromData s a).1 bo ∧
      Holding (createFromData s a).1 (pixmapOf (createFromData s a).2 + owned) := by
  obtain ⟨hsame, hmap⟩ := drmmodeBoMap_holding hbo h hin a.mapOk
  have hheader := drmmodeCreatePixmapHeader_holding (hmap.touch hin) a.pixmapOk a.modifyOk
  have hcreate : createFromData s a = drmmodeCreatePixmapHeader
      ((drmmodeBoMap s bo a.mapOk).act (.touch (.bo bo.serial))) a.pixmapOk a.modifyOk := by
    simp only [createFromData, hbo]
  rw [hcreate]
  refine ⟨?_, hheader⟩
  unfold drmmodeCreatePixmapHeader
  split
  · simp only
    split <;> exact ⟨hsame.bo, hsame.fb, hsame.refused, hsame.server.data, hsame.server.pixmap⟩
  · exact ⟨hsame.bo, hsame.fb, hsame.refused, hsame.server.data, hsame.server.pixmap⟩

/-- The framebuffer goes before its buffer. -/
theorem destroyScanout_holding {fb : Nat} {bo : RotateBo} (hfb : s.rotateFbId = some fb)
    (hbo : s.rotateBo = some bo) (h : Holding s (scanoutOf (some fb) (some bo) + s.left))
    (ioctlOk : Bool) :
    (drmmodeBoDestroy (rmRotateFb s) ioctlOk).rotateFbId = none ∧
      Holding (drmmodeBoDestroy (rmRotateFb s) ioctlOk)
        (drmmodeBoDestroy (rmRotateFb s) ioctlOk).left := by
  have hrm : rmRotateFb s = { s with rotateFbId := none }.act (.release (.fb fb)) := by
    rw [rmRotateFb, hfb]
  have hsum : scanoutOf (some fb) (some bo) + s.left =
      .fb fb ::ₘ .bo bo.serial ::ₘ (0 + s.left) := by
    rw [scanoutOf, Multiset.insert_eq_cons, Multiset.cons_add, Multiset.singleton_add,
      Multiset.zero_add]
  have hlog : Holding { s with rotateFbId := none } (.fb fb ::ₘ .bo bo.serial ::ₘ (0 + s.left)) :=
    (hsum ▸ h).of_log rfl rfl
  have hbo' : (rmRotateFb s).rotateBo = some bo := by
    rw [hrm]
    exact hbo
  have hleft : (rmRotateFb s).left = s.left := by
    rw [hrm]
    rfl
  have hholding : Holding (rmRotateFb s) (.bo bo.serial ::ₘ (0 + (rmRotateFb s).left)) := by
    rw [hleft, hrm]
    exact hlog.release rfl
  obtain ⟨hdone, -, hsame⟩ := drmmodeBoDestroy_holding hbo' hholding ioctlOk
  rw [Multiset.zero_add] at hdone
  refine ⟨hsame.trans ?_, hdone⟩
  rw [hrm]
  rfl

/-- After `drmmode_shadow_destroy` nothing is left but what the kernel has not taken back. -/
theorem drmmodeShadowDestroy_holding {fb : Nat} {bo : RotateBo} (data : Nat)
    (hfb : s.rotateFbId = some fb) (hbo : s.rotateBo = some bo) (pixmap : Option Nat)
    (h : Holding s (pixmapOf pixmap + scanoutOf (some fb) (some bo) + s.left)) (ioctlOk : Bool) :
    (drmmodeShadowDestroy s pixmap (some data) ioctlOk).rotateFbId = none ∧
      Holding (drmmodeShadowDestroy s pixmap (some data) ioctlOk)
        (drmmodeShadowDestroy s pixmap (some data) ioctlOk).left := by
  cases pixmap with
  | none =>
      rw [pixmapOf, Multiset.zero_add] at h
      obtain ⟨hnone, hdone⟩ := destroyScanout_holding hfb hbo h ioctlOk
      exact ⟨hnone, hdone.of_log rfl rfl⟩
  | some pixmap =>
      rw [pixmapOf, Multiset.add_assoc, Multiset.singleton_add] at h
      have hreleased : Holding (s.act (.release (.pixmap pixmap)))
          (scanoutOf (some fb) (some bo) + s.left) := h.release rfl
      have hfb' : (s.act (.release (.pixmap pixmap))).rotateFbId = some fb := hfb
      have hbo' : (s.act (.release (.pixmap pixmap))).rotateBo = some bo := hbo
      obtain ⟨hnone, hdone⟩ := destroyScanout_holding hfb' hbo' hreleased ioctlOk
      exact ⟨hnone, hdone.of_log rfl rfl⟩

end Functions

/-! ## Steps -/

theorem kept_start : Kept Shadow.start where
  tracked := rfl
  buffer := fun h => absurd h Bool.false_ne_true
  holding := ⟨⟨trivial, rfl⟩, fun _ _ => rfl⟩

section Steps

variable {glamor : Bool} {s : Shadow}

/-- What the server has tells what the CRTC has. -/
theorem Kept.cases (h : Kept s) :
    (s.rotatedData = none ∧ s.rotateFbId = none) ∨
      ∃ data fb bo, s.rotatedData = some data ∧ s.rotateFbId = some fb ∧
        s.rotateBo = some bo := by
  cases hfb : s.rotateFbId with
  | none =>
      have hdata := h.tracked
      rw [hfb] at hdata
      exact Or.inl ⟨Option.not_isSome_iff_eq_none.mp fun hsome =>
        Bool.false_ne_true (hdata.trans hsome), rfl⟩
  | some fb =>
      obtain ⟨bo, hbo⟩ := Option.isSome_iff_exists.mp (h.buffer (by rw [hfb]; rfl))
      have hdata := h.tracked
      rw [hfb] at hdata
      obtain ⟨data, hdata⟩ := Option.isSome_iff_exists.mp hdata.symm
      exact Or.inr ⟨data, fb, bo, hdata, rfl, hbo⟩

/-- Without a framebuffer the shadow is its pixmap. -/
theorem owned_of_none (hfb : s.rotateFbId = none) : s.owned = pixmapOf s.rotatedPixmap := by
  rw [Shadow.owned, hfb]
  exact Multiset.add_zero _

theorem kept_none (hfb : s.rotateFbId = none) (hdata : s.rotatedData = none)
    (h : Holding s (pixmapOf s.rotatedPixmap + s.left)) : Kept s := by
  refine ⟨by rw [hfb, hdata], fun hsome => ?_, ?_⟩
  · rw [hfb] at hsome
    exact absurd hsome Bool.false_ne_true
  · rw [owned_of_none hfb]
    exact h

theorem kept_some {data fb : Nat} {bo : RotateBo} (hdata : s.rotatedData = some data)
    (hfb : s.rotateFbId = some fb) (hbo : s.rotateBo = some bo)
    (h : Holding s (pixmapOf s.rotatedPixmap + {.fb fb, .bo bo.serial} + s.left)) : Kept s := by
  refine ⟨by rw [hfb, hdata]; rfl, fun _ => by rw [hbo]; rfl, ?_⟩
  rw [Shadow.owned, hfb, hbo]
  exact h

theorem allocate_kept (h : Kept s) (a : AllocateAnswer) :
    Kept (shadowStep glamor s (.allocate a)) := by
  rw [shadowStep]
  split
  · rename_i hnone
    obtain ⟨hdata, hpixmap⟩ := hnone
    rcases h.cases with ⟨-, hfb⟩ | ⟨data, -, -, hsome, -, -⟩
    · have hholding := h.holding
      rw [owned_of_none hfb] at hholding
      obtain ⟨hserver, hgot | hnot⟩ :=
        drmmodeShadowAllocate_holding glamor hfb hholding a
      · obtain ⟨fb, bo, -, hdata', hfb', hbo', hheld⟩ := hgot
        refine kept_some hdata' hfb' hbo' ?_
        simp only [hserver.pixmap]
        rw [Multiset.add_comm (pixmapOf _)]
        exact hheld.of_log rfl rfl
      · obtain ⟨-, hdata', hfb', hheld⟩ := hnot
        refine kept_none hfb' hdata' ?_
        simp only [hserver.pixmap]
        exact hheld.of_log rfl rfl
    · exact nomatch hdata.symm.trans hsome
  · exact h

theorem destroy_kept (h : Kept s) (ioctlOk : Bool) :
    Kept (shadowStep glamor s (.destroy ioctlOk)) := by
  rw [shadowStep]
  split
  · exact h
  · rcases h.cases with ⟨hdata, hfb⟩ | ⟨data, fb, bo, hdata, hfb, hbo⟩
    · have hholding := h.holding
      rw [owned_of_none hfb] at hholding
      rw [hdata]
      cases hpixmap : s.rotatedPixmap with
      | none =>
          rw [hpixmap] at hholding
          exact kept_none hfb rfl (hholding.of_log rfl rfl)
      | some pixmap =>
          rw [hpixmap, pixmapOf, Multiset.singleton_add] at hholding
          have hreleased : Holding (s.act (.release (.pixmap pixmap))) s.left :=
            hholding.release rfl
          refine kept_none hfb rfl ?_
          rw [pixmapOf, Multiset.zero_add]
          exact hreleased.of_log rfl rfl
    · have hholding := h.holding
      rw [Shadow.owned, hfb, hbo] at hholding
      obtain ⟨hnone, hdone⟩ :=
        drmmodeShadowDestroy_holding data hfb hbo s.rotatedPixmap hholding ioctlOk
      rw [hdata]
      refine kept_none hnone rfl ?_
      rw [pixmapOf, Multiset.zero_add]
      exact hdone.of_log rfl rfl

/-- From its data the server gets a pixmap or nothing. -/
theorem createFromData_kept {data fb : Nat} {bo : RotateBo} (hdata : s.rotatedData = some data)
    (hfb : s.rotateFbId = some fb) (hbo : s.rotateBo = some bo)
    (h : Holding s (scanoutOf (some fb) (some bo) + s.left)) (a : CreateAnswer) :
    Kept { (createFromData s a).1 with rotatedPixmap := (createFromData s a).2 } := by
  have hin : .bo bo.serial ∈ scanoutOf (some fb) (some bo) + s.left := by
    rw [scanoutOf, Multiset.mem_add]
    exact Or.inl (Multiset.mem_cons_of_mem (Multiset.mem_singleton_self _))
  obtain ⟨hsame, hholding⟩ := createFromData_holding hbo h hin a
  obtain ⟨bo', hbo', hserial⟩ := hsame.bo
  have hleft : (createFromData s a).1.left = s.left := by
    rw [Shadow.left, hsame.refused, Shadow.left]
  refine kept_some (hsame.server.data.trans hdata) (hsame.fb.trans hfb) hbo' ?_
  rw [hserial, Multiset.add_assoc]
  refine Holding.of_log (s := (createFromData s a).1) ?_ rfl rfl
  show Holding _ (_ + (_ + (createFromData s a).1.left))
  rw [hleft]
  exact hholding

/-- Without data the shadow is allocated first. -/
theorem drmmodeShadowCreate_got {t : Shadow} {data : Nat} {a : CreateAnswer}
    (h : drmmodeShadowAllocate glamor s a.allocate = (t, some data)) :
    drmmodeShadowCreate glamor s none a = createFromData t a := by
  rw [drmmodeShadowCreate, h]

theorem drmmodeShadowCreate_not {t : Shadow} {a : CreateAnswer}
    (h : drmmodeShadowAllocate glamor s a.allocate = (t, none)) :
    drmmodeShadowCreate glamor s none a = (t, none) := by
  rw [drmmodeShadowCreate, h]

theorem create_kept_iff (h : Kept s) (a : CreateAnswer) :
    Kept (shadowStep glamor s (.create a)) ↔ WithData s (.create a) := by
  rw [shadowStep, WithData]
  by_cases hpixmap : s.rotatedPixmap = none
  · rw [if_pos hpixmap]
    simp only [hpixmap, true_imp_iff]
    have hholding := h.holding
    rcases h.cases with ⟨hdata, hfb⟩ | ⟨data, fb, bo, hdata, hfb, hbo⟩
    · rw [owned_of_none hfb, hpixmap, pixmapOf] at hholding
      obtain ⟨hserver, hgot | hnot⟩ :=
        drmmodeShadowAllocate_holding glamor hfb hholding a.allocate
      · obtain ⟨fb, bo, hok, hdata', hfb', hbo', hheld⟩ := hgot
        -- The shadow is there, but the server has no data for it.
        have hcreate := drmmodeShadowCreate_got (a := a) (Prod.ext rfl hdata')
        rw [Multiset.add_zero] at hheld
        have hin : .bo bo.serial ∈ ({.fb fb, .bo bo.serial} : Multiset Resource) +
            (drmmodeShadowAllocate glamor s a.allocate).1.left :=
          Multiset.mem_add.mpr (Or.inl
            (Multiset.mem_cons_of_mem (Multiset.mem_singleton_self _)))
        obtain ⟨hsame, -⟩ := createFromData_holding hbo' hheld hin a
        rw [hdata, hcreate]
        refine iff_of_false (fun hkept => ?_) fun hwith => ?_
        · have htracked := hkept.tracked
          simp only [hsame.fb, hfb', hsame.server.data, hserver.data, hdata] at htracked
          exact absurd htracked.symm Bool.false_ne_true
        · rcases hwith with hsome | hfail
          · exact hsome rfl
          · exact Bool.false_ne_true (hfail.symm.trans hok)
      · obtain ⟨hfail, hdata', hfb', hheld⟩ := hnot
        have hcreate := drmmodeShadowCreate_not (a := a) (Prod.ext rfl hdata')
        refine iff_of_true ?_ (Or.inr hfail)
        rw [hdata, hcreate]
        exact kept_none hfb' (hserver.data.trans hdata) (hheld.of_log rfl rfl)
    · rw [Shadow.owned, hfb, hbo, hpixmap, pixmapOf, Multiset.zero_add] at hholding
      have hcreate : drmmodeShadowCreate glamor s s.rotatedData a = createFromData s a := by
        rw [hdata, drmmodeShadowCreate]
      refine iff_of_true ?_ (Or.inl fun hnone => nomatch hnone.symm.trans hdata)
      simp only [hcreate]
      exact createFromData_kept hdata hfb hbo hholding a
  · rw [if_neg hpixmap]
    exact iff_of_true h fun hnone => absurd hnone hpixmap

end Steps

/-- **A CRTC shows its shadow just while the server has one for it, and of its buffers,
framebuffers and pixmaps none is lost or released twice, exactly if** the server asks for a pixmap
with the data it was given. -/
theorem shadow_kept_iff (glamor : Bool) (calls : List ShadowCall) :
    Always (shadowStep glamor) Kept Shadow.start calls ↔
      Guarded (shadowStep glamor) WithData Shadow.start calls :=
  always_iff_guarded (I := fun _ => True) (fun _ _ _ => trivial)
    (fun _ call _ h =>
      match call with
      | .allocate a => iff_of_true (allocate_kept h a) trivial
      | .create a => create_kept_iff h a
      | .destroy ioctlOk => iff_of_true (destroy_kept h ioctlOk) trivial)
    trivial kept_start calls

end LoongsonVideo.Driver.RotateShadow
