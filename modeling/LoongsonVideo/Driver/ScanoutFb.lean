import LoongsonVideo.Driver.Scanout
import LoongsonVideo.Verified.Machine

/-!
# The framebuffer of the front buffer

`drmmode_crtc_get_fb_id` registers a framebuffer for the front buffer when the id it has
found for a CRTC is zero.  For a CRTC that shows the front buffer that id is
`drmmode->fb_id`, so an id is never overwritten.  For a CRTC with a shared pixmap it is
zero in `reverse_prime_offload_mode`, and when the pixmap has no framebuffer of its own,
whatever `drmmode->fb_id` is: then the import overwrites it.

`frontFb_iff` says that nothing else goes wrong: the framebuffers of the front buffer are
those named by `drmmode->fb_id` in all states of a run if and only if no call of
`drmmode_crtc_get_fb_id` takes that branch with `drmmode->fb_id` set.
-/

namespace LoongsonVideo.Driver.Scanout

open LoongsonVideo.Verified.Machine

/-- The framebuffers that are registered for the front buffer. -/
def fronts (s : Drmmode) : List Nat := (s.fbs.filter fun fb => fb.2 = .front).map Prod.fst

/-- The framebuffers that `drmmode->fb_id` names. -/
def named (fbId : Nat) : List Nat := if fbId = 0 then [] else [fbId]

/-- **The property.** Framebuffers were registered only while `drmmode->fb_id` was zero, it
names the only one there is, and `drmmode_free_bos` leaves none. -/
structure FrontFb (s : Drmmode) : Prop where
  wasZero : ∀ call ∈ s.calls, call.registered = true → call.fbId = 0
  front : fronts s = named s.fbId
  freed : fronts (drmmodeFreeBos s) = []

/-- **The condition** is that no call does this: it finds a shared pixmap without an id of
its own while `drmmode->fb_id` is set, and the kernel accepts the import. -/
def FbCall.Overwrites (call : FbCall) : Prop :=
  call.lacksId = true ∧ call.fbId ≠ 0 ∧ call.importOk = true

instance (call : FbCall) : Decidable call.Overwrites := inferInstanceAs (Decidable (_ ∧ _ ∧ _))

/-! ## Who owns a framebuffer -/

/-- Framebuffer ids are distinct and not zero, and the records of the pixmaps and of the
rotated CRTCs name framebuffers of their own. -/
structure FbOwned (s : Drmmode) : Prop where
  nodup : (s.fbs.map Prod.fst).Nodup
  nonzero : 0 ∉ s.fbs.map Prod.fst
  pixmap : ∀ p, s.pixmapFb p ≠ 0 → (s.pixmapFb p, .pixmap p) ∈ s.fbs
  rotate : ∀ i crtc, s.crtcs[i]? = some crtc → crtc.rotateFbId ≠ 0 →
    (crtc.rotateFbId, .rotate i) ∈ s.fbs

theorem mem_fronts {s : Drmmode} {id : Nat} : id ∈ fronts s ↔ (id, .front) ∈ s.fbs := by
  unfold fronts
  simp

theorem fronts_rmFB (s : Drmmode) (id : Nat) :
    fronts (drmModeRmFB s id) = (fronts s).filter (· ≠ id) := by
  unfold fronts drmModeRmFB
  rw [List.filter_map, List.filter_filter, List.filter_filter]
  congr 1
  apply List.filter_congr
  intro fb _
  exact Bool.and_comm _ _

namespace FbOwned

variable {s : Drmmode}

theorem id_ne_zero (h : FbOwned s) {id : Nat} {owner : FbOwner} (hin : (id, owner) ∈ s.fbs) :
    id ≠ 0 := by
  intro hzero
  apply h.nonzero
  rw [← hzero]
  exact List.mem_map_of_mem hin

/-- A framebuffer has one owner. -/
theorem owner_unique (h : FbOwned s) {id : Nat} {owner owner' : FbOwner}
    (hin : (id, owner) ∈ s.fbs) (hin' : (id, owner') ∈ s.fbs) : owner = owner' :=
  congrArg Prod.snd (List.inj_on_of_nodup_map h.nodup hin hin' rfl)

/-- Removing a framebuffer of one owner leaves those of the others. -/
theorem mem_rmFB (h : FbOwned s) {id id' : Nat} {owner owner' : FbOwner}
    (hid : id ≠ 0 → (id, owner) ∈ s.fbs) (hin : (id', owner') ∈ s.fbs) (hne : owner' ≠ owner) :
    (id', owner') ∈ (drmModeRmFB s id).fbs := by
  unfold drmModeRmFB
  apply List.mem_filter.mpr
  refine ⟨hin, decide_eq_true fun heq => hne ?_⟩
  have heq' : id' = id := heq
  subst heq'
  exact h.owner_unique hin (hid (h.id_ne_zero hin))

theorem rm_sublist (s : Drmmode) (id : Nat) :
    ((drmModeRmFB s id).fbs.map Prod.fst).Sublist (s.fbs.map Prod.fst) :=
  List.Sublist.map _ List.filter_sublist

/-- The fronts stay when another owner's framebuffer is removed. -/
theorem fronts_rm_other (h : FbOwned s) {id : Nat} {owner : FbOwner} (howner : owner ≠ .front)
    (hid : id ≠ 0 → (id, owner) ∈ s.fbs) : fronts (drmModeRmFB s id) = fronts s := by
  rw [fronts_rmFB]
  apply List.filter_eq_self.mpr
  intro id' hin
  have hkept := h.mem_rmFB hid (mem_fronts.mp hin) howner.symm
  exact (List.mem_filter.mp hkept).2

/-- Removing a framebuffer of the front buffer. -/
theorem rm_front (h : FbOwned s) {id : Nat} (hid : id ∈ fronts s) :
    FbOwned (drmModeRmFB s id) where
  nodup := h.nodup.sublist (rm_sublist s id)
  nonzero := fun hin => h.nonzero ((rm_sublist s id).subset hin)
  pixmap := fun p hp => h.mem_rmFB (fun _ => mem_fronts.mp hid) (h.pixmap p hp) nofun
  rotate := fun i crtc hi hrot =>
    h.mem_rmFB (fun _ => mem_fronts.mp hid) (h.rotate i crtc hi hrot) nofun

/-- Changing a CRTC whose rotation shadow keeps a framebuffer of its own. -/
theorem setCrtc (h : FbOwned s) (i : Nat) (f : Crtc → Crtc)
    (hf : ∀ crtc, s.crtcs[i]? = some crtc → (f crtc).rotateFbId ≠ 0 →
      ((f crtc).rotateFbId, .rotate i) ∈ s.fbs) : FbOwned (s.setCrtc i f) where
  nodup := h.nodup
  nonzero := h.nonzero
  pixmap := h.pixmap
  rotate := by
    intro j crtc hj hrot
    simp only [Drmmode.setCrtc, List.getElem?_modify] at hj
    obtain ⟨old, hold, hnew⟩ := Option.map_eq_some_iff.mp hj
    by_cases hij : i = j
    · subst hij
      rw [if_pos rfl] at hnew
      subst hnew
      exact hf old hold hrot
    · rw [if_neg hij] at hnew
      subst hnew
      exact h.rotate j old hold hrot

/-- A new framebuffer. -/
theorem addFB (h : FbOwned s) (ids : FbIds) (owner : FbOwner) :
    FbOwned { s with fbs := (ids.pick (s.fbs.map Prod.fst), owner) :: s.fbs } where
  nodup := List.nodup_cons.mpr ⟨ids.fresh _, h.nodup⟩
  nonzero := by
    intro hin
    cases List.mem_cons.mp hin with
    | inl hzero => exact ids.ne_zero _ hzero.symm
    | inr hin => exact h.nonzero hin
  pixmap := fun p hp => List.mem_cons_of_mem _ (h.pixmap p hp)
  rotate := fun i crtc hi hrot => List.mem_cons_of_mem _ (h.rotate i crtc hi hrot)

end FbOwned

/-! ## What a mode set keeps -/

/-- The invariant.  `held` is the old framebuffer while a resize is under way. -/
structure FbInv (held : List Nat) (s : Drmmode) : Prop where
  owned : FbOwned s
  front : fronts s = named s.fbId ++ held

/-- The log tells when a framebuffer id is overwritten. -/
def LogExact (s : Drmmode) : Prop :=
  ∀ call ∈ s.calls, call.registered = true ∧ call.fbId ≠ 0 ↔ call.Overwrites

def NoneOverwrites (s : Drmmode) : Prop := ∀ call ∈ s.calls, ¬ call.Overwrites

/-- From `s` to `t` calls are added to the log, and the invariant is kept unless one of
them overwrites `drmmode->fb_id`. -/
structure Keeps (held : List Nat) (s t : Drmmode) : Prop where
  calls : s.calls <:+ t.calls
  log : LogExact s → LogExact t
  inv : NoneOverwrites t → FbInv held s → FbInv held t

namespace Keeps

variable {held : List Nat} {s t u : Drmmode}

theorem refl (s : Drmmode) : Keeps held s s := ⟨List.suffix_rfl, id, fun _ h => h⟩

theorem trans (hst : Keeps held s t) (htu : Keeps held t u) : Keeps held s u where
  calls := hst.calls.trans htu.calls
  log := fun h => htu.log (hst.log h)
  inv := fun hnone h =>
    htu.inv hnone (hst.inv (fun call hin => hnone call (htu.calls.subset hin)) h)

/-- A step that makes no call. -/
theorem of_calls_eq (hcalls : t.calls = s.calls) (hinv : FbInv held s → FbInv held t) :
    Keeps held s t where
  calls := hcalls ▸ List.suffix_rfl
  log := by
    intro h
    unfold LogExact
    rwa [hcalls]
  inv := fun _ => hinv

/-- A change of a CRTC that leaves its rotation shadow alone. -/
theorem setCrtc (s : Drmmode) (i : Nat) (f : Crtc → Crtc)
    (hf : ∀ crtc, (f crtc).rotateFbId = crtc.rotateFbId) : Keeps held s (s.setCrtc i f) := by
  refine of_calls_eq (t := s.setCrtc i f) rfl fun h => ?_
  refine ⟨h.owned.setCrtc i f fun crtc hi hrot => ?_, h.front⟩
  rw [hf] at hrot ⊢
  exact h.owned.rotate i crtc hi hrot

end Keeps

/-- A CRTC without a shared pixmap has no id of its own only if `drmmode->fb_id` is zero. -/
theorem fbId_zero_of_own_zero {s : Drmmode} {crtc : Crtc} (hown : (crtcFbId s crtc).1 = 0)
    (hpixmap : crtc.primePixmap = none) : s.fbId = 0 := by
  simp only [crtcFbId, hpixmap] at hown
  split at hown
  · next hrot => exact absurd hown hrot
  · exact hown

/-- **`drmmode_crtc_get_fb_id`.** -/
theorem keeps_getFbId (held : List Nat) (ids : FbIds) (s : Drmmode) (crtc : Crtc)
    (importOk : Bool) : Keeps held s (drmmodeCrtcGetFbId ids s crtc importOk).1 := by
  simp only [drmmodeCrtcGetFbId]
  by_cases hown : (crtcFbId s crtc).1 = 0
  · rw [if_pos hown]
    -- the calls that import are those that lack an id, or find `drmmode->fb_id` zero
    have hlacks : s.fbId ≠ 0 → (crtc.primePixmap.isSome && (crtcFbId s crtc).1 == 0) = true := by
      intro hset
      cases hpixmap : crtc.primePixmap with
      | none => exact absurd (fbId_zero_of_own_zero hown hpixmap) hset
      | some ppix => simp [hown]
    generalize (crtc.primePixmap.isSome && (crtcFbId s crtc).1 == 0) = lacksId at hlacks
    cases importOk with
    | false =>
        refine ⟨List.suffix_cons _ _, fun hlog call hin => ?_, fun _ h => ⟨?_, h.front⟩⟩
        · cases List.mem_cons.mp hin with
          | inl hnew =>
              subst hnew
              simp [FbCall.Overwrites]
          | inr hold => exact hlog call hold
        · exact ⟨h.owned.nodup, h.owned.nonzero, h.owned.pixmap, h.owned.rotate⟩
    | true =>
        refine ⟨List.suffix_cons _ _, fun hlog call hin => ?_, fun hnone h => ⟨?_, ?_⟩⟩
        · cases List.mem_cons.mp hin with
          | inl hnew =>
              subst hnew
              simpa [FbCall.Overwrites] using hlacks
          | inr hold => exact hlog call hold
        · have hadd := h.owned.addFB ids .front
          exact ⟨hadd.nodup, hadd.nonzero, hadd.pixmap, hadd.rotate⟩
        · have hzero : s.fbId = 0 := by
            by_contra hset
            exact hnone _ List.mem_cons_self ⟨hlacks hset, hset, rfl⟩
          have hfront := h.front
          rw [hzero] at hfront
          have hid : ids.pick (s.fbs.map Prod.fst) ≠ 0 := ids.ne_zero _
          show ids.pick (s.fbs.map Prod.fst) :: fronts s =
            named (ids.pick (s.fbs.map Prod.fst)) ++ held
          rw [hfront]
          unfold named
          rw [if_pos rfl, if_neg hid]
          rfl
  · rw [if_neg hown]
    refine ⟨List.suffix_cons _ _, fun hlog call hin => ?_, fun _ h => ⟨?_, h.front⟩⟩
    · cases List.mem_cons.mp hin with
      | inl hnew =>
          subst hnew
          simp [FbCall.Overwrites, hown]
      | inr hold => exact hlog call hold
    · exact ⟨h.owned.nodup, h.owned.nonzero, h.owned.pixmap, h.owned.rotate⟩

/-- **Rotation shadows.** -/
theorem keeps_rotate (held : List Nat) (ids : FbIds) (s : Drmmode) (i : Nat)
    (call : RotateCall) : Keeps held s (call.apply ids i s) := by
  cases call with
  | allocate createOk addFbOk =>
      simp only [RotateCall.apply, drmmodeShadowAllocate, drmModeAddFB]
      cases createOk <;> cases addFbOk
      · exact Keeps.refl s
      · exact Keeps.refl s
      · exact Keeps.refl s
      · apply Keeps.of_calls_eq
        · rfl
        · intro h
          refine ⟨(h.owned.addFB ids (.rotate i)).setCrtc i _ fun crtc _ _ => ?_, ?_⟩
          · exact List.mem_cons_self
          · exact h.front
  | destroy data =>
      simp only [RotateCall.apply, drmmodeShadowDestroy]
      split
      · exact Keeps.refl s
      · next crtc hi =>
          cases data with
          | false => exact Keeps.refl s
          | true =>
              apply Keeps.of_calls_eq
              · rfl
              · intro h
                have hid : crtc.rotateFbId ≠ 0 → (crtc.rotateFbId, .rotate i) ∈ s.fbs :=
                  h.owned.rotate i crtc hi
                have hsub := FbOwned.rm_sublist s crtc.rotateFbId
                refine ⟨⟨?_, ?_, ?_, ?_⟩, ?_⟩
                · exact h.owned.nodup.sublist hsub
                · exact fun hin => h.owned.nonzero (hsub.subset hin)
                · exact fun p hp => h.owned.mem_rmFB hid (h.owned.pixmap p hp) nofun
                · intro j other hj hrot
                  simp only [if_true, Drmmode.setCrtc, List.getElem?_modify] at hj
                  obtain ⟨old, hold, hnew⟩ := Option.map_eq_some_iff.mp hj
                  by_cases hij : i = j
                  · rw [if_pos hij] at hnew
                    subst hnew
                    exact absurd rfl hrot
                  · rw [if_neg hij] at hnew
                    subst hnew
                    have hne : FbOwner.rotate j ≠ .rotate i := fun heq =>
                      hij (FbOwner.rotate.inj heq).symm
                    exact h.owned.mem_rmFB hid (h.owned.rotate j old hold hrot) hne
                · have hother : FbOwner.rotate i ≠ .front := nofun
                  exact (h.owned.fronts_rm_other hother hid).trans h.front

/-- Mode sets keep it. -/
theorem keeps_closed (held : List Nat) (ids : FbIds) : Closed ids (Keeps held) where
  refl := Keeps.refl
  trans := Keeps.trans
  withMode := fun s i _ => Keeps.setCrtc s i _ fun _ => rfl
  needModeset := fun s i _ => Keeps.setCrtc s i _ fun _ => rfl
  rotate := keeps_rotate held ids
  getFbId := fun s _ crtc importOk _ => keeps_getFbId held ids s crtc importOk

/-! ## Freeing and resizing -/

theorem FbInv.front_mem {held : List Nat} {s : Drmmode} (h : FbInv held s) (hset : s.fbId ≠ 0) :
    s.fbId ∈ fronts s := by
  rw [h.front, named, if_neg hset]
  exact List.mem_cons_self

/-- `drmmode_free_bos` removes the one framebuffer of the front buffer. -/
theorem fronts_freeBos {s : Drmmode} (h : FbInv [] s) : fronts (drmmodeFreeBos s) = [] := by
  have hfront := h.front
  rw [List.append_nil] at hfront
  unfold drmmodeFreeBos
  by_cases hset : s.fbId = 0
  · rw [if_neg (not_not.mpr hset), hfront, named, if_pos hset]
  · rw [if_pos hset]
    show fronts (drmModeRmFB s s.fbId) = []
    rw [fronts_rmFB, hfront, named, if_neg hset]
    simp

theorem keeps_freeBos (s : Drmmode) : Keeps [] s (drmmodeFreeBos s) := by
  apply Keeps.of_calls_eq
  · unfold drmmodeFreeBos
    split <;> rfl
  · intro h
    have hfreed := fronts_freeBos h
    unfold drmmodeFreeBos at hfreed ⊢
    by_cases hset : s.fbId = 0
    · rw [if_neg (not_not.mpr hset)]
      exact h
    · rw [if_pos hset] at hfreed ⊢
      have howned := h.owned.rm_front (h.front_mem hset)
      exact ⟨⟨howned.nodup, howned.nonzero, howned.pixmap, howned.rotate⟩, hfreed⟩

/-- When a resize has succeeded the old framebuffer goes. -/
theorem FbInv.rm_held {s : Drmmode} {old : Nat} (h : FbInv [old] s) :
    FbInv [] (drmModeRmFB s old) := by
  have hmem : old ∈ fronts s := by
    rw [h.front]
    exact List.mem_append_right _ List.mem_cons_self
  refine ⟨h.owned.rm_front hmem, ?_⟩
  have hsub : (fronts s).Sublist (s.fbs.map Prod.fst) := List.Sublist.map _ List.filter_sublist
  have hnodup := h.owned.nodup.sublist hsub
  rw [h.front] at hnodup
  have hnew : ∀ id ∈ named s.fbId, id ≠ old := fun id hid =>
    (List.nodup_append.mp hnodup).2.2 id hid old List.mem_cons_self
  rw [fronts_rmFB, h.front, List.filter_append]
  show _ = named s.fbId ++ []
  congr 1
  · apply List.filter_eq_self.mpr
    exact fun id hid => decide_eq_true (hnew id hid)
  · simp

/-- **Resizing.** While the CRTCs are set the old framebuffer is held beside the new one. -/
theorem keeps_resize (ids : FbIds) (s : Drmmode) (width height : Nat) (a : ResizeAnswer) :
    Keeps [] s (drmmodeXf86crtcResize ids s width height a).1 := by
  have hsame : ∀ t : Drmmode, t.calls = s.calls → t.fbs = s.fbs → t.fbId = s.fbId →
      t.pixmapFb = s.pixmapFb → t.crtcs = s.crtcs → Keeps [] s t := by
    intro t hcalls hfbs hid hpixmap hcrtcs
    apply Keeps.of_calls_eq hcalls
    intro h
    obtain ⟨⟨hnodup, hnonzero, hpix, hrot⟩, hfront⟩ := h
    have hfronts : fronts t = fronts s := by
      unfold fronts
      rw [hfbs]
    refine ⟨⟨?_, ?_, ?_, ?_⟩, ?_⟩
    · rwa [hfbs]
    · rwa [hfbs]
    · rwa [hfbs, hpixmap]
    · rwa [hfbs, hcrtcs]
    · rwa [hfronts, hid]
  simp only [drmmodeXf86crtcResize, modifyPixmapHeader_crtcs]
  split
  · exact Keeps.refl s
  · split
    · exact hsame _ rfl rfl rfl rfl rfl
    · split
      · exact hsame _ rfl rfl rfl rfl rfl
      · split
        · exact hsame _ rfl rfl rfl rfl rfl
        · have hmodes := (keeps_closed (named s.fbId) ids).resize a.modes
            (List.range s.crtcs.length)
            (modifyPixmapHeader { s with fbId := 0, virtualX := width, virtualY := height }
              width height)
          have hbegin : FbInv [] s → FbInv (named s.fbId)
              (modifyPixmapHeader { s with fbId := 0, virtualX := width, virtualY := height }
                width height) := by
            intro h
            have hfront := h.front
            rw [List.append_nil] at hfront
            exact ⟨⟨h.owned.nodup, h.owned.nonzero, h.owned.pixmap, h.owned.rotate⟩, hfront⟩
          generalize resizeCrtcs ids a.modes (List.range s.crtcs.length) _ = t at hmodes ⊢
          split
          · next hset =>
              refine ⟨hmodes.calls, hmodes.log, fun hnone h => ?_⟩
              have hheld := hmodes.inv hnone (hbegin h)
              rw [named, if_neg hset] at hheld
              exact hheld.rm_held
          · next hset =>
              refine ⟨hmodes.calls, hmodes.log, fun hnone h => ?_⟩
              have hheld := hmodes.inv hnone (hbegin h)
              rwa [named, if_pos (not_not.mp hset)] at hheld

/-! ## Shared pixmaps -/

theorem keeps_dropTargetGpu (s : Drmmode) (i : Nat) (crtc : Crtc) :
    Keeps [] s (dropTargetGpu s i crtc) := by
  unfold dropTargetGpu
  split
  · exact (keeps_freeBos s).trans (Keeps.setCrtc (drmmodeFreeBos s) i _ fun _ => rfl)
  · exact Keeps.refl s

theorem keeps_setTargetGpu (ids : FbIds) (s : Drmmode) (i : Nat) (ppix : Option Ppix)
    (a : ResizeAnswer) : Keeps [] s (drmmodeSetTargetScanoutPixmapGpu ids s i ppix a).1 := by
  simp only [drmmodeSetTargetScanoutPixmapGpu]
  split
  · exact Keeps.refl s
  · next crtc _ =>
      have hdrop := keeps_dropTargetGpu s i crtc
      generalize dropTargetGpu s i crtc = t at hdrop ⊢
      cases ppix with
      | none => exact hdrop
      | some ppix =>
          simp only
          have hresize := keeps_resize ids t (boundingBox i ppix 0 t.crtcs ⟨0, 0, 0⟩).totalWidth
            (boundingBox i ppix 0 t.crtcs ⟨0, 0, 0⟩).maxHeight a
          generalize boundingBox i ppix 0 t.crtcs ⟨0, 0, 0⟩ = box at hresize ⊢
          split
          · split
            · next heq =>
                rw [heq] at hresize
                exact hdrop.trans hresize
            · next u heq =>
                rw [heq] at hresize
                have hsize : Keeps [] u { u with
                    screenWidth := toCard16 box.totalWidth,
                    screenHeight := toCard16 box.maxHeight } :=
                  ⟨List.suffix_rfl, fun h => h, fun _ h =>
                    ⟨⟨h.owned.nodup, h.owned.nonzero, h.owned.pixmap, h.owned.rotate⟩, h.front⟩⟩
                exact hdrop.trans (hresize.trans (hsize.trans (Keeps.setCrtc _ i _ fun _ => rfl)))
          · exact hdrop.trans (Keeps.setCrtc t i _ fun _ => rfl)

/-- A pixmap's framebuffer and the pixmap's record go together. -/
theorem keeps_dropTargetCpu (s : Drmmode) (i : Nat) (crtc : Crtc) :
    Keeps [] s (dropTargetCpu s i crtc) := by
  unfold dropTargetCpu
  split
  · exact Keeps.refl s
  · next old _ =>
      refine Keeps.trans ?_ (Keeps.setCrtc _ i _ fun _ => rfl)
      apply Keeps.of_calls_eq
      · rfl
      · intro h
        have hid := h.owned.pixmap old.id
        have hsub := FbOwned.rm_sublist s (s.pixmapFb old.id)
        refine ⟨⟨?_, ?_, ?_, ?_⟩, ?_⟩
        · exact h.owned.nodup.sublist hsub
        · exact fun hin => h.owned.nonzero (hsub.subset hin)
        · intro p hp
          by_cases hold : p = old.id
          · subst hold
            exact absurd (Function.update_self ..) hp
          · simp only [Function.update_of_ne hold] at hp ⊢
            have hne : FbOwner.pixmap p ≠ .pixmap old.id := fun heq =>
              hold (FbOwner.pixmap.inj heq)
            exact h.owned.mem_rmFB hid (h.owned.pixmap p hp) hne
        · exact fun j other hj hrot => h.owned.mem_rmFB hid (h.owned.rotate j other hj hrot) nofun
        · have hother : FbOwner.pixmap old.id ≠ .front := nofun
          exact (h.owned.fronts_rm_other hother hid).trans h.front

theorem keeps_addPixmapFb (ids : FbIds) (s : Drmmode) (ppix : Ppix) (addFbOk : Bool) :
    Keeps [] s (addPixmapFb ids s ppix addFbOk) := by
  unfold addPixmapFb drmModeAddFB
  split
  · cases addFbOk with
    | false => exact Keeps.refl s
    | true =>
        apply Keeps.of_calls_eq
        · rfl
        · intro h
          have hadd := h.owned.addFB ids (.pixmap ppix.id)
          refine ⟨⟨hadd.nodup, hadd.nonzero, fun p hp => ?_, hadd.rotate⟩, h.front⟩
          by_cases hnew : p = ppix.id
          · subst hnew
            simp only [if_true, Function.update_self]
            exact List.mem_cons_self
          · simp only [if_true, Function.update_of_ne hnew] at hp ⊢
            exact hadd.pixmap p hp
  · exact Keeps.refl s

theorem keeps_setTargetCpu (ids : FbIds) (s : Drmmode) (i : Nat) (ppix : Option Ppix)
    (addFbOk : Bool) :
    Keeps [] s (drmmodeSetTargetScanoutPixmapCpu ids s i ppix addFbOk).1 := by
  simp only [drmmodeSetTargetScanoutPixmapCpu]
  split
  · exact Keeps.refl s
  · next crtc _ =>
      have hdrop := keeps_dropTargetCpu s i crtc
      cases ppix with
      | none => exact hdrop
      | some ppix =>
          exact hdrop.trans ((keeps_addPixmapFb ids _ ppix addFbOk).trans
            (Keeps.setCrtc _ i _ fun _ => rfl))

theorem keeps_setScanoutPixmap (ids : FbIds) (s : Drmmode) (i : Nat) (ppix : Option Ppix)
    (addFbOk : Bool) (a : ResizeAnswer) :
    Keeps [] s (drmmodeSetScanoutPixmap ids s i ppix addFbOk a).1 := by
  simp only [drmmodeSetScanoutPixmap]
  split
  · exact Keeps.refl s
  · split
    · exact Keeps.refl s
    · unfold drmmodeSetTargetScanoutPixmap
      split
      · exact keeps_setTargetGpu ids s i ppix a
      · exact keeps_setTargetCpu ids s i ppix addFbOk

/-! ## Runs -/

/-- **Step.** -/
theorem keeps_scanoutStep (ids : FbIds) (s : Drmmode) (op : ScanoutOp) :
    Keeps [] s (scanoutStep ids s op) := by
  have hclosed := keeps_closed [] ids
  cases op with
  | crtcSetMode i testOnly importOk commitOk =>
      exact hclosed.crtcSetMode s i testOnly importOk commitOk
  | setModeMajor i mode a => exact hclosed.setModeMajor s i mode a
  | setDpms dpmsOn active importOk => exact hclosed.dpms dpmsOn active importOk _ s
  | setScanoutPixmap i ppix addFbOk a => exact keeps_setScanoutPixmap ids s i ppix addFbOk a
  | resize width height a => exact keeps_resize ids s width height a
  | rotate i call => exact hclosed.rotate s i call
  | setEnabled i enabled => exact Keeps.setCrtc s i _ fun _ => rfl
  | needModeset i => exact hclosed.needModeset s i true
  | freeBos => exact keeps_freeBos s

/-- **Run.** -/
theorem keeps_run (ids : FbIds) (ops : List ScanoutOp) (s : Drmmode) :
    Keeps [] s (run (scanoutStep ids) s ops) := by
  induction ops generalizing s with
  | nil => exact Keeps.refl s
  | cons op ops ih => exact (keeps_scanoutStep ids s op).trans (ih _)

theorem start_fbInv (numCrtc : Nat) (reverse atomicModeset : Bool) (width height : Nat) :
    FbInv [] (Drmmode.start numCrtc reverse atomicModeset width height) := by
  refine ⟨⟨List.nodup_nil, List.not_mem_nil, fun p hp => absurd rfl hp, ?_⟩, rfl⟩
  intro i crtc hi hrot
  have hnew : crtc = Crtc.new := List.eq_of_mem_replicate (List.mem_of_getElem? hi)
  subst hnew
  exact absurd rfl hrot

/-- The property follows from the invariant when no call overwrites. -/
theorem frontFb_of_inv {s : Drmmode} (hlog : LogExact s) (hnone : NoneOverwrites s)
    (h : FbInv [] s) : FrontFb s where
  wasZero := by
    intro call hin hregistered
    by_contra hset
    exact hnone call hin ((hlog call hin).mp ⟨hregistered, hset⟩)
  front := h.front.trans (List.append_nil _)
  freed := fronts_freeBos h

/-- **The front buffer's framebuffer.** In every run it is registered only while
`drmmode->fb_id` is zero, and named by it, if and only if no call of
`drmmode_crtc_get_fb_id` finds a shared pixmap without an id of its own while
`drmmode->fb_id` is set and then succeeds in the import. -/
theorem frontFb_iff (ids : FbIds) (numCrtc : Nat) (reverse atomicModeset : Bool)
    (width height : Nat) (ops : List ScanoutOp) :
    Always (scanoutStep ids) FrontFb
        (Drmmode.start numCrtc reverse atomicModeset width height) ops ↔
      ∀ call ∈ (run (scanoutStep ids)
        (Drmmode.start numCrtc reverse atomicModeset width height) ops).calls,
        ¬ call.Overwrites := by
  have hstart := start_fbInv numCrtc reverse atomicModeset width height
  have hempty : LogExact (Drmmode.start numCrtc reverse atomicModeset width height) :=
    fun call hin => by cases hin
  generalize Drmmode.start numCrtc reverse atomicModeset width height = s at hstart hempty ⊢
  constructor
  · intro halways call hin hoverwrites
    obtain ⟨hregistered, hset⟩ := ((keeps_run ids ops s).log hempty call hin).mpr hoverwrites
    exact hset (halways.last.wasZero call hin hregistered)
  · intro hnone
    apply always_iff_prefix.mpr
    rintro pre ⟨rest, hrest⟩
    have hpre := keeps_run ids pre s
    have hcalls := (keeps_run ids rest (run (scanoutStep ids) s pre)).calls
    rw [← run_append, hrest] at hcalls
    have hnonePre : NoneOverwrites (run (scanoutStep ids) s pre) := fun call hin =>
      hnone call (hcalls.subset hin)
    exact frontFb_of_inv (hpre.log hempty) hnonePre (hpre.inv hnonePre hstart)

/-- **Two mode sets.** In `reverse_prime_offload_mode` a CRTC with a scanout pixmap is set
twice.  The second import overwrites the first framebuffer's id, and the first framebuffer
is never removed. -/
theorem second_mode_set_overwrites :
    let s := run (scanoutStep .above) (Drmmode.start 1 true false 640 480)
      [.setScanoutPixmap 0 (some ⟨7, 640, 480⟩) true .granted,
        .setModeMajor 0 ⟨640, 480, 0, 0⟩ .granted, .setModeMajor 0 ⟨640, 480, 0, 0⟩ .granted]
    s.fbId = 2 ∧ fronts s = [2, 1] ∧ fronts (drmmodeFreeBos s) = [1] ∧ ¬ FrontFb s := by
  refine ⟨by decide, by decide, by decide, fun h => ?_⟩
  have hfreed := h.freed
  revert hfreed
  decide

end LoongsonVideo.Driver.Scanout
