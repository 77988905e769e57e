import LoongsonVideo.Driver.Dri2Frames
import LoongsonVideo.Driver.Dri2References

/-!
# References of swaps

A record of a swap has a reference on each of its buffers from `ms_dri2_schedule_swap` to
`ms_dri2_del_frame_event`.  DRI2 counts its own references.

* `perform_preserves`: what the handlers keep, however deep they are nested.
* `references_counted_iff`: pixmaps and buffers live exactly as long as there are references, as
  long as the kernel refuses no request.
-/

namespace LoongsonVideo.Driver.Dri2Frames

open LoongsonVideo.Driver.Dri2Buffers
open LoongsonVideo.Verified
open LoongsonVideo.Verified.Ledger
open LoongsonVideo.Verified.Machine

variable {V : Type*}

/-! ## The property and the condition -/

/-- The driver's references, two for each record. -/
def frameRefs (frames : Pending SwapInfo) : Multiset Nat :=
  (frames.requests.map SwapInfo.front : List Nat) + (frames.requests.map SwapInfo.back : List Nat)

/-- **The property**: nothing has been used that is no longer there, each count is the number of
the references, those of DRI2 and two for each record, and a record that is left waits for its
event. -/
structure Counted (s : FrameState V) : Prop where
  safe : s.store.fault = false
  pixmaps : Counts s.store.pixmaps s.store.holders
  buffers : Counts s.store.buffers (s.dri2 + frameRefs s.frames)
  mem : Owns s.store.mem s.store.owned
  queued : ∀ k info, s.frames.find? k = some info → info.queued = true

/-- The kernel is asked for an event and refuses. -/
def SwapAnswer.refused (answer : SwapAnswer) : Bool :=
  answer.crtc && answer.callocOk && answer.registered && answer.mscOk && answer.seqOk &&
    !answer.queued

/-- **The condition**: the kernel refuses no request of a swap. -/
def Accepted (s : FrameState V) : FrameAct V → Prop
  | .scheduleSwap windows draw front back _ answer =>
      SwapAsked s windows draw front back → answer.refused = false
  | _ => True

/-! ## The references of the records -/

section Refs

variable {frames : Pending SwapInfo} {k : Nat} {info : SwapInfo}

theorem frameRefs_alloc (frames : Pending SwapInfo) (info : SwapInfo) :
    frameRefs (frames.alloc info) = info.back ::ₘ info.front ::ₘ frameRefs frames := by
  show ((info.front :: frames.requests.map SwapInfo.front : List Nat) : Multiset Nat) +
    ((info.back :: frames.requests.map SwapInfo.back : List Nat) : Multiset Nat) = _
  rw [← Multiset.cons_coe, ← Multiset.cons_coe, Multiset.cons_add, Multiset.add_cons,
    Multiset.cons_swap]
  rfl

theorem frameRefs_remove (hfind : frames.find? k = some info) :
    frameRefs frames = info.front ::ₘ info.back ::ₘ frameRefs (frames.remove k) := by
  have hperm := Pending.perm_remove hfind
  have hfront : ((frames.requests.map SwapInfo.front : List Nat) : Multiset Nat) =
      info.front ::ₘ ((frames.remove k).requests.map SwapInfo.front : List Nat) :=
    Multiset.coe_eq_coe.mpr (hperm.map SwapInfo.front)
  have hback : ((frames.requests.map SwapInfo.back : List Nat) : Multiset Nat) =
      info.back ::ₘ ((frames.remove k).requests.map SwapInfo.back : List Nat) :=
    Multiset.coe_eq_coe.mpr (hperm.map SwapInfo.back)
  rw [frameRefs, hfront, hback, Multiset.cons_add, Multiset.add_cons]
  rfl

/-- The buffers of a record. -/
theorem mem_frameRefs (hfind : frames.find? k = some info) :
    info.front ∈ frameRefs frames ∧ info.back ∈ frameRefs frames := by
  rw [frameRefs_remove hfind]
  exact ⟨Multiset.mem_cons_self _ _, Multiset.mem_cons_of_mem (Multiset.mem_cons_self _ _)⟩

theorem frameRefs_modify (frames : Pending SwapInfo) (k : Nat) {f : SwapInfo → SwapInfo}
    (hf : ∀ info, (f info).front = info.front ∧ (f info).back = info.back) :
    frameRefs (frames.modify k f) = frameRefs frames := by
  rw [frameRefs, Pending.map_requests_modify k fun info => (hf info).1,
    Pending.map_requests_modify k fun info => (hf info).2]
  rfl

end Refs

/-! ## What the buffers of other swaps keep -/

/-- The front buffer has the drawable's pixmap, and the back buffer's is as large. -/
structure Ready (t : Dri2State V) (draw : Drawable) (front back : Nat) : Prop where
  pixmap : (t.buffer front).pixmap = draw.pixmap
  size : (t.pixmap draw.pixmap).size = (t.pixmap (t.buffer back).pixmap).size

/-- What the handlers do to the buffers that a swap has.  It is ready to flip afterwards, if it was
before. -/
structure Steady (windows : Windows) (t t' : Dri2State V) : Prop where
  held : t'.held = t.held
  refs : ∀ b ∈ t'.refs, b ∈ t.refs
  attachment : ∀ b ∈ t'.refs, (t'.buffer b).attachment = (t.buffer b).attachment
  ready : ∀ draw front back, Swapping t' draw front back → windows.lookup front = some draw →
    Ready t draw front back → Ready t' draw front back

section Steady

variable {windows : Windows} {t t' t'' : Dri2State V}

theorem Steady.swapping (h : Steady windows t t') {draw : Drawable} {front back : Nat}
    (hswap : Swapping t' draw front back) : Swapping t draw front back where
  drawHeld := h.held ▸ hswap.drawHeld
  frontHeld := h.refs front hswap.frontHeld
  backHeld := h.refs back hswap.backHeld
  frontLeft := (h.attachment front hswap.frontHeld).symm.trans hswap.frontLeft
  backLeft := (h.attachment back hswap.backHeld).symm.trans hswap.backLeft

theorem Steady.refl (windows : Windows) (t : Dri2State V) : Steady windows t t :=
  ⟨rfl, fun _ hb => hb, fun _ _ => rfl, fun _ _ _ _ _ hready => hready⟩

theorem Steady.trans (h : Steady windows t t') (h' : Steady windows t' t'') :
    Steady windows t t'' where
  held := h'.held.trans h.held
  refs := fun b hb => h.refs b (h'.refs b hb)
  attachment := fun b hb => (h'.attachment b hb).trans (h.attachment b (h'.refs b hb))
  ready := fun draw front back hswap hwindow hready =>
    h'.ready draw front back hswap hwindow
      (h.ready draw front back (h'.swapping hswap) hwindow hready)

theorem steady_cells (windows : Windows) (t : Dri2State V) (cells : Nat → Int × Int → V) :
    Steady windows t { t with cells := cells } :=
  ⟨rfl, fun _ hb => hb, fun _ _ => rfl, fun _ _ _ _ _ hready => ⟨hready.pixmap, hready.size⟩⟩

theorem steady_updated {draw : Drawable} {front : Nat} (h : Updated t t' draw front)
    (hfront : (t.buffer front).attachment = dri2BufferFrontLeft)
    (hwindow : windows.lookup front = some draw) : Steady windows t t' where
  held := h.held
  refs := fun b hb => h.refs ▸ hb
  attachment := fun b _ => h.attachment b
  ready := by
    intro draw' front' back' hswap hwindow' hready
    have hne : back' ≠ front := by
      rintro rfl
      have hback := hswap.backLeft
      rw [h.attachment, hfront] at hback
      exact absurd hback (by decide)
    have hback := h.inv.buffer_mem hswap.backHeld
    rw [h.back hne] at hback
    refine ⟨?_, ?_⟩
    · by_cases hsame : front' = front
      · subst hsame
        cases hwindow.symm.trans hwindow'
        rw [h.front]
        rfl
      · rw [h.back hsame]
        exact hready.pixmap
    · rw [h.back hne, h.pixmap_eq (mem_holders_of_held hswap.drawHeld), h.pixmap_eq hback]
      exact hready.size

theorem steady_exchanged {front back : Nat} (h : Exchanged t t' front back) (hinv : Inv t) :
    Steady windows t t' where
  held := h.held
  refs := fun b hb => h.refs ▸ hb
  attachment := fun b hb => (h.buffer hinv (h.refs ▸ hb)).1
  ready := by
    intro draw front' back' hswap _ hready
    have hfront := h.refs ▸ hswap.frontHeld
    have hback := h.refs ▸ hswap.backHeld
    refine ⟨(h.buffer hinv hfront).2.trans hready.pixmap, ?_⟩
    rw [(h.buffer hinv hback).2, h.size _ (mem_holders_of_held (h.held ▸ hswap.drawHeld)),
      h.size _ (hinv.buffer_mem hback)]
    exact hready.size

/-- A reference that is given back leaves the buffers that are still there as they were. -/
theorem steady_destroyBuffer (hinv : Inv t) {b : Nat} (hb : b ∈ t.refs) :
    Steady windows t (msDri2DestroyBuffer2 t b) := by
  have hinv' := hinv.destroyBuffer hb
  have hrefs := destroyBuffer_refs hinv hb
  have hbuffer : ∀ j ∈ (msDri2DestroyBuffer2 t b).refs,
      (msDri2DestroyBuffer2 t b).buffer j = t.buffer j := by
    intro j hj
    obtain ⟨d, hd⟩ := hinv'.buffers.get hj
    rw [Dri2State.buffer, Dri2State.buffer, hd, get_destroyBuffer_buffers hd]
  have hpixmap : ∀ p ∈ (msDri2DestroyBuffer2 t b).holders,
      (msDri2DestroyBuffer2 t b).pixmap p = t.pixmap p := by
    intro p hp
    obtain ⟨d, hd⟩ := hinv'.pixmaps.get hp
    rw [pixmap_eq hd, pixmap_eq (get_destroyBuffer_pixmaps hd)]
  refine ⟨destroyBuffer_held t b, fun j hj => ?_, fun j hj => ?_, ?_⟩
  · rw [hrefs] at hj
    exact Multiset.mem_of_mem_erase hj
  · rw [hbuffer j hj]
  · intro draw front back hswap _ hready
    have hback := hinv'.buffer_mem hswap.backHeld
    rw [hbuffer back hswap.backHeld] at hback
    refine ⟨?_, ?_⟩
    · rw [hbuffer front hswap.frontHeld]
      exact hready.pixmap
    · rw [hbuffer back hswap.backHeld, hpixmap _ (mem_holders_of_held hswap.drawHeld),
        hpixmap _ hback]
      exact hready.size

end Steady

/-! ## The invariant -/

/-- **The invariant**: that of the buffers, with DRI2's references and those of the records, and a
record has a front and a back buffer. -/
structure Sound (s : FrameState V) : Prop where
  inv : Inv s.store
  refs : s.store.refs = s.dri2 + frameRefs s.frames
  sides : ∀ k info, s.frames.find? k = some info →
    (s.store.buffer info.front).attachment = dri2BufferFrontLeft ∧
      (s.store.buffer info.back).attachment = dri2BufferBackLeft

/-- What handlers leave alone: the records that are not queued, those of the functions that are
still running. -/
structure Later (windows : Windows) (s s' : FrameState V) : Prop where
  dri2 : s'.dri2 = s.dri2
  kept : ∀ k info, s.frames.find? k = some info → info.queued = false →
    s'.frames.find? k = some info
  old : ∀ k info, s'.frames.find? k = some info → info.queued = false →
    s.frames.find? k = some info
  steady : Steady windows s.store s'.store

/-- A handler that keeps all that it should. -/
def Preserves (windows : Windows) (f : FrameState V → FrameState V) : Prop :=
  ∀ s, Sound s → WindowsHeld s windows → Sound (f s) ∧ Later windows s (f s)

section Rules

variable {windows : Windows} {s s' s'' : FrameState V} {k : Nat} {info : SwapInfo}

theorem Later.refl (windows : Windows) (s : FrameState V) : Later windows s s :=
  ⟨rfl, fun _ _ hfind _ => hfind, fun _ _ hfind _ => hfind, .refl windows s.store⟩

theorem Later.trans (h : Later windows s s') (h' : Later windows s' s'') :
    Later windows s s'' where
  dri2 := h'.dri2.trans h.dri2
  kept := fun k info hfind hqueued => h'.kept k info (h.kept k info hfind hqueued) hqueued
  old := fun k info hfind hqueued => h.old k info (h'.old k info hfind hqueued) hqueued
  steady := h.steady.trans h'.steady

theorem WindowsHeld.later (h : WindowsHeld s windows) (hlater : Later windows s s') :
    WindowsHeld s' windows := fun window hin => hlater.steady.held ▸ h window hin

theorem WindowsHeld.lookup (h : WindowsHeld s windows) {front : Nat} {draw : Drawable}
    (hwindow : windows.lookup front = some draw) : draw.pixmap ∈ s.store.held := by
  obtain ⟨before, after, rfl, -⟩ := List.lookup_eq_some_iff.mp hwindow
  exact h (front, draw) (List.mem_append_right before List.mem_cons_self)

/-- A record has two of the references. -/
theorem Sound.refs_eq (h : Sound s) (hfind : s.frames.find? k = some info) :
    s.store.refs = info.front ::ₘ info.back ::ₘ (s.dri2 + frameRefs (s.frames.remove k)) := by
  rw [h.refs, frameRefs_remove hfind, Multiset.add_cons, Multiset.add_cons]

theorem Sound.mem_refs (h : Sound s) (hfind : s.frames.find? k = some info) :
    info.front ∈ s.store.refs ∧ info.back ∈ s.store.refs := by
  obtain ⟨hfront, hback⟩ := mem_frameRefs hfind
  rw [h.refs]
  exact ⟨Multiset.mem_add.mpr (Or.inr hfront), Multiset.mem_add.mpr (Or.inr hback)⟩

theorem Sound.swapping (h : Sound s) (hfind : s.frames.find? k = some info) {draw : Drawable}
    (hdraw : draw.pixmap ∈ s.store.held) : Swapping s.store draw info.front info.back where
  drawHeld := hdraw
  frontHeld := (h.mem_refs hfind).1
  backHeld := (h.mem_refs hfind).2
  frontLeft := (h.sides k info hfind).1
  backLeft := (h.sides k info hfind).2

/-- Work on the buffers that takes and gives no reference. -/
theorem Sound.work (h : Sound s) {t : Dri2State V} (hinv : Inv t) (hrefs : t.refs = s.store.refs)
    (hattachment : ∀ b ∈ t.refs, (t.buffer b).attachment = (s.store.buffer b).attachment) :
    Sound { s with store := t } where
  inv := hinv
  refs := hrefs.trans h.refs
  sides := by
    intro k info hfind
    obtain ⟨hfront, hback⟩ := h.mem_refs hfind
    rw [← hrefs] at hfront hback
    obtain ⟨hleft, hright⟩ := h.sides k info hfind
    exact ⟨(hattachment _ hfront).trans hleft, (hattachment _ hback).trans hright⟩

theorem Sound.steady (h : Sound s) (windows : Windows) {t : Dri2State V} (hinv : Inv t)
    (hrefs : t.refs = s.store.refs) (hsteady : Steady windows s.store t) :
    Sound { s with store := t } ∧ Later windows s { s with store := t } :=
  ⟨h.work hinv hrefs hsteady.attachment,
    ⟨rfl, fun _ _ hfind _ => hfind, fun _ _ hfind _ => hfind, hsteady⟩⟩

/-- A change that leaves a record its buffers. -/
theorem Sound.modify (h : Sound s) (k : Nat) {f : SwapInfo → SwapInfo}
    (hf : ∀ info, (f info).front = info.front ∧ (f info).back = info.back) :
    Sound { s with frames := s.frames.modify k f } where
  inv := h.inv
  refs := h.refs.trans (congrArg (s.dri2 + ·) (frameRefs_modify s.frames k hf).symm)
  sides := by
    intro j info hfind
    rw [Pending.find?_modify] at hfind
    by_cases hj : j = k
    · rw [if_pos hj] at hfind
      obtain ⟨old, hold, rfl⟩ := Option.map_eq_some_iff.mp hfind
      rw [(hf old).1, (hf old).2]
      exact h.sides j old hold
    · rw [if_neg hj] at hfind
      exact h.sides j info hfind

theorem Sound.setQueued (h : Sound s) (k : Nat) (queued : Bool) : Sound (s.setQueued k queued) :=
  h.modify k fun _ => ⟨rfl, rfl⟩

theorem useFrame_of_find (hfind : s.frames.find? k = some info) : s.useFrame k = s :=
  if_pos (Option.isSome_of_mem hfind)

/-! ## Handlers -/

theorem Sound.blit (h : Sound s) (windows : Windows) {draw : Drawable} {front back : Nat}
    (hswap : Swapping s.store draw front back) (gcOk : Bool) :
    Sound (s.blit draw front back gcOk) ∧ Later windows s (s.blit draw front back gcOk) := by
  obtain ⟨cells, hcells⟩ := h.inv.blitSwap hswap.drawHeld hswap.frontHeld hswap.backHeld gcOk
  rw [FrameState.blit, hcells]
  exact h.steady windows (h.inv.cells cells) rfl (steady_cells windows s.store cells)

/-- **`ms_dri2_del_frame_event`** gives the record's references back. -/
theorem Sound.del (h : Sound s) (windows : Windows) (hfind : s.frames.find? k = some info) :
    Sound (msDri2DelFrameEvent s k) ∧ (msDri2DelFrameEvent s k).dri2 = s.dri2 ∧
      (msDri2DelFrameEvent s k).frames = s.frames.remove k ∧
      Steady windows s.store (msDri2DelFrameEvent s k).store := by
  have hrefs := h.refs_eq hfind
  have hfront := (h.mem_refs hfind).1
  have hinv := h.inv.destroyBuffer hfront
  have hrefs' : (msDri2DestroyBuffer2 s.store info.front).refs =
      info.back ::ₘ (s.dri2 + frameRefs (s.frames.remove k)) := by
    rw [destroyBuffer_refs h.inv hfront, hrefs, Multiset.erase_cons_head]
  have hback : info.back ∈ (msDri2DestroyBuffer2 s.store info.front).refs := by
    rw [hrefs']
    exact Multiset.mem_cons_self _ _
  have hsteady : Steady windows s.store
      (msDri2DestroyBuffer2 (msDri2DestroyBuffer2 s.store info.front) info.back) :=
    (steady_destroyBuffer h.inv hfront).trans (steady_destroyBuffer hinv hback)
  have hrefs'' : (msDri2DestroyBuffer2 (msDri2DestroyBuffer2 s.store info.front) info.back).refs =
      s.dri2 + frameRefs (s.frames.remove k) := by
    rw [destroyBuffer_refs hinv hback, hrefs', Multiset.erase_cons_head]
  unfold msDri2DelFrameEvent
  rw [hfind]
  refine ⟨⟨hinv.destroyBuffer hback, hrefs'', fun j other hother => ?_⟩, rfl, rfl, hsteady⟩
  have hne : j ≠ k := by
    rintro rfl
    rw [Pending.find?_remove_self] at hother
    cases hother
  obtain ⟨hleft, hright⟩ := h.sides j other ((Pending.find?_remove_ne hne).symm.trans hother)
  obtain ⟨hfront', hback'⟩ := mem_frameRefs hother
  have hrest : ∀ {b}, b ∈ frameRefs (s.frames.remove k) →
      b ∈ (msDri2DestroyBuffer2 (msDri2DestroyBuffer2 s.store info.front) info.back).refs :=
    fun hb => hrefs''.symm ▸ Multiset.mem_add.mpr (Or.inr hb)
  exact ⟨(hsteady.attachment _ (hrest hfront')).trans hleft,
    (hsteady.attachment _ (hrest hback')).trans hright⟩

/-- The swap of a record whose handler runs. -/
theorem handleSwap_spec {flushed : FrameState V → FrameState V} (hf : Preserves windows flushed)
    (h : Sound s) (hwindows : WindowsHeld s windows) (hfind : s.frames.find? k = some info)
    (hqueued : info.queued = false) {draw : Drawable}
    (hwindow : windows.lookup info.front = some draw) (env : FlipConditions)
    (scheduled gcOk : Bool) :
    Sound (handleSwap s k info draw env flushed scheduled gcOk) ∧
      Later windows s (handleSwap s k info draw env flushed scheduled gcOk) := by
  have hswap := h.swapping hfind (hwindows.lookup hwindow)
  unfold handleSwap
  cases info.queueFlip with
  | false => exact h.blit windows hswap gcOk
  | true =>
      rw [if_pos rfl]
      rcases h.inv.canFlip hswap env with ⟨t, hcan, hflip⟩ | ⟨t, hcannot, hsame⟩
      · rw [hcan]
        have hswap' := hswap.updated hflip.updated
        have huse := hflip.updated.inv.use (hflip.updated.inv.buffer_mem hswap'.backHeld)
        obtain ⟨hsound, hlater⟩ := h.steady windows hflip.updated.inv
          hflip.updated.refs (steady_updated hflip.updated hswap.frontLeft hwindow)
        have hready : Ready t draw info.front info.back := by
          refine ⟨?_, ?_⟩
          · rw [hflip.updated.front]
            rfl
          · rw [hflip.size, hflip.updated.back hswap.ne]
        simp only [huse]
        -- The handlers that run meanwhile leave the swap ready.
        obtain ⟨hsound', hlater'⟩ := hf _ hsound (hwindows.later hlater)
        have hwindows' := (hwindows.later hlater).later hlater'
        generalize flushed { s with store := t } = u at hsound' hlater' hwindows'
        have hfind' := hlater'.kept k info hfind hqueued
        have hswap'' := hsound'.swapping hfind' (hwindows'.lookup hwindow)
        have hready' := hlater'.steady.ready draw _ _ hswap'' hwindow hready
        rw [useFrame_of_find hfind']
        cases scheduled with
        | false =>
            obtain ⟨hblit, hlater''⟩ := hsound'.blit windows hswap'' gcOk
            exact ⟨hblit, (hlater.trans hlater').trans hlater''⟩
        | true =>
            have hexchanged := hsound'.inv.exchange hswap''.frontHeld hswap''.backHeld
              hswap''.frontLeft (by rw [hswap''.backLeft]; decide)
              (by rw [hready'.pixmap]; exact hready'.size)
            obtain ⟨hdone, hlater''⟩ := hsound'.steady windows hexchanged.inv
              hexchanged.refs (steady_exchanged hexchanged hsound'.inv)
            exact ⟨hdone, (hlater.trans hlater').trans hlater''⟩
      · rw [hcannot]
        rcases hsame with rfl | hupdated
        · exact h.blit windows hswap gcOk
        · obtain ⟨hsound, hlater⟩ := h.steady windows hupdated.inv hupdated.refs
            (steady_updated hupdated hswap.frontLeft hwindow)
          obtain ⟨hblit, hlater'⟩ := hsound.blit windows (hswap.updated hupdated) gcOk
          exact ⟨hblit, hlater.trans hlater'⟩

/-- A call back has freed its record, and keeps the others. -/
structure Removed (windows : Windows) (k : Nat) (s s' : FrameState V) : Prop where
  sound : Sound s'
  dri2 : s'.dri2 = s.dri2
  kept : ∀ j info, j ≠ k → s.frames.find? j = some info → info.queued = false →
    s'.frames.find? j = some info
  old : ∀ j info, s'.frames.find? j = some info → info.queued = false →
    j ≠ k ∧ s.frames.find? j = some info
  steady : Steady windows s.store s'.store

theorem Sound.removed (h : Sound s) (windows : Windows) (hfind : s.frames.find? k = some info) :
    Removed windows k s (msDri2DelFrameEvent s k) := by
  obtain ⟨hsound, hdri2, hframes, hsteady⟩ := h.del windows hfind
  refine ⟨hsound, hdri2, fun j other hne hother _ => ?_, fun j other hother _ => ?_, hsteady⟩
  · rw [hframes, Pending.find?_remove_ne hne]
    exact hother
  · rw [hframes] at hother
    have hne : j ≠ k := by
      rintro rfl
      rw [Pending.find?_remove_self] at hother
      cases hother
    exact ⟨hne, (Pending.find?_remove_ne hne).symm.trans hother⟩

theorem Later.removed (h : Later windows s s') (h' : Removed windows k s' s'') :
    Removed windows k s s'' where
  sound := h'.sound
  dri2 := h'.dri2.trans h.dri2
  kept := fun j info hne hfind hqueued =>
    h'.kept j info hne (h.kept j info hfind hqueued) hqueued
  old := by
    intro j info hfind hqueued
    obtain ⟨hne, hold⟩ := h'.old j info hfind hqueued
    exact ⟨hne, h.old j info hold hqueued⟩
  steady := h.steady.trans h'.steady

/-- **`ms_dri2_frame_event_handler`.** -/
theorem msDri2FrameEventHandler_spec {flushed : FrameState V → FrameState V}
    (hf : Preserves windows flushed) (h : Sound s) (hwindows : WindowsHeld s windows)
    (hfind : s.frames.find? k = some info) (hqueued : info.queued = false) (env : FlipConditions)
    (scheduled gcOk : Bool) :
    Removed windows k s
      (msDri2FrameEventHandler s k (windows.lookup info.front) env flushed scheduled gcOk) := by
  unfold msDri2FrameEventHandler
  rw [hfind]
  cases hwindow : windows.lookup info.front with
  | none => exact h.removed windows hfind
  | some draw =>
      obtain ⟨hsound, hlater⟩ :=
        handleSwap_spec hf h hwindows hfind hqueued hwindow env scheduled gcOk
      exact hlater.removed (hsound.removed windows (hlater.kept k info hfind hqueued))

/-- A call back leaves the records that are not queued alone. -/
theorem called_spec (h : Sound s) (hwindows : WindowsHeld s windows) (k : Nat)
    {f : SwapInfo → FrameState V → FrameState V}
    (hf : ∀ {info : SwapInfo} {s : FrameState V}, Sound s → WindowsHeld s windows →
      s.frames.find? k = some { info with queued := false } → Removed windows k s (f info s)) :
    Sound (s.called k f) ∧ Later windows s (s.called k f) := by
  unfold FrameState.called
  cases hfind : s.frames.find? k with
  | none => exact ⟨h, .refl windows s⟩
  | some info =>
      cases hqueued : info.queued with
      | false =>
          simp only [hqueued, Bool.false_eq_true, if_false]
          exact ⟨h, .refl windows s⟩
      | true =>
          simp only [hqueued, if_true]
          have hremoved := hf (h.setQueued k false) hwindows (Pending.find?_modify_self hfind _)
          have hother : ∀ {j}, j ≠ k → (s.setQueued k false).frames.find? j = s.frames.find? j :=
            fun hne => Pending.find?_modify_ne hne _
          refine ⟨hremoved.sound, hremoved.dri2, fun j other hj hunqueued => ?_,
            fun j other hj hunqueued => ?_, hremoved.steady⟩
          · have hne : j ≠ k := by
              rintro rfl
              rw [hfind] at hj
              cases hj
              rw [hqueued] at hunqueued
              cases hunqueued
            exact hremoved.kept j other hne ((hother hne).trans hj) hunqueued
          · obtain ⟨hne, hold⟩ := hremoved.old j other hj hunqueued
            exact (hother hne).symm.trans hold

end Rules

mutual

/-- **Events and aborts** keep the invariant, at any depth of nesting. -/
theorem perform_preserves (windows : Windows) :
    (call : FrameCall) → Preserves (V := V) windows (call.perform windows)
  | .event k env flushed scheduled gcOk => by
      intro s h hwindows
      rw [FrameCall.perform]
      refine called_spec h hwindows k fun {info} {t} ht hwindows' hfind => ?_
      exact msDri2FrameEventHandler_spec (performAll_preserves windows flushed) ht hwindows' hfind
        rfl env scheduled gcOk
  | .abort k => by
      intro s h hwindows
      rw [FrameCall.perform]
      exact called_spec h hwindows k fun ht _ hfind => ht.removed windows hfind

theorem performAll_preserves (windows : Windows) :
    (calls : List FrameCall) → Preserves (V := V) windows (performAll windows calls)
  | [] => fun s h _ => ⟨h, .refl windows s⟩
  | call :: calls => by
      intro s h hwindows
      obtain ⟨hsound, hlater⟩ := perform_preserves windows call s h hwindows
      obtain ⟨hsound', hlater'⟩ :=
        performAll_preserves windows calls _ hsound (hwindows.later hlater)
      rw [performAll]
      exact ⟨hsound', hlater.trans hlater'⟩

end

/-! ## Swaps -/

/-- Every record is in the queue, but for that of a function which is still running. -/
def Waiting (s : FrameState V) (running : Option Nat) : Prop :=
  ∀ k info, s.frames.find? k = some info → some k ≠ running → info.queued = true

/-- `ms_dri2_schedule_swap` has made a record, and the kernel has not taken its request. -/
structure Making (s : FrameState V) (windows : Windows) (draw : Drawable) (front back k : Nat) :
    Prop where
  sound : Sound s
  found : ∃ queueFlip, s.frames.find? k = some ⟨front, back, queueFlip, false⟩
  waiting : Waiting s (some k)
  windows : WindowsHeld s windows
  drawHeld : draw.pixmap ∈ s.store.held

section Swaps

variable {windows : Windows} {s s' : FrameState V} {draw : Drawable} {front back k : Nat}

theorem Waiting.later (h : Waiting s none) (hlater : Later windows s s') : Waiting s' none := by
  intro j info hfind _
  cases hqueued : info.queued with
  | true => rfl
  | false =>
      have hwas := h j info (hlater.old j info hfind hqueued) (Option.some_ne_none j)
      exact hqueued.symm.trans hwas

theorem SwapAsked.swapping (h : SwapAsked s windows draw front back) (hsound : Sound s) :
    Swapping s.store draw front back where
  drawHeld := h.drawHeld
  frontHeld := by
    rw [hsound.refs]
    exact Multiset.mem_add.mpr (Or.inl h.frontHeld)
  backHeld := by
    rw [hsound.refs]
    exact Multiset.mem_add.mpr (Or.inl h.backHeld)
  frontLeft := h.frontLeft
  backLeft := h.backLeft

theorem buffer_reference (t : Dri2State V) (b j : Nat) :
    (msDri2ReferenceBuffer t b).buffer j = t.buffer j := by
  rw [Dri2State.buffer, Dri2State.buffer, msDri2ReferenceBuffer, Shared.get?_ref]

theorem reference_held (t : Dri2State V) (b : Nat) : (msDri2ReferenceBuffer t b).held = t.held := by
  simp only [msDri2ReferenceBuffer, Dri2State.useBuffer]
  split
  · rfl
  · rfl

/-- **The record of a swap** has a reference on each buffer. -/
theorem making_newFrame (h : Sound s) (hwaiting : Waiting s none)
    (hasked : SwapAsked s windows draw front back) :
    Making (newFrame s front back) windows draw front back s.frames.next := by
  have hswap := hasked.swapping h
  have hinv := h.inv.reference hswap.frontHeld
  have hrefs : (msDri2ReferenceBuffer s.store front).refs = front ::ₘ s.store.refs := by
    rw [msDri2ReferenceBuffer]
  have hback : back ∈ (msDri2ReferenceBuffer s.store front).refs := by
    rw [hrefs]
    exact Multiset.mem_cons_of_mem hswap.backHeld
  have hheld : (newFrame s front back).store.held = s.store.held :=
    (reference_held _ back).trans (reference_held s.store front)
  have hbuffer : ∀ b, (newFrame s front back).store.buffer b = s.store.buffer b := fun b =>
    (buffer_reference _ back b).trans (buffer_reference s.store front b)
  refine ⟨⟨hinv.reference hback, ?_, fun j info hfind => ?_⟩,
    ⟨false, Pending.find?_alloc_self s.frames _⟩, fun j info hfind hne => ?_,
    fun window hin => hheld ▸ hasked.windows window hin, hheld ▸ hasked.drawHeld⟩
  · show (msDri2ReferenceBuffer (msDri2ReferenceBuffer s.store front) back).refs =
      s.dri2 + frameRefs (s.frames.alloc ⟨front, back, false, false⟩)
    rw [frameRefs_alloc, Multiset.add_cons, Multiset.add_cons, ← h.refs, ← hrefs]
    rfl
  · rw [hbuffer, hbuffer]
    rcases Pending.find?_alloc_eq_some.mp hfind with ⟨-, rfl⟩ | hold
    · exact ⟨hasked.frontLeft, hasked.backLeft⟩
    · exact h.sides j info hold
  · rcases Pending.find?_alloc_eq_some.mp hfind with ⟨rfl, -⟩ | hold
    · exact absurd rfl hne
    · exact hwaiting j info hold (Option.some_ne_none j)

theorem Making.swapping (h : Making s windows draw front back k) :
    Swapping s.store draw front back := by
  obtain ⟨queueFlip, hfind⟩ := h.found
  exact h.sound.swapping hfind h.drawHeld

/-- `blit_fallback` with the record. -/
theorem Making.blitFallback (h : Making s windows draw front back k) (gcOk : Bool) :
    Sound (blitFallback s draw front back gcOk (some k)) ∧
      Waiting (blitFallback s draw front back gcOk (some k)) none := by
  obtain ⟨queueFlip, hfind⟩ := h.found
  obtain ⟨hsound, hlater⟩ := h.sound.blit windows h.swapping gcOk
  have hremoved := hsound.removed windows (hlater.kept k _ hfind rfl)
  refine ⟨hremoved.sound, fun j info hj _ => ?_⟩
  cases hqueued : info.queued with
  | true => rfl
  | false =>
      obtain ⟨hne, hold⟩ := hremoved.old j info hj hqueued
      have hwas := h.waiting j info (hlater.old j info hold hqueued) fun heq =>
        hne (Option.some.inj heq)
      exact hqueued.symm.trans hwas

/-- Without it. -/
theorem blitFallback_none (h : Sound s) (hwaiting : Waiting s none)
    (hasked : SwapAsked s windows draw front back) (gcOk : Bool) :
    Sound (blitFallback s draw front back gcOk none) ∧
      Waiting (blitFallback s draw front back gcOk none) none := by
  obtain ⟨hsound, hlater⟩ := h.blit windows (hasked.swapping h) gcOk
  exact ⟨hsound, hwaiting.later hlater⟩

/-- With a record that has been freed. -/
theorem blitFallback_freed (hfind : s.frames.find? k = none) (gcOk : Bool) :
    (blitFallback s draw front back gcOk (some k)).store.fault = true := by
  have hfind' : (s.blit draw front back gcOk).frames.find? k = none := hfind
  simp only [blitFallback, msDri2DelFrameEvent, hfind']
  rfl

theorem Making.markFlip (h : Making s windows draw front back k) (env : FlipConditions) :
    Making (markFlip s k draw front back env) windows draw front back k := by
  have hwork : ∀ {t : Dri2State V}, Updated s.store t draw front →
      Making { s with store := t } windows draw front back k := fun hupdated =>
    ⟨h.sound.work hupdated.inv hupdated.refs fun b _ => hupdated.attachment b, h.found, h.waiting,
      fun window hin => hupdated.held.symm ▸ h.windows window hin, hupdated.held.symm ▸ h.drawHeld⟩
  unfold Dri2Frames.markFlip
  rcases h.sound.inv.canFlip h.swapping env with ⟨t, hcan, hflip⟩ | ⟨t, hcannot, rfl | hupdated⟩
  · rw [hcan]
    have hmaking := hwork hflip.updated
    obtain ⟨queueFlip, hfind⟩ := hmaking.found
    refine ⟨hmaking.sound.modify k fun _ => ⟨rfl, rfl⟩,
      ⟨true, Pending.find?_modify_self hfind _⟩, fun j info hj hne => ?_, hmaking.windows,
      hmaking.drawHeld⟩
    have hother : j ≠ k := fun heq => hne (congrArg some heq)
    exact hmaking.waiting j info ((Pending.find?_modify_ne hother _).symm.trans hj) hne
  · rw [hcannot]
    exact h
  · rw [hcannot]
    exact hwork hupdated

/-- What is handled during `ms_queue_vblank` leaves the record alone. -/
theorem Making.flush (h : Making s windows draw front back k) (flushed : List FrameCall) :
    Making (performAll windows flushed s) windows draw front back k := by
  obtain ⟨queueFlip, hfind⟩ := h.found
  obtain ⟨hsound, hlater⟩ := performAll_preserves windows flushed s h.sound h.windows
  refine ⟨hsound, ⟨queueFlip, hlater.kept k _ hfind rfl⟩, fun j info hj hne => ?_,
    h.windows.later hlater, hlater.steady.held ▸ h.drawHeld⟩
  cases hqueued : info.queued with
  | true => rfl
  | false => exact hqueued.symm.trans (h.waiting j info (hlater.old j info hj hqueued) hne)

/-- The kernel takes the request. -/
theorem Making.queue (h : Making s windows draw front back k) :
    Sound (s.setQueued k true) ∧ Waiting (s.setQueued k true) none ∧
      (s.setQueued k true).useFrame k = s.setQueued k true := by
  obtain ⟨queueFlip, hfind⟩ := h.found
  have hself : (s.setQueued k true).frames.find? k = some ⟨front, back, queueFlip, true⟩ :=
    Pending.find?_modify_self hfind _
  refine ⟨h.sound.setQueued k true, fun j info hj _ => ?_, useFrame_of_find hself⟩
  by_cases hjk : j = k
  · subst hjk
    cases hself.symm.trans hj
    rfl
  · exact h.waiting j info ((Pending.find?_modify_ne hjk _).symm.trans hj) fun heq =>
      hjk (Option.some.inj heq)

/-- The abort after a refused request frees the record. -/
theorem Making.abort (h : Making s windows draw front back k) :
    (msDri2FrameEventAbort s k).frames.find? k = none := by
  obtain ⟨queueFlip, hfind⟩ := h.found
  obtain ⟨-, -, hframes, -⟩ := h.sound.del windows hfind
  rw [msDri2FrameEventAbort, hframes, Pending.find?_remove_self]

/-- How `ms_dri2_schedule_swap` ends: as it should, or with a record freed twice. -/
def Ends (refused : Bool) (s : FrameState V) : Prop :=
  if refused then s.store.fault = true else Sound s ∧ Waiting s none

/-- **`ms_dri2_schedule_swap`.** -/
theorem msDri2ScheduleSwap_spec (h : Sound s) (hwaiting : Waiting s none)
    (hasked : SwapAsked s windows draw front back) (env : FlipConditions) (answer : SwapAnswer) :
    Ends answer.refused (msDri2ScheduleSwap s windows draw front back env answer) := by
  have hnone := blitFallback_none h hwaiting hasked answer.gcOk
  have hmaking := making_newFrame h hwaiting hasked
  unfold msDri2ScheduleSwap Ends SwapAnswer.refused
  cases answer.crtc with
  | false => exact hnone
  | true =>
  cases answer.callocOk with
  | false => exact hnone
  | true =>
  cases answer.registered with
  | false => exact hnone
  | true =>
  cases answer.mscOk with
  | false => exact hmaking.blitFallback answer.gcOk
  | true =>
  have hmarked := hmaking.markFlip env
  cases answer.seqOk with
  | false => exact hmarked.blitFallback answer.gcOk
  | true =>
  have hflushed := hmarked.flush answer.flushed
  obtain ⟨queueFlip, hfind⟩ := hflushed.found
  simp only [msQueueVblank, Bool.not_true, Bool.false_eq_true, if_false, Bool.and_self,
    Bool.true_and]
  cases answer.queued with
  | true =>
      obtain ⟨hsound, hall, huse⟩ := hflushed.queue
      simp only [if_true, huse, Bool.not_true, Bool.false_eq_true, if_false]
      exact ⟨hsound, hall⟩
  | false =>
      simp only [Bool.false_eq_true, if_false, Bool.not_false, if_true]
      exact blitFallback_freed hflushed.abort answer.gcOk

end Swaps

/-! ## Calls -/

section Calls

variable {s : FrameState V}

/-- A call of the server that leaves the buffers alone. -/
theorem Sound.server (h : Sound s) (act : Dri2Act V) (hact : Dri2Buffers.Promised s.store act)
    (hrefs : (Dri2Buffers.perform s.store act).refs = s.store.refs)
    (hbuffers : (Dri2Buffers.perform s.store act).buffers = s.store.buffers) :
    Sound { s with store := Dri2Buffers.perform s.store act } :=
  h.work (h.inv.perform hact) hrefs fun b _ => by
    rw [Dri2State.buffer, Dri2State.buffer, hbuffers]

/-- What `ms_dri2_create_buffer2` answers, and the references. -/
theorem createBuffer_refs {t : Dri2State V} (hinv : Inv t) (screen : Nat) {draw : Drawable}
    (hdraw : draw.pixmap ∈ t.held) (attachment format : Nat) (answer : CreateAnswer) :
    (∃ t', msDri2CreateBuffer2 t screen draw attachment format answer = (t', none) ∧
        t'.refs = t.refs ∧ t'.buffers = t.buffers) ∨
      ∃ t' d, msDri2CreateBuffer2 t screen draw attachment format answer =
          (t', some t.buffers.next) ∧
        t'.refs = t.buffers.next ::ₘ t.refs ∧ t'.buffers = Shared.new t.buffers d := by
  unfold msDri2CreateBuffer2
  cases answer.bufferOk with
  | false => exact Or.inl ⟨t, rfl, rfl, rfl⟩
  | true =>
  cases answer.privateOk with
  | false => exact Or.inl ⟨_, rfl, rfl, rfl⟩
  | true =>
  rcases hinv.bufferPixmap screen hdraw attachment format answer with
    hnone | ⟨pixmaps, nextBo, boSize, p, hsome, -, -⟩
  · rw [hnone]
    exact Or.inl ⟨_, rfl, rfl, rfl⟩
  · rw [hsome]
    cases answer.pitch with
    | none => exact Or.inl ⟨_, rfl, use_refs _ p, use_buffers _ p⟩
    | some pitch => exact Or.inr ⟨_, _, rfl, rfl, rfl⟩

theorem Sound.createBuffer (h : Sound s) (screen : Nat) {draw : Drawable}
    (hdraw : draw.pixmap ∈ s.store.held) (attachment format : Nat) (answer : CreateAnswer) :
    Sound (perform s (.createBuffer screen draw attachment format answer)) ∧
      (perform s (.createBuffer screen draw attachment format answer)).frames = s.frames := by
  have hinv := h.inv.createBuffer screen hdraw attachment format answer
  simp only [perform]
  rcases createBuffer_refs h.inv screen hdraw attachment format answer with
    ⟨t, heq, hrefs, hbuffers⟩ | ⟨t, d, heq, hrefs, hbuffers⟩
  · rw [heq] at hinv ⊢
    refine ⟨h.work hinv hrefs fun b _ => ?_, rfl⟩
    rw [Dri2State.buffer, Dri2State.buffer, hbuffers]
  · rw [heq] at hinv ⊢
    refine ⟨⟨hinv, ?_, fun k info hfind => ?_⟩, rfl⟩
    · show t.refs = s.store.buffers.next ::ₘ s.dri2 + frameRefs s.frames
      rw [hrefs, h.refs, Multiset.cons_add]
    · -- The buffers of a record were there before.
      have hold : ∀ b ∈ s.store.refs, t.buffer b = s.store.buffer b := by
        intro b hb
        have hne : b ≠ s.store.buffers.next := fun heq =>
          h.inv.buffers.next_notMem (heq ▸ hb)
        rw [Dri2State.buffer, Dri2State.buffer, hbuffers, Shared.get?_new_ne hne]
      obtain ⟨hfront, hback⟩ := h.mem_refs hfind
      show (t.buffer info.front).attachment = _ ∧ (t.buffer info.back).attachment = _
      rw [hold _ hfront, hold _ hback]
      exact h.sides k info hfind

/-- DRI2 gives a reference back. -/
theorem Sound.destroyBuffer (h : Sound s) {b : Nat} (hb : b ∈ s.dri2) :
    Sound (perform s (.destroyBuffer b)) := by
  have hmem : b ∈ s.store.refs := by
    rw [h.refs]
    exact Multiset.mem_add.mpr (Or.inl hb)
  have hrefs := destroyBuffer_refs h.inv hmem
  rw [h.refs, Multiset.erase_add_left_pos _ hb] at hrefs
  have hsteady : Steady [] s.store (msDri2DestroyBuffer2 s.store b) :=
    steady_destroyBuffer h.inv hmem
  refine ⟨h.inv.destroyBuffer hmem, hrefs, fun k info hfind => ?_⟩
  obtain ⟨hleft, hright⟩ := h.sides k info hfind
  obtain ⟨hfront, hback⟩ := mem_frameRefs hfind
  have hrest : ∀ {b'}, b' ∈ frameRefs s.frames → b' ∈ (msDri2DestroyBuffer2 s.store b).refs :=
    fun hb' => hrefs.symm ▸ Multiset.mem_add.mpr (Or.inr hb')
  exact ⟨(hsteady.attachment _ (hrest hfront)).trans hleft,
    (hsteady.attachment _ (hrest hback)).trans hright⟩

theorem Sound.copyRegion (h : Sound s) (screen : Nat) {draw : Drawable}
    (hdraw : draw.pixmap ∈ s.store.held) (region : Int × Int → Bool) {dest source : Nat}
    (hdest : dest ∈ s.dri2) (hsource : source ∈ s.dri2) (prime : Option (Option Target))
    (hprime : ∀ target ∈ prime.join, target.pixmap ∈ s.store.held) (gcOk : Bool) :
    Sound (perform s (.copyRegion screen draw region dest source prime gcOk)) := by
  have hmem : ∀ b ∈ s.dri2, b ∈ s.store.refs := fun b hb => by
    rw [h.refs]
    exact Multiset.mem_add.mpr (Or.inl hb)
  obtain ⟨cells, hcells⟩ := h.inv.copyRegion screen hdraw region (hmem _ hdest)
    (hmem _ hsource) prime hprime gcOk
  simp only [perform, hcells]
  exact h.work (h.inv.cells cells) rfl fun _ _ => rfl

/-- **What a call does**, by whether a request is refused. -/
theorem perform_spec (h : Sound s) (hwaiting : Waiting s none) {act : FrameAct V}
    (hact : Promised s act) :
    (Accepted s act → Sound (perform s act) ∧ Waiting (perform s act) none) ∧
      (¬ Accepted s act → (perform s act).store.fault = true) := by
  cases act with
  | createPixmap screen depth size =>
      have hsound := h.server (.createPixmap screen depth size) trivial rfl rfl
      exact ⟨fun _ => ⟨hsound, hwaiting⟩, fun hno => absurd trivial hno⟩
  | holdPixmap p =>
      have hsound := h.server (.holdPixmap p) hact (use_refs _ p) (use_buffers _ p)
      exact ⟨fun _ => ⟨hsound, hwaiting⟩, fun hno => absurd trivial hno⟩
  | dropPixmap p =>
      have hsound := h.server (.dropPixmap p) hact (use_refs _ p) (use_buffers _ p)
      exact ⟨fun _ => ⟨hsound, hwaiting⟩, fun hno => absurd trivial hno⟩
  | createBuffer screen draw attachment format answer =>
      obtain ⟨hsound, hframes⟩ := h.createBuffer screen hact attachment format answer
      refine ⟨fun _ => ⟨hsound, fun k info hfind hne => ?_⟩, fun hno => absurd trivial hno⟩
      rw [hframes] at hfind
      exact hwaiting k info hfind hne
  | destroyBuffer b =>
      exact ⟨fun _ => ⟨h.destroyBuffer hact, hwaiting⟩, fun hno => absurd trivial hno⟩
  | scheduleSwap windows draw front back env answer =>
      have hends := msDri2ScheduleSwap_spec h hwaiting hact env answer
      unfold Ends at hends
      refine ⟨fun hok => ?_, fun hno => ?_⟩
      · rw [hok hact] at hends
        exact hends
      · have hrefused : answer.refused = true := by
          by_contra hnot
          exact hno fun _ => eq_false_of_ne_true hnot
        rw [hrefused] at hends
        exact hends
  | frameCall windows call =>
      obtain ⟨hsound, hlater⟩ := perform_preserves windows call s h hact
      exact ⟨fun _ => ⟨hsound, hwaiting.later hlater⟩, fun hno => absurd trivial hno⟩
  | copyRegion screen draw region dest source prime gcOk =>
      obtain ⟨hdraw, hdest, hsource, hprime⟩ := hact
      have hsound := h.copyRegion screen hdraw region hdest hsource prime hprime gcOk
      exact ⟨fun _ => ⟨hsound, hwaiting⟩, fun hno => absurd trivial hno⟩
  | render bo cells =>
      have hsound := h.server (.render bo cells) trivial rfl rfl
      exact ⟨fun _ => ⟨hsound, hwaiting⟩, fun hno => absurd trivial hno⟩

theorem Sound.counted (h : Sound s) (hwaiting : Waiting s none) : Counted s where
  safe := h.inv.safe
  pixmaps := h.inv.pixmaps
  buffers := h.refs ▸ h.inv.buffers
  mem := h.inv.mem
  queued := fun k info hfind => hwaiting k info hfind (Option.some_ne_none k)

theorem step_spec (h : Sound s) (hwaiting : Waiting s none) (act : FrameAct V) :
    (Accepted s act → Sound (step s act) ∧ Waiting (step s act) none) ∧
      (¬ Accepted s act → (step s act).store.fault = true) := by
  unfold step
  rw [h.inv.safe]
  by_cases hact : Promised s act
  · simp only [hact, if_true, Bool.false_eq_true, if_false]
    exact perform_spec h hwaiting hact
  · simp only [hact, Bool.false_eq_true, if_false]
    refine ⟨fun _ => ⟨h, hwaiting⟩, fun hno => absurd ?_ hno⟩
    cases act with
    | scheduleSwap windows draw front back env answer => exact fun hasked => absurd hasked hact
    | _ => trivial

end Calls

/-! ## Runs -/

theorem sound_start (cells : Nat → Int × Int → V) :
    Sound (.start cells) ∧ Waiting (.start cells) none :=
  ⟨⟨inv_start cells, rfl, fun _ _ hfind => nomatch hfind⟩, fun _ _ hfind => nomatch hfind⟩

/-- As long as the kernel refuses no request, the buffers keep their invariant. -/
theorem sound_of_accepted {cells : Nat → Int × Int → V} {acts : List (FrameAct V)}
    (haccepted : Guarded step Accepted (.start cells) acts) :
    Always step (fun s => Sound s ∧ Waiting s none) (.start cells) acts :=
  haccepted.always (fun _ act h hok => (step_spec h.1 h.2 act).1 hok) (sound_start cells)

/-- **Pixmaps and buffers live exactly as long as there are references to them**, those of the
server and of DRI2 and those that the driver takes and gives back for its swaps, if and only if the
kernel refuses no request of a swap. -/
theorem references_counted_iff (cells : Nat → Int × Int → V) (acts : List (FrameAct V)) :
    Always step Counted (.start cells) acts ↔ Guarded step Accepted (.start cells) acts := by
  obtain ⟨hsound, hwaiting⟩ := sound_start cells
  refine always_iff_guarded (I := fun s => s.store.fault = true ∨ Sound s ∧ Waiting s none)
    (fun s act h => ?_) (fun s act h hcounted => ?_) (Or.inr ⟨hsound, hwaiting⟩)
    (hsound.counted hwaiting) acts
  · rcases h with hfault | ⟨hsound, hwaiting⟩
    · have hstays : step s act = s := if_pos hfault
      rw [hstays]
      exact Or.inl hfault
    · by_cases hok : Accepted s act
      · exact Or.inr ((step_spec hsound hwaiting act).1 hok)
      · exact Or.inl ((step_spec hsound hwaiting act).2 hok)
  · obtain ⟨hsound, hwaiting⟩ := h.resolve_left (Bool.eq_false_iff.mp hcounted.safe)
    obtain ⟨hgood, hbad⟩ := step_spec hsound hwaiting act
    constructor
    · intro hnext
      by_contra hno
      exact absurd (hbad hno) (Bool.eq_false_iff.mp hnext.safe)
    · intro hok
      obtain ⟨hsound', hwaiting'⟩ := hgood hok
      exact hsound'.counted hwaiting'

/-- When no other event is handled during its flip, a record's swap is the one of `Dri2Buffers`. -/
theorem handleSwap_store {s : FrameState V} (h : Sound s) {k : Nat} {info : SwapInfo}
    (hfind : s.frames.find? k = some info) {draw : Drawable} (hdraw : draw.pixmap ∈ s.store.held)
    (env : FlipConditions) (scheduled gcOk : Bool) :
    (handleSwap s k info draw env id scheduled gcOk).store =
      completeSwap s.store info.queueFlip draw info.front info.back env scheduled gcOk := by
  have hswap := h.swapping hfind hdraw
  unfold handleSwap completeSwap
  cases info.queueFlip with
  | false => rfl
  | true =>
      simp only [if_true]
      rcases h.inv.canFlip hswap env with ⟨t, hcan, hflip⟩ | ⟨t, hcannot, -⟩
      · rw [hcan]
        have hswap' := hswap.updated hflip.updated
        have hfind' : ({ s with store := t } : FrameState V).frames.find? k = some info := hfind
        have huse := hflip.updated.inv.use (hflip.updated.inv.buffer_mem hswap'.backHeld)
        simp only [huse, id_eq, useFrame_of_find hfind', Bool.true_and]
        cases scheduled with
        | false => rfl
        | true => rfl
      · rw [hcannot]
        rfl

/-- A window that is half of the screen, and its two buffers. -/
def swappedWindow : Drawable := ⟨true, 0, 0, 32, 48, 24, 0, 0, fun _ => true⟩

def swappedConditions : FlipConditions :=
  ⟨true, false, false, true, false, [(false, true)], some 256⟩

/-- DRI2 gives its references back while the swap is waiting, and the event comes later. -/
def swappedRun (queued : Bool) : List (FrameAct Nat) :=
  [.createPixmap 0 24 ⟨64, 48, 32, 256⟩,
    .createBuffer 0 swappedWindow dri2BufferFrontLeft 24 ⟨true, true, none, some 256⟩,
    .createBuffer 0 swappedWindow dri2BufferBackLeft 24 ⟨true, true, some (32, 128), some 128⟩,
    .scheduleSwap [] swappedWindow 0 1 swappedConditions
      ⟨true, true, true, true, true, [], queued, true⟩,
    .destroyBuffer 0,
    .destroyBuffer 1,
    .frameCall [(0, swappedWindow)] (.event 0 swappedConditions [] false true)]

example : (run step (.start fun _ _ => 0) (swappedRun true)).store.buffers.tokens = [] := by
  decide

example : (run step (.start fun _ _ => 0) (swappedRun false)).store.fault = true := by
  decide

end LoongsonVideo.Driver.Dri2Frames
