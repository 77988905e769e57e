import LoongsonVideo.Verified.Mirror
import LoongsonVideo.Verified.Pending
import Mathlib.Logic.Function.Basic

/-!
# The source of shared pixmaps

The other side of PRIME, in `src/driver.c`: the screen that clients draw on keeps
a list of pixmaps shared with another GPU, each with the damage that has not been
copied to it.  `ms_dirty_update` copies it from the block handler; for a pixmap
that is flipped, the GPU that shows it asks for the copy
(`msPresentSharedPixmap`), or to be told of damage
(`msRequestSharedPixmapNotifyDamage`).

* `redisplayDirty`, `msPresentSharedPixmap`: bring a pixmap up to date.
* `msStartFlippingPixmapTracking`, `msStopFlippingPixmapTracking`: the entries of
  two pixmaps that are flipped.
* `Source.Coherent`: no pixmap lacks something that is not in its damage.

`PixmapStartDirtyTracking`, `PixmapStopDirtyTracking` and `PixmapSyncDirtyHelper`
are the server's: an entry begins with all that its pixmap shows damaged, and a
copy takes what is damaged.  The value of a pixel is of any type.
A shared pixmap and its `master_pixmap` go by one number.
-/

namespace LoongsonVideo.Driver.PrimeSource

open LoongsonVideo.Verified

/-! ## The dirty list -/

/-- A place in a drawable or a pixmap. -/
abbrev Pixel := Int × Int

/-- `PixmapDirtyUpdateRec`: which pixels of the pixmap show which pixels of
the drawable, as `x`, `y`, `dst_x`, `dst_y` and `rotation` say. -/
structure DirtyUpdate where
  src : Nat
  slaveDst : Nat
  cells : Finset Pixel
  view : Pixel → Pixel

/-- The fields of `msPixmapPrivRec` on the source side. -/
structure MasterPriv where
  notifyOnDamage : Bool
  deferDirtyUpdate : Bool
  slaveSrc : Option Nat
  dirty : Option Nat
  deriving DecidableEq, Repr

def MasterPriv.zero : MasterPriv := ⟨false, false, none, none⟩

/-- A screen with its `pixmap_dirty_list`, the damage of each entry, what is
drawn, and what the shared pixmaps hold. -/
structure Source (V : Type) where
  isGPU : Bool
  dirtyList : Pending (DirtyUpdate)
  damage : Nat → Finset Pixel
  content : Nat → Pixel → V
  pixels : Nat → Pixel → V
  priv : Nat → MasterPriv
  fault : Bool

/-- A screen with nothing shared. -/
def Source.start {V : Type} (isGPU : Bool) (content : Nat → Pixel → V) (pixels : Nat → Pixel → V) :
    Source V where
  isGPU := isGPU
  dirtyList := Pending.empty
  damage := fun _ => ∅
  content := content
  pixels := pixels
  priv := fun _ => .zero
  fault := false

section Operations

variable {V : Type}

def Source.setPriv (s : Source V) (ppix : Nat) (priv : MasterPriv) : Source V :=
  { s with priv := Function.update s.priv ppix priv }

/-- `DamageEmpty`. -/
def Source.damageEmpty (s : Source V) (k : Nat) : Source V :=
  { s with damage := Function.update s.damage k ∅ }

/-- An entry as a copy of what it is of. -/
def Source.mirror (s : Source V) (k : Nat) (e : DirtyUpdate) : Mirror Pixel Pixel V :=
  ⟨e.cells, e.view, s.damage k, s.pixels e.slaveDst⟩

/-- What is to be copied to a pixmap. -/
structure Tracking where
  cells : Finset Pixel
  view : Pixel → Pixel

/-- `PixmapStartDirtyTracking`. -/
def pixmapStartDirtyTracking (s : Source V) (src slaveDst : Nat) (t : Tracking)
    (ok : Bool) : Source V × Bool :=
  if ok then
    ({ s with
        dirtyList := s.dirtyList.alloc ⟨src, slaveDst, t.cells, t.view⟩
        damage := Function.update s.damage s.dirtyList.next (t.cells.image t.view) }, true)
  else (s, false)

/-- `PixmapStopDirtyTracking`. -/
def pixmapStopDirtyTracking (s : Source V) (src slaveDst : Nat) : Source V × Bool :=
  ({ s with
      dirtyList := s.dirtyList.removeAll fun e => e.src = src ∧ e.slaveDst = slaveDst }, true)

/-- `PixmapSyncDirtyHelper`. -/
def pixmapSyncDirtyHelper (s : Source V) (k : Nat) (e : DirtyUpdate) : Source V :=
  { s with
    pixels := Function.update s.pixels e.slaveDst ((s.mirror k e).sync (s.content e.src)) }

/-- Clients draw: what is in the region takes new values, and each entry of the
drawable is damaged there. -/
def draw (s : Source V) (drawable : Nat) (region : Finset Pixel) (paint : Pixel → V) :
    Source V :=
  { s with
    content := Function.update s.content drawable fun x =>
      if x ∈ region then paint x else s.content drawable x
    damage := fun k =>
      match s.dirtyList.find? k with
      | none => s.damage k
      | some e => if e.src = drawable then s.damage k ∪ region else s.damage k }

/-- `redisplay_dirty`.  The timeout is where the caller has one. -/
def redisplayDirty (s : Source V) (k : Nat) (e : DirtyUpdate) (timeout : Option Int) :
    Source V × Option Int :=
  (pixmapSyncDirtyHelper s k e, if !s.isGPU then timeout.map fun _ => 0 else timeout)

/-- `ms_dirty_get_ent`. -/
def msDirtyGetEnt (s : Source V) (slaveDst : Nat) : Option Nat :=
  (s.dirtyList.entries.find? fun e => e.2.slaveDst == slaveDst).map Prod.fst

/-- What `msStartFlippingPixmapTracking` sets for one of the pixmaps. -/
def Source.track (s : Source V) (src slaveDst : Nat) : Source V :=
  s.setPriv slaveDst { s.priv slaveDst with
    slaveSrc := some src
    dirty := msDirtyGetEnt s slaveDst
    deferDirtyUpdate := true }

/-- What `msStopFlippingPixmapTracking` resets for one of the pixmaps. -/
def Source.forget (s : Source V) (slaveDst : Nat) : Source V :=
  s.setPriv slaveDst { s.priv slaveDst with
    slaveSrc := none
    dirty := none
    deferDirtyUpdate := false }

/-- `msStartFlippingPixmapTracking`. -/
def msStartFlippingPixmapTracking (s : Source V) (src slaveDst1 slaveDst2 : Nat)
    (t1 t2 : Tracking) (ok1 ok2 : Bool) : Source V × Bool :=
  match pixmapStartDirtyTracking s src slaveDst1 t1 ok1 with
  | (s, false) => (s, false)
  | (s, true) =>
      match pixmapStartDirtyTracking s src slaveDst2 t2 ok2 with
      | (s, false) => ((pixmapStopDirtyTracking s src slaveDst1).1, false)
      | (s, true) => ((s.track src slaveDst1).track src slaveDst2, true)

/-- `msPresentSharedPixmap`.  The code follows `ppriv->dirty` without a test. -/
def msPresentSharedPixmap (s : Source V) (slaveDst : Nat) : Source V × Bool :=
  match (s.priv slaveDst).dirty with
  | none => ({ s with fault := true }, false)
  | some k =>
      match s.dirtyList.find? k with
      | none => ({ s with fault := true }, false)
      | some e =>
          if s.damage k = ∅ then (s, false)
          else ((redisplayDirty s k e none).1.damageEmpty k, true)

/-- `msStopFlippingPixmapTracking`. -/
def msStopFlippingPixmapTracking (s : Source V) (src slaveDst1 slaveDst2 : Nat) :
    Source V × Bool :=
  let r1 := pixmapStopDirtyTracking s src slaveDst1
  let r2 := pixmapStopDirtyTracking r1.1 src slaveDst2
  if r1.2 && r2.2 then ((r2.1.forget slaveDst1).forget slaveDst2, true) else (r2.1, false)

/-- `msRequestSharedPixmapNotifyDamage`. -/
def msRequestSharedPixmapNotifyDamage (s : Source V) (ppix : Nat) : Source V × Bool :=
  (s.setPriv ppix { s.priv ppix with notifyOnDamage := true }, true)

end Operations

/-! ## Entries and records -/

section Links

variable {V : Type} {s : Source V}

/-- No entry is for the pixmap. -/
def Source.Untracked (s : Source V) (ppix : Nat) : Prop :=
  ∀ e ∈ s.dirtyList.requests, e.slaveDst ≠ ppix

instance (s : Source V) (ppix : Nat) : Decidable (s.Untracked ppix) :=
  inferInstanceAs (Decidable (∀ e ∈ s.dirtyList.requests, e.slaveDst ≠ ppix))

/-- No pixmap has two entries, `dirty` is the entry of its pixmap, and a pixmap
that is updated on request has one. -/
structure Source.Linked (s : Source V) : Prop where
  unique : ∀ k k' e e', s.dirtyList.find? k = some e → s.dirtyList.find? k' = some e' →
    e.slaveDst = e'.slaveDst → k = k'
  dirty : ∀ ppix k, (s.priv ppix).dirty = some k →
    ∃ e, s.dirtyList.find? k = some e ∧ e.slaveDst = ppix
  deferred : ∀ ppix, (s.priv ppix).deferDirtyUpdate = true → (s.priv ppix).dirty ≠ none

@[simp] theorem setPriv_dirtyList (s : Source V) (ppix : Nat) (priv : MasterPriv) :
    (s.setPriv ppix priv).dirtyList = s.dirtyList := rfl

@[simp] theorem setPriv_damage (s : Source V) (ppix : Nat) (priv : MasterPriv) :
    (s.setPriv ppix priv).damage = s.damage := rfl

@[simp] theorem setPriv_self (s : Source V) (ppix : Nat) (priv : MasterPriv) :
    (s.setPriv ppix priv).priv ppix = priv := Function.update_self ..

theorem setPriv_of_ne {ppix ppix' : Nat} (h : ppix' ≠ ppix) (priv : MasterPriv) :
    (s.setPriv ppix priv).priv ppix' = s.priv ppix' := Function.update_of_ne h ..

theorem linked_start (isGPU : Bool) (content : Nat → Pixel → V) (pixels : Nat → Pixel → V) :
    (Source.start isGPU content pixels).Linked := by
  refine ⟨fun k k' e e' h => ?_, fun ppix k h => ?_, fun ppix h => ?_⟩
  · cases h
  · cases h
  · cases h

/-- `ms_dirty_get_ent` finds an entry of the pixmap. -/
theorem msDirtyGetEnt_eq_some {slaveDst k : Nat} (h : msDirtyGetEnt s slaveDst = some k) :
    ∃ e, s.dirtyList.find? k = some e ∧ e.slaveDst = slaveDst := by
  unfold msDirtyGetEnt at h
  obtain ⟨e, hfind, rfl⟩ := Option.map_eq_some_iff.mp h
  have hdst : e.2.slaveDst = slaveDst := by simpa using List.find?_some hfind
  have hmem : (e.1, e.2) ∈ s.dirtyList.entries := List.mem_of_find?_eq_some hfind
  exact ⟨e.2, Pending.find?_eq_some.mpr hmem, hdst⟩

/-- It finds one if there is one. -/
theorem msDirtyGetEnt_ne_none {k : Nat} {e : DirtyUpdate}
    (h : s.dirtyList.find? k = some e) : msDirtyGetEnt s e.slaveDst ≠ none := by
  intro hnone
  unfold msDirtyGetEnt at hnone
  rw [Option.map_eq_none_iff, List.find?_eq_none] at hnone
  have hne := hnone (k, e) (Pending.find?_eq_some.mp h)
  simp at hne

theorem Source.Linked.track (h : s.Linked) (src : Nat) {slaveDst k : Nat} {e : DirtyUpdate}
    (hk : s.dirtyList.find? k = some e) (hdst : e.slaveDst = slaveDst) :
    (s.track src slaveDst).Linked := by
  unfold Source.track
  refine ⟨h.unique, fun ppix k hk => ?_, fun ppix hdefer => ?_⟩
  · by_cases heq : ppix = slaveDst
    · subst heq
      rw [setPriv_self] at hk
      exact msDirtyGetEnt_eq_some hk
    · rw [setPriv_of_ne heq] at hk
      exact h.dirty ppix k hk
  · by_cases heq : ppix = slaveDst
    · subst heq
      rw [setPriv_self, ← hdst]
      exact msDirtyGetEnt_ne_none hk
    · rw [setPriv_of_ne heq] at hdefer ⊢
      exact h.deferred ppix hdefer

/-- An entry for a pixmap that had none. -/
theorem Source.Linked.startTracking (h : s.Linked) {src slaveDst : Nat}
    (hdst : s.Untracked slaveDst) (t : Tracking) (ok : Bool) :
    (pixmapStartDirtyTracking s src slaveDst t ok).1.Linked := by
  cases ok with
  | false => exact h
  | true =>
      refine ⟨?_, fun ppix k hk => ?_, h.deferred⟩
      · intro k k' e e' hk hk' hsame
        rcases Pending.find?_alloc_eq_some.mp hk with ⟨rfl, rfl⟩ | hk
        · rcases Pending.find?_alloc_eq_some.mp hk' with ⟨rfl, rfl⟩ | hk'
          · rfl
          · exact absurd hsame.symm (hdst e' (Pending.find?_mem hk'))
        · rcases Pending.find?_alloc_eq_some.mp hk' with ⟨rfl, rfl⟩ | hk'
          · exact absurd hsame (hdst e (Pending.find?_mem hk))
          · exact h.unique k k' e e' hk hk' hsame
      · obtain ⟨e, he, hslave⟩ := h.dirty ppix k hk
        exact ⟨e, Pending.find?_alloc_eq_some.mpr (Or.inr he), hslave⟩

/-- The other pixmaps have the entries they had. -/
theorem startTracking_untracked {src slaveDst ppix : Nat} (h : s.Untracked ppix)
    (hne : slaveDst ≠ ppix) (t : Tracking) (ok : Bool) :
    (pixmapStartDirtyTracking s src slaveDst t ok).1.Untracked ppix := by
  cases ok with
  | false => exact h
  | true =>
      intro e he
      rcases List.mem_cons.mp he with rfl | he
      · exact hne
      · exact h e he

theorem stopTracking_find? {src slaveDst k : Nat} {e : DirtyUpdate} :
    (pixmapStopDirtyTracking s src slaveDst).1.dirtyList.find? k = some e ↔
      s.dirtyList.find? k = some e ∧ ¬(e.src = src ∧ e.slaveDst = slaveDst) := by
  show (s.dirtyList.removeAll _).find? k = some e ↔ _
  rw [Pending.find?_removeAll, decide_eq_false_iff_not]

/-- The entries of a pixmap may go when its record names none. -/
theorem Source.Linked.stopTracking (h : s.Linked) (src slaveDst : Nat)
    (hdirty : (s.priv slaveDst).dirty = none) :
    (pixmapStopDirtyTracking s src slaveDst).1.Linked := by
  refine ⟨fun k k' e e' hk hk' => ?_, fun ppix k hk => ?_, h.deferred⟩
  · exact h.unique k k' e e' (stopTracking_find?.mp hk).1 (stopTracking_find?.mp hk').1
  · obtain ⟨e, he, hslave⟩ := h.dirty ppix k hk
    refine ⟨e, stopTracking_find?.mpr ⟨he, fun hboth => ?_⟩, hslave⟩
    have hsame : ppix = slaveDst := hslave.symm.trans hboth.2
    have hnone : (s.priv ppix).dirty = none := hsame ▸ hdirty
    exact Option.some_ne_none k (hk.symm.trans hnone)

/-- A pixmap without an entry is named by no record. -/
theorem Source.Linked.dirty_none (h : s.Linked) {ppix : Nat} (hdst : s.Untracked ppix) :
    (s.priv ppix).dirty = none := by
  cases hdirty : (s.priv ppix).dirty with
  | none => rfl
  | some k =>
      obtain ⟨e, he, hslave⟩ := h.dirty ppix k hdirty
      exact absurd hslave (hdst e (Pending.find?_mem he))

theorem msStartFlippingPixmapTracking_linked (h : s.Linked) {src slaveDst1 slaveDst2 : Nat}
    (hne : slaveDst1 ≠ slaveDst2) (h1 : s.Untracked slaveDst1) (h2 : s.Untracked slaveDst2)
    (t1 t2 : Tracking) (ok1 ok2 : Bool) :
    (msStartFlippingPixmapTracking s src slaveDst1 slaveDst2 t1 t2 ok1 ok2).1.Linked := by
  have hfirst : (pixmapStartDirtyTracking s src slaveDst1 t1 ok1).1.Linked :=
    h.startTracking h1 t1 ok1
  have huntracked : (pixmapStartDirtyTracking s src slaveDst1 t1 ok1).1.Untracked slaveDst2 :=
    startTracking_untracked h2 hne t1 ok1
  have hsecond : (pixmapStartDirtyTracking (pixmapStartDirtyTracking s src slaveDst1 t1 ok1).1
      src slaveDst2 t2 ok2).1.Linked :=
    hfirst.startTracking huntracked t2 ok2
  cases ok1 with
  | false => exact hfirst
  | true =>
      cases ok2 with
      | false => exact hfirst.stopTracking src slaveDst1 (h.dirty_none h1)
      | true =>
          -- Both entries are in the list when the records are set.
          have hold : ∀ k e, (pixmapStartDirtyTracking s src slaveDst1 t1 true).1.dirtyList.find? k =
              some e → (pixmapStartDirtyTracking (pixmapStartDirtyTracking s src slaveDst1 t1 true).1
                src slaveDst2 t2 true).1.dirtyList.find? k = some e :=
            fun k e hk => Pending.find?_alloc_eq_some.mpr (Or.inr hk)
          have hent1 := hold _ _ (Pending.find?_alloc_self s.dirtyList
            ⟨src, slaveDst1, t1.cells, t1.view⟩)
          have hent2 := Pending.find?_alloc_self
            (pixmapStartDirtyTracking s src slaveDst1 t1 true).1.dirtyList
            ⟨src, slaveDst2, t2.cells, t2.view⟩
          exact (hsecond.track src hent1 rfl).track src hent2 rfl

theorem msStopFlippingPixmapTracking_linked (h : s.Linked) (src slaveDst1 slaveDst2 : Nat) :
    (msStopFlippingPixmapTracking s src slaveDst1 slaveDst2).1.Linked := by
  have hsub : ∀ k e, (msStopFlippingPixmapTracking s src slaveDst1 slaveDst2).1.dirtyList.find? k =
      some e ↔ (s.dirtyList.find? k = some e ∧ ¬(e.src = src ∧ e.slaveDst = slaveDst1)) ∧
        ¬(e.src = src ∧ e.slaveDst = slaveDst2) := by
    intro k e
    rw [← stopTracking_find?]
    exact stopTracking_find?
  refine ⟨fun k k' e e' hk hk' => ?_, fun ppix k hk => ?_, fun ppix hdefer => ?_⟩
  · exact h.unique k k' e e' ((hsub k e).mp hk).1.1 ((hsub k' e').mp hk').1.1
  · have hk' : ((Source.forget (Source.forget s slaveDst1) slaveDst2).priv ppix).dirty = some k :=
      hk
    unfold Source.forget at hk'
    by_cases hp2 : ppix = slaveDst2
    · subst hp2
      rw [setPriv_self] at hk'
      cases hk'
    · rw [setPriv_of_ne hp2] at hk'
      by_cases hp1 : ppix = slaveDst1
      · subst hp1
        rw [setPriv_self] at hk'
        cases hk'
      · rw [setPriv_of_ne hp1] at hk'
        obtain ⟨e, he, hslave⟩ := h.dirty ppix k hk'
        refine ⟨e, (hsub k e).mpr ⟨⟨he, fun hboth => ?_⟩, fun hboth => ?_⟩, hslave⟩
        · exact hp1 (hslave.symm.trans hboth.2)
        · exact hp2 (hslave.symm.trans hboth.2)
  · have hdefer' : ((Source.forget (Source.forget s slaveDst1) slaveDst2).priv
        ppix).deferDirtyUpdate = true := hdefer
    show ((Source.forget (Source.forget s slaveDst1) slaveDst2).priv ppix).dirty ≠ none
    unfold Source.forget at hdefer' ⊢
    by_cases hp2 : ppix = slaveDst2
    · subst hp2
      rw [setPriv_self] at hdefer'
      cases hdefer'
    · rw [setPriv_of_ne hp2] at hdefer' ⊢
      by_cases hp1 : ppix = slaveDst1
      · subst hp1
        rw [setPriv_self] at hdefer'
        cases hdefer'
      · rw [setPriv_of_ne hp1] at hdefer' ⊢
        exact h.deferred ppix hdefer'

end Links

/-! ## Requests -/

section Requests

variable {V : Type} {s : Source V}

theorem track_notify (s : Source V) (src slaveDst ppix : Nat) :
    ((s.track src slaveDst).priv ppix).notifyOnDamage = (s.priv ppix).notifyOnDamage := by
  unfold Source.track
  by_cases heq : ppix = slaveDst
  · subst heq
    rw [setPriv_self]
  · rw [setPriv_of_ne heq]

theorem forget_notify (s : Source V) (slaveDst ppix : Nat) :
    ((s.forget slaveDst).priv ppix).notifyOnDamage = (s.priv ppix).notifyOnDamage := by
  unfold Source.forget
  by_cases heq : ppix = slaveDst
  · subst heq
    rw [setPriv_self]
  · rw [setPriv_of_ne heq]

theorem pixmapStartDirtyTracking_priv (s : Source V) (src slaveDst : Nat) (t : Tracking)
    (ok : Bool) : (pixmapStartDirtyTracking s src slaveDst t ok).1.priv = s.priv := by
  cases ok <;> rfl

theorem msStartFlippingPixmapTracking_notify (s : Source V) (src slaveDst1 slaveDst2 : Nat)
    (t1 t2 : Tracking) (ok1 ok2 : Bool) (ppix : Nat) :
    ((msStartFlippingPixmapTracking s src slaveDst1 slaveDst2 t1 t2 ok1 ok2).1.priv
      ppix).notifyOnDamage = (s.priv ppix).notifyOnDamage := by
  cases ok1 with
  | false => rfl
  | true =>
      cases ok2 with
      | false => rfl
      | true => exact (track_notify _ src slaveDst2 ppix).trans (track_notify _ src slaveDst1 ppix)

theorem msStopFlippingPixmapTracking_notify (s : Source V) (src slaveDst1 slaveDst2 ppix : Nat) :
    ((msStopFlippingPixmapTracking s src slaveDst1 slaveDst2).1.priv ppix).notifyOnDamage =
      (s.priv ppix).notifyOnDamage :=
  (forget_notify _ slaveDst2 ppix).trans (forget_notify _ slaveDst1 ppix)

/-- The records of the other pixmaps name what they did. -/
theorem msStartFlippingPixmapTracking_dirty (s : Source V) (src : Nat) {slaveDst1 slaveDst2 : Nat}
    (t1 t2 : Tracking) (ok1 ok2 : Bool) {ppix : Nat} (hdirty : (s.priv ppix).dirty ≠ none)
    (hne1 : ppix ≠ slaveDst1) (hne2 : ppix ≠ slaveDst2) :
    ((msStartFlippingPixmapTracking s src slaveDst1 slaveDst2 t1 t2 ok1 ok2).1.priv ppix).dirty ≠
      none := by
  cases ok1 with
  | false => exact hdirty
  | true =>
      cases ok2 with
      | false => exact hdirty
      | true =>
          show ((Source.track (Source.track _ src slaveDst1) src slaveDst2).priv ppix).dirty ≠ none
          unfold Source.track
          rw [setPriv_of_ne hne2, setPriv_of_ne hne1]
          exact hdirty

theorem msStartFlippingPixmapTracking_fault (s : Source V) (src slaveDst1 slaveDst2 : Nat)
    (t1 t2 : Tracking) (ok1 ok2 : Bool) :
    (msStartFlippingPixmapTracking s src slaveDst1 slaveDst2 t1 t2 ok1 ok2).1.fault = s.fault := by
  cases ok1 <;> cases ok2 <;> rfl

theorem msStopFlippingPixmapTracking_dirty (s : Source V) (src : Nat) {slaveDst1 slaveDst2 : Nat}
    {ppix : Nat} (hdirty : (s.priv ppix).dirty ≠ none) (hne1 : ppix ≠ slaveDst1)
    (hne2 : ppix ≠ slaveDst2) :
    ((msStopFlippingPixmapTracking s src slaveDst1 slaveDst2).1.priv ppix).dirty ≠ none := by
  show ((Source.forget (Source.forget _ slaveDst1) slaveDst2).priv ppix).dirty ≠ none
  unfold Source.forget
  rw [setPriv_of_ne hne2, setPriv_of_ne hne1]
  exact hdirty

end Requests

/-! ## Coherence -/

section Coherence

variable {V : Type} {s : Source V}

/-- Where a pixmap differs from what it is to show, its entry is damaged. -/
def Source.Coherent (s : Source V) : Prop :=
  ∀ k e, s.dirtyList.find? k = some e → (s.mirror k e).Sound (s.content e.src)

theorem coherent_start (isGPU : Bool) (content : Nat → Pixel → V) (pixels : Nat → Pixel → V) :
    (Source.start isGPU content pixels).Coherent := by
  intro k e h
  cases h

theorem Source.Coherent.setPriv (h : s.Coherent) (ppix : Nat) (priv : MasterPriv) :
    (s.setPriv ppix priv).Coherent := h

theorem Source.Coherent.draw (h : s.Coherent) (drawable : Nat) (region : Finset Pixel)
    (paint : Pixel → V) : (draw s drawable region paint).Coherent := by
  intro k e hk
  have hk' : s.dirtyList.find? k = some e := hk
  by_cases hsrc : e.src = drawable
  · have hcontent : ∀ x, x ∉ region →
        (PrimeSource.draw s drawable region paint).content e.src x = s.content e.src x := by
      intro x hx
      show Function.update s.content drawable _ e.src x = _
      rw [hsrc, Function.update_self, if_neg hx]
    have hdamage : (PrimeSource.draw s drawable region paint).mirror k e =
        { s.mirror k e with damage := (s.mirror k e).damage ∪ region } := by
      simp only [Source.mirror, PrimeSource.draw, hk', hsrc, if_true]
    rw [hdamage]
    exact (h k e hk').note hcontent
  · have hcontent : (PrimeSource.draw s drawable region paint).content e.src = s.content e.src :=
      Function.update_of_ne hsrc ..
    have hmirror : (PrimeSource.draw s drawable region paint).mirror k e = s.mirror k e := by
      simp only [Source.mirror, PrimeSource.draw, hk', hsrc, if_false]
    rw [hcontent, hmirror]
    exact h k e hk'

theorem Source.Coherent.startTracking (h : s.Coherent) (src slaveDst : Nat) (t : Tracking)
    (ok : Bool) : (pixmapStartDirtyTracking s src slaveDst t ok).1.Coherent := by
  cases ok with
  | false => exact h
  | true =>
      intro k e hk
      rcases Pending.find?_alloc_eq_some.mp hk with ⟨rfl, rfl⟩ | hk
      · have hmirror : (pixmapStartDirtyTracking s src slaveDst t true).1.mirror
            s.dirtyList.next ⟨src, slaveDst, t.cells, t.view⟩ =
            ⟨t.cells, t.view, t.cells.image t.view, s.pixels slaveDst⟩ := by
          simp [Source.mirror, pixmapStartDirtyTracking]
        rw [hmirror]
        exact Mirror.sound_of_image t.cells t.view (s.pixels slaveDst) _
      · have hne : k ≠ s.dirtyList.next := Nat.ne_of_lt (Pending.lt_next_of_find? hk)
        have hmirror : (pixmapStartDirtyTracking s src slaveDst t true).1.mirror k e =
            s.mirror k e := by
          simp [Source.mirror, pixmapStartDirtyTracking, Function.update_of_ne hne]
        rw [hmirror]
        exact h k e hk

theorem Source.Coherent.stopTracking (h : s.Coherent) (src slaveDst : Nat) :
    (pixmapStopDirtyTracking s src slaveDst).1.Coherent :=
  fun k e hk => h k e (stopTracking_find?.mp hk).1

/-- An entry that is copied and whose damage is emptied shows what it is to show. -/
theorem Source.Coherent.fresh_display (h : s.Coherent) {k : Nat} {e : DirtyUpdate}
    (hk : s.dirtyList.find? k = some e) :
    (((pixmapSyncDirtyHelper s k e).damageEmpty k).mirror k e).Fresh (s.content e.src) := by
  have hmirror : ((pixmapSyncDirtyHelper s k e).damageEmpty k).mirror k e =
      { s.mirror k e with copy := (s.mirror k e).sync (s.content e.src), damage := ∅ } := by
    simp [Source.mirror, pixmapSyncDirtyHelper, Source.damageEmpty]
  rw [hmirror]
  exact (h k e hk).sync ∅

theorem Source.Coherent.display (h : s.Coherent) (hlinked : s.Linked) {k : Nat}
    {e : DirtyUpdate} (hk : s.dirtyList.find? k = some e) :
    ((pixmapSyncDirtyHelper s k e).damageEmpty k).Coherent := by
  intro k' e' hk'
  by_cases heq : k' = k
  · subst heq
    cases Option.some.inj (hk'.symm.trans hk)
    exact (h.fresh_display hk).sound
  · have hdst : e'.slaveDst ≠ e.slaveDst := fun hsame => heq (hlinked.unique k' k e' e hk' hk hsame)
    have hmirror : ((pixmapSyncDirtyHelper s k e).damageEmpty k).mirror k' e' = s.mirror k' e' := by
      simp [Source.mirror, pixmapSyncDirtyHelper, Source.damageEmpty, Function.update_of_ne hdst,
        Function.update_of_ne heq]
    rw [hmirror]
    exact h k' e' hk'

theorem msStartFlippingPixmapTracking_coherent (h : s.Coherent) (src slaveDst1 slaveDst2 : Nat)
    (t1 t2 : Tracking) (ok1 ok2 : Bool) :
    (msStartFlippingPixmapTracking s src slaveDst1 slaveDst2 t1 t2 ok1 ok2).1.Coherent := by
  have hfirst := h.startTracking src slaveDst1 t1 ok1
  have hsecond := hfirst.startTracking src slaveDst2 t2 ok2
  cases ok1 with
  | false => exact hfirst
  | true =>
      cases ok2 with
      | false => exact hfirst.stopTracking src slaveDst1
      | true => exact hsecond

theorem msStopFlippingPixmapTracking_coherent (h : s.Coherent) (src slaveDst1 slaveDst2 : Nat) :
    (msStopFlippingPixmapTracking s src slaveDst1 slaveDst2).1.Coherent :=
  (h.stopTracking src slaveDst1).stopTracking src slaveDst2

end Coherence

end LoongsonVideo.Driver.PrimeSource
