import LoongsonVideo.Verified.Machine
import Mathlib.Data.List.Nodup
import Mathlib.Data.List.Pairwise

/-!
# Dirty updates

`dispatch_dirty` of `src/driver.c` gives the kernel the damaged part of the screen, all
rectangles at once and, when that is refused as invalid, one by one.  The damage is emptied
whatever the answers were.

* `dispatchDirty_kept_iff`: for which answers no rectangle is dropped.
* `stale_damaged_iff`: so for which runs every pixel that the kernel has to be told of is in the
  damage.

What the allocator and the kernel answer is a parameter.
-/

namespace LoongsonVideo.Driver.DirtyUpdate

open LoongsonVideo.Verified.Machine

/-! ## Rectangles -/

/-- `BoxRec`. -/
structure BoxRec where
  x1 : Int16
  y1 : Int16
  x2 : Int16
  y2 : Int16
  deriving DecidableEq, Repr

/-- `drmModeClip`. -/
structure DrmModeClip where
  x1 : UInt16
  y1 : UInt16
  x2 : UInt16
  y2 : UInt16
  deriving DecidableEq, Repr

/-- The assignments to `clip[i]`. -/
def BoxRec.clip (r : BoxRec) : DrmModeClip :=
  ⟨r.x1.toUInt16, r.y1.toUInt16, r.x2.toUInt16, r.y2.toUInt16⟩

/-- The pixel is in the rectangle. -/
def BoxRec.covers (r : BoxRec) (x y : Int) : Prop :=
  r.x1.toInt ≤ x ∧ x < r.x2.toInt ∧ r.y1.toInt ≤ y ∧ y < r.y2.toInt

instance (r : BoxRec) (x y : Int) : Decidable (r.covers x y) :=
  inferInstanceAs (Decidable (_ ∧ _ ∧ _ ∧ _))

def BoxRec.Apart (r r' : BoxRec) : Prop := ∀ x y, r.covers x y → ¬r'.covers x y

instance : Std.Symm BoxRec.Apart := ⟨fun _ _ h x y hr' hr => h x y hr hr'⟩

/-- A region: rectangles with pixels that do not overlap. -/
structure Region where
  rects : List BoxRec
  pixel : ∀ r ∈ rects, ∃ x y, r.covers x y
  disjoint : rects.Pairwise BoxRec.Apart

def Region.empty : Region := ⟨[], fun _ h => (List.not_mem_nil h).elim, .nil⟩

def Region.covers (region : Region) (x y : Int) : Prop := ∃ r ∈ region.rects, r.covers x y

/-! ## Dispatching -/

def enomem : Int := 12
def einval : Int := 22
def enosys : Int := 38

/-- A call of `drmModeDirtyFB` and what it returned: 0, or an error below 0. -/
structure DirtyFb where
  fbId : Nat
  clips : List DrmModeClip
  ret : Int
  deriving DecidableEq, Repr

/-- The answers of one dispatch: of `xallocarray`, and of `drmModeDirtyFB` call by call. -/
structure Answer where
  alloc : Bool
  ret : Nat → Int

/-- The loop that tries one rectangle at a time, from call `k` on: the calls and `ret`. -/
def tryEach (fbId : Nat) (answer : Nat → Int) : Nat → List DrmModeClip → Int → List DirtyFb × Int
  | _, [], ret => ([], ret)
  | k, clip :: clips, _ =>
      let ret := answer k
      if ret < 0 then ([⟨fbId, [clip], ret⟩], ret)
      else
        let (calls, last) := tryEach fbId answer (k + 1) clips ret
        (⟨fbId, [clip], ret⟩ :: calls, last)

/-- `dispatch_dirty_region`: the damage afterwards, the calls and the result. -/
def dispatchDirtyRegion (damage : Region) (fbId : Nat) (a : Answer) :
    Region × List DirtyFb × Int :=
  if damage.rects = [] then (damage, [], 0)
  else if !a.alloc then (damage, [], -enomem)
  else
    let clips := damage.rects.map BoxRec.clip
    let ret := a.ret 0
    if ret = -einval then
      let (calls, ret) := tryEach fbId a.ret 1 clips ret
      (.empty, ⟨fbId, clips, a.ret 0⟩ :: calls, ret)
    else (.empty, [⟨fbId, clips, ret⟩], ret)

/-- `fb_id`, `dirty_enabled` and `damage`.  There is a damage record as long as
`dirty_enabled` is `TRUE`. -/
structure Dirty where
  fbId : Nat
  dirtyEnabled : Bool
  damage : Option Region
  damage_isSome : dirtyEnabled = true → damage.isSome = true

/-- Dirty updates are on. -/
def Dirty.on (fbId : Nat) (damage : Region) : Dirty := ⟨fbId, true, some damage, fun _ => rfl⟩

/-- They have been switched off. -/
def Dirty.off (fbId : Nat) : Dirty := ⟨fbId, false, none, fun h => (by cases h)⟩

/-- `dispatch_dirty`, with the calls it makes. -/
def dispatchDirty (s : Dirty) (a : Answer) : Dirty × List DirtyFb :=
  match s.damage with
  | none => (s, [])
  | some damage =>
      let (damage, calls, ret) := dispatchDirtyRegion damage s.fbId a
      if ret = -einval ∨ ret = -enosys then (.off s.fbId, calls)
      else (⟨s.fbId, s.dirtyEnabled, some damage, fun _ => rfl⟩, calls)

/-- The dirty updates of `msBlockHandler`. -/
def msBlockHandler (s : Dirty) (a : Answer) : Dirty × List DirtyFb :=
  if s.dirtyEnabled then dispatchDirty s a else (s, [])

/-! ## What is kept -/

/-- The rectangle was part of a call that returned success. -/
def Accepted (calls : List DirtyFb) (r : BoxRec) : Prop :=
  ∃ call ∈ calls, 0 ≤ call.ret ∧ r.clip ∈ call.clips

/-- The rectangle is in the damage, and goes to the kernel the next time memory allows. -/
def StillDue (s : Dirty) (r : BoxRec) : Prop :=
  (∃ damage, s.damage = some damage ∧ r ∈ damage.rects) ∧
    ∀ a : Answer, a.alloc = true → ∃ call ∈ (msBlockHandler s a).2, r.clip ∈ call.clips

/-- **The property** of a dispatch that began with `region`. -/
def Kept (region : Region) (after : Dirty × List DirtyFb) : Prop :=
  (∀ r ∈ region.rects, Accepted after.2 r) ∨
    (∀ r ∈ region.rects, ¬Accepted after.2 r → StillDue after.1 r) ∨
    (after.1.dirtyEnabled = false ∧ after.1.damage = none)

/-- The first error among the `n` answers from `k` on. -/
def firstError (answer : Nat → Int) : Nat → Nat → Option Int
  | _, 0 => none
  | k, n + 1 => if answer k < 0 then some (answer k) else firstError answer (k + 1) n

/-- **The condition** on the answers, for `n` rectangles: the call with all of them succeeds or
is not there, or it is refused as invalid and so is, or is not there, the first of the single
calls that fails. -/
def Harmless (n : Nat) (a : Answer) : Prop :=
  n = 0 ∨ a.alloc = false ∨ 0 ≤ a.ret 0 ∨ a.ret 0 = -enosys ∨
    a.ret 0 = -einval ∧ ∀ e ∈ firstError a.ret 1 n, e = -einval ∨ e = -enosys

/-! ## What one dispatch does -/

theorem int16_inj {a b : Int16} (h : a.toUInt16 = b.toUInt16) : a = b := by
  cases a
  cases b
  exact congrArg Int16.ofUInt16 h

theorem clip_inj {r r' : BoxRec} (h : r.clip = r'.clip) : r = r' := by
  obtain ⟨x1, y1, x2, y2⟩ := r
  obtain ⟨x1', y1', x2', y2'⟩ := r'
  simp only [BoxRec.clip, DrmModeClip.mk.injEq] at h
  obtain ⟨hx1, hy1, hx2, hy2⟩ := h
  rw [int16_inj hx1, int16_inj hy1, int16_inj hx2, int16_inj hy2]

theorem Region.nodup (region : Region) : region.rects.Nodup := by
  refine region.disjoint.imp_of_mem fun {r r'} hr _ hdis heq => ?_
  obtain ⟨x, y, hcovers⟩ := region.pixel r hr
  exact hdis x y hcovers (heq ▸ hcovers)

theorem accepted_cons {call : DirtyFb} {calls : List DirtyFb} {r : BoxRec} :
    Accepted (call :: calls) r ↔ (0 ≤ call.ret ∧ r.clip ∈ call.clips) ∨ Accepted calls r := by
  simp [Accepted]

theorem not_accepted_nil (r : BoxRec) : ¬Accepted [] r := by simp [Accepted]

/-- The loop with no error takes every rectangle. -/
theorem tryEach_all {answer : Nat → Int} (fbId : Nat) (rects : List BoxRec) {k : Nat} (ret : Int)
    (h : firstError answer k rects.length = none) :
    (∀ r ∈ rects, Accepted (tryEach fbId answer k (rects.map BoxRec.clip) ret).1 r) ∧
      (0 ≤ ret ∨ rects ≠ [] → 0 ≤ (tryEach fbId answer k (rects.map BoxRec.clip) ret).2) := by
  induction rects generalizing k ret with
  | nil => simp [tryEach]
  | cons r rects ih =>
      by_cases herr : answer k < 0
      · simp [firstError, herr] at h
      · simp only [firstError, List.length_cons, if_neg herr] at h
        obtain ⟨haccepted, hret⟩ := ih (answer k) h
        simp only [List.map_cons, tryEach, if_neg herr]
        refine ⟨fun r' hr' => accepted_cons.mpr ?_, fun _ => hret (.inl (Int.not_lt.mp herr))⟩
        rcases List.mem_cons.mp hr' with rfl | hr'
        · exact .inl ⟨Int.not_lt.mp herr, List.mem_singleton_self _⟩
        · exact .inr (haccepted r' hr')

/-- The loop with an error stops there: it returns the error and leaves a rectangle. -/
theorem tryEach_stops {answer : Nat → Int} (fbId : Nat) {rects : List BoxRec}
    (hnodup : rects.Nodup) {k : Nat} {e : Int} (ret : Int)
    (h : firstError answer k rects.length = some e) :
    (tryEach fbId answer k (rects.map BoxRec.clip) ret).2 = e ∧ e < 0 ∧
      ∃ r ∈ rects, ¬Accepted (tryEach fbId answer k (rects.map BoxRec.clip) ret).1 r := by
  induction rects generalizing k ret with
  | nil => simp [firstError] at h
  | cons r rects ih =>
      obtain ⟨hr, hnodup⟩ := List.nodup_cons.mp hnodup
      by_cases herr : answer k < 0
      · simp only [firstError, List.length_cons, if_pos herr, Option.some.injEq] at h
        subst h
        simp only [List.map_cons, tryEach, if_pos herr]
        refine ⟨trivial, herr, r, List.mem_cons_self, fun hr => ?_⟩
        rcases accepted_cons.mp hr with ⟨hpos, _⟩ | hnil
        · exact absurd herr (Int.not_lt.mpr hpos)
        · exact not_accepted_nil r hnil
      · simp only [firstError, List.length_cons, if_neg herr] at h
        obtain ⟨hret, hneg, r', hr', hleft⟩ := ih hnodup (answer k) h
        simp only [List.map_cons, tryEach, if_neg herr]
        refine ⟨hret, hneg, r', List.mem_cons_of_mem r hr', fun hacc => ?_⟩
        rcases accepted_cons.mp hacc with ⟨_, hclip⟩ | hacc
        · have heq := clip_inj (List.mem_singleton.mp hclip)
          exact hr (heq ▸ hr')
        · exact hleft hacc

/-- The loop sends nothing that it was not given. -/
theorem tryEach_clips (fbId : Nat) (answer : Nat → Int) (k : Nat) (clips : List DrmModeClip)
    (ret : Int) :
    ∀ call ∈ (tryEach fbId answer k clips ret).1, ∀ c ∈ call.clips, c ∈ clips := by
  induction clips generalizing k ret with
  | nil => simp [tryEach]
  | cons clip clips ih =>
      rw [tryEach]
      split
      · simp
      · intro call hcall c hc
        rcases List.mem_cons.mp hcall with rfl | hcall
        · exact List.mem_cons.mpr (.inl (List.mem_singleton.mp hc))
        · exact List.mem_cons_of_mem clip (ih (k + 1) (answer k) call hcall c hc)

/-- What a dispatch does that loses nothing. -/
inductive Outcome (fbId : Nat) (region : Region) (after : Dirty × List DirtyFb) : Prop where
  | untried (h : after = (.on fbId region, []))
  | accepted (h : after.1 = .on fbId .empty) (hall : ∀ r ∈ region.rects, Accepted after.2 r)
  | off (h : after.1 = .off fbId)

/-- The damage is emptied, and a rectangle was not accepted. -/
def Lost (fbId : Nat) (region : Region) (after : Dirty × List DirtyFb) : Prop :=
  after.1 = .on fbId .empty ∧ ∃ r ∈ region.rects, ¬Accepted after.2 r

/-- The single calls, after the one with all rectangles was refused as invalid. -/
theorem dispatch_single {region : Region} {a : Answer} (fbId : Nat) (hrects : region.rects ≠ [])
    (halloc : a.alloc = true) (hret : a.ret 0 = -einval) :
    (Harmless region.rects.length a ∧ Outcome fbId region (dispatchDirty (.on fbId region) a)) ∨
      (¬Harmless region.rects.length a ∧ Lost fbId region (dispatchDirty (.on fbId region) a)) := by
  have hlen : region.rects.length ≠ 0 := fun h => hrects (List.length_eq_zero_iff.mp h)
  have hneg : ¬(0 ≤ a.ret 0) := by rw [hret]; decide
  have hharmless : Harmless region.rects.length a ↔
      ∀ e ∈ firstError a.ret 1 region.rects.length, e = -einval ∨ e = -enosys := by
    simp [Harmless, hlen, halloc, hret, einval, enosys]
  have hafter : dispatchDirty (.on fbId region) a =
      (if (tryEach fbId a.ret 1 (region.rects.map BoxRec.clip) (a.ret 0)).2 = -einval ∨
          (tryEach fbId a.ret 1 (region.rects.map BoxRec.clip) (a.ret 0)).2 = -enosys then .off fbId
        else .on fbId .empty,
        ⟨fbId, region.rects.map BoxRec.clip, a.ret 0⟩ ::
          (tryEach fbId a.ret 1 (region.rects.map BoxRec.clip) (a.ret 0)).1) := by
    simp only [dispatchDirty, dispatchDirtyRegion, Dirty.on, if_neg hrects, halloc, Bool.not_true,
      Bool.false_eq_true, if_false, if_pos hret]
    split <;> rfl
  have hacc : ∀ r, Accepted (dispatchDirty (.on fbId region) a).2 r ↔
      Accepted (tryEach fbId a.ret 1 (region.rects.map BoxRec.clip) (a.ret 0)).1 r := by
    intro r
    rw [hafter, accepted_cons]
    exact or_iff_right fun h => hneg h.1
  cases herr : firstError a.ret 1 region.rects.length with
  | none =>
      obtain ⟨hall, hlast⟩ := tryEach_all fbId region.rects (a.ret 0) herr
      have hpos := hlast (.inr hrects)
      have hon : (dispatchDirty (.on fbId region) a).1 = .on fbId .empty := by
        rw [hafter]
        exact if_neg (by unfold einval enosys; omega)
      refine .inl ⟨hharmless.mpr ?_, .accepted hon fun r hr => (hacc r).mpr (hall r hr)⟩
      rw [herr]
      intro e he
      cases he
  | some e =>
      obtain ⟨hlast, _, r, hr, hleft⟩ := tryEach_stops fbId region.nodup (a.ret 0) herr
      have hharmless : Harmless region.rects.length a ↔ e = -einval ∨ e = -enosys := by
        rw [hharmless, herr]
        exact ⟨fun h => h e rfl, fun h e' he' => Option.some.inj he' ▸ h⟩
      rw [hlast] at hafter
      by_cases hoff : e = -einval ∨ e = -enosys
      · rw [if_pos hoff] at hafter
        exact .inl ⟨hharmless.mpr hoff, .off (by rw [hafter])⟩
      · rw [if_neg hoff] at hafter
        refine .inr ⟨fun h => hoff (hharmless.mp h), by rw [hafter], r, hr, fun h => ?_⟩
        exact hleft ((hacc r).mp h)

/-- The one call, when it is not refused as invalid. -/
theorem dispatch_batch {region : Region} {a : Answer} (fbId : Nat) (hrects : region.rects ≠ [])
    (halloc : a.alloc = true) (hret : a.ret 0 ≠ -einval) :
    (Harmless region.rects.length a ∧ Outcome fbId region (dispatchDirty (.on fbId region) a)) ∨
      (¬Harmless region.rects.length a ∧ Lost fbId region (dispatchDirty (.on fbId region) a)) := by
  have hlen : region.rects.length ≠ 0 := fun h => hrects (List.length_eq_zero_iff.mp h)
  have hharmless : Harmless region.rects.length a ↔ 0 ≤ a.ret 0 ∨ a.ret 0 = -enosys := by
    simp [Harmless, hlen, halloc, hret]
  have hafter : dispatchDirty (.on fbId region) a =
      (if a.ret 0 = -enosys then .off fbId else .on fbId .empty,
        [⟨fbId, region.rects.map BoxRec.clip, a.ret 0⟩]) := by
    simp only [dispatchDirty, dispatchDirtyRegion, Dirty.on, if_neg hrects, halloc, Bool.not_true,
      Bool.false_eq_true, if_false, hret, false_or]
    split <;> rfl
  by_cases hoff : a.ret 0 = -enosys
  · rw [if_pos hoff] at hafter
    exact .inl ⟨hharmless.mpr (.inr hoff), .off (by rw [hafter])⟩
  · rw [if_neg hoff] at hafter
    by_cases hpos : 0 ≤ a.ret 0
    · refine .inl ⟨hharmless.mpr (.inl hpos), .accepted (by rw [hafter]) fun r hr => ?_⟩
      rw [hafter]
      exact accepted_cons.mpr (.inl ⟨hpos, List.mem_map_of_mem hr⟩)
    · obtain ⟨r, hr⟩ := List.exists_mem_of_ne_nil _ hrects
      refine .inr ⟨fun h => (hharmless.mp h).elim hpos hoff, by rw [hafter], r, hr, fun hacc => ?_⟩
      rw [hafter] at hacc
      rcases accepted_cons.mp hacc with ⟨hret0, _⟩ | hnil
      · exact hpos hret0
      · exact not_accepted_nil r hnil

/-- **What one dispatch does.** -/
theorem dispatch_outcome (fbId : Nat) (region : Region) (a : Answer) :
    (Harmless region.rects.length a ∧ Outcome fbId region (dispatchDirty (.on fbId region) a)) ∨
      (¬Harmless region.rects.length a ∧ Lost fbId region (dispatchDirty (.on fbId region) a)) := by
  by_cases hrects : region.rects = []
  · have huntried : dispatchDirty (.on fbId region) a = (.on fbId region, []) := by
      simp [dispatchDirty, dispatchDirtyRegion, Dirty.on, hrects, einval, enosys]
    exact .inl ⟨.inl (List.length_eq_zero_iff.mpr hrects), .untried huntried⟩
  · cases halloc : a.alloc with
    | false =>
        have huntried : dispatchDirty (.on fbId region) a = (.on fbId region, []) := by
          simp [dispatchDirty, dispatchDirtyRegion, Dirty.on, hrects, halloc, enomem, einval,
            enosys]
        exact .inl ⟨.inr (.inl halloc), .untried huntried⟩
    | true =>
        by_cases hret : a.ret 0 = -einval
        · exact dispatch_single fbId hrects halloc hret
        · exact dispatch_batch fbId hrects halloc hret

/-- What is in the damage goes to the kernel with the first call. -/
theorem stillDue_on {region : Region} {r : BoxRec} (fbId : Nat) (hr : r ∈ region.rects) :
    StillDue (.on fbId region) r := by
  refine ⟨⟨region, rfl, hr⟩, fun a halloc => ?_⟩
  have hrects : region.rects ≠ [] := List.ne_nil_of_mem hr
  have hclip : r.clip ∈ region.rects.map BoxRec.clip := List.mem_map_of_mem hr
  have hfirst : ∃ later, (msBlockHandler (.on fbId region) a).2 =
      ⟨fbId, region.rects.map BoxRec.clip, a.ret 0⟩ :: later := by
    simp only [msBlockHandler, Dirty.on, if_true, dispatchDirty, dispatchDirtyRegion,
      if_neg hrects, halloc, Bool.not_true, Bool.false_eq_true, if_false]
    split <;> split <;> exact ⟨_, rfl⟩
  obtain ⟨later, hlater⟩ := hfirst
  rw [hlater]
  exact ⟨_, List.mem_cons_self, hclip⟩

theorem Lost.not_kept {fbId : Nat} {region : Region} {after : Dirty × List DirtyFb}
    (h : Lost fbId region after) : ¬Kept region after := by
  obtain ⟨hafter, r, hr, hleft⟩ := h
  rintro (hall | hdue | ⟨hoff, -⟩)
  · exact hleft (hall r hr)
  · obtain ⟨⟨damage, hdamage, hmem⟩, -⟩ := hdue r hr hleft
    rw [hafter] at hdamage
    cases hdamage
    exact List.not_mem_nil hmem
  · rw [hafter] at hoff
    cases hoff

/-- **No rectangle is dropped** if and only if the answers are harmless. -/
theorem dispatchDirty_kept_iff (fbId : Nat) (region : Region) (a : Answer) :
    Kept region (dispatchDirty (.on fbId region) a) ↔ Harmless region.rects.length a := by
  rcases dispatch_outcome fbId region a with ⟨hharmless, houtcome⟩ | ⟨hharmless, hlost⟩
  · refine iff_of_true ?_ hharmless
    cases houtcome with
    | untried h =>
        refine .inr (.inl fun r hr _ => ?_)
        rw [h]
        exact stillDue_on fbId hr
    | accepted _ hall => exact .inl hall
    | off h =>
        rw [Kept, h]
        exact .inr (.inr ⟨rfl, rfl⟩)
  · exact iff_of_false hlost.not_kept hharmless

def oneRect : Region :=
  ⟨[⟨0, 0, 16, 16⟩], fun r hr => ⟨0, 0, by rw [List.mem_singleton.mp hr]; decide⟩,
    List.pairwise_singleton _ _⟩

/-- One rectangle, and a kernel that is busy: the rectangle is dropped. -/
theorem busy_kernel_drops : ¬Kept oneRect (dispatchDirty (.on 1 oneRect) ⟨true, fun _ => -16⟩) := by
  have hlost : Lost 1 oneRect (dispatchDirty (.on 1 oneRect) ⟨true, fun _ => -16⟩) := by
    refine ⟨rfl, ⟨0, 0, 16, 16⟩, List.mem_cons_self, ?_⟩
    rintro ⟨call, hcall, hret, -⟩
    rw [List.mem_singleton.mp hcall] at hret
    exact absurd hret (by decide)
  exact hlost.not_kept

/-! ## Stale pixels

A pixel is stale when it was drawn and the kernel has not been told since.  The server adds what
is drawn to the damage with its own operation on regions. -/

/-- The pixel is in a rectangle of a call that returned success. -/
def Told (calls : List DirtyFb) (x y : Int) : Prop := ∃ r, Accepted calls r ∧ r.covers x y

/-- The updates and the pixels that are stale. -/
structure Tracked where
  dirty : Dirty
  stale : Int → Int → Prop

/-- Updates have just been switched on. -/
def Tracked.start (fbId : Nat) : Tracked := ⟨.on fbId .empty, fun _ _ => False⟩

inductive DirtyOp where
  | draw (region : Region)
  | block (a : Answer)

/-- The damage while updates are on. -/
def Dirty.active (s : Dirty) : Option Region := if s.dirtyEnabled then s.damage else none

/-- The block handler without updates does nothing, and else is one dispatch. -/
theorem blockHandler_cases (s : Dirty) (a : Answer) :
    (s.active = none ∧ msBlockHandler s a = (s, [])) ∨
      ∃ region, s.active = some region ∧
        msBlockHandler s a = dispatchDirty (.on s.fbId region) a := by
  obtain ⟨fbId, dirtyEnabled, damage, hdamage⟩ := s
  cases dirtyEnabled with
  | false => exact .inl ⟨rfl, rfl⟩
  | true =>
      obtain ⟨region, rfl⟩ := Option.isSome_iff_exists.mp (hdamage rfl)
      exact .inr ⟨region, rfl, rfl⟩

section Runs

variable (union : Region → Region → Region)

def Dirty.draw (s : Dirty) (region : Region) : Dirty :=
  ⟨s.fbId, s.dirtyEnabled, s.damage.map fun damage => union damage region, fun h => by
    rw [Option.isSome_map]
    exact s.damage_isSome h⟩

theorem active_draw (s : Dirty) (region : Region) :
    (s.draw union region).active = s.active.map fun damage => union damage region := by
  unfold Dirty.active Dirty.draw
  split <;> rfl

/-- One call. -/
def dirtyStep (t : Tracked) : DirtyOp → Tracked
  | .draw region => ⟨t.dirty.draw union region, fun x y => t.stale x y ∨ region.covers x y⟩
  | .block a =>
      let (dirty, calls) := msBlockHandler t.dirty a
      ⟨dirty, fun x y => t.stale x y ∧ ¬Told calls x y⟩

/-- **The property**: while updates are on, what is stale is in the damage. -/
def StaleDamaged (t : Tracked) : Prop :=
  ∀ damage ∈ t.dirty.active, ∀ x y, t.stale x y → damage.covers x y

/-- What is in the damage is stale. -/
def DamageStale (t : Tracked) : Prop :=
  ∀ damage ∈ t.dirty.active, ∀ x y, damage.covers x y → t.stale x y

/-- The condition at a call. -/
def AnswersHarmless (t : Tracked) : DirtyOp → Prop
  | .draw _ => True
  | .block a => ∀ damage ∈ t.dirty.active, Harmless damage.rects.length a

/-- A dispatch sends rectangles of the damage only. -/
theorem dispatch_clips (fbId : Nat) (region : Region) (a : Answer) :
    ∀ call ∈ (dispatchDirty (.on fbId region) a).2, ∀ c ∈ call.clips,
      c ∈ region.rects.map BoxRec.clip := by
  have hcalls :
      (dispatchDirty (.on fbId region) a).2 = (dispatchDirtyRegion region fbId a).2.1 := by
    simp only [dispatchDirty, Dirty.on]
    exact apply_ite Prod.snd .. |>.trans (ite_self _)
  rw [hcalls, dispatchDirtyRegion]
  split
  · simp
  · split
    · simp
    · dsimp only
      split
      · intro call hcall c hc
        rcases List.mem_cons.mp hcall with rfl | hcall
        · exact hc
        · exact tryEach_clips fbId a.ret 1 _ _ call hcall c hc
      · intro call hcall c hc
        rw [List.mem_singleton.mp hcall] at hc
        exact hc

/-- The pixels of a rectangle that was not accepted have not been told of. -/
theorem not_told {fbId : Nat} {region : Region} {a : Answer} {r : BoxRec} (hr : r ∈ region.rects)
    (hleft : ¬Accepted (dispatchDirty (.on fbId region) a).2 r) {x y : Int} (hxy : r.covers x y) :
    ¬Told (dispatchDirty (.on fbId region) a).2 x y := by
  rintro ⟨r', hacc, hxy'⟩
  have hr' : r' ∈ region.rects := by
    obtain ⟨call, hcall, -, hclip⟩ := hacc
    obtain ⟨r'', hr'', heq⟩ := List.mem_map.mp (dispatch_clips fbId region a call hcall _ hclip)
    exact clip_inj heq ▸ hr''
  by_cases hsame : r = r'
  · exact hleft (hsame ▸ hacc)
  · exact region.disjoint.forall hr hr' hsame x y hxy hxy'

theorem not_told_nil (x y : Int) : ¬Told [] x y := fun ⟨r, hacc, _⟩ => not_accepted_nil r hacc

theorem covers_empty (x y : Int) : ¬Region.empty.covers x y :=
  fun ⟨_, hr, _⟩ => List.not_mem_nil hr

/-- **What the block handler does while updates are on**, seen from the pixels. -/
theorem block_outcome {s : Dirty} {region : Region} (h : s.active = some region) (a : Answer) :
    let after := msBlockHandler s a
    (Harmless region.rects.length a ∧
        ((after.1.active = some region ∧ after.2 = []) ∨
          (after.1.active = some .empty ∧ ∀ x y, region.covers x y → Told after.2 x y) ∨
          after.1.active = none)) ∨
      (¬Harmless region.rects.length a ∧ after.1.active = some .empty ∧
        ∃ x y, region.covers x y ∧ ¬Told after.2 x y) := by
  have heq : msBlockHandler s a = dispatchDirty (.on s.fbId region) a := by
    rcases blockHandler_cases s a with ⟨hnone, _⟩ | ⟨region', hregion', heq⟩
    · rw [hnone] at h
      cases h
    · rw [Option.some.inj (h.symm.trans hregion')]
      exact heq
  simp only [heq]
  rcases dispatch_outcome s.fbId region a with ⟨hharmless, houtcome⟩ | ⟨hharmless, hlost⟩
  · refine .inl ⟨hharmless, ?_⟩
    cases houtcome with
    | untried h =>
        rw [h]
        exact .inl ⟨rfl, rfl⟩
    | accepted h hall =>
        rw [h]
        exact .inr (.inl ⟨rfl, fun x y ⟨r, hr, hxy⟩ => ⟨r, hall r hr, hxy⟩⟩)
    | off h =>
        rw [h]
        exact .inr (.inr rfl)
  · obtain ⟨hafter, r, hr, hleft⟩ := hlost
    obtain ⟨x, y, hxy⟩ := region.pixel r hr
    refine .inr ⟨hharmless, ?_, x, y, ⟨r, hr, hxy⟩, not_told hr hleft hxy⟩
    rw [hafter]
    rfl

/-- Without updates it does nothing. -/
theorem block_inactive {s : Dirty} (h : s.active = none) (a : Answer) :
    (msBlockHandler s a).1.active = none := by
  rcases blockHandler_cases s a with ⟨_, heq⟩ | ⟨region, hregion, _⟩
  · rw [heq, h]
  · rw [h] at hregion
    cases hregion

variable {union : Region → Region → Region}
  (hunion : ∀ a b x y, (union a b).covers x y ↔ a.covers x y ∨ b.covers x y)

include hunion

/-- What is in the damage stays stale, whatever the answers. -/
theorem dirtyStep_damageStale (t : Tracked) (op : DirtyOp) (h : DamageStale t) :
    DamageStale (dirtyStep union t op) := by
  intro damage hdamage x y hxy
  cases op with
  | draw region =>
      have hactive := active_draw union t.dirty region
      obtain ⟨old, hold, rfl⟩ := Option.map_eq_some_iff.mp (hactive.symm.trans hdamage)
      exact ((hunion old region x y).mp hxy).imp_left (h old hold x y)
  | block a =>
      have hafter : (msBlockHandler t.dirty a).1.active = some damage := hdamage
      cases hactive : t.dirty.active with
      | none =>
          rw [block_inactive hactive a] at hafter
          cases hafter
      | some region =>
          rcases block_outcome hactive a with
            ⟨-, ⟨hsame, hcalls⟩ | ⟨hempty, -⟩ | hoff⟩ | ⟨-, hempty, -⟩
          · have hregion := Option.some.inj (hsame.symm.trans hafter)
            have htold : ¬Told (msBlockHandler t.dirty a).2 x y := by
              rw [hcalls]
              exact not_told_nil x y
            exact ⟨h region hactive x y (hregion ▸ hxy), htold⟩
          · exact (covers_empty x y (Option.some.inj (hempty.symm.trans hafter) ▸ hxy)).elim
          · rw [hoff] at hafter
            cases hafter
          · exact (covers_empty x y (Option.some.inj (hempty.symm.trans hafter) ▸ hxy)).elim

/-- A call keeps the stale pixels in the damage exactly if its answers are harmless. -/
theorem dirtyStep_staleDamaged (t : Tracked) (op : DirtyOp) (h : DamageStale t)
    (hstale : StaleDamaged t) :
    StaleDamaged (dirtyStep union t op) ↔ AnswersHarmless t op := by
  cases op with
  | draw region =>
      refine iff_of_true (fun damage hdamage x y hxy => ?_) trivial
      have hactive := active_draw union t.dirty region
      obtain ⟨old, hold, rfl⟩ := Option.map_eq_some_iff.mp (hactive.symm.trans hdamage)
      exact (hunion old region x y).mpr (Or.imp_left (hstale old hold x y) hxy)
  | block a =>
      cases hactive : t.dirty.active with
      | none =>
          have hafter := block_inactive hactive a
          refine iff_of_true (fun damage hdamage => ?_) fun damage hdamage => ?_
          · have hnone := hafter.symm.trans hdamage
            cases hnone
          · rw [hactive] at hdamage
            cases hdamage
      | some region =>
          have hok : AnswersHarmless t (.block a) ↔ Harmless region.rects.length a := by
            simp only [AnswersHarmless, hactive, Option.mem_def, Option.some.injEq, forall_eq']
          rw [hok]
          rcases block_outcome hactive a with
            ⟨hharmless, ⟨hsame, -⟩ | ⟨hempty, htold⟩ | hoff⟩ | ⟨hharmless, hempty, x, y, hxy, hleft⟩
          · refine iff_of_true (fun damage hdamage x y hxy => ?_) hharmless
            have hregion := Option.some.inj (hsame.symm.trans hdamage)
            exact hregion ▸ hstale region hactive x y hxy.1
          · refine iff_of_true (fun damage _ x y hxy => ?_) hharmless
            exact (hxy.2 (htold x y (hstale region hactive x y hxy.1))).elim
          · refine iff_of_true (fun damage hdamage => ?_) hharmless
            have hnone := hoff.symm.trans hdamage
            cases hnone
          · refine iff_of_false (fun hall => ?_) hharmless
            exact covers_empty x y (hall .empty hempty x y ⟨h region hactive x y hxy, hleft⟩)

/-- **No stale area is forgotten** in a run if and only if the answers to every dispatch are
harmless. -/
theorem stale_damaged_iff (fbId : Nat) (ops : List DirtyOp) :
    Always (dirtyStep union) StaleDamaged (.start fbId) ops ↔
      Guarded (dirtyStep union) AnswersHarmless (.start fbId) ops := by
  have hstale : DamageStale (.start fbId) := fun damage hdamage x y hxy => by
    cases hdamage
    exact (covers_empty x y hxy).elim
  have hdamaged : StaleDamaged (.start fbId) := fun _ _ _ _ hxy => hxy.elim
  exact always_iff_guarded (dirtyStep_damageStale hunion) (dirtyStep_staleDamaged hunion) hstale
    hdamaged ops

end Runs

end LoongsonVideo.Driver.DirtyUpdate
