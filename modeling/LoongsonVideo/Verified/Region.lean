import Mathlib.Data.Int.Order.Basic
import Mathlib.Order.Lattice

/-!
# Regions of pixels

A region is a set of pixels that a window system keeps as a list of rectangles.
`RegionOps` is the interface with the laws that make it exact: what is in the region
is decided pixel by pixel, and the extents are the least box around it.

`boxList` is the interface on plain lists of boxes, where everything can be computed.
-/

namespace LoongsonVideo.Verified

/-- A half-open box of pixels. -/
structure Box where
  x1 : Int
  y1 : Int
  x2 : Int
  y2 : Int
  deriving DecidableEq, Repr

/-- The pixel is in the box. -/
def Box.mem (b : Box) (x y : Int) : Bool :=
  decide (b.x1 ≤ x) && decide (x < b.x2) && decide (b.y1 ≤ y) && decide (y < b.y2)

@[simp] theorem Box.mem_iff {b : Box} {x y : Int} :
    b.mem x y = true ↔ b.x1 ≤ x ∧ x < b.x2 ∧ b.y1 ≤ y ∧ y < b.y2 := by
  simp [Box.mem, and_assoc]

/-- One box lies in another. -/
def Box.within (a b : Box) : Prop := b.x1 ≤ a.x1 ∧ a.x2 ≤ b.x2 ∧ b.y1 ≤ a.y1 ∧ a.y2 ≤ b.y2

instance (a b : Box) : Decidable (a.within b) :=
  inferInstanceAs (Decidable (_ ∧ _ ∧ _ ∧ _))

/-- How a box lies to a region. -/
inductive Overlap where
  | out
  | inside
  | part
  deriving DecidableEq, Repr

/-- Exact regions. -/
structure RegionOps (R : Type*) where
  mem : R → Int → Int → Bool
  extents : R → Box
  containsRect : R → Box → Overlap
  fromRects : List Box → R
  intersect : R → R → R
  mem_extents : ∀ {r x y}, mem r x y = true → (extents r).mem x y = true
  extents_least : ∀ {r b x y}, mem r x y = true →
    (∀ x y, mem r x y = true → b.mem x y = true) → (extents r).within b
  containsRect_eq_out : ∀ {r b}, containsRect r b = .out ↔
    ∀ x y, b.mem x y = true → mem r x y = false
  mem_fromRects : ∀ {l x y}, mem (fromRects l) x y = true ↔ ∃ b ∈ l, b.mem x y = true
  mem_intersect : ∀ {r r' x y},
    mem (intersect r r') x y = true ↔ mem r x y = true ∧ mem r' x y = true

/-! ## Lists of boxes -/

/-- The common part of two boxes. -/
def Box.inter (a b : Box) : Box :=
  ⟨max a.x1 b.x1, max a.y1 b.y1, min a.x2 b.x2, min a.y2 b.y2⟩

/-- The least box around two. -/
def Box.hull (a b : Box) : Box :=
  ⟨min a.x1 b.x1, min a.y1 b.y1, max a.x2 b.x2, max a.y2 b.y2⟩

/-- The box has a pixel. -/
def Box.hasPixel (b : Box) : Bool := decide (b.x1 < b.x2) && decide (b.y1 < b.y2)

theorem Box.mem_inter {a b : Box} {x y : Int} :
    (a.inter b).mem x y = true ↔ a.mem x y = true ∧ b.mem x y = true := by
  simp only [Box.mem_iff, Box.inter]
  omega

theorem Box.hasPixel_iff {b : Box} : b.hasPixel = true ↔ ∃ x y, b.mem x y = true := by
  simp only [Box.hasPixel, Bool.and_eq_true, decide_eq_true_eq, Box.mem_iff]
  constructor
  · rintro ⟨hx, hy⟩
    exact ⟨b.x1, b.y1, Int.le_refl _, hx, Int.le_refl _, hy⟩
  · rintro ⟨x, y, hx1, hx2, hy1, hy2⟩
    exact ⟨by omega, by omega⟩

/-- The least box around the boxes that have a pixel. -/
def hullAll : List Box → Option Box
  | [] => none
  | b :: l =>
      if b.hasPixel then
        match hullAll l with
        | none => some b
        | some h => some (b.hull h)
      else hullAll l

theorem mem_hullAll {l : List Box} {b : Box} {x y : Int} (hb : b ∈ l)
    (hmem : b.mem x y = true) : ∃ h, hullAll l = some h ∧ h.mem x y = true := by
  induction l with
  | nil => cases hb
  | cons a l ih =>
      rcases List.mem_cons.mp hb with rfl | hb
      · have hpixel : b.hasPixel = true := Box.hasPixel_iff.mpr ⟨x, y, hmem⟩
        cases hl : hullAll l with
        | none => exact ⟨b, by simp [hullAll, hpixel, hl], hmem⟩
        | some h =>
            refine ⟨b.hull h, by simp [hullAll, hpixel, hl], ?_⟩
            simp only [Box.mem_iff, Box.hull] at hmem ⊢
            omega
      · obtain ⟨h, hl, hx⟩ := ih hb
        by_cases hpixel : a.hasPixel = true
        · refine ⟨a.hull h, by simp [hullAll, hpixel, hl], ?_⟩
          simp only [Box.mem_iff, Box.hull] at hx ⊢
          omega
        · exact ⟨h, by simp [hullAll, hpixel, hl], hx⟩

/-- A box that has a pixel and whose pixels are all in another lies in it. -/
theorem Box.within_of_mem {a b : Box} (hpixel : a.hasPixel = true)
    (h : ∀ x y, a.mem x y = true → b.mem x y = true) : a.within b := by
  simp only [Box.hasPixel, Bool.and_eq_true, decide_eq_true_eq] at hpixel
  have hfirst := h a.x1 a.y1 (by simp only [Box.mem_iff]; omega)
  have hlast := h (a.x2 - 1) (a.y2 - 1) (by simp only [Box.mem_iff]; omega)
  simp only [Box.mem_iff] at hfirst hlast
  refine ⟨?_, ?_, ?_, ?_⟩ <;> omega

theorem hullAll_within {l : List Box} {b h : Box}
    (hl : ∀ a ∈ l, ∀ x y, a.mem x y = true → b.mem x y = true) (hh : hullAll l = some h) :
    h.within b := by
  induction l generalizing h with
  | nil => cases hh
  | cons a l ih =>
      have htail : ∀ a ∈ l, ∀ x y, a.mem x y = true → b.mem x y = true :=
        fun c hc => hl c (List.mem_cons_of_mem a hc)
      by_cases hpixel : a.hasPixel = true
      · have ha := Box.within_of_mem hpixel (hl a List.mem_cons_self)
        cases hrest : hullAll l with
        | none =>
            simp only [hullAll, hpixel, hrest, if_true, Option.some.injEq] at hh
            rwa [← hh]
        | some g =>
            simp only [hullAll, hpixel, hrest, if_true, Option.some.injEq] at hh
            have hg := ih htail hrest
            rw [← hh]
            simp only [Box.within, Box.hull] at ha hg ⊢
            omega
      · simp only [hullAll, hpixel, if_false, Bool.false_eq_true] at hh
        exact ih htail hh

/-- Regions as lists of boxes. -/
def boxList : RegionOps (List Box) where
  mem l x y := l.any fun b => b.mem x y
  extents l := (hullAll l).getD ⟨0, 0, 0, 0⟩
  containsRect l b :=
    if l.any fun a => (a.inter b).hasPixel then
      if l.any fun a => decide (b.within a) then .inside else .part
    else .out
  fromRects l := l
  intersect l l' := l.flatMap fun a => l'.map a.inter
  mem_extents {l x y} h := by
    obtain ⟨b, hb, hmem⟩ := List.any_eq_true.mp h
    obtain ⟨hull, hl, hx⟩ := mem_hullAll hb hmem
    rwa [hl]
  extents_least {l b x y} h hall := by
    obtain ⟨a, ha, hmem⟩ := List.any_eq_true.mp h
    obtain ⟨hull, hl, -⟩ := mem_hullAll ha hmem
    rw [hl]
    exact hullAll_within (fun c hc x y hx => hall x y (List.any_eq_true.mpr ⟨c, hc, hx⟩)) hl
  containsRect_eq_out {l b} := by
    have houtside : (l.any fun a => (a.inter b).hasPixel) = false ↔
        ∀ x y, b.mem x y = true → (l.any fun a => a.mem x y) = false := by
      rw [← Bool.not_eq_true, List.any_eq_true]
      constructor
      · intro h x y hx
        rw [← Bool.not_eq_true, List.any_eq_true]
        rintro ⟨a, ha, hmem⟩
        exact h ⟨a, ha, Box.hasPixel_iff.mpr ⟨x, y, Box.mem_inter.mpr ⟨hmem, hx⟩⟩⟩
      · rintro h ⟨a, ha, hpixel⟩
        obtain ⟨x, y, hmem⟩ := Box.hasPixel_iff.mp hpixel
        obtain ⟨hax, hbx⟩ := Box.mem_inter.mp hmem
        have hnone := h x y hbx
        rw [← Bool.not_eq_true, List.any_eq_true] at hnone
        exact hnone ⟨a, ha, hax⟩
    rw [← houtside]
    by_cases hany : (l.any fun a => (a.inter b).hasPixel) = true
    · simp only [hany, if_true, Bool.true_eq_false, iff_false]
      split <;> simp
    · simp [hany]
  mem_fromRects {l x y} := List.any_eq_true
  mem_intersect {l l' x y} := by
    simp only [List.any_eq_true, List.mem_flatMap, List.mem_map]
    constructor
    · rintro ⟨c, ⟨a, ha, b, hb, rfl⟩, hmem⟩
      obtain ⟨hax, hbx⟩ := Box.mem_inter.mp hmem
      exact ⟨⟨a, ha, hax⟩, ⟨b, hb, hbx⟩⟩
    · rintro ⟨⟨a, ha, hax⟩, ⟨b, hb, hbx⟩⟩
      exact ⟨a.inter b, ⟨a, ha, b, hb, rfl⟩, Box.mem_inter.mpr ⟨hax, hbx⟩⟩

end LoongsonVideo.Verified
