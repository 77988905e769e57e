import LoongsonVideo.Verified.Writes
import Mathlib.Algebra.Ring.Nat
import Mathlib.Data.Finset.Card
import Mathlib.Data.Finset.Range

/-!
# Loading a palette

`drmmode_load_palette` of `src/drmmode_display.c`.  At depth 16 red and blue have 32
entries of 8 places and green has 64 of 4, and the guard that keeps the upper half of the
map off red and blue looks at the position in the list, not at the index.
`loadPalette_iff` says for which lists the tables are those of the set of colours.
-/

namespace LoongsonVideo.Driver.Palette

open LoongsonVideo.Verified.Writes

/-- The three tables of a CRTC. -/
inductive Channel where
  | red | green | blue
  deriving DecidableEq, Repr

/-- `LOCO`. -/
structure LOCO where
  red : UInt16
  green : UInt16
  blue : UInt16
  deriving DecidableEq, Repr

/-- `colors[index].red`, `.green` and `.blue`. -/
def LOCO.part (c : LOCO) : Channel → UInt16
  | .red => c.red
  | .green => c.green
  | .blue => c.blue

/-- `lut_r`, `lut_g` and `lut_b`. -/
abbrev Lut := Channel → Fin 256 → UInt16

/-- The assignments of the loop bodies for `index = indices[i]`. -/
def stores (depth : Int) (colors : Nat → LOCO) (i index : Nat) :
    List (Write Channel UInt16) :=
  if depth = 15 then
    (List.range 8).flatMap fun j =>
      [⟨.red, index * 8 + j, (colors index).red <<< 6⟩,
       ⟨.green, index * 8 + j, (colors index).green <<< 6⟩,
       ⟨.blue, index * 8 + j, (colors index).blue <<< 6⟩]
  else if depth = 16 then
    -- the guard is on the position in the list
    (if i ≤ 31 then
      (List.range 8).flatMap fun j =>
        [⟨.red, index * 8 + j, (colors index).red <<< 6⟩,
         ⟨.blue, index * 8 + j, (colors index).blue <<< 6⟩]
    else []) ++
    (List.range 4).flatMap fun j => [⟨.green, index * 4 + j, (colors index).green <<< 6⟩]
  else
    [⟨.red, index, (colors index).red <<< 6⟩, ⟨.green, index, (colors index).green <<< 6⟩,
     ⟨.blue, index, (colors index).blue <<< 6⟩]

/-- The loops over `indices`, from position `i` on. -/
def colorLoop (depth : Int) (colors : Nat → LOCO) : Nat → List Nat → Lut → Option Lut
  | _, [], lut => some lut
  | i, index :: rest, lut =>
      (writeAll lut (stores depth colors i index)).bind (colorLoop depth colors (i + 1) rest)

/-- The tables `drmmode_load_palette` hands to the gamma hook of each CRTC, from what the
CRTC's private tables hold; `none` when it writes outside a table. -/
def drmmodeLoadPalette (depth : Int) (indices : List Nat) (colors : Nat → LOCO) :
    List Lut → Option (List Lut)
  | [] => some []
  | crtc :: crtcs =>
      (colorLoop depth colors 0 indices fun k p => crtc k p <<< 6).bind fun lut =>
        (drmmodeLoadPalette depth indices colors crtcs).map (lut :: ·)

/-! ## The tables of a set of colours -/

/-- The size of the colour map of a depth. -/
def mapSize (depth : Int) : Nat :=
  if depth = 15 then 32 else if depth = 16 then 64 else 256

/-- The number of places an index has in a table. -/
def width (depth : Int) (k : Channel) : Nat :=
  if depth = 15 then 8
  else if depth = 16 then (if k = .green then 4 else 8)
  else 1

/-- The pairs of an index and its colour that a list stands for. -/
def pairs (indices : List Nat) (colors : Nat → LOCO) (index : Nat) : Option LOCO :=
  if index ∈ indices then some (colors index) else none

/-- The tables that a set of pairs asks for: a place belongs to one index. -/
def paletteOf (depth : Int) (pairs : Nat → Option LOCO) (crtc : Lut) : Lut := fun k p =>
  match pairs (p / width depth k) with
  | some c => c.part k <<< 6
  | none => crtc k p <<< 6

/-- A list of indices for the colour map of a depth. -/
structure Valid (depth : Int) (indices : List Nat) : Prop where
  nodup : indices.Nodup
  below : ∀ index ∈ indices, index < mapSize depth

/-- At depth 16 the first 32 of the list have places in the red and blue tables. -/
def Fits (depth : Int) (indices : List Nat) : Prop :=
  depth = 16 → ∀ index ∈ indices.take 32, index ≤ 31

/-! ## The assignments of one index -/

section Stores

variable {depth : Int} {colors : Nat → LOCO} {i index : Nat}

/-- The tables that position `i` reaches. -/
def Reaches (depth : Int) (i : Nat) (k : Channel) : Prop :=
  depth = 16 → k ≠ .green → i ≤ 31

private theorem place_iff {n p q : Nat} {v c : UInt16} :
    (∃ j < n, p = q + j ∧ v = c) ↔ v = c ∧ ∃ j < n, p = q + j :=
  ⟨fun ⟨j, hj, hp, hv⟩ => ⟨hv, j, hj, hp⟩, fun ⟨hv, j, hj, hp⟩ => ⟨j, hj, hp, hv⟩⟩

/-- What the loop bodies assign, table by table. -/
theorem mem_stores (w : Write Channel UInt16) :
    w ∈ stores depth colors i index ↔
      Reaches depth i w.table ∧ w.value = (colors index).part w.table <<< 6 ∧
        ∃ j < width depth w.table, w.position = index * width depth w.table + j := by
  obtain ⟨k, p, v⟩ := w
  by_cases h15 : depth = 15
  · subst h15
    cases k <;> simp [stores, width, Reaches, LOCO.part, place_iff]
  · by_cases h16 : depth = 16
    · subst h16
      by_cases hguard : i ≤ 31 <;>
        cases k <;> simp [stores, width, Reaches, hguard, LOCO.part, place_iff]
    · cases k <;> simp [stores, width, h15, h16, Reaches, LOCO.part, and_comm]

/-- An index has the places that lead back to it. -/
theorem hits_iff (colors : Nat → LOCO) (k : Channel) (p : Nat) :
    (∃ w ∈ stores depth colors i index, w.Hits k p) ↔
      Reaches depth i k ∧ p / width depth k = index := by
  have hpos : 0 < width depth k := by
    unfold width
    split
    · omega
    · split
      · split <;> omega
      · omega
  constructor
  · intro h
    obtain ⟨w, hw, rfl, rfl⟩ := h
    obtain ⟨hreaches, -, j, hj, hp⟩ := (mem_stores w).mp hw
    refine ⟨hreaches, ?_⟩
    rw [hp, Nat.mul_comm, Nat.mul_add_div hpos, Nat.div_eq_of_lt hj, Nat.add_zero]
  · intro h
    obtain ⟨hreaches, rfl⟩ := h
    have hsplit : p = p / width depth k * width depth k + p % width depth k := by
      rw [Nat.mul_comm, Nat.div_add_mod]
    exact ⟨⟨k, p, (colors (p / width depth k)).part k <<< 6⟩,
      (mem_stores _).mpr ⟨hreaches, rfl, p % width depth k, Nat.mod_lt p hpos, hsplit⟩, rfl, rfl⟩

/-- The assignments stay inside the tables unless an index above 31 gets past the guard. -/
theorem stores_inside_iff (colors : Nat → LOCO) (hbelow : index < mapSize depth) :
    (∀ w ∈ stores depth colors i index, w.position < 256) ↔
      (depth = 16 → i ≤ 31 → index ≤ 31) := by
  constructor
  · intro h h16 hguard
    subst h16
    have hplace : ∃ w ∈ stores 16 colors i index, w.Hits .red (index * 8) :=
      (hits_iff colors .red (index * 8)).mpr ⟨fun _ _ => hguard, by simp [width]⟩
    obtain ⟨w, hw, -, hp⟩ := hplace
    have hin := h w hw
    omega
  · intro h w hw
    obtain ⟨hreaches, -, j, hj, hp⟩ := (mem_stores w).mp hw
    unfold mapSize at hbelow
    unfold width at hj hp
    by_cases h15 : depth = 15
    · rw [if_pos h15] at hbelow hj hp
      omega
    · rw [if_neg h15] at hbelow hj hp
      by_cases h16 : depth = 16
      · rw [if_pos h16] at hbelow hj hp
        by_cases hgreen : w.table = .green
        · rw [if_pos hgreen] at hj hp
          omega
        · rw [if_neg hgreen] at hj hp
          have hindex := h h16 (hreaches h16 hgreen)
          omega
      · rw [if_neg h16] at hbelow hj hp
        omega

end Stores

/-! ## A whole list -/

section Lists

variable {depth : Int} {colors : Nat → LOCO}

/-- The assignments of the loops, in order. -/
def allStores (depth : Int) (colors : Nat → LOCO) : Nat → List Nat → List (Write Channel UInt16)
  | _, [] => []
  | i, index :: rest => stores depth colors i index ++ allStores depth colors (i + 1) rest

theorem colorLoop_eq (i : Nat) (indices : List Nat) (lut : Lut) :
    colorLoop depth colors i indices lut = writeAll lut (allStores depth colors i indices) := by
  induction indices generalizing i lut with
  | nil => rfl
  | cons index rest ih =>
      rw [colorLoop, allStores, writeAll_append]
      congr 1
      funext next
      exact ih (i + 1) next

theorem mem_allStores {i : Nat} {indices : List Nat} {w : Write Channel UInt16} :
    w ∈ allStores depth colors i indices ↔
      ∃ n, ∃ h : n < indices.length, w ∈ stores depth colors (i + n) indices[n] := by
  induction indices generalizing i with
  | nil => simp [allStores]
  | cons index rest ih =>
      rw [allStores, List.mem_append, ih]
      constructor
      · intro h
        cases h with
        | inl hhead => exact ⟨0, by simp, hhead⟩
        | inr htail =>
            obtain ⟨n, hn, hw⟩ := htail
            refine ⟨n + 1, by simpa using hn, ?_⟩
            rwa [List.getElem_cons_succ, ← Nat.add_assoc, Nat.add_right_comm]
      · intro h
        obtain ⟨n, hn, hw⟩ := h
        cases n with
        | zero => exact Or.inl hw
        | succ n =>
            refine Or.inr ⟨n, by simpa using hn, ?_⟩
            rwa [List.getElem_cons_succ, ← Nat.add_assoc, Nat.add_right_comm] at hw

/-- Which lists stay inside the tables. -/
theorem allStores_inside_iff (colors : Nat → LOCO) {indices : List Nat}
    (hvalid : Valid depth indices) :
    (∀ w ∈ allStores depth colors 0 indices, w.position < 256) ↔ Fits depth indices := by
  constructor
  · intro h h16 index hindex
    obtain ⟨n, hn, rfl⟩ := List.mem_take_iff_getElem.mp hindex
    have hlen : n < indices.length := by omega
    have hinside := (stores_inside_iff (i := n) colors
      (hvalid.below _ (List.getElem_mem hlen))).mp
      (fun w hw => h w (mem_allStores.mpr ⟨n, hlen, by rwa [Nat.zero_add]⟩))
    exact hinside h16 (by omega)
  · intro h w hw
    obtain ⟨n, hn, hw⟩ := mem_allStores.mp hw
    rw [Nat.zero_add] at hw
    have hinside := (stores_inside_iff (i := n) colors
      (hvalid.below _ (List.getElem_mem hn))).mpr
      (fun h16 hguard => h h16 _ (List.mem_take_iff_getElem.mpr ⟨n, by omega, rfl⟩))
    exact hinside w hw

/-- In a list that fits, the guard on the position is the guard on the index: once the
first 32 are below 32, all of these are there. -/
theorem Fits.reaches {indices : List Nat} (hfits : Fits depth indices)
    (hvalid : Valid depth indices) {n : Nat} (hn : n < indices.length) {k : Channel} {p : Nat}
    (hp : p < 256) (hplace : p / width depth k = indices[n]) : Reaches depth n k := by
  intro h16 hgreen
  by_contra hafter
  have hwidth : width depth k = 8 := by simp [width, h16, hgreen]
  have hlow : indices[n] ≤ 31 := by
    rw [hwidth] at hplace
    omega
  have hsub : (indices.take 32).toFinset ⊆ Finset.range 32 := by
    intro index hindex
    have := hfits h16 index (List.mem_toFinset.mp hindex)
    exact Finset.mem_range.mpr (by omega)
  have hcard : (indices.take 32).toFinset.card = 32 := by
    rw [List.toFinset_card_of_nodup (hvalid.nodup.sublist (List.take_sublist 32 indices)),
      List.length_take]
    omega
  have hall : (indices.take 32).toFinset = Finset.range 32 :=
    Finset.eq_of_subset_of_card_le hsub (by rw [hcard, Finset.card_range])
  have hmem : indices[n] ∈ indices.take 32 := by
    rw [← List.mem_toFinset, hall]
    exact Finset.mem_range.mpr (by omega)
  obtain ⟨m, hm, heq⟩ := List.mem_take_iff_getElem.mp hmem
  have hsame := (List.Nodup.getElem_inj_iff hvalid.nodup).mp heq
  omega

/-- The loops give the tables of the set of pairs when the list fits, and leave the tables
when it does not. -/
theorem colorLoop_iff (colors : Nat → LOCO) {indices : List Nat} (hvalid : Valid depth indices)
    (crtc : Lut) :
    colorLoop depth colors 0 indices (fun k p => crtc k p <<< 6) =
        some (paletteOf depth (pairs indices colors) crtc) ↔ Fits depth indices := by
  rw [colorLoop_eq, ← allStores_inside_iff colors hvalid]
  constructor
  · intro h
    exact (writeAll_isSome_iff _ _).mp (by rw [h]; rfl)
  · intro hinside
    have hfits := (allStores_inside_iff colors hvalid).mp hinside
    obtain ⟨final, hfinal⟩ := Option.isSome_iff_exists.mp
      ((writeAll_isSome_iff (fun k p => crtc k p <<< 6) _).mpr hinside)
    rw [hfinal]
    congr 1
    funext k p
    let agreed : Channel → Nat → UInt16 := fun k p => (colors (p / width depth k)).part k <<< 6
    have hagree : ∀ w ∈ allStores depth colors 0 indices,
        w.value = agreed w.table w.position := by
      intro w hw
      obtain ⟨n, hn, hw⟩ := mem_allStores.mp hw
      have hhit := (hits_iff colors w.table w.position).mp ⟨w, hw, rfl, rfl⟩
      show w.value = (colors (w.position / width depth w.table)).part w.table <<< 6
      rw [hhit.2]
      exact ((mem_stores w).mp hw).2.1
    have hhits : (∃ w ∈ allStores depth colors 0 indices, w.Hits k p) ↔
        p / width depth k ∈ indices := by
      constructor
      · intro h
        obtain ⟨w, hw, hits⟩ := h
        obtain ⟨n, hn, hw⟩ := mem_allStores.mp hw
        rw [((hits_iff colors k p).mp ⟨w, hw, hits⟩).2]
        exact List.getElem_mem hn
      · intro h
        obtain ⟨n, hn, hplace⟩ := List.getElem_of_mem h
        have hreaches := hfits.reaches hvalid hn p.isLt hplace.symm
        rw [← Nat.zero_add n] at hreaches
        obtain ⟨w, hw, hits⟩ := (hits_iff colors k p).mpr ⟨hreaches, hplace.symm⟩
        exact ⟨w, mem_allStores.mpr ⟨n, hn, hw⟩, hits⟩
    rw [writeAll_of_agree hagree hfinal k p]
    by_cases hin : p / width depth k ∈ indices
    · rw [if_pos (hhits.mpr hin)]
      simp [paletteOf, pairs, hin, agreed]
    · rw [if_neg (mt hhits.mp hin)]
      simp [paletteOf, pairs, hin]

theorem colorLoop_none {indices : List Nat} (hvalid : Valid depth indices)
    (hfits : ¬ Fits depth indices) (lut : Lut) : colorLoop depth colors 0 indices lut = none := by
  rw [colorLoop_eq, ← Option.not_isSome_iff_eq_none, writeAll_isSome_iff,
    allStores_inside_iff colors hvalid]
  exact hfits

theorem loadPalette_of_fits {indices : List Nat} (hvalid : Valid depth indices)
    (hfits : Fits depth indices) (crtcs : List Lut) :
    drmmodeLoadPalette depth indices colors crtcs =
      some (crtcs.map (paletteOf depth (pairs indices colors))) := by
  induction crtcs with
  | nil => rfl
  | cons crtc crtcs ih =>
      have hcrtc := (colorLoop_iff colors hvalid crtc).mpr hfits
      rw [drmmodeLoadPalette, hcrtc, ih]
      rfl

/-- A list of colours loads as the set of its pairs exactly when it fits: the tables of
every CRTC are written inside their 256 places, and no order of the list changes them. -/
theorem loadPalette_iff {indices : List Nat} (hvalid : Valid depth indices) (crtcs : List Lut) :
    drmmodeLoadPalette depth indices colors crtcs =
        some (crtcs.map (paletteOf depth (pairs indices colors))) ↔
      crtcs = [] ∨ Fits depth indices := by
  cases crtcs with
  | nil => exact iff_of_true rfl (Or.inl rfl)
  | cons crtc crtcs =>
      constructor
      · intro h
        refine Or.inr (Classical.byContradiction fun hfits => ?_)
        rw [drmmodeLoadPalette, colorLoop_none hvalid hfits] at h
        cases h
      · intro h
        exact loadPalette_of_fits hvalid (h.resolve_left (List.cons_ne_nil crtc crtcs)) _

end Lists

/-- The red and blue entries from the last to the first, and two green ones after them. -/
theorem loadPalette_iff_reversed :
    let indices := (List.range 32).reverse ++ [40, 33]
    let colors := fun index => (⟨1, 2, index.toUInt16⟩ : LOCO)
    drmmodeLoadPalette 16 indices colors [fun _ _ => 0, fun _ _ => 7] =
      some [paletteOf 16 (pairs indices colors) fun _ _ => 0,
        paletteOf 16 (pairs indices colors) fun _ _ => 7] :=
  (loadPalette_iff ⟨by decide, by decide⟩ [fun _ _ => 0, fun _ _ => 7]).mpr
    (Or.inr fun _ => by decide)

/-- The green entries above 31 loaded alone: the guard lets the list's first position
through, and red and blue are written from place 320 on. -/
theorem loadPalette_leaves_tables :
    Valid 16 [40] ∧
      (∃ w ∈ stores 16 (fun _ => ⟨1, 2, 3⟩) 0 40, w.table = .red ∧ w.position = 320) ∧
      drmmodeLoadPalette 16 [40] (fun _ => ⟨1, 2, 3⟩) [fun _ _ => 0] = none := by
  exact ⟨⟨by decide, by decide⟩, by decide, rfl⟩

section Order

variable {depth : Int} {colors : Nat → LOCO}

/-- A permutation of a list loads the same tables. -/
theorem loadPalette_perm {indices indices' : List Nat} (hvalid : Valid depth indices)
    (hperm : indices.Perm indices') (hfits : Fits depth indices) (hfits' : Fits depth indices')
    (crtcs : List Lut) :
    drmmodeLoadPalette depth indices' colors crtcs =
      drmmodeLoadPalette depth indices colors crtcs := by
  have hvalid' : Valid depth indices' :=
    ⟨hperm.nodup_iff.mp hvalid.nodup, fun index h => hvalid.below index (hperm.mem_iff.mpr h)⟩
  have hpairs : pairs indices' colors = pairs indices colors := by
    funext index
    simp only [pairs, hperm.mem_iff]
  rw [loadPalette_of_fits hvalid' hfits', loadPalette_of_fits hvalid hfits, hpairs]

/-- The entries of an index are those of its own colour, whatever else is loaded. -/
theorem paletteOf_alone {indices : List Nat} {index : Nat} (hindex : index ∈ indices)
    (crtc : Lut) {k : Channel} {p : Fin 256} (hplace : p / width depth k = index) :
    paletteOf depth (pairs [index] colors) crtc k p =
      paletteOf depth (pairs indices colors) crtc k p := by
  simp [paletteOf, pairs, hplace, hindex]

end Order

end LoongsonVideo.Driver.Palette
