import LoongsonVideo.Driver.Shadow
import Mathlib.Tactic.Linarith
import Mathlib.Tactic.Ring

/-!
# The tiled update copies what the plain one does

`shadow_update_refines`: with the two buffers equal outside the damage and the scanout
showing the second one, the tiled path of `LS_ShadowUpdatePacked` leaves on the scanout
what the plain path leaves there, makes the two buffers equal everywhere, only shrinks
the damage, and touches nothing outside the buffers and the rectangle array.

The argument follows one pixel.  After the tiles done so far, `shadow_fb2` is one of the
two old buffers at every byte; it is the old `shadow_fb2` on every pixel that is in no
stored rectangle; and it is `shadow_fb` on every damaged pixel of a tile that is done
(`TileInv`).  At the end every damaged pixel is done, so a damaged pixel that is in no
rectangle was equal in both buffers, and the scanout already shows it.
-/

namespace LoongsonVideo.Driver.ShadowUpdate

open LoongsonVideo.Driver.Shadow
open LoongsonVideo.Verified

/-! ## Where things are -/

theorem u32_natCast {n : Nat} (h : n < 2 ^ 32) : u32 n = n := by
  have hmod : (n : Int) % 2 ^ 32 = n := Int.emod_eq_of_lt (by omega) (by exact_mod_cast h)
  rw [u32, hmod, Int.toNat_natCast]

theorem u32_eq {z : Int} {n : Nat} (hz : z = n) (hn : n < 2 ^ 32) : u32 z = n := by
  rw [hz, u32_natCast hn]

section Geometry

variable (screen : Screen)

theorem shadowSize_eq : screen.shadowSize =
    screen.displayWidth * screen.virtualY * ((screen.bitsPerPixel + 7) / 8) := by
  have hcast : ((screen.displayWidth : Int) * screen.virtualY *
      ((screen.bitsPerPixel + 7) / 8 : Int)) =
      ((screen.displayWidth * screen.virtualY * ((screen.bitsPerPixel + 7) / 8) : Nat) : Int) := by
    push_cast
    rfl
  rw [Screen.shadowSize, hcast, u32_natCast screen.fits]

theorem shadowSize_lt : screen.shadowSize < 2 ^ 32 := by
  rw [shadowSize_eq]
  exact screen.fits

/-- A shadow buffer holds all lines. -/
theorem lines_fit : screen.virtualY * screen.devKind ≤ screen.shadowSize := by
  have hcpp : screen.cpp ≤ (screen.bitsPerPixel + 7) / 8 := by
    rw [Screen.cpp]
    omega
  have hmul := Nat.mul_le_mul_left (screen.displayWidth * screen.virtualY) hcpp
  rw [shadowSize_eq, Screen.devKind]
  calc screen.virtualY * (screen.displayWidth * screen.cpp)
      = screen.displayWidth * screen.virtualY * screen.cpp := by ring
    _ ≤ _ := hmul

theorem offset_natCast (x y : Nat) :
    screen.offset x y = y * screen.devKind + x * screen.cpp := by
  rw [Screen.offset, ← Int.natCast_mul, ← Int.natCast_mul, ← Int.natCast_add,
    Int.toNat_natCast]

/-- A byte of a pixel is in a line's range of columns exactly when the pixel is: lines do
not overlap. -/
theorem byte_in_row {x y c x1 x2 line : Nat} (hx : x < screen.displayWidth)
    (hx2 : x2 ≤ screen.displayWidth) (hc : c < screen.cpp) :
    (line * screen.devKind + x1 * screen.cpp ≤ y * screen.devKind + x * screen.cpp + c ∧
        y * screen.devKind + x * screen.cpp + c <
          line * screen.devKind + x2 * screen.cpp) ↔
      y = line ∧ x1 ≤ x ∧ x < x2 := by
  have hend : x * screen.cpp + c < screen.devKind := by
    have hle : (x + 1) * screen.cpp ≤ screen.displayWidth * screen.cpp :=
      Nat.mul_le_mul_right _ hx
    rw [Screen.devKind]
    rw [Nat.add_mul] at hle
    omega
  have hrow : x2 * screen.cpp ≤ screen.devKind := Nat.mul_le_mul_right _ hx2
  constructor
  · rintro ⟨hlow, hhigh⟩
    have hline : y = line := by
      rcases Nat.lt_trichotomy y line with hlt | heq | hgt
      · have hle : (y + 1) * screen.devKind ≤ line * screen.devKind :=
          Nat.mul_le_mul_right _ hlt
        rw [Nat.add_mul] at hle
        omega
      · exact heq
      · have hle : (line + 1) * screen.devKind ≤ y * screen.devKind :=
          Nat.mul_le_mul_right _ hgt
        rw [Nat.add_mul] at hle
        omega
    subst hline
    refine ⟨rfl, ?_, ?_⟩
    · by_contra hlt
      have hle : (x + 1) * screen.cpp ≤ x1 * screen.cpp :=
        Nat.mul_le_mul_right _ (Nat.lt_of_not_le hlt)
      rw [Nat.add_mul] at hle
      omega
    · by_contra hge
      have hle : x2 * screen.cpp ≤ x * screen.cpp :=
        Nat.mul_le_mul_right _ (Nat.le_of_not_lt hge)
      omega
  · rintro ⟨rfl, hlow, hhigh⟩
    have hle : x1 * screen.cpp ≤ x * screen.cpp := Nat.mul_le_mul_right _ hlow
    have hle' : (x + 1) * screen.cpp ≤ x2 * screen.cpp := Nat.mul_le_mul_right _ hhigh
    rw [Nat.add_mul] at hle'
    omega

end Geometry

/-! ## One tile -/

/-- The byte is in one of `n` rows of `width` bytes, the first at `pos`. -/
def InRows (pos stride width n k : Nat) : Prop :=
  ∃ r < n, pos + r * stride ≤ k ∧ k < pos + r * stride + width

theorem inRows_succ {pos stride width n k : Nat} :
    InRows pos stride width (n + 1) k ↔
      (pos ≤ k ∧ k < pos + width) ∨ InRows (pos + stride) stride width n k := by
  constructor
  · rintro ⟨r, hr, hlow, hhigh⟩
    cases r with
    | zero => exact Or.inl (by omega)
    | succ r =>
        rw [Nat.add_mul] at hlow hhigh
        exact Or.inr ⟨r, by omega, by omega, by omega⟩
  · rintro (⟨hlow, hhigh⟩ | ⟨r, hr, hlow, hhigh⟩)
    · exact ⟨0, by omega, by omega, by omega⟩
    · refine ⟨r + 1, by omega, ?_, ?_⟩ <;> rw [Nat.add_mul] <;> omega

/-- **The rows of a tile**: `shadow_fb2` gets the bytes of `shadow_fb` in them, and it is
called dirty unless nothing changed. -/
theorem updateRows_spec (fb : Bytes) (stride width : Nat) (n pos : Nat) (old : Bytes)
    (dirty : Bool) (hsize : old.size = fb.size)
    (hfits : ∀ r < n, pos + r * stride + width ≤ fb.size) :
    ∃ new flag, updateRows fb stride width n pos old dirty = some (new, flag) ∧
      new.size = old.size ∧
      (∀ k, InRows pos stride width n k → new.get k = fb.get k) ∧
      (∀ k, ¬ InRows pos stride width n k → new.get k = old.get k) ∧
      (flag = false → dirty = false ∧ new.get = old.get) := by
  induction n generalizing pos old dirty with
  | zero =>
      exact ⟨old, dirty, rfl, rfl, fun k ⟨_, hr, _⟩ => absurd hr (Nat.not_lt_zero _),
        fun _ _ => rfl, fun hflag => ⟨hflag, rfl⟩⟩
  | succ n ih =>
      have hhere : pos + width ≤ fb.size := by
        have hzero := hfits 0 (Nat.succ_pos n)
        omega
      have hrest : ∀ r < n, pos + stride + r * stride + width ≤ fb.size := by
        intro r hr
        have hnext := hfits (r + 1) (by omega)
        rw [Nat.add_mul] at hnext
        omega
      simp only [updateRows, memcmpEq_same (hsize ▸ hhere) hhere,
        memcpy_same (hsize ▸ hhere) hhere]
      by_cases hsame : ∀ k, pos ≤ k → k < pos + width → old.get k = fb.get k
      · obtain ⟨new, flag, hrun, hnew, hin, hout, hclean⟩ :=
          ih (pos + stride) old dirty hsize hrest
        rw [decide_eq_true hsame]
        refine ⟨new, flag, hrun, hnew, fun k hk => ?_, fun k hk => ?_, hclean⟩
        · by_cases hlater : InRows (pos + stride) stride width n k
          · exact hin k hlater
          · have hk := (inRows_succ.mp hk).resolve_right hlater
            rw [hout k hlater]
            exact hsame k hk.1 hk.2
        · exact hout k fun hlater => hk (inRows_succ.mpr (Or.inr hlater))
      · obtain ⟨new, flag, hrun, hnew, hin, hout, hclean⟩ := ih (pos + stride)
          ⟨old.size, fun k => if pos ≤ k ∧ k < pos + width then fb.get k else old.get k⟩ true
          hsize hrest
        rw [decide_eq_false hsame]
        refine ⟨new, flag, hrun, hnew, fun k hk => ?_, fun k hk => ?_, fun hflag => ?_⟩
        · by_cases hlater : InRows (pos + stride) stride width n k
          · exact hin k hlater
          · have hk := (inRows_succ.mp hk).resolve_right hlater
            rw [hout k hlater]
            exact if_pos hk
        · rw [hout k fun hlater => hk (inRows_succ.mpr (Or.inr hlater))]
          exact if_neg fun hhere => hk (inRows_succ.mpr (Or.inl hhere))
        · exact absurd (hclean hflag).1 (by decide)

section Tile

variable (screen : Screen)

/-- The pixels of a box in the screen are the rows that `msUpdateIntersect` walks. -/
theorem inRows_iff {x y c x1 y1 x2 y2 : Nat} (hx : x < screen.displayWidth)
    (hx2 : x2 ≤ screen.displayWidth) (hx12 : x1 ≤ x2) (hc : c < screen.cpp) :
    InRows (y1 * screen.devKind + x1 * screen.cpp) screen.devKind
        ((x2 - x1) * screen.cpp) (y2 - y1) (screen.offset x y + c) ↔
      (⟨x1, y1, x2, y2⟩ : Box).mem x y = true := by
  have hwidth : x1 * screen.cpp + (x2 - x1) * screen.cpp = x2 * screen.cpp := by
    rw [← Nat.add_mul, Nat.add_sub_cancel' hx12]
  have hrow : ∀ r, (y1 * screen.devKind + x1 * screen.cpp + r * screen.devKind ≤
        screen.offset x y + c ∧ screen.offset x y + c <
        y1 * screen.devKind + x1 * screen.cpp + r * screen.devKind + (x2 - x1) * screen.cpp) ↔
      y = y1 + r ∧ x1 ≤ x ∧ x < x2 := by
    intro r
    rw [← byte_in_row screen hx hx2 hc, offset_natCast, Nat.add_mul]
    omega
  simp only [InRows, hrow, Box.mem_iff]
  constructor
  · rintro ⟨r, hr, rfl, hlow, hhigh⟩
    omega
  · rintro ⟨hlow, hhigh, htop, hbottom⟩
    exact ⟨y - y1, by omega, by omega, by omega, by omega⟩

/-- **`msUpdateIntersect`** on a box of the screen: the box's pixels are copied, and the
box is stored if that changed anything. -/
theorem msUpdateIntersect_spec {fb old : Bytes} {box : Box} {rects : Rects}
    (hfb : fb.size = screen.shadowSize) (hold : old.size = screen.shadowSize)
    (hbox : box.within screen.box) (hpixel : box.hasPixel = true)
    (hroom : rects.filled.length < rects.capacity) :
    ∃ new rects', msUpdateIntersect screen fb old box rects = some (new, rects') ∧
      new.size = old.size ∧ rects'.capacity = rects.capacity ∧
      (∀ k, new.get k = old.get k ∨ new.get k = fb.get k) ∧
      (∀ x y, screen.box.mem x y = true → ∀ c < screen.cpp,
        box.mem x y = true → new.get (screen.offset x y + c) = fb.get (screen.offset x y + c)) ∧
      (∀ x y, screen.box.mem x y = true → ∀ c < screen.cpp,
        box.mem x y = false →
          new.get (screen.offset x y + c) = old.get (screen.offset x y + c)) ∧
      ((rects'.filled = rects.filled ∧ new.get = old.get) ∨
        ∃ r, r.box = box ∧ rects'.filled = rects.filled ++ [r]) := by
  obtain ⟨x1, y1, x2, y2⟩ := box
  simp only [Box.within, Screen.box] at hbox
  simp only [Box.hasPixel, Bool.and_eq_true, decide_eq_true_eq] at hpixel
  lift x1 to Nat using hbox.1
  lift y1 to Nat using hbox.2.2.1
  lift x2 to Nat using by omega
  lift y2 to Nat using by omega
  have hwide := screen.wide
  have hlines := lines_fit screen
  have hlt := shadowSize_lt screen
  have hx2 : x2 ≤ screen.displayWidth := by omega
  have hrow : x2 * screen.cpp ≤ screen.devKind := Nat.mul_le_mul_right _ hx2
  have hwidth : x1 * screen.cpp + (x2 - x1) * screen.cpp = x2 * screen.cpp := by
    rw [← Nat.add_mul, Nat.add_sub_cancel' (by omega)]
  have hline : ∀ y < screen.virtualY, y * screen.devKind + screen.devKind ≤ screen.shadowSize := by
    intro y hy
    have hle := Nat.mul_le_mul_right screen.devKind (Nat.succ_le_of_lt hy)
    rw [Nat.succ_mul] at hle
    omega
  have hstart := hline y1 (by omega)
  have hheight : screen.virtualY < 2 ^ 32 := by
    have hfits := screen.fits
    have hdeep := screen.deep
    have hcolumn : screen.virtualY * 1 ≤ screen.displayWidth * screen.virtualY *
        ((screen.bitsPerPixel + 7) / 8) :=
      Nat.mul_le_mul (Nat.le_mul_of_pos_left _ (by omega)) (by omega)
    omega
  have hstride : u32 screen.devKind = screen.devKind := u32_natCast (by omega)
  have hcolumns : u32 (((x2 : Int) - x1) * screen.cpp) = (x2 - x1) * screen.cpp :=
    u32_eq (by push_cast [Nat.cast_sub (show x1 ≤ x2 by omega)]; rfl) (by omega)
  have hrows : u32 ((y2 : Int) - y1) = y2 - y1 := u32_eq (by omega) (by omega)
  have hgo : u32 ((y1 : Int) * screen.devKind + x1 * screen.cpp) =
      y1 * screen.devKind + x1 * screen.cpp := u32_eq (by push_cast; rfl) (by omega)
  obtain ⟨new, flag, hrun, hnew, hin, hout, hclean⟩ := updateRows_spec fb screen.devKind
    ((x2 - x1) * screen.cpp) (y2 - y1) (y1 * screen.devKind + x1 * screen.cpp) old false
    (hold.trans hfb.symm) (fun r hr => by
      have hend := hline (y1 + r) (by omega)
      rw [Nat.add_mul] at hend
      omega)
  have hpixels : ∀ x y, screen.box.mem x y = true → ∀ c < screen.cpp,
      (InRows (y1 * screen.devKind + x1 * screen.cpp) screen.devKind ((x2 - x1) * screen.cpp)
        (y2 - y1) (screen.offset x y + c) ↔ (⟨x1, y1, x2, y2⟩ : Box).mem x y = true) := by
    intro x y hxy c hc
    simp only [Screen.box, Box.mem_iff] at hxy
    lift x to Nat using hxy.1
    lift y to Nat using hxy.2.2.1
    exact inRows_iff screen (by omega) hx2 (by omega) hc
  have hwritten : ∀ k, new.get k = old.get k ∨ new.get k = fb.get k := by
    intro k
    by_cases hk : InRows (y1 * screen.devKind + x1 * screen.cpp) screen.devKind
        ((x2 - x1) * screen.cpp) (y2 - y1) k
    · exact Or.inr (hin k hk)
    · exact Or.inl (hout k hk)
  have hcopied : ∀ x y, screen.box.mem x y = true → ∀ c < screen.cpp,
      (⟨x1, y1, x2, y2⟩ : Box).mem x y = true →
        new.get (screen.offset x y + c) = fb.get (screen.offset x y + c) :=
    fun x y hxy c hc hmem => hin _ ((hpixels x y hxy c hc).mpr hmem)
  have hkept : ∀ x y, screen.box.mem x y = true → ∀ c < screen.cpp,
      (⟨x1, y1, x2, y2⟩ : Box).mem x y = false →
        new.get (screen.offset x y + c) = old.get (screen.offset x y + c) := by
    intro x y hxy c hc hmem
    refine hout _ fun hrows => ?_
    rw [(hpixels x y hxy c hc).mp hrows] at hmem
    cases hmem
  simp only [msUpdateIntersect, hstride, hcolumns, hrows, hgo, hrun]
  cases flag with
  | false =>
      exact ⟨new, rects, rfl, hnew, rfl, hwritten, hcopied, hkept,
        Or.inl ⟨rfl, (hclean rfl).2⟩⟩
  | true =>
      refine ⟨new, { rects with filled := rects.filled ++ [⟨x1, y1, x2 - x1, y2 - y1⟩] },
        ?_, hnew, rfl, hwritten, hcopied, hkept, Or.inr ⟨_, ?_, rfl⟩⟩
      · simp [Rects.store, hroom]
      · simp [XRectangle.box]

end Tile

/-! ## All tiles -/

section Tiles

variable {R β : Type*} (server : Server R β) (screen : Screen) (fb fb2 : Bytes) (damage : R)

/-- **What holds between two tiles**, with `Done` the tiles that have been visited. -/
structure TileInv (Done : Int → Int → Prop) (t : Bytes × Rects) : Prop where
  size : t.1.size = screen.shadowSize
  written : ∀ k, t.1.get k = fb2.get k ∨ t.1.get k = fb.get k
  stored : ∀ x y, screen.box.mem x y = true →
    (∀ r ∈ t.2.filled, r.box.mem x y = false) → ∀ c < screen.cpp,
      t.1.get (screen.offset x y + c) = fb2.get (screen.offset x y + c)
  done : ∀ i j, Done i j → ∀ x y, server.mem damage x y = true →
    (tileBox (server.extents damage) i j).mem x y = true → ∀ c < screen.cpp,
      t.1.get (screen.offset x y + c) = fb.get (screen.offset x y + c)

variable {server screen fb fb2 damage} {Done : Int → Int → Prop} {t : Bytes × Rects}

theorem tileBox_within {extents b : Box} (h : extents.within b) (i j : Int) :
    (tileBox extents i j).within b := by
  simp only [Box.within, tileBox] at h ⊢
  omega

/-- **One tile.** -/
theorem tileStep_spec (hfb : fb.size = screen.shadowSize)
    (hinside : ∀ x y, server.mem damage x y = true → screen.box.mem x y = true)
    (h : TileInv server screen fb fb2 damage Done t)
    (hroom : t.2.filled.length < t.2.capacity) (i j : Int) :
    ∃ t', tileStep server screen fb damage i j t = some t' ∧
      TileInv server screen fb fb2 damage (fun i' j' => Done i' j' ∨ (i' = i ∧ j' = j)) t' ∧
      t'.2.capacity = t.2.capacity ∧ t'.2.filled.length ≤ t.2.filled.length + 1 := by
  by_cases hout : server.containsRect damage (tileBox (server.extents damage) i j) = .out
  · refine ⟨t, by simp [tileStep, hout], ⟨h.size, h.written, h.stored, ?_⟩, rfl, by omega⟩
    rintro i' j' (hdone | ⟨rfl, rfl⟩) x y hd hmem c hc
    · exact h.done i' j' hdone x y hd hmem c hc
    · have hnot := server.containsRect_eq_out.mp hout x y hmem
      rw [hd] at hnot
      cases hnot
  · obtain ⟨x₀, y₀, hmem₀, hd₀⟩ : ∃ x y,
        (tileBox (server.extents damage) i j).mem x y = true ∧ server.mem damage x y = true := by
      by_contra hnone
      refine hout (server.containsRect_eq_out.mpr fun x y hmem => ?_)
      cases hd : server.mem damage x y with
      | false => rfl
      | true => exact absurd ⟨x, y, hmem, hd⟩ hnone
    have hwithin := tileBox_within (server.extents_least hd₀ hinside) i j
    have hpixel := Box.hasPixel_iff.mpr ⟨x₀, y₀, hmem₀⟩
    obtain ⟨new, rects, hrun, hsize, hcap, hwritten, hcopied, hkept, hrects⟩ :=
      msUpdateIntersect_spec screen hfb h.size hwithin hpixel hroom
    refine ⟨(new, rects), by simp [tileStep, hout, hrun], ⟨hsize.trans h.size, ?_, ?_, ?_⟩,
      hcap, ?_⟩
    · intro k
      rcases hwritten k with hk | hk
      · rw [hk]
        exact h.written k
      · exact Or.inr hk
    · intro x y hxy hnone c hc
      rcases hrects with ⟨hsame, hget⟩ | ⟨r, hr, hfilled⟩
      · rw [hget]
        exact h.stored x y hxy (fun r hr => hnone r (by rwa [hsame])) c hc
      · simp only [hfilled, List.mem_append, List.mem_singleton] at hnone
        rw [hkept x y hxy c hc (hr ▸ hnone r (Or.inr rfl))]
        exact h.stored x y hxy (fun r' hr' => hnone r' (Or.inl hr')) c hc
    · rintro i' j' hdone x y hd hmem c hc
      have hxy := hinside x y hd
      cases hhere : (tileBox (server.extents damage) i j).mem x y with
      | true => exact hcopied x y hxy c hc hhere
      | false =>
          rw [hkept x y hxy c hc hhere]
          rcases hdone with hdone | ⟨rfl, rfl⟩
          · exact h.done i' j' hdone x y hd hmem c hc
          · rw [hhere] at hmem
            cases hmem
    · rcases hrects with ⟨hsame, -⟩ | ⟨r, -, hfilled⟩
      · rw [hsame]
        omega
      · rw [hfilled, List.length_append, List.length_singleton]

theorem TileInv.mono {Done' : Int → Int → Prop} (h : TileInv server screen fb fb2 damage Done t)
    (hmono : ∀ i j, Done' i j → Done i j) : TileInv server screen fb fb2 damage Done' t :=
  ⟨h.size, h.written, h.stored, fun i j hdone => h.done i j (hmono i j hdone)⟩

/-- **The inner loop.** -/
theorem tileRow_spec (hfb : fb.size = screen.shadowSize)
    (hinside : ∀ x y, server.mem damage x y = true → screen.box.mem x y = true) (tx1 j : Int)
    (n : Nat) (h : TileInv server screen fb fb2 damage Done t)
    (hroom : t.2.filled.length + n ≤ t.2.capacity) :
    ∃ t', tileRow server screen fb damage tx1 j n t = some t' ∧
      TileInv server screen fb fb2 damage
        (fun i' j' => Done i' j' ∨ (tx1 ≤ i' ∧ i' < tx1 + n ∧ j' = j)) t' ∧
      t'.2.capacity = t.2.capacity ∧ t'.2.filled.length ≤ t.2.filled.length + n := by
  induction n generalizing t Done with
  | zero =>
      refine ⟨t, rfl, h.mono ?_, rfl, Nat.le_refl _⟩
      rintro i' j' (hdone | ⟨hlow, hhigh, -⟩)
      · exact hdone
      · omega
  | succ n ih =>
      obtain ⟨t₁, hstep, hinv, hcap, hlen⟩ :=
        tileStep_spec hfb hinside h (by omega) (tx1 + n) j
      obtain ⟨t₂, hrow, hinv', hcap', hlen'⟩ := ih hinv (by omega)
      refine ⟨t₂, by simp [tileRow, hstep, hrow], hinv'.mono ?_, by omega, by omega⟩
      rintro i' j' (hdone | ⟨hlow, hhigh, hj⟩)
      · exact Or.inl (Or.inl hdone)
      · by_cases hlast : i' = tx1 + n
        · exact Or.inl (Or.inr ⟨hlast, hj⟩)
        · exact Or.inr ⟨hlow, by omega, hj⟩

/-- **The outer loop.** -/
theorem tileRows_spec (hfb : fb.size = screen.shadowSize)
    (hinside : ∀ x y, server.mem damage x y = true → screen.box.mem x y = true)
    (tx1 ty1 : Int) (n m : Nat) (h : TileInv server screen fb fb2 damage Done t)
    (hroom : t.2.filled.length + n * m ≤ t.2.capacity) :
    ∃ t', tileRows server screen fb damage tx1 ty1 n m t = some t' ∧
      TileInv server screen fb fb2 damage (fun i' j' => Done i' j' ∨
        (tx1 ≤ i' ∧ i' < tx1 + n ∧ ty1 ≤ j' ∧ j' < ty1 + m)) t' := by
  induction m generalizing t Done with
  | zero =>
      refine ⟨t, rfl, h.mono ?_⟩
      rintro i' j' (hdone | ⟨-, -, hlow, hhigh⟩)
      · exact hdone
      · omega
  | succ m ih =>
      rw [Nat.mul_succ] at hroom
      obtain ⟨t₁, hrow, hinv, hcap, hlen⟩ :=
        tileRow_spec hfb hinside tx1 (ty1 + m) n h (by omega)
      obtain ⟨t₂, hrows, hinv'⟩ := ih hinv (by omega)
      refine ⟨t₂, by simp [tileRows, hrow, hrows], hinv'.mono ?_⟩
      rintro i' j' (hdone | ⟨hi, hi', hj, hj'⟩)
      · exact Or.inl (Or.inl hdone)
      · by_cases hlast : j' = ty1 + m
        · exact Or.inl (Or.inr ⟨hi, hi', hlast⟩)
        · exact Or.inr ⟨hi, hi', hj, by omega⟩

/-- A pixel of the extents is in a tile that is visited. -/
theorem tile_of_pixel {extents : Box} {x y : Int} (hx : 0 ≤ extents.x1) (hy : 0 ≤ extents.y1)
    (hmem : extents.mem x y = true) :
    extents.x1.tdiv 16 ≤ x.tdiv 16 ∧ x.tdiv 16 < (extents.x2 + 16 - 1).tdiv 16 ∧
      extents.y1.tdiv 16 ≤ y.tdiv 16 ∧ y.tdiv 16 < (extents.y2 + 16 - 1).tdiv 16 ∧
      (tileBox extents (x.tdiv 16) (y.tdiv 16)).mem x y = true := by
  simp only [Box.mem_iff] at hmem
  have hnonneg : 0 ≤ x ∧ 0 ≤ y ∧ 0 ≤ extents.x2 + 16 - 1 ∧ 0 ≤ extents.y2 + 16 - 1 := by omega
  rw [Int.tdiv_eq_ediv_of_nonneg hx, Int.tdiv_eq_ediv_of_nonneg hy,
    Int.tdiv_eq_ediv_of_nonneg hnonneg.1, Int.tdiv_eq_ediv_of_nonneg hnonneg.2.1,
    Int.tdiv_eq_ediv_of_nonneg hnonneg.2.2.1, Int.tdiv_eq_ediv_of_nonneg hnonneg.2.2.2]
  simp only [tileBox, Box.mem_iff]
  omega

end Tiles

/-! ## The update -/

section Update

variable {R β : Type*}

/-- What the server's copying function makes of a pixel's bytes. -/
def format (server : Server R β) (screen : Screen) (bytes : List UInt8) : β :=
  if screen.use3224 then server.format24 bytes else server.packed bytes

/-- The copying function copies the damaged pixels. -/
theorem update_scanout (server : Server R β) (screen : Screen) (damage : R)
    (s : ShadowState β) (x y : Int) :
    (update server screen damage s).scanout x y =
      if server.mem damage x y then format server screen (screen.pixel s.shadowFb x y)
      else s.scanout x y := by
  cases h : screen.use3224 <;>
    simp [update, format, h, server.updatePacked_eq, server.update32to24_eq]

/-- **What is given**: two buffers as they are allocated, that differ only inside the
damage, the damage inside the screen, and the scanout showing the second buffer. -/
structure Ready (server : Server R β) (screen : Screen) (s : ShadowState β) (fb2 : Bytes)
    (damage : R) : Prop where
  enabled : s.shadowEnable2 = true
  double : s.shadowFb2 = some fb2
  size : s.shadowFb.size = screen.shadowSize
  size2 : fb2.size = screen.shadowSize
  inside : ∀ x y, server.mem damage x y = true → screen.box.mem x y = true
  differ : ∀ k < screen.shadowSize, s.shadowFb.get k ≠ fb2.get k →
    ∃ x y c, server.mem damage x y = true ∧ c < screen.cpp ∧ k = screen.offset x y + c
  shown : ∀ x y, screen.box.mem x y = true →
    s.scanout x y = format server screen (screen.pixel fb2 x y)

/-- The buffers that the two allocations give are ready when the scanout shows one of them. -/
theorem ready_of_alloc {server : Server R β} {screen : Screen} {fb fb2 : Bytes}
    (hfb : lsShadowAllocFB screen true = some fb)
    (hfb2 : lsShadowAllocDoubleFB screen true = some fb2) {scanout : Scanout β} {damage : R}
    (hinside : ∀ x y, server.mem damage x y = true → screen.box.mem x y = true)
    (hshown : ∀ x y, screen.box.mem x y = true →
      scanout x y = format server screen (screen.pixel fb2 x y)) :
    Ready server screen ⟨fb, some fb2, true, scanout⟩ fb2 damage := by
  cases hfb
  cases hfb2
  exact ⟨rfl, rfl, rfl, rfl, hinside, fun k _ hk => absurd rfl hk, hshown⟩

theorem toNat_mul_le (a b : Int) : a.toNat * b.toNat ≤ (a * b).toNat := by
  rcases Int.le_total 0 a with ha | ha
  · rcases Int.le_total 0 b with hb | hb
    · rw [Int.toNat_mul ha hb]
    · rw [Int.toNat_of_nonpos hb, Nat.mul_zero]
      exact Nat.zero_le _
  · rw [Int.toNat_of_nonpos ha, Nat.zero_mul]
    exact Nat.zero_le _

/-- **The reduced damage** and the second buffer after all tiles. -/
theorem reduceDamage_spec {server : Server R β} {screen : Screen} {s : ShadowState β}
    {fb2 : Bytes} {damage : R} (h : Ready server screen s fb2 damage) :
    ∃ new reduced, reduceDamage server screen s.shadowFb fb2 damage true =
        some (new, reduced) ∧
      new.size = screen.shadowSize ∧
      (∀ k < screen.shadowSize, new.get k = s.shadowFb.get k) ∧
      (∀ x y, server.mem reduced x y = true → server.mem damage x y = true) ∧
      ∀ x y, server.mem damage x y = true → server.mem reduced x y = false →
        screen.pixel s.shadowFb x y = screen.pixel fb2 x y := by
  have hstart : ∀ capacity, TileInv server screen s.shadowFb fb2 damage (fun _ _ => False)
      (fb2, ⟨capacity, []⟩) := fun capacity =>
    ⟨h.size2, fun _ => Or.inl rfl, fun _ _ _ _ _ _ => rfl, fun _ _ hdone => hdone.elim⟩
  generalize hext : server.extents damage = extents
  have hroom := toNat_mul_le
    ((extents.x2 + 16 - 1).tdiv 16 - extents.x1.tdiv 16)
    ((extents.y2 + 16 - 1).tdiv 16 - extents.y1.tdiv 16)
  obtain ⟨t, hrun, hinv⟩ := tileRows_spec h.size h.inside (extents.x1.tdiv 16)
    (extents.y1.tdiv 16) ((extents.x2 + 16 - 1).tdiv 16 - extents.x1.tdiv 16).toNat
    ((extents.y2 + 16 - 1).tdiv 16 - extents.y1.tdiv 16).toNat
    (hstart (((extents.x2 + 16 - 1).tdiv 16 - extents.x1.tdiv 16) *
      ((extents.y2 + 16 - 1).tdiv 16 - extents.y1.tdiv 16)).toNat)
    (by simpa using hroom)
  have hdone : ∀ x y, server.mem damage x y = true → ∀ c < screen.cpp,
      t.1.get (screen.offset x y + c) = s.shadowFb.get (screen.offset x y + c) := by
    intro x y hd c hc
    have hwithin := server.extents_least hd h.inside
    rw [hext] at hwithin
    simp only [Box.within, Screen.box] at hwithin
    obtain ⟨hi, hi', hj, hj', hmem⟩ :=
      tile_of_pixel hwithin.1 hwithin.2.2.1 (hext ▸ server.mem_extents hd)
    refine hinv.done _ _ (Or.inr ⟨hi, ?_, hj, ?_⟩) x y hd (hext ▸ hmem) c hc <;> omega
  refine ⟨t.1, server.intersect damage (server.fromRects (t.2.filled.map XRectangle.box)), ?_,
    hinv.size, fun k hk => ?_, fun x y hmem => (server.mem_intersect.mp hmem).1,
    fun x y hd hout => ?_⟩
  · simp only [reduceDamage, hext, Bool.not_true, Bool.false_eq_true, if_false]
    rw [hrun]
    rfl
  · by_cases hsame : s.shadowFb.get k = fb2.get k
    · rcases hinv.written k with hw | hw
      · rw [hw, hsame]
      · exact hw
    · obtain ⟨x, y, c, hd, hc, rfl⟩ := h.differ k hk hsame
      exact hdone x y hd c hc
  · have hnone : ∀ r ∈ t.2.filled, r.box.mem x y = false := by
      intro r hr
      cases hmem : r.box.mem x y with
      | false => rfl
      | true =>
          have htiles := server.mem_fromRects.mpr ⟨r.box, List.mem_map_of_mem hr, hmem⟩
          rw [server.mem_intersect.mpr ⟨hd, htiles⟩] at hout
          cases hout
    refine List.map_congr_left fun c hc => ?_
    rw [← hdone x y hd c (List.mem_range.mp hc)]
    exact hinv.stored x y (h.inside x y hd) hnone c (List.mem_range.mp hc)

/-- **The tiled update refines the plain one.** It touches nothing outside the two
buffers and the rectangle array, leaves the same scanout as with `shadow_enable2` off,
makes the buffers equal, and reports no pixel that was not damaged. -/
theorem shadow_update_refines (server : Server R β) (screen : Screen) (s : ShadowState β)
    (fb2 : Bytes) (damage : R) (h : Ready server screen s fb2 damage) :
    ∃ s' reduced new, lsShadowUpdatePacked server screen s damage true = some (s', reduced) ∧
      (lsShadowUpdatePacked server screen { s with shadowEnable2 := false } damage true).map
        (fun plain => plain.1.scanout) = some s'.scanout ∧
      s'.shadowFb2 = some new ∧ s'.shadowFb = s.shadowFb ∧
      new.size = screen.shadowSize ∧
      (∀ k < screen.shadowSize, new.get k = s.shadowFb.get k) ∧
      ∀ x y, server.mem reduced x y = true → server.mem damage x y = true := by
  obtain ⟨new, reduced, hrun, hsize, hequal, hsubset, hdropped⟩ := reduceDamage_spec h
  refine ⟨update server screen reduced { s with shadowFb2 := some new }, reduced, new, ?_, ?_,
    rfl, rfl, hsize, hequal, hsubset⟩
  · simp only [lsShadowUpdatePacked, h.enabled, h.double, hrun, Option.map_some]
  · refine congrArg some (funext fun x => funext fun y => ?_)
    change (update server screen damage { s with shadowEnable2 := false }).scanout x y =
      (update server screen reduced { s with shadowFb2 := some new }).scanout x y
    rw [update_scanout, update_scanout]
    cases hd : server.mem damage x y with
    | false =>
        have hr : server.mem reduced x y = false := by
          cases hr : server.mem reduced x y with
          | false => rfl
          | true => rw [hsubset x y hr] at hd; cases hd
        simp [hr]
    | true =>
        cases hr : server.mem reduced x y with
        | true => rfl
        | false =>
            simp only [if_true, Bool.false_eq_true, if_false]
            rw [h.shown x y (h.inside x y hd), hdropped x y hd hr]

end Update

/-! ## A server -/

/-- The server with lists of boxes for regions; a scanout pixel is its bytes, and the
24-bit format drops the fourth. -/
def boxServer : Server (List Box) (List UInt8) where
  toRegionOps := boxList
  packed := id
  format24 := List.take 3
  updatePacked d fb s x y := if boxList.mem d x y then fb x y else s x y
  update32to24 d fb s x y := if boxList.mem d x y then (fb x y).take 3 else s x y
  updatePacked_eq := fun _ _ _ _ _ => rfl
  update32to24_eq := fun _ _ _ _ _ => rfl

/-- A screen of 20 by 20 pixels of four bytes: four tiles, three of them partial. -/
def screen20 : Screen := ⟨20, 20, 20, 32, true, by decide, by decide, by decide⟩

/-- Its first pixel has been drawn. -/
def drawn20 : ShadowState (List UInt8) where
  shadowFb := ⟨1600, fun k => if k < 4 then 255 else 0⟩
  shadowFb2 := some ⟨1600, fun _ => 0⟩
  shadowEnable2 := true
  scanout := fun x y =>
    format boxServer screen20 (screen20.pixel ⟨1600, fun _ => 0⟩ x y)

/-- Two overlapping damaged boxes around the pixel. -/
theorem shadow_update_refines_20 :
    ∃ s' reduced new, lsShadowUpdatePacked boxServer screen20 drawn20
        [⟨0, 0, 18, 3⟩, ⟨0, 0, 2, 20⟩] true = some (s', reduced) ∧
      s'.shadowFb2 = some new ∧ new.get 0 = 255 := by
  have hready : Ready boxServer screen20 drawn20 ⟨1600, fun _ => 0⟩
      [⟨0, 0, 18, 3⟩, ⟨0, 0, 2, 20⟩] := by
    refine ⟨rfl, rfl, by decide, by decide, fun x y hd => ?_, fun k _ hk => ?_,
      fun _ _ _ => rfl⟩
    · have hbox : x < 18 ∧ 0 ≤ x ∧ 0 ≤ y ∧ y < 20 := by
        simp only [boxServer, boxList, List.any_cons, List.any_nil, Bool.or_false,
          Bool.or_eq_true, Box.mem_iff] at hd
        omega
      simp only [Screen.box, screen20, Box.mem_iff]
      omega
    · have hlt : k < 4 := by
        by_contra hge
        exact hk (if_neg hge)
      exact ⟨0, 0, k, by decide, hlt, (Nat.zero_add k).symm⟩
  obtain ⟨s', reduced, new, hrun, -, hnew, -, -, hequal, -⟩ :=
    shadow_update_refines boxServer screen20 drawn20 _ _ hready
  exact ⟨s', reduced, new, hrun, hnew, hequal 0 (by decide)⟩

end LoongsonVideo.Driver.ShadowUpdate
