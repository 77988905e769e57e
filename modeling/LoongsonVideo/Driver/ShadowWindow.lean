import LoongsonVideo.Driver.Dri3Import
import LoongsonVideo.Driver.ResizeRelease
import LoongsonVideo.Verified.Overflow

/-!
# The lines of the shadow window

`drmmode_create_initial_bos` and `drmmode_xf86crtc_resize` of `src/drmmode_display.c` turn
the pitch of the front buffer into `displayWidth`, in pixels; `LS_ShadowWindow` of
`src/loongson_shadow.c` turns that back into the bytes between two lines.

* `landsOn_iff`: when the way back ends where it began, for a pitch taken as this integer.
* `shadowWindow_lands_iff`: the same after either function.
-/

namespace LoongsonVideo.Driver.ShadowWindow

open LoongsonVideo.Driver.Scanout (FbIds)
open LoongsonVideo.Driver.ModeSet (ModeAnswer Screen)
open LoongsonVideo.Driver.ScreenResize
open LoongsonVideo.Driver.ResizeRelease
open LoongsonVideo.Verified.Overflow (toNat_ofInt)

/-- `a * b` of two `int`; `none` where it overflows. -/
def intMul (a b : Int) : Option Int :=
  if -2 ^ 31 ≤ a * b ∧ a * b < 2 ^ 31 then some (a * b) else none

/-- `LS_ShadowWindow`: where the line is and `*size`.  `mapping` is where the dumb buffers
are mapped. -/
def lsShadowWindow (s : ScreenState) (mapping : Nat → Nat) (row offset : UInt32) :
    Option (Nat × UInt32) :=
  match s.frontBo.dumb with
  | none => none
  | some n =>
      match intMul s.displayWidth s.kbpp with
      | none => none
      | some bits =>
          let stride := bits.tdiv 8
          -- `row` is a `CARD32`: so is the product.
          some (mapping n + (row * UInt32.ofInt stride).toNat + offset.toNat, UInt32.ofInt stride)

/-! ## Initial buffers -/

/-- `drmmode_bo_get_pitch`. -/
def bufferPitch (s : ScreenState) (bo : DrmmodeBo) : UInt32 :=
  match bo.gbm, bo.dumb with
  | some n, _ => s.pitch n
  | none, some n => s.pitch n
  | none, none => 0

/-- The loop of `drmmode_create_initial_bos`: `cursor_bo` of each CRTC, with the answers of
`dumb_bo_create`. -/
def createCursorBos : List (Option UInt32) → ScreenState → ScreenState × List (Option Nat)
  | [], s => (s, [])
  | none :: rest, s =>
      let (s, cursors) := createCursorBos rest s
      (s, none :: cursors)
  | some pitch :: rest, s =>
      let (t, cursors) := createCursorBos rest (s.allocateBo .dumb pitch)
      (t, some s.next :: cursors)

/-- `drmmode_create_initial_bos`: the screen, the cursors and the result. -/
def drmmodeCreateInitialBos (s : ScreenState) (a : CreateBo) (cursors : List (Option UInt32)) :
    ScreenState × List (Option Nat) × Bool :=
  match drmmodeCreateBo s s.virtualX s.virtualY a with
  | (t, false) => (t, [], false)
  | (t, true) =>
      let pixels := bufferPitch t t.frontBo / UInt32.ofInt t.kcpp
      let (u, bos) := createCursorBos cursors { t with displayWidth := pixels.toInt32.toInt }
      (u, bos, true)

/-! ## The lines -/

/-- **A shadow line is a line of the buffer**: for each line and each place inside it, and
the size that is reported is between that of the pixels and that of the line. -/
def LandsOn (s : ScreenState) (mapping : Nat → Nat) (pitch : UInt32) : Prop :=
  ∀ row offset : UInt32, (row.toNat : Int) < s.virtualY → offset < pitch →
    ∃ n size, s.frontBo.dumb = some n ∧
      lsShadowWindow s mapping row offset =
        some (mapping n + row.toNat * pitch.toNat + offset.toNat, size) ∧
      size ≤ pitch ∧ s.virtualX * s.kbpp / 8 ≤ size.toNat

/-- **The condition**, for a pitch that the code divides as this integer: the pixels' bits are
an `int`, the pixel size divides the pitch unless there is only one line, and the last
line's distance is a `CARD32`. -/
structure LinesFit (pitch : UInt32) (asInt kcpp virtualY : Int) : Prop where
  bits : -2 ^ 31 ≤ asInt.tdiv kcpp * (8 * kcpp) ∧ asInt.tdiv kcpp * (8 * kcpp) < 2 ^ 31
  whole : kcpp ∣ asInt ∨ virtualY = 1 ∧ 0 ≤ asInt
  last : (virtualY - 1) * pitch.toNat < 2 ^ 32

section Lines

variable {s : ScreenState} {mapping : Nat → Nat} {pitch : UInt32} {k p : Int}

/-- Rounding to whole pixels, towards zero. -/
theorem tdiv_mul_bounds (hk : k = 2 ∨ k = 3 ∨ k = 4) (p : Int) :
    (0 ≤ p → 0 ≤ p.tdiv k * k ∧ p.tdiv k * k ≤ p ∧ p < p.tdiv k * k + k) ∧
      (p < 0 → p.tdiv k * k - k < p ∧ p ≤ p.tdiv k * k ∧ p.tdiv k * k ≤ 0) ∧
      (k ∣ p ↔ p.tdiv k * k = p) := by
  have hsplit := Int.tmod_add_tdiv_mul p k
  have hpos : 0 < k := by omega
  have hlt := Int.tmod_lt_of_pos p hpos
  refine ⟨fun h => ?_, fun h => ?_, ?_⟩
  · have hrest := Int.tmod_nonneg k h
    have hquot := Int.mul_nonneg (Int.tdiv_nonneg h hpos.le) hpos.le
    omega
  · have hrest := Int.tmod_nonneg k (show 0 ≤ -p by omega)
    have hneg := Int.tmod_lt_of_pos (-p) hpos
    have hquot := Int.mul_nonneg (Int.tdiv_nonneg (show 0 ≤ -p by omega) hpos.le) hpos.le
    rw [Int.neg_tmod] at hrest hneg
    rw [Int.neg_tdiv, Int.neg_mul] at hquot
    omega
  · rw [Int.dvd_iff_tmod_eq_zero]
    omega

/-- What `LS_ShadowWindow` computes. -/
theorem shadowWindow_eq {n : Nat} (hbo : s.frontBo.dumb = some n) (hk : s.kbpp = 8 * k)
    (row offset : UInt32) :
    lsShadowWindow s mapping row offset =
      if -2 ^ 31 ≤ s.displayWidth * (8 * k) ∧ s.displayWidth * (8 * k) < 2 ^ 31 then
        some (mapping n + (row * UInt32.ofInt (s.displayWidth * k)).toNat + offset.toNat,
          UInt32.ofInt (s.displayWidth * k))
      else none := by
  have hstride : (s.displayWidth * (8 * k)).tdiv 8 = s.displayWidth * k := by
    rw [Int.mul_left_comm, Int.mul_tdiv_cancel_left _ (by decide)]
  simp only [lsShadowWindow, hbo, intMul, hk]
  by_cases hfits : -2 ^ 31 ≤ s.displayWidth * (8 * k) ∧ s.displayWidth * (8 * k) < 2 ^ 31
  · simp only [if_pos hfits, hstride]
  · simp only [if_neg hfits]

/-- The pitch as an integer: it is a `uint32_t` or an `int`. -/
def IsPitch (pitch : UInt32) (p : Int) : Prop := p = pitch.toNat ∨ p = pitch.toNat - 2 ^ 32

/-- A line is where it should be when the bytes between the lines are the pitch and do not
wrap. -/
theorem line_lands (hk : k = 2 ∨ k = 3 ∨ k = 4) (hp : IsPitch pitch p)
    (hwhole : k ∣ p) {row : UInt32} (hlast : row.toNat * pitch.toNat < 2 ^ 32) :
    (row * UInt32.ofInt (p.tdiv k * k)).toNat = row.toNat * pitch.toNat := by
  have hcancel := (tdiv_mul_bounds hk p).2.2.mp hwhole
  have hstride : (UInt32.ofInt (p.tdiv k * k)).toNat = pitch.toNat := by
    have hmod := toNat_ofInt (p.tdiv k * k)
    have hlt := pitch.toNat_lt
    rw [hcancel] at hmod ⊢
    cases hp <;> omega
  rw [UInt32.toNat_mul, hstride]
  exact Nat.mod_eq_of_lt hlast

/-- The size that is reported, when there is one line or whole pixels. -/
theorem size_between (hk : k = 2 ∨ k = 3 ∨ k = 4) (hp : IsPitch pitch p)
    (hwhole : k ∣ p ∨ 0 ≤ p) {width : Int} (hwide : width * (8 * k) / 8 ≤ pitch.toNat) :
    UInt32.ofInt (p.tdiv k * k) ≤ pitch ∧
      width * (8 * k) / 8 ≤ (UInt32.ofInt (p.tdiv k * k)).toNat := by
  obtain ⟨hup, -, hdvd⟩ := tdiv_mul_bounds hk p
  have hmod := toNat_ofInt (p.tdiv k * k)
  have hlt := pitch.toNat_lt
  rw [UInt32.le_iff_toNat_le]
  by_cases hd : k ∣ p
  · rw [hdvd.mp hd] at hmod ⊢
    cases hp <;> omega
  · have hpos := hwhole.resolve_left hd
    have hpitch : p = pitch.toNat := by cases hp <;> omega
    have hq := hup hpos
    rcases hk with rfl | rfl | rfl <;> omega

theorem lands_of_fit {n : Nat} (hbo : s.frontBo.dumb = some n) (hk : k = 2 ∨ k = 3 ∨ k = 4)
    (hkbpp : s.kbpp = 8 * k) (hwidth : s.displayWidth = p.tdiv k) (hp : IsPitch pitch p)
    (hwide : s.virtualX * s.kbpp / 8 ≤ pitch.toNat) (hfit : LinesFit pitch p k s.virtualY) :
    LandsOn s mapping pitch := by
  intro row offset hrow hoffset
  rw [hkbpp] at hwide ⊢
  have hsize := size_between hk hp (hfit.whole.imp_right And.right) hwide
  refine ⟨n, UInt32.ofInt (p.tdiv k * k), hbo, ?_, hsize⟩
  have hline : (row * UInt32.ofInt (p.tdiv k * k)).toNat = row.toNat * pitch.toNat := by
    cases hfit.whole with
    | inl hwhole =>
        refine line_lands hk hp hwhole ?_
        have hle : (row.toNat : Int) * pitch.toNat ≤ (s.virtualY - 1) * pitch.toNat :=
          Int.mul_le_mul_of_nonneg_right (by omega) (Int.natCast_nonneg _)
        have hlast := hfit.last
        exact_mod_cast lt_of_le_of_lt hle hlast
    | inr hone =>
        have hzero : row.toNat = 0 := by omega
        rw [UInt32.toNat_mul, hzero, Nat.zero_mul, Nat.zero_mul, Nat.zero_mod]
  rw [shadowWindow_eq hbo hkbpp, hwidth, if_pos hfit.bits, hline]

/-- A single line is inside when the size that is reported is not too large. -/
theorem whole_of_one (hk : k = 2 ∨ k = 3 ∨ k = 4) (hp : IsPitch pitch p)
    (haligned : 8 ∣ pitch.toNat) (hsize : UInt32.ofInt (p.tdiv k * k) ≤ pitch) :
    k ∣ p ∨ 0 ≤ p := by
  have hmod := toNat_ofInt (p.tdiv k * k)
  obtain ⟨_, hdown, hdvd⟩ := tdiv_mul_bounds hk p
  have hlt := pitch.toNat_lt
  have hle := UInt32.le_iff_toNat_le.mp hsize
  refine or_iff_not_imp_left.mpr fun hno => ?_
  have hne := mt hdvd.mpr hno
  by_contra hneg
  have hq := hdown (by omega)
  cases hp <;> omega

/-- The second line is at the pitch only when the pitch is whole pixels. -/
theorem whole_of_second (hk : k = 2 ∨ k = 3 ∨ k = 4) (hp : IsPitch pitch p)
    (haligned : 8 ∣ pitch.toNat) (hstride : (UInt32.ofInt (p.tdiv k * k)).toNat = pitch.toNat) :
    k ∣ p := by
  have hmod := toNat_ofInt (p.tdiv k * k)
  obtain ⟨hup, hdown, hdvd⟩ := tdiv_mul_bounds hk p
  have hlt := pitch.toNat_lt
  rw [hdvd]
  rw [hstride] at hmod
  rcases Int.lt_or_le p 0 with hneg | hnonneg
  · have hq := hdown hneg
    cases hp <;> omega
  · have hq := hup hnonneg
    cases hp <;> omega

/-- Lines that all begin below 2^32 are few enough for a `uint32_t` to name the last. -/
theorem last_of_lines {lines : Int} (hlines : 0 < lines) (hpos : 0 < pitch.toNat)
    (haligned : 8 ∣ pitch.toNat)
    (hbelow : ∀ row : UInt32, (row.toNat : Int) < lines → row.toNat * pitch.toNat < 2 ^ 32) :
    (lines - 1) * pitch.toNat < 2 ^ 32 := by
  by_cases hfew : lines ≤ 2 ^ 32
  · have hrow : (UInt32.ofNat (lines - 1).toNat).toNat = (lines - 1).toNat :=
      UInt32.toNat_ofNat_of_lt' (by show _ < 2 ^ 32; omega)
    have hlast := hbelow (UInt32.ofNat (lines - 1).toNat) (by omega)
    have hnat : (lines - 1) * pitch.toNat = (((lines - 1).toNat * pitch.toNat : Nat) : Int) := by
      rw [Int.natCast_mul, Int.toNat_of_nonneg (by omega)]
    rw [hrow] at hlast
    rw [hnat]
    exact_mod_cast hlast
  · have hrow : (UInt32.ofNat (2 ^ 32 - 1)).toNat = 2 ^ 32 - 1 := rfl
    have hlast := hbelow (UInt32.ofNat (2 ^ 32 - 1)) (by omega)
    rw [hrow] at hlast
    omega

theorem fit_of_lands {n : Nat} (hbo : s.frontBo.dumb = some n) (hk : k = 2 ∨ k = 3 ∨ k = 4)
    (hkbpp : s.kbpp = 8 * k) (hwidth : s.displayWidth = p.tdiv k) (hp : IsPitch pitch p)
    (haligned : 8 ∣ pitch.toNat) (hlines : 0 < s.virtualY) (hpitch : pitch ≠ 0)
    (h : LandsOn s mapping pitch) : LinesFit pitch p k s.virtualY := by
  have hplace : (0 : UInt32) < pitch := UInt32.pos_iff_ne_zero.mpr hpitch
  have hlt := pitch.toNat_lt
  have hbits : -2 ^ 31 ≤ p.tdiv k * (8 * k) ∧ p.tdiv k * (8 * k) < 2 ^ 31 := by
    by_contra hno
    obtain ⟨m, size, -, heq, -⟩ := h 0 0 hlines hplace
    rw [shadowWindow_eq hbo hkbpp, hwidth, if_neg hno] at heq
    cases heq
  have hline : ∀ row : UInt32, (row.toNat : Int) < s.virtualY →
      row.toNat * (UInt32.ofInt (p.tdiv k * k)).toNat % 2 ^ 32 = row.toNat * pitch.toNat ∧
        UInt32.ofInt (p.tdiv k * k) ≤ pitch := by
    intro row hrow
    obtain ⟨m, size, hm, heq, hle, -⟩ := h row 0 hrow hplace
    obtain rfl : n = m := Option.some.inj (hbo.symm.trans hm)
    rw [shadowWindow_eq hbo hkbpp, hwidth, if_pos hbits] at heq
    obtain ⟨hwhere, rfl⟩ := Prod.mk.inj (Option.some.inj heq)
    rw [UInt32.toNat_mul] at hwhere
    exact ⟨by omega, hle⟩
  refine ⟨hbits, ?_, last_of_lines hlines hplace haligned fun row hrow => ?_⟩
  · by_cases hone : s.virtualY = 1
    · have hwhole := whole_of_one hk hp haligned (hline 0 hlines).2
      exact hwhole.imp_right fun hnonneg => ⟨hone, hnonneg⟩
    · have hsecond := (hline 1 (by simp; omega)).1
      rw [UInt32.toNat_one, Nat.one_mul, Nat.one_mul] at hsecond
      have hbound := (UInt32.ofInt (p.tdiv k * k)).toNat_lt
      exact Or.inl (whole_of_second hk hp haligned (by omega))
  · rw [← (hline row hrow).1]
    exact Nat.mod_lt _ (by decide)

theorem landsOn_iff {n : Nat} (hbo : s.frontBo.dumb = some n) (hk : k = 2 ∨ k = 3 ∨ k = 4)
    (hkbpp : s.kbpp = 8 * k) (hwidth : s.displayWidth = p.tdiv k) (hp : IsPitch pitch p)
    (haligned : 8 ∣ pitch.toNat) (hwide : s.virtualX * s.kbpp / 8 ≤ pitch.toNat) :
    LandsOn s mapping pitch ↔
      s.virtualY ≤ 0 ∨ pitch = 0 ∨ LinesFit pitch p k s.virtualY := by
  constructor
  · intro h
    by_cases hlines : 0 < s.virtualY
    · by_cases hpitch : pitch = 0
      · exact Or.inr (Or.inl hpitch)
      · exact Or.inr (Or.inr (fit_of_lands hbo hk hkbpp hwidth hp haligned hlines hpitch h))
    · exact Or.inl (by omega)
  · intro h
    rcases h with hnone | hempty | hfit
    · intro row offset hrow
      omega
    · intro row offset _ hoffset
      rw [hempty] at hoffset
      exact absurd hoffset (UInt32.not_lt_zero)
    · exact lands_of_fit hbo hk hkbpp hwidth hp hwide hfit

end Lines

/-! ## The two functions -/

/-- The two functions that set `displayWidth`, with their answers. -/
inductive Setting where
  | initialBos (a : CreateBo) (cursors : List (Option UInt32))
  | resize (ids : FbIds) (sets : Nat → ModeAnswer) (crtcs : Screen)
      (modify : ScreenPixmap → Int → Int → Int → Option Pixels → ScreenPixmap)
      (width height : Int) (a : ResizeAnswer)

namespace Setting

def run (s : ScreenState) : Setting → ScreenState × Bool
  | .initialBos a cursors =>
      let (t, _, ok) := drmmodeCreateInitialBos s a cursors
      (t, ok)
  | .resize ids sets crtcs modify width height a =>
      drmmodeXf86crtcResize (serverWith ids sets crtcs modify) s width height a

/-- The buffer is made anew. -/
def Reallocates (s : ScreenState) : Setting → Prop
  | .initialBos _ _ => True
  | .resize _ _ _ _ width height _ => ¬ (s.virtualX = width ∧ s.virtualY = height)

/-- The answer to the creation of a dumb buffer. -/
def dumb : Setting → Option UInt32
  | .initialBos a _ => a.dumb
  | .resize _ _ _ _ _ _ a => a.create.dumb

/-- The width and the height of the buffer. -/
def width (s : ScreenState) : Setting → Int
  | .initialBos _ _ => s.virtualX
  | .resize _ _ _ _ width _ _ => width

def height (s : ScreenState) : Setting → Int
  | .initialBos _ _ => s.virtualY
  | .resize _ _ _ _ _ height _ => height

/-- The pitch as it is divided: a `uint32_t` at first, an `int` in a resize. -/
def asInt (pitch : UInt32) : Setting → Int
  | .initialBos _ _ => pitch.toNat
  | .resize _ _ _ _ _ _ _ => pitch.toInt32.toInt

end Setting

section Settings

variable {s t : ScreenState} {pitch : UInt32} {k : Int}

theorem createCursorBos_same (cursors : List (Option UInt32)) (s : ScreenState) :
    (createCursorBos cursors s).1.frontBo = s.frontBo ∧
      (createCursorBos cursors s).1.kbpp = s.kbpp ∧
      (createCursorBos cursors s).1.virtualX = s.virtualX ∧
      (createCursorBos cursors s).1.virtualY = s.virtualY ∧
      (createCursorBos cursors s).1.displayWidth = s.displayWidth := by
  induction cursors generalizing s with
  | nil => exact ⟨rfl, rfl, rfl, rfl, rfl⟩
  | cons answer rest ih =>
      cases answer with
      | none => exact ih s
      | some pitch => exact ih (s.allocateBo .dumb pitch)

theorem createBo_size (s : ScreenState) (width height : Int) (c : CreateBo) :
    (drmmodeCreateBo s width height c).1.virtualX = s.virtualX ∧
      (drmmodeCreateBo s width height c).1.virtualY = s.virtualY := by
  unfold drmmodeCreateBo
  simp only
  split <;> split <;> exact ⟨rfl, rfl⟩

/-- Pixels of a `uint32_t` pitch fit an `int`. -/
theorem pixels_toInt (hk : k = 2 ∨ k = 3 ∨ k = 4) (pitch : UInt32) :
    (pitch / UInt32.ofInt k).toInt32.toInt = (pitch.toNat : Int).tdiv k := by
  have hlt := pitch.toNat_lt
  rw [Dri3Import.toInt32_toInt, UInt32.toNat_div, Int.tdiv_eq_ediv_of_nonneg (Int.natCast_nonneg _)]
  rcases hk with rfl | rfl | rfl
  · rw [show (UInt32.ofInt 2).toNat = 2 from rfl]
    omega
  · rw [show (UInt32.ofInt 3).toNat = 3 from rfl]
    omega
  · rw [show (UInt32.ofInt 4).toNat = 4 from rfl]
    omega

/-- The screen after either function. -/
structure SetFrom (w : Setting) (s t : ScreenState) (pitch : UInt32) : Prop where
  dumb : t.frontBo.dumb = some s.next
  kbpp : t.kbpp = s.kbpp
  width : t.virtualX = w.width s
  height : t.virtualY = w.height s
  displayWidth : t.displayWidth = (w.asInt pitch).tdiv s.kcpp

theorem initialBos_sets (hglamor : s.glamor = false) (hgbm : s.frontBo.gbm = none)
    (hk : s.kcpp = 2 ∨ s.kcpp = 3 ∨ s.kcpp = 4) {a : CreateBo} {cursors : List (Option UInt32)}
    (hpitch : a.dumb = some pitch) (hdone : ((Setting.initialBos a cursors).run s).2 = true) :
    SetFrom (.initialBos a cursors) s ((Setting.initialBos a cursors).run s).1 pitch := by
  rw [Setting.run, drmmodeCreateInitialBos] at hdone ⊢
  have hsize := createBo_size s s.virtualX s.virtualY a
  generalize hout : drmmodeCreateBo s s.virtualX s.virtualY a = out at hdone hsize ⊢
  obtain ⟨t, ok⟩ := out
  cases ok with
  | false => cases hdone
  | true =>
      obtain ⟨hnew, -, hkbpp, -⟩ := createBo_made hout
      have hbo := hnew.bo
      have hother := hnew.other
      have hstride := hnew.pitch
      rw [hglamor, if_neg (by decide)] at hbo hother hstride
      obtain rfl : pitch = t.pitch s.next := Option.some.inj (hpitch.symm.trans hstride)
      simp only
      obtain ⟨hfront, hbpp, hx, hy, hdisplay⟩ := createCursorBos_same cursors
        { t with displayWidth := (bufferPitch t t.frontBo / UInt32.ofInt t.kcpp).toInt32.toInt }
      refine ⟨by rw [hfront]; exact hbo, hbpp.trans hkbpp, hx.trans hsize.1, hy.trans hsize.2, ?_⟩
      have hbytes : bufferPitch t t.frontBo = t.pitch s.next := by
        rw [bufferPitch, hother, hgbm, hbo]
      have hkcpp : t.kcpp = s.kcpp := by rw [ScreenState.kcpp, hkbpp, ScreenState.kcpp]
      rw [hdisplay, hbytes, hkcpp]
      exact pixels_toInt hk _

theorem resize_sets (hglamor : s.glamor = false) (hgbm : s.frontBo.gbm = none)
    {ids : FbIds} {sets : Nat → ModeAnswer} {crtcs : Screen}
    {modify : ScreenPixmap → Int → Int → Int → Option Pixels → ScreenPixmap}
    {width height : Int} {a : ResizeAnswer}
    (hmoved : ¬ (s.virtualX = width ∧ s.virtualY = height)) (hpitch : a.create.dumb = some pitch)
    (hdone : ((Setting.resize ids sets crtcs modify width height a).run s).2 = true) :
    SetFrom (.resize ids sets crtcs modify width height a) s
      ((Setting.resize ids sets crtcs modify width height a).run s).1 pitch := by
  rw [Setting.run] at hdone ⊢
  obtain ⟨t, u, hnew, -, hkbpp, -, -, -, hframed, heq⟩ := resize_done hmoved hdone
  have hsame := hframed.toSameScreen.trans
    (resizeDone_same ids sets crtcs modify s u a.destroyOk)
  have hbo := hnew.bo
  have hother := hnew.other
  have hstride := hnew.pitch
  rw [hglamor, if_neg (by decide)] at hbo hother hstride
  obtain rfl : pitch = t.pitch s.next := Option.some.inj (hpitch.symm.trans hstride)
  have hbytes : drmmodeBoGetPitch t t.frontBo = (t.pitch s.next).toInt32.toInt := by
    rw [drmmodeBoGetPitch, hother, hgbm, hbo]
  have hkcpp : t.kcpp = s.kcpp := by rw [ScreenState.kcpp, hkbpp, ScreenState.kcpp]
  rw [heq]
  refine ⟨by rw [hsame.frontBo]; exact hbo, hsame.kbpp.trans hkbpp, hsame.virtualX,
    hsame.virtualY, ?_⟩
  rw [hsame.displayWidth, hbytes, hkcpp]
  rfl

/-- **The lines of the shadow window** are those of the buffer that was made exactly when they
fit: above all, a pixel of 24 bits has to divide the pitch. -/
theorem shadowWindow_lands_iff (w : Setting) (s : ScreenState) (mapping : Nat → Nat)
    (pitch : UInt32) (hglamor : s.glamor = false) (hgbm : s.frontBo.gbm = none)
    (hkbpp : s.kbpp = 16 ∨ s.kbpp = 24 ∨ s.kbpp = 32) (hmoves : w.Reallocates s)
    (hdone : (w.run s).2 = true) (hpitch : w.dumb = some pitch) (haligned : 8 ∣ pitch.toNat)
    (hwide : w.width s * s.kbpp / 8 ≤ pitch.toNat) :
    LandsOn (w.run s).1 mapping pitch ↔
      w.height s ≤ 0 ∨ pitch = 0 ∨ LinesFit pitch (w.asInt pitch) s.kcpp (w.height s) := by
  have hk : (s.kcpp = 2 ∨ s.kcpp = 3 ∨ s.kcpp = 4) ∧ s.kbpp = 8 * s.kcpp := by
    rw [ScreenState.kcpp]
    rcases hkbpp with h | h | h <;> rw [h] <;> decide
  have hset : SetFrom w s (w.run s).1 pitch ∧ IsPitch pitch (w.asInt pitch) := by
    cases w with
    | initialBos a cursors =>
        exact ⟨initialBos_sets hglamor hgbm hk.1 hpitch hdone, Or.inl rfl⟩
    | resize ids sets crtcs modify width height a =>
        refine ⟨resize_sets hglamor hgbm hmoves hpitch hdone, ?_⟩
        rw [IsPitch, Setting.asInt, Dri3Import.toInt32_toInt]
        split
        · exact Or.inl rfl
        · exact Or.inr rfl
  obtain ⟨hset, hp⟩ := hset
  rw [← hset.height]
  exact landsOn_iff hset.dumb hk.1 (hset.kbpp.trans hk.2) hset.displayWidth hp haligned
    (by rw [hset.width, hset.kbpp]; exact hwide)

end Settings

/-- A screen of 24 bits a pixel that has no front buffer yet. -/
def screen24 : ScreenState :=
  { dumbScreen 0 with
    kbpp := 24
    virtualX := 1366
    virtualY := 768
    frontBo := ⟨0, 0, none, none, false⟩ }

theorem shadowWindow_lands_4104 :
    LandsOn ((Setting.initialBos ⟨none, none, some 4104⟩ [some 256]).run screen24).1 (fun _ => 0)
      4104 :=
  (shadowWindow_lands_iff (.initialBos ⟨none, none, some 4104⟩ [some 256]) screen24 (fun _ => 0) 4104
    rfl rfl (Or.inr (Or.inl rfl)) trivial rfl rfl (by decide) (by decide)).mpr
    (Or.inr (Or.inr ⟨by decide, Or.inl (by decide), by decide⟩))

/-- **Lines of 4160 bytes drift**: 1366 pixels of 24 bits on a pitch aligned to 64 bytes, and
line 1 is two bytes early. -/
theorem shadow_lines_drift :
    let t := (Setting.initialBos ⟨none, none, some 4160⟩ []).run screen24
    t.2 = true ∧ t.1.displayWidth = 1386 ∧
      lsShadowWindow t.1 (fun _ => 0) 1 0 = some (4158, 4158) ∧
      ¬ LandsOn t.1 (fun _ => 0) 4160 := by
  have hline : lsShadowWindow ((Setting.initialBos ⟨none, none, some 4160⟩ []).run screen24).1
      (fun _ => 0) 1 0 = some (4158, 4158) := by decide
  refine ⟨rfl, by decide, hline, fun h => ?_⟩
  obtain ⟨n, size, -, heq, -⟩ := h 1 0 (by decide) (by decide)
  rw [hline] at heq
  have hwhere : 4158 = 0 + 1 * 4160 + 0 := congrArg Prod.fst (Option.some.inj heq)
  omega

end LoongsonVideo.Driver.ShadowWindow
