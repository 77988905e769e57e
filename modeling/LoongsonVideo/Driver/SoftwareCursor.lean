import LoongsonVideo.Verified.Machine
import Mathlib.Algebra.BigOperators.Ring.Finset
import Mathlib.Algebra.Ring.Int.Defs

/-!
# Counting software cursors

The sprite functions of `src/drmmode_display.c`, which the driver puts in front of
the server's to see whether a software cursor is on the screen.  Each device has a
private record per screen; `sprites_visible` counts the devices whose record says
that the cursor is visible, and page flipping is refused as long as it is not zero.

The count is kept by differences in `drmmode_sprite_do_set_cursor`.  A device whose
record goes away is not subtracted, neither by
`drmmode_sprite_device_cursor_cleanup` nor at the end of a server generation:
`spritesVisible_exact_iff`.
-/

namespace LoongsonVideo.Driver.SoftwareCursor

open LoongsonVideo.Verified.Machine

/-- The size and the hot spot of a cursor (`CursorBits`). -/
structure CursorBits where
  width : Nat
  height : Nat
  xhot : Nat
  yhot : Nat
  deriving DecidableEq, Repr

/-- `msSpritePrivRec`. -/
structure SpritePriv where
  cursor : Option CursorBits
  spriteVisible : Bool
  deriving DecidableEq, Repr

/-- The private record of a new device. -/
def SpritePriv.zero : SpritePriv := ⟨none, false⟩

/-- A screen: the devices there are, their private records, `sprites_visible`, and the
size in `ScrnInfoRec`. -/
structure CursorScreen where
  devices : Finset Nat
  priv : Nat → SpritePriv
  spritesVisible : Int
  virtualX : Int
  virtualY : Int

/-- A new screen without devices. -/
def CursorScreen.start (virtualX virtualY : Int) : CursorScreen :=
  ⟨∅, fun _ => .zero, 0, virtualX, virtualY⟩

/-- A cursor at a position shows on the screen. -/
def onScreen (s : CursorScreen) (cursor : CursorBits) (x y : Int) : Bool :=
  let x := x - cursor.xhot
  let y := y - cursor.yhot
  decide (x < s.virtualX) && decide (y < s.virtualY) && decide (x + cursor.width > 0) &&
    decide (y + cursor.height > 0)

/-- A `Bool` of C as a number. -/
def boolInt (b : Bool) : Int := if b then 1 else 0

/-- `drmmode_sprite_do_set_cursor` on the record of a device. -/
def spriteDoSetCursor (s : CursorScreen) (dev : Nat) (spritePriv : SpritePriv) (x y : Int) :
    CursorScreen :=
  let spriteVisible := spritePriv.spriteVisible
  let visible :=
    match spritePriv.cursor with
    | some cursor => onScreen s cursor x y
    | none => false
  { s with
    priv := Function.update s.priv dev { spritePriv with spriteVisible := visible }
    spritesVisible := s.spritesVisible + (boolInt visible - boolInt spriteVisible) }

/-- `drmmode_sprite_set_cursor`. -/
def spriteSetCursor (s : CursorScreen) (dev : Nat) (cursor : Option CursorBits) (x y : Int) :
    CursorScreen :=
  spriteDoSetCursor s dev { s.priv dev with cursor := cursor } x y

/-- `drmmode_sprite_move_cursor`. -/
def spriteMoveCursor (s : CursorScreen) (dev : Nat) (x y : Int) : CursorScreen :=
  spriteDoSetCursor s dev (s.priv dev) x y

/-- `drmmode_sprite_device_cursor_initialize`, which leaves the work to the server's
function.  A new device has a zeroed record. -/
def spriteDeviceCursorInitialize (s : CursorScreen) (dev : Nat) : CursorScreen :=
  if dev ∈ s.devices then s
  else
    { s with
      devices := insert dev s.devices
      priv := Function.update s.priv dev .zero }

/-- `drmmode_sprite_device_cursor_cleanup`, which leaves the work to the server's
function.  The device's record goes with the device. -/
def spriteDeviceCursorCleanup (s : CursorScreen) (dev : Nat) : CursorScreen :=
  { s with devices := s.devices.erase dev }

/-- The test of `ms_present_check_flip`. -/
def presentFlipsAllowed (s : CursorScreen) : Bool := !decide (s.spritesVisible > 0)

/-- The test of `can_flip`. -/
def dri2FlipsAllowed (s : CursorScreen) : Bool := decide (s.spritesVisible = 0)

/-- A call of the server.  A cursor is set or moved for devices that are there;
`newGeneration` takes all devices away and leaves the driver's record of the screen;
`resize` is a new size of the screen. -/
inductive CursorOp where
  | deviceCursorInitialize (dev : Nat)
  | setCursor (dev : Nat) (cursor : Option CursorBits) (x y : Int)
  | moveCursor (dev : Nat) (x y : Int)
  | deviceCursorCleanup (dev : Nat)
  | newGeneration
  | resize (virtualX virtualY : Int)
  deriving DecidableEq

def cursorStep (s : CursorScreen) : CursorOp → CursorScreen
  | .deviceCursorInitialize dev => spriteDeviceCursorInitialize s dev
  | .setCursor dev cursor x y => if dev ∈ s.devices then spriteSetCursor s dev cursor x y else s
  | .moveCursor dev x y => if dev ∈ s.devices then spriteMoveCursor s dev x y else s
  | .deviceCursorCleanup dev => spriteDeviceCursorCleanup s dev
  | .newGeneration => { s with devices := ∅ }
  | .resize virtualX virtualY => { s with virtualX := virtualX, virtualY := virtualY }

/-! ## The count -/

/-- The devices that show a software cursor. -/
def visibleDevices (s : CursorScreen) : Finset Nat :=
  s.devices.filter fun dev => (s.priv dev).spriteVisible

/-- **The property.** The count is exact, and flips are allowed when there is nothing
to count. -/
def Exact (s : CursorScreen) : Prop :=
  s.spritesVisible = (visibleDevices s).card ∧
    (visibleDevices s = ∅ → presentFlipsAllowed s = true ∧ dri2FlipsAllowed s = true)

instance (s : CursorScreen) : Decidable (Exact s) := inferInstanceAs (Decidable (_ ∧ _))

/-- No device goes away with its cursor visible. -/
def TakesHidden (s : CursorScreen) : CursorOp → Bool
  | .deviceCursorCleanup dev => decide (dev ∉ visibleDevices s)
  | .newGeneration => decide (visibleDevices s = ∅)
  | _ => true

theorem mem_visibleDevices {s : CursorScreen} {dev : Nat} :
    dev ∈ visibleDevices s ↔ dev ∈ s.devices ∧ (s.priv dev).spriteVisible = true :=
  Finset.mem_filter

/-- The number of visible cursors, as a sum. -/
theorem card_visible (s : CursorScreen) :
    ((visibleDevices s).card : Int) = ∑ dev ∈ s.devices, boolInt (s.priv dev).spriteVisible := by
  rw [visibleDevices, Finset.card_filter, Nat.cast_sum]
  apply Finset.sum_congr rfl
  intro dev _
  cases (s.priv dev).spriteVisible <;> rfl

/-- The second half of the property follows from the first. -/
theorem exact_iff (s : CursorScreen) :
    Exact s ↔ s.spritesVisible = (visibleDevices s).card := by
  constructor
  · exact fun h => h.1
  · intro h
    refine ⟨h, fun hempty => ?_⟩
    rw [hempty, Finset.card_empty] at h
    simp [presentFlipsAllowed, dri2FlipsAllowed, h]

/-- **Differences add up**: setting or moving a cursor changes the count by as much as
the number of visible cursors. -/
theorem spriteDoSetCursor_diff (s : CursorScreen) {dev : Nat} (hdev : dev ∈ s.devices)
    (spritePriv : SpritePriv) (hsame : spritePriv.spriteVisible = (s.priv dev).spriteVisible)
    (x y : Int) :
    (spriteDoSetCursor s dev spritePriv x y).spritesVisible - s.spritesVisible =
      ((visibleDevices (spriteDoSetCursor s dev spritePriv x y)).card : Int) -
        (visibleDevices s).card := by
  rw [card_visible, card_visible]
  simp only [spriteDoSetCursor]
  rw [← Finset.add_sum_erase _ _ hdev, ← Finset.add_sum_erase s.devices _ hdev]
  have hrest : ∀ new : SpritePriv,
      ∑ d ∈ s.devices.erase dev, boolInt (Function.update s.priv dev new d).spriteVisible =
        ∑ d ∈ s.devices.erase dev, boolInt (s.priv d).spriteVisible := by
    intro new
    apply Finset.sum_congr rfl
    intro d hd
    rw [Function.update_of_ne (Finset.ne_of_mem_erase hd)]
  rw [hrest, Function.update_self, hsame]
  show _ - _ = boolInt _ + _ - _
  simp only
  omega

/-- How much the count exceeds the number of visible cursors. -/
def excess (s : CursorScreen) : Int := s.spritesVisible - (visibleDevices s).card

/-- **One step** never lowers the excess, and keeps it exactly when no device goes away
with its cursor visible. -/
theorem cursorStep_excess (s : CursorScreen) (op : CursorOp) :
    excess s ≤ excess (cursorStep s op) ∧
      (excess (cursorStep s op) = excess s ↔ TakesHidden s op = true) := by
  have hkeeps : excess (cursorStep s op) = excess s → TakesHidden s op = true →
      excess s ≤ excess (cursorStep s op) ∧
        (excess (cursorStep s op) = excess s ↔ TakesHidden s op = true) :=
    fun heq hhidden => ⟨Int.le_of_eq heq.symm, fun _ => hhidden, fun _ => heq⟩
  cases op with
  | deviceCursorInitialize dev =>
      apply hkeeps _ rfl
      simp only [cursorStep, spriteDeviceCursorInitialize]
      split
      · rfl
      · next hnew =>
          have hsame : visibleDevices { s with
              devices := insert dev s.devices
              priv := Function.update s.priv dev .zero } = visibleDevices s := by
            ext d
            rw [mem_visibleDevices, mem_visibleDevices]
            by_cases hd : d = dev
            · subst hd
              simp [hnew, SpritePriv.zero]
            · simp [hd]
          simp only [excess]
          rw [hsame]
  | setCursor dev cursor x y =>
      apply hkeeps _ rfl
      simp only [cursorStep]
      split
      · next hdev =>
          have hdiff := spriteDoSetCursor_diff s hdev { s.priv dev with cursor := cursor } rfl x y
          show (spriteSetCursor s dev cursor x y).spritesVisible -
            ((visibleDevices (spriteSetCursor s dev cursor x y)).card : Int) = _
          simp only [excess]
          rw [spriteSetCursor]
          omega
      · rfl
  | moveCursor dev x y =>
      apply hkeeps _ rfl
      simp only [cursorStep]
      split
      · next hdev =>
          have hdiff := spriteDoSetCursor_diff s hdev (s.priv dev) rfl x y
          simp only [excess, spriteMoveCursor]
          omega
      · rfl
  | deviceCursorCleanup dev =>
      have hleft : visibleDevices (cursorStep s (.deviceCursorCleanup dev)) =
          (visibleDevices s).erase dev := Finset.filter_erase _ _ _
      have hcount : (cursorStep s (.deviceCursorCleanup dev)).spritesVisible =
          s.spritesVisible := rfl
      simp only [excess, hleft, hcount, TakesHidden]
      by_cases hvisible : dev ∈ visibleDevices s
      · have hcard := Finset.card_erase_add_one hvisible
        refine ⟨by omega, ?_⟩
        simp only [hvisible, not_true_eq_false, decide_false, Bool.false_eq_true, iff_false]
        omega
      · rw [Finset.erase_eq_of_notMem hvisible]
        simp [hvisible]
  | newGeneration =>
      have hleft : visibleDevices (cursorStep s .newGeneration) = ∅ := Finset.filter_empty _
      have hcount : (cursorStep s .newGeneration).spritesVisible = s.spritesVisible := rfl
      simp only [excess, hleft, hcount, TakesHidden, Finset.card_empty]
      refine ⟨by omega, ?_⟩
      rw [decide_eq_true_iff, ← Finset.card_eq_zero]
      omega
  | resize virtualX virtualY => exact hkeeps rfl rfl

/-- **The count of software cursors.** In every run it is exact in all states if and
only if no device goes away with its cursor visible. -/
theorem spritesVisible_exact_iff (virtualX virtualY : Int) (ops : List CursorOp) :
    Always cursorStep Exact (CursorScreen.start virtualX virtualY) ops ↔
      Guarded cursorStep (fun s op => TakesHidden s op = true)
        (CursorScreen.start virtualX virtualY) ops := by
  have hexact : ∀ s, Exact s ↔ excess s = 0 := by
    intro s
    rw [exact_iff, excess]
    omega
  -- The excess never changes any other way, so no invariant is needed beside it.
  refine always_iff_guarded (I := fun _ => True) (fun _ _ _ => trivial) (fun s op _ hs => ?_)
    trivial ?_ ops
  · rw [hexact] at hs ⊢
    rw [← (cursorStep_excess s op).2, hs]
  · exact (hexact _).mpr rfl

/-- **A removed device stays counted.** A cursor is shown, its device is removed, and no
flip is allowed although no device is left. -/
theorem removed_device_stays_counted :
    let s := run cursorStep (CursorScreen.start 1920 1080)
      [.deviceCursorInitialize 2, .setCursor 2 (some ⟨16, 16, 0, 0⟩) 100 100,
        .deviceCursorCleanup 2]
    s.devices = ∅ ∧ s.spritesVisible = 1 ∧ presentFlipsAllowed s = false ∧ ¬ Exact s := by
  decide

end LoongsonVideo.Driver.SoftwareCursor
