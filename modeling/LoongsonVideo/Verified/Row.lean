import Mathlib.Algebra.BigOperators.Group.List.Basic
import Mathlib.Algebra.Ring.Nat

/-!
# Boxes in a row

Boxes of given widths stand side by side, the first one at zero.  `left ws c` is where
box `c` begins.  Two boxes do not overlap, and none ends behind the sum of all widths.

Nothing here mentions the driver.
-/

namespace LoongsonVideo.Verified.Row

/-- Where box `c` of the row begins. -/
def left (ws : List Nat) (c : Nat) : Nat := (ws.take c).sum

@[simp] theorem left_zero (ws : List Nat) : left ws 0 = 0 := rfl

@[simp] theorem left_cons_succ (w : Nat) (ws : List Nat) (c : Nat) :
    left (w :: ws) (c + 1) = w + left ws c := by
  unfold left
  rw [List.take_succ_cons, List.sum_cons]

/-- The next box begins where this one ends. -/
theorem left_succ {ws : List Nat} {c w : Nat} (hw : ws[c]? = some w) :
    left ws (c + 1) = left ws c + w := by
  induction ws generalizing c with
  | nil => cases hw
  | cons v ws ih =>
      cases c with
      | zero =>
          have hv : v = w := Option.some.inj hw
          rw [left_cons_succ, left_zero, left_zero, hv]
          omega
      | succ c =>
          have htail : left ws (c + 1) = left ws c + w := ih hw
          rw [left_cons_succ, left_cons_succ, htail]
          omega

theorem left_le_sum (ws : List Nat) (c : Nat) : left ws c ≤ ws.sum := by
  have hsplit := List.sum_take_add_sum_drop ws c
  unfold left
  omega

theorem left_mono (ws : List Nat) {c d : Nat} (hcd : c ≤ d) : left ws c ≤ left ws d := by
  have hfirst : (ws.take d).take c = ws.take c := by
    rw [List.take_take, Nat.min_eq_left hcd]
  have hle := left_le_sum (ws.take d) c
  unfold left at hle ⊢
  rwa [hfirst] at hle

/-- A box ends before any later one begins. -/
theorem left_add_le {ws : List Nat} {c d w : Nat} (hw : ws[c]? = some w) (hcd : c < d) :
    left ws c + w ≤ left ws d := by
  rw [← left_succ hw]
  exact left_mono ws hcd

/-- A box ends inside the row. -/
theorem left_add_le_sum {ws : List Nat} {c w : Nat} (hw : ws[c]? = some w) :
    left ws c + w ≤ ws.sum := by
  rw [← left_succ hw]
  exact left_le_sum ws (c + 1)

end LoongsonVideo.Verified.Row
