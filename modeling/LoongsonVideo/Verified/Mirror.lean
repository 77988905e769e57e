import Mathlib.Data.Finset.Image
import Mathlib.Data.Finset.Lattice.Basic

/-!
# Copies kept up to date by damage

A mirror is a copy of part of a source.  Cell `q` of the copy is to show cell
`view q` of the source, and `damage` is the cells of the source that may have
changed since the copy was last brought up to date.

`Mirror.Sound` says that the damage misses nothing: where the copy differs from
the source, the source is damaged.  A change of the source keeps it if what
changed is noted, and bringing the copy up to date needs to look at the damage
only.

Nothing here mentions the driver.
-/

namespace LoongsonVideo.Verified

variable {P Q V : Type*}

/-- A copy, what it is of, and the damage. -/
structure Mirror (P Q V : Type*) where
  cells : Finset Q
  view : Q → P
  damage : Finset P
  copy : Q → V

/-- What is not damaged is as the source has it. -/
def Mirror.Sound (m : Mirror P Q V) (source : P → V) : Prop :=
  ∀ q ∈ m.cells, m.view q ∉ m.damage → m.copy q = source (m.view q)

/-- The whole copy is as the source has it. -/
def Mirror.Fresh (m : Mirror P Q V) (source : P → V) : Prop :=
  ∀ q ∈ m.cells, m.copy q = source (m.view q)

/-- Copy what is damaged. -/
def Mirror.sync [DecidableEq P] [DecidableEq Q] (m : Mirror P Q V) (source : P → V) : Q → V :=
  fun q => if q ∈ m.cells ∧ m.view q ∈ m.damage then source (m.view q) else m.copy q

theorem Mirror.Fresh.sound {m : Mirror P Q V} {source : P → V} (h : m.Fresh source) :
    m.Sound source := fun q hq _ => h q hq

/-- Without damage a sound copy is fresh. -/
theorem Mirror.Sound.fresh {m : Mirror P Q V} {source : P → V} (h : m.Sound source)
    (hdamage : m.damage = ∅) : m.Fresh source := by
  intro q hq
  refine h q hq ?_
  rw [hdamage]
  exact Finset.notMem_empty _

/-- A copy that is damaged all over is sound whatever it shows. -/
theorem Mirror.sound_of_image [DecidableEq P] (cells : Finset Q) (view : Q → P) (copy : Q → V)
    (source : P → V) : (⟨cells, view, cells.image view, copy⟩ : Mirror P Q V).Sound source := by
  intro q hq hview
  exact absurd (Finset.mem_image_of_mem view hq) hview

/-- **A change that is noted keeps the copy sound.** -/
theorem Mirror.Sound.note [DecidableEq P] {m : Mirror P Q V} {source source' : P → V}
    {region : Finset P} (h : m.Sound source) (hsame : ∀ x, x ∉ region → source' x = source x) :
    ({ m with damage := m.damage ∪ region } : Mirror P Q V).Sound source' := by
  intro q hq hview
  rw [Finset.mem_union, not_or] at hview
  have hcopy : m.copy q = source (m.view q) := h q hq hview.1
  show m.copy q = source' (m.view q)
  rw [hcopy, hsame _ hview.2]

/-- **Copying what is damaged is enough.** -/
theorem Mirror.Sound.sync [DecidableEq P] [DecidableEq Q] {m : Mirror P Q V} {source : P → V}
    (h : m.Sound source) (damage : Finset P) :
    ({ m with copy := m.sync source, damage := damage } : Mirror P Q V).Fresh source := by
  intro q hq
  show (if q ∈ m.cells ∧ m.view q ∈ m.damage then source (m.view q) else m.copy q) = _
  by_cases hview : m.view q ∈ m.damage
  · rw [if_pos ⟨hq, hview⟩]
  · rw [if_neg fun hboth => hview hboth.2]
    exact h q hq hview

end LoongsonVideo.Verified
