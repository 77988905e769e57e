import Mathlib.Logic.Function.Basic

/-!
# Runs of assignments to tables

A run of assignments goes to tables of one size.  An assignment past the end of its table
is not defined: the run is then `none`.  When all assignments to a place carry the same
value, their order does not matter (`writeAll_of_agree`).
-/

namespace LoongsonVideo.Verified.Writes

variable {κ β : Type} {size : Nat}

/-- `table[position] = value`. -/
structure Write (κ β : Type) where
  table : κ
  position : Nat
  value : β

/-- The assignment is to this place. -/
def Write.Hits (w : Write κ β) (k : κ) (p : Nat) : Prop :=
  w.table = k ∧ w.position = p

instance [DecidableEq κ] (w : Write κ β) (k : κ) (p : Nat) : Decidable (w.Hits k p) :=
  inferInstanceAs (Decidable (_ ∧ _))

variable [DecidableEq κ]

/-- One assignment; `none` past the end of the table. -/
def write (tables : κ → Fin size → β) (w : Write κ β) : Option (κ → Fin size → β) :=
  if h : w.position < size then
    some (Function.update tables w.table
      (Function.update (tables w.table) ⟨w.position, h⟩ w.value))
  else none

/-- A run of assignments. -/
def writeAll (tables : κ → Fin size → β) : List (Write κ β) → Option (κ → Fin size → β)
  | [] => some tables
  | w :: ws => (write tables w).bind fun tables => writeAll tables ws

theorem writeAll_append (tables : κ → Fin size → β) (ws ws' : List (Write κ β)) :
    writeAll tables (ws ++ ws') =
      (writeAll tables ws).bind fun tables => writeAll tables ws' := by
  induction ws generalizing tables with
  | nil => rfl
  | cons w ws ih =>
      rw [List.cons_append, writeAll, writeAll]
      cases write tables w with
      | none => rfl
      | some next => exact ih next

/-- What one assignment leaves at a place. -/
theorem write_apply {tables next : κ → Fin size → β} {w : Write κ β}
    (h : write tables w = some next) (k : κ) (p : Fin size) :
    next k p = if w.Hits k p then w.value else tables k p := by
  unfold write at h
  split at h
  · next hin =>
      obtain rfl := Option.some.inj h
      by_cases hk : w.table = k
      · subst hk
        rw [Function.update_self]
        by_cases hp : w.position = p
        · have hplace : p = ⟨w.position, hin⟩ := Fin.ext hp.symm
          rw [hplace, Function.update_self, if_pos ⟨rfl, rfl⟩]
        · have hplace : p ≠ ⟨w.position, hin⟩ := fun h => hp (by rw [h])
          rw [Function.update_of_ne hplace, if_neg (fun hits => hp hits.2)]
      · rw [Function.update_of_ne (Ne.symm hk), if_neg (fun hits => hk hits.1)]
  · cases h

/-- A run is defined when every assignment is inside its table. -/
theorem writeAll_isSome_iff (tables : κ → Fin size → β) (ws : List (Write κ β)) :
    (writeAll tables ws).isSome = true ↔ ∀ w ∈ ws, w.position < size := by
  induction ws generalizing tables with
  | nil => simp [writeAll]
  | cons w ws ih =>
      rw [writeAll, List.forall_mem_cons]
      by_cases hin : w.position < size
      · rw [write, dif_pos hin, Option.bind_some, ih]
        exact (and_iff_right hin).symm
      · rw [write, dif_neg hin]
        simp [hin]

/-- When the values agree on each place, a place holds the agreed value as soon as one
assignment is to it. -/
theorem writeAll_of_agree {agreed : κ → Nat → β} {ws : List (Write κ β)}
    (hagree : ∀ w ∈ ws, w.value = agreed w.table w.position) {tables final : κ → Fin size → β}
    (h : writeAll tables ws = some final) (k : κ) (p : Fin size) :
    final k p = if ∃ w ∈ ws, w.Hits k p then agreed k p else tables k p := by
  induction ws generalizing tables with
  | nil =>
      obtain rfl := Option.some.inj h
      simp
  | cons w ws ih =>
      rw [writeAll] at h
      obtain ⟨next, hnext, hrest⟩ := Option.bind_eq_some_iff.mp h
      have hw := hagree w List.mem_cons_self
      have hhead := write_apply hnext k p
      rw [ih (fun w hw => hagree w (List.mem_cons_of_mem _ hw)) hrest, hhead]
      by_cases hlater : ∃ w ∈ ws, w.Hits k p
      · have hsome : ∃ v ∈ w :: ws, v.Hits k p := by
          obtain ⟨v, hv, hits⟩ := hlater
          exact ⟨v, List.mem_cons_of_mem _ hv, hits⟩
        rw [if_pos hlater, if_pos hsome]
      · rw [if_neg hlater]
        by_cases hits : w.Hits k p
        · have hsome : ∃ v ∈ w :: ws, v.Hits k p := ⟨w, List.mem_cons_self, hits⟩
          rw [if_pos hits, if_pos hsome, hw, hits.1, hits.2]
        · have hnone : ¬ ∃ v ∈ w :: ws, v.Hits k p := by
            intro hsome
            obtain ⟨v, hv, hhits⟩ := hsome
            cases List.mem_cons.mp hv with
            | inl heq => exact hits (heq ▸ hhits)
            | inr hrest => exact hlater ⟨v, hrest, hhits⟩
          rw [if_neg hits, if_neg hnone]

end LoongsonVideo.Verified.Writes
