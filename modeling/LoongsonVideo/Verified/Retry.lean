import Mathlib.Data.List.Basic
import Mathlib.Data.List.Infix

/-!
# Retry loops

A loop that makes an attempt, and another one when the answer says so.  A turn is given by a
total function of the state and the answer that comes next: the state afterwards, and the result
unless the loop goes on.  `retry` runs it over the answers there are; without a result it has
not returned by then.

* `retry_eq_none_iff`: it is still going exactly if every turn asked for another.
* `retry_inv`: what every turn keeps, up to the one that returns.
* `retry_returns`: with a measure that every further turn lowers, it returns.

Nothing here mentions the driver.
-/

namespace LoongsonVideo.Verified.Retry

variable {σ α ρ : Type*} (turn : σ → α → σ × Option ρ)

/-- The loop over the answers `as`. -/
def retry : σ → List α → σ × Option ρ
  | s, [] => (s, none)
  | s, a :: as =>
      match turn s a with
      | (s, some r) => (s, some r)
      | (s, none) => retry s as

/-- Every turn asks for another. -/
def GoesOn : σ → List α → Prop
  | _, [] => True
  | s, a :: as => (turn s a).2 = none ∧ GoesOn (turn s a).1 as

variable {turn}

@[simp] theorem retry_nil (s : σ) : retry turn s [] = (s, none) := rfl

theorem retry_cons_some {s : σ} {a : α} {r : ρ} (h : (turn s a).2 = some r) (as : List α) :
    retry turn s (a :: as) = ((turn s a).1, some r) := by
  rw [retry, show turn s a = ((turn s a).1, some r) from Prod.ext rfl h]

theorem retry_cons_none {s : σ} {a : α} (h : (turn s a).2 = none) (as : List α) :
    retry turn s (a :: as) = retry turn (turn s a).1 as := by
  rw [retry, show turn s a = ((turn s a).1, none) from Prod.ext rfl h]

theorem retry_eq_none_iff {s : σ} {as : List α} :
    (retry turn s as).2 = none ↔ GoesOn turn s as := by
  induction as generalizing s with
  | nil => exact iff_of_true rfl trivial
  | cons a as ih =>
      cases h : (turn s a).2 with
      | some r =>
          rw [retry_cons_some h]
          exact iff_of_false (Option.some_ne_none r) fun hgo => Option.some_ne_none r (h ▸ hgo.1)
      | none =>
          rw [retry_cons_none h, ih]
          exact ⟨fun hgo => ⟨h, hgo⟩, And.right⟩

/-- Answers after the result do not count. -/
theorem retry_append {s : σ} {as : List α} {r : ρ} (h : (retry turn s as).2 = some r)
    (later : List α) : retry turn s (as ++ later) = retry turn s as := by
  induction as generalizing s with
  | nil => cases h
  | cons a as ih =>
      cases hturn : (turn s a).2 with
      | some r' => rw [List.cons_append, retry_cons_some hturn, retry_cons_some hturn]
      | none =>
          rw [retry_cons_none hturn] at h
          rw [List.cons_append, retry_cons_none hturn, retry_cons_none hturn, ih h]

/-- A loop that goes on with all the answers does so with the first of them. -/
theorem GoesOn.initial {s : σ} {as bs : List α} (h : GoesOn turn s bs) (hinitial : as <+: bs) :
    GoesOn turn s as := by
  obtain ⟨later, rfl⟩ := hinitial
  rw [← retry_eq_none_iff] at h ⊢
  cases hr : (retry turn s as).2 with
  | none => rfl
  | some r =>
      rw [retry_append hr, hr] at h
      exact h

/-- **Invariant rule.** What holds at the start and survives every turn that goes on gives what
the last turn makes of it and its result. -/
theorem retry_inv {I : σ → Prop} {J : σ → ρ → Prop}
    (hgo : ∀ s a, I s → (turn s a).2 = none → I (turn s a).1)
    (hend : ∀ s a r, I s → (turn s a).2 = some r → J (turn s a).1 r) {s : σ} (hs : I s)
    {as : List α} {r : ρ} (h : (retry turn s as).2 = some r) : J (retry turn s as).1 r := by
  induction as generalizing s with
  | nil => cases h
  | cons a as ih =>
      cases hturn : (turn s a).2 with
      | some r' =>
          rw [retry_cons_some hturn] at h ⊢
          cases h
          exact hend s a _ hs hturn
      | none =>
          rw [retry_cons_none hturn] at h ⊢
          exact ih (hgo s a hs hturn) h

/-- **Termination rule.** A measure that every turn lowers after which the loop goes on bounds
the turns. -/
theorem retry_returns {I : σ → Prop} (f : σ → Nat)
    (hgo : ∀ s a, I s → (turn s a).2 = none → I (turn s a).1 ∧ f (turn s a).1 < f s)
    {s : σ} (hs : I s) {as : List α} (hlen : f s < as.length) : (retry turn s as).2 ≠ none := by
  induction as generalizing s with
  | nil => exact (Nat.not_lt_zero _ hlen).elim
  | cons a as ih =>
      cases h : (turn s a).2 with
      | some r =>
          rw [retry_cons_some h]
          exact Option.some_ne_none r
      | none =>
          obtain ⟨hI, hlt⟩ := hgo s a hs h
          rw [retry_cons_none h]
          refine ih hI ?_
          rw [List.length_cons] at hlen
          omega

/-! ## A sequence of answers -/

/-- The first `m` answers of a sequence. -/
def first (answers : Nat → α) (m : Nat) : List α := (List.range m).map answers

@[simp] theorem length_first (answers : Nat → α) (m : Nat) : (first answers m).length = m := by
  rw [first, List.length_map, List.length_range]

theorem first_initial (answers : Nat → α) {m n : Nat} (h : m ≤ n) :
    first answers m <+: first answers n := by
  obtain ⟨k, rfl⟩ := Nat.exists_eq_add_of_le h
  rw [first, first, List.range_add, List.map_append]
  exact List.prefix_append _ _

/-- The loop returns within `n` answers exactly if it does not go on with all of them. -/
theorem returns_within_iff {answers : Nat → α} {n : Nat} {s : σ} :
    (∃ m ≤ n, (retry turn s (first answers m)).2 ≠ none) ↔ ¬GoesOn turn s (first answers n) := by
  constructor
  · rintro ⟨m, hm, hsome⟩ hgo
    exact hsome (retry_eq_none_iff.mpr (hgo.initial (first_initial answers hm)))
  · intro hgo
    exact ⟨n, Nat.le_refl n, fun hnone => hgo (retry_eq_none_iff.mp hnone)⟩

end LoongsonVideo.Verified.Retry
