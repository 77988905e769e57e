import Mathlib.Data.List.Basic
import Mathlib.Data.List.Infix

/-!
# Runs of a total step function

The driver code is modelled by total functions `step : σ → α → σ`: a state,
one call made by the server or the kernel, and the state after it.  A run is a
list of such calls.  This module says once how a property of single steps
becomes a property of runs, so that no later file repeats the induction.

* `run` folds the step over the calls.
* `Always P` holds of a run when `P` holds in every state the run passes
  through, the first and the last included.
* `Guarded ok` holds of a run when every call is made in a state that admits
  it.  It carries the assumptions about the environment.

Nothing here mentions the driver.
-/

namespace LoongsonVideo.Verified.Machine

variable {σ α : Type*} (step : σ → α → σ)

/-- The state after the calls `acts`, made in order from `s`. -/
def run (s : σ) (acts : List α) : σ := acts.foldl step s

@[simp] theorem run_nil (s : σ) : run step s [] = s := rfl

@[simp] theorem run_cons (s : σ) (a : α) (acts : List α) :
    run step s (a :: acts) = run step (step s a) acts := rfl

theorem run_append (s : σ) (xs ys : List α) :
    run step s (xs ++ ys) = run step (run step s xs) ys :=
  List.foldl_append

/-- `P` holds in every state of the run, first and last included. -/
def Always (P : σ → Prop) : σ → List α → Prop
  | s, [] => P s
  | s, a :: acts => P s ∧ Always P (step s a) acts

/-- Every call of the run is made in a state that admits it. -/
def Guarded (ok : σ → α → Prop) : σ → List α → Prop
  | _, [] => True
  | s, a :: acts => ok s a ∧ Guarded ok (step s a) acts

instance decidableAlways (P : σ → Prop) [DecidablePred P] :
    (s : σ) → (acts : List α) → Decidable (Always step P s acts)
  | s, [] => inferInstanceAs (Decidable (P s))
  | s, a :: acts => @instDecidableAnd _ _ _ (decidableAlways P (step s a) acts)

instance decidableGuarded (ok : σ → α → Prop) [∀ s a, Decidable (ok s a)] :
    (s : σ) → (acts : List α) → Decidable (Guarded step ok s acts)
  | _, [] => .isTrue trivial
  | s, a :: acts => @instDecidableAnd _ _ _ (decidableGuarded ok (step s a) acts)

variable {step}

theorem Always.head {P : σ → Prop} {s : σ} {acts : List α}
    (h : Always step P s acts) : P s := by
  cases acts with
  | nil => exact h
  | cons a acts => exact h.1

theorem Always.last {P : σ → Prop} {s : σ} {acts : List α}
    (h : Always step P s acts) : P (run step s acts) := by
  induction acts generalizing s with
  | nil => exact h
  | cons a acts ih => exact ih h.2

/-- `Always` is a statement about the prefixes of a run. -/
theorem always_iff_prefix {P : σ → Prop} {s : σ} {acts : List α} :
    Always step P s acts ↔ ∀ pre, pre <+: acts → P (run step s pre) := by
  induction acts generalizing s with
  | nil =>
      constructor
      · intro h pre hpre
        rw [List.prefix_nil.mp hpre]
        exact h
      · intro h
        exact h [] List.prefix_rfl
  | cons a acts ih =>
      constructor
      · rintro ⟨hs, htail⟩ pre hpre
        cases pre with
        | nil => exact hs
        | cons b pre =>
            obtain ⟨rfl, hrest⟩ := List.cons_prefix_cons.mp hpre
            exact ih.mp htail pre hrest
      · intro h
        refine ⟨h [] (List.nil_prefix), ih.mpr fun pre hpre => ?_⟩
        exact h (a :: pre) (List.cons_prefix_cons.mpr ⟨rfl, hpre⟩)

/-- A guarded run is guarded up to a point and from there on. -/
theorem guarded_append {ok : σ → α → Prop} {s : σ} {xs ys : List α} :
    Guarded step ok s (xs ++ ys) ↔ Guarded step ok s xs ∧ Guarded step ok (run step s xs) ys := by
  induction xs generalizing s with
  | nil => exact (iff_of_eq (true_and _)).symm
  | cons a xs ih =>
      show ok s a ∧ Guarded step ok (step s a) (xs ++ ys) ↔ _
      rw [ih]
      exact and_assoc.symm

theorem Guarded.and {ok ok' : σ → α → Prop} {s : σ} {acts : List α}
    (h : Guarded step ok s acts) (h' : Guarded step ok' s acts) :
    Guarded step (fun t a => ok t a ∧ ok' t a) s acts := by
  induction acts generalizing s with
  | nil => trivial
  | cons a acts ih => exact ⟨⟨h.1, h'.1⟩, ih h.2 h'.2⟩

/-- A condition that does not look at the state is met in a run whose calls all meet it. -/
theorem guarded_of_forall {ok : α → Prop} {acts : List α} (h : ∀ a ∈ acts, ok a) (s : σ) :
    Guarded step (fun _ a => ok a) s acts := by
  induction acts generalizing s with
  | nil => trivial
  | cons a acts ih =>
      exact ⟨h a List.mem_cons_self, ih (fun b hb => h b (List.mem_cons_of_mem a hb)) _⟩

/-- **Invariant rule.** What holds at the start and survives every admitted
step holds in every state of a guarded run. -/
theorem Guarded.always {ok : σ → α → Prop} {P : σ → Prop}
    (hstep : ∀ s a, P s → ok s a → P (step s a)) {s : σ} {acts : List α}
    (hs : P s) (hg : Guarded step ok s acts) : Always step P s acts := by
  induction acts generalizing s with
  | nil => exact hs
  | cons a acts ih => exact ⟨hs, ih (hstep s a hs hg.1) hg.2⟩

/-- **Exactness rule.** When a step keeps the property exactly if the call is admitted, a
run has the property throughout exactly if all its calls are admitted. -/
theorem always_iff_guarded {ok : σ → α → Prop} {I P : σ → Prop}
    (hinv : ∀ s a, I s → I (step s a)) (hstep : ∀ s a, I s → P s → (P (step s a) ↔ ok s a))
    {s : σ} (hI : I s) (hP : P s) (acts : List α) :
    Always step P s acts ↔ Guarded step ok s acts := by
  induction acts generalizing s with
  | nil => exact ⟨fun _ => trivial, fun _ => hP⟩
  | cons a acts ih =>
      constructor
      · intro h
        have hnext := h.2.head
        exact ⟨(hstep s a hI hP).mp hnext, (ih (hinv s a hI) hnext).mp h.2⟩
      · intro h
        have hnext := (hstep s a hI hP).mpr h.1
        exact ⟨hP, (ih (hinv s a hI) hnext).mpr h.2⟩

/-- Two conditions that agree on the calls of a run, as long as both have admitted the ones
before, admit the same runs. -/
theorem guarded_iff_of {assumed ok ok' : σ → α → Prop} {I : σ → Prop}
    (hok : ∀ s a, I s → assumed s a → (ok s a ↔ ok' s a))
    (hinv : ∀ s a, I s → assumed s a → ok' s a → I (step s a)) {s : σ} (hI : I s)
    {acts : List α} (hassumed : Guarded step assumed s acts) :
    Guarded step ok s acts ↔ Guarded step ok' s acts := by
  induction acts generalizing s with
  | nil => exact Iff.rfl
  | cons a acts ih =>
      have hhead := hok s a hI hassumed.1
      constructor
      · intro h
        have hadmitted := hhead.mp h.1
        exact ⟨hadmitted, (ih (hinv s a hI hassumed.1 hadmitted) hassumed.2).mp h.2⟩
      · intro h
        exact ⟨hhead.mpr h.1, (ih (hinv s a hI hassumed.1 h.1) hassumed.2).mpr h.2⟩

/-- What admits the same calls wherever an invariant holds admits the same runs. -/
theorem guarded_congr {ok ok' : σ → α → Prop} {I : σ → Prop}
    (hinv : ∀ s a, I s → I (step s a)) (hok : ∀ s a, I s → (ok s a ↔ ok' s a))
    {s : σ} (hI : I s) (acts : List α) : Guarded step ok s acts ↔ Guarded step ok' s acts := by
  induction acts generalizing s with
  | nil => exact Iff.rfl
  | cons a acts ih => exact and_congr (hok s a hI) (ih (hinv s a hI))

/-- What cannot be regained holds throughout a run when it holds at the end. -/
theorem always_iff_last {I P : σ → Prop} (hinv : ∀ s a, I s → I (step s a))
    (hlost : ∀ s a, I s → P (step s a) → P s) {s : σ} (hI : I s) (acts : List α) :
    Always step P s acts ↔ P (run step s acts) := by
  refine ⟨Always.last, fun h => ?_⟩
  induction acts generalizing s with
  | nil => exact h
  | cons a acts ih =>
      have htail := ih (hinv s a hI) h
      exact ⟨hlost s a hI htail.head, htail⟩

/-- The invariant rule with no assumption on the calls. -/
theorem always_of_step {P : σ → Prop} (hstep : ∀ s a, P s → P (step s a))
    {s : σ} (hs : P s) (acts : List α) : Always step P s acts := by
  induction acts generalizing s with
  | nil => exact hs
  | cons a acts ih => exact ⟨hs, ih (hstep s a hs)⟩

theorem Always.mono {P Q : σ → Prop} (hPQ : ∀ s, P s → Q s) {s : σ}
    {acts : List α} (h : Always step P s acts) : Always step Q s acts := by
  induction acts generalizing s with
  | nil => exact hPQ s h
  | cons a acts ih => exact ⟨hPQ s h.1, ih h.2⟩

/-- A measure that no step lowers is, all along a run, at most its last
value. -/
theorem always_le_last (f : σ → Nat) (hmono : ∀ s a, f s ≤ f (step s a)) (s : σ)
    (acts : List α) :
    Always step (fun t => f t ≤ f (run step s acts)) s acts := by
  have hle : ∀ (acts : List α) (s : σ), f s ≤ f (run step s acts) := by
    intro acts
    induction acts with
    | nil => intro s; exact Nat.le_refl _
    | cons a acts ih => intro s; exact Nat.le_trans (hmono s a) (ih (step s a))
  induction acts generalizing s with
  | nil => exact Nat.le_refl _
  | cons a acts ih => exact ⟨hle (a :: acts) s, ih (step s a)⟩

/-- An invariant holds after a run. -/
theorem run_of_step {P : σ → Prop} (hstep : ∀ s a, P s → P (step s a)) {s : σ} (hs : P s)
    (acts : List α) : P (run step s acts) := (always_of_step hstep hs acts).last

section Map

variable {τ : Type*} {step' : τ → α → τ} {f : σ → τ}

/-- A run of a machine that carries more than another one is a run of the other. -/
theorem always_map (hf : ∀ s a, f (step s a) = step' (f s) a) {P : τ → Prop} {s : σ}
    {acts : List α} :
    Always step (fun t => P (f t)) s acts ↔ Always step' P (f s) acts := by
  induction acts generalizing s with
  | nil => exact Iff.rfl
  | cons a acts ih =>
      have htail := ih (s := step s a)
      rw [hf] at htail
      exact and_congr_right fun _ => htail

theorem guarded_map (hf : ∀ s a, f (step s a) = step' (f s) a) {ok : τ → α → Prop} {s : σ}
    {acts : List α} :
    Guarded step (fun t a => ok (f t) a) s acts ↔ Guarded step' ok (f s) acts := by
  induction acts generalizing s with
  | nil => exact Iff.rfl
  | cons a acts ih =>
      have htail := ih (s := step s a)
      rw [hf] at htail
      exact and_congr_right fun _ => htail

end Map

theorem Always.and {P Q : σ → Prop} {s : σ} {acts : List α}
    (hP : Always step P s acts) (hQ : Always step Q s acts) :
    Always step (fun t => P t ∧ Q t) s acts := by
  induction acts generalizing s with
  | nil => exact ⟨hP, hQ⟩
  | cons a acts ih => exact ⟨⟨hP.1, hQ.1⟩, ih hP.2 hQ.2⟩

end LoongsonVideo.Verified.Machine
