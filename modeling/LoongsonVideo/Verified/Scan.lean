import Mathlib.Data.List.Basic
import Mathlib.Order.Lattice

/-!
# Scanning a list for its largest element

The loop that walks a list with the best element so far and its measure, and takes an
element over when its measure is strictly larger.  Elements that a test rejects are
passed over.

`FirstMost f floor l` says what such a loop is for: the first of the elements whose
measure is largest, if any measure is above the floor the loop starts from.
`scan_firstMost` says that the loop finds it.
-/

namespace LoongsonVideo.Verified.Scan

variable {α γ β : Type*} [LinearOrder β]

/-- The loop: the best element so far, and its measure. -/
def scan (keep : α → Bool) (f : α → β) : List α → Option α × β → Option α × β
  | [], best => best
  | a :: rest, best =>
      if !keep a then scan keep f rest best
      else if f a > best.2 then scan keep f rest (some a, f a)
      else scan keep f rest best

/-- The first element whose measure is largest, or `none` when no measure is above the
floor. -/
def FirstMost (f : α → β) (floor : β) (l : List α) : Option α → Prop
  | none => ∀ a ∈ l, f a ≤ floor
  | some m => ∃ before after, l = before ++ m :: after ∧ floor < f m ∧
      (∀ a ∈ before, f a < f m) ∧ ∀ a ∈ after, f a ≤ f m

/-- What the loop knows about the elements it has seen. -/
def Knows (f : α → β) (floor : β) (seen : List α) : Option α × β → Prop
  | (none, v) => v = floor ∧ FirstMost f floor seen none
  | (some m, v) => v = f m ∧ FirstMost f floor seen (some m)

theorem FirstMost.le {f : α → β} {floor : β} {l : List α} {m : α}
    (h : FirstMost f floor l (some m)) {a : α} (ha : a ∈ l) : f a ≤ f m := by
  obtain ⟨before, after, rfl, -, hbefore, hafter⟩ := h
  cases List.mem_append.mp ha with
  | inl hin => exact (hbefore a hin).le
  | inr hin =>
      cases List.mem_cons.mp hin with
      | inl heq => exact (congrArg f heq).le
      | inr hin => exact hafter a hin

/-- A larger element comes after smaller ones only. -/
theorem Knows.take {f : α → β} {floor : β} {seen : List α} {best : Option α × β} {a : α}
    (h : Knows f floor seen best) (hlt : f a > best.2) :
    Knows f floor (seen ++ [a]) (some a, f a) := by
  obtain ⟨m, v⟩ := best
  cases m with
  | none =>
      obtain ⟨rfl, hnone⟩ := h
      exact ⟨rfl, seen, [], rfl, hlt, fun b hb => lt_of_le_of_lt (hnone b hb) hlt, by simp⟩
  | some m =>
      obtain ⟨rfl, hmost⟩ := h
      have hfloor : floor < f m := by
        obtain ⟨-, -, -, hlt, -⟩ := hmost
        exact hlt
      exact ⟨rfl, seen, [], rfl, lt_trans hfloor hlt,
        fun b hb => lt_of_le_of_lt (hmost.le hb) hlt, by simp⟩

/-- An element that is not larger changes nothing. -/
theorem Knows.pass {f : α → β} {floor : β} {seen : List α} {best : Option α × β} {a : α}
    (h : Knows f floor seen best) (hle : f a ≤ best.2) :
    Knows f floor (seen ++ [a]) best := by
  obtain ⟨m, v⟩ := best
  cases m with
  | none =>
      obtain ⟨rfl, hnone⟩ := h
      refine ⟨rfl, fun b hb => ?_⟩
      cases List.mem_append.mp hb with
      | inl hin => exact hnone b hin
      | inr hin => exact List.mem_singleton.mp hin ▸ hle
  | some m =>
      obtain ⟨rfl, before, after, rfl, hfloor, hbefore, hafter⟩ := h
      refine ⟨rfl, before, after ++ [a], by simp, hfloor, hbefore, fun b hb => ?_⟩
      cases List.mem_append.mp hb with
      | inl hin => exact hafter b hin
      | inr hin => exact List.mem_singleton.mp hin ▸ hle

theorem scan_knows (keep : α → Bool) {f : α → β} {floor : β} (l : List α) :
    ∀ {seen : List α} {best : Option α × β}, Knows f floor seen best →
      Knows f floor (seen ++ l.filter keep) (scan keep f l best) := by
  induction l with
  | nil =>
      intro seen best h
      simpa [scan] using h
  | cons a rest ih =>
      intro seen best h
      rw [scan]
      cases hkeep : keep a with
      | false =>
          rw [List.filter_cons_of_neg (by simp [hkeep])]
          exact ih h
      | true =>
          rw [List.filter_cons_of_pos hkeep, List.append_cons]
          simp only [Bool.not_true, Bool.false_eq_true, if_false]
          split
          · next hlt => exact ih (h.take hlt)
          · next hnot => exact ih (h.pass (not_lt.mp hnot))

/-- **The loop** finds the first of the largest elements. -/
theorem scan_firstMost (keep : α → Bool) (f : α → β) (floor : β) (l : List α) :
    FirstMost f floor (l.filter keep) (scan keep f l (none, floor)).1 := by
  have hstart : Knows f floor [] (none, floor) := ⟨rfl, fun a ha => by cases ha⟩
  have hend := scan_knows keep l hstart
  rw [List.nil_append] at hend
  generalize scan keep f l (none, floor) = best at hend ⊢
  obtain ⟨m, v⟩ := best
  cases m with
  | none => exact hend.2
  | some m => exact hend.2

/-- Only the measures of the elements that are kept count. -/
theorem scan_congr {keep keep' : α → Bool} {f g : α → β} {l : List α}
    (hkeep : ∀ a ∈ l, keep a = keep' a) (hf : ∀ a ∈ l, keep a = true → f a = g a)
    (best : Option α × β) : scan keep f l best = scan keep' g l best := by
  induction l generalizing best with
  | nil => rfl
  | cons a rest ih =>
      have hrest := ih (fun b hb => hkeep b (List.mem_cons_of_mem a hb))
        (fun b hb => hf b (List.mem_cons_of_mem a hb))
      rw [scan, scan, ← hkeep a List.mem_cons_self]
      cases hk : keep a with
      | false => simpa using hrest best
      | true => simp only [hf a List.mem_cons_self hk, hrest]

/-- Scanning the images of a list. -/
theorem scan_map (keep : γ → Bool) (f : γ → β) (g : α → γ) (l : List α) (best : Option α × β) :
    scan keep f (l.map g) (best.1.map g, best.2) =
      ((scan (keep ∘ g) (f ∘ g) l best).1.map g, (scan (keep ∘ g) (f ∘ g) l best).2) := by
  induction l generalizing best with
  | nil => rfl
  | cons a rest ih =>
      simp only [List.map_cons, scan, Function.comp_apply]
      split
      · exact ih best
      · split
        · exact ih (some a, f (g a))
        · exact ih best

end LoongsonVideo.Verified.Scan
