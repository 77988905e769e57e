import Mathlib.Data.List.Basic

/-!
# Lines justified by their past

A log is kept newest line first, so the rest of the list is a line's past.
`Justified P` says that every line stands in the relation `P` to its past.
It is built line by line and read at any line (`Justified.at`).
-/

namespace LoongsonVideo.Verified.History

variable {α : Type*}

/-- Every line of the log is justified by the lines before it. -/
def Justified (P : α → List α → Prop) : List α → Prop
  | [] => True
  | line :: past => P line past ∧ Justified P past

variable {P : α → List α → Prop}

theorem Justified.at {log later past : List α} {line : α} (h : Justified P log)
    (hlog : log = later ++ line :: past) : P line past := by
  subst hlog
  induction later with
  | nil => exact h.1
  | cons x later ih => exact ih h.2

end LoongsonVideo.Verified.History
