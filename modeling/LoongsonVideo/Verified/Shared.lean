import LoongsonVideo.Verified.Pending
import Mathlib.Data.Multiset.AddSub
import Mathlib.Data.Multiset.Count

/-!
# Objects with a reference count

An object that several parts of a program share carries a count of its references
and goes away with the last one.  `Shared` is a value beside its count; a table of
them has `ref`, which takes a reference, and `unref`, which gives one back.

`Counts heap holders` is the assertion a program proof carries along: `holders` are
the references there are, one entry for each; every count is the number of the object's
entries, and exactly the objects that have an entry are in the table.  So an
object is never released while a reference to it is left, and never kept without one.
The operations have one rule each.
-/

namespace LoongsonVideo.Verified

/-- A value and its references. -/
structure Shared (δ : Type*) where
  refcnt : Int
  value : δ
  deriving DecidableEq, Repr

variable {δ : Type*}

/-- A new object, with one reference. -/
def Shared.new (heap : Pending (Shared δ)) (d : δ) : Pending (Shared δ) := heap.alloc ⟨1, d⟩

/-- Take a reference. -/
def Shared.ref (heap : Pending (Shared δ)) (k : Nat) : Pending (Shared δ) :=
  heap.modify k fun o => { o with refcnt := o.refcnt + 1 }

/-- Give a reference back.  The object is released when there is none left. -/
def Shared.unref (heap : Pending (Shared δ)) (k : Nat) : Pending (Shared δ) :=
  match heap.find? k with
  | none => heap
  | some o =>
      if o.refcnt - 1 = 0 then heap.remove k
      else heap.modify k fun o => { o with refcnt := o.refcnt - 1 }

/-- Change the value of an object. -/
def Shared.set (heap : Pending (Shared δ)) (k : Nat) (f : δ → δ) : Pending (Shared δ) :=
  heap.modify k fun o => { o with value := f o.value }

/-- The value of an object. -/
def Shared.get? (heap : Pending (Shared δ)) (k : Nat) : Option δ :=
  (heap.find? k).map Shared.value

/-- `holders` are the references to the objects of `heap`. -/
structure Counts (heap : Pending (Shared δ)) (holders : Multiset Nat) : Prop where
  live : ∀ k, (heap.find? k).isSome = true ↔ k ∈ holders
  count : ∀ k o, heap.find? k = some o → o.refcnt = holders.count k

theorem counts_empty : Counts (.empty : Pending (Shared δ)) 0 where
  live := fun k => iff_of_false Bool.false_ne_true (Multiset.notMem_zero k)
  count := fun _ _ h => nomatch h

section Rules

variable {heap : Pending (Shared δ)} {holders : Multiset Nat} {k j : Nat} {d : δ}

theorem Counts.find (h : Counts heap holders) (hk : k ∈ holders) : ∃ o, heap.find? k = some o :=
  Option.isSome_iff_exists.mp ((h.live k).mpr hk)

theorem Counts.mem (h : Counts heap holders) {o : Shared δ} (hfind : heap.find? k = some o) :
    k ∈ holders := (h.live k).mp (Option.isSome_of_mem hfind)

theorem Counts.next_notMem (h : Counts heap holders) : heap.next ∉ holders := by
  intro hmem
  obtain ⟨o, ho⟩ := h.find hmem
  exact Nat.lt_irrefl _ (Pending.lt_next_of_find? ho)

theorem Counts.new (h : Counts heap holders) (d : δ) :
    Counts (Shared.new heap d) (heap.next ::ₘ holders) where
  live := by
    intro k
    by_cases hk : k = heap.next
    · subst hk
      exact iff_of_true (Option.isSome_of_mem (Pending.find?_alloc_self heap _))
        (Multiset.mem_cons_self _ _)
    · rw [Shared.new, Pending.find?_alloc_ne hk, h.live, Multiset.mem_cons, or_iff_right hk]
  count := by
    intro k o hfind
    rcases Pending.find?_alloc_eq_some.mp hfind with ⟨rfl, rfl⟩ | hold
    · rw [Multiset.count_cons_self, Multiset.count_eq_zero_of_notMem h.next_notMem]
      rfl
    · have hne : k ≠ heap.next := Nat.ne_of_lt (Pending.lt_next_of_find? hold)
      rw [Multiset.count_cons_of_ne hne]
      exact h.count k o hold

theorem Counts.ref (h : Counts heap holders) (hk : k ∈ holders) :
    Counts (Shared.ref heap k) (k ::ₘ holders) where
  live := by
    intro j
    rw [Shared.ref, Pending.isSome_modify, h.live, Multiset.mem_cons]
    exact ⟨Or.inr, fun hj => hj.elim (fun heq => heq ▸ hk) id⟩
  count := by
    intro j o hfind
    rw [Shared.ref, Pending.find?_modify] at hfind
    by_cases hj : j = k
    · rw [if_pos hj] at hfind
      obtain ⟨o', ho', rfl⟩ := Option.map_eq_some_iff.mp hfind
      rw [hj, Multiset.count_cons_self, Int.natCast_succ, ← h.count k o' (hj ▸ ho')]
    · rw [if_neg hj] at hfind
      rw [Multiset.count_cons_of_ne hj]
      exact h.count j o hfind

theorem Counts.unref (h : Counts heap holders) (hk : k ∈ holders) :
    Counts (Shared.unref heap k) (holders.erase k) := by
  obtain ⟨o, ho⟩ := h.find hk
  have hcount := h.count k o ho
  have herase : (holders.erase k).count k = holders.count k - 1 := Multiset.count_erase_self k holders
  have hpos : 0 < holders.count k := Multiset.count_pos.mpr hk
  rw [Shared.unref, ho]
  by_cases hlast : o.refcnt - 1 = 0
  · simp only [hlast, if_true]
    have hnone : k ∉ holders.erase k := by
      rw [← Multiset.count_eq_zero, herase]
      omega
    refine ⟨fun j => ?_, fun j o' hfind => ?_⟩
    · by_cases hj : j = k
      · rw [hj, Pending.find?_remove_self]
        exact iff_of_false Bool.false_ne_true hnone
      · rw [Pending.find?_remove_ne hj, h.live, Multiset.mem_erase_of_ne hj]
    · have hj : j ≠ k := by
        rintro rfl
        rw [Pending.find?_remove_self] at hfind
        cases hfind
      rw [Pending.find?_remove_ne hj] at hfind
      rw [Multiset.count_erase_of_ne hj]
      exact h.count j o' hfind
  · simp only [hlast, if_false]
    refine ⟨fun j => ?_, fun j o' hfind => ?_⟩
    · rw [Pending.isSome_modify, h.live]
      by_cases hj : j = k
      · subst hj
        refine iff_of_true hk ?_
        rw [← Multiset.count_pos, herase]
        omega
      · rw [Multiset.mem_erase_of_ne hj]
    · rw [Pending.find?_modify] at hfind
      by_cases hj : j = k
      · subst hj
        rw [if_pos rfl, ho] at hfind
        cases hfind
        show o.refcnt - 1 = _
        omega
      · rw [if_neg hj] at hfind
        rw [Multiset.count_erase_of_ne hj]
        exact h.count j o' hfind

theorem Counts.set (h : Counts heap holders) (k : Nat) (f : δ → δ) :
    Counts (Shared.set heap k f) holders where
  live := by
    intro j
    rw [Shared.set, Pending.isSome_modify, h.live]
  count := by
    intro j o hfind
    rw [Shared.set, Pending.find?_modify] at hfind
    by_cases hj : j = k
    · rw [if_pos hj] at hfind
      obtain ⟨o', ho', rfl⟩ := Option.map_eq_some_iff.mp hfind
      exact h.count j o' ho'
    · rw [if_neg hj] at hfind
      exact h.count j o hfind

/-! ## Values -/

theorem Shared.get?_new_self (heap : Pending (Shared δ)) (d : δ) :
    Shared.get? (Shared.new heap d) heap.next = some d := by
  rw [Shared.get?, Shared.new, Pending.find?_alloc_self]
  rfl

theorem Shared.get?_new_ne (hne : k ≠ heap.next) :
    Shared.get? (Shared.new heap d) k = Shared.get? heap k := by
  rw [Shared.get?, Shared.new, Pending.find?_alloc_ne hne]
  rfl

@[simp] theorem Shared.get?_ref (heap : Pending (Shared δ)) (k j : Nat) :
    Shared.get? (Shared.ref heap k) j = Shared.get? heap j := by
  rw [Shared.get?, Shared.ref, Pending.find?_modify]
  split
  · rw [Option.map_map]
    rfl
  · rfl

theorem Shared.get?_set (heap : Pending (Shared δ)) (k j : Nat) (f : δ → δ) :
    Shared.get? (Shared.set heap k f) j =
      if j = k then (Shared.get? heap j).map f else Shared.get? heap j := by
  rw [Shared.get?, Shared.set, Pending.find?_modify]
  split
  · rw [Shared.get?, Option.map_map, Option.map_map]
    rfl
  · rfl

/-- A reference that is given back changes no value, and may release its object. -/
theorem Shared.get?_unref_of_some (h : Shared.get? (Shared.unref heap k) j = some d) :
    Shared.get? heap j = some d := by
  rw [Shared.unref] at h
  cases hfind : heap.find? k with
  | none =>
      rw [hfind] at h
      exact h
  | some o =>
      rw [hfind] at h
      by_cases hlast : o.refcnt - 1 = 0
      · simp only [hlast, if_true, Shared.get?] at h
        by_cases hj : j = k
        · rw [hj, Pending.find?_remove_self] at h
          cases h
        · rw [Pending.find?_remove_ne hj] at h
          exact h
      · simp only [hlast, if_false, Shared.get?, Pending.find?_modify] at h
        split at h
        · rw [Option.map_map] at h
          exact h
        · exact h

/-- An object with references has a value. -/
theorem Counts.get (h : Counts heap holders) (hk : k ∈ holders) :
    ∃ d, Shared.get? heap k = some d := by
  obtain ⟨o, ho⟩ := h.find hk
  exact ⟨o.value, by rw [Shared.get?, ho]; rfl⟩

/-- What still has a reference keeps its value. -/
theorem Counts.get_unref (h : Counts heap holders) (hk : k ∈ holders)
    (hj : j ∈ holders.erase k) : Shared.get? (Shared.unref heap k) j = Shared.get? heap j := by
  obtain ⟨d, hd⟩ := (h.unref hk).get hj
  rw [hd, Shared.get?_unref_of_some hd]

end Rules

end LoongsonVideo.Verified
