import Mathlib.Data.List.Nodup
import Mathlib.Data.List.Perm.Basic
import Mathlib.Data.List.Count

/-!
# A table of outstanding requests

The abstract form of a queue of requests that are answered later: a request is
entered and gets a token, and an answer or a cancellation names the token and
takes the request out again.  Tokens are never handed out twice, so a late
answer for a request that is gone finds nothing.

`Pending` carries the two facts that make it a table as fields: every token in
it has been handed out, and no token is in it twice.

* `alloc` enters a request, at the front, under the token `next`.
* `find?` looks a token up and `remove` takes it out.
* `perm_remove` is the frame lemma every counting argument uses: a request
  that is found is the table's rest plus that one request.
-/

namespace LoongsonVideo.Verified

/-- Outstanding requests with data `δ`, newest first. -/
structure Pending (δ : Type*) where
  next : Nat
  entries : List (Nat × δ)
  fresh : ∀ e ∈ entries, e.1 < next
  nodup : (entries.map Prod.fst).Nodup

variable {δ : Type*}

/-- A table is its counter and its entries. -/
theorem Pending.eq_of {p p' : Pending δ} (hnext : p.next = p'.next)
    (hentries : p.entries = p'.entries) : p = p' := by
  cases p
  cases p'
  simp only at hnext hentries
  subst hnext hentries
  rfl

/-- The table before the first request. -/
def Pending.empty : Pending δ := ⟨0, [], by simp, by simp⟩

/-- Enter a request under the token `p.next`. -/
def Pending.alloc (p : Pending δ) (d : δ) : Pending δ where
  next := p.next + 1
  entries := (p.next, d) :: p.entries
  fresh := by
    intro e he
    rcases List.mem_cons.mp he with rfl | he
    · exact Nat.lt_succ_self _
    · exact Nat.lt_succ_of_lt (p.fresh e he)
  nodup := by
    refine List.nodup_cons.mpr ⟨?_, p.nodup⟩
    intro hmem
    obtain ⟨e, he, hfst⟩ := List.mem_map.mp hmem
    have hlt := p.fresh e he
    simp only at hfst
    omega

/-- The request of a token, if it is outstanding. -/
def Pending.find? (p : Pending δ) (k : Nat) : Option δ :=
  (p.entries.find? (fun e => e.1 == k)).map Prod.snd

/-- Take a token out. -/
def Pending.remove (p : Pending δ) (k : Nat) : Pending δ where
  next := p.next
  entries := p.entries.filter (fun e => e.1 != k)
  fresh := fun e he => p.fresh e (List.mem_of_mem_filter he)
  nodup := (List.filter_sublist.map _).nodup p.nodup

/-- Take out every request of a kind. -/
def Pending.removeAll (p : Pending δ) (kind : δ → Bool) : Pending δ where
  next := p.next
  entries := p.entries.filter (fun e => !kind e.2)
  fresh := fun e he => p.fresh e (List.mem_of_mem_filter he)
  nodup := (List.filter_sublist.map _).nodup p.nodup

/-- Change the request of a token. -/
def Pending.modify (p : Pending δ) (k : Nat) (f : δ → δ) : Pending δ where
  next := p.next
  entries := p.entries.map fun e => if e.1 = k then (e.1, f e.2) else e
  fresh := by
    intro e he
    obtain ⟨e', he', rfl⟩ := List.mem_map.mp he
    have hlt := p.fresh e' he'
    split
    · exact hlt
    · exact hlt
  nodup := by
    have hsame : (p.entries.map fun e => if e.1 = k then (e.1, f e.2) else e).map Prod.fst =
        p.entries.map Prod.fst := by
      rw [List.map_map]
      refine List.map_congr_left fun e _ => ?_
      show (if e.1 = k then (e.1, f e.2) else e).1 = e.1
      split
      · rfl
      · rfl
    rw [hsame]
    exact p.nodup

/-- The outstanding requests' data. -/
def Pending.requests (p : Pending δ) : List δ := p.entries.map Prod.snd

/-- The outstanding tokens. -/
def Pending.tokens (p : Pending δ) : List Nat := p.entries.map Prod.fst

@[simp] theorem Pending.empty_entries : (Pending.empty : Pending δ).entries = [] := rfl

@[simp] theorem Pending.empty_requests : (Pending.empty : Pending δ).requests = [] := rfl

@[simp] theorem Pending.alloc_next (p : Pending δ) (d : δ) :
    (p.alloc d).next = p.next + 1 := rfl

@[simp] theorem Pending.alloc_entries (p : Pending δ) (d : δ) :
    (p.alloc d).entries = (p.next, d) :: p.entries := rfl

@[simp] theorem Pending.alloc_requests (p : Pending δ) (d : δ) :
    (p.alloc d).requests = d :: p.requests := rfl

@[simp] theorem Pending.alloc_tokens (p : Pending δ) (d : δ) :
    (p.alloc d).tokens = p.next :: p.tokens := rfl

theorem Pending.lt_next_of_mem {p : Pending δ} {k : Nat} (h : k ∈ p.tokens) : k < p.next := by
  obtain ⟨e, he, rfl⟩ := List.mem_map.mp h
  exact p.fresh e he

@[simp] theorem Pending.remove_next (p : Pending δ) (k : Nat) :
    (p.remove k).next = p.next := rfl

theorem Pending.mem_remove {p : Pending δ} {k : Nat} {e : Nat × δ} :
    e ∈ (p.remove k).entries ↔ e ∈ p.entries ∧ e.1 ≠ k := by
  simp [Pending.remove, List.mem_filter]

/-- Two entries with one token are one entry. -/
theorem Pending.eq_of_token {p : Pending δ} {k : Nat} {d d' : δ}
    (h : (k, d) ∈ p.entries) (h' : (k, d') ∈ p.entries) : d = d' := by
  have hinj := List.inj_on_of_nodup_map p.nodup h h' rfl
  exact congrArg Prod.snd hinj

theorem Pending.find?_eq_some {p : Pending δ} {k : Nat} {d : δ} :
    p.find? k = some d ↔ (k, d) ∈ p.entries := by
  constructor
  · intro h
    obtain ⟨e, he, rfl⟩ := Option.map_eq_some_iff.mp h
    have hk : e.1 = k := by simpa using List.find?_some he
    subst hk
    exact List.mem_of_find?_eq_some he
  · intro h
    cases hf : p.entries.find? (fun e => e.1 == k) with
    | none =>
        have := List.find?_eq_none.mp hf (k, d) h
        simp at this
    | some e =>
        have hk : e.1 = k := by simpa using List.find?_some hf
        subst hk
        have hd : e.2 = d := p.eq_of_token (List.mem_of_find?_eq_some hf) h
        simp [Pending.find?, hf, hd]

theorem Pending.find?_eq_none {p : Pending δ} {k : Nat} :
    p.find? k = none ↔ k ∉ p.tokens := by
  rw [Pending.find?, Option.map_eq_none_iff, List.find?_eq_none]
  constructor
  · intro h hmem
    obtain ⟨e, he, hk⟩ := List.mem_map.mp hmem
    exact h e he (by simpa using hk)
  · intro h e he hk
    exact h (List.mem_map.mpr ⟨e, he, by simpa using hk⟩)

theorem Pending.lt_next_of_find? {p : Pending δ} {k : Nat} {d : δ}
    (h : p.find? k = some d) : k < p.next :=
  p.fresh _ (Pending.find?_eq_some.mp h)

theorem Pending.find?_mem {p : Pending δ} {k : Nat} {d : δ}
    (h : p.find? k = some d) : d ∈ p.requests :=
  List.mem_map.mpr ⟨(k, d), Pending.find?_eq_some.mp h, rfl⟩

@[simp] theorem Pending.find?_alloc_self (p : Pending δ) (d : δ) :
    (p.alloc d).find? p.next = some d := by
  simp [Pending.find?]

theorem Pending.find?_alloc_ne {p : Pending δ} {d : δ} {k : Nat} (hne : k ≠ p.next) :
    (p.alloc d).find? k = p.find? k := by
  have hbeq : (p.next == k) = false := by simpa using hne.symm
  simp [Pending.find?, hbeq]

theorem Pending.find?_remove_self (p : Pending δ) (k : Nat) :
    (p.remove k).find? k = none := by
  rw [Pending.find?_eq_none]
  simp [Pending.tokens, Pending.remove]

theorem Pending.find?_remove_ne {p : Pending δ} {k j : Nat} (hne : j ≠ k) :
    (p.remove k).find? j = p.find? j := by
  cases h : p.find? j with
  | none =>
      rw [Pending.find?_eq_none] at h ⊢
      intro hmem
      obtain ⟨e, he, hfst⟩ := List.mem_map.mp hmem
      exact h (List.mem_map.mpr ⟨e, (Pending.mem_remove.mp he).1, hfst⟩)
  | some d =>
      rw [Pending.find?_eq_some] at h ⊢
      exact Pending.mem_remove.mpr ⟨h, hne⟩

/-- Removing a token that is not outstanding changes nothing. -/
theorem Pending.remove_of_find?_none {p : Pending δ} {k : Nat}
    (h : p.find? k = none) : p.remove k = p := by
  have hall : p.entries.filter (fun e => e.1 != k) = p.entries := by
    refine List.filter_eq_self.mpr fun e he => ?_
    have hne : e.1 ≠ k := by
      intro hk
      exact Pending.find?_eq_none.mp h (List.mem_map.mpr ⟨e, he, hk⟩)
    simpa using hne
  exact Pending.eq_of rfl hall

/-- **Frame of a removal.** A request that is found is the rest of the table
plus that one request. -/
theorem Pending.perm_remove {p : Pending δ} {k : Nat} {d : δ}
    (h : p.find? k = some d) : p.requests.Perm (d :: (p.remove k).requests) := by
  have hmem := Pending.find?_eq_some.mp h
  have hnodup := p.nodup
  simp only [Pending.requests, Pending.remove]
  generalize p.entries = entries at hmem hnodup
  induction entries with
  | nil => cases hmem
  | cons e rest ih =>
      obtain ⟨hnot, hrest⟩ := List.nodup_cons.mp hnodup
      rcases List.mem_cons.mp hmem with rfl | hmem
      · have hkeep : rest.filter (fun e => e.1 != k) = rest := by
          refine List.filter_eq_self.mpr fun e he => ?_
          have hne : e.1 ≠ k := fun hk => hnot (List.mem_map.mpr ⟨e, he, hk⟩)
          simpa using hne
        simp [hkeep]
      · have hne : e.1 ≠ k := by
          intro hk
          exact hnot (List.mem_map.mpr ⟨(k, d), hmem, hk.symm⟩)
        have hstep := (ih hmem hrest).cons e.2
        simpa [hne] using hstep.trans (List.Perm.swap d e.2 _)

theorem Pending.perm_tokens_remove {p : Pending δ} {k : Nat} {d : δ}
    (h : p.find? k = some d) : p.tokens.Perm (k :: (p.remove k).tokens) := by
  have hmem : k ∈ p.tokens := List.mem_map.mpr ⟨(k, d), Pending.find?_eq_some.mp h, rfl⟩
  have hrest : (p.remove k).tokens = (p.entries.map Prod.fst).erase k := by
    rw [p.nodup.erase_eq_filter, List.filter_map]
    rfl
  rw [hrest]
  exact List.perm_cons_erase hmem

theorem Pending.find?_removeAll {p : Pending δ} {kind : δ → Bool} {k : Nat} {d : δ} :
    (p.removeAll kind).find? k = some d ↔ p.find? k = some d ∧ kind d = false := by
  rw [Pending.find?_eq_some, Pending.find?_eq_some]
  simp [Pending.removeAll, List.mem_filter]

/-- A request of a table with one more is the new one or an old one. -/
theorem Pending.find?_alloc_eq_some {p : Pending δ} {d d' : δ} {k : Nat} :
    (p.alloc d).find? k = some d' ↔ (k = p.next ∧ d = d') ∨ p.find? k = some d' := by
  rw [Pending.find?_eq_some, Pending.find?_eq_some, Pending.alloc_entries, List.mem_cons]
  simp [Prod.ext_iff, eq_comm]

@[simp] theorem Pending.modify_next (p : Pending δ) (k : Nat) (f : δ → δ) :
    (p.modify k f).next = p.next := rfl

theorem Pending.find?_modify (p : Pending δ) (k j : Nat) (f : δ → δ) :
    (p.modify k f).find? j = if j = k then (p.find? j).map f else p.find? j := by
  have hkey : ∀ e : Nat × δ, (if e.1 = k then (e.1, f e.2) else e).1 = e.1 := by
    intro e
    split
    · rfl
    · rfl
  rw [Pending.find?, Pending.find?, Pending.modify, List.find?_map]
  simp only [Function.comp_def, hkey]
  cases hfind : p.entries.find? (fun e => e.1 == j) with
  | none =>
      split
      · rfl
      · rfl
  | some e =>
      have hj : e.1 = j := by simpa using List.find?_some hfind
      subst hj
      by_cases hk : e.1 = k
      · simp [hk]
      · simp [hk]

theorem Pending.find?_modify_self {p : Pending δ} {k : Nat} {d : δ} (h : p.find? k = some d)
    (f : δ → δ) : (p.modify k f).find? k = some (f d) := by
  rw [Pending.find?_modify, if_pos rfl, h, Option.map_some]

theorem Pending.find?_modify_ne {p : Pending δ} {k j : Nat} (hne : j ≠ k) (f : δ → δ) :
    (p.modify k f).find? j = p.find? j := by
  rw [Pending.find?_modify, if_neg hne]

/-- What a change leaves to find. -/
theorem Pending.isSome_modify (p : Pending δ) (k j : Nat) (f : δ → δ) :
    ((p.modify k f).find? j).isSome = (p.find? j).isSome := by
  rw [Pending.find?_modify]
  split
  · exact Option.isSome_map
  · rfl

@[simp] theorem Pending.tokens_modify (p : Pending δ) (k : Nat) (f : δ → δ) :
    (p.modify k f).tokens = p.tokens := by
  rw [Pending.tokens, Pending.tokens, Pending.modify, List.map_map]
  refine List.map_congr_left fun e _ => ?_
  show (if e.1 = k then (e.1, f e.2) else e).1 = e.1
  split
  · rfl
  · rfl

/-- A change that leaves what is read of a request. -/
theorem Pending.map_requests_modify {γ : Type*} {p : Pending δ} (k : Nat) {f : δ → δ} {g : δ → γ}
    (hg : ∀ d, g (f d) = g d) : (p.modify k f).requests.map g = p.requests.map g := by
  rw [Pending.requests, Pending.requests, Pending.modify, List.map_map, List.map_map, List.map_map]
  refine List.map_congr_left fun e _ => ?_
  show g (if e.1 = k then (e.1, f e.2) else e).2 = g e.2
  split
  · exact hg e.2
  · rfl

/-- A changed table is the changed request and the rest. -/
theorem Pending.perm_modify {p : Pending δ} {k : Nat} {d : δ} (h : p.find? k = some d)
    (f : δ → δ) : (p.modify k f).requests.Perm (f d :: (p.remove k).requests) := by
  have hrest : (p.modify k f).remove k = p.remove k := by
    refine Pending.eq_of rfl ?_
    show (p.entries.map fun e => if e.1 = k then (e.1, f e.2) else e).filter (fun e => e.1 != k) =
      p.entries.filter fun e => e.1 != k
    induction p.entries with
    | nil => rfl
    | cons e rest ih =>
        by_cases hk : e.1 = k
        · simp [hk, ih]
        · simp [hk, ih]
  have hperm := Pending.perm_remove (Pending.find?_modify_self h f)
  rw [hrest] at hperm
  exact hperm

theorem Pending.mem_requests_of_remove {p : Pending δ} {k : Nat} {d : δ}
    (h : d ∈ (p.remove k).requests) : d ∈ p.requests := by
  obtain ⟨e, he, rfl⟩ := List.mem_map.mp h
  exact List.mem_map.mpr ⟨e, (Pending.mem_remove.mp he).1, rfl⟩

/-- Counting the requests with a property before and after a removal. -/
theorem Pending.countP_remove {p : Pending δ} {k : Nat} {d : δ}
    (h : p.find? k = some d) (P : δ → Bool) :
    p.requests.countP P = (p.remove k).requests.countP P + if P d then 1 else 0 := by
  rw [(p.perm_remove h).countP_eq, List.countP_cons]

end LoongsonVideo.Verified
