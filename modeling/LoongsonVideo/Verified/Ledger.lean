import Mathlib.Data.List.Nodup
import Mathlib.Data.List.Count
import Mathlib.Data.List.Infix
import Mathlib.Data.Multiset.AddSub

/-!
# Acquire and release ledgers

C code that allocates, uses and frees leaves a history of three kinds of
act on the things it handles.  A ledger is that history, newest act first, and
the rules of good behaviour are properties of the history alone:

* `held` lists what has been acquired and not yet released;
* `Lawful` says that nothing is acquired while it is held, and that only held
  things are touched or released.  So a double free, a free of a pointer that
  was never allocated and a use after free are all unlawful histories.

`acquires_eq` is the conservation law: of each thing, as many acquisitions as
releases, plus one if it is still held.  "Released exactly once" and "nothing
leaks" are read off it.

`Owns acts owned` is the assertion a program proof carries along: the history
is lawful and `owned` is all that is held.  Its rules have one act each, and
what is owned is a sum of what the parts of the state own.
-/

namespace LoongsonVideo.Verified.Ledger

/-- One act on a resource. -/
inductive Act (ρ : Type*) where
  | acquire (r : ρ)
  | touch (r : ρ)
  | release (r : ρ)
  deriving DecidableEq, Repr

variable {ρ : Type*} [DecidableEq ρ]

/-- What is held after a history (newest act first). -/
def held : List (Act ρ) → List ρ
  | [] => []
  | .acquire r :: acts => r :: held acts
  | .touch _ :: acts => held acts
  | .release r :: acts => (held acts).erase r

/-- No acquisition of a held thing, no use or release of one that is not. -/
def Lawful : List (Act ρ) → Prop
  | [] => True
  | .acquire r :: acts => r ∉ held acts ∧ Lawful acts
  | .touch r :: acts => r ∈ held acts ∧ Lawful acts
  | .release r :: acts => r ∈ held acts ∧ Lawful acts

instance decidableLawful : (acts : List (Act ρ)) → Decidable (Lawful acts)
  | [] => .isTrue trivial
  | .acquire _ :: acts => @instDecidableAnd _ _ _ (decidableLawful acts)
  | .touch _ :: acts => @instDecidableAnd _ _ _ (decidableLawful acts)
  | .release _ :: acts => @instDecidableAnd _ _ _ (decidableLawful acts)

/-- How often `r` was acquired. -/
def acquires (acts : List (Act ρ)) (r : ρ) : Nat := acts.count (.acquire r)

/-- How often `r` was released. -/
def releases (acts : List (Act ρ)) (r : ρ) : Nat := acts.count (.release r)

@[simp] theorem held_nil : held ([] : List (Act ρ)) = [] := rfl

@[simp] theorem held_acquire (r : ρ) (acts : List (Act ρ)) :
    held (.acquire r :: acts) = r :: held acts := rfl

@[simp] theorem held_touch (r : ρ) (acts : List (Act ρ)) :
    held (.touch r :: acts) = held acts := rfl

@[simp] theorem held_release (r : ρ) (acts : List (Act ρ)) :
    held (.release r :: acts) = (held acts).erase r := rfl

@[simp] theorem lawful_nil : Lawful ([] : List (Act ρ)) := trivial

@[simp] theorem lawful_acquire (r : ρ) (acts : List (Act ρ)) :
    Lawful (.acquire r :: acts) ↔ r ∉ held acts ∧ Lawful acts := Iff.rfl

@[simp] theorem lawful_touch (r : ρ) (acts : List (Act ρ)) :
    Lawful (.touch r :: acts) ↔ r ∈ held acts ∧ Lawful acts := Iff.rfl

@[simp] theorem lawful_release (r : ρ) (acts : List (Act ρ)) :
    Lawful (.release r :: acts) ↔ r ∈ held acts ∧ Lawful acts := Iff.rfl

@[simp] theorem acquires_touch (x r : ρ) (acts : List (Act ρ)) :
    acquires (.touch x :: acts) r = acquires acts r := by
  simp [acquires]

@[simp] theorem acquires_touches (rs : List ρ) (r : ρ) (acts : List (Act ρ)) :
    acquires (rs.map .touch ++ acts) r = acquires acts r := by
  induction rs with
  | nil => rfl
  | cons x rs ih => simpa using ih

@[simp] theorem acquires_release (x r : ρ) (acts : List (Act ρ)) :
    acquires (.release x :: acts) r = acquires acts r := by
  simp [acquires]

@[simp] theorem acquires_releases (rs : List ρ) (r : ρ) (acts : List (Act ρ)) :
    acquires ((rs.map .release).reverse ++ acts) r = acquires acts r := by
  induction rs generalizing acts with
  | nil => rfl
  | cons x rs ih => simpa using ih (.release x :: acts)

theorem acquires_acquire (x r : ρ) (acts : List (Act ρ)) :
    acquires (.acquire x :: acts) r = acquires acts r + if x = r then 1 else 0 := by
  simp [acquires, List.count_cons]

theorem acquires_acquires (rs : List ρ) (r : ρ) (acts : List (Act ρ)) :
    acquires ((rs.map .acquire).reverse ++ acts) r = rs.count r + acquires acts r := by
  induction rs generalizing acts with
  | nil => rw [List.map_nil, List.reverse_nil, List.nil_append, List.count_nil, Nat.zero_add]
  | cons x rs ih =>
      rw [List.map_cons, List.reverse_cons, List.append_assoc, List.singleton_append, ih,
        acquires_acquire, List.count_cons]
      simp only [beq_iff_eq]
      omega

@[simp] theorem releases_touch (x r : ρ) (acts : List (Act ρ)) :
    releases (.touch x :: acts) r = releases acts r := by
  simp [releases]

@[simp] theorem releases_acquire (x r : ρ) (acts : List (Act ρ)) :
    releases (.acquire x :: acts) r = releases acts r := by
  simp [releases]

theorem releases_release (x r : ρ) (acts : List (Act ρ)) :
    releases (.release x :: acts) r = releases acts r + if x = r then 1 else 0 := by
  simp [releases, List.count_cons]

/-- What was lawful so far stays part of any lawful history. -/
theorem Lawful.of_suffix {acts acts' : List (Act ρ)} (h : Lawful acts')
    (hsuffix : acts <:+ acts') : Lawful acts := by
  obtain ⟨later, rfl⟩ := hsuffix
  induction later with
  | nil => exact h
  | cons act later ih =>
      cases act with
      | acquire r => exact ih h.2
      | touch r => exact ih h.2
      | release r => exact ih h.2

/-- Under a lawful history nothing is held twice. -/
theorem Lawful.held_nodup {acts : List (Act ρ)} (h : Lawful acts) :
    (held acts).Nodup := by
  induction acts with
  | nil => exact List.nodup_nil
  | cons act acts ih =>
      cases act with
      | acquire r => exact List.nodup_cons.mpr ⟨h.1, ih h.2⟩
      | touch r => exact ih h.2
      | release r => exact (ih h.2).erase r

/-- **Conservation.** Of each thing there were as many acquisitions as
releases, and one more exactly when it is still held. -/
theorem Lawful.acquires_eq {acts : List (Act ρ)} (h : Lawful acts) (r : ρ) :
    acquires acts r = releases acts r + (held acts).count r := by
  induction acts with
  | nil => rfl
  | cons act acts ih =>
      have ih' := ih (h.of_suffix (List.suffix_cons act acts))
      cases act with
      | acquire x =>
          rw [acquires_acquire, releases_acquire, held_acquire, List.count_cons, ih']
          by_cases hx : x = r <;> simp [hx, Nat.add_assoc]
      | touch x =>
          rw [acquires_touch, releases_touch, held_touch, ih']
      | release x =>
          rw [acquires_release, releases_release, held_release, ih']
          by_cases hx : x = r
          · subst hx
            have hpos : 0 < (held acts).count x := List.count_pos_iff.mpr h.1
            rw [List.count_erase_self, if_pos rfl]
            omega
          · rw [List.count_erase_of_ne (Ne.symm hx), if_neg hx, Nat.add_zero]

theorem Lawful.releases_le {acts : List (Act ρ)} (h : Lawful acts) (r : ρ) :
    releases acts r ≤ acquires acts r := by
  have := h.acquires_eq r
  omega

/-- A thing acquired once is released exactly once as soon as it is no longer
held. -/
theorem Lawful.releases_eq_one {acts : List (Act ρ)} (h : Lawful acts) {r : ρ}
    (hacq : acquires acts r = 1) (hheld : r ∉ held acts) :
    releases acts r = 1 := by
  have hzero : (held acts).count r = 0 := List.count_eq_zero.mpr hheld
  have := h.acquires_eq r
  omega

/-- A held thing that was acquired once has not been released. -/
theorem Lawful.releases_eq_zero {acts : List (Act ρ)} (h : Lawful acts) {r : ρ}
    (hacq : acquires acts r = 1) (hheld : r ∈ held acts) :
    releases acts r = 0 := by
  have hpos : 0 < (held acts).count r := List.count_pos_iff.mpr hheld
  have := h.acquires_eq r
  omega

/-- Whatever is held was acquired. -/
theorem Lawful.acquires_pos {acts : List (Act ρ)} (h : Lawful acts) {r : ρ}
    (hheld : r ∈ held acts) : 0 < acquires acts r := by
  have hpos : 0 < (held acts).count r := List.count_pos_iff.mpr hheld
  have := h.acquires_eq r
  omega

theorem Lawful.mem_held_release {acts : List (Act ρ)} (h : Lawful acts) {r x : ρ} :
    x ∈ held (.release r :: acts) ↔ x ≠ r ∧ x ∈ held acts :=
  h.held_nodup.mem_erase_iff

/-! ## Ownership -/

/-- The history is lawful and exactly `owned` is held. -/
def Owns (acts : List (Act ρ)) (owned : Multiset ρ) : Prop :=
  Lawful acts ∧ (held acts : Multiset ρ) = owned

theorem Owns.lawful {acts : List (Act ρ)} {owned : Multiset ρ} (h : Owns acts owned) :
    Lawful acts := h.1

theorem Owns.mem_held {acts : List (Act ρ)} {owned : Multiset ρ} (h : Owns acts owned)
    {r : ρ} : r ∈ held acts ↔ r ∈ owned := by
  rw [← h.2, Multiset.mem_coe]

theorem Owns.nodup {acts : List (Act ρ)} {owned : Multiset ρ} (h : Owns acts owned) :
    owned.Nodup := by
  rw [← h.2, Multiset.coe_nodup]
  exact h.1.held_nodup

theorem Owns.acquire {acts : List (Act ρ)} {owned : Multiset ρ} {r : ρ}
    (h : Owns acts owned) (hr : r ∉ owned) : Owns (.acquire r :: acts) (r ::ₘ owned) := by
  refine ⟨⟨fun hin => hr (h.mem_held.mp hin), h.1⟩, ?_⟩
  rw [held_acquire, ← Multiset.cons_coe, h.2]

theorem Owns.touch {acts : List (Act ρ)} {owned : Multiset ρ} {r : ρ}
    (h : Owns acts owned) (hr : r ∈ owned) : Owns (.touch r :: acts) owned :=
  ⟨⟨h.mem_held.mpr hr, h.1⟩, h.2⟩

theorem Owns.release {acts : List (Act ρ)} {owned rest : Multiset ρ} {r : ρ}
    (h : Owns acts owned) (hr : owned = r ::ₘ rest) : Owns (.release r :: acts) rest := by
  subst hr
  refine ⟨⟨h.mem_held.mpr (Multiset.mem_cons_self r rest), h.1⟩, ?_⟩
  rw [held_release, ← Multiset.coe_erase, h.2, Multiset.erase_cons_head]

/-- Acquiring several things that are not owned. -/
theorem Owns.acquireAll {acts : List (Act ρ)} {owned : Multiset ρ} {rs : List ρ}
    (h : Owns acts owned) (hnodup : rs.Nodup) (hrs : ∀ r ∈ rs, r ∉ owned) :
    Owns ((rs.map .acquire).reverse ++ acts) ((rs : Multiset ρ) + owned) := by
  induction rs generalizing acts owned with
  | nil => simpa using h
  | cons r rs ih =>
      obtain ⟨hr, hrest⟩ := List.nodup_cons.mp hnodup
      have hhead := h.acquire (hrs r List.mem_cons_self)
      have hnew : ∀ x ∈ rs, x ∉ r ::ₘ owned := by
        intro x hx hin
        rcases Multiset.mem_cons.mp hin with rfl | hin
        · exact hr hx
        · exact hrs x (List.mem_cons_of_mem r hx) hin
      have hsum : ((r :: rs : List ρ) : Multiset ρ) + owned = (rs : Multiset ρ) + r ::ₘ owned := by
        rw [← Multiset.cons_coe, Multiset.cons_add, Multiset.add_cons]
      rw [hsum, List.map_cons, List.reverse_cons, List.append_assoc, List.singleton_append]
      exact ih hhead hrest hnew

/-- Releasing several owned things, one after the other. -/
theorem Owns.releases {acts : List (Act ρ)} {rs : List ρ} {rest : Multiset ρ}
    (h : Owns acts (rs + rest)) : Owns ((rs.map .release).reverse ++ acts) rest := by
  induction rs generalizing acts with
  | nil => simpa using h
  | cons r rs ih =>
      have hhead : Owns (.release r :: acts) (rs + rest) :=
        h.release (by rw [← Multiset.cons_coe, Multiset.cons_add])
      simpa using ih hhead

/-- Touching several owned things. -/
theorem Owns.touches {acts : List (Act ρ)} {owned : Multiset ρ} {rs : List ρ}
    (h : Owns acts owned) (hrs : ∀ r ∈ rs, r ∈ owned) : Owns (rs.map .touch ++ acts) owned := by
  induction rs with
  | nil => exact h
  | cons r rs ih =>
      have htail := ih fun x hx => hrs x (List.mem_cons_of_mem r hx)
      exact htail.touch (hrs r List.mem_cons_self)

/-- What is owned and what was ever acquired: a thing never acquired is not
owned. -/
theorem Owns.notMem_of_acquires {acts : List (Act ρ)} {owned : Multiset ρ} {r : ρ}
    (h : Owns acts owned) (hr : acquires acts r = 0) : r ∉ owned := by
  intro hmem
  have hpos := h.lawful.acquires_pos (h.mem_held.mpr hmem)
  omega

end LoongsonVideo.Verified.Ledger
