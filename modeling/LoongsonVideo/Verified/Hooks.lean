import Mathlib.Data.List.Basic
import Mathlib.Data.List.Nodup
import Mathlib.Logic.Function.Basic

/-!
# Wrapped hooks

A hook of an object is a function pointer that layers wrap: a layer keeps what it finds in the
hook and puts its own function there.  When the hook is called the function puts back what it has
kept, calls the hook, and afterwards puts itself, or another function, in place of what it finds
then.  What it finds need not be what it had put back.

The hook and the places where functions are kept form a chain, from the function that is called
first to one that keeps nothing.

* `call_holds`: a call goes through the chain, and what the chain is afterwards.
* `wrap_holds`, `unwrap_holds`: the chain after a layer has wrapped the hook, and after one has
  put back what it kept.
* `next_append`: what a call makes of the functions above one and of those below.

Nothing here mentions the driver.
-/

namespace LoongsonVideo.Verified.Hooks

variable {F K : Type*}

/-- A hook, and what is kept in each place. -/
structure Slot (F K : Type*) where
  top : F
  kept : K → F

/-- What a function does with the hook when the functions below it have run.

* `rewrap g more`: it keeps what is there and puts `g` in the hook.  Then `more` is wrapped
  around it.
* `drop`: it leaves the hook to the others.
* `restore`: it puts itself in the hook and goes on keeping what it has kept. -/
inductive After (F : Type*) where
  | rewrap (g : F) (more : Option F)
  | drop
  | restore
  deriving DecidableEq

/-- The place where a function keeps the one below it, if it calls one. -/
abbrev Keeps (F K : Type*) := F → Option K

/-- A layer puts back what it has kept. -/
def unwrap (slot : Slot F K) (k : K) : Slot F K := { slot with top := slot.kept k }

section Code

variable [DecidableEq K]

/-- A layer wraps the hook with its function. -/
def wrap (keeps : Keeps F K) (slot : Slot F K) (f : F) : Slot F K :=
  match keeps f with
  | none => slot
  | some k => ⟨f, Function.update slot.kept k slot.top⟩

/-- The end of the call of a function that keeps in `k`. -/
def finish (keeps : Keeps F K) (slot : Slot F K) (f : F) (k : K) : After F → Slot F K
  | .rewrap g more =>
      let slot := ⟨g, Function.update slot.kept k slot.top⟩
      match more with
      | none => slot
      | some m => wrap keeps slot m
  | .drop => slot
  | .restore => { slot with top := f }

/-- A call of the hook, with the functions that have run, the innermost first.  `none` when the
fuel is used up. -/
def call (keeps : Keeps F K) (after : F → After F) : Nat → Slot F K → Option (Slot F K × List F)
  | 0, _ => none
  | fuel + 1, slot =>
      match keeps slot.top with
      | none => some (slot, [slot.top])
      | some k =>
          (call keeps after fuel (unwrap slot k)).map fun r =>
            (finish keeps r.1 slot.top k (after slot.top), r.2 ++ [slot.top])

end Code

/-! ## Chains -/

/-- Each function of the list keeps the next one, the last one nothing. -/
def Links (keeps : Keeps F K) (kept : K → F) : List F → Prop
  | [] => False
  | [f] => keeps f = none
  | f :: g :: rest => (∃ k, keeps f = some k ∧ kept k = g) ∧ Links keeps kept (g :: rest)

/-- The places of the functions of a list. -/
def places (keeps : Keeps F K) (chain : List F) : List K := chain.filterMap keeps

/-- The hook stands for a chain. -/
structure Holds (keeps : Keeps F K) (slot : Slot F K) (chain : List F) : Prop where
  top : chain.head? = some slot.top
  links : Links keeps slot.kept chain
  nodup : (places keeps chain).Nodup

/-- The chain after a call.  `stale` says that the function above has gone on keeping the first
of the chain. -/
def next (after : F → After F) : Bool → List F → List F
  | _, [] => []
  | _, [f] => [f]
  | stale, f :: g :: rest =>
      match after f with
      | .rewrap f' more =>
          (if stale then [f] else more.toList ++ [f']) ++ next after false (g :: rest)
      | .drop => if stale then f :: next after true (g :: rest) else next after false (g :: rest)
      | .restore => f :: next after true (g :: rest)

/-- What a function adds to the chain. -/
def added (after : F → After F) (f : F) : Option F :=
  match after f with
  | .rewrap _ more => more
  | _ => none

/-- A function may be replaced by one of the same place, and what is added has a place of its
own. -/
structure Proper (keeps : Keeps F K) (after : F → After F) (chain : List F) : Prop where
  same : ∀ f ∈ chain, ∀ g more, after f = .rewrap g more → keeps g = keeps f
  placed : ∀ f ∈ chain, ∀ m, added after f = some m → (keeps m).isSome = true
  fresh : (places keeps (chain.filterMap (added after) ++ chain)).Nodup

section Chains

variable {keeps : Keeps F K} {after : F → After F} {kept kept' : K → F} {slot : Slot F K}
  {chain : List F} {f g : F} {k : K}

theorem places_append (l l' : List F) :
    places keeps (l ++ l') = places keeps l ++ places keeps l' := List.filterMap_append ..

theorem places_cons_some (hk : keeps f = some k) (l : List F) :
    places keeps (f :: l) = k :: places keeps l := List.filterMap_cons_some hk

theorem places_cons_none (hk : keeps f = none) (l : List F) :
    places keeps (f :: l) = places keeps l := List.filterMap_cons_none hk

theorem mem_places_of_mem (hf : f ∈ chain) (hk : keeps f = some k) : k ∈ places keeps chain :=
  List.mem_filterMap.mpr ⟨f, hf, hk⟩

/-- Only what the chain keeps matters. -/
theorem Links.congr (h : Links keeps kept chain)
    (hsame : ∀ k ∈ places keeps chain, kept' k = kept k) : Links keeps kept' chain := by
  induction chain with
  | nil => exact h
  | cons f rest ih =>
      cases rest with
      | nil => exact h
      | cons g rest =>
          obtain ⟨⟨k, hk, hkept⟩, hrest⟩ := h
          rw [places_cons_some hk] at hsame
          refine ⟨⟨k, hk, (hsame k List.mem_cons_self).trans hkept⟩, ih hrest ?_⟩
          exact fun k' hk' => hsame k' (List.mem_cons_of_mem _ hk')

theorem Links.cons (h : Links keeps kept chain) (hk : keeps f = some k)
    (hhead : chain.head? = some (kept k)) : Links keeps kept (f :: chain) := by
  cases chain with
  | nil => exact h.elim
  | cons g rest => exact ⟨⟨k, hk, (Option.some.inj hhead).symm⟩, h⟩

theorem Links.tail {rest : List F} (h : Links keeps kept (f :: rest)) (hk : keeps f = some k) :
    Links keeps kept rest ∧ rest.head? = some (kept k) := by
  cases rest with
  | nil =>
      have hnone : keeps f = none := h
      exact nomatch hk.symm.trans hnone
  | cons g rest =>
      obtain ⟨⟨k', hk', hkept⟩, hrest⟩ := h
      cases hk.symm.trans hk'
      exact ⟨hrest, congrArg some hkept.symm⟩

/-- What was above a layer that puts back what it kept is gone with it. -/
theorem unwrap_holds {above : List F} (h : Holds keeps slot (above ++ f :: chain))
    (hk : keeps f = some k) : Holds keeps (unwrap slot k) chain := by
  have hlinks : Links keeps slot.kept (f :: chain) := by
    have hall := h.links
    clear h
    induction above with
    | nil => exact hall
    | cons g above ih =>
        refine ih ?_
        cases above with
        | nil => exact hall.2
        | cons g' above => exact hall.2
  obtain ⟨hrest, hhead⟩ := hlinks.tail hk
  have hnodup := h.nodup
  rw [places_append, places_cons_some hk] at hnodup
  exact ⟨hhead, hrest, (List.nodup_append.mp hnodup).2.1.of_cons⟩

end Chains

/-! ## Wrapping -/

section Wrapping

variable [DecidableEq K] {keeps : Keeps F K} {kept : K → F} {slot : Slot F K} {chain : List F}
  {f : F} {k : K}

/-- A place that the chain does not use may keep anything. -/
theorem Links.update (h : Links keeps kept chain) (hk : k ∉ places keeps chain) (x : F) :
    Links keeps (Function.update kept k x) chain :=
  h.congr fun _ hk' => Function.update_of_ne (fun heq => hk (by rwa [← heq])) _ _

/-- A layer that was not there is now the first. -/
theorem wrap_holds (h : Holds keeps slot chain) (hk : keeps f = some k)
    (hnew : k ∉ places keeps chain) : Holds keeps (wrap keeps slot f) (f :: chain) := by
  have hwrap : wrap keeps slot f = ⟨f, Function.update slot.kept k slot.top⟩ := by
    rw [wrap, hk]
  rw [hwrap]
  refine ⟨rfl, (h.links.update hnew _).cons hk ?_, ?_⟩
  · rw [Function.update_self]
    exact h.top
  · rw [places_cons_some hk]
    exact List.nodup_cons.mpr ⟨hnew, h.nodup⟩

end Wrapping

/-! ## Calls -/

section Next

variable {keeps : Keeps F K} {after : F → After F} {f g : F} {rest chain : List F}

theorem next_true_head (f : F) (rest : List F) :
    (next after true (f :: rest)).head? = some f := by
  cases rest with
  | nil => rfl
  | cons g rest =>
      rw [next]
      split <;> rfl

theorem Proper.tail (h : Proper keeps after (f :: chain)) : Proper keeps after chain := by
  refine ⟨fun f' hf' => h.same f' (List.mem_cons_of_mem _ hf'),
    fun f' hf' => h.placed f' (List.mem_cons_of_mem _ hf'), ?_⟩
  have hsub : (chain.filterMap (added after) ++ chain).Sublist
      ((f :: chain).filterMap (added after) ++ (f :: chain)) :=
    ((List.sublist_cons_self f chain).filterMap _).append (List.sublist_cons_self f chain)
  exact (hsub.filterMap keeps).nodup h.fresh

/-- The place of the first function is used nowhere else. -/
theorem Proper.head_fresh {k : K} (h : Proper keeps after (f :: chain)) (hk : keeps f = some k) :
    k ∉ places keeps (chain.filterMap (added after) ++ chain) := by
  have hfresh := h.fresh
  rw [places_append, places_cons_some hk] at hfresh
  obtain ⟨-, hchain, hdisj⟩ := List.nodup_append.mp hfresh
  rw [places_append, List.mem_append]
  rintro (hadded | hin)
  · have hsub : (chain.filterMap (added after)).Sublist ((f :: chain).filterMap (added after)) :=
      (List.sublist_cons_self f chain).filterMap _
    exact hdisj _ ((hsub.filterMap keeps).subset hadded) _ List.mem_cons_self rfl
  · exact (List.nodup_cons.mp hchain).1 hin

/-- What the first function adds has a place that is used nowhere else. -/
theorem Proper.added_fresh {m : F} (h : Proper keeps after (f :: chain))
    (hm : added after f = some m) :
    ∃ k, keeps m = some k ∧ keeps f ≠ some k ∧
      k ∉ places keeps (chain.filterMap (added after) ++ chain) := by
  obtain ⟨k, hk⟩ := Option.isSome_iff_exists.mp (h.placed f List.mem_cons_self m hm)
  have hfresh := h.fresh
  rw [List.filterMap_cons_some hm, List.cons_append, places_cons_some hk] at hfresh
  have hnot := (List.nodup_cons.mp hfresh).1
  refine ⟨k, hk, fun hf => hnot ?_, fun hin => hnot ?_⟩
  · rw [places_append]
    exact List.mem_append_right _ (mem_places_of_mem List.mem_cons_self hf)
  · rw [places_append, List.mem_append] at hin ⊢
    exact hin.imp_right fun hin =>
      ((List.sublist_cons_self f chain).filterMap keeps).subset hin

/-- Each function after the call has the place of one before it, or of one that was added. -/
theorem mem_next {stale : Bool} {x : F} (h : Proper keeps after chain)
    (hx : x ∈ next after stale chain) :
    ∃ y ∈ chain.filterMap (added after) ++ chain, keeps y = keeps x := by
  induction chain generalizing stale with
  | nil => exact absurd hx List.not_mem_nil
  | cons f chain ih =>
      have hself : ∃ y ∈ (f :: chain).filterMap (added after) ++ f :: chain, keeps y = keeps f :=
        ⟨f, List.mem_append_right _ List.mem_cons_self, rfl⟩
      have hrest : ∀ {stale}, x ∈ next after stale chain →
          ∃ y ∈ (f :: chain).filterMap (added after) ++ f :: chain, keeps y = keeps x := by
        intro stale hin
        obtain ⟨y, hy, hkeeps⟩ := ih h.tail hin
        refine ⟨y, ?_, hkeeps⟩
        rcases List.mem_append.mp hy with hy | hy
        · exact List.mem_append_left _ (((List.sublist_cons_self f chain).filterMap _).subset hy)
        · exact List.mem_append_right _ (List.mem_cons_of_mem _ hy)
      cases chain with
      | nil => exact List.mem_singleton.mp hx ▸ hself
      | cons g rest =>
          rw [next] at hx
          split at hx
          · rename_i f' more hafter
            rcases List.mem_append.mp hx with hpre | hin
            · cases stale with
              | true => exact List.mem_singleton.mp hpre ▸ hself
              | false =>
                  rcases List.mem_append.mp hpre with hmore | hf'
                  · have hadded : added after f = some x := by
                      rw [added, hafter]
                      exact Option.mem_toList.mp hmore
                    exact ⟨x, List.mem_append_left _
                      (List.mem_filterMap.mpr ⟨f, List.mem_cons_self, hadded⟩), rfl⟩
                  · rw [List.mem_singleton.mp hf']
                    exact ⟨f, List.mem_append_right _ List.mem_cons_self,
                      (h.same f List.mem_cons_self f' more hafter).symm⟩
            · exact hrest hin
          · cases stale with
            | true =>
                rcases List.mem_cons.mp hx with rfl | hin
                · exact hself
                · exact hrest hin
            | false => exact hrest hx
          · rcases List.mem_cons.mp hx with rfl | hin
            · exact hself
            · exact hrest hin

theorem places_next_subset (h : Proper keeps after chain) (stale : Bool) :
    places keeps (next after stale chain) ⊆
      places keeps (chain.filterMap (added after) ++ chain) := by
  intro k hk
  obtain ⟨x, hx, hkeeps⟩ := List.mem_filterMap.mp hk
  obtain ⟨y, hy, hsame⟩ := mem_next h hx
  exact mem_places_of_mem hy (hsame.trans hkeeps)

theorem nodup_next (h : Proper keeps after chain) (stale : Bool) :
    (places keeps (next after stale chain)).Nodup := by
  induction chain generalizing stale with
  | nil => exact List.nodup_nil
  | cons f chain ih =>
      have hih := ih h.tail
      have hcons : ∀ stale {f'}, keeps f' = keeps f →
          (places keeps (f' :: next after stale chain)).Nodup := by
        intro stale f' hf'
        cases hk : keeps f with
        | none =>
            rw [places_cons_none (hf'.trans hk)]
            exact hih stale
        | some k =>
            rw [places_cons_some (hf'.trans hk)]
            refine List.nodup_cons.mpr ⟨fun hin => ?_, hih stale⟩
            exact h.head_fresh hk (places_next_subset h.tail stale hin)
      cases chain with
      | nil =>
          have hlone := hcons false rfl
          exact hlone
      | cons g rest =>
          rw [next]
          split
          · rename_i f' more hafter
            have hf' := h.same f List.mem_cons_self f' more hafter
            cases stale with
            | true => exact hcons false rfl
            | false =>
                cases more with
                | none => exact hcons false hf'
                | some m =>
                    obtain ⟨k, hk, hne, hfree⟩ := h.added_fresh (m := m) (by rw [added, hafter])
                    show (places keeps (m :: f' :: next after false (g :: rest))).Nodup
                    rw [places_cons_some hk]
                    refine List.nodup_cons.mpr ⟨fun hin => ?_, hcons false hf'⟩
                    obtain ⟨x, hx, hkeeps⟩ := List.mem_filterMap.mp hin
                    rcases List.mem_cons.mp hx with rfl | hx
                    · exact hne (hf'.symm.trans hkeeps)
                    · exact hfree (places_next_subset h.tail false (mem_places_of_mem hx hkeeps))
          · cases stale with
            | true => exact hcons true rfl
            | false => exact hih false
          · exact hcons true rfl

end Next

section Calls

variable {keeps : Keeps F K} {after : F → After F} {slot slot' : Slot F K} {chain rest : List F}
  {f g : F} {k : K}

/-- A call has left a chain, and one from which nothing is missing for who keeps its first
function. -/
structure Called (keeps : Keeps F K) (after : F → After F) (slot slot' : Slot F K)
    (chain : List F) : Prop where
  top : (next after false chain).head? = some slot'.top
  links : Links keeps slot'.kept (next after false chain)
  stale : Links keeps slot'.kept (next after true chain)
  others : ∀ k ∉ places keeps (chain.filterMap (added after) ++ chain), slot'.kept k = slot.kept k

theorem called_bottom (hk : keeps slot.top = none) : Called keeps after slot slot [slot.top] :=
  ⟨rfl, hk, hk, fun _ _ => rfl⟩

section Cons

variable (h : Called keeps after (unwrap slot k) slot' (g :: rest))
  (hproper : Proper keeps after (f :: g :: rest)) (hk : keeps f = some k) (hkept : slot.kept k = g)

include h hproper hk hkept

/-- Who has called a chain and kept nothing new keeps what the chain was called by. -/
theorem Called.staleCons : Links keeps slot'.kept (f :: next after true (g :: rest)) := by
  refine h.stale.cons hk ?_
  rw [next_true_head, h.others k (hproper.head_fresh hk)]
  exact congrArg some hkept.symm

omit hproper hk hkept in
theorem Called.others_cons : ∀ k' ∉ places keeps
    ((f :: g :: rest).filterMap (added after) ++ f :: g :: rest), slot'.kept k' = slot.kept k' := by
  intro k' hk'
  refine h.others k' fun hin => hk' ?_
  rw [places_append, List.mem_append] at hin ⊢
  refine hin.imp (fun hin => ?_) fun hin => ?_
  · exact (((List.sublist_cons_self f _).filterMap _).filterMap keeps).subset hin
  · exact ((List.sublist_cons_self f _).filterMap keeps).subset hin

theorem Called.drop (hafter : after f = .drop) : Called keeps after slot slot' (f :: g :: rest) := by
  refine ⟨?_, ?_, ?_, h.others_cons⟩
  · rw [next, hafter]
    exact h.top
  · rw [next, hafter]
    exact h.links
  · rw [next, hafter]
    exact h.staleCons hproper hk hkept

theorem Called.restore (hafter : after f = .restore) :
    Called keeps after slot { slot' with top := f } (f :: g :: rest) := by
  have hstale := h.staleCons hproper hk hkept
  refine ⟨?_, ?_, ?_, h.others_cons⟩
  · rw [next, hafter]
    rfl
  · rw [next, hafter]
    exact hstale
  · rw [next, hafter]
    exact hstale

omit hkept in
/-- Who keeps the place of a function that has been called keeps the chain behind it. -/
theorem Called.links_cons [DecidableEq K] {x : F} (hx : keeps x = some k) :
    Links keeps (Function.update slot'.kept k slot'.top) (x :: next after false (g :: rest)) := by
  have hfree : k ∉ places keeps (next after false (g :: rest)) := fun hin =>
    hproper.head_fresh hk (places_next_subset hproper.tail false hin)
  refine (h.links.update hfree _).cons hx ?_
  rw [Function.update_self]
  exact h.top

omit hproper hkept in
theorem Called.others_update [DecidableEq K] : ∀ k' ∉ places keeps
    ((f :: g :: rest).filterMap (added after) ++ f :: g :: rest),
      Function.update slot'.kept k slot'.top k' = slot.kept k' := by
  intro k' hk'
  have hne : k' ≠ k := fun heq => hk' (by
    rw [places_append, heq]
    exact List.mem_append_right _ (mem_places_of_mem List.mem_cons_self hk))
  rw [Function.update_of_ne hne]
  exact h.others_cons k' hk'

omit hkept in
theorem Called.rewrap_none [DecidableEq K] {f' : F} (hafter : after f = .rewrap f' none) :
    Called keeps after slot (finish keeps slot' f k (.rewrap f' none)) (f :: g :: rest) := by
  have hf' : keeps f' = some k :=
    (hproper.same f List.mem_cons_self f' none hafter).trans hk
  refine ⟨?_, ?_, ?_, h.others_update hk⟩
  · rw [next, hafter]
    rfl
  · rw [next, hafter]
    exact h.links_cons hproper hk hf'
  · rw [next, hafter]
    exact h.links_cons hproper hk hk

omit hkept in
theorem Called.rewrap_some [DecidableEq K] {f' m : F} (hafter : after f = .rewrap f' (some m)) :
    Called keeps after slot (finish keeps slot' f k (.rewrap f' (some m))) (f :: g :: rest) := by
  have hf' : keeps f' = some k :=
    (hproper.same f List.mem_cons_self f' (some m) hafter).trans hk
  have hadded : added after f = some m := by rw [added, hafter]
  obtain ⟨km, hkm, hne, hmfree⟩ := hproper.added_fresh hadded
  have hfinish : finish keeps slot' f k (.rewrap f' (some m)) =
      ⟨m, Function.update (Function.update slot'.kept k slot'.top) km f'⟩ := by
    rw [finish, wrap, hkm]
  have hkmk : km ≠ k := fun heq => hne (heq ▸ hk)
  have hkmchain : km ∉ places keeps (next after false (g :: rest)) := fun hin =>
    hmfree (places_next_subset hproper.tail false hin)
  have hkmcons : ∀ {x}, keeps x = some k →
      km ∉ places keeps (x :: next after false (g :: rest)) := by
    intro x hx hin
    rw [places_cons_some hx] at hin
    exact (List.mem_cons.mp hin).elim hkmk hkmchain
  rw [hfinish]
  refine ⟨?_, ?_, ?_, fun k' hk' => ?_⟩
  · rw [next, hafter]
    rfl
  · rw [next, hafter]
    refine ((h.links_cons hproper hk hf').update (hkmcons hf') f').cons hkm ?_
    rw [Function.update_self]
    rfl
  · rw [next, hafter]
    exact (h.links_cons hproper hk hk).update (hkmcons hk) f'
  · have hnek : k' ≠ km := fun heq => hk' (by
      rw [heq, List.filterMap_cons_some hadded, List.cons_append, places_cons_some hkm]
      exact List.mem_cons_self)
    exact (Function.update_of_ne hnek _ _).trans (h.others_update hk k' hk')

end Cons

/-- A call from the first function of a chain. -/
theorem call_called [DecidableEq K] (fuel : Nat) (hproper : Proper keeps after chain)
    (htop : chain.head? = some slot.top) (hlinks : Links keeps slot.kept chain)
    (hfuel : chain.length ≤ fuel) :
    ∃ slot', call keeps after fuel slot = some (slot', chain.reverse) ∧
      Called keeps after slot slot' chain := by
  induction chain generalizing slot fuel with
  | nil => exact hlinks.elim
  | cons f chain ih =>
      cases fuel with
      | zero => exact absurd hfuel (Nat.not_succ_le_zero _)
      | succ fuel =>
          cases htop
          cases chain with
          | nil =>
              have hnone : keeps slot.top = none := hlinks
              refine ⟨slot, ?_, called_bottom hnone⟩
              rw [call, hnone]
              rfl
          | cons g rest =>
              obtain ⟨⟨k, hk, hkept⟩, hrest⟩ := hlinks
              have htop : (g :: rest).head? = some (unwrap slot k).top := congrArg some hkept.symm
              have hlinks : Links keeps (unwrap slot k).kept (g :: rest) := hrest
              obtain ⟨slot', hcall, hcalled⟩ :=
                ih fuel hproper.tail htop hlinks (Nat.le_of_succ_le_succ hfuel)
              have hrun : call keeps after (fuel + 1) slot =
                  some (finish keeps slot' slot.top k (after slot.top),
                    (slot.top :: g :: rest).reverse) := by
                rw [call, hk, List.reverse_cons]
                simp only [hcall, Option.map_some]
              refine ⟨_, hrun, ?_⟩
              cases hafter : after slot.top with
              | drop => exact hcalled.drop hproper hk hkept hafter
              | restore => exact hcalled.restore hproper hk hkept hafter
              | rewrap f' more =>
                  cases more with
                  | none => exact hcalled.rewrap_none hproper hk hafter
                  | some m => exact hcalled.rewrap_some hproper hk hafter

/-- **Call rule.** A call runs every function of the chain once, the innermost first, and leaves
the chain that the functions make of it. -/
theorem call_holds [DecidableEq K] (fuel : Nat) (h : Holds keeps slot chain)
    (hproper : Proper keeps after chain) (hfuel : chain.length ≤ fuel) :
    ∃ slot', call keeps after fuel slot = some (slot', chain.reverse) ∧
      Holds keeps slot' (next after false chain) := by
  obtain ⟨slot', hcall, hcalled⟩ := call_called fuel hproper h.top h.links hfuel
  exact ⟨slot', hcall, hcalled.top, hcalled.links, nodup_next hproper false⟩

end Calls

/-! ## Parts of a chain -/

/-- Whether the functions above go on keeping what they have kept.  That is up to the lowest one
that has not left. -/
def staleBelow (after : F → After F) : Bool → List F → Bool
  | stale, [] => stale
  | stale, f :: above =>
      match after f with
      | .rewrap _ _ => staleBelow after false above
      | .drop => staleBelow after stale above
      | .restore => staleBelow after true above

/-- What the functions above become. -/
def nextAbove (after : F → After F) : Bool → List F → List F
  | _, [] => []
  | stale, f :: above =>
      match after f with
      | .rewrap f' more =>
          (if stale then [f] else more.toList ++ [f']) ++ nextAbove after false above
      | .drop => if stale then f :: nextAbove after true above else nextAbove after false above
      | .restore => f :: nextAbove after true above

section Parts

variable {after : F → After F} {f x : F} {above below chain : List F}

/-- The part below a function evolves by itself. -/
theorem next_append (stale : Bool) (above : List F) (hbelow : below ≠ []) :
    next after stale (above ++ below) =
      nextAbove after stale above ++ next after (staleBelow after stale above) below := by
  induction above generalizing stale with
  | nil => rfl
  | cons f above ih =>
      obtain ⟨g, rest, hrest⟩ : ∃ g rest, above ++ below = g :: rest :=
        List.exists_cons_of_ne_nil (List.append_ne_nil_of_right_ne_nil above hbelow)
      rw [List.cons_append, hrest, next, nextAbove, staleBelow]
      rw [hrest] at ih
      split
      · rw [ih, List.append_assoc]
      · cases stale with
        | true => exact congrArg (f :: ·) (ih true)
        | false => exact ih false
      · exact congrArg (f :: ·) (ih true)

/-- Who is in a chain was there before or has been put there. -/
theorem mem_nextAbove {stale : Bool} (hx : x ∈ nextAbove after stale above) :
    x ∈ above ∨ ∃ f ∈ above, ∃ g more, after f = .rewrap g more ∧ (x = g ∨ more = some x) := by
  induction above generalizing stale with
  | nil => exact absurd hx List.not_mem_nil
  | cons f above ih =>
      have hself : f ∈ f :: above := List.mem_cons_self
      have hrest : ∀ {stale}, x ∈ nextAbove after stale above →
          x ∈ f :: above ∨ ∃ f' ∈ f :: above, ∃ g more, after f' = .rewrap g more ∧
            (x = g ∨ more = some x) := by
        intro stale hin
        refine (ih hin).imp (List.mem_cons_of_mem f) ?_
        rintro ⟨f', hf', hmade⟩
        exact ⟨f', List.mem_cons_of_mem f hf', hmade⟩
      rw [nextAbove] at hx
      split at hx
      · rename_i f' more hafter
        rcases List.mem_append.mp hx with hpre | hin
        · cases stale with
          | true => exact Or.inl (List.mem_singleton.mp hpre ▸ hself)
          | false =>
              refine Or.inr ⟨f, hself, f', more, hafter, ?_⟩
              rcases List.mem_append.mp hpre with hmore | hf'
              · exact Or.inr (Option.mem_toList.mp hmore)
              · exact Or.inl (List.mem_singleton.mp hf')
        · exact hrest hin
      · cases stale with
        | true =>
            rcases List.mem_cons.mp hx with rfl | hin
            · exact Or.inl hself
            · exact hrest hin
        | false => exact hrest hx
      · rcases List.mem_cons.mp hx with rfl | hin
        · exact Or.inl hself
        · exact hrest hin

/-- The bottom of a chain stays. -/
theorem next_eq_nextAbove (stale : Bool) (above : List F) (f : F) :
    next after stale (above ++ [f]) = nextAbove after stale above ++ [f] :=
  next_append stale above (List.cons_ne_nil f [])

theorem next_ne_nil (stale : Bool) (hchain : chain ≠ []) : next after stale chain ≠ [] := by
  rw [← List.dropLast_append_getLast hchain, next_eq_nextAbove]
  exact List.append_ne_nil_of_right_ne_nil _ (List.cons_ne_nil _ _)

theorem mem_next_of_chain {stale : Bool} (hx : x ∈ next after stale chain) :
    x ∈ chain ∨ ∃ f ∈ chain, ∃ g more, after f = .rewrap g more ∧ (x = g ∨ more = some x) := by
  by_cases hchain : chain = []
  · rw [hchain] at hx
    exact absurd hx List.not_mem_nil
  · rw [← List.dropLast_append_getLast hchain, next_eq_nextAbove] at hx
    rcases List.mem_append.mp hx with hin | hlast
    · refine (mem_nextAbove hin).imp (fun hold => List.dropLast_subset _ hold) ?_
      rintro ⟨f, hf, hmade⟩
      exact ⟨f, List.dropLast_subset _ hf, hmade⟩
    · exact Or.inl (List.mem_singleton.mp hlast ▸ List.getLast_mem hchain)

end Parts

end LoongsonVideo.Verified.Hooks
