import LoongsonVideo.Verified.Hooks
import LoongsonVideo.Verified.Machine

/-!
# The hooks of the screen

`ScreenInit` of `src/driver.c` wraps the `BlockHandler` of the screen with
`msBlockHandler_oneshot`, which sets the desired modes and leaves its place to `msBlockHandler`,
and in the first server generation `CreateWindow` with `CreateWindow_oneshot`, which copies what
the console shows to the root window, if that was made, and leaves.  `CloseScreen` puts back the
block handler.

Other layers of the server wrap the same hooks, before the driver and after it, and may leave
them.  Most of them keep what they find in the hook after each call; one that does not goes on
calling what it had found before.

* `ran_once_iff`: in which runs the functions that are meant to run once do.
* `updated_every_call`: every call of the block handler updates the screen once.
* `close_leaves`: what `CloseScreen` leaves in the hook.
-/

namespace LoongsonVideo.Driver.ScreenHooks

open LoongsonVideo.Verified LoongsonVideo.Verified.Hooks LoongsonVideo.Verified.Machine

/-! ## Functions -/

/-- What the hooks are given: the server's own function, those of the other layers, and the
driver's. -/
inductive Handler where
  | server
  | layer (i : Nat)
  | msBlockHandlerOneshot
  | msBlockHandler
  | createWindowOneshot
  deriving DecidableEq, Repr

/-- Where functions are kept: by the other layers, and in `ms->BlockHandler` or
`ms->CreateWindow`. -/
inductive Place where
  | layer (i : Nat)
  | ms
  deriving DecidableEq, Repr

def keeps : Keeps Handler Place
  | .server => none
  | .layer i => some (.layer i)
  | _ => some .ms

/-- What another layer does after a call: it keeps what it finds, it leaves, or it holds on to
what it has. -/
inductive LayerAnswer where
  | keep
  | leave
  | hold
  deriving DecidableEq, Repr

/-- What each function does with the hook.  Setting the desired modes may have the server wrap it
for a rotated CRTC. -/
def afterCall (layers : Nat → LayerAnswer) (rotation : Option Nat) : Handler → After Handler
  | .server => .drop
  | .layer i =>
      match layers i with
      | .keep => .rewrap (.layer i) none
      | .leave => .drop
      | .hold => .restore
  | .msBlockHandlerOneshot => .rewrap .msBlockHandler (rotation.map .layer)
  | .msBlockHandler => .rewrap .msBlockHandler none
  | .createWindowOneshot => .drop

/-! ## Runs -/

inductive Hook where
  | blockHandler
  | createWindow
  deriving DecidableEq, Repr

/-- What `ScreenInit` puts in the hook. -/
def Hook.installed : Hook → Handler
  | .blockHandler => .msBlockHandlerOneshot
  | .createWindow => .createWindowOneshot

/-- What is there when that has run. -/
def Hook.later : Hook → List Handler
  | .blockHandler => [.msBlockHandler]
  | .createWindow => []

inductive Phase where
  | fresh
  | opened
  | closed
  deriving DecidableEq, Repr

/-- The test before the one-shot function's own work, of what the functions below it returned:
`CreateWindow_oneshot` asks for a window, a block handler returns nothing. -/
def Hook.works : Hook → Bool → Bool
  | .blockHandler, _ => true
  | .createWindow, ret => ret

/-- A hook in one server generation.  `chain` is what it stands for, and `alone` what it would
stand for if the driver, and what came after it, were not there.  `calls` counts the calls since
`ScreenInit`, `worked` has those in which the one-shot function did its work, and `updates` counts
the runs of any of the driver's functions.  `firstRet` is what the functions below returned in the
first call. -/
structure HookRun where
  slot : Slot Handler Place
  chain : List Handler
  alone : List Handler
  phase : Phase
  calls : Nat
  firstRet : Bool
  worked : List Nat
  updates : Nat

def HookRun.start : HookRun where
  slot := ⟨.server, fun _ => .server⟩
  chain := [.server]
  alone := [.server]
  phase := .fresh
  calls := 0
  firstRet := false
  worked := []
  updates := 0

inductive HookCall where
  | wrap (i : Nat)
  | unwrap (i : Nat)
  | screenInit
  | call (layers : Nat → LayerAnswer) (rotation : Option Nat) (ret : Bool)
  | closeScreen

/-- A layer wraps a hook once, puts back what it kept when it is the first, and the screen is
opened and closed once. -/
def Admitted (s : HookRun) : HookCall → Prop
  | .wrap i => s.phase ≠ .closed ∧ .layer i ∉ s.chain
  | .unwrap i => s.phase ≠ .closed ∧ s.chain.head? = some (.layer i)
  | .screenInit => s.phase = .fresh
  | .call _ rotation _ => s.phase ≠ .closed ∧ ∀ r ∈ rotation, .layer r ∉ s.chain
  | .closeScreen => s.phase = .opened

instance (s : HookRun) (call : HookCall) : Decidable (Admitted s call) :=
  match call with
  | .wrap i => inferInstanceAs (Decidable (s.phase ≠ .closed ∧ .layer i ∉ s.chain))
  | .unwrap i => inferInstanceAs (Decidable (s.phase ≠ .closed ∧ s.chain.head? = some (.layer i)))
  | .screenInit => inferInstanceAs (Decidable (s.phase = .fresh))
  | .call _ rotation _ =>
      inferInstanceAs (Decidable (s.phase ≠ .closed ∧ ∀ r ∈ rotation, .layer r ∉ s.chain))
  | .closeScreen => inferInstanceAs (Decidable (s.phase = .opened))

/-- A call of the hook, and what the functions below the driver's return to it. -/
def callHook (hook : Hook) (s : HookRun) (after : Handler → After Handler) (ret : Bool) : HookRun :=
  match Hooks.call keeps after s.chain.length s.slot with
  | none => s
  | some (slot, trace) =>
      { s with
        slot := slot
        chain := next after false s.chain
        alone := next after false s.alone
        calls := if s.phase = .opened then s.calls + 1 else s.calls
        firstRet := if s.phase = .opened ∧ s.calls = 0 then ret else s.firstRet
        worked := s.worked ++
          if hook.works ret then List.replicate (trace.count hook.installed) s.calls else []
        updates := s.updates + trace.countP fun f => keeps f == some .ms }

def perform (hook : Hook) (s : HookRun) : HookCall → HookRun
  | .wrap i =>
      { s with
        slot := wrap keeps s.slot (.layer i)
        chain := .layer i :: s.chain
        alone := if s.phase = .fresh then .layer i :: s.alone else s.alone }
  | .unwrap i =>
      { s with
        slot := unwrap s.slot (.layer i)
        chain := s.chain.tail
        alone := if s.phase = .fresh then s.alone.tail else s.alone }
  | .screenInit =>
      { s with
        slot := wrap keeps s.slot hook.installed
        chain := hook.installed :: s.chain
        phase := .opened }
  | .call layers rotation ret => callHook hook s (afterCall layers rotation) ret
  | .closeScreen =>
      match hook with
      | .blockHandler =>
          { s with
            slot := unwrap s.slot .ms
            chain := (s.chain.dropWhile fun f => keeps f != some .ms).tail
            phase := .closed }
      | .createWindow => { s with phase := .closed }

def hookStep (hook : Hook) (s : HookRun) (call : HookCall) : HookRun :=
  if Admitted s call then perform hook s call else s

/-! ## What a call leaves -/

/-- The function of somebody else. -/
def Foreign (f : Handler) : Prop := keeps f ≠ some .ms

section After

variable {layers : Nat → LayerAnswer} {rotation : Option Nat} {hook : Hook}
  {chain above below mine : List Handler}

theorem keeps_installed (hook : Hook) : keeps hook.installed = some .ms := by cases hook <;> rfl

theorem installed_notMem {l : List Handler} (hl : ∀ f ∈ l, Foreign f) : hook.installed ∉ l :=
  fun hin => hl _ hin (keeps_installed hook)

theorem foreign_layer (i : Nat) : Foreign (.layer i) := by
  intro h
  injection h with h
  exact nomatch h

variable (hook) in
/-- What is put in a hook: a function for one of the same place, and the server's for a rotated
CRTC. -/
theorem afterCall_rewrap {f g : Handler} {more : Option Handler}
    (h : afterCall layers rotation f = .rewrap g more) :
    keeps g = keeps f ∧ (∀ m ∈ more, ∃ r ∈ rotation, m = .layer r) ∧
      (Foreign f → more = none ∧ g = f) ∧ g ≠ hook.installed := by
  cases f with
  | server => exact nomatch h
  | createWindowOneshot => exact nomatch h
  | layer i =>
      rw [afterCall] at h
      split at h
      · cases h
        refine ⟨rfl, fun m hm => (nomatch hm), fun _ => ⟨rfl, rfl⟩, ?_⟩
        cases hook <;> exact fun heq => nomatch heq
      · exact nomatch h
      · exact nomatch h
  | msBlockHandler =>
      cases h
      refine ⟨rfl, fun m hm => (nomatch hm), fun hf => absurd rfl hf, ?_⟩
      cases hook <;> exact fun heq => nomatch heq
  | msBlockHandlerOneshot =>
      cases h
      refine ⟨rfl, fun m hm => ?_, fun hf => absurd rfl hf, ?_⟩
      · obtain ⟨r, hr, hm⟩ := Option.map_eq_some_iff.mp hm
        exact ⟨r, hr, hm.symm⟩
      · cases hook <;> exact fun heq => nomatch heq

/-- What somebody else's functions become is somebody else's. -/
theorem foreign_next {stale : Bool} (hbelow : ∀ f ∈ below, Foreign f) :
    ∀ f ∈ next (afterCall layers rotation) stale below, Foreign f := by
  intro f hf
  rcases mem_next_of_chain hf with hold | ⟨x, hx, g, more, hafter, hmade⟩
  · exact hbelow f hold
  · obtain ⟨hnone, rfl⟩ := (afterCall_rewrap .blockHandler hafter).2.2.1 (hbelow x hx)
    rw [hnone] at hmade
    exact hmade.elim (fun heq => heq ▸ hbelow _ hx) fun hmore => nomatch hmore

theorem foreign_nextAbove {stale : Bool} (habove : ∀ f ∈ above, Foreign f) :
    ∀ f ∈ nextAbove (afterCall layers rotation) stale above, Foreign f := by
  intro f hf
  rcases mem_nextAbove hf with hold | ⟨x, hx, g, more, hafter, hmade⟩
  · exact habove f hold
  · obtain ⟨hnone, rfl⟩ := (afterCall_rewrap .blockHandler hafter).2.2.1 (habove x hx)
    rw [hnone] at hmade
    exact hmade.elim (fun heq => heq ▸ habove _ hx) fun hmore => nomatch hmore

/-! ## The driver's part of a chain -/

/-- What the driver has in the hook: nothing, what `ScreenInit` has put there, or what came of
it. -/
def Mine (hook : Hook) (mine : List Handler) : Prop :=
  mine = [] ∨ mine = [hook.installed] ∨ mine = hook.later

/-- A chain with the driver's part in it. -/
structure Parted (hook : Hook) (chain above mine below : List Handler) : Prop where
  parts : chain = above ++ (mine ++ below)
  foreignAbove : ∀ f ∈ above, Foreign f
  foreignBelow : ∀ f ∈ below, Foreign f
  nonempty : below ≠ []
  ours : Mine hook mine

theorem added_foreign {f : Handler} (hf : Foreign f) :
    added (afterCall layers rotation) f = none := by
  rw [added]
  split
  · rename_i more hafter
    exact ((afterCall_rewrap .blockHandler hafter).2.2.1 hf).1
  · rfl

theorem filterMap_added_foreign {l : List Handler} (hl : ∀ f ∈ l, Foreign f) :
    l.filterMap (added (afterCall layers rotation)) = [] :=
  List.filterMap_eq_nil_iff.mpr fun f hf => added_foreign (hl f hf)

variable (layers rotation) in
/-- Only the function for a rotated CRTC is added, and at most once. -/
theorem filterMap_added_mine (hmine : Mine hook mine) :
    mine.filterMap (added (afterCall layers rotation)) = [] ∨
      ∃ r ∈ rotation, mine.filterMap (added (afterCall layers rotation)) = [.layer r] := by
  rcases hmine with rfl | rfl | rfl
  · exact Or.inl rfl
  · cases hook with
    | createWindow => exact Or.inl rfl
    | blockHandler =>
        cases rotation with
        | none => exact Or.inl rfl
        | some r => exact Or.inr ⟨r, rfl, rfl⟩
  · cases hook <;> exact Or.inl rfl

/-- Only the layer itself keeps its place. -/
theorem eq_layer_of_keeps {f : Handler} {i : Nat} (h : keeps f = some (.layer i)) :
    f = .layer i := by
  cases f <;> simp_all [keeps]

variable (layers) in
theorem Parted.proper (h : Parted hook chain above mine below) (hnodup : (places keeps chain).Nodup)
    (hrotation : ∀ r ∈ rotation, .layer r ∉ chain) :
    Proper keeps (afterCall layers rotation) chain := by
  refine ⟨fun f _ g more hafter => (afterCall_rewrap hook hafter).1, ?_, ?_⟩
  · intro f _ m hm
    rw [added] at hm
    split at hm
    · rename_i more hafter
      obtain ⟨r, -, rfl⟩ := (afterCall_rewrap hook hafter).2.1 m hm
      rfl
    · cases hm
  · have hadded : chain.filterMap (added (afterCall layers rotation)) =
        mine.filterMap (added (afterCall layers rotation)) := by
      rw [h.parts, List.filterMap_append, List.filterMap_append,
        filterMap_added_foreign h.foreignAbove, filterMap_added_foreign h.foreignBelow, List.nil_append,
        List.append_nil]
    rw [hadded]
    rcases filterMap_added_mine layers rotation h.ours with
      hnone | ⟨r, hr, hone⟩
    · rw [hnone]
      exact hnodup
    · have hplace : keeps (.layer r) = some (.layer r) := rfl
      rw [hone, List.singleton_append, places_cons_some hplace]
      refine List.nodup_cons.mpr ⟨fun hin => ?_, hnodup⟩
      obtain ⟨f, hf, hkeeps⟩ := List.mem_filterMap.mp hin
      exact hrotation r hr (eq_layer_of_keeps hkeeps ▸ hf)

/-- The driver's function is in the chain while it is the one of `ScreenInit`. -/
theorem Parted.installed_mem_iff (h : Parted hook chain above mine below) :
    hook.installed ∈ chain ↔ mine = [hook.installed] := by
  rw [h.parts, List.mem_append, List.mem_append, or_iff_right (installed_notMem h.foreignAbove),
    or_iff_left (installed_notMem h.foreignBelow)]
  rcases h.ours with rfl | rfl | rfl
  · simp
  · simp
  · cases hook <;> decide

theorem Parted.count_installed (h : Parted hook chain above mine below) :
    chain.count hook.installed = if mine = [hook.installed] then 1 else 0 := by
  have hzero : ∀ {l : List Handler}, (∀ f ∈ l, Foreign f) → l.count hook.installed = 0 :=
    fun hl => List.count_eq_zero.mpr (installed_notMem hl)
  rw [h.parts, List.count_append, List.count_append, hzero h.foreignAbove, hzero h.foreignBelow]
  rcases h.ours with rfl | rfl | rfl
  · simp
  · simp
  · cases hook <;> decide

/-- The driver's functions in a chain. -/
theorem Parted.count_mine (h : Parted hook chain above mine below) :
    (chain.countP fun f => keeps f == some .ms) = mine.length := by
  have hzero : ∀ {l : List Handler}, (∀ f ∈ l, Foreign f) →
      (l.countP fun f => keeps f == some .ms) = 0 := fun hl =>
    List.countP_eq_zero.mpr fun f hf hms => hl f hf (beq_iff_eq.mp hms)
  rw [h.parts, List.countP_append, List.countP_append, hzero h.foreignAbove, hzero h.foreignBelow]
  rcases h.ours with rfl | rfl | rfl
  · rfl
  · cases hook <;> rfl
  · cases hook <;> rfl

/-- What the driver's part of a chain becomes when the function above it goes on keeping it, or
does not. -/
def mineAfter (hook : Hook) (stale : Bool) (mine : List Handler) : List Handler :=
  if mine = [hook.installed] ∧ stale = false then hook.later else mine

theorem mine_mineAfter (stale : Bool) (hmine : Mine hook mine) :
    Mine hook (mineAfter hook stale mine) := by
  rw [mineAfter]
  split
  · exact Or.inr (Or.inr rfl)
  · exact hmine

variable (layers rotation) in
/-- A call seen from the driver's part of the chain: what it adds above itself, and what it makes
of itself and the rest. -/
theorem next_mine (stale : Bool) (hmine : Mine hook mine) (hne : below ≠ []) :
    ∃ (extra : List Handler) (below' : List Handler) (stale' : Bool),
      next (afterCall layers rotation) stale (mine ++ below) =
        extra ++ (mineAfter hook stale mine ++ below') ∧
      (∀ f ∈ extra, Foreign f) ∧
      below' = next (afterCall layers rotation) stale' below ∧
      (hook = .blockHandler → mine ≠ [] → stale' = false) := by
  obtain ⟨g, rest, rfl⟩ := List.exists_cons_of_ne_nil hne
  rcases hmine with rfl | rfl | rfl
  · refine ⟨[], _, stale, ?_, fun _ h => (nomatch h), rfl, fun _ h => absurd rfl h⟩
    have hkept : mineAfter hook stale [] = [] := by
      rw [mineAfter, if_neg fun h => nomatch h.1]
    rw [hkept]
    rfl
  · cases hook with
    | blockHandler =>
        cases stale with
        | true => exact ⟨[], _, false, rfl, fun _ h => (nomatch h), rfl, fun _ _ => rfl⟩
        | false =>
            refine ⟨(rotation.map .layer).toList, _, false, ?_, fun f hf => ?_, rfl,
              fun _ _ => rfl⟩
            · exact List.append_assoc ..
            · obtain ⟨r, -, rfl⟩ := Option.map_eq_some_iff.mp (Option.mem_toList.mp hf)
              exact foreign_layer r
    | createWindow =>
        cases stale with
        | true => exact ⟨[], _, true, rfl, fun _ h => (nomatch h), rfl, fun h => nomatch h⟩
        | false => exact ⟨[], _, false, rfl, fun _ h => (nomatch h), rfl, fun h => nomatch h⟩
  · cases hook with
    | blockHandler =>
        cases stale <;> exact ⟨[], _, false, rfl, fun _ h => (nomatch h), rfl, fun _ _ => rfl⟩
    | createWindow => exact ⟨[], _, stale, rfl, fun _ h => (nomatch h), rfl, fun h => nomatch h⟩

variable (layers rotation) in
theorem Parted.next (h : Parted hook chain above mine below) :
    ∃ above' below',
      Parted hook (Hooks.next (afterCall layers rotation) false chain) above'
        (mineAfter hook (staleBelow (afterCall layers rotation) false above) mine) below' ∧
      (hook = .blockHandler → mine ≠ [] →
        below' = Hooks.next (afterCall layers rotation) false below) := by
  obtain ⟨extra, below', stale', hnext, hextra, hbelow, hstale⟩ :=
    next_mine layers rotation
      (staleBelow (afterCall layers rotation) false above) h.ours h.nonempty
  refine ⟨nextAbove (afterCall layers rotation) false above ++ extra, below', ⟨?_, ?_, ?_, ?_, ?_⟩,
    fun hhook hsome => ?_⟩
  · rw [h.parts, next_append false above (List.append_ne_nil_of_right_ne_nil mine h.nonempty),
      hnext, List.append_assoc]
  · intro f hf
    exact (List.mem_append.mp hf).elim (foreign_nextAbove h.foreignAbove f) (hextra f)
  · rw [hbelow]
    exact foreign_next h.foreignBelow
  · rw [hbelow]
    exact next_ne_nil stale' h.nonempty
  · exact mine_mineAfter _ h.ours
  · rw [hbelow, hstale hhook hsome]

end After

/-! ## The invariant -/

/-- The hook stands for its chain, in which the driver has its part. -/
def Shape (hook : Hook) (s : HookRun) : Prop :=
  match s.phase with
  | .fresh =>
      s.chain = s.alone ∧ (∀ f ∈ s.chain, Foreign f) ∧ s.chain ≠ [] ∧
        s.calls = 0 ∧ s.worked = [] ∧ s.updates = 0
  | .opened =>
      ∃ above mine below, Parted hook s.chain above mine below ∧
        (mine = [hook.installed] ∨ mine = hook.later) ∧
        (hook = .blockHandler → below = s.alone)
  | .closed => hook = .blockHandler → s.chain = s.alone

structure Inv (hook : Hook) (s : HookRun) : Prop where
  holds : Holds keeps s.slot s.chain
  shape : Shape hook s

theorem Inv.fresh {hook : Hook} {s : HookRun} (h : Inv hook s) (hp : s.phase = .fresh) :
    s.chain = s.alone ∧ (∀ f ∈ s.chain, Foreign f) ∧ s.chain ≠ [] ∧
      s.calls = 0 ∧ s.worked = [] ∧ s.updates = 0 := by
  have hshape := h.shape
  rw [Shape, hp] at hshape
  exact hshape

theorem Inv.opened {hook : Hook} {s : HookRun} (h : Inv hook s) (hp : s.phase = .opened) :
    ∃ above mine below, Parted hook s.chain above mine below ∧
      (mine = [hook.installed] ∨ mine = hook.later) ∧
      (hook = .blockHandler → below = s.alone) := by
  have hshape := h.shape
  rw [Shape, hp] at hshape
  exact hshape

theorem inv_start (hook : Hook) : Inv hook HookRun.start where
  holds := ⟨rfl, rfl, by decide⟩
  shape := by
    refine ⟨rfl, fun f hf => ?_, List.cons_ne_nil _ _, rfl, rfl, rfl⟩
    rw [List.mem_singleton.mp hf]
    exact fun h => nomatch h

section Steps

variable {hook : Hook} {s : HookRun} {layers : Nat → LayerAnswer} {rotation : Option Nat}
  {ret : Bool} {above mine below : List Handler}

variable (hook) in
/-- Before the screen is opened nothing in the hook is the driver's. -/
theorem parted_fresh (hforeign : ∀ f ∈ s.chain, Foreign f) (hne : s.chain ≠ []) :
    Parted hook s.chain [] [] s.chain :=
  ⟨rfl, fun _ h => (nomatch h), hforeign, hne, Or.inl rfl⟩

variable (layers ret) in
/-- A call reaches all functions of the chain. -/
theorem callHook_spec (hholds : Holds keeps s.slot s.chain)
    (hparted : Parted hook s.chain above mine below)
    (hrotation : ∀ r ∈ rotation, .layer r ∉ s.chain) :
    ∃ slot', Holds keeps slot' (next (afterCall layers rotation) false s.chain) ∧
      callHook hook s (afterCall layers rotation) ret =
        { s with
          slot := slot'
          chain := next (afterCall layers rotation) false s.chain
          alone := next (afterCall layers rotation) false s.alone
          calls := if s.phase = .opened then s.calls + 1 else s.calls
          firstRet := if s.phase = .opened ∧ s.calls = 0 then ret else s.firstRet
          worked := s.worked ++
            if hook.works ret then
              List.replicate (if mine = [hook.installed] then 1 else 0) s.calls
            else []
          updates := s.updates + mine.length } := by
  have hproper := hparted.proper layers hholds.nodup hrotation
  obtain ⟨slot', hcall, hholds'⟩ := call_holds s.chain.length hholds hproper (Nat.le_refl _)
  refine ⟨slot', hholds', ?_⟩
  rw [callHook, hcall]
  simp only [List.count_reverse, List.countP_reverse, hparted.count_installed, hparted.count_mine]

theorem wrap_inv {i : Nat} (h : Inv hook s) (hphase : s.phase ≠ .closed)
    (hnew : .layer i ∉ s.chain) : Inv hook (perform hook s (.wrap i)) := by
  have hfree : Place.layer i ∉ places keeps s.chain := by
    intro hin
    obtain ⟨f, hf, hkeeps⟩ := List.mem_filterMap.mp hin
    exact hnew (eq_layer_of_keeps hkeeps ▸ hf)
  have hholds : Holds keeps (wrap keeps s.slot (.layer i)) (.layer i :: s.chain) :=
    wrap_holds h.holds rfl hfree
  refine ⟨hholds, ?_⟩
  unfold Shape
  cases hp : s.phase with
  | closed => exact absurd hp hphase
  | fresh =>
      obtain ⟨hchain, hforeign, -, hrest⟩ := h.fresh hp
      simp only [perform, hp, if_true]
      refine ⟨congrArg _ hchain, fun f hf => ?_, List.cons_ne_nil _ _, hrest⟩
      rcases List.mem_cons.mp hf with rfl | hf
      · exact foreign_layer i
      · exact hforeign f hf
  | opened =>
      obtain ⟨above, mine, below, hparted, hmine, halone⟩ := h.opened hp
      have hno : ¬ Phase.opened = Phase.fresh := fun h => nomatch h
      simp only [perform, hp, hno, if_false]
      refine ⟨.layer i :: above, mine, below, ⟨?_, fun f hf => ?_, hparted.foreignBelow,
        hparted.nonempty, hparted.ours⟩, hmine, halone⟩
      · rw [hparted.parts]
        rfl
      · rcases List.mem_cons.mp hf with rfl | hf
        · exact foreign_layer i
        · exact hparted.foreignAbove f hf

/-- The first function of a chain that keeps something is not the last. -/
theorem tail_of_head {i : Nat} (h : Holds keeps s.slot s.chain)
    (hhead : s.chain.head? = some (.layer i)) :
    ∃ rest, s.chain = .layer i :: rest ∧ rest ≠ [] ∧ Holds keeps (unwrap s.slot (.layer i)) rest := by
  obtain ⟨rest, hrest⟩ := List.head?_eq_some_iff.mp hhead
  rw [hrest] at h
  have hhead : Holds keeps s.slot ([] ++ .layer i :: rest) := h
  have hplace : keeps (.layer i) = some (.layer i) := rfl
  have htail := unwrap_holds hhead hplace
  refine ⟨rest, hrest, fun hnil => ?_, htail⟩
  rw [hnil] at htail
  exact htail.links

theorem unwrap_inv {i : Nat} (h : Inv hook s) (hphase : s.phase ≠ .closed)
    (hhead : s.chain.head? = some (.layer i)) : Inv hook (perform hook s (.unwrap i)) := by
  obtain ⟨rest, hrest, hne, hholds⟩ := tail_of_head h.holds hhead
  have htail : s.chain.tail = rest := by rw [hrest, List.tail_cons]
  refine ⟨?_, ?_⟩
  · simp only [perform, htail]
    exact hholds
  unfold Shape
  cases hp : s.phase with
  | closed => exact absurd hp hphase
  | fresh =>
      obtain ⟨hchain, hforeign, -, hcounts⟩ := h.fresh hp
      simp only [perform, hp, if_true, ← hchain, htail]
      refine ⟨trivial, fun f hf => hforeign f ?_, hne, hcounts⟩
      rw [hrest]
      exact List.mem_cons_of_mem _ hf
  | opened =>
      obtain ⟨above, mine, below, hparted, hmine, halone⟩ := h.opened hp
      have hno : ¬ Phase.opened = Phase.fresh := fun h => nomatch h
      simp only [perform, hp, hno, if_false, htail]
      have hparts := hparted.parts
      rw [hrest] at hparts
      cases above with
      | cons f above =>
          injection hparts with _ hparts
          exact ⟨above, mine, below, ⟨hparts, fun f hf =>
            hparted.foreignAbove f (List.mem_cons_of_mem _ hf), hparted.foreignBelow,
            hparted.nonempty, hparted.ours⟩, hmine, halone⟩
      | nil =>
          -- The first function is not the driver's, so it has left.
          cases hook with
          | blockHandler => rcases hmine with rfl | rfl <;> exact nomatch hparts
          | createWindow =>
              rcases hmine with rfl | rfl
              · exact nomatch hparts
              · refine ⟨[], [], rest, ⟨rfl, fun _ h => (nomatch h), fun f hf => ?_, hne,
                  Or.inl rfl⟩, Or.inr rfl, fun h => nomatch h⟩
                refine hparted.foreignBelow f ?_
                rw [← show Handler.layer i :: rest = below from hparts]
                exact List.mem_cons_of_mem _ hf

theorem screenInit_inv (h : Inv hook s) (hphase : s.phase = .fresh) :
    Inv hook (perform hook s .screenInit) := by
  obtain ⟨hchain, hforeign, hne, -⟩ := h.fresh hphase
  have hfree : Place.ms ∉ places keeps s.chain := by
    intro hin
    obtain ⟨f, hf, hkeeps⟩ := List.mem_filterMap.mp hin
    exact hforeign f hf hkeeps
  refine ⟨wrap_holds h.holds (keeps_installed hook) hfree, ?_⟩
  exact ⟨[], [hook.installed], s.chain, ⟨rfl, fun _ h => (nomatch h), hforeign, hne,
    Or.inr (Or.inl rfl)⟩, Or.inl rfl, fun _ => hchain⟩

/-- The driver's part while the screen is open. -/
theorem mineAfter_opened {stale : Bool} (hmine : mine = [hook.installed] ∨ mine = hook.later) :
    mineAfter hook stale mine = [hook.installed] ∨ mineAfter hook stale mine = hook.later := by
  rw [mineAfter]
  split
  · exact Or.inr rfl
  · exact hmine

theorem call_inv (h : Inv hook s) (hphase : s.phase ≠ .closed)
    (hrotation : ∀ r ∈ rotation, .layer r ∉ s.chain) :
    Inv hook (perform hook s (.call layers rotation ret)) := by
  cases hp : s.phase with
  | closed => exact absurd hp hphase
  | fresh =>
      obtain ⟨hchain, hforeign, hne, hcalls, hworked, hupdates⟩ := h.fresh hp
      have hparted := parted_fresh hook hforeign hne
      obtain ⟨slot', hholds, hcall⟩ := callHook_spec layers ret h.holds hparted hrotation
      have hno : ¬ ([] : List Handler) = [hook.installed] := fun h => nomatch h
      have hstill : ¬ Phase.fresh = Phase.opened := fun h => nomatch h
      rw [perform, hcall]
      refine ⟨hholds, ?_⟩
      unfold Shape
      simp only [hp, hno, hstill, if_false]
      refine ⟨by rw [hchain], foreign_next hforeign, next_ne_nil false hne, hcalls, ?_, hupdates⟩
      rw [hworked]
      split <;> rfl
  | opened =>
      obtain ⟨above, mine, below, hparted, hmine, halone⟩ := h.opened hp
      obtain ⟨slot', hholds, hcall⟩ := callHook_spec layers ret h.holds hparted hrotation
      obtain ⟨above', below', hparted', hbelow'⟩ :=
        hparted.next layers rotation
      rw [perform, hcall]
      refine ⟨hholds, ?_⟩
      unfold Shape
      simp only [hp]
      refine ⟨above', _, below', hparted', mineAfter_opened hmine, fun hhook => ?_⟩
      have hsome : mine ≠ [] := by
        rw [hhook] at hmine
        rcases hmine with rfl | rfl <;> exact List.cons_ne_nil _ _
      rw [hbelow' hhook hsome, halone hhook]

theorem closeScreen_inv (h : Inv hook s) (hphase : s.phase = .opened) :
    Inv hook (perform hook s .closeScreen) := by
  cases hook with
  | createWindow => exact ⟨h.holds, fun hhook => nomatch hhook⟩
  | blockHandler =>
      obtain ⟨above, mine, below, hparted, hmine, halone⟩ := h.opened hphase
      obtain ⟨m, rfl, hm⟩ : ∃ m, mine = [m] ∧ keeps m = some .ms := by
        rcases hmine with rfl | rfl
        · exact ⟨_, rfl, rfl⟩
        · exact ⟨_, rfl, rfl⟩
      have hdrop : (s.chain.dropWhile fun f => keeps f != some .ms).tail = below := by
        have hall : ∀ f ∈ above, (keeps f != some .ms) = true := fun f hf =>
          bne_iff_ne.mpr (hparted.foreignAbove f hf)
        have hstop : (m :: below).dropWhile (fun f => keeps f != some .ms) = m :: below := by
          simp [hm]
        rw [hparted.parts, List.dropWhile_append_of_pos hall, List.singleton_append, hstop,
          List.tail_cons]
      have hholds := h.holds
      rw [hparted.parts] at hholds
      refine ⟨?_, fun _ => ?_⟩
      · simp only [perform, hdrop]
        exact unwrap_holds hholds hm
      · simp only [perform, hdrop]
        exact halone rfl

theorem hookStep_inv (call : HookCall) (h : Inv hook s) : Inv hook (hookStep hook s call) := by
  unfold hookStep
  split
  · rename_i hadm
    cases call with
    | wrap i => exact wrap_inv h hadm.1 hadm.2
    | unwrap i => exact unwrap_inv h hadm.1 hadm.2
    | screenInit => exact screenInit_inv h hadm
    | call layers rotation ret => exact call_inv h hadm.1 hadm.2
    | closeScreen => exact closeScreen_inv h hadm
  · exact h

end Steps

/-! ## Once -/

/-- The one-shot function has run in the first call since `ScreenInit`, and only in that: it has
done its work if what the functions below returned then lets it. -/
def RanOnce (hook : Hook) (s : HookRun) : Prop :=
  s.phase = .opened →
    s.worked = (if s.calls ≠ 0 ∧ hook.works s.firstRet = true then [0] else []) ∧
      (hook.installed ∈ s.chain ↔ s.calls = 0)

/-- In the first call since `ScreenInit`, the function above the driver's keeps what it finds: the
lowest one that does not leave. -/
def KeptFirst (hook : Hook) (s : HookRun) (call : HookCall) : Prop :=
  Admitted s call →
    match call with
    | .call layers rotation _ =>
        s.phase = .opened → s.calls = 0 →
          staleBelow (afterCall layers rotation) false
            (s.chain.takeWhile fun f => f ≠ hook.installed) = false
    | _ => True

section Once

variable {hook : Hook} {s : HookRun} {layers : Nat → LayerAnswer} {rotation : Option Nat}
  {ret : Bool} {above mine below : List Handler}

theorem Parted.takeWhile (h : Parted hook s.chain above [hook.installed] below) :
    (s.chain.takeWhile fun f => f ≠ hook.installed) = above := by
  have hall : ∀ f ∈ above, decide (f ≠ hook.installed) = true := fun f hf =>
    decide_eq_true fun heq => installed_notMem h.foreignAbove (heq ▸ hf)
  have hstop : (hook.installed :: below).takeWhile (fun f => f ≠ hook.installed) = [] := by
    simp
  rw [h.parts, List.takeWhile_append_of_pos hall, List.singleton_append, hstop, List.append_nil]

/-- After a call the one-shot function is there if it was, and was held on to. -/
theorem Parted.installed_mem_next (h : Parted hook s.chain above mine below) :
    hook.installed ∈ Hooks.next (afterCall layers rotation) false s.chain ↔
      mine = [hook.installed] ∧ staleBelow (afterCall layers rotation) false above = true := by
  obtain ⟨above', below', hparted', -⟩ := h.next layers rotation
  have hlater : hook.later ≠ [hook.installed] := by cases hook <;> exact fun h => nomatch h
  rw [hparted'.installed_mem_iff, mineAfter]
  cases staleBelow (afterCall layers rotation) false above with
  | true =>
      rw [if_neg fun h => nomatch h.2]
      simp
  | false =>
      by_cases hmine : mine = [hook.installed]
      · rw [if_pos ⟨hmine, rfl⟩]
        exact iff_of_false hlater fun h => nomatch h.2
      · rw [if_neg fun h => hmine h.1]
        exact iff_of_false hmine fun h => hmine h.1

theorem call_ranOnce (h : Inv hook s) (hphase : s.phase ≠ .closed)
    (hrotation : ∀ r ∈ rotation, .layer r ∉ s.chain) (hran : RanOnce hook s) :
    RanOnce hook (perform hook s (.call layers rotation ret)) ↔
      (s.phase = .opened → s.calls = 0 →
        staleBelow (afterCall layers rotation) false
          (s.chain.takeWhile fun f => f ≠ hook.installed) = false) := by
  cases hp : s.phase with
  | closed => exact absurd hp hphase
  | fresh =>
      obtain ⟨-, hforeign, hne, -⟩ := h.fresh hp
      have hparted := parted_fresh hook hforeign hne
      obtain ⟨slot', -, hcall⟩ := callHook_spec layers ret h.holds hparted hrotation
      rw [perform, hcall]
      refine iff_of_true (fun hopened => ?_) fun hopened => nomatch hopened
      exact nomatch hp.symm.trans hopened
  | opened =>
      obtain ⟨above, mine, below, hparted, hmine, -⟩ := h.opened hp
      obtain ⟨slot', -, hcall⟩ := callHook_spec layers ret h.holds hparted hrotation
      obtain ⟨hlog, hmem⟩ := hran hp
      rw [hparted.installed_mem_iff] at hmem
      have hone : s.calls + 1 ≠ 0 := Nat.succ_ne_zero _
      rw [perform, hcall]
      unfold RanOnce
      simp only [hp, if_true, true_imp_iff, hparted.installed_mem_next, hmem, hone, iff_false,
        not_and, Bool.not_eq_true]
      by_cases hcalls : s.calls = 0
      · have hinstalled := hmem.mpr hcalls
        subst hinstalled
        rw [hparted.takeWhile, hlog]
        simp [hcalls, List.replicate_one]
      · rw [hlog]
        simp [hcalls]

/-- The other calls leave the function where it is. -/
theorem ranOnce_of_same {s' : HookRun} (hran : RanOnce hook s)
    (hopened : s'.phase = .opened → s.phase = .opened) (hlog : s'.worked = s.worked)
    (hcalls : s'.calls = s.calls) (hret : s'.firstRet = s.firstRet)
    (hmem : hook.installed ∈ s'.chain ↔ hook.installed ∈ s.chain) : RanOnce hook s' := by
  intro hphase
  rw [hlog, hcalls, hret, hmem]
  exact hran (hopened hphase)

theorem installed_mem_cons (i : Nat) (chain : List Handler) :
    hook.installed ∈ .layer i :: chain ↔ hook.installed ∈ chain := by
  rw [List.mem_cons]
  refine or_iff_right ?_
  cases hook <;> exact fun heq => nomatch heq

theorem screenInit_ranOnce (h : Inv hook s) (hphase : s.phase = .fresh) :
    RanOnce hook (perform hook s .screenInit) := by
  obtain ⟨-, -, -, hcalls, hworked, -⟩ := h.fresh hphase
  intro _
  simp [perform, hcalls, hworked]

theorem hookStep_ranOnce (call : HookCall) (h : Inv hook s) (hran : RanOnce hook s) :
    RanOnce hook (hookStep hook s call) ↔ KeptFirst hook s call := by
  unfold hookStep KeptFirst
  by_cases hadm : Admitted s call
  · rw [if_pos hadm]
    simp only [hadm, true_imp_iff]
    cases call with
    | wrap i =>
        exact iff_of_true (ranOnce_of_same hran id rfl rfl rfl (installed_mem_cons i s.chain)) trivial
    | unwrap i =>
        obtain ⟨rest, hrest⟩ := List.head?_eq_some_iff.mp hadm.2
        refine iff_of_true (ranOnce_of_same hran id rfl rfl rfl ?_) trivial
        show hook.installed ∈ s.chain.tail ↔ _
        rw [hrest, List.tail_cons, installed_mem_cons]
    | screenInit => exact iff_of_true (screenInit_ranOnce h hadm) trivial
    | call layers rotation ret => exact call_ranOnce h hadm.1 hadm.2 hran
    | closeScreen =>
        refine iff_of_true (fun hopened => ?_) trivial
        cases hook <;> exact nomatch hopened
  · rw [if_neg hadm]
    exact iff_of_true hran fun hyes => absurd hyes hadm

end Once

/-- **The desired modes are set in the first call of the block handler and in no other, and the
console is copied in the first call of `CreateWindow`, if the functions below make the window, and
never later, exactly if** in that first call the layer above the driver keeps what it finds. -/
theorem ran_once_iff (hook : Hook) (calls : List HookCall) :
    Always (hookStep hook) (RanOnce hook) HookRun.start calls ↔
      Guarded (hookStep hook) (KeptFirst hook) HookRun.start calls :=
  always_iff_guarded (fun _ call h => hookStep_inv call h)
    (fun _ call h hran => hookStep_ranOnce call h hran) (inv_start hook)
    (fun hopened => nomatch hopened) calls

/-! ## Every time -/

/-- While the screen is open the driver's functions have run in each call. -/
def Updated (s : HookRun) : Prop := s.phase = .opened → s.updates = s.calls

theorem call_updated {s : HookRun} {layers : Nat → LayerAnswer} {rotation : Option Nat}
    (h : Inv .blockHandler s) (hphase : s.phase ≠ .closed)
    (hrotation : ∀ r ∈ rotation, .layer r ∉ s.chain) (hupdated : Updated s) :
    Updated (perform .blockHandler s (.call layers rotation ret)) := by
  cases hp : s.phase with
  | closed => exact absurd hp hphase
  | fresh =>
      obtain ⟨-, hforeign, hne, -⟩ := h.fresh hp
      obtain ⟨slot', -, hcall⟩ := callHook_spec layers ret h.holds
        (parted_fresh .blockHandler hforeign hne) hrotation
      rw [perform, hcall]
      exact fun hopened => nomatch hp.symm.trans hopened
  | opened =>
      obtain ⟨above, mine, below, hparted, hmine, -⟩ := h.opened hp
      obtain ⟨slot', -, hcall⟩ := callHook_spec layers ret h.holds hparted hrotation
      have hone : mine.length = 1 := by rcases hmine with rfl | rfl <;> rfl
      rw [perform, hcall]
      intro _
      simp only [hp, if_true, hone, hupdated hp]

theorem hookStep_updated {s : HookRun} (call : HookCall) (h : Inv .blockHandler s)
    (hupdated : Updated s) : Updated (hookStep .blockHandler s call) := by
  unfold hookStep
  split
  · rename_i hadm
    cases call with
    | wrap i => exact hupdated
    | unwrap i => exact hupdated
    | screenInit =>
        obtain ⟨-, -, -, hcalls, -, hupdates⟩ := h.fresh hadm
        exact fun _ => hupdates.trans hcalls.symm
    | closeScreen => exact fun hopened => nomatch hopened
    | call layers rotation ret => exact call_updated h hadm.1 hadm.2 hupdated
  · exact hupdated

/-- **Every call of the block handler of an open screen updates the screen, and does so once**,
whatever the other layers do. -/
theorem updated_every_call (calls : List HookCall) :
    Always (hookStep .blockHandler) Updated HookRun.start calls :=
  (always_of_step (P := fun s => Inv .blockHandler s ∧ Updated s)
    (fun _ call h => ⟨hookStep_inv call h.1, hookStep_updated call h.1 h.2⟩)
    ⟨inv_start .blockHandler, fun hopened => nomatch hopened⟩ calls).mono fun _ h => h.2

/-- **`CloseScreen` leaves the block handler as if the driver had never wrapped it**, nor the
layers after it: with the chain that the calls have made of the layers below. -/
theorem close_leaves (calls : List HookCall) :
    Always (hookStep .blockHandler)
      (fun s => s.phase = .closed → Holds keeps s.slot s.alone) HookRun.start calls := by
  have hinv := always_of_step (fun s call (h : Inv .blockHandler s) => hookStep_inv call h)
    (inv_start .blockHandler) calls
  refine hinv.mono fun s h hclosed => ?_
  have hshape := h.shape
  unfold Shape at hshape
  simp only [hclosed] at hshape
  rw [← hshape trivial]
  exact h.holds

end LoongsonVideo.Driver.ScreenHooks
