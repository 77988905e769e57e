import LoongsonVideo.Driver.FlipFlags
import Mathlib.Data.List.Count

/-!
# DRI2 and Present flipping exclude each other

`FlagsFollow` is what the two flags are for: each is on while an entry of one of
its extension's flips is outstanding, and they are not both on.  The code keeps
it between calls as long as no step is of the kinds that `Admits` leaves out.

Inside a call the flags say nothing about the flip that is being queued, so the
invariant is `FlagsHeld`, which looks at the flips whose call has returned only.
`held_step_iff` says that a step keeps it exactly if it is admitted.  `Admits`
looks at the flags itself; `FlipSeparation` says by calls and their answers when
all the steps of a run are admitted.

## Main results

* `always_held_iff`: the flags are held throughout a run exactly if every step
  is admitted.
* `FlagsHeld.follow`: between calls the flags held are the flags followed.
-/

namespace LoongsonVideo.Driver.FlipExclusion

open LoongsonVideo.Driver.FlipFlags
open LoongsonVideo.Verified
open LoongsonVideo.Verified.Machine

/-- One of the entries is of a flip of this owner. -/
def Outstanding (s : FlipScreen) (owner : FlipOwner) : Prop :=
  ∃ e ∈ s.queue.requests, (s.flips e.flipdata).owner = owner

/-- What the flags say between calls. -/
structure FlagsFollow (s : FlipScreen) : Prop where
  dri2 : Outstanding s .dri2 → s.dri2Flipping = true
  present : Outstanding s (.present false) → s.presentFlipping = true
  apart : ¬(s.dri2Flipping = true ∧ s.presentFlipping = true)

/-- The two extensions that flip. -/
inductive Extension where
  | dri2
  | present
  deriving DecidableEq, Repr

/-- An extension's own flips; its unflips are not among them. -/
def Extension.owner : Extension → FlipOwner
  | .dri2 => .dri2
  | .present => .present false

def Extension.other : Extension → Extension
  | .dri2 => .present
  | .present => .dri2

def flag (s : FlipScreen) : Extension → Bool
  | .dri2 => s.dri2Flipping
  | .present => s.presentFlipping

/-- One of the entries is of a flip of this extension, and the flip's call has
returned. -/
def Left (s : FlipScreen) (entries : List FlipEntry) (x : Extension) : Prop :=
  ∃ e ∈ entries, e.flipdata ∉ s.inCall ∧ (s.flips e.flipdata).owner = x.owner

instance (s : FlipScreen) (entries : List FlipEntry) (x : Extension) :
    Decidable (Left s entries x) := by
  unfold Left
  infer_instance

/-- What the flags say at any time. -/
structure FlagsHeld (s : FlipScreen) : Prop where
  held : ∀ x, Left s s.queue.requests x → flag s x = true
  apart : ¬(flag s .dri2 = true ∧ flag s .present = true)

/-! ## The steps that keep the flags -/

/-- Whose flag an event handler clears. -/
def clearedByEvent : FlipOwner → Option Extension
  | .dri2 => some .dri2
  | .present unflip => if unflip then some .present else none

/-- Whose flag an abort handler clears. -/
def clearedByAbort : FlipOwner → Option Extension
  | .dri2 => some .dri2
  | .present _ => none

/-- Whose flag is cleared when entry `k` is taken out. -/
def cleared (handler : FlipOwner → Option Extension) (s : FlipScreen) (k : Nat) : Option Extension :=
  match s.queue.find? k with
  | none => none
  | some e =>
      if (s.flips e.flipdata).flipCount = 1 then handler (s.flips e.flipdata).owner else none

/-- Taking out entry `k` clears no flag that another flip of the extension
needs. -/
def ClearsAlone (handler : FlipOwner → Option Extension) (s : FlipScreen) (k : Nat) : Prop :=
  ∀ x ∈ cleared handler s k, ¬Left s (s.queue.remove k).requests x

/-- A call gives up on a CRTC: none of the flip's entries is left, or the flag
is on already. -/
def GivesUpClean (s : FlipScreen) (f : Nat) (entries : List FlipEntry) : Prop :=
  (∃ e ∈ entries, e.flipdata = f) →
    ∀ x : Extension, (s.flips f).owner = x.owner → flag s x = true

/-- A call returns `TRUE`: the other extension's flag is off. -/
def ReturnsAlone (s : FlipScreen) (f : Nat) : Prop :=
  1 < (s.flips f).flipCount →
    ∀ x : Extension, (s.flips f).owner = x.owner → flag s x.other = false

/-- The steps that keep the flags true to the flips. -/
def Admits (s : FlipScreen) : FlipAct → Prop
  | .loop turn =>
      match s.stack with
      | .doPageflip ⟨f, [], none⟩ :: _ => ReturnsAlone s f
      | .doPageflip ⟨f, _ :: _, none⟩ :: _ =>
          turn = .noCarrier ∨ turn = .noQueue → GivesUpClean s f s.queue.requests
      | _ => True
  | .rejected =>
      match s.stack with
      | .doPageflip ⟨f, _, some (_, k)⟩ :: _ => GivesUpClean s f (s.queue.remove k).requests
      | _ => True
  | .notified =>
      match s.stack with
      | .unflipNotify :: _ => ¬Left s s.queue.requests .present
      | _ => True
  | .event k => s.dispatching = true → k ∈ s.events → ClearsAlone clearedByEvent s k
  | .abortSeq k => s.dispatching = true → ClearsAlone clearedByAbort s k
  | _ => True

instance decidableForallExtension (P : Extension → Prop) [DecidablePred P] :
    Decidable (∀ x, P x) :=
  decidable_of_iff (P .dri2 ∧ P .present)
    ⟨fun h x => by cases x; exacts [h.1, h.2], fun h => ⟨h .dri2, h .present⟩⟩

instance (s : FlipScreen) (f : Nat) (entries : List FlipEntry) :
    Decidable (GivesUpClean s f entries) := by
  unfold GivesUpClean
  infer_instance

instance (s : FlipScreen) (f : Nat) : Decidable (ReturnsAlone s f) := by
  unfold ReturnsAlone
  infer_instance

instance (handler : FlipOwner → Option Extension) (s : FlipScreen) (k : Nat) :
    Decidable (ClearsAlone handler s k) := by
  unfold ClearsAlone
  infer_instance

instance (s : FlipScreen) (act : FlipAct) : Decidable (Admits s act) := by
  unfold Admits
  split
  · split <;> infer_instance
  · split <;> infer_instance
  · split <;> infer_instance
  · infer_instance
  · infer_instance
  · infer_instance

/-! ## References and tokens -/

/-- The entries of a flip. -/
def outstanding (s : FlipScreen) (f : Nat) : Nat :=
  s.queue.requests.countP fun e => e.flipdata == f

/-- `flip_count` counts the entries and the call in its loop; a call waits for
an entry of its own. -/
structure Inv (s : FlipScreen) : Prop where
  fresh : ∀ e ∈ s.queue.requests, e.flipdata < s.calls
  calling : ∀ f ∈ s.inCall, f < s.calls
  once : s.inCall.Nodup
  count : ∀ f, (s.flips f).flipCount = outstanding s f + s.inCall.count f
  asking : ∀ loop, .doPageflip loop ∈ s.stack → ∀ num k, loop.asking = some (num, k) →
    k < s.queue.next ∧ ∀ e, s.queue.find? k = some e → e.flipdata = loop.flipdata

theorem inv_start : Inv FlipScreen.start where
  fresh := by simp [FlipScreen.start]
  calling := by simp [FlipScreen.start, FlipScreen.inCall]
  once := by simp [FlipScreen.start, FlipScreen.inCall]
  count := by simp [FlipScreen.start, FlipScreen.inCall, outstanding]
  asking := by simp [FlipScreen.start]

theorem held_start : FlagsHeld FlipScreen.start where
  held := by simp [FlipScreen.start, Left]
  apart := by simp [FlipScreen.start, flag]

variable {s s' : FlipScreen}

/-- Steps that touch neither the queue nor the flips. -/
theorem Inv.frame (h : Inv s) (hqueue : s'.queue = s.queue) (hflips : s'.flips = s.flips)
    (hcalls : s'.calls = s.calls) (hin : s'.inCall = s.inCall)
    (hasking : ∀ loop, .doPageflip loop ∈ s'.stack →
      .doPageflip loop ∈ s.stack ∨ loop.asking = none) : Inv s' := by
  refine ⟨?_, ?_, ?_, ?_, ?_⟩
  · rw [hqueue, hcalls]
    exact h.fresh
  · rw [hin, hcalls]
    exact h.calling
  · rw [hin]
    exact h.once
  · intro f
    rw [hflips, hin, h.count f]
    simp only [outstanding, hqueue]
  · intro loop hloop num k hk
    rw [hqueue]
    rcases hasking loop hloop with hold | hnone
    · exact h.asking loop hold num k hk
    · rw [hnone] at hk
      cases hk

theorem left_congr {entries : List FlipEntry} (hin : s'.inCall = s.inCall)
    (howner : ∀ e ∈ entries, (s'.flips e.flipdata).owner = (s.flips e.flipdata).owner)
    (x : Extension) : Left s' entries x ↔ Left s entries x := by
  unfold Left
  rw [hin]
  constructor
  · rintro ⟨e, he, hout, ho⟩
    exact ⟨e, he, hout, (howner e he) ▸ ho⟩
  · rintro ⟨e, he, hout, ho⟩
    exact ⟨e, he, hout, (howner e he).trans ho⟩

/-- Steps that change no flag and leave nothing more. -/
theorem FlagsHeld.frame (h : FlagsHeld s) (hflag : ∀ x, flag s' x = flag s x)
    (hleft : ∀ x, Left s' s'.queue.requests x → Left s s.queue.requests x) : FlagsHeld s' := by
  constructor
  · intro x hx
    rw [hflag]
    exact h.held x (hleft x hx)
  · rw [hflag, hflag]
    exact h.apart

@[simp] theorem dropReference_owner (s : FlipScreen) (f g : Nat) :
    ((dropReference s f).flips g).owner = (s.flips g).owner := by
  unfold dropReference
  by_cases hg : g = f
  · subst hg
    simp
  · simp [Function.update_of_ne hg]

theorem dropReference_flipCount (s : FlipScreen) (f g : Nat) :
    ((dropReference s f).flips g).flipCount =
      (s.flips g).flipCount - if g = f then 1 else 0 := by
  unfold dropReference
  by_cases hg : g = f
  · subst hg
    simp
  · simp [hg]

/-! ## An entry is taken out -/

/-- What taking out entry `k` does to all but the flags. -/
structure TakesOut (s : FlipScreen) (k : Nat) (e : FlipEntry) (s' : FlipScreen) : Prop where
  queue : s'.queue = s.queue.remove k
  flips : s'.flips = (dropReference s e.flipdata).flips
  calls : s'.calls = s.calls
  stack : s'.stack = s.stack

theorem TakesOut.inCall {k : Nat} {e : FlipEntry} (h : TakesOut s k e s') :
    s'.inCall = s.inCall := by
  unfold FlipScreen.inCall
  rw [h.stack]

theorem TakesOut.left {k : Nat} {e : FlipEntry} (h : TakesOut s k e s') (x : Extension) :
    Left s' s'.queue.requests x ↔ Left s (s.queue.remove k).requests x := by
  rw [h.queue]
  apply left_congr h.inCall
  intro d _
  rw [h.flips, dropReference_owner]

theorem left_of_remove {k : Nat} {x : Extension}
    (h : Left s (s.queue.remove k).requests x) : Left s s.queue.requests x := by
  obtain ⟨e, he, hout, ho⟩ := h
  exact ⟨e, Pending.mem_requests_of_remove he, hout, ho⟩

theorem TakesOut.inv {k : Nat} {e : FlipEntry} (h : TakesOut s k e s') (hinv : Inv s)
    (hfind : s.queue.find? k = some e) : Inv s' := by
  refine ⟨fun d hd => ?_, ?_, ?_, fun f => ?_, fun loop hloop num j hj => ?_⟩
  · rw [h.queue] at hd
    rw [h.calls]
    exact hinv.fresh d (Pending.mem_requests_of_remove hd)
  · rw [h.inCall, h.calls]
    exact hinv.calling
  · rw [h.inCall]
    exact hinv.once
  · have hout : outstanding s f = outstanding s' f + if e.flipdata = f then 1 else 0 := by
      simp only [outstanding, h.queue, Pending.countP_remove hfind, beq_iff_eq]
    have hcount := hinv.count f
    rw [h.flips, dropReference_flipCount, h.inCall, hcount, hout]
    simp only [eq_comm (a := e.flipdata) (b := f)]
    split <;> push_cast <;> omega
  · rw [h.stack] at hloop
    obtain ⟨hlt, hown⟩ := hinv.asking loop hloop num j hj
    rw [h.queue]
    refine ⟨hlt, fun d hd => ?_⟩
    by_cases hjk : j = k
    · subst hjk
      rw [Pending.find?_remove_self] at hd
      cases hd
    · rw [Pending.find?_remove_ne hjk] at hd
      exact hown d hd

section Callbacks

variable {k : Nat} {e : FlipEntry}

theorem msDrmSequenceHandler_takesOut (hfind : s.queue.find? k = some e) :
    TakesOut s k e (msDrmSequenceHandler s k) := by
  simp only [msDrmSequenceHandler, hfind, msPageflipHandler]
  cases howner : (s.flips e.flipdata).owner with
  | dri2 => split <;> exact ⟨rfl, rfl, rfl, rfl⟩
  | present unflip => cases unflip <;> split <;> exact ⟨rfl, rfl, rfl, rfl⟩

theorem msDrmAbortSeq_takesOut (hfind : s.queue.find? k = some e) :
    TakesOut s k e (msDrmAbortSeq s k) := by
  simp only [msDrmAbortSeq, hfind, msPageflipAbort]
  cases howner : (s.flips e.flipdata).owner <;> split <;> exact ⟨rfl, rfl, rfl, rfl⟩

theorem msDrmSequenceHandler_flag (s : FlipScreen) (k : Nat) (x : Extension) :
    flag (msDrmSequenceHandler s k) x =
      if cleared clearedByEvent s k = some x then false else flag s x := by
  unfold msDrmSequenceHandler cleared
  cases hfind : s.queue.find? k with
  | none => rfl
  | some e =>
      show flag (msPageflipHandler { s with queue := s.queue.remove k } e.flipdata) x = _
      by_cases hlast : (s.flips e.flipdata).flipCount = 1
      · simp only [msPageflipHandler, if_pos hlast]
        cases (s.flips e.flipdata).owner with
        | dri2 => cases x <;> rfl
        | present unflip => cases unflip <;> cases x <;> rfl
      · simp only [msPageflipHandler, if_neg hlast]
        cases x <;> rfl

theorem msDrmAbortSeq_flag (s : FlipScreen) (k : Nat) (x : Extension) :
    flag (msDrmAbortSeq s k) x =
      if cleared clearedByAbort s k = some x then false else flag s x := by
  unfold msDrmAbortSeq cleared
  cases hfind : s.queue.find? k with
  | none => rfl
  | some e =>
      show flag (msPageflipAbort { s with queue := s.queue.remove k } e.flipdata) x = _
      by_cases hlast : (s.flips e.flipdata).flipCount = 1
      · simp only [msPageflipAbort, if_pos hlast]
        cases (s.flips e.flipdata).owner <;> cases x <;> rfl
      · simp only [msPageflipAbort, if_neg hlast]
        cases x <;> rfl

/-- Taking an entry out keeps the flags exactly if no flag it clears is needed. -/
theorem TakesOut.held_iff {handler : FlipOwner → Option Extension} (h : TakesOut s k e s')
    (hflag : ∀ x, flag s' x = if cleared handler s k = some x then false else flag s x)
    (hheld : FlagsHeld s) : FlagsHeld s' ↔ ClearsAlone handler s k := by
  constructor
  · intro h' x hx hleft
    have hon := h'.held x ((h.left x).mpr hleft)
    rw [hflag, if_pos (Option.mem_def.mp hx)] at hon
    cases hon
  · intro halone
    constructor
    · intro x hx
      have hleft := (h.left x).mp hx
      have hkept : cleared handler s k ≠ some x := fun hclear => halone x hclear hleft
      rw [hflag, if_neg hkept]
      exact hheld.held x (left_of_remove hleft)
    · rintro ⟨hdri2, hpresent⟩
      rw [hflag] at hdri2 hpresent
      apply hheld.apart
      constructor
      · split at hdri2
        · cases hdri2
        · exact hdri2
      · split at hpresent
        · cases hpresent
        · exact hpresent

theorem cleared_of_missing {handler : FlipOwner → Option Extension}
    (hfind : s.queue.find? k = none) : cleared handler s k = none := by
  simp only [cleared, hfind]

theorem msDrmSequenceHandler_inv (hinv : Inv s) (k : Nat) : Inv (msDrmSequenceHandler s k) := by
  cases hfind : s.queue.find? k with
  | none =>
      simp only [msDrmSequenceHandler, hfind]
      exact hinv
  | some e => exact (msDrmSequenceHandler_takesOut hfind).inv hinv hfind

theorem msDrmAbortSeq_inv (hinv : Inv s) (k : Nat) : Inv (msDrmAbortSeq s k) := by
  cases hfind : s.queue.find? k with
  | none =>
      simp only [msDrmAbortSeq, hfind]
      exact hinv
  | some e => exact (msDrmAbortSeq_takesOut hfind).inv hinv hfind

theorem msDrmSequenceHandler_held_iff (hheld : FlagsHeld s) (k : Nat) :
    FlagsHeld (msDrmSequenceHandler s k) ↔ ClearsAlone clearedByEvent s k := by
  cases hfind : s.queue.find? k with
  | none =>
      simp only [msDrmSequenceHandler, hfind, ClearsAlone, cleared_of_missing hfind]
      exact iff_of_true hheld (by simp)
  | some e =>
      exact (msDrmSequenceHandler_takesOut hfind).held_iff (msDrmSequenceHandler_flag s k) hheld

theorem msDrmAbortSeq_held_iff (hheld : FlagsHeld s) (k : Nat) :
    FlagsHeld (msDrmAbortSeq s k) ↔ ClearsAlone clearedByAbort s k := by
  cases hfind : s.queue.find? k with
  | none =>
      simp only [msDrmAbortSeq, hfind, ClearsAlone, cleared_of_missing hfind]
      exact iff_of_true hheld (by simp)
  | some e => exact (msDrmAbortSeq_takesOut hfind).held_iff (msDrmAbortSeq_flag s k) hheld

theorem msDrmAbortSeq_queue (s : FlipScreen) (k : Nat) :
    (msDrmAbortSeq s k).queue = s.queue.remove k := by
  cases hfind : s.queue.find? k with
  | none =>
      simp only [msDrmAbortSeq, hfind]
      exact (Pending.remove_of_find?_none hfind).symm
  | some e => exact (msDrmAbortSeq_takesOut hfind).queue

theorem msDrmAbortSeq_stack (s : FlipScreen) (k : Nat) :
    (msDrmAbortSeq s k).stack = s.stack := by
  cases hfind : s.queue.find? k with
  | none => simp only [msDrmAbortSeq, hfind]
  | some e => exact (msDrmAbortSeq_takesOut hfind).stack

theorem msDrmAbortSeq_owner (s : FlipScreen) (k f : Nat) :
    ((msDrmAbortSeq s k).flips f).owner = (s.flips f).owner := by
  cases hfind : s.queue.find? k with
  | none => simp only [msDrmAbortSeq, hfind]
  | some e => rw [(msDrmAbortSeq_takesOut hfind).flips, dropReference_owner]

end Callbacks

/-! ## Every entry is aborted -/

/-- Aborting the entries `ks`, one after the other. -/
theorem abortAll_spec (hinv : Inv s) (ks : List Nat) :
    Inv (ks.foldl msDrmAbortSeq s) ∧
      (∀ k ∈ (ks.foldl msDrmAbortSeq s).queue.tokens, k ∈ s.queue.tokens ∧ k ∉ ks) ∧
      ∀ x, flag (ks.foldl msDrmAbortSeq s) x = true → flag s x = true := by
  induction ks generalizing s with
  | nil => exact ⟨hinv, fun k hk => ⟨hk, List.not_mem_nil⟩, fun _ h => h⟩
  | cons j ks ih =>
      obtain ⟨hinv', htokens, hflag⟩ := ih (msDrmAbortSeq_inv hinv j)
      refine ⟨hinv', fun k hk => ?_, fun x hx => ?_⟩
      · obtain ⟨hin, hnot⟩ := htokens k hk
        rw [msDrmAbortSeq_queue] at hin
        obtain ⟨d, hd, rfl⟩ := List.mem_map.mp hin
        obtain ⟨hmem, hne⟩ := Pending.mem_remove.mp hd
        exact ⟨List.mem_map.mpr ⟨d, hmem, rfl⟩, by simp [hne, hnot]⟩
      · have hon := hflag x hx
        rw [msDrmAbortSeq_flag] at hon
        split at hon
        · cases hon
        · exact hon

theorem msDrmAbortScrn_empty (hinv : Inv s) : (msDrmAbortScrn s).queue.requests = [] := by
  have htokens := (abortAll_spec hinv s.queue.tokens).2.1
  have hnone : (msDrmAbortScrn s).queue.tokens = [] := by
    apply List.eq_nil_iff_forall_not_mem.mpr
    intro k hk
    obtain ⟨hin, hnot⟩ := htokens k hk
    exact hnot hin
  simpa [Pending.tokens, Pending.requests] using hnone

theorem msDrmAbortScrn_held (hinv : Inv s) (hheld : FlagsHeld s) :
    FlagsHeld (msDrmAbortScrn s) := by
  have hflag := (abortAll_spec hinv s.queue.tokens).2.2
  constructor
  · rintro x ⟨e, he, _⟩
    rw [msDrmAbortScrn_empty hinv] at he
    cases he
  · rintro ⟨hdri2, hpresent⟩
    exact hheld.apart ⟨hflag .dri2 hdri2, hflag .present hpresent⟩

/-! ## A call is entered, goes on and returns -/

section Calls

variable {f : Nat} {loop : FlipLoop} {rest : List Call}

theorem inCall_of_stack (hstack : s.stack = .doPageflip loop :: rest) :
    s.inCall = loop.flipdata :: rest.filterMap Call.flip? := by
  unfold FlipScreen.inCall
  rw [hstack]
  rfl

/-- The call of flip `f` leaves the stack and drops its reference. -/
structure Returns (s : FlipScreen) (f : Nat) (rest : List Call) (s' : FlipScreen) : Prop where
  queue : s'.queue = s.queue
  flips : s'.flips = (dropReference s f).flips
  calls : s'.calls = s.calls
  stack : s'.stack = rest ∨ s'.stack = .unflipNotify :: rest

theorem flipReturned_returns (s : FlipScreen) (f : Nat) (rest : List Call) (owner : FlipOwner)
    (ok : Bool) :
    Returns s f rest (flipReturned (leaveLoop s f rest) owner ok) := by
  cases owner with
  | dri2 => cases ok <;> exact ⟨rfl, rfl, rfl, Or.inl rfl⟩
  | present unflip =>
      cases unflip <;> cases ok
      · exact ⟨rfl, rfl, rfl, Or.inl rfl⟩
      · exact ⟨rfl, rfl, rfl, Or.inl rfl⟩
      · exact ⟨rfl, rfl, rfl, Or.inr rfl⟩
      · exact ⟨rfl, rfl, rfl, Or.inl rfl⟩

theorem Returns.inCall (h : Returns s f rest s') : s'.inCall = rest.filterMap Call.flip? := by
  unfold FlipScreen.inCall
  rcases h.stack with hstack | hstack
  · rw [hstack]
  · rw [hstack]
    rfl

theorem Returns.inv (h : Returns s f rest s') (hinv : Inv s)
    (hstack : s.stack = .doPageflip loop :: rest) (hf : loop.flipdata = f) : Inv s' := by
  have hin := inCall_of_stack hstack
  rw [hf] at hin
  refine ⟨?_, fun g hg => ?_, ?_, fun g => ?_, fun other hother num k hk => ?_⟩
  · rw [h.queue, h.calls]
    exact hinv.fresh
  · rw [h.inCall] at hg
    rw [h.calls]
    apply hinv.calling
    rw [hin]
    exact List.mem_cons_of_mem f hg
  · have honce := hinv.once
    rw [hin] at honce
    rw [h.inCall]
    exact honce.of_cons
  · have hout : outstanding s' g = outstanding s g := by
      simp only [outstanding, h.queue]
    have hcount := hinv.count g
    rw [hin, List.count_cons] at hcount
    rw [h.flips, dropReference_flipCount, h.inCall, hout, hcount]
    simp only [beq_iff_eq, eq_comm (a := f) (b := g)]
    split <;> push_cast <;> omega
  · have hold : .doPageflip other ∈ s.stack := by
      rw [hstack]
      rcases h.stack with hs' | hs'
      · rw [hs'] at hother
        exact List.mem_cons_of_mem _ hother
      · rw [hs'] at hother
        rcases List.mem_cons.mp hother with heq | hother
        · cases heq
        · exact List.mem_cons_of_mem _ hother
    rw [h.queue]
    exact hinv.asking other hold num k hk

/-- What is left after a call has returned: its own entries besides. -/
theorem Returns.left (h : Returns s f rest s') (hinv : Inv s)
    (hstack : s.stack = .doPageflip loop :: rest) (hf : loop.flipdata = f) (x : Extension) :
    Left s' s'.queue.requests x ↔
      Left s s.queue.requests x ∨
        (∃ e ∈ s.queue.requests, e.flipdata = f) ∧ (s.flips f).owner = x.owner := by
  have hin := inCall_of_stack hstack
  rw [hf] at hin
  have honce := hinv.once
  rw [hin] at honce
  unfold Left
  rw [h.queue, h.flips, h.inCall, hin]
  simp only [dropReference_owner, List.mem_cons, not_or]
  constructor
  · rintro ⟨e, he, hout, howner⟩
    by_cases hef : e.flipdata = f
    · exact Or.inr ⟨⟨e, he, hef⟩, hef ▸ howner⟩
    · exact Or.inl ⟨e, he, ⟨hef, hout⟩, howner⟩
  · rintro (⟨e, he, ⟨_, hout⟩, howner⟩ | ⟨⟨e, he, rfl⟩, howner⟩)
    · exact ⟨e, he, hout, howner⟩
    · exact ⟨e, he, honce.notMem, howner⟩

theorem errorOut_returns (s : FlipScreen) (f : Nat) (rest : List Call) :
    Returns s f rest (errorOut s f rest) :=
  flipReturned_returns s f rest _ false

theorem errorOut_flag (s : FlipScreen) (f : Nat) (rest : List Call) (x : Extension) :
    flag (errorOut s f rest) x = flag s x := by
  unfold errorOut
  cases (s.flips f).owner with
  | dri2 => cases x <;> rfl
  | present unflip => cases unflip <;> cases x <;> rfl

/-- A call that gives up keeps the flags exactly if it leaves no entry without
its flag. -/
theorem errorOut_held_iff (hinv : Inv s) (hheld : FlagsHeld s)
    (hstack : s.stack = .doPageflip loop :: rest) (hf : loop.flipdata = f) :
    FlagsHeld (errorOut s f rest) ↔ GivesUpClean s f s.queue.requests := by
  have hleft := (errorOut_returns s f rest).left hinv hstack hf
  constructor
  · intro h hsome x howner
    have hon := h.held x ((hleft x).mpr (Or.inr ⟨hsome, howner⟩))
    rw [errorOut_flag] at hon
    exact hon
  · intro hclean
    constructor
    · intro x hx
      rw [errorOut_flag]
      rcases (hleft x).mp hx with hold | ⟨hsome, howner⟩
      · exact hheld.held x hold
      · exact hclean hsome x howner
    · rw [errorOut_flag, errorOut_flag]
      exact hheld.apart

/-- The flags after a call that returns `TRUE`. -/
theorem flipReturned_flag (s : FlipScreen) (owner : FlipOwner) (x : Extension) :
    flag (flipReturned s owner true) x = if owner = x.owner then true else flag s x := by
  cases owner with
  | dri2 => cases x <;> rfl
  | present unflip => cases unflip <;> cases x <;> rfl

theorem owner_other (x : Extension) : x.owner ≠ x.other.owner := by
  cases x <;> decide

theorem FlagsHeld.not_both (h : FlagsHeld s) {x : Extension} (hx : flag s x = true) :
    flag s x.other = false := by
  have hnot := h.apart
  cases x <;> simp only [Extension.other] <;> simp_all

theorem loopDone_held_iff (hinv : Inv s) (hheld : FlagsHeld s)
    (hstack : s.stack = .doPageflip loop :: rest) (hf : loop.flipdata = f) :
    FlagsHeld (loopDone s f rest) ↔ ReturnsAlone s f := by
  by_cases hmore : 1 < (s.flips f).flipCount
  · have hdone : loopDone s f rest =
        flipReturned (leaveLoop s f rest) (s.flips f).owner true := if_pos hmore
    rw [hdone]
    simp only [ReturnsAlone, forall_const, hmore]
    have hreturns := flipReturned_returns s f rest (s.flips f).owner true
    have hleft := hreturns.left hinv hstack hf
    have hflag : ∀ x, flag (flipReturned (leaveLoop s f rest) (s.flips f).owner true) x =
        if (s.flips f).owner = x.owner then true else flag s x :=
      flipReturned_flag (leaveLoop s f rest) (s.flips f).owner
    constructor
    · intro h x howner
      have hon := h.not_both (x := x) (by rw [hflag, if_pos howner])
      have hother : (s.flips f).owner ≠ x.other.owner := howner ▸ owner_other x
      rw [hflag, if_neg hother] at hon
      exact hon
    · intro halone
      constructor
      · intro x hx
        rw [hflag]
        by_cases howner : (s.flips f).owner = x.owner
        · rw [if_pos howner]
        · rw [if_neg howner]
          rcases (hleft x).mp hx with hold | ⟨_, howner'⟩
          · exact hheld.held x hold
          · exact absurd howner' howner
      · rintro ⟨hdri2, hpresent⟩
        rw [hflag] at hdri2 hpresent
        by_cases hd : (s.flips f).owner = Extension.dri2.owner
        · have hoff := halone .dri2 hd
          have hp : (s.flips f).owner ≠ Extension.present.owner := hd ▸ owner_other .dri2
          rw [if_neg hp] at hpresent
          exact Bool.noConfusion (hoff.symm.trans hpresent)
        · rw [if_neg hd] at hdri2
          by_cases hp : (s.flips f).owner = Extension.present.owner
          · exact Bool.noConfusion ((halone .present hp).symm.trans hdri2)
          · rw [if_neg hp] at hpresent
            exact hheld.apart ⟨hdri2, hpresent⟩
  · have hdone : loopDone s f rest = errorOut s f rest := if_neg hmore
    rw [hdone]
    -- The call holds the last reference, so no entry of the flip is left.
    have hnone : ¬∃ e ∈ s.queue.requests, e.flipdata = f := by
      rintro ⟨e, he, hef⟩
      have hcount := hinv.count f
      rw [inCall_of_stack hstack, hf, List.count_cons_self] at hcount
      have hpos : 0 < outstanding s f :=
        List.countP_pos_iff.mpr ⟨e, he, by simpa using hef⟩
      omega
    rw [errorOut_held_iff hinv hheld hstack hf]
    exact iff_of_true (fun hsome => absurd hsome hnone) (fun h => absurd h hmore)

/-- The new flip has no entry yet, and its number is not in use. -/
theorem msDoPageflip_open_inv (hinv : Inv s) (crtcs : List Nat) (owner : FlipOwner) :
    Inv { s with
      flips := Function.update s.flips s.calls ⟨owner, 1⟩
      calls := s.calls + 1
      stack := .doPageflip ⟨s.calls, crtcs, none⟩ :: s.stack } := by
  have hfree : s.calls ∉ s.inCall := fun h => Nat.lt_irrefl _ (hinv.calling _ h)
  have hnone : outstanding s s.calls = 0 := by
    apply List.countP_eq_zero.mpr
    intro e he
    have hlt := hinv.fresh e he
    simp only [beq_iff_eq]
    omega
  refine ⟨fun e he => Nat.lt_succ_of_lt (hinv.fresh e he), fun g hg => ?_, ?_, fun g => ?_,
    fun other hother num k hk => ?_⟩
  · rcases List.mem_cons.mp hg with rfl | hg
    · exact Nat.lt_succ_self _
    · exact Nat.lt_succ_of_lt (hinv.calling g hg)
  · exact List.nodup_cons.mpr ⟨hfree, hinv.once⟩
  · show (Function.update s.flips s.calls ⟨owner, 1⟩ g).flipCount =
      outstanding s g + (s.calls :: s.inCall).count g
    by_cases hg : g = s.calls
    · subst hg
      rw [Function.update_self, hnone, List.count_cons_self, List.count_eq_zero.mpr hfree]
      rfl
    · rw [Function.update_of_ne hg, hinv.count g, List.count_cons_of_ne (Ne.symm hg)]
  · rcases List.mem_cons.mp hother with heq | hold
    · cases heq
      cases hk
    · exact hinv.asking other hold num k hk

theorem msDoPageflip_open_held (hinv : Inv s) (hheld : FlagsHeld s) (crtcs : List Nat)
    (owner : FlipOwner) :
    FlagsHeld { s with
      flips := Function.update s.flips s.calls ⟨owner, 1⟩
      calls := s.calls + 1
      stack := .doPageflip ⟨s.calls, crtcs, none⟩ :: s.stack } := by
  apply hheld.frame
  · intro x
    cases x <;> rfl
  · rintro x ⟨e, he, hout, howner⟩
    have hne : e.flipdata ≠ s.calls := Nat.ne_of_lt (hinv.fresh e he)
    refine ⟨e, he, fun hin => hout (List.mem_cons_of_mem _ hin), ?_⟩
    rw [← howner]
    exact congrArg Flipdata.owner (Function.update_of_ne hne _ _).symm

/-- `FALSE` before the loop: nothing was queued. -/
theorem flipReturned_false_inv (hinv : Inv s) (owner : FlipOwner) :
    Inv (flipReturned s owner false) := by
  cases owner with
  | dri2 => exact hinv
  | present unflip =>
      cases unflip with
      | false => exact hinv
      | true =>
          refine hinv.frame rfl rfl rfl rfl ?_
          intro other hother
          rcases List.mem_cons.mp hother with heq | hold
          · cases heq
          · exact Or.inl hold

theorem flipReturned_false_held (hheld : FlagsHeld s) (owner : FlipOwner) :
    FlagsHeld (flipReturned s owner false) := by
  cases owner with
  | dri2 => exact hheld
  | present unflip => cases unflip <;> exact ⟨hheld.held, hheld.apart⟩

/-- What the three callers of `ms_do_pageflip` come to. -/
inductive Starts (crtcs : List Nat) (s : FlipScreen) : FlipScreen → Prop where
  | nothing : Starts crtcs s s
  | flip (owner : FlipOwner) (setup : FlipSetup) :
      Starts crtcs s (msDoPageflip crtcs s owner setup)
  | noFlip (owner : FlipOwner) : Starts crtcs s (flipReturned s owner false)

theorem Starts.inv {crtcs : List Nat} (h : Starts crtcs s s') (hinv : Inv s) : Inv s' := by
  cases h with
  | nothing => exact hinv
  | noFlip owner => exact flipReturned_false_inv hinv owner
  | flip owner setup =>
      unfold msDoPageflip
      split
      · exact msDoPageflip_open_inv hinv crtcs owner
      · exact flipReturned_false_inv hinv owner

theorem Starts.held {crtcs : List Nat} (h : Starts crtcs s s') (hinv : Inv s)
    (hheld : FlagsHeld s) : FlagsHeld s' := by
  cases h with
  | nothing => exact hheld
  | noFlip owner => exact flipReturned_false_held hheld owner
  | flip owner setup =>
      unfold msDoPageflip
      split
      · exact msDoPageflip_open_held hinv hheld crtcs owner
      · exact flipReturned_false_held hheld owner

/-- An entry for the call that is in its loop. -/
theorem enter_inv (hinv : Inv s) (hstack : s.stack = .doPageflip loop :: rest)
    (hf : loop.flipdata = f) (num : Nat) (nums : List Nat) :
    Inv { enterFlip s num f with
      stack := .doPageflip ⟨f, nums, some (num, s.queue.next)⟩ :: rest } := by
  have hin := inCall_of_stack hstack
  rw [hf] at hin
  refine ⟨fun e he => ?_, ?_, ?_, fun g => ?_, fun other hother n k hk => ?_⟩
  · rcases List.mem_cons.mp he with rfl | he
    · apply hinv.calling
      rw [hin]
      exact List.mem_cons_self
    · exact hinv.fresh e he
  · show ∀ g ∈ f :: rest.filterMap Call.flip?, g < s.calls
    rw [← hin]
    exact hinv.calling
  · show (f :: rest.filterMap Call.flip?).Nodup
    rw [← hin]
    exact hinv.once
  · show (Function.update s.flips f _ g).flipCount =
      (List.countP (fun e => e.flipdata == g) (⟨num, f⟩ :: s.queue.requests) : Nat) +
        (f :: rest.filterMap Call.flip?).count g
    rw [← hin, List.countP_cons]
    have hcount := hinv.count g
    simp only [outstanding] at hcount
    by_cases hg : g = f
    · subst hg
      rw [Function.update_self]
      simp only [beq_self_eq_true, if_true, hcount]
      push_cast
      omega
    · rw [Function.update_of_ne hg, hcount]
      simp [Ne.symm hg]
  · show k < s.queue.next + 1 ∧ ∀ e, (s.queue.alloc ⟨num, f⟩).find? k = some e → _
    rcases List.mem_cons.mp hother with heq | hold
    · cases heq
      cases hk
      refine ⟨Nat.lt_succ_self _, fun e he => ?_⟩
      rw [Pending.find?_alloc_self] at he
      cases he
      rfl
    · obtain ⟨hlt, hown⟩ := hinv.asking other
        (hstack ▸ List.mem_cons_of_mem _ hold) n k hk
      refine ⟨Nat.lt_succ_of_lt hlt, fun e he => hown e ?_⟩
      rwa [Pending.find?_alloc_ne (Nat.ne_of_lt hlt)] at he

theorem enter_held (hheld : FlagsHeld s) (hstack : s.stack = .doPageflip loop :: rest)
    (hf : loop.flipdata = f) (num : Nat) (nums : List Nat) :
    FlagsHeld { enterFlip s num f with
      stack := .doPageflip ⟨f, nums, some (num, s.queue.next)⟩ :: rest } := by
  have hin := inCall_of_stack hstack
  rw [hf] at hin
  apply hheld.frame
  · intro x
    cases x <;> rfl
  · rintro x ⟨e, he, hout, howner⟩
    have hout' : e.flipdata ∉ s.inCall := by
      rw [hin]
      exact hout
    have hne : e.flipdata ≠ f := by
      intro heq
      apply hout'
      rw [hin, heq]
      exact List.mem_cons_self
    rcases List.mem_cons.mp he with rfl | he
    · exact absurd rfl hne
    · refine ⟨e, he, hout', ?_⟩
      rw [← howner]
      exact congrArg Flipdata.owner (Function.update_of_ne hne _ _).symm

/-- The call goes on to its next CRTC. -/
theorem goOn_inv (hinv : Inv s) (hstack : s.stack = .doPageflip loop :: rest)
    (hf : loop.flipdata = f) (scanning : List (Nat × Nat)) (nums : List Nat) :
    Inv { s with scanning := scanning, stack := .doPageflip ⟨f, nums, none⟩ :: rest } := by
  have hin := inCall_of_stack hstack
  rw [hf] at hin
  refine hinv.frame rfl rfl rfl hin.symm ?_
  intro other hother
  rcases List.mem_cons.mp hother with heq | hold
  · cases heq
    exact Or.inr rfl
  · exact Or.inl (hstack ▸ List.mem_cons_of_mem _ hold)

theorem goOn_held (hheld : FlagsHeld s) (hstack : s.stack = .doPageflip loop :: rest)
    (hf : loop.flipdata = f) (scanning : List (Nat × Nat)) (nums : List Nat) :
    FlagsHeld { s with scanning := scanning, stack := .doPageflip ⟨f, nums, none⟩ :: rest } := by
  have hin := inCall_of_stack hstack
  rw [hf] at hin
  apply hheld.frame
  · intro x
    cases x <;> rfl
  · rintro x ⟨e, he, hout, howner⟩
    refine ⟨e, he, ?_, howner⟩
    rw [hin]
    exact hout

/-- The call that was rejected aborts its own entry, which is not the flip's last
reference, and gives up. -/
theorem crtcRejected_held_iff (hinv : Inv s) (hheld : FlagsHeld s) {k num : Nat}
    {nums : List Nat} (hstack : s.stack = .doPageflip ⟨f, nums, some (num, k)⟩ :: rest) :
    FlagsHeld (crtcRejected s f k rest) ↔ GivesUpClean s f (s.queue.remove k).requests := by
  have hkept : cleared clearedByAbort s k = none := by
    cases hfind : s.queue.find? k with
    | none => exact cleared_of_missing hfind
    | some e =>
        have hown : e.flipdata = f :=
          (hinv.asking _ (hstack ▸ List.mem_cons_self) num k rfl).2 e hfind
        have hcount := hinv.count f
        have hpos : 0 < outstanding s f :=
          List.countP_pos_iff.mpr ⟨e, Pending.find?_mem hfind, by simpa using hown⟩
        rw [inCall_of_stack hstack, List.count_cons_self] at hcount
        simp only [cleared, hfind, hown]
        rw [if_neg (by omega)]
  have hflag : ∀ x, flag (msDrmAbortSeq s k) x = flag s x := by
    intro x
    rw [msDrmAbortSeq_flag, hkept]
    rfl
  have hheld' : FlagsHeld (msDrmAbortSeq s k) := by
    apply (msDrmAbortSeq_held_iff hheld k).mpr
    intro x hx
    rw [hkept] at hx
    cases hx
  have hiff := errorOut_held_iff (msDrmAbortSeq_inv hinv k) hheld'
    ((msDrmAbortSeq_stack s k).trans hstack) rfl
  show FlagsHeld (errorOut (msDrmAbortSeq s k) f rest) ↔ _
  rw [hiff]
  simp only [GivesUpClean, msDrmAbortSeq_queue, msDrmAbortSeq_owner, hflag]

end Calls

/-! ## Every step -/

theorem msDri2FrameEventHandler_starts (crtcs : List Nat) (s : FlipScreen)
    (others eventOk : Bool) (setup : FlipSetup) :
    Starts crtcs s (msDri2FrameEventHandler crtcs s others eventOk setup) := by
  unfold msDri2FrameEventHandler msDri2ScheduleFlip
  split
  · split
    · exact .flip .dri2 setup
    · exact .nothing
  · exact .nothing

theorem msPresentFlip_starts (crtcs : List Nat) (s : FlipScreen) (spritesVisible : Nat)
    (others eventOk : Bool) (setup : FlipSetup) :
    Starts crtcs s (msPresentFlip crtcs s spritesVisible others eventOk setup) := by
  unfold msPresentFlip
  split
  · exact .nothing
  · split
    · exact .nothing
    · exact .flip (.present false) setup

theorem msPresentUnflip_starts (crtcs : List Nat) (s : FlipScreen) (others eventOk : Bool)
    (setup : FlipSetup) :
    Starts crtcs s (msPresentUnflip crtcs s others eventOk setup) := by
  unfold msPresentUnflip
  split
  · exact .nothing
  · split
    · exact .flip (.present true) setup
    · exact .noFlip (.present true)

theorem readEvent_inv (hinv : Inv s) (k : Nat) : Inv (readEvent s k) := by
  unfold readEvent
  split
  · apply msDrmSequenceHandler_inv
    exact hinv.frame rfl rfl rfl rfl fun _ h => Or.inl h
  · exact hinv

theorem readEvent_held_iff (hheld : FlagsHeld s) (k : Nat) :
    FlagsHeld (readEvent s k) ↔ (k ∈ s.events → ClearsAlone clearedByEvent s k) := by
  unfold readEvent
  split
  case isTrue hk =>
      have hheld' : FlagsHeld { s with events := s.events.erase k } :=
        ⟨hheld.held, hheld.apart⟩
      have hiff := msDrmSequenceHandler_held_iff hheld' k
      exact ⟨fun h _ => hiff.mp h, fun h => hiff.mpr (h hk)⟩
  case isFalse hk => exact iff_of_true hheld fun h => absurd h hk

theorem dispatch_inv (hinv : Inv s) (crtcs : List Nat) (act : FlipAct) :
    Inv (dispatch crtcs s act) := by
  cases act with
  | dri2FrameEvent others eventOk setup =>
      exact (msDri2FrameEventHandler_starts crtcs s others eventOk setup).inv hinv
  | presentFlip sprites others eventOk setup =>
      exact (msPresentFlip_starts crtcs s sprites others eventOk setup).inv hinv
  | presentUnflip others eventOk setup =>
      exact (msPresentUnflip_starts crtcs s others eventOk setup).inv hinv
  | event k => exact readEvent_inv hinv k
  | abortSeq k => exact msDrmAbortSeq_inv hinv k
  | abortScrn => exact (abortAll_spec hinv s.queue.tokens).1
  | loop turn => exact hinv
  | accepted => exact hinv
  | rejected => exact hinv
  | notified => exact hinv
  | vblank num => exact hinv

theorem errorOut_inv (hinv : Inv s) {loop : FlipLoop} {rest : List Call}
    (hstack : s.stack = .doPageflip loop :: rest) : Inv (errorOut s loop.flipdata rest) :=
  (errorOut_returns s loop.flipdata rest).inv hinv hstack rfl

theorem nextCrtc_inv (hinv : Inv s) {f : Nat} {nums : List Nat} {rest : List Call}
    (hstack : s.stack = .doPageflip ⟨f, nums, none⟩ :: rest) (turn : CrtcTurn) :
    Inv (nextCrtc s f rest turn nums) := by
  cases nums with
  | nil =>
      show Inv (loopDone s f rest)
      unfold loopDone
      split
      · exact (flipReturned_returns s f rest _ true).inv hinv hstack rfl
      · exact errorOut_inv hinv hstack
  | cons num nums =>
      cases turn with
      | off => exact goOn_inv hinv hstack rfl s.scanning nums
      | noCarrier => exact errorOut_inv hinv hstack
      | noQueue => exact errorOut_inv hinv hstack
      | queued => exact enter_inv hinv hstack rfl num nums

theorem crtcAccepted_inv (hinv : Inv s) {f num k : Nat} {nums : List Nat} {rest : List Call}
    (hstack : s.stack = .doPageflip ⟨f, nums, some (num, k)⟩ :: rest) :
    Inv (crtcAccepted s f num k nums rest) := by
  unfold crtcAccepted
  split
  · exact hinv
  · exact goOn_inv hinv hstack rfl _ nums

theorem crtcAccepted_held (hheld : FlagsHeld s) {f num k : Nat} {nums : List Nat}
    {rest : List Call} (hstack : s.stack = .doPageflip ⟨f, nums, some (num, k)⟩ :: rest) :
    FlagsHeld (crtcAccepted s f num k nums rest) := by
  unfold crtcAccepted
  split
  · exact hheld
  · exact goOn_held hheld hstack rfl _ nums

theorem unflipNotified_inv (hinv : Inv s) {rest : List Call}
    (hstack : s.stack = .unflipNotify :: rest) : Inv (unflipNotified s rest) := by
  refine hinv.frame rfl rfl rfl ?_ ?_
  · simp only [FlipScreen.inCall, hstack]
    rfl
  · intro other hother
    exact Or.inl (hstack ▸ List.mem_cons_of_mem _ hother)

theorem unflipNotified_held_iff (hheld : FlagsHeld s) {rest : List Call}
    (hstack : s.stack = .unflipNotify :: rest) :
    FlagsHeld (unflipNotified s rest) ↔ ¬Left s s.queue.requests .present := by
  have hin : (unflipNotified s rest).inCall = s.inCall := by
    simp only [FlipScreen.inCall, hstack]
    rfl
  have hleft : ∀ x, Left (unflipNotified s rest) (unflipNotified s rest).queue.requests x ↔
      Left s s.queue.requests x := left_congr hin fun _ _ => rfl
  constructor
  · intro h hsome
    have hon := h.held .present ((hleft .present).mpr hsome)
    cases hon
  · intro hnone
    constructor
    · intro x hx
      have hold := (hleft x).mp hx
      cases x with
      | dri2 => exact hheld.held .dri2 hold
      | present => exact absurd hold hnone
    · rintro ⟨_, hpresent⟩
      cases hpresent

theorem inv_step (crtcs : List Nat) (s : FlipScreen) (act : FlipAct) (hinv : Inv s) :
    Inv (step crtcs s act) := by
  have hdispatch : Inv (if s.dispatching then dispatch crtcs s act else s) := by
    split
    · exact dispatch_inv hinv crtcs act
    · exact hinv
  cases act with
  | loop turn =>
      simp only [step]
      split
      case h_1 f nums rest hstack => exact nextCrtc_inv hinv hstack turn
      case h_2 => exact hinv
  | accepted =>
      simp only [step]
      split
      case h_1 f nums num k rest hstack => exact crtcAccepted_inv hinv hstack
      case h_2 => exact hinv
  | rejected =>
      simp only [step]
      split
      case h_1 f nums num k rest hstack =>
          exact errorOut_inv (msDrmAbortSeq_inv hinv k) ((msDrmAbortSeq_stack s k).trans hstack)
      case h_2 => exact hinv
  | notified =>
      simp only [step]
      split
      case h_1 rest hstack => exact unflipNotified_inv hinv hstack
      case h_2 => exact hinv
  | vblank num => exact hinv.frame rfl rfl rfl rfl fun _ h => Or.inl h
  | dri2FrameEvent others eventOk setup => exact hdispatch
  | presentFlip sprites others eventOk setup => exact hdispatch
  | presentUnflip others eventOk setup => exact hdispatch
  | event k => exact hdispatch
  | abortSeq k => exact hdispatch
  | abortScrn => exact hdispatch

theorem dispatched_held_iff (hheld : FlagsHeld s) (crtcs : List Nat) {act : FlipAct} {ok : Prop}
    (hdispatch : FlagsHeld (dispatch crtcs s act) ↔ ok) :
    FlagsHeld (if s.dispatching then dispatch crtcs s act else s) ↔
      (s.dispatching = true → ok) := by
  split
  case isTrue hd => exact ⟨fun h _ => hdispatch.mp h, fun h => hdispatch.mpr (h hd)⟩
  case isFalse hd => exact iff_of_true hheld fun h => absurd h hd

theorem dispatched_held (hheld : FlagsHeld s) (crtcs : List Nat) {act : FlipAct}
    (hdispatch : FlagsHeld (dispatch crtcs s act)) :
    FlagsHeld (if s.dispatching then dispatch crtcs s act else s) := by
  split
  · exact hdispatch
  · exact hheld

theorem nextCrtc_held_iff (hinv : Inv s) (hheld : FlagsHeld s) {f num : Nat} {nums : List Nat}
    {rest : List Call} (hstack : s.stack = .doPageflip ⟨f, num :: nums, none⟩ :: rest)
    (turn : CrtcTurn) :
    FlagsHeld (nextCrtc s f rest turn (num :: nums)) ↔
      (turn = .noCarrier ∨ turn = .noQueue → GivesUpClean s f s.queue.requests) := by
  have herror := errorOut_held_iff hinv hheld hstack rfl
  cases turn with
  | off => exact iff_of_true (goOn_held hheld hstack rfl s.scanning nums) (by simp)
  | queued => exact iff_of_true (enter_held hheld hstack rfl num nums) (by simp)
  | noCarrier => exact herror.trans (by simp)
  | noQueue => exact herror.trans (by simp)

/-- **A step keeps the flags exactly if it is admitted.** -/
theorem held_step_iff (crtcs : List Nat) (s : FlipScreen) (act : FlipAct) (hinv : Inv s)
    (hheld : FlagsHeld s) : FlagsHeld (step crtcs s act) ↔ Admits s act := by
  cases act with
  | loop turn =>
      simp only [step, Admits]
      rcases hstack : s.stack with _ | ⟨⟨⟨f, nums, _ | asked⟩⟩ | _, rest⟩
      · exact iff_of_true hheld trivial
      · cases nums with
        | nil => exact loopDone_held_iff hinv hheld hstack rfl
        | cons num nums => exact nextCrtc_held_iff hinv hheld hstack turn
      · exact iff_of_true hheld (by cases nums <;> trivial)
      · exact iff_of_true hheld trivial
  | accepted =>
      apply iff_of_true _ trivial
      simp only [step]
      split
      case h_1 f nums num k rest hstack => exact crtcAccepted_held hheld hstack
      case h_2 => exact hheld
  | rejected =>
      simp only [step, Admits]
      rcases hstack : s.stack with _ | ⟨⟨⟨f, nums, _ | ⟨num, k⟩⟩⟩ | _, rest⟩
      · exact iff_of_true hheld trivial
      · exact iff_of_true hheld trivial
      · exact crtcRejected_held_iff hinv hheld hstack
      · exact iff_of_true hheld trivial
  | notified =>
      simp only [step, Admits]
      rcases hstack : s.stack with _ | ⟨_ | _, rest⟩
      · exact iff_of_true hheld trivial
      · exact iff_of_true hheld trivial
      · exact unflipNotified_held_iff hheld hstack
  | vblank num => exact iff_of_true ⟨hheld.held, hheld.apart⟩ trivial
  | dri2FrameEvent others eventOk setup =>
      apply iff_of_true _ trivial
      apply dispatched_held hheld
      exact (msDri2FrameEventHandler_starts crtcs s others eventOk setup).held hinv hheld
  | presentFlip sprites others eventOk setup =>
      apply iff_of_true _ trivial
      apply dispatched_held hheld
      exact (msPresentFlip_starts crtcs s sprites others eventOk setup).held hinv hheld
  | presentUnflip others eventOk setup =>
      apply iff_of_true _ trivial
      apply dispatched_held hheld
      exact (msPresentUnflip_starts crtcs s others eventOk setup).held hinv hheld
  | event k => exact dispatched_held_iff hheld crtcs (readEvent_held_iff hheld k)
  | abortSeq k => exact dispatched_held_iff hheld crtcs (msDrmAbortSeq_held_iff hheld k)
  | abortScrn =>
      apply iff_of_true _ trivial
      apply dispatched_held hheld
      exact msDrmAbortScrn_held hinv hheld

/-! ## Runs -/

theorem FlagsHeld.follow (h : FlagsHeld s) (hstack : s.stack = []) : FlagsFollow s := by
  have hleft : ∀ x : Extension, Outstanding s x.owner → Left s s.queue.requests x := by
    rintro x ⟨e, he, howner⟩
    refine ⟨e, he, ?_, howner⟩
    simp [FlipScreen.inCall, hstack]
  exact ⟨fun ho => h.held .dri2 (hleft .dri2 ho), fun ho => h.held .present (hleft .present ho),
    h.apart⟩

/-- The flags are held throughout a run exactly if all its steps are admitted. -/
theorem always_held_iff (crtcs : List Nat) (acts : List FlipAct) :
    Always (step crtcs) FlagsHeld .start acts ↔ Guarded (step crtcs) Admits .start acts :=
  always_iff_guarded (inv_step crtcs) (held_step_iff crtcs) inv_start held_start acts

end LoongsonVideo.Driver.FlipExclusion
