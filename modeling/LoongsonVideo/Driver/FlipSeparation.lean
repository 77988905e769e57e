import LoongsonVideo.Driver.FlipExclusion

/-!
# Calls that keep the flags apart

The code tests the other extension's flag before it asks for a flip, and sets its
own after the answer.  In between, `ms_do_pageflip` may flush events, whose
handlers call it again; and an event handler clears a flag without asking whose
flips are outstanding.  So the tests keep the two flags apart as long as no call
is answered in the middle of another extension's, and each flag is true to its
flips as long as no two flips are outstanding of which one clears the flag of the
other.

`Separate` says this of the calls and their answers; no flag is in it.  What the
tests contribute is `Separated.calls`: while a call is in its loop, the flag it
was tested against is still off.

## Main results

* `flags_follow_flips`: a run of separate calls keeps the flags true to the
  flips.
* `half_queued_flip_unflagged`: a flip the kernel takes on one CRTC and rejects
  on the next is outstanding with its flag off.
-/

namespace LoongsonVideo.Driver.FlipSeparation

open LoongsonVideo.Driver.FlipFlags
open LoongsonVideo.Driver.FlipExclusion
open LoongsonVideo.Verified
open LoongsonVideo.Verified.Machine

/-! ## Separate calls -/

/-- The end of one clears the flag that the other one needs. -/
def spoils : FlipOwner → FlipOwner → Bool
  | .dri2, .dri2 => true
  | .present unflip, .present unflip' => unflip != unflip'
  | _, _ => false

/-- The two are flips of different extensions. -/
def rivals : FlipOwner → FlipOwner → Bool
  | .dri2, .present false => true
  | .present false, .dri2 => true
  | _, _ => false

/-- Of the flips whose call has returned, none that is outstanding spoils a flip
of this owner. -/
def Unspoiled (s : FlipScreen) (owner : FlipOwner) : Prop :=
  ∀ e ∈ s.queue.requests, e.flipdata ∉ s.inCall →
    spoils owner (s.flips e.flipdata).owner = false

/-- `ms_do_pageflip` may return `TRUE` to this caller: not in the middle of a
rival's call, and not while an unflip that was refused notifies the server. -/
def MayTake (s : FlipScreen) (owner : FlipOwner) : Prop :=
  Unspoiled s owner ∧ (∀ g ∈ s.inCall, rivals owner (s.flips g).owner = false) ∧
    (owner = .present false → .unflipNotify ∉ s.stack)

/-- `ms_do_pageflip` may return `FALSE` for flip `f` and leave these entries: it
has queued none of them, or the flip is an unflip. -/
def MayRefuse (s : FlipScreen) (f : Nat) (entries : List FlipEntry) : Prop :=
  if (s.flips f).owner = .present true then Unspoiled s (.present true)
  else ∀ e ∈ entries, e.flipdata ≠ f

/-- The condition on a turn of the loop, by the stack of calls. -/
def TurnSeparate (s : FlipScreen) (turn : CrtcTurn) : List Call → Prop
  | .doPageflip ⟨f, [], none⟩ :: _ =>
      if ∃ e ∈ s.queue.requests, e.flipdata = f then MayTake s (s.flips f).owner
      else MayRefuse s f s.queue.requests
  | .doPageflip ⟨f, _ :: _, none⟩ :: _ =>
      turn = .noCarrier ∨ turn = .noQueue → MayRefuse s f s.queue.requests
  | _ => True

/-- The condition on a request that the kernel rejects. -/
def RejectSeparate (s : FlipScreen) : List Call → Prop
  | .doPageflip ⟨f, _, some (_, k)⟩ :: _ => MayRefuse s f (s.queue.remove k).requests
  | _ => True

/-- The calls that keep the flips of the two extensions apart. -/
def Separate (s : FlipScreen) : FlipAct → Prop
  | .loop turn => TurnSeparate s turn s.stack
  | .rejected => RejectSeparate s s.stack
  | .presentUnflip others eventOk setup =>
      -- The unflip is not asked for, or fails before anything is queued.
      s.dispatching = true → eventOk = true →
        (msPresentCheckUnflip s others && (setup.gbmOk && setup.flipdataOk && setup.importOk)) =
          false → Unspoiled s (.present true)
  | _ => True

instance (s : FlipScreen) (owner : FlipOwner) : Decidable (Unspoiled s owner) :=
  inferInstanceAs (Decidable (∀ e ∈ s.queue.requests, _ → _))

instance (s : FlipScreen) (owner : FlipOwner) : Decidable (MayTake s owner) :=
  inferInstanceAs (Decidable (_ ∧ (∀ g ∈ s.inCall, _) ∧ (_ → _)))

instance (s : FlipScreen) (f : Nat) (entries : List FlipEntry) :
    Decidable (MayRefuse s f entries) :=
  inferInstanceAs (Decidable (ite _ _ (∀ e ∈ entries, _)))

instance (s : FlipScreen) (turn : CrtcTurn) : (stack : List Call) →
    Decidable (TurnSeparate s turn stack)
  | [] => .isTrue trivial
  | .doPageflip ⟨_, [], none⟩ :: _ =>
      inferInstanceAs (Decidable (ite (∃ e ∈ s.queue.requests, _) _ _))
  | .doPageflip ⟨f, _ :: _, none⟩ :: _ =>
      inferInstanceAs (Decidable (_ ∨ _ → MayRefuse s f s.queue.requests))
  | .doPageflip ⟨_, [], some _⟩ :: _ | .doPageflip ⟨_, _ :: _, some _⟩ :: _ => .isTrue trivial
  | .unflipNotify :: _ => .isTrue trivial

instance (s : FlipScreen) : (stack : List Call) → Decidable (RejectSeparate s stack)
  | [] => .isTrue trivial
  | .doPageflip ⟨_, _, none⟩ :: _ => .isTrue trivial
  | .doPageflip ⟨f, _, some (_, k)⟩ :: _ =>
      inferInstanceAs (Decidable (MayRefuse s f (s.queue.remove k).requests))
  | .unflipNotify :: _ => .isTrue trivial

instance (s : FlipScreen) : (act : FlipAct) → Decidable (Separate s act)
  | .loop turn => inferInstanceAs (Decidable (TurnSeparate s turn s.stack))
  | .rejected => inferInstanceAs (Decidable (RejectSeparate s s.stack))
  | .presentUnflip _ _ _ => inferInstanceAs (Decidable (_ → _ → _ → Unspoiled s (.present true)))
  | .dri2FrameEvent _ _ _ | .presentFlip _ _ _ _ => .isTrue trivial
  | .accepted | .notified | .vblank _ => .isTrue trivial
  | .event _ | .abortSeq _ | .abortScrn => .isTrue trivial

/-! ## What separate calls keep -/

/-- The entry is of a flip whose call has returned. -/
def Settled (s : FlipScreen) (e : FlipEntry) : Prop :=
  e ∈ s.queue.requests ∧ e.flipdata ∉ s.inCall

/-- Between the steps of separate calls: a call in its loop has the other
extension's flag off, and what is outstanding of the calls that returned does not
clear a flag that is needed. -/
structure Separated (s : FlipScreen) : Prop where
  calls : ∀ g ∈ s.inCall, ∀ x : Extension, (s.flips g).owner = x.owner → flag s x.other = false
  entries : ∀ e d, Settled s e → Settled s d → e.flipdata ≠ d.flipdata →
    spoils (s.flips e.flipdata).owner (s.flips d.flipdata).owner = false
  notifying : .unflipNotify ∈ s.stack → ∀ e, Settled s e →
    (s.flips e.flipdata).owner ≠ .present false

theorem separated_start : Separated FlipScreen.start where
  calls := by simp [FlipScreen.start, FlipScreen.inCall]
  entries := by simp [FlipScreen.start, Settled]
  notifying := by simp [FlipScreen.start]

variable {s s' : FlipScreen}

theorem spoils_comm (owner owner' : FlipOwner) : spoils owner owner' = spoils owner' owner := by
  cases owner with
  | dri2 => cases owner' <;> rfl
  | present unflip =>
      cases owner' with
      | dri2 => rfl
      | present unflip' => cases unflip <;> cases unflip' <;> rfl

theorem rivals_other (x : Extension) : rivals x.owner x.other.owner = true := by
  cases x <;> rfl

/-- Steps that settle no entry. -/
theorem Separated.frame (h : Separated s)
    (hcalls : ∀ g ∈ s'.inCall, ∀ x : Extension, (s'.flips g).owner = x.owner →
      flag s' x.other = false)
    (hsettled : ∀ e, Settled s' e →
      Settled s e ∧ (s'.flips e.flipdata).owner = (s.flips e.flipdata).owner)
    (hnotify : .unflipNotify ∈ s'.stack → .unflipNotify ∈ s.stack) : Separated s' := by
  refine ⟨hcalls, fun e d he hd hne => ?_, fun hn e he => ?_⟩
  · obtain ⟨he, howner⟩ := hsettled e he
    obtain ⟨hd, howner'⟩ := hsettled d hd
    rw [howner, howner']
    exact h.entries e d he hd hne
  · obtain ⟨he, howner⟩ := hsettled e he
    rw [howner]
    exact h.notifying (hnotify hn) e he

/-- Steps that turn on no flag and take no call off the stack. -/
theorem Separated.quiet (h : Separated s) (hin : s'.inCall = s.inCall)
    (hqueue : ∀ e ∈ s'.queue.requests, e ∈ s.queue.requests)
    (howner : ∀ g, (s'.flips g).owner = (s.flips g).owner)
    (hnotify : .unflipNotify ∈ s'.stack → .unflipNotify ∈ s.stack)
    (hflag : ∀ x, flag s' x = true → flag s x = true) : Separated s' := by
  refine h.frame (fun g hg x hx => ?_) (fun e he => ?_) hnotify
  · rw [hin] at hg
    rw [howner] at hx
    have hoff := h.calls g hg x hx
    cases hon : flag s' x.other with
    | false => rfl
    | true => exact absurd (hflag _ hon) (by rw [hoff]; exact Bool.false_ne_true)
  · obtain ⟨hmem, hout⟩ := he
    rw [hin] at hout
    exact ⟨⟨hqueue e hmem, hout⟩, howner _⟩

/-! ## Separate calls are admitted -/

/-- Nothing of the flip is outstanding. -/
theorem givesUpClean_of_refuse {f : Nat} {entries : List FlipEntry}
    (h : MayRefuse s f entries) : GivesUpClean s f entries := by
  rintro ⟨e, he, hef⟩ x howner
  unfold MayRefuse at h
  split at h
  case isTrue hunflip =>
      rw [hunflip] at howner
      cases x <;> cases howner
  case isFalse => exact absurd hef (h e he)

/-- The last entry of a flip comes out, so what remains is of other flips. -/
theorem settled_of_last (hinv : Inv s) {k : Nat} {e d : FlipEntry}
    (hfind : s.queue.find? k = some e) (hlast : (s.flips e.flipdata).flipCount = 1)
    (hd : d ∈ (s.queue.remove k).requests) : Settled s e ∧ e.flipdata ≠ d.flipdata := by
  have hmem := Pending.find?_mem hfind
  have hcount := hinv.count e.flipdata
  have hout : outstanding s e.flipdata =
      (s.queue.remove k).requests.countP (fun e' => e'.flipdata == e.flipdata) + 1 := by
    simp only [outstanding, Pending.countP_remove hfind, beq_self_eq_true, if_true]
  rw [hlast] at hcount
  constructor
  · refine ⟨hmem, fun hin => ?_⟩
    have hpos := List.count_pos_iff.mpr hin
    omega
  · intro heq
    have hpos : 0 < (s.queue.remove k).requests.countP
        (fun e' => e'.flipdata == e.flipdata) :=
      List.countP_pos_iff.mpr ⟨d, hd, by simp [heq]⟩
    omega

/-- Taking out an entry whose handler clears a flag that another one needs would
take two settled flips that spoil each other. -/
theorem clearsAlone_of_separated {handler : FlipOwner → Option Extension} (hinv : Inv s)
    (hsep : Separated s)
    (hhandler : ∀ owner x, handler owner = some x → spoils owner x.owner = true) (k : Nat) :
    ClearsAlone handler s k := by
  rintro x hx ⟨d, hd, hout, howner⟩
  unfold cleared at hx
  cases hfind : s.queue.find? k with
  | none => simp [hfind] at hx
  | some e =>
      simp only [hfind, Option.mem_def] at hx
      split at hx
      case isTrue hlast =>
          obtain ⟨he, hne⟩ := settled_of_last hinv hfind hlast hd
          have hapart := hsep.entries e d he ⟨Pending.mem_requests_of_remove hd, hout⟩ hne
          rw [howner, hhandler _ x hx] at hapart
          cases hapart
      case isFalse => cases hx

theorem clearedByEvent_spoils (owner : FlipOwner) (x : Extension)
    (h : clearedByEvent owner = some x) : spoils owner x.owner = true := by
  cases owner with
  | dri2 =>
      cases h
      rfl
  | present unflip =>
      cases unflip with
      | false => cases h
      | true =>
          cases h
          rfl

theorem clearedByAbort_spoils (owner : FlipOwner) (x : Extension)
    (h : clearedByAbort owner = some x) : spoils owner x.owner = true := by
  cases owner with
  | dri2 =>
      cases h
      rfl
  | present unflip => cases h

/-- **A separate call is an admitted step.** -/
theorem admits_of_separate (hinv : Inv s) (hsep : Separated s) {act : FlipAct}
    (hact : Separate s act) : Admits s act := by
  cases act with
  | loop turn =>
      simp only [Admits]
      simp only [Separate] at hact
      rcases hstack : s.stack with _ | ⟨⟨⟨f, nums, _ | asked⟩⟩ | _, rest⟩
      · trivial
      · rw [hstack] at hact
        cases nums with
        | nil =>
            intro _ x howner
            refine hsep.calls f ?_ x howner
            rw [inCall_of_stack hstack]
            exact List.mem_cons_self
        | cons num nums => exact fun hturn => givesUpClean_of_refuse (hact hturn)
      · cases nums <;> trivial
      · trivial
  | rejected =>
      simp only [Admits]
      simp only [Separate] at hact
      rcases hstack : s.stack with _ | ⟨⟨⟨f, nums, _ | ⟨num, k⟩⟩⟩ | _, rest⟩
      · trivial
      · trivial
      · rw [hstack] at hact
        exact givesUpClean_of_refuse hact
      · trivial
  | notified =>
      simp only [Admits]
      rcases hstack : s.stack with _ | ⟨_ | _, rest⟩
      · trivial
      · trivial
      · rintro ⟨e, he, hout, howner⟩
        exact hsep.notifying (hstack ▸ List.mem_cons_self) e ⟨he, hout⟩ howner
  | event k => exact fun _ _ => clearsAlone_of_separated hinv hsep clearedByEvent_spoils k
  | abortSeq k => exact fun _ => clearsAlone_of_separated hinv hsep clearedByAbort_spoils k
  | vblank num => trivial
  | accepted => trivial
  | dri2FrameEvent others eventOk setup => trivial
  | presentFlip sprites others eventOk setup => trivial
  | presentUnflip others eventOk setup => trivial
  | abortScrn => trivial

/-! ## Entries are taken out -/

theorem TakesOut.separated {k : Nat} {e : FlipEntry} (h : TakesOut s k e s')
    (hsep : Separated s) (hflag : ∀ x, flag s' x = true → flag s x = true) : Separated s' := by
  refine hsep.quiet h.inCall (fun d hd => ?_) (fun g => ?_) (fun hn => h.stack ▸ hn) hflag
  · rw [h.queue] at hd
    exact Pending.mem_requests_of_remove hd
  · rw [h.flips, dropReference_owner]

theorem msDrmSequenceHandler_separated (hsep : Separated s) (k : Nat) :
    Separated (msDrmSequenceHandler s k) := by
  cases hfind : s.queue.find? k with
  | none =>
      simp only [msDrmSequenceHandler, hfind]
      exact hsep
  | some e =>
      refine TakesOut.separated (msDrmSequenceHandler_takesOut hfind) hsep fun x hx => ?_
      rw [msDrmSequenceHandler_flag] at hx
      split at hx
      · cases hx
      · exact hx

theorem msDrmAbortSeq_separated (hsep : Separated s) (k : Nat) :
    Separated (msDrmAbortSeq s k) := by
  cases hfind : s.queue.find? k with
  | none =>
      simp only [msDrmAbortSeq, hfind]
      exact hsep
  | some e =>
      refine TakesOut.separated (msDrmAbortSeq_takesOut hfind) hsep fun x hx => ?_
      rw [msDrmAbortSeq_flag] at hx
      split at hx
      · cases hx
      · exact hx

theorem abortAll_separated (hsep : Separated s) (ks : List Nat) :
    Separated (ks.foldl msDrmAbortSeq s) := by
  induction ks generalizing s with
  | nil => exact hsep
  | cons k ks ih => exact ih (msDrmAbortSeq_separated hsep k)

theorem readEvent_separated (hsep : Separated s) (k : Nat) : Separated (readEvent s k) := by
  unfold readEvent
  split
  · apply msDrmSequenceHandler_separated
    exact ⟨hsep.calls, hsep.entries, hsep.notifying⟩
  · exact hsep

/-! ## A call returns -/

section Calls

variable {f : Nat} {loop : FlipLoop} {rest : List Call}

/-- The entries that a call leaves are settled when it returns. -/
theorem Returns.settled (h : Returns s f rest s') (hstack : s.stack = .doPageflip loop :: rest)
    (hf : loop.flipdata = f) {e : FlipEntry} (he : Settled s' e) :
    Settled s e ∨ (e ∈ s.queue.requests ∧ e.flipdata = f) := by
  obtain ⟨hmem, hout⟩ := he
  rw [h.queue] at hmem
  rw [h.inCall] at hout
  by_cases hef : e.flipdata = f
  · exact Or.inr ⟨hmem, hef⟩
  · refine Or.inl ⟨hmem, ?_⟩
    rw [inCall_of_stack hstack, hf]
    simp [hef, hout]

/-- A call may return when what it leaves does not get in the way of the flips
that are settled. -/
theorem Returns.separated (h : Returns s f rest s') (hsep : Separated s)
    (hstack : s.stack = .doPageflip loop :: rest) (hf : loop.flipdata = f)
    (hcalls : ∀ g ∈ s.inCall, ∀ x : Extension, (s.flips g).owner = x.owner →
      flag s' x.other = false)
    (hmine : ∀ e ∈ s.queue.requests, e.flipdata = f → Unspoiled s (s.flips f).owner)
    (hnotify : .unflipNotify ∈ s'.stack → ∀ e, (Settled s e ∨
      (e ∈ s.queue.requests ∧ e.flipdata = f)) → (s.flips e.flipdata).owner ≠ .present false) :
    Separated s' := by
  have howner : ∀ g, (s'.flips g).owner = (s.flips g).owner := fun g => by
    rw [h.flips, dropReference_owner]
  have hsettled := fun {e} => Returns.settled (e := e) h hstack hf
  refine ⟨fun g hg x hx => ?_, fun e d he hd hne => ?_, fun hn e he => ?_⟩
  · rw [howner] at hx
    refine hcalls g ?_ x hx
    rw [h.inCall] at hg
    rw [inCall_of_stack hstack]
    exact List.mem_cons_of_mem _ hg
  · rw [howner, howner]
    rcases hsettled he with hold | ⟨hmem, hef⟩
    · rcases hsettled hd with hold' | ⟨hmem', hdf⟩
      · exact hsep.entries e d hold hold' hne
      · rw [spoils_comm, hdf]
        exact hmine d hmem' hdf e hold.1 hold.2
    · rcases hsettled hd with hold' | ⟨_, hdf⟩
      · rw [hef]
        exact hmine e hmem hef d hold'.1 hold'.2
      · exact absurd (hef.trans hdf.symm) hne
  · rw [howner]
    exact hnotify hn e (hsettled he)

theorem errorOut_stack (s : FlipScreen) (f : Nat) (rest : List Call)
    (h : .unflipNotify ∈ (errorOut s f rest).stack) :
    .unflipNotify ∈ rest ∨ (s.flips f).owner = .present true := by
  unfold errorOut at h
  cases howner : (s.flips f).owner with
  | dri2 =>
      rw [howner] at h
      exact Or.inl h
  | present unflip =>
      rw [howner] at h
      cases unflip with
      | false => exact Or.inl h
      | true => exact Or.inr rfl

theorem errorOut_separated (hsep : Separated s) (hstack : s.stack = .doPageflip loop :: rest)
    (hf : loop.flipdata = f) (hrefuse : MayRefuse s f s.queue.requests) :
    Separated (errorOut s f rest) := by
  unfold MayRefuse at hrefuse
  apply Returns.separated (errorOut_returns s f rest) hsep hstack hf
  · intro g hg x hx
    rw [errorOut_flag]
    exact hsep.calls g hg x hx
  · intro e he hef
    split at hrefuse
    case isTrue hunflip => rwa [hunflip]
    case isFalse => exact absurd hef (hrefuse e he)
  · rintro hn e (hold | ⟨he, hef⟩)
    · rcases errorOut_stack s f rest hn with hrest | hunflip
      · exact hsep.notifying (hstack ▸ List.mem_cons_of_mem _ hrest) e hold
      · rw [if_pos hunflip] at hrefuse
        intro hflip
        have hapart := hrefuse e hold.1 hold.2
        rw [hflip] at hapart
        cases hapart
    · intro hflip
      rw [hef] at hflip
      rw [if_neg (by rw [hflip]; decide)] at hrefuse
      exact hrefuse e he hef

/-- The call of a flip that was queued returns `TRUE`. -/
theorem taken_separated (hsep : Separated s) (hstack : s.stack = .doPageflip loop :: rest)
    (hf : loop.flipdata = f) (htake : MayTake s (s.flips f).owner) :
    Separated (flipReturned (leaveLoop s f rest) (s.flips f).owner true) := by
  obtain ⟨hunspoiled, houtside, hafter⟩ := htake
  apply Returns.separated (flipReturned_returns s f rest _ true) hsep hstack hf
  · intro g hg x hx
    rw [flipReturned_flag]
    -- The flag that is turned on is not one that a call on the stack was tested against.
    split
    case isTrue howner =>
        have hrival := houtside g hg
        rw [howner, hx] at hrival
        cases x <;> cases hrival
    case isFalse => exact hsep.calls g hg x hx
  · exact fun _ _ _ => hunspoiled
  · intro hn e he hflip
    have hin : .unflipNotify ∈ s.stack := by
      rw [hstack]
      apply List.mem_cons_of_mem
      cases howner : (s.flips f).owner with
      | dri2 =>
          rw [howner] at hn
          exact hn
      | present unflip =>
          rw [howner] at hn
          cases unflip <;> exact hn
    rcases he with hold | ⟨_, hef⟩
    · exact hsep.notifying hin e hold hflip
    · exact hafter (hef ▸ hflip) hin

theorem loopDone_separated (hinv : Inv s) (hsep : Separated s)
    (hstack : s.stack = .doPageflip loop :: rest) (hf : loop.flipdata = f)
    (hact : if ∃ e ∈ s.queue.requests, e.flipdata = f then MayTake s (s.flips f).owner
      else MayRefuse s f s.queue.requests) : Separated (loopDone s f rest) := by
  have hcount := hinv.count f
  rw [inCall_of_stack hstack, hf, List.count_cons_self] at hcount
  have hnone : f ∉ rest.filterMap Call.flip? := by
    have honce := hinv.once
    rw [inCall_of_stack hstack, hf] at honce
    exact honce.notMem
  rw [List.count_eq_zero.mpr hnone] at hcount
  unfold loopDone
  split at hact
  case isTrue hsome =>
      obtain ⟨e, he, hef⟩ := hsome
      have hpos : 0 < outstanding s f := List.countP_pos_iff.mpr ⟨e, he, by simpa using hef⟩
      rw [if_pos (by omega)]
      exact taken_separated hsep hstack hf hact
  case isFalse hnot =>
      have hzero : outstanding s f = 0 :=
        List.countP_eq_zero.mpr fun e he => by simpa using fun hef => hnot ⟨e, he, hef⟩
      rw [if_neg (by omega)]
      exact errorOut_separated hsep hstack hf hact

/-- A rejected call aborts its own entry first. -/
theorem crtcRejected_separated (hsep : Separated s) {k num : Nat} {nums : List Nat}
    (hstack : s.stack = .doPageflip ⟨f, nums, some (num, k)⟩ :: rest)
    (hrefuse : MayRefuse s f (s.queue.remove k).requests) :
    Separated (crtcRejected s f k rest) := by
  have hin : (msDrmAbortSeq s k).inCall = s.inCall := by
    unfold FlipScreen.inCall
    rw [msDrmAbortSeq_stack]
  apply errorOut_separated (msDrmAbortSeq_separated hsep k)
    ((msDrmAbortSeq_stack s k).trans hstack) rfl
  simp only [MayRefuse, Unspoiled, msDrmAbortSeq_queue, msDrmAbortSeq_owner, hin] at hrefuse ⊢
  split at hrefuse
  case isTrue hunflip =>
      rw [if_pos hunflip]
      exact fun e he => hrefuse e (Pending.mem_requests_of_remove he)
  case isFalse hother =>
      rw [if_neg hother]
      exact hrefuse

/-! ## A call goes on -/

theorem goOn_separated (hsep : Separated s) (hstack : s.stack = .doPageflip loop :: rest)
    (hf : loop.flipdata = f) (scanning : List (Nat × Nat)) (nums : List Nat) :
    Separated { s with scanning := scanning, stack := .doPageflip ⟨f, nums, none⟩ :: rest } := by
  have hin := inCall_of_stack hstack
  rw [hf] at hin
  refine hsep.quiet hin.symm (fun _ he => he) (fun _ => rfl) (fun hn => ?_) fun x hx => ?_
  · rw [hstack]
    rcases List.mem_cons.mp hn with heq | hrest
    · cases heq
    · exact List.mem_cons_of_mem _ hrest
  · cases x <;> exact hx

/-- The entry of a call in its loop is not settled. -/
theorem enter_separated (hsep : Separated s) (hstack : s.stack = .doPageflip loop :: rest)
    (hf : loop.flipdata = f) (num : Nat) (nums : List Nat) :
    Separated { enterFlip s num f with
      stack := .doPageflip ⟨f, nums, some (num, s.queue.next)⟩ :: rest } := by
  have hin := inCall_of_stack hstack
  rw [hf] at hin
  have howner : ∀ g, ((enterFlip s num f).flips g).owner = (s.flips g).owner := by
    intro g
    by_cases hg : g = f
    · subst hg
      simp [enterFlip]
    · simp [enterFlip, Function.update_of_ne hg]
  refine hsep.frame (fun g hg x hx => ?_) (fun e he => ?_) fun hn => ?_
  · have hoff := hsep.calls g (hin ▸ hg) x ((howner g).symm.trans hx)
    cases x <;> exact hoff
  · obtain ⟨hmem, hout⟩ := he
    have hout' : e.flipdata ∉ s.inCall := hin ▸ hout
    refine ⟨⟨?_, hout'⟩, howner _⟩
    rcases List.mem_cons.mp hmem with rfl | hmem
    · exact absurd (hin ▸ List.mem_cons_self) hout'
    · exact hmem
  · rw [hstack]
    rcases List.mem_cons.mp hn with heq | hrest
    · cases heq
    · exact List.mem_cons_of_mem _ hrest

end Calls

/-! ## A call starts -/

/-- `FALSE` before the loop. -/
theorem refused_separated (hsep : Separated s) (owner : FlipOwner)
    (hunflip : owner = .present true → Unspoiled s (.present true)) :
    Separated (flipReturned s owner false) := by
  cases owner with
  | dri2 => exact hsep
  | present unflip =>
      cases unflip with
      | false => exact hsep
      | true =>
          have hunspoiled := hunflip rfl
          refine ⟨hsep.calls, hsep.entries, fun _ e he hflip => ?_⟩
          have hapart := hunspoiled e he.1 he.2
          rw [show (s.flips e.flipdata).owner = .present false from hflip] at hapart
          cases hapart

/-- A flip whose owner's rival has its flag off may go into its loop. -/
theorem msDoPageflip_separated (hinv : Inv s) (hsep : Separated s) (crtcs : List Nat)
    (owner : FlipOwner) (setup : FlipSetup)
    (htest : ∀ x : Extension, owner = x.owner → flag s x.other = false)
    (hunflip : owner = .present true →
      (setup.gbmOk && setup.flipdataOk && setup.importOk) = false →
        Unspoiled s (.present true)) :
    Separated (msDoPageflip crtcs s owner setup) := by
  unfold msDoPageflip
  split
  case isTrue =>
      have hfresh : ∀ g ∈ s.inCall, g ≠ s.calls := fun g hg => Nat.ne_of_lt (hinv.calling g hg)
      refine hsep.frame (fun g hg x hx => ?_) (fun e he => ?_) fun hn => ?_
      · have hx : (Function.update s.flips s.calls ⟨owner, 1⟩ g).owner = x.owner := hx
        have hoff : flag s x.other = false := by
          rcases List.mem_cons.mp hg with heq | hg
          · have heq : g = s.calls := heq
            rw [heq, Function.update_self] at hx
            exact htest x hx
          · rw [Function.update_of_ne (hfresh g hg)] at hx
            exact hsep.calls g hg x hx
        cases x <;> exact hoff
      · obtain ⟨hmem, hout⟩ := he
        have hne : e.flipdata ≠ s.calls := Nat.ne_of_lt (hinv.fresh e hmem)
        refine ⟨⟨hmem, fun hin => hout (List.mem_cons_of_mem _ hin)⟩, ?_⟩
        exact congrArg Flipdata.owner (Function.update_of_ne hne _ _)
      · rcases List.mem_cons.mp hn with heq | hold
        · cases heq
        · exact hold
  case isFalse hsetup =>
      exact refused_separated hsep owner fun h => hunflip h (Bool.eq_false_iff.mpr hsetup)

/-- `can_flip` tests `present_flipping`. -/
theorem msDri2FrameEventHandler_separated (hinv : Inv s) (hsep : Separated s)
    (crtcs : List Nat) (others eventOk : Bool) (setup : FlipSetup) :
    Separated (msDri2FrameEventHandler crtcs s others eventOk setup) := by
  unfold msDri2FrameEventHandler msDri2ScheduleFlip
  split
  case isTrue hcan =>
      split
      · refine msDoPageflip_separated hinv hsep crtcs .dri2 setup (fun x hx => ?_) (fun h => ?_)
        · have hoff : s.presentFlipping = false := by
            simp only [canFlip, Bool.and_eq_true, Bool.not_eq_true'] at hcan
            exact hcan.1
          cases x with
          | dri2 => exact hoff
          | present => cases hx
        · cases h
      · exact hsep
  case isFalse => exact hsep

/-- `ms_present_check_unflip` tests `dri2_flipping`. -/
theorem msPresentFlip_separated (hinv : Inv s) (hsep : Separated s) (crtcs : List Nat)
    (sprites : Nat) (others eventOk : Bool) (setup : FlipSetup) :
    Separated (msPresentFlip crtcs s sprites others eventOk setup) := by
  unfold msPresentFlip
  split
  case isTrue => exact hsep
  case isFalse hcheck =>
      split
      · exact hsep
      · refine msDoPageflip_separated hinv hsep crtcs (.present false) setup (fun x hx => ?_)
          (fun h => ?_)
        · have hoff : s.dri2Flipping = false := by
            simp only [msPresentCheckFlip, msPresentCheckUnflip, Bool.not_eq_true',
              Bool.not_eq_false] at hcheck
            split at hcheck
            · cases hcheck
            · simp only [Bool.and_eq_true, Bool.not_eq_true'] at hcheck
              exact hcheck.1
          cases x with
          | dri2 => cases hx
          | present => exact hoff
        · cases h

theorem msPresentUnflip_separated (hinv : Inv s) (hsep : Separated s) (crtcs : List Nat)
    (others eventOk : Bool) (setup : FlipSetup)
    (hact : eventOk = true → (msPresentCheckUnflip s others &&
      (setup.gbmOk && setup.flipdataOk && setup.importOk)) = false →
        Unspoiled s (.present true)) :
    Separated (msPresentUnflip crtcs s others eventOk setup) := by
  unfold msPresentUnflip
  split
  case isTrue => exact hsep
  case isFalse hevent =>
      have hevent : eventOk = true := by simpa using hevent
      split
      case isTrue hcheck =>
          refine msDoPageflip_separated hinv hsep crtcs (.present true) setup (fun x hx => ?_)
            (fun _ hsetup => ?_)
          · cases x <;> cases hx
          · exact hact hevent (by rw [hcheck, hsetup]; rfl)
      case isFalse hcheck =>
          refine refused_separated hsep (.present true) fun _ => hact hevent ?_
          rw [Bool.eq_false_iff.mpr hcheck]
          rfl

/-! ## Every step -/

theorem dispatch_separated (hinv : Inv s) (hsep : Separated s) (crtcs : List Nat)
    {act : FlipAct} (hd : s.dispatching = true) (hact : Separate s act) :
    Separated (dispatch crtcs s act) := by
  cases act with
  | dri2FrameEvent others eventOk setup =>
      exact msDri2FrameEventHandler_separated hinv hsep crtcs others eventOk setup
  | presentFlip sprites others eventOk setup =>
      exact msPresentFlip_separated hinv hsep crtcs sprites others eventOk setup
  | presentUnflip others eventOk setup =>
      exact msPresentUnflip_separated hinv hsep crtcs others eventOk setup (hact hd)
  | event k => exact readEvent_separated hsep k
  | abortSeq k => exact msDrmAbortSeq_separated hsep k
  | abortScrn => exact abortAll_separated hsep s.queue.tokens
  | loop turn => exact hsep
  | accepted => exact hsep
  | rejected => exact hsep
  | notified => exact hsep
  | vblank num => exact hsep

theorem nextCrtc_separated (hinv : Inv s) (hsep : Separated s) {f : Nat} {nums : List Nat}
    {rest : List Call} (hstack : s.stack = .doPageflip ⟨f, nums, none⟩ :: rest)
    (turn : CrtcTurn) (hact : Separate s (.loop turn)) :
    Separated (nextCrtc s f rest turn nums) := by
  simp only [Separate, hstack] at hact
  cases nums with
  | nil => exact loopDone_separated hinv hsep hstack rfl hact
  | cons num nums =>
      cases turn with
      | off => exact goOn_separated hsep hstack rfl s.scanning nums
      | noCarrier => exact errorOut_separated hsep hstack rfl (hact (Or.inl rfl))
      | noQueue => exact errorOut_separated hsep hstack rfl (hact (Or.inr rfl))
      | queued => exact enter_separated hsep hstack rfl num nums

theorem unflipNotified_separated (hsep : Separated s) {rest : List Call}
    (hstack : s.stack = .unflipNotify :: rest) : Separated (unflipNotified s rest) := by
  refine hsep.quiet ?_ (fun _ he => he) (fun _ => rfl) (fun hn => ?_) fun x hx => ?_
  · simp only [FlipScreen.inCall, hstack]
    rfl
  · rw [hstack]
    exact List.mem_cons_of_mem _ hn
  · cases x with
    | dri2 => exact hx
    | present => cases hx

/-- A separate call keeps the flips apart. -/
theorem separated_step (crtcs : List Nat) (s : FlipScreen) (act : FlipAct) (hinv : Inv s)
    (hsep : Separated s) (hact : Separate s act) : Separated (step crtcs s act) := by
  have hdispatch : Separated (if s.dispatching then dispatch crtcs s act else s) := by
    split
    case isTrue hd => exact dispatch_separated hinv hsep crtcs hd hact
    case isFalse => exact hsep
  cases act with
  | loop turn =>
      simp only [step]
      split
      case h_1 f nums rest hstack => exact nextCrtc_separated hinv hsep hstack turn hact
      case h_2 => exact hsep
  | accepted =>
      simp only [step]
      split
      case h_1 f nums num k rest hstack =>
          unfold crtcAccepted
          split
          · exact hsep
          · exact goOn_separated hsep hstack rfl _ nums
      case h_2 => exact hsep
  | rejected =>
      simp only [step]
      split
      case h_1 f nums num k rest hstack =>
          simp only [Separate, hstack] at hact
          exact crtcRejected_separated hsep hstack hact
      case h_2 => exact hsep
  | notified =>
      simp only [step]
      split
      case h_1 rest hstack => exact unflipNotified_separated hsep hstack
      case h_2 => exact hsep
  | vblank num => exact ⟨hsep.calls, hsep.entries, hsep.notifying⟩
  | dri2FrameEvent others eventOk setup => exact hdispatch
  | presentFlip sprites others eventOk setup => exact hdispatch
  | presentUnflip others eventOk setup => exact hdispatch
  | event k => exact hdispatch
  | abortSeq k => exact hdispatch
  | abortScrn => exact hdispatch

/-! ## Runs -/

/-- The flags are held throughout a run of separate calls. -/
theorem flags_held (crtcs : List Nat) (acts : List FlipAct)
    (hacts : Guarded (step crtcs) Separate .start acts) :
    Always (step crtcs) FlagsHeld .start acts := by
  have hrun : Always (step crtcs) (fun s => Inv s ∧ FlagsHeld s ∧ Separated s) .start acts := by
    refine hacts.always ?_ ⟨inv_start, held_start, separated_start⟩
    rintro s act ⟨hinv, hheld, hsep⟩ hact
    exact ⟨inv_step crtcs s act hinv,
      (held_step_iff crtcs s act hinv hheld).mpr (admits_of_separate hinv hsep hact),
      separated_step crtcs s act hinv hsep hact⟩
  exact hrun.mono fun _ h => h.2.1

/-- **The flags follow the flips.** In a run of separate calls each flag is on while
an entry of a flip of its extension is outstanding, and they are not both on,
whenever no call is on the stack. -/
theorem flags_follow_flips (crtcs : List Nat) (acts : List FlipAct)
    (hacts : Guarded (step crtcs) Separate .start acts) :
    Always (step crtcs) (fun s => s.stack = [] → FlagsFollow s) .start acts :=
  (flags_held crtcs acts hacts).mono fun _ => FlagsHeld.follow

/-- Two CRTCs: a DRI2 flip that a Present flip is refused during and after whose
completion one is taken, then the unflip. -/
theorem flags_follow_flips_three :
    Always (step [0, 1]) (fun s => s.stack = [] → FlagsFollow s) .start
      [.dri2FrameEvent true true ⟨true, true, true⟩, .loop .queued, .accepted,
        .loop .queued, .accepted, .loop .off, .presentFlip 0 true true ⟨true, true, true⟩,
        .vblank 0, .event 0, .vblank 1, .event 1,
        .presentFlip 0 true true ⟨true, true, true⟩, .loop .queued, .accepted,
        .loop .queued, .accepted, .loop .off, .vblank 1, .event 3, .vblank 0, .event 2,
        .presentUnflip true true ⟨true, true, true⟩, .loop .queued, .accepted,
        .loop .off, .loop .off, .vblank 0, .event 4] :=
  flags_follow_flips [0, 1] _ (by decide +kernel)

/-- The kernel takes a DRI2 flip on the first CRTC and rejects it on the second:
`dri2_flipping` stays off and the first entry is outstanding. -/
theorem half_queued_flip_unflagged :
    ¬Always (step [0, 1]) (fun s => s.stack = [] → FlagsFollow s) .start
      [.dri2FrameEvent true true ⟨true, true, true⟩, .loop .queued, .accepted,
        .loop .queued, .rejected] := by
  intro h
  have hon := (h.last rfl).dri2 ⟨⟨0, 0⟩, by decide, by decide⟩
  exact absurd hon (by decide)

end LoongsonVideo.Driver.FlipSeparation
