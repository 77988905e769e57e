import LoongsonVideo.Driver.PageFlipLedger
import LoongsonVideo.Verified.History
import Mathlib.Algebra.BigOperators.Group.List.Basic

/-!
# Who is told about a page flip, and when

What the log says of one flip is summed up in a `FlipView`: how many entries
were queued and resolved for it, how often one of its two handlers was called,
and the last event of the reference CRTC.

`NotifyInv` connects the views with the state.  A flip with entries outstanding
has not been reported; one whose call has returned with entries outstanding is
reported once, in the step that resolves the last of them (`Timely`).

## Main result

* `accepted_flip_completes_once`: a flip for which `ms_do_pageflip` returned
  `TRUE` completes exactly once.
-/

namespace LoongsonVideo.Driver.PageFlipNotify

open LoongsonVideo.Driver.PageFlip
open LoongsonVideo.Driver.PageFlipRun
open LoongsonVideo.Driver.PageFlipLedger
open LoongsonVideo.Verified
open LoongsonVideo.Verified.Ledger
open LoongsonVideo.Verified.Machine
open LoongsonVideo.Verified.History

variable {ε σ : Type*}

/-! ## What the log says of a flip -/

/-- `opened`: allocations of the flip's data; `queued`, `resolved`: its entries;
`notified`: calls of its handlers; `reference`, `lastReference`: the events of
the reference CRTC. -/
structure FlipView where
  opened : Nat
  queued : Nat
  resolved : Nat
  notified : Nat
  reference : Nat
  lastReference : Option (UInt64 × UInt64)

def FlipView.zero : FlipView := ⟨0, 0, 0, 0, 0, none⟩

/-- One more line about the flip. -/
def FlipView.add (f : Nat) (v : FlipView) : FlipLine → FlipView
  | .act (.acquire (.flipdata g)) => if g = f then { v with opened := v.opened + 1 } else v
  | .queued g _ _ => if g = f then { v with queued := v.queued + 1 } else v
  | .completed g _ onReference msc usec =>
      if g = f then
        if onReference then
          { v with
            resolved := v.resolved + 1
            reference := v.reference + 1
            lastReference := some (msc, usec) }
        else { v with resolved := v.resolved + 1 }
      else v
  | .aborted g _ _ _ => if g = f then { v with resolved := v.resolved + 1 } else v
  | .eventHandler g _ _ => if g = f then { v with notified := v.notified + 1 } else v
  | .abortHandler g => if g = f then { v with notified := v.notified + 1 } else v
  | _ => v

/-- What the log says of flip `f`. -/
def view (f : Nat) : List FlipLine → FlipView
  | [] => .zero
  | line :: log => (view f log).add f line

theorem view_opened (f : Nat) (log : List FlipLine) :
    (view f log).opened = acquires (ledger log) (.flipdata f) := by
  induction log with
  | nil => rfl
  | cons line log ih =>
      rw [ledger_cons, acquires, List.count_append, view]
      rw [acquires] at ih
      cases line with
      | act a =>
          cases a with
          | acquire r =>
              cases r <;> simp [FlipView.add, FlipLine.acts, ih]
              split <;> simp_all [Nat.add_comm]
          | _ => simp [FlipView.add, FlipLine.acts, ih]
      | completed g k onReference msc usec =>
          simp only [FlipView.add, FlipLine.acts, List.count_nil, Nat.zero_add, ← ih]
          split <;> [split; skip] <;> rfl
      | _ =>
          simp only [FlipView.add, FlipLine.acts, List.count_nil, Nat.zero_add, ← ih]
          try split <;> rfl

/-- The flip's data is there, all its entries have been resolved, the last one
just now, nobody has been told yet. -/
structure AtLast (f : Nat) (past : List FlipLine) : Prop where
  resolved : (view f past).queued = (view f past).resolved
  silent : (view f past).notified = 0
  alive : .flipdata f ∈ held (ledger past)

/-- When a line about a flip may be written. -/
def Timely : FlipLine → List FlipLine → Prop
  | .queued f _ _, past => (view f past).notified = 0
  | .eventHandler f msc usec, past =>
      AtLast f past ∧
        (∃ k r m u rest, past = .act (.touch (.flipdata f)) :: .act (.touch (.carrier k)) ::
          .completed f k r m u :: rest) ∧
        ∀ p, (view f past).lastReference = some p → p = (msc, usec)
  | .abortHandler f, past =>
      AtLast f past ∧
        ∃ k r n rest, past = .act (.touch (.flipdata f)) :: .act (.touch (.carrier k)) ::
          .aborted f k r n :: rest
  | _, _ => True

/-! ## The invariant -/

/-- Calls in their loop that queue flip `f`. -/
def inCall (m : Stacked ε σ) (f : Nat) : Nat := m.frames.countP fun frame => frame.f == f

/-- Entries of flip `f` on the reference CRTC: those in the queue, and those
its call may still queue. -/
def referenceLeft (m : Stacked ε σ) (f : Nat) : Nat :=
  (m.st.queue.requests.countP fun c => c.flipdata == f && c.onReferenceCrtc) +
    (m.frames.map fun frame =>
      if frame.f = f then
        frame.nums.countP fun num =>
          drmmodeCrtcVblankPipe num == UInt32.ofInt frame.refCrtcVblankPipe
      else 0).sum

/-- What a call of `ms_do_pageflip` that has returned, with `left` entries
outstanding, leaves behind. -/
structure Settled (m : Stacked ε σ) (f : Nat) (ok : Bool) (left : Nat) : Prop where
  lt : f < m.st.calls
  ended : inCall m f = 0
  okLeft : ok = true → 0 < left
  silent : left = 0 → refs m f = 0 ∧ (view f m.st.log).notified = 0
  once : 0 < left → (view f m.st.log).opened = 1 ∧ 0 < (view f m.st.log).queued ∧
    (view f m.st.log).notified = if m.st.outstanding f = 0 then 1 else 0

structure NotifyInv (m : Stacked ε σ) : Prop where
  inv : ∃ live leaked, Inv live leaked m
  trace : ∀ f, (view f m.st.log).queued = (view f m.st.log).resolved + m.st.outstanding f
  fresh : ∀ f, m.st.calls ≤ f → view f m.st.log = .zero
  opened : ∀ f, (view f m.st.log).opened ≤ 1
  notYet : ∀ f, 0 < m.st.outstanding f + inCall m f → (view f m.st.log).notified = 0
  reported : ∀ f, 0 < refs m f → ∀ p, (view f m.st.log).lastReference = some p →
    p = ((m.st.flips f).feMsc, (m.st.flips f).feUsec)
  reference : ∀ f, (view f m.st.log).reference + referenceLeft m f ≤ 1
  returned : ∀ f ok left, .returned f ok left ∈ m.st.log → Settled m f ok left
  justified : Justified Timely m.st.log

theorem notifyInv_start (fbId : Nat) (flips : Nat → Flipdata ε) (c : σ) :
    NotifyInv ⟨[], [], FlipState.start fbId flips c⟩ := by
  have hview : ∀ f, view f (FlipState.start fbId flips c).log = .zero := fun f => rfl
  refine ⟨⟨0, 0, inv_start fbId flips c⟩, fun f => ?_, fun f _ => hview f, fun f => ?_,
    fun f _ => ?_, fun f _ p hp => ?_, fun f => ?_, fun f ok left hmem => ?_, ⟨trivial, trivial⟩⟩
  · rw [hview]
    rfl
  · rw [hview]
    exact Nat.zero_le 1
  · rw [hview]
    rfl
  · rw [hview] at hp
    cases hp
  · rw [hview]
    exact Nat.zero_le 1
  · simp [FlipState.start] at hmem

section Moves

variable {m m' : Stacked ε σ} {frames : List Frame} {running : List (Nat × Carrier)}
  {s s' : FlipState ε σ}

theorem refs_eq (m : Stacked ε σ) (f : Nat) :
    refs m f = m.st.outstanding f + m.running.countP (fun r => r.2.flipdata == f) + inCall m f :=
  rfl

/-- A call that has not been made has nothing in the queue. -/
theorem outstanding_fresh {live leaked : Multiset Nat} (h : Inv live leaked m) {f : Nat}
    (hf : m.st.calls ≤ f) : m.st.outstanding f = 0 := by
  have hzero := h.fresh f hf
  rw [refs_eq] at hzero
  omega

/-- A flip is queued by one call only, and while it is, none of its handlers
runs. -/
theorem refs_of_frame {live leaked : Multiset Nat} {frame : Frame}
    (h : Inv live leaked ⟨frame :: frames, running, s⟩) :
    inCall ⟨frames, running, s⟩ frame.f = 0 ∧
      refs ⟨frame :: frames, running, s⟩ frame.f = s.outstanding frame.f + 1 := by
  have hnodup := h.owns.nodup
  simp only [owned, Multiset.nodup_add, ← Multiset.cons_coe, Multiset.map_cons,
    Multiset.nodup_cons] at hnodup
  have hnot : ∀ fr ∈ frames, fr.f ≠ frame.f := by
    intro fr hfr e
    refine hnodup.1.1.2.1.1 (Multiset.mem_map.mpr ⟨fr, ?_, by rw [e]⟩)
    exact Multiset.mem_coe.mpr hfr
  have hcall : inCall (⟨frames, running, s⟩ : Stacked ε σ) frame.f = 0 := by
    refine List.countP_eq_zero.mpr fun fr hfr => ?_
    simpa using hnot fr hfr
  have hframe : inCall (⟨frame :: frames, running, s⟩ : Stacked ε σ) frame.f = 1 := by
    simp only [inCall] at hcall ⊢
    rw [List.countP_cons, hcall]
    simp
  have hrunning : running.countP (fun r => r.2.flipdata == frame.f) = 0 := by
    refine List.countP_eq_zero.mpr fun r hr hrf => ?_
    have hone := h.sole r hr
    have hpos : 0 < running.countP (fun r => r.2.flipdata == frame.f) :=
      List.countP_pos_iff.mpr ⟨r, hr, hrf⟩
    simp only [beq_iff_eq] at hrf
    rw [hrf, refs_eq, hframe] at hone
    change s.outstanding frame.f + running.countP (fun r => r.2.flipdata == frame.f) + 1 = 1 at hone
    omega
  refine ⟨hcall, ?_⟩
  rw [refs_eq, hframe]
  change s.outstanding frame.f + running.countP (fun r => r.2.flipdata == frame.f) + 1 = _
  rw [hrunning]

/-- A step that leaves a flip's view and its queue entries alone. -/
theorem Settled.frame {f left : Nat} {ok : Bool} (h : Settled m f ok left)
    (hcalls : m.st.calls ≤ m'.st.calls) (hcall : inCall m' f ≤ inCall m f)
    (hview : view f m'.st.log = view f m.st.log)
    (hout : m'.st.outstanding f = m.st.outstanding f) (hrefs : refs m' f ≤ refs m f) :
    Settled m' f ok left where
  lt := Nat.lt_of_lt_of_le h.lt hcalls
  ended := Nat.eq_zero_of_le_zero (h.ended ▸ hcall)
  okLeft := h.okLeft
  silent := fun hleft => by
    obtain ⟨hzero, hsilent⟩ := h.silent hleft
    rw [hview]
    exact ⟨Nat.eq_zero_of_le_zero (hzero ▸ hrefs), hsilent⟩
  once := fun hleft => by
    rw [hview, hout]
    exact h.once hleft

/-- Moves that resolve no entry and queue none: a call begins, goes on or
returns, a handler returns. -/
theorem NotifyInv.quiet (h : NotifyInv m) (hinv : ∃ live leaked, Inv live leaked m')
    (hqueue : m'.st.queue = m.st.queue) (hcalls : m.st.calls ≤ m'.st.calls)
    (hview : ∀ f, f < m.st.calls → view f m'.st.log = view f m.st.log)
    (hnew : ∀ f, m.st.calls ≤ f → view f m'.st.log = .zero ∨
      f < m'.st.calls ∧ view f m'.st.log = { FlipView.zero with opened := 1 })
    (hcall : ∀ f, f < m.st.calls → inCall m' f ≤ inCall m f)
    (hrefs : ∀ f, f < m.st.calls → refs m' f ≤ refs m f)
    (hflips : ∀ f, f < m.st.calls → 0 < refs m' f →
      (m'.st.flips f).feMsc = (m.st.flips f).feMsc ∧
        (m'.st.flips f).feUsec = (m.st.flips f).feUsec)
    (hreference : ∀ f, f < m.st.calls → referenceLeft m' f ≤ referenceLeft m f)
    (hreferenceNew : ∀ f, m.st.calls ≤ f → referenceLeft m' f ≤ 1)
    (hreturned : ∀ f ok left, .returned f ok left ∈ m'.st.log →
      .returned f ok left ∈ m.st.log ∨ Settled m' f ok left)
    (hjustified : Justified Timely m'.st.log) : NotifyInv m' := by
  obtain ⟨live, leaked, hold⟩ := h.inv
  have hout : ∀ f, m'.st.outstanding f = m.st.outstanding f := by
    intro f
    simp only [FlipState.outstanding, hqueue]
  have hnone : ∀ f, m.st.calls ≤ f → m.st.outstanding f = 0 := fun f => outstanding_fresh hold
  refine ⟨hinv, fun f => ?_, fun f hf => ?_, fun f => ?_, fun f hf => ?_, fun f hf p hp => ?_,
    fun f => ?_, fun f ok left hmem => ?_, hjustified⟩
  · rw [hout]
    by_cases hlt : f < m.st.calls
    · rw [hview f hlt]
      exact h.trace f
    · rw [hnone f (Nat.le_of_not_lt hlt)]
      rcases hnew f (Nat.le_of_not_lt hlt) with hv | ⟨-, hv⟩ <;> simp [hv, FlipView.zero]
  · rcases hnew f (Nat.le_trans hcalls hf) with hv | ⟨hlt, -⟩
    · exact hv
    · exact absurd hlt (Nat.not_lt.mpr hf)
  · by_cases hlt : f < m.st.calls
    · rw [hview f hlt]
      exact h.opened f
    · rcases hnew f (Nat.le_of_not_lt hlt) with hv | ⟨-, hv⟩ <;> simp [hv, FlipView.zero]
  · by_cases hlt : f < m.st.calls
    · rw [hview f hlt]
      rw [hout] at hf
      have hle := hcall f hlt
      exact h.notYet f (by omega)
    · rcases hnew f (Nat.le_of_not_lt hlt) with hv | ⟨-, hv⟩ <;> simp [hv, FlipView.zero]
  · by_cases hlt : f < m.st.calls
    · rw [hview f hlt] at hp
      obtain ⟨hmsc, husec⟩ := hflips f hlt hf
      rw [hmsc, husec]
      exact h.reported f (Nat.lt_of_lt_of_le hf (hrefs f hlt)) p hp
    · rcases hnew f (Nat.le_of_not_lt hlt) with hv | ⟨-, hv⟩ <;> simp [hv, FlipView.zero] at hp
  · by_cases hlt : f < m.st.calls
    · rw [hview f hlt]
      exact Nat.le_trans (Nat.add_le_add_left (hreference f hlt) _) (h.reference f)
    · have hle := hreferenceNew f (Nat.le_of_not_lt hlt)
      rcases hnew f (Nat.le_of_not_lt hlt) with hv | ⟨-, hv⟩ <;> simpa [hv, FlipView.zero] using hle
  · rcases hreturned f ok left hmem with hold' | hsettled
    · have hs := h.returned f ok left hold'
      exact hs.frame hcalls (hcall f hs.lt) (hview f hs.lt) (hout f) (hrefs f hs.lt)
    · exact hsettled

/-- A queue entry or a frame of a flip that has no number yet does not exist. -/
theorem NotifyInv.referenceLeft_fresh (h : NotifyInv m) {f : Nat} (hf : m.st.calls ≤ f) :
    referenceLeft m f = 0 := by
  obtain ⟨live, leaked, hold⟩ := h.inv
  have hzero := hold.fresh f hf
  have hqueue : m.st.queue.requests.countP (fun c => c.flipdata == f && c.onReferenceCrtc) = 0 := by
    refine Nat.eq_zero_of_le_zero (Nat.le_trans (List.countP_mono_left
      (q := fun c => c.flipdata == f) fun c _ hc => ?_) (Nat.le_of_eq (m := 0) ?_))
    · exact (Bool.and_eq_true_iff.mp hc).1
    · simp only [refs, FlipState.outstanding] at hzero
      omega
  have hframes : ∀ frame ∈ m.frames, frame.f ≠ f := by
    intro frame hmem e
    have hpos : 0 < refs m frame.f := refs_pos_of_frame hmem
    rw [e] at hpos
    omega
  rw [referenceLeft, hqueue, Nat.zero_add]
  refine List.sum_eq_zero fun x hx => ?_
  obtain ⟨frame, hmem, rfl⟩ := List.mem_map.mp hx
  rw [if_neg (hframes frame hmem)]

theorem NotifyInv.lt_calls (h : NotifyInv m) {f : Nat} (hpos : 0 < refs m f) : f < m.st.calls := by
  obtain ⟨live, leaked, hold⟩ := h.inv
  by_contra hnot
  have hzero := hold.fresh f (Nat.le_of_not_lt hnot)
  omega

theorem NotifyInv.opened_eq_one (h : NotifyInv m) {f : Nat} (hpos : 0 < refs m f) :
    (view f m.st.log).opened = 1 := by
  obtain ⟨live, leaked, hold⟩ := h.inv
  have hheld : .flipdata f ∈ held (ledger m.st.log) := by
    rw [hold.owns.mem_held, flipdata_mem_owned, hold.liveIff]
    exact hpos
  have hacq := hold.owns.lawful.acquires_pos hheld
  have hle := h.opened f
  rw [view_opened] at hle ⊢
  omega

/-- A call fails before its loop. -/
theorem NotifyInv.early (h : NotifyInv ⟨frames, running, s⟩)
    (hinv : ∃ live leaked, Inv live leaked ⟨frames, running, s'⟩) (hqueue : s'.queue = s.queue)
    (hcalls : s'.calls = s.calls + 1) (hflips : ∀ f, f ≠ s.calls → s'.flips f = s.flips f)
    (hview : ∀ f, f ≠ s.calls → view f s'.log = view f s.log)
    (hviewNew : view s.calls s'.log = .zero ∨
      view s.calls s'.log = { FlipView.zero with opened := 1 })
    (hreturned : ∀ f ok left, .returned f ok left ∈ s'.log →
      .returned f ok left ∈ s.log ∨ f = s.calls ∧ ok = false ∧ left = 0)
    (hjustified : Justified Timely s'.log) : NotifyInv ⟨frames, running, s'⟩ := by
  obtain ⟨live, leaked, hold⟩ := h.inv
  have hrefs : ∀ f, refs ⟨frames, running, s'⟩ f = refs ⟨frames, running, s⟩ f := by
    intro f
    simp only [refs, FlipState.outstanding, hqueue]
  have hleft : ∀ f, referenceLeft ⟨frames, running, s'⟩ f =
      referenceLeft ⟨frames, running, s⟩ f := by
    intro f
    simp only [referenceLeft, hqueue]
  refine h.quiet hinv hqueue (by simp only [hcalls]; omega) (fun f hf => hview f (Nat.ne_of_lt hf))
    (fun f hf => ?_) (fun f _ => Nat.le_refl _) (fun f _ => Nat.le_of_eq (hrefs f))
    (fun f hf _ => ?_) (fun f _ => Nat.le_of_eq (hleft f)) (fun f hf => ?_)
    (fun f ok left hmem => ?_) hjustified
  · by_cases he : f = s.calls
    · subst he
      exact hviewNew.imp_right fun hv => ⟨by simp only [hcalls]; omega, hv⟩
    · exact Or.inl ((hview f he).trans (h.fresh f hf))
  · simp only [hflips f (Nat.ne_of_lt hf), and_self]
  · rw [hleft, h.referenceLeft_fresh hf]
    exact Nat.zero_le 1
  · refine (hreturned f ok left hmem).imp_right ?_
    rintro ⟨rfl, rfl, rfl⟩
    have hzero : refs ⟨frames, running, s'⟩ s.calls = 0 :=
      (hrefs _).trans (hold.fresh _ (Nat.le_refl _))
    refine ⟨?_, ?_, ?_, fun _ => ⟨hzero, ?_⟩, fun hl => ?_⟩
    · simp only [hcalls]
      omega
    · rw [refs_eq] at hzero
      omega
    · intro e
      cases e
    · rcases hviewNew with hv | hv <;> simp [hv, FlipView.zero]
    · omega

theorem vblankPipe_injOn {a b : Nat} (ha : a < 32) (hb : b < 32)
    (h : drmmodeCrtcVblankPipe a = drmmodeCrtcVblankPipe b) : a = b := by
  have hall : ∀ a < 32, ∀ b < 32, drmmodeCrtcVblankPipe a = drmmodeCrtcVblankPipe b → a = b := by
    decide
  exact hall a ha b hb h

/-- At most one CRTC of the screen is on the reference pipe. -/
theorem CrtcConfig.reference_le_one (config : CrtcConfig) (pipe : UInt32) :
    config.nums.countP (fun num => drmmodeCrtcVblankPipe num == pipe) ≤ 1 := by
  have hlt := config.lt
  have hnodup := config.nodup
  generalize config.nums = nums at hlt hnodup
  induction nums with
  | nil => exact Nat.zero_le 1
  | cons num nums ih =>
      obtain ⟨hnot, hrest⟩ := List.nodup_cons.mp hnodup
      rw [List.countP_cons]
      by_cases hpipe : drmmodeCrtcVblankPipe num = pipe
      · have hnone : nums.countP (fun num => drmmodeCrtcVblankPipe num == pipe) = 0 := by
          refine List.countP_eq_zero.mpr fun n hn heq => ?_
          rw [beq_iff_eq] at heq
          have hsame := vblankPipe_injOn (hlt n (List.mem_cons_of_mem num hn))
            (hlt num List.mem_cons_self) (heq.trans hpipe.symm)
          exact hnot (hsame ▸ hn)
        rw [hnone]
        split <;> omega
      · have hle := ih (fun n hn => hlt n (List.mem_cons_of_mem num hn)) hrest
        simpa [hpipe] using hle

theorem NotifyInv.start (kernel : FbKernel) (config : CrtcConfig) (event : ε) (ref : Int)
    (h : NotifyInv ⟨frames, running, s⟩) :
    NotifyInv ⟨⟨s.calls, config.nums, ref⟩ :: frames, running,
      drmmodeBoImport kernel (openFlip (gotNewFront s) s.calls event)⟩ := by
  obtain ⟨live, leaked, hold⟩ := h.inv
  have hne : ∀ f, f < s.calls → s.calls ≠ f := fun f hf e => Nat.ne_of_lt hf e.symm
  refine h.quiet ⟨_, _, hold.start kernel event config.nums ref⟩ rfl (Nat.le_succ _)
    (fun f hf => ?_) (fun f hf => ?_) (fun f hf => ?_) (fun f hf => ?_) (fun f hf _ => ?_)
    (fun f hf => ?_) (fun f hf => ?_) (fun f ok left hmem => ?_)
    ⟨trivial, trivial, trivial, h.justified⟩
  · change (if s.calls = f then _ else view f s.log) = _
    rw [if_neg (hne f hf)]
  · change (if s.calls = f then _ else view f s.log) = _ ∨ _ ∧ (if s.calls = f then _ else _) = _
    by_cases he : s.calls = f
    · right
      rw [if_pos he]
      have hv := h.fresh f hf
      change view f s.log = _ at hv
      change f < s.calls + 1 ∧ { view f s.log with opened := (view f s.log).opened + 1 } = _
      rw [hv]
      exact ⟨by omega, rfl⟩
    · left
      rw [if_neg he]
      exact h.fresh f hf
  · simp [inCall, hne f hf]
  · simp only [refs, List.countP_cons, beq_iff_eq, hne f hf, if_false, Nat.add_zero]
    exact Nat.le_refl _
  · have hold := Function.update_of_ne (Nat.ne_of_lt hf) (⟨event, 1, 0, 0, s.fbId⟩ : Flipdata ε)
      s.flips
    exact ⟨congrArg Flipdata.feMsc hold, congrArg Flipdata.feUsec hold⟩
  · simp only [referenceLeft, List.map_cons, List.sum_cons, hne f hf, if_false, Nat.zero_add]
    exact Nat.le_refl _
  · have hzero := h.referenceLeft_fresh hf
    have hle := CrtcConfig.reference_le_one config (UInt32.ofInt ref)
    simp only [referenceLeft, List.map_cons, List.sum_cons] at hzero ⊢
    change s.queue.requests.countP _ + _ ≤ 1
    split <;> omega
  · left
    simpa [drmmodeBoImport, openFlip, gotNewFront, FlipState.setFlip, FlipState.act,
      FlipState.emit] using hmem

theorem NotifyInv.gbmFails (h : NotifyInv ⟨frames, running, s⟩) :
    NotifyInv
      ⟨frames, running, (returnToCaller { s with calls := s.calls + 1 } s.calls false).1⟩ := by
  obtain ⟨live, leaked, hold⟩ := h.inv
  have hout : s.outstanding s.calls = 0 := outstanding_fresh hold (Nat.le_refl _)
  refine h.early ⟨_, _, hold.gbmFails⟩ rfl rfl (fun _ _ => rfl) (fun _ _ => rfl)
    (Or.inl (h.fresh _ (Nat.le_refl _))) (fun f ok left hmem => ?_) ⟨trivial, h.justified⟩
  refine (List.mem_cons.mp hmem).symm.imp_right fun e => ?_
  cases e
  exact ⟨rfl, rfl, hout⟩

theorem NotifyInv.flipdataFails (h : NotifyInv ⟨frames, running, s⟩) :
    NotifyInv ⟨frames, running,
      (returnToCaller (drmmodeBoDestroy (gotNewFront s) s.calls true) s.calls false).1⟩ := by
  obtain ⟨live, leaked, hold⟩ := h.inv
  have hout : s.outstanding s.calls = 0 := outstanding_fresh hold (Nat.le_refl _)
  refine h.early ⟨_, _, hold.flipdataFails⟩ rfl rfl (fun _ _ => rfl) (fun _ _ => rfl)
    (Or.inl (h.fresh _ (Nat.le_refl _))) (fun f ok left hmem => ?_)
    ⟨trivial, trivial, trivial, h.justified⟩
  simp only [returnToCaller, drmmodeBoDestroy, gotNewFront, FlipState.act, FlipState.emit,
    if_true, List.mem_cons, FlipLine.returned.injEq, reduceCtorEq, false_or] at hmem
  refine hmem.symm.imp_right ?_
  rintro ⟨rfl, rfl, rfl⟩
  exact ⟨rfl, rfl, hout⟩

theorem NotifyInv.importFails (h : NotifyInv ⟨frames, running, s⟩) (event : ε) :
    NotifyInv
      ⟨frames, running, (errorOut (openFlip (gotNewFront s) s.calls event) s.calls true).1⟩ := by
  obtain ⟨live, leaked, hold⟩ := h.inv
  have hinv := hold.importFails event
  have hout : s.outstanding s.calls = 0 := outstanding_fresh hold (Nat.le_refl _)
  have hcount : ((openFlip (gotNewFront s) s.calls event).flips s.calls).flipCount = 1 := by
    simp [openFlip, FlipState.setFlip]
  rw [errorOut_last _ _ _ hcount] at hinv ⊢
  refine h.early ⟨_, _, hinv⟩ rfl rfl (fun f hne => Function.update_of_ne hne _ _)
    (fun f hne => ?_) (Or.inr ?_) (fun f ok left hmem => ?_)
    ⟨trivial, trivial, trivial, trivial, trivial, h.justified⟩
  · change (if s.calls = f then _ else view f s.log) = _
    rw [if_neg fun e => hne e.symm]
  · change (if s.calls = s.calls then
      { view s.calls s.log with opened := (view s.calls s.log).opened + 1 } else _) = _
    rw [if_pos rfl, h.fresh _ (Nat.le_refl _)]
    rfl
  · simp only [drmmodeBoDestroy, openFlip, gotNewFront, FlipState.setFlip, FlipState.act,
      FlipState.emit, if_true, List.mem_cons, FlipLine.returned.injEq, reduceCtorEq,
      false_or] at hmem
    refine hmem.symm.imp_right ?_
    rintro ⟨rfl, rfl, rfl⟩
    exact ⟨rfl, rfl, hout⟩

theorem NotifyInv.skip {f num : Nat} {nums : List Nat} {ref : Int}
    (h : NotifyInv ⟨⟨f, num :: nums, ref⟩ :: frames, running, s⟩) :
    NotifyInv ⟨⟨f, nums, ref⟩ :: frames, running, s⟩ := by
  obtain ⟨live, leaked, hold⟩ := h.inv
  have hleft : ∀ g, referenceLeft ⟨⟨f, nums, ref⟩ :: frames, running, s⟩ g ≤
      referenceLeft ⟨⟨f, num :: nums, ref⟩ :: frames, running, s⟩ g := by
    intro g
    simp only [referenceLeft, List.map_cons, List.sum_cons, List.countP_cons]
    split <;> omega
  refine h.quiet ⟨_, _, hold.skip⟩ rfl (Nat.le_refl _) (fun _ _ => rfl)
    (fun g hg => Or.inl (h.fresh g hg)) (fun _ _ => Nat.le_refl _) (fun _ _ => Nat.le_refl _)
    (fun _ _ _ => ⟨rfl, rfl⟩) (fun g _ => hleft g) (fun g hg => ?_)
    (fun _ _ _ hmem => Or.inl hmem) h.justified
  exact Nat.le_trans (hleft g) (Nat.le_trans (Nat.le_of_eq (h.referenceLeft_fresh hg)) (by omega))

theorem NotifyInv.carrierOnly (h : NotifyInv ⟨frames, running, s⟩) :
    NotifyInv ⟨frames, running,
      (s.act (.acquire (.carrier s.queue.next))).act (.release (.carrier s.queue.next))⟩ := by
  obtain ⟨live, leaked, hold⟩ := h.inv
  refine h.quiet ⟨_, _, hold.carrierOnly⟩ rfl (Nat.le_refl _) (fun _ _ => rfl)
    (fun g hg => Or.inl (h.fresh g hg)) (fun _ _ => Nat.le_refl _) (fun _ _ => Nat.le_refl _)
    (fun _ _ _ => ⟨rfl, rfl⟩) (fun _ _ => Nat.le_refl _) (fun g hg => ?_)
    (fun f ok left hmem => ?_) ⟨trivial, trivial, h.justified⟩
  · exact Nat.le_trans (Nat.le_of_eq (h.referenceLeft_fresh hg)) (by omega)
  · left
    simpa [FlipState.act, FlipState.emit] using hmem

section Return

variable {f : Nat} {nums : List Nat} {ref : Int}

/-- A call returns from its loop. -/
theorem NotifyInv.returns (h : NotifyInv ⟨⟨f, nums, ref⟩ :: frames, running, s⟩)
    (hinv : ∃ live leaked, Inv live leaked ⟨frames, running, s'⟩) (hqueue : s'.queue = s.queue)
    (hcalls : s'.calls = s.calls) (hview : ∀ g, view g s'.log = view g s.log)
    (hflips : ∀ g, (s'.flips g).feMsc = (s.flips g).feMsc ∧
      (s'.flips g).feUsec = (s.flips g).feUsec)
    (ok : Bool) (hok : ok = true → 0 < s.outstanding f)
    (hreturned : ∀ g ok' left, .returned g ok' left ∈ s'.log →
      .returned g ok' left ∈ s.log ∨ g = f ∧ ok' = ok ∧ left = s.outstanding f)
    (hjustified : Justified Timely s'.log) : NotifyInv ⟨frames, running, s'⟩ := by
  obtain ⟨live, leaked, hold⟩ := h.inv
  obtain ⟨hended, hrefsF⟩ := refs_of_frame hold
  have hrefs : ∀ g, refs ⟨⟨f, nums, ref⟩ :: frames, running, s⟩ g =
      refs ⟨frames, running, s'⟩ g + if g = f then 1 else 0 := fun g => refs_pop g hqueue
  have hlt : f < s.calls := h.lt_calls (by rw [hrefsF]; omega)
  have hleft : ∀ g, referenceLeft ⟨frames, running, s'⟩ g ≤
      referenceLeft ⟨⟨f, nums, ref⟩ :: frames, running, s⟩ g := by
    intro g
    simp only [referenceLeft, List.map_cons, List.sum_cons, hqueue]
    omega
  refine h.quiet hinv hqueue (Nat.le_of_eq hcalls.symm) (fun g _ => hview g)
    (fun g hg => Or.inl ((hview g).trans (h.fresh g hg))) (fun g _ => ?_) (fun g _ => ?_)
    (fun g _ _ => hflips g) (fun g _ => hleft g) (fun g hg => ?_) (fun g ok' left hmem => ?_)
    hjustified
  · simp only [inCall, List.countP_cons]
    omega
  · rw [hrefs]
    omega
  · exact Nat.le_trans (hleft g) (Nat.le_trans (Nat.le_of_eq (h.referenceLeft_fresh hg)) (by omega))
  · refine (hreturned g ok' left hmem).imp_right ?_
    rintro ⟨rfl, rfl, rfl⟩
    have hsilent : (view g s.log).notified = 0 := by
      refine h.notYet g ?_
      simp only [inCall, List.countP_cons, beq_self_eq_true, if_true]
      omega
    have hopened := h.opened_eq_one (f := g) (by rw [hrefsF]; omega)
    have hrefsG := hrefs g
    rw [hrefsF, if_pos rfl] at hrefsG
    refine ⟨?_, hended, hok, fun hl => ?_, fun hl => ?_⟩
    · simp only [hcalls]
      exact hlt
    · change _ ∧ (view g s'.log).notified = 0
      rw [hview]
      change s.outstanding g + 1 = _ at hrefsG
      exact ⟨by omega, hsilent⟩
    · have hout : s'.outstanding g = s.outstanding g := by
        simp only [FlipState.outstanding, hqueue]
      have htrace := h.trace g
      change (view g s.log).queued = (view g s.log).resolved + s.outstanding g at htrace
      change (view g s'.log).opened = 1 ∧ 0 < (view g s'.log).queued ∧
        (view g s'.log).notified = if s'.outstanding g = 0 then 1 else 0
      rw [hview, hout, if_neg (Nat.pos_iff_ne_zero.mp hl)]
      exact ⟨hopened, by omega, hsilent⟩

theorem NotifyInv.accepted (h : NotifyInv ⟨⟨f, nums, ref⟩ :: frames, running, s⟩)
    (hcount : 1 < (s.flips f).flipCount) :
    NotifyInv ⟨frames, running,
      (returnToCaller (dropLocal (drmmodeBoDestroy s f true) f) f true).1⟩ := by
  obtain ⟨live, leaked, hold⟩ := h.inv
  obtain ⟨-, hrefsF⟩ := refs_of_frame hold
  have hout : 0 < s.outstanding f := by
    have hc := hold.count f (by rw [hrefsF]; omega)
    change (s.flips f).flipCount = _ at hc
    rw [hrefsF] at hc
    change _ = ((s.outstanding f + 1 : Nat) : Int) at hc
    omega
  refine h.returns ⟨_, _, hold.accepted hcount⟩ rfl rfl (fun _ => rfl) (fun g => ?_) true
    (fun _ => hout) (fun g ok' left hmem => ?_) ⟨trivial, trivial, trivial, h.justified⟩
  · by_cases hg : g = f
    · subst hg
      simp [returnToCaller, FlipState.emit]
    · have hsame := dropLocal_flips_ne (drmmodeBoDestroy s f true) f hg
      exact ⟨congrArg Flipdata.feMsc hsame, congrArg Flipdata.feUsec hsame⟩
  · simp only [returnToCaller, dropLocal, drmmodeBoDestroy, FlipState.setFlip, FlipState.act,
      FlipState.emit, if_true, List.mem_cons, FlipLine.returned.injEq, reduceCtorEq,
      false_or] at hmem
    exact hmem.symm

theorem NotifyInv.giveUp (h : NotifyInv ⟨⟨f, nums, ref⟩ :: frames, running, s⟩) :
    NotifyInv ⟨frames, running, (errorOut (errorUndo s f) f true).1⟩ := by
  obtain ⟨live, leaked, hold⟩ := h.inv
  by_cases hcount : (s.flips f).flipCount = 1
  · have hinv := hold.giveUpLast hcount
    rw [errorUndo_last s f hcount, errorOut_last (takeBackFb s f) f true hcount] at hinv ⊢
    refine h.returns ⟨_, _, hinv⟩ rfl rfl (fun _ => rfl) (fun g => ⟨rfl, rfl⟩) false
      (fun e => by cases e) (fun g ok' left hmem => ?_)
      ⟨trivial, trivial, trivial, trivial, h.justified⟩
    simp only [takeBackFb, drmModeRmFB, drmmodeBoDestroy, FlipState.act,
      FlipState.emit, if_true, List.mem_cons, FlipLine.returned.injEq, reduceCtorEq,
      false_or] at hmem
    exact hmem.symm
  · have hinv := hold.giveUpShared hcount
    rw [errorUndo_shared s f hcount, errorOut_shared s f true hcount] at hinv ⊢
    refine h.returns ⟨_, _, hinv⟩ rfl rfl (fun _ => rfl) (fun g => ?_) false
      (fun e => by cases e) (fun g ok' left hmem => ?_)
      ⟨trivial, trivial, trivial, h.justified⟩
    · by_cases hg : g = f
      · subst hg
        simp [FlipState.emit]
      · have hsame := dropLocal_flips_ne (drmmodeBoDestroy s f true) f hg
        exact ⟨congrArg Flipdata.feMsc hsame, congrArg Flipdata.feUsec hsame⟩
    · simp only [dropLocal, drmmodeBoDestroy, FlipState.setFlip, FlipState.act,
        FlipState.emit, if_true, List.mem_cons, FlipLine.returned.injEq, reduceCtorEq,
        false_or] at hmem
      exact hmem.symm

theorem NotifyInv.allDone (h : NotifyInv ⟨⟨f, nums, ref⟩ :: frames, running, s⟩)
    (hcount : ¬ 1 < (s.flips f).flipCount) :
    NotifyInv ⟨frames, running,
      (errorOut (errorUndo (drmmodeBoDestroy s f true) f) f false).1⟩ := by
  obtain ⟨live, leaked, hold⟩ := h.inv
  have hinv := hold.allDone hcount
  obtain ⟨-, hrefsF⟩ := refs_of_frame hold
  have hone : (s.flips f).flipCount = 1 := by
    have hc := hold.count f (by rw [hrefsF]; omega)
    change (s.flips f).flipCount = _ at hc
    rw [hrefsF] at hc
    omega
  rw [errorUndo_last _ f (by rw [drmmodeBoDestroy_flips]; exact hone),
    errorOut_last (takeBackFb (drmmodeBoDestroy s f true) f) f false hone] at hinv ⊢
  refine h.returns ⟨_, _, hinv⟩ rfl rfl (fun _ => rfl) (fun g => ⟨rfl, rfl⟩) false
    (fun e => by cases e) (fun g ok' left hmem => ?_)
    ⟨trivial, trivial, trivial, trivial, h.justified⟩
  simp only [takeBackFb, drmModeRmFB, drmmodeBoDestroy, FlipState.act,
    FlipState.emit, if_true, List.mem_cons, FlipLine.returned.injEq, reduceCtorEq,
    Bool.false_eq_true, if_false, false_or] at hmem
  exact hmem.symm

end Return

section Callbacks

variable {k : Nat} {flip : Carrier}

theorem NotifyInv.handlerReturns (h : NotifyInv ⟨frames, (k, flip) :: running, s⟩) :
    NotifyInv ⟨frames, running, handlerLeft s k flip⟩ := by
  obtain ⟨live, leaked, hold⟩ := h.inv
  have hinv := hold.handlerReturns
  have hcount : (s.flips flip.flipdata).flipCount = 1 := by
    have hone := hold.sole (k, flip) List.mem_cons_self
    have hc := hold.count flip.flipdata (by rw [hone]; omega)
    rw [hone] at hc
    exact hc
  rw [handlerLeft_last s k flip hcount] at hinv ⊢
  refine h.quiet ⟨_, _, hinv⟩ rfl (Nat.le_refl _) (fun _ _ => rfl)
    (fun g hg => Or.inl (h.fresh g hg)) (fun _ _ => Nat.le_refl _) (fun g _ => ?_)
    (fun g _ _ => ?_) (fun _ _ => Nat.le_refl _) (fun g hg => ?_) (fun f ok left hmem => ?_)
    ⟨trivial, trivial, trivial, trivial, trivial, trivial, h.justified⟩
  · rw [refs_eq, refs_eq, List.countP_cons]
    exact Nat.add_le_add_right (Nat.add_le_add_left (Nat.le_add_right _ _) _) _
  · change (Function.update s.flips flip.flipdata _ g).feMsc = _ ∧
      (Function.update s.flips flip.flipdata _ g).feUsec = _
    by_cases hg : g = flip.flipdata
    · subst hg
      rw [Function.update_self]
      exact ⟨rfl, rfl⟩
    · rw [Function.update_of_ne hg]
      exact ⟨rfl, rfl⟩
  · exact Nat.le_trans (Nat.le_of_eq (h.referenceLeft_fresh hg)) (by omega)
  · left
    simpa using hmem

theorem NotifyInv.enter {f num : Nat} {nums : List Nat} {ref : Int}
    (h : NotifyInv ⟨⟨f, num :: nums, ref⟩ :: frames, running, s⟩) :
    NotifyInv ⟨⟨f, nums, ref⟩ :: frames, running,
      enterFlip s f (drmmodeCrtcVblankPipe num == UInt32.ofInt ref)⟩ := by
  obtain ⟨live, leaked, hold⟩ := h.inv
  set onReference := drmmodeCrtcVblankPipe num == UInt32.ofInt ref with hreference
  set s' := enterFlip s f onReference with hs'
  have hcall : inCall ⟨⟨f, num :: nums, ref⟩ :: frames, running, s⟩ f ≠ 0 := by
    simp [inCall]
  have hsilent : (view f s.log).notified = 0 := h.notYet f (by omega)
  have hview : ∀ g, view g s'.log =
      if f = g then { view g s.log with queued := (view g s.log).queued + 1 } else view g s.log :=
    fun g => rfl
  have hout : ∀ g, s'.outstanding g = s.outstanding g + if f = g then 1 else 0 := by
    intro g
    simp only [FlipState.outstanding]
    change List.countP _ (Carrier.mk onReference f :: s.queue.requests) = _
    simp only [List.countP_cons, beq_iff_eq]
  have hflips : ∀ g, (s'.flips g).feMsc = (s.flips g).feMsc ∧
      (s'.flips g).feUsec = (s.flips g).feUsec := by
    intro g
    change (Function.update s.flips f _ g).feMsc = _ ∧ (Function.update s.flips f _ g).feUsec = _
    by_cases hg : g = f
    · subst hg
      rw [Function.update_self]
      exact ⟨rfl, rfl⟩
    · rw [Function.update_of_ne hg]
      exact ⟨rfl, rfl⟩
  have hlt : f < s.calls :=
    h.lt_calls (refs_pos_of_frame (c := ⟨f, num :: nums, ref⟩) List.mem_cons_self)
  refine ⟨⟨_, _, hold.enter _⟩, fun g => ?_, fun g hg => ?_, fun g => ?_, fun g hg => ?_,
    fun g hg p hp => ?_, fun g => ?_, fun g ok left hmem => ?_, ?_⟩
  · change (view g s'.log).queued = (view g s'.log).resolved + s'.outstanding g
    have htrace := h.trace g
    change (view g s.log).queued = (view g s.log).resolved + s.outstanding g at htrace
    rw [hview, hout]
    by_cases he : f = g
    · rw [if_pos he, if_pos he]
      change (view g s.log).queued + 1 = (view g s.log).resolved + (s.outstanding g + 1)
      omega
    · rw [if_neg he, if_neg he]
      exact htrace
  · change view g s'.log = _
    have hge : s.calls ≤ g := hg
    rw [hview, if_neg (by omega)]
    exact h.fresh g hg
  · change (view g s'.log).opened ≤ 1
    rw [hview]
    split <;> exact h.opened g
  · change (view g s'.log).notified = 0
    change 0 < s'.outstanding g + _ at hg
    rw [hout] at hg
    rw [hview]
    by_cases he : f = g
    · subst he
      simpa using hsilent
    · rw [if_neg he]
      rw [if_neg he, Nat.add_zero] at hg
      exact h.notYet g hg
  · change (view g s'.log).lastReference = some p at hp
    change p = ((s'.flips g).feMsc, (s'.flips g).feUsec)
    rw [(hflips g).1, (hflips g).2]
    have hpos : 0 < refs ⟨⟨f, num :: nums, ref⟩ :: frames, running, s⟩ g := by
      by_cases he : f = g
      · subst he
        exact refs_pos_of_frame (c := ⟨f, num :: nums, ref⟩) List.mem_cons_self
      · rw [refs_eq] at hg ⊢
        change 0 < s'.outstanding g + _ + _ at hg
        rw [hout, if_neg he] at hg
        exact hg
    refine h.reported g hpos p ?_
    rw [hview] at hp
    split at hp <;> exact hp
  · have hle := h.reference g
    have hsame : (view g s'.log).reference = (view g s.log).reference := by
      rw [hview]
      split <;> rfl
    change (view g s'.log).reference + _ ≤ 1
    rw [hsame]
    refine Nat.le_trans (Nat.add_le_add_left ?_ _) hle
    simp only [referenceLeft, List.map_cons, List.sum_cons, List.countP_cons]
    change List.countP _ (Carrier.mk onReference f :: s.queue.requests) + _ ≤ _
    rw [List.countP_cons]
    simp only [beq_iff_eq, Bool.and_eq_true, ← hreference]
    by_cases he : f = g
    · simp only [he, true_and, if_true]
      omega
    · simp only [he, false_and, if_false]
      omega
  · have hmem' : .returned g ok left ∈ s.log := by
      simpa [s', enterFlip, FlipState.setFlip, FlipState.act, FlipState.emit] using hmem
    have hs := h.returned g ok left hmem'
    have hne : f ≠ g := by
      intro e
      exact hcall (e ▸ hs.ended)
    have hout' : s'.outstanding g = s.outstanding g := by rw [hout, if_neg hne, Nat.add_zero]
    have hview' : view g s'.log = view g s.log := by rw [hview, if_neg hne]
    refine hs.frame (Nat.le_refl _) (Nat.le_refl _) hview' hout' ?_
    rw [refs_eq, refs_eq]
    exact Nat.add_le_add_right (Nat.add_le_add_right hout'.le _) _
  · exact ⟨trivial, hsilent, trivial, h.justified⟩

/-- The queue takes out an entry, for its event or an abort.  The flip's handler
is called if the entry was the flip's last reference. -/
theorem NotifyInv.unlink {running' : List (Nat × Carrier)} (h : NotifyInv ⟨frames, running, s⟩)
    (hinv : ∃ live leaked, Inv live leaked ⟨frames, running', s'⟩)
    (hfind : s.queue.find? k = some flip) (hqueue : s'.queue = s.queue.remove k)
    (hcalls : s'.calls = s.calls)
    (hrefs : ∀ g, refs ⟨frames, running', s'⟩ g ≤ refs ⟨frames, running, s⟩ g)
    (hother : ∀ g, g ≠ flip.flipdata → view g s'.log = view g s.log ∧
      s'.flips g = s.flips g)
    (hqueued : (view flip.flipdata s'.log).queued = (view flip.flipdata s.log).queued)
    (hopened : (view flip.flipdata s'.log).opened = (view flip.flipdata s.log).opened)
    (hresolved : (view flip.flipdata s'.log).resolved = (view flip.flipdata s.log).resolved + 1)
    (hnotified : (view flip.flipdata s'.log).notified = (view flip.flipdata s.log).notified +
      if (s.flips flip.flipdata).flipCount = 1 then 1 else 0)
    (hreference : (view flip.flipdata s'.log).reference ≤
      (view flip.flipdata s.log).reference + if flip.onReferenceCrtc then 1 else 0)
    (hreported : 0 < refs ⟨frames, running', s'⟩ flip.flipdata →
      ∀ p, (view flip.flipdata s'.log).lastReference = some p →
        p = ((s'.flips flip.flipdata).feMsc, (s'.flips flip.flipdata).feUsec))
    (hreturned : ∀ g ok left, .returned g ok left ∈ s'.log → .returned g ok left ∈ s.log)
    (hjustified : Justified Timely s'.log) : NotifyInv ⟨frames, running', s'⟩ := by
  obtain ⟨live, leaked, hold⟩ := h.inv
  have hpos : 0 < refs ⟨frames, running, s⟩ flip.flipdata := refs_pos_of_find hfind
  have hlt : flip.flipdata < s.calls := h.lt_calls hpos
  have hout := outstanding_unlink hfind hqueue
  have houtF := hout flip.flipdata
  rw [if_pos rfl] at houtF
  have hsilent : (view flip.flipdata s.log).notified = 0 := by
    refine h.notYet _ ?_
    change 0 < s.outstanding flip.flipdata + _
    omega
  -- with one reference left nothing else of the flip is around; with more, something is
  have hlast : (s.flips flip.flipdata).flipCount = 1 ↔
      s'.outstanding flip.flipdata = 0 ∧
        inCall (⟨frames, running, s⟩ : Stacked ε σ) flip.flipdata = 0 := by
    have hcount := hold.count flip.flipdata hpos
    have hrunning : 0 < running.countP (fun r => r.2.flipdata == flip.flipdata) →
        refs ⟨frames, running, s⟩ flip.flipdata = 1 := by
      intro hrun
      obtain ⟨r, hr, hrf⟩ := List.countP_pos_iff.mp hrun
      rw [beq_iff_eq] at hrf
      rw [← hrf]
      exact hold.sole r hr
    rw [refs_eq] at hcount hrunning
    change (s.flips flip.flipdata).flipCount =
      ((s.outstanding flip.flipdata + _ + _ : Nat) : Int) at hcount
    change _ → s.outstanding flip.flipdata + _ + _ = 1 at hrunning
    simp only at hcount hrunning
    omega
  refine ⟨hinv, fun g => ?_, fun g hg => ?_, fun g => ?_, fun g hg => ?_, fun g hg p hp => ?_,
    fun g => ?_, fun g ok left hmem => ?_, hjustified⟩
  · change (view g s'.log).queued = (view g s'.log).resolved + s'.outstanding g
    have htrace := h.trace g
    have hg := hout g
    change (view g s.log).queued = (view g s.log).resolved + s.outstanding g at htrace
    by_cases he : g = flip.flipdata
    · subst he
      omega
    · rw [(hother g he).1]
      rw [if_neg he] at hg
      omega
  · change view g s'.log = _
    have hge : s.calls ≤ g := hcalls ▸ hg
    rw [(hother g (by omega)).1]
    exact h.fresh g hge
  · change (view g s'.log).opened ≤ 1
    by_cases he : g = flip.flipdata
    · subst he
      rw [hopened]
      exact h.opened _
    · rw [(hother g he).1]
      exact h.opened g
  · change (view g s'.log).notified = 0
    change 0 < s'.outstanding g + inCall (⟨frames, running, s⟩ : Stacked ε σ) g at hg
    by_cases he : g = flip.flipdata
    · subst he
      rw [hnotified, hsilent, if_neg fun e => by have := hlast.mp e; omega]
    · rw [(hother g he).1]
      refine h.notYet g ?_
      have hg' := hout g
      rw [if_neg he] at hg'
      change 0 < s.outstanding g + _
      omega
  · by_cases he : g = flip.flipdata
    · subst he
      exact hreported hg p hp
    · change (view g s'.log).lastReference = some p at hp
      change p = ((s'.flips g).feMsc, (s'.flips g).feUsec)
      rw [(hother g he).1] at hp
      rw [(hother g he).2]
      exact h.reported g (Nat.lt_of_lt_of_le hg (hrefs g)) p hp
  · have hle := h.reference g
    change (view g s'.log).reference + referenceLeft ⟨frames, running', s'⟩ g ≤ 1
    simp only [referenceLeft] at hle ⊢
    rw [Pending.countP_remove hfind] at hle
    rw [hqueue]
    by_cases he : g = flip.flipdata
    · subst he
      simp only [beq_self_eq_true, Bool.true_and] at hle ⊢
      omega
    · rw [(hother g he).1]
      omega
  · have hs := h.returned g ok left (hreturned g ok left hmem)
    by_cases he : g = flip.flipdata
    · subst he
      have hended := hs.ended
      refine ⟨hcalls ▸ hs.lt, hs.ended, hs.okLeft, fun hl => ?_, fun hl => ?_⟩
      · have hzero := (hs.silent hl).1
        omega
      · change (view flip.flipdata s'.log).opened = 1 ∧ 0 < (view flip.flipdata s'.log).queued ∧
          (view flip.flipdata s'.log).notified = if s'.outstanding flip.flipdata = 0 then 1 else 0
        refine ⟨hopened.trans (hs.once hl).1, hqueued ▸ (hs.once hl).2.1, ?_⟩
        rw [hnotified, hsilent, Nat.zero_add]
        exact if_congr (hlast.trans (and_iff_left hended)) rfl rfl
    · have hg := hout g
      rw [if_neg he, Nat.add_zero] at hg
      exact hs.frame hcalls.ge (Nat.le_refl _) (hother g he).1 hg.symm (hrefs g)

theorem recordReference_fe (s : FlipState ε σ) (flip : Carrier) (msc ust : UInt64) :
    (((recordReference s flip msc ust).flips flip.flipdata).feMsc,
      ((recordReference s flip msc ust).flips flip.flipdata).feUsec) =
      if flip.onReferenceCrtc then (msc, ust)
      else ((s.flips flip.flipdata).feMsc, (s.flips flip.flipdata).feUsec) := by
  unfold recordReference
  cases flip.onReferenceCrtc <;> simp [FlipState.setFlip]

/-- What an event of the flip's own entry adds to its view. -/
def FlipView.complete (v : FlipView) (onReference : Bool) (msc usec : UInt64) : FlipView :=
  if onReference then
    { v with
      resolved := v.resolved + 1
      reference := v.reference + 1
      lastReference := some (msc, usec) }
  else { v with resolved := v.resolved + 1 }

@[simp] theorem FlipView.complete_opened (v : FlipView) (r : Bool) (msc usec : UInt64) :
    (v.complete r msc usec).opened = v.opened := by
  cases r <;> rfl

@[simp] theorem FlipView.complete_queued (v : FlipView) (r : Bool) (msc usec : UInt64) :
    (v.complete r msc usec).queued = v.queued := by
  cases r <;> rfl

@[simp] theorem FlipView.complete_resolved (v : FlipView) (r : Bool) (msc usec : UInt64) :
    (v.complete r msc usec).resolved = v.resolved + 1 := by
  cases r <;> rfl

@[simp] theorem FlipView.complete_notified (v : FlipView) (r : Bool) (msc usec : UInt64) :
    (v.complete r msc usec).notified = v.notified := by
  cases r <;> rfl

theorem FlipView.complete_reference (v : FlipView) (r : Bool) (msc usec : UInt64) :
    (v.complete r msc usec).reference ≤ v.reference + if r then 1 else 0 := by
  cases r <;> exact Nat.le_refl _

/-- An event adds its completion to the view of its flip. -/
theorem view_recordReference (s : FlipState ε σ) (k : Nat) (flip : Carrier) (msc usec : UInt64)
    (g : Nat) :
    view g (recordReference (((unlinkCompleted s k flip msc usec).act (.touch (.carrier k))).act
        (.touch (.flipdata flip.flipdata))) flip msc usec).log =
      if flip.flipdata = g then (view g s.log).complete flip.onReferenceCrtc msc usec
      else view g s.log := by
  rw [recordReference_log]
  rfl

/-- After an event the last reference event is the one the flip has recorded. -/
theorem NotifyInv.recorded (h : NotifyInv ⟨frames, running, s⟩)
    {t : FlipState ε σ} (hfind : s.queue.find? k = some flip) (ht : t.flips = s.flips)
    (msc usec : UInt64) :
    ∀ p, ((view flip.flipdata s.log).complete flip.onReferenceCrtc msc usec).lastReference =
      some p → p = (((recordReference t flip msc usec).flips flip.flipdata).feMsc,
        ((recordReference t flip msc usec).flips flip.flipdata).feUsec) := by
  intro p hp
  rw [recordReference_fe, ht]
  cases href : flip.onReferenceCrtc with
  | true =>
      rw [href] at hp
      exact (Option.some.inj hp).symm
  | false =>
      rw [href] at hp
      exact h.reported flip.flipdata (refs_pos_of_find hfind) p hp

theorem NotifyInv.complete (client : FlipClient ε σ) (h : NotifyInv ⟨frames, running, s⟩)
    (msc usec : UInt64) (hfind : s.queue.find? k = some flip)
    (hcount : (s.flips flip.flipdata).flipCount ≠ 1) :
    NotifyInv ⟨frames, running,
      msPageflipHandler client id (unlinkCompleted s k flip msc usec) msc usec k flip⟩ := by
  obtain ⟨live, leaked, hold⟩ := h.inv
  have hinv := hold.complete client msc usec hfind hcount
  have hmany := hold.one_lt_flipCount hfind hcount
  set s₀ := ((unlinkCompleted s k flip msc usec).act (.touch (.carrier k))).act
    (.touch (.flipdata flip.flipdata)) with hs₀
  have hstate : msPageflipHandler client id (unlinkCompleted s k flip msc usec) msc usec k flip =
      msPageflipFree (recordReference s₀ flip msc usec) k flip :=
    msPageflipHandler_shared s k flip msc usec hcount
  rw [hstate, msPageflipFree_shared _ k flip (by rw [recordReference_flipCount]; exact hmany)]
    at hinv ⊢
  have hlog := recordReference_log s₀ flip msc usec
  have hview : ∀ g, view g (recordReference s₀ flip msc usec).log =
      if flip.flipdata = g then (view g s.log).complete flip.onReferenceCrtc msc usec
      else view g s.log := view_recordReference s k flip msc usec
  have hrecorded := h.recorded hfind (t := s₀) rfl msc usec
  have hviewF := hview flip.flipdata
  rw [if_pos rfl] at hviewF
  refine h.unlink ⟨_, _, hinv⟩ hfind (recordReference_queue s₀ flip msc usec)
    (recordReference_calls s₀ flip msc usec) (fun g => ?_) (fun g hne => ?_) ?_ ?_ ?_ ?_ ?_
    (fun _ p hp => ?_) (fun g ok left hmem => ?_)
    ⟨trivial, trivial, trivial, by rw [hlog]; exact ⟨trivial, trivial, trivial, h.justified⟩⟩
  · rw [refs_unlink hfind (recordReference_queue s₀ flip msc usec)]
    exact Nat.le_add_right _ _
  · refine ⟨(hview g).trans (if_neg fun e => hne e.symm), ?_⟩
    exact (Function.update_of_ne hne _ _).trans ((recordReference_same s₀ flip msc usec).other g hne)
  · exact congrArg FlipView.queued hviewF |>.trans (by simp)
  · exact congrArg FlipView.opened hviewF |>.trans (by simp)
  · exact congrArg FlipView.resolved hviewF |>.trans (by simp)
  · rw [if_neg hcount]
    exact congrArg FlipView.notified hviewF |>.trans (by simp)
  · refine Nat.le_trans (Nat.le_of_eq (congrArg FlipView.reference hviewF)) ?_
    exact FlipView.complete_reference _ _ _ _
  · have hp' : (view flip.flipdata (recordReference s₀ flip msc usec).log).lastReference = some p :=
      hp
    rw [hviewF] at hp'
    rw [hrecorded p hp']
    change _ = (Flipdata.feMsc (Function.update (recordReference s₀ flip msc usec).flips
      flip.flipdata _ flip.flipdata), Flipdata.feUsec (Function.update
      (recordReference s₀ flip msc usec).flips flip.flipdata _ flip.flipdata))
    rw [Function.update_self]
  · simpa [FlipState.setFlip, FlipState.act, FlipState.emit, hlog, s₀, unlinkCompleted] using hmem

theorem NotifyInv.atLast (h : NotifyInv ⟨frames, running, s⟩)
    (hfind : s.queue.find? k = some flip) (hcount : (s.flips flip.flipdata).flipCount = 1)
    {past : List FlipLine} (hpast : ledger past = .touch (.flipdata flip.flipdata) ::
      .touch (.carrier k) :: ledger s.log)
    (hqueued : (view flip.flipdata past).queued = (view flip.flipdata s.log).queued)
    (hresolved : (view flip.flipdata past).resolved = (view flip.flipdata s.log).resolved + 1)
    (hnotified : (view flip.flipdata past).notified = (view flip.flipdata s.log).notified) :
    AtLast flip.flipdata past := by
  obtain ⟨live, leaked, hold⟩ := h.inv
  have hpos : 0 < refs ⟨frames, running, s⟩ flip.flipdata := refs_pos_of_find hfind
  have hone := hold.refs_eq_one hpos hcount
  have hout : s.outstanding flip.flipdata = 1 := by
    have hle := outstanding_unlink (s := s) (t := unlinkAborted s k flip) hfind rfl flip.flipdata
    rw [if_pos rfl] at hle
    rw [refs_eq] at hone
    change s.outstanding flip.flipdata + _ + _ = 1 at hone
    omega
  have htrace := h.trace flip.flipdata
  change _ = _ + s.outstanding flip.flipdata at htrace
  refine ⟨?_, ?_, ?_⟩
  · change (view flip.flipdata s.log).queued = (view flip.flipdata s.log).resolved + _ at htrace
    omega
  · rw [hnotified]
    refine h.notYet _ ?_
    change 0 < s.outstanding flip.flipdata + _
    omega
  · rw [hpast, (hold.touched hfind).mem_held, flipdata_mem_owned, hold.liveIff]
    exact hpos

theorem NotifyInv.completeLast (client : FlipClient ε σ) (h : NotifyInv ⟨frames, running, s⟩)
    (msc usec : UInt64) (hfind : s.queue.find? k = some flip)
    (hcount : (s.flips flip.flipdata).flipCount = 1) :
    NotifyInv ⟨frames, (k, flip) :: running, handlerEntered client s k flip msc usec⟩ := by
  obtain ⟨live, leaked, hold⟩ := h.inv
  have hinv := hold.completeLast client msc usec hfind hcount
  set s₀ := ((unlinkCompleted s k flip msc usec).act (.touch (.carrier k))).act
    (.touch (.flipdata flip.flipdata)) with hs₀
  have hstate : handlerEntered client s k flip msc usec =
      callEventHandler client (recordReference s₀ flip msc usec) flip.flipdata := rfl
  rw [hstate] at hinv ⊢
  have hlog := recordReference_log s₀ flip msc usec
  have hview : ∀ g, view g (recordReference s₀ flip msc usec).log =
      if flip.flipdata = g then (view g s.log).complete flip.onReferenceCrtc msc usec
      else view g s.log := view_recordReference s k flip msc usec
  have hrecorded := h.recorded hfind (t := s₀) rfl msc usec
  have hviewF := hview flip.flipdata
  rw [if_pos rfl] at hviewF
  have hviewH : ∀ g, view g
      (callEventHandler client (recordReference s₀ flip msc usec) flip.flipdata).log =
      if flip.flipdata = g then
        { view g (recordReference s₀ flip msc usec).log with
          notified := (view g (recordReference s₀ flip msc usec).log).notified + 1 }
      else view g (recordReference s₀ flip msc usec).log := fun g => rfl
  have hviewHF := hviewH flip.flipdata
  rw [if_pos rfl, hviewF] at hviewHF
  have hat : AtLast flip.flipdata (recordReference s₀ flip msc usec).log := by
    refine h.atLast hfind hcount ?_ ?_ ?_ ?_
    · rw [hlog]
      rfl
    · rw [hviewF, FlipView.complete_queued]
    · rw [hviewF, FlipView.complete_resolved]
    · rw [hviewF, FlipView.complete_notified]
  refine h.unlink ⟨_, _, hinv⟩ hfind (recordReference_queue s₀ flip msc usec)
    (recordReference_calls s₀ flip msc usec) (fun g => ?_) (fun g hne => ?_) ?_ ?_ ?_ ?_ ?_
    (fun _ p hp => ?_) (fun g ok left hmem => ?_) ⟨⟨hat, ?_, fun p hp => ?_⟩, ?_⟩
  · have hle := outstanding_unlink hfind (recordReference_queue s₀ flip msc usec) g
    rw [refs_eq, refs_eq]
    change (recordReference s₀ flip msc usec).outstanding g + _ + inCall ⟨frames, running, s⟩ g ≤
      s.outstanding g + _ + inCall ⟨frames, running, s⟩ g
    simp only [List.countP_cons, beq_iff_eq, eq_comm (a := flip.flipdata) (b := g)]
    omega
  · refine ⟨(hviewH g).trans ((if_neg fun e => hne e.symm).trans ((hview g).trans
      (if_neg fun e => hne e.symm))), ?_⟩
    exact (recordReference_same s₀ flip msc usec).other g hne
  · rw [hviewHF]
    simp
  · rw [hviewHF]
    simp
  · rw [hviewHF]
    simp
  · rw [hviewHF, if_pos hcount]
    simp
  · rw [hviewHF]
    exact FlipView.complete_reference _ _ _ _
  · rw [hviewHF] at hp
    exact hrecorded p hp
  · have hmem' : .returned g ok left ∈
        (.eventHandler flip.flipdata _ _ :: (recordReference s₀ flip msc usec).log) := hmem
    rw [hlog] at hmem'
    simpa [FlipState.act, FlipState.emit, s₀, unlinkCompleted] using hmem'
  · refine ⟨k, flip.onReferenceCrtc, msc, usec, s.log, ?_⟩
    rw [hlog]
    rfl
  · rw [hviewF] at hp
    exact hrecorded p hp
  · rw [hlog]
    exact ⟨trivial, trivial, trivial, h.justified⟩

theorem NotifyInv.abort (client : FlipClient ε σ) (h : NotifyInv ⟨frames, running, s⟩)
    (hfind : s.queue.find? k = some flip) :
    NotifyInv ⟨frames, running,
      msPageflipAbort client (unlinkAborted s k flip) k flip⟩ := by
  obtain ⟨live, leaked, hold⟩ := h.inv
  have hreported : ∀ p, (view flip.flipdata s.log).lastReference = some p →
      p = ((s.flips flip.flipdata).feMsc, (s.flips flip.flipdata).feUsec) :=
    h.reported flip.flipdata (refs_pos_of_find hfind)
  have hrefs : ∀ {s' : FlipState ε σ}, s'.queue = s.queue.remove k → ∀ g,
      refs ⟨frames, running, s'⟩ g ≤ refs ⟨frames, running, s⟩ g := by
    intro s' hqueue g
    rw [refs_unlink hfind hqueue]
    exact Nat.le_add_right _ _
  by_cases hcount : (s.flips flip.flipdata).flipCount = 1
  · have hinv := hold.abortLast client hfind hcount
    simp only [msPageflipAbort] at hinv ⊢
    rw [if_pos (by exact hcount), msPageflipFree_last _ k flip (by exact hcount)] at hinv ⊢
    have hat : AtLast flip.flipdata (.act (.touch (.flipdata flip.flipdata)) ::
        .act (.touch (.carrier k)) :: .aborted flip.flipdata k flip.onReferenceCrtc
          (s.flips flip.flipdata).flipCount :: s.log) := by
      refine h.atLast hfind hcount rfl ?_ ?_ ?_ <;> simp [view, FlipView.add]
    refine h.unlink ⟨_, _, hinv⟩ hfind rfl rfl (hrefs rfl) (fun g hne => ?_) ?_ ?_ ?_ ?_ ?_
      (fun _ p hp => ?_) (fun g ok left hmem => ?_)
      ⟨trivial, trivial, trivial, trivial, ⟨hat, k, flip.onReferenceCrtc, _, s.log, rfl⟩,
        trivial, trivial, trivial, h.justified⟩
    · refine ⟨?_, Function.update_of_ne hne _ _⟩
      have hne' : flip.flipdata ≠ g := fun e => hne e.symm
      simp [view, FlipView.add, FlipState.act, FlipState.emit, FlipState.setFlip,
        callAbortHandler, unlinkAborted, hne']
    · simp [view, FlipView.add, FlipState.act, FlipState.emit, FlipState.setFlip,
        callAbortHandler, unlinkAborted]
    · simp [view, FlipView.add, FlipState.act, FlipState.emit, FlipState.setFlip,
        callAbortHandler, unlinkAborted]
    · simp [view, FlipView.add, FlipState.act, FlipState.emit, FlipState.setFlip,
        callAbortHandler, unlinkAborted]
    · rw [if_pos hcount]
      simp [view, FlipView.add, FlipState.act, FlipState.emit, FlipState.setFlip,
        callAbortHandler, unlinkAborted]
    · simp [view, FlipView.add, FlipState.act, FlipState.emit, FlipState.setFlip,
        callAbortHandler, unlinkAborted]
    · change p = ((Function.update s.flips flip.flipdata _ flip.flipdata).feMsc,
        (Function.update s.flips flip.flipdata _ flip.flipdata).feUsec)
      rw [Function.update_self]
      refine hreported p ?_
      simpa [view, FlipView.add, FlipState.act, FlipState.emit, FlipState.setFlip,
        callAbortHandler, unlinkAborted] using hp
    · simpa [FlipState.act, FlipState.emit, FlipState.setFlip, callAbortHandler,
        unlinkAborted] using hmem
  · have hinv := hold.abortShared client hfind hcount
    have hmany := hold.one_lt_flipCount hfind hcount
    simp only [msPageflipAbort] at hinv ⊢
    rw [if_neg (by exact hcount), msPageflipFree_shared _ k flip (by exact hmany)] at hinv ⊢
    refine h.unlink ⟨_, _, hinv⟩ hfind rfl rfl (hrefs rfl) (fun g hne => ?_) ?_ ?_ ?_ ?_ ?_
      (fun _ p hp => ?_) (fun g ok left hmem => ?_)
      ⟨trivial, trivial, trivial, trivial, trivial, trivial, h.justified⟩
    · refine ⟨?_, Function.update_of_ne hne _ _⟩
      have hne' : flip.flipdata ≠ g := fun e => hne e.symm
      simp [view, FlipView.add, FlipState.act, FlipState.emit, FlipState.setFlip,
        unlinkAborted, hne']
    · simp [view, FlipView.add, FlipState.act, FlipState.emit, FlipState.setFlip, unlinkAborted]
    · simp [view, FlipView.add, FlipState.act, FlipState.emit, FlipState.setFlip, unlinkAborted]
    · simp [view, FlipView.add, FlipState.act, FlipState.emit, FlipState.setFlip, unlinkAborted]
    · rw [if_neg hcount]
      simp [view, FlipView.add, FlipState.act, FlipState.emit, FlipState.setFlip, unlinkAborted]
    · simp [view, FlipView.add, FlipState.act, FlipState.emit, FlipState.setFlip, unlinkAborted]
    · change p = ((Function.update s.flips flip.flipdata _ flip.flipdata).feMsc,
        (Function.update s.flips flip.flipdata _ flip.flipdata).feUsec)
      rw [Function.update_self]
      refine hreported p ?_
      simpa [view, FlipView.add, FlipState.act, FlipState.emit, FlipState.setFlip,
        unlinkAborted] using hp
    · simpa [FlipState.act, FlipState.emit, FlipState.setFlip, unlinkAborted] using hmem

end Callbacks

/-- **Every move keeps the invariant.** -/
theorem Move.notifyInv {kernel : FbKernel} {config : CrtcConfig} {client : FlipClient ε σ}
    (hmove : Move kernel config client m m') (h : NotifyInv m) : NotifyInv m' := by
  cases hmove with
  | gbmFails => exact h.gbmFails
  | flipdataFails => exact h.flipdataFails
  | importFails frames running s event => exact h.importFails event
  | start frames running s event ref => exact h.start kernel config event ref
  | skip => exact h.skip
  | carrierOnly => exact h.carrierOnly
  | enter => exact h.enter
  | accepted frames running s f nums ref hcount => exact h.accepted hcount
  | allDone frames running s f nums ref hcount => exact h.allDone hcount
  | giveUp => exact h.giveUp
  | complete frames running s k flip msc usec hfind hcount =>
      exact h.complete client msc usec hfind hcount
  | completeLast frames running s k flip msc usec hfind hcount =>
      exact h.completeLast client msc usec hfind hcount
  | handlerReturns => exact h.handlerReturns
  | abort frames running s k flip hfind => exact h.abort client hfind

end Moves

/-! ## Accepted flips -/

theorem view_append_reference (f : Nat) (later past : List FlipLine) :
    (view f past).reference ≤ (view f (later ++ past)).reference := by
  induction later with
  | nil => exact Nat.le_refl _
  | cons line later ih =>
      refine Nat.le_trans ih ?_
      rw [List.cons_append, view]
      generalize view f (later ++ past) = v
      cases line with
      | act a =>
          cases a with
          | acquire r =>
              cases r with
              | flipdata g =>
                  simp only [FlipView.add]
                  split <;> simp
              | _ => exact Nat.le_refl _
          | _ => exact Nat.le_refl _
      | completed g k onReference msc usec =>
          simp only [FlipView.add]
          split <;> [split; skip] <;> simp
      | returned => exact Nat.le_refl _
      | _ => simp only [FlipView.add]; split <;> simp

/-- With one reference event in the log, it is the one remembered. -/
theorem lastReference_of_mem {f k : Nat} {msc usec : UInt64} {log : List FlipLine}
    (hone : (view f log).reference ≤ 1) (hmem : .completed f k true msc usec ∈ log) :
    (view f log).lastReference = some (msc, usec) := by
  induction log with
  | nil => cases hmem
  | cons line log ih =>
      have htail : (view f log).reference ≤ 1 :=
        Nat.le_trans (view_append_reference f [line] log) hone
      rcases List.mem_cons.mp hmem with rfl | hmem
      · simp [view, FlipView.add]
      · have hrest := ih htail hmem
        have hpos : 0 < (view f log).reference := by
          by_contra hzero
          have hnone : ∀ l : List FlipLine, (view f l).reference = 0 →
              .completed f k true msc usec ∉ l := by
            intro l
            induction l with
            | nil => intro _ hin; cases hin
            | cons x l ihl =>
                intro hl hin
                have hsub := view_append_reference f [x] l
                rw [List.singleton_append, hl] at hsub
                rcases List.mem_cons.mp hin with rfl | hin
                · simp [view, FlipView.add] at hl
                · exact ihl (Nat.eq_zero_of_le_zero hsub) hin
          exact hnone log (Nat.eq_zero_of_not_pos hzero) hmem
        rw [view] at hone ⊢
        generalize view f log = v at *
        cases line with
        | act a =>
            cases a with
            | acquire r =>
                cases r with
                | flipdata g =>
                    simp only [FlipView.add]
                    split <;> exact hrest
                | _ => exact hrest
            | _ => exact hrest
        | completed g j onReference m u =>
            simp only [FlipView.add] at hone ⊢
            split at hone
            · split at hone
              · simp only at hone
                omega
              · rename_i hg hr
                rw [if_pos hg, if_neg hr]
                exact hrest
            · rename_i hg
              rw [if_neg hg]
              exact hrest
        | queued | aborted | eventHandler | abortHandler =>
            simp only [FlipView.add]
            split <;> exact hrest
        | returned => exact hrest

theorem lawful_of_append {past later : List (Act Resource)} (h : Lawful (later ++ past)) :
    Lawful past := by
  induction later with
  | nil => exact h
  | cons a later ih =>
      cases a with
      | acquire r => exact ih h.2
      | touch r => exact ih h.2
      | release r => exact ih h.2

/-- One completion of flip `f`: one call of one of the two handlers, in the step
that resolves the flip's last entry and before its data is freed; the reference
CRTC's values if its entry completed; one free. -/
structure CompletesOnce (s : FlipState ε σ) (f : Nat) : Prop where
  queued : 1 ≤ (view f s.log).queued
  once : (view f s.log).notified = if s.outstanding f = 0 then 1 else 0
  acquired : acquires (ledger s.log) (.flipdata f) = 1
  freed : releases (ledger s.log) (.flipdata f) = if s.outstanding f = 0 then 1 else 0
  event : ∀ later msc usec past, s.log = later ++ .eventHandler f msc usec :: past →
    (view f past).queued = (view f past).resolved ∧
    (∃ k r m u rest, past = .act (.touch (.flipdata f)) :: .act (.touch (.carrier k)) ::
      .completed f k r m u :: rest) ∧
    releases (ledger past) (.flipdata f) = 0 ∧
    ∀ k m u, .completed f k true m u ∈ past → m = msc ∧ u = usec
  abort : ∀ later past, s.log = later ++ .abortHandler f :: past →
    (view f past).queued = (view f past).resolved ∧
    (∃ k r n rest, past = .act (.touch (.flipdata f)) :: .act (.touch (.carrier k)) ::
      .aborted f k r n :: rest) ∧
    releases (ledger past) (.flipdata f) = 0

theorem NotifyInv.completesOnce {s : FlipState ε σ} (h : NotifyInv ⟨[], [], s⟩) {f left : Nat}
    (hmem : .returned f true left ∈ s.log) : CompletesOnce s f := by
  obtain ⟨live, leaked, hold⟩ := h.inv
  have hs := h.returned f true left hmem
  obtain ⟨hopened, hqueued, honce⟩ := hs.once (hs.okLeft rfl)
  have hacq : acquires (ledger s.log) (.flipdata f) = 1 := by
    rw [← view_opened]
    exact hopened
  have hrefs : refs (⟨[], [], s⟩ : Stacked ε σ) f = s.outstanding f := rfl
  have hbefore : ∀ later line past, s.log = later ++ line :: past → AtLast f past →
      releases (ledger past) (.flipdata f) = 0 := by
    intro later line past hlog hat
    have hsplit : ledger s.log = (ledger later ++ line.acts) ++ ledger past := by
      rw [hlog, ledger, List.flatMap_append, List.flatMap_cons, List.append_assoc]
      rfl
    have hlaw : Lawful (ledger past) := lawful_of_append (hsplit ▸ hold.owns.lawful)
    have hle : acquires (ledger past) (.flipdata f) ≤ 1 := by
      rw [← hacq, hsplit, acquires, acquires, List.count_append]
      exact Nat.le_add_left _ _
    have hpos := hlaw.acquires_pos hat.alive
    exact hlaw.releases_eq_zero (by omega) hat.alive
  refine ⟨hqueued, honce, hacq, ?_, ?_, ?_⟩
  · by_cases hout : s.outstanding f = 0
    · rw [if_pos hout]
      refine hold.owns.lawful.releases_eq_one hacq fun hin => ?_
      rw [hold.owns.mem_held, flipdata_mem_owned, hold.liveIff, hrefs] at hin
      omega
    · rw [if_neg hout]
      refine hold.owns.lawful.releases_eq_zero hacq ?_
      rw [hold.owns.mem_held, flipdata_mem_owned, hold.liveIff, hrefs]
      omega
  · intro later msc usec past hlog
    obtain ⟨hat, hlast, hfe⟩ := h.justified.at hlog
    refine ⟨hat.resolved, hlast, hbefore later _ past hlog hat, fun k m u hin => ?_⟩
    have hle : (view f past).reference ≤ 1 := by
      have hall := h.reference f
      have hsub := view_append_reference f (later ++ [.eventHandler f msc usec]) past
      rw [List.append_assoc, List.singleton_append, ← hlog] at hsub
      change (view f s.log).reference + _ ≤ 1 at hall
      omega
    have heq := hfe _ (lastReference_of_mem hle hin)
    exact ⟨congrArg Prod.fst heq, congrArg Prod.snd heq⟩
  · intro later past hlog
    obtain ⟨hat, hlast⟩ := h.justified.at hlog
    exact ⟨hat.resolved, hlast, hbefore later _ past hlog hat⟩

theorem flipStep_notifyInv (kernel : FbKernel) (config : CrtcConfig) (client : FlipClient ε σ)
    (s : FlipState ε σ) (op : FlipOp ε) (h : NotifyInv ⟨[], [], s⟩) :
    NotifyInv ⟨[], [], flipStep kernel config client s op⟩ :=
  Path.invariant (P := NotifyInv) (fun _ _ hmove => Move.notifyInv hmove)
    (FlipOp.exec_moves op [] [] s) h

/-- **An accepted page flip completes exactly once.** In every state of every
run, memory is used lawfully, and every flip for which `ms_do_pageflip` returned
`TRUE` has completed exactly once if none of its entries is outstanding, and not
at all otherwise. -/
theorem accepted_flip_completes_once (kernel : FbKernel) (config : CrtcConfig)
    (client : FlipClient ε σ) (fbId : Nat) (flips : Nat → Flipdata ε) (c : σ)
    (ops : List (FlipOp ε)) :
    Always (flipStep kernel config client)
      (fun s => Lawful (ledger s.log) ∧
        ∀ f left, .returned f true left ∈ s.log → CompletesOnce s f)
      (FlipState.start fbId flips c) ops := by
  have hinv := always_of_step (flipStep_notifyInv kernel config client)
    (notifyInv_start fbId flips c) ops
  refine hinv.mono fun s h => ⟨?_, fun f left hmem => h.completesOnce hmem⟩
  obtain ⟨live, leaked, hold⟩ := h.inv
  exact hold.owns.lawful

end LoongsonVideo.Driver.PageFlipNotify
