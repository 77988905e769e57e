import LoongsonVideo.Driver.Dri2FrameEvent
import Mathlib.Algebra.Ring.Nat
import Mathlib.Order.Bounds.Basic

/-!
# When a DRI2 swap takes effect

`ms_dri2_schedule_swap` and `ms_dri2_schedule_wait_msc` of `src/dri2.c` turn a target,
a divisor and a remainder into the count they queue a vblank for.  A swap by page flip
is queued one frame early.

`OnTime` is what `GLX_OML_sync_control` asks for.  The wait meets it always.  The swap
lowers its target by the frame of the flip before it compares it with the current
count, so that with a divisor a target right after the current count counts as passed:
`swap_and_wait_onTime_iff`.
-/

namespace LoongsonVideo.Driver.SwapTiming

open LoongsonVideo.Driver.Dri2FrameEvent
open LoongsonVideo.Driver.QueueVblank

/-- The next count after `current` that leaves this remainder. -/
def nextMatch (current divisor remainder : Nat) : Nat :=
  current - current % divisor + remainder +
    if remainder ≤ current % divisor then divisor else 0

/-- **The timing** `GLX_OML_sync_control` asks for: the target when it is still to come,
else the first count after the current one that leaves the remainder. -/
def OnTime (current target divisor remainder m : Nat) : Prop :=
  (current < target → m = target) ∧
    (target ≤ current → 0 < divisor → IsLeast {n | current < n ∧ n % divisor = remainder} m)

theorem nextMatch_isLeast (current : Nat) {divisor remainder : Nat} (hrem : remainder < divisor) :
    IsLeast {n | current < n ∧ n % divisor = remainder} (nextMatch current divisor remainder) := by
  have hdiv : 0 < divisor := Nat.zero_lt_of_lt hrem
  have hlt := Nat.mod_lt current hdiv
  have hsplit := Nat.div_add_mod current divisor
  have hbase : current - current % divisor = divisor * (current / divisor) := by omega
  refine ⟨⟨?_, ?_⟩, ?_⟩
  · rw [nextMatch]
    split <;> omega
  · rw [nextMatch, hbase]
    split
    · rw [Nat.add_mod_right, Nat.mul_add_mod, Nat.mod_eq_of_lt hrem]
    · rw [Nat.add_zero, Nat.mul_add_mod, Nat.mod_eq_of_lt hrem]
  · rintro n ⟨hn, hmod⟩
    have hn' := Nat.div_add_mod n divisor
    rw [hmod] at hn'
    have hle : current / divisor ≤ n / divisor := Nat.div_le_div_right hn.le
    rw [nextMatch, hbase]
    split
    · next hpassed =>
        -- The multiple of `current` is used up, so `n` is at least one further.
        have hnext : current / divisor + 1 ≤ n / divisor := by
          by_contra hnot
          have heq : n / divisor = current / divisor := by omega
          rw [heq] at hn'
          omega
        have hmul := Nat.mul_le_mul_left divisor hnext
        rw [Nat.mul_add, Nat.mul_one] at hmul
        omega
    · have hmul := Nat.mul_le_mul_left divisor hle
      omega

/-! ## The counts that are queued -/

section Requests

variable {current target divisor remainder : UInt64}

/-- The count both functions come to when the target has passed. -/
theorem request_toNat
    (hfits : nextMatch current.toNat divisor.toNat remainder.toNat < 2 ^ 64) :
    (current - current % divisor + remainder).toNat =
      current.toNat - current.toNat % divisor.toNat + remainder.toNat := by
  have hmod : (current % divisor).toNat = current.toNat % divisor.toNat := UInt64.toNat_mod _ _
  have hle : current % divisor ≤ current := by
    rw [UInt64.le_iff_toNat_le, hmod]
    exact Nat.mod_le _ _
  rw [nextMatch] at hfits
  rw [UInt64.toNat_add, UInt64.toNat_sub_of_le _ _ hle, hmod, Nat.mod_eq_of_lt (by omega)]

theorem request_add_toNat
    (hfits : nextMatch current.toNat divisor.toNat remainder.toNat < 2 ^ 64)
    (hpassed : remainder.toNat ≤ current.toNat % divisor.toNat) :
    (current - current % divisor + remainder + divisor).toNat =
      nextMatch current.toNat divisor.toNat remainder.toNat := by
  rw [UInt64.toNat_add, request_toNat hfits]
  rw [nextMatch, if_pos hpassed] at hfits ⊢
  exact Nat.mod_eq_of_lt hfits

/-- The target a swap compares with the current count. -/
def earlyTarget (target : UInt64) (flip : Bool) : Nat := target.toNat - (flipDelay flip).toNat

theorem flipDelay_toNat (flip : Bool) : (flipDelay flip).toNat = if flip then 1 else 0 := by
  cases flip <;> rfl

theorem earlyTarget_eq (target : UInt64) (flip : Bool) :
    (if target > 0 then target - flipDelay flip else target).toNat = earlyTarget target flip := by
  rw [earlyTarget]
  have hdelay := flipDelay_toNat flip
  split
  · next hpos =>
      have hpos' : 0 < target.toNat := UInt64.lt_iff_toNat_lt.mp hpos
      refine UInt64.toNat_sub_of_le _ _ (UInt64.le_iff_toNat_le.mpr ?_)
      rw [hdelay]
      split <;> omega
  · next hnot =>
      have hzero : ¬ 0 < target.toNat := fun h => hnot (UInt64.lt_iff_toNat_lt.mpr h)
      omega

/-- The count a wait is queued for. -/
theorem waitRequest_toNat
    (hfits : 0 < divisor.toNat →
      nextMatch current.toNat divisor.toNat remainder.toNat < 2 ^ 64) :
    (waitRequest current target divisor remainder).toNat =
      if divisor.toNat = 0 ∨ current.toNat < target.toNat then max current.toNat target.toNat
      else nextMatch current.toNat divisor.toNat remainder.toNat := by
  have hzero : divisor = 0 ↔ divisor.toNat = 0 := UInt64.toNat_inj.symm
  simp only [waitRequest, hzero, UInt64.lt_iff_toNat_lt, ge_iff_le, UInt64.le_iff_toNat_le,
    UInt64.toNat_mod]
  split
  · split <;> omega
  · next hlate =>
      have hpos : 0 < divisor.toNat := by omega
      split
      · next hpassed => exact request_add_toNat (hfits hpos) hpassed
      · next hnot => rw [request_toNat (hfits hpos), nextMatch, if_neg hnot, Nat.add_zero]

/-- The count a swap is queued for. -/
theorem swapRequest_toNat (flip : Bool)
    (hrem : 0 < divisor.toNat → remainder.toNat < divisor.toNat)
    (hfits : 0 < divisor.toNat →
      nextMatch current.toNat divisor.toNat remainder.toNat < 2 ^ 64) :
    (swapRequest current target divisor remainder flip).toNat =
      if divisor.toNat = 0 ∨ current.toNat < earlyTarget target flip then
        max current.toNat (earlyTarget target flip)
      else nextMatch current.toNat divisor.toNat remainder.toNat - (flipDelay flip).toNat := by
  have hearly := earlyTarget_eq target flip
  have hzero : divisor = 0 ↔ divisor.toNat = 0 := UInt64.toNat_inj.symm
  simp only [swapRequest]
  generalize (if target > 0 then target - flipDelay flip else target) = early at hearly ⊢
  simp only [hzero, UInt64.lt_iff_toNat_lt, ge_iff_le, UInt64.le_iff_toNat_le, hearly]
  split
  · split <;> omega
  · next hlate =>
      have hpos : 0 < divisor.toNat := by omega
      have hbase := request_toNat (hfits hpos)
      have hlt := Nat.mod_lt current.toNat hpos
      have hmod := Nat.mod_le current.toNat divisor.toNat
      have hnext : (if (current - current % divisor + remainder).toNat ≤ current.toNat then
          current - current % divisor + remainder + divisor
          else current - current % divisor + remainder).toNat =
            nextMatch current.toNat divisor.toNat remainder.toNat := by
        rw [hbase]
        split
        · next hpassed => exact request_add_toNat (hfits hpos) (by omega)
        · next hnot => rw [hbase, nextMatch, if_neg (by omega), Nat.add_zero]
      have hafter := (nextMatch_isLeast current.toNat (hrem hpos)).1.1
      have hdelay := flipDelay_toNat flip
      rw [UInt64.toNat_sub_of_le, hnext]
      rw [UInt64.le_iff_toNat_le, hnext, hdelay]
      split <;> omega

end Requests

/-- What is compared with the target itself is on time. -/
theorem onTime_of_target (current target : Nat) {divisor remainder : Nat}
    (hrem : 0 < divisor → remainder < divisor) :
    OnTime current target divisor remainder
      (if divisor = 0 ∨ current < target then max current target
        else nextMatch current divisor remainder) := by
  refine ⟨fun hlt => ?_, fun hle hpos => ?_⟩
  · rw [if_pos (Or.inr hlt)]
    exact Nat.max_eq_right hlt.le
  · rw [if_neg (by omega)]
    exact nextMatch_isLeast current (hrem hpos)

/-- **The wait** is always queued on time. -/
theorem wait_onTime {current target divisor remainder : UInt64}
    (hrem : 0 < divisor.toNat → remainder.toNat < divisor.toNat)
    (hfits : 0 < divisor.toNat →
      nextMatch current.toNat divisor.toNat remainder.toNat < 2 ^ 64) :
    OnTime current.toNat target.toNat divisor.toNat remainder.toNat
      (waitRequest current target divisor remainder).toNat := by
  rw [waitRequest_toNat hfits]
  exact onTime_of_target current.toNat target.toNat hrem

/-- The swap is late for a target right after the current count, when it flips and the
target does not leave the remainder. -/
def TargetMissed (current target divisor remainder : UInt64) (flip : Bool) : Prop :=
  flip = true ∧ 0 < divisor.toNat ∧ target.toNat = current.toNat + 1 ∧
    (current.toNat + 1) % divisor.toNat ≠ remainder.toNat

/-- **The swap** takes effect on time exactly when it does not miss such a target. -/
theorem swap_onTime_iff {current target divisor remainder : UInt64} {flip : Bool}
    (hrem : 0 < divisor.toNat → remainder.toNat < divisor.toNat)
    (hfits : 0 < divisor.toNat →
      nextMatch current.toNat divisor.toNat remainder.toNat < 2 ^ 64) :
    OnTime current.toNat target.toNat divisor.toNat remainder.toNat
        ((swapRequest current target divisor remainder flip).toNat + (flipDelay flip).toNat) ↔
      ¬ TargetMissed current target divisor remainder flip := by
  rw [swapRequest_toNat flip hrem hfits, earlyTarget, flipDelay_toNat]
  cases flip with
  | false =>
      have hnot : ¬ TargetMissed current target divisor remainder false := fun h => by cases h.1
      simp only [Bool.false_eq_true, if_false, Nat.sub_zero, Nat.add_zero, hnot,
        not_false_eq_true, iff_true]
      exact onTime_of_target current.toNat target.toNat hrem
  | true =>
      simp only [if_true]
      by_cases hearly : divisor.toNat = 0 ∨ current.toNat < target.toNat - 1
      · -- The request comes before the equation is used.
        rw [if_pos hearly]
        constructor
        · rintro - ⟨-, hpos, htarget, -⟩
          omega
        · exact fun _ => ⟨fun hlt => by omega, fun hle hpos => by omega⟩
      · rw [if_neg hearly]
        have hpos : 0 < divisor.toNat := by omega
        have hleast := nextMatch_isLeast current.toNat (hrem hpos)
        have hafter : current.toNat < nextMatch current.toNat divisor.toNat remainder.toNat :=
          hleast.1.1
        rw [Nat.sub_add_cancel (by omega)]
        constructor
        · rintro hon ⟨-, -, htarget, hmod⟩
          have heq := hon.1 (by omega)
          rw [htarget] at heq
          exact hmod (heq ▸ hleast.1.2)
        · intro hnot
          refine ⟨fun hlt => ?_, fun _ _ => hleast⟩
          have htarget : target.toNat = current.toNat + 1 := by omega
          have hmod : (current.toNat + 1) % divisor.toNat = remainder.toNat := by
            by_contra hne
            exact hnot ⟨rfl, hpos, htarget, hne⟩
          have hle := hleast.2 ⟨Nat.lt_succ_self _, hmod⟩
          omega

/-! ## What the calls ask for -/

section Calls

variable {s t u : Dri2State} {r crtc : Nat}

/-- Nothing is asked for, and the counts are as they were. -/
structure Silent (s t : Dri2State) : Prop where
  requests : t.requests = s.requests
  queueSequence : t.queueSequence = s.queueSequence
  msc : t.msc = s.msc

theorem Silent.trans (h : Silent s t) (h' : Silent t u) : Silent s u where
  requests := h'.requests.trans h.requests
  queueSequence := h'.queueSequence.trans h.queueSequence
  msc := h'.msc.trans h.msc

theorem silent_refl (s : Dri2State) : Silent s s := ⟨rfl, rfl, rfl⟩

theorem silent_xorgListAdd (s : Dri2State) (r : Nat) (type : Restype) (id : Nat) :
    Silent s (xorgListAdd s r type id) := by
  constructor <;> rfl

theorem silent_xorgListDel (s : Dri2State) (r : Nat) (type : Restype) :
    Silent s (xorgListDel s r type) := by
  simp only [xorgListDel]
  split <;> exact ⟨rfl, rfl, rfl⟩

theorem silent_dropBuffer (s : Dri2State) (x : Resource) (buffer : Option Nat) :
    Silent s (dropBuffer s x buffer) := by
  cases buffer <;> exact ⟨rfl, rfl, rfl⟩

theorem silent_delFrameEvent (s : Dri2State) (r : Nat) : Silent s (msDri2DelFrameEvent s r) := by
  have hlists := (silent_xorgListDel s r .client).trans (silent_xorgListDel _ r .drawable)
  have hbuffers : ∀ t : Dri2State, ∀ front : Option Nat, ∀ back : Dri2State → Option Nat,
      Silent t (dropBuffer (dropBuffer t (.front r) front) (.back r)
        (back (dropBuffer t (.front r) front))) := fun t front back =>
    (silent_dropBuffer t (.front r) front).trans (silent_dropBuffer _ (.back r) _)
  exact (hlists.trans (hbuffers _ _ fun t => (t.records r).back)).trans ⟨rfl, rfl, rfl⟩

theorem silent_getResource (s : Dri2State) (id : Nat) (type : Restype) (a : Registration) :
    Silent s (msGetResource s id type a).1 := by
  unfold msGetResource
  split
  · exact silent_refl s
  · split
    · exact silent_refl s
    · split
      · exact silent_refl s
      · exact ⟨rfl, rfl, rfl⟩

theorem silent_addFrameEvent (s : Dri2State) (r client drawable : Nat) (a b : Registration) :
    Silent s (msDri2AddFrameEvent s r client drawable a b).1 := by
  have hclient := silent_getResource s client .client a
  unfold msDri2AddFrameEvent
  split
  · next t hget => exact hget ▸ hclient
  · next t hget =>
      have hlinked : Silent s (xorgListAdd t r .client client) :=
        (hget ▸ hclient).trans (silent_xorgListAdd t r .client client)
      have hdrawable := hlinked.trans
        (silent_getResource (xorgListAdd t r .client client) drawable .drawable b)
      split
      · next u hget' => exact (hget' ▸ hdrawable).trans (silent_xorgListDel u r .client)
      · next u hget' =>
          exact (hget' ▸ hdrawable).trans (silent_xorgListAdd u r .drawable drawable)

/-! Events that are delivered ask for nothing. -/

theorem scheduleFlip_requests {flushed : Dri2State → Dri2State}
    (hf : ∀ s, (flushed s).requests = s.requests) (s : Dri2State) (r drawable : Nat)
    (o : FlipOutcome) : (msDri2ScheduleFlip s r drawable o flushed).1.requests = s.requests := by
  unfold msDri2ScheduleFlip
  split
  · rfl
  · simp only
    split
    · exact hf _
    · split <;> exact hf _

theorem completeFrameEvent_requests {flushed : Dri2State → Dri2State}
    (hf : ∀ s, (flushed s).requests = s.requests) (s : Dri2State) (r drawable : Nat)
    (msc usec : UInt64) (o : FlipOutcome) :
    (completeFrameEvent s r drawable msc usec o flushed).requests = s.requests := by
  unfold completeFrameEvent
  split
  · have hflip := scheduleFlip_requests hf s r drawable o
    split
    · generalize msDri2ScheduleFlip s r drawable o flushed = out at hflip ⊢
      obtain ⟨t, flipped⟩ := out
      cases flipped <;> exact hflip
    · rfl
  · rfl
  · split <;> rfl

theorem frameEventHandler_requests {flushed : Dri2State → Dri2State}
    (hf : ∀ s, (flushed s).requests = s.requests) (s : Dri2State) (r : Nat) (msc usec : UInt64)
    (o : FlipOutcome) : (msDri2FrameEventHandler s r msc usec o flushed).requests = s.requests := by
  simp only [msDri2FrameEventHandler]
  split
  · exact (silent_delFrameEvent _ r).requests
  · rw [(silent_delFrameEvent _ r).requests, completeFrameEvent_requests hf]
    rfl

mutual

theorem deliver_requests : ∀ (d : Delivery) (s : Dri2State), (d.deliver s).requests = s.requests
  | .vblank k frame is64bit usec o flushed, s => by
      rw [Delivery.deliver]
      split
      · split
        · rfl
        · exact frameEventHandler_requests (fun t => deliverAll_requests flushed t) _ _ _ usec o
      · rfl
  | .flip k msc ust, s => by
      rw [Delivery.deliver]
      split
      · rfl
      · rw [msDri2FlipHandler]
        split <;> rfl

theorem deliverAll_requests : ∀ (ds : List Delivery) (s : Dri2State),
    (deliverAll ds s).requests = s.requests
  | [], s => by rw [deliverAll]
  | d :: ds, s => by
      rw [deliverAll, deliverAll_requests ds, deliver_requests d]

end

theorem abortSeq_requests (s : Dri2State) (k : Nat) : (msDrmAbortSeq s k).requests = s.requests := by
  unfold msDrmAbortSeq
  split
  · rfl
  · exact (silent_delFrameEvent _ _).requests

theorem queueVblank_requests (crtc seq : Nat) (turns : List QueueTurn) (s : Dri2State) :
    (msQueueVblank s crtc seq turns).1.requests = s.requests := by
  induction turns generalizing s with
  | nil => rfl
  | cons turn turns ih =>
      rw [msQueueVblank]
      split
      · rfl
      · simp only
        split
        · exact abortSeq_requests _ seq
        · rw [ih, deliverAll_requests]

/-- At most this count has been asked for. -/
def AsksAtMost (s t : Dri2State) (m : UInt64) : Prop :=
  t.requests = s.requests ∨ ∃ flags, t.requests = (flags, m) :: s.requests

/-- This count has been asked for. -/
def Asks (s t : Dri2State) (m : UInt64) : Prop := ∃ flags, t.requests = (flags, m) :: s.requests

theorem AsksAtMost.unique {m m' : UInt64} (h : AsksAtMost s t m) (h' : Asks s t m') : m' = m := by
  obtain ⟨flags', heq'⟩ := h'
  cases h with
  | inl heq =>
      rw [heq] at heq'
      exact absurd (congrArg List.length heq') (by simp)
  | inr hex =>
      obtain ⟨flags, heq⟩ := hex
      rw [heq] at heq'
      have hhead := (List.cons.inj heq').1
      exact (Prod.mk.inj hhead).2.symm

theorem AsksAtMost.of_requests {m : UInt64} (h : AsksAtMost s t m) (hbefore : s.requests = u.requests) :
    AsksAtMost u t m := by
  cases h with
  | inl heq => exact Or.inl (heq.trans hbefore)
  | inr hex => exact Or.inr (hbefore ▸ hex)

theorem AsksAtMost.then {m : UInt64} (h : AsksAtMost s t m) (hafter : u.requests = t.requests) :
    AsksAtMost s u m := by
  rw [AsksAtMost, hafter]
  exact h

theorem queueFrameEvent_asks (s : Dri2State) (r crtc : Nat) (flags : QueueFlag) (m : UInt64)
    (allocOk : Bool) (turns : List QueueTurn) :
    AsksAtMost s (queueFrameEvent s r crtc flags m allocOk turns).1 m := by
  unfold queueFrameEvent
  split
  · exact Or.inl rfl
  · exact Or.inr ⟨flags, queueVblank_requests crtc s.queue.next turns _⟩

theorem blitFallback_requests (s : Dri2State) (c : SwapCall) (frameInfo : Option Nat) :
    (blitFallback s c frameInfo).1.requests = s.requests := by
  cases frameInfo with
  | none => rfl
  | some r => exact (silent_delFrameEvent _ r).requests

/-- `current_msc` of a call: what the query on its CRTC answers. -/
def callMsc (s : Dri2State) (c : Call) : Option UInt64 :=
  c.covering.bind fun crtc => (getCrtcUstMsc s crtc c.getMsc).2.map UstMsc.msc

theorem getCrtcUstMsc_congr (h : Silent s t) (crtc : Nat) (answer : GetAnswer) :
    (getCrtcUstMsc t crtc answer).2 = (getCrtcUstMsc s crtc answer).2 := by
  simp only [getCrtcUstMsc, h.queueSequence, h.msc]

theorem swapFromQuery_asks (s : Dri2State) (c : SwapCall) (crtc r : Nat) {current : UInt64}
    (hcurrent : (getCrtcUstMsc s crtc c.getMsc).2.map UstMsc.msc = some current) :
    AsksAtMost s (swapFromQuery s c crtc r).1
      (swapRequest current c.targetMsc c.divisor c.remainder c.canFlip) := by
  have hquiet : (getCrtcUstMsc s crtc c.getMsc).1.requests = s.requests := rfl
  unfold swapFromQuery
  generalize getCrtcUstMsc s crtc c.getMsc = out at hcurrent hquiet ⊢
  obtain ⟨t, found⟩ := out
  cases found with
  | none => exact Or.inl ((blitFallback_requests t c (some r)).trans hquiet)
  | some found =>
      have hfound : found.msc = current := Option.some.inj hcurrent
      simp only [hfound]
      generalize hmark : (if c.canFlip then (t.act (.touch (.record r))).setRecord r
        { t.records r with type := .queueFlip } else t) = marked
      have hmarked : marked.requests = s.requests := by
        rw [← hquiet, ← hmark]
        split <;> rfl
      have hasks := (queueFrameEvent_asks marked r crtc ⟨false, !c.canFlip⟩
        (swapRequest current c.targetMsc c.divisor c.remainder c.canFlip) c.queueAllocOk
        c.turns).of_requests hmarked
      generalize queueFrameEvent marked r crtc _ _ c.queueAllocOk c.turns = out at hasks ⊢
      obtain ⟨u, result⟩ := out
      cases result with
      | none => exact hasks.then (blitFallback_requests u c (some r))
      | some result =>
          cases result with
          | queued m => exact hasks
          | refused => exact hasks.then (blitFallback_requests u c (some r))
          | looping => exact hasks

theorem waitFromQuery_asks (s : Dri2State) (c : WaitCall) (crtc r : Nat) :
    AsksAtMost s (waitFromQuery s c crtc r)
      (waitRequest (((getCrtcUstMsc s crtc c.getMsc).2.map UstMsc.msc).getD c.stackMsc)
        c.targetMsc c.divisor c.remainder) := by
  have hquiet : (getCrtcUstMsc s crtc c.getMsc).1.requests = s.requests := rfl
  unfold waitFromQuery
  generalize getCrtcUstMsc s crtc c.getMsc = out at hquiet ⊢
  obtain ⟨t, found⟩ := out
  simp only at hquiet ⊢
  generalize waitRequest _ c.targetMsc c.divisor c.remainder = m
  have hasks := (queueFrameEvent_asks t r crtc ⟨false, false⟩ m c.queueAllocOk
    c.turns).of_requests hquiet
  generalize queueFrameEvent t r crtc _ m c.queueAllocOk c.turns = out at hasks ⊢
  obtain ⟨u, result⟩ := out
  have hfree : ∀ target, (outFree u c r target).requests = u.requests := fun target =>
    (silent_delFrameEvent u r).requests
  cases result with
  | none => exact hasks.then (hfree c.targetMsc)
  | some result =>
      cases result with
      | queued m => exact hasks
      | refused => exact hasks.then (hfree _)
      | looping => exact hasks

/-- **`ms_dri2_schedule_swap`** asks for the count of the query's answer, if for any. -/
theorem msDri2ScheduleSwap_asks (s : Dri2State) (c : SwapCall) {current : UInt64}
    (hcurrent : callMsc s c.toCall = some current) :
    AsksAtMost s (msDri2ScheduleSwap s c).1
      (swapRequest current c.targetMsc c.divisor c.remainder c.canFlip) := by
  unfold msDri2ScheduleSwap
  cases hcrtc : c.covering with
  | none => exact Or.inl (blitFallback_requests s c none)
  | some crtc =>
      simp only
      split
      · exact Or.inl (blitFallback_requests s c none)
      · have hadded := silent_addFrameEvent (newRecord s
          ⟨some c.draw, some c.client, .queueSwap, some c.front, some c.back, fun _ => none⟩)
          s.nextRecord c.client c.draw c.registerClient c.registerDrawable
        have hnew : Silent s (newRecord s ⟨some c.draw, some c.client, .queueSwap, some c.front,
          some c.back, fun _ => none⟩) := ⟨rfl, rfl, rfl⟩
        generalize msDri2AddFrameEvent _ s.nextRecord c.client c.draw c.registerClient
          c.registerDrawable = out at hadded ⊢
        obtain ⟨t, registered⟩ := out
        have hsilent := hnew.trans hadded
        cases registered with
        | false => exact Or.inl ((blitFallback_requests _ c none).trans hsilent.requests)
        | true =>
            have hreferenced : Silent s (msDri2ReferenceBuffer (msDri2ReferenceBuffer t
              (.front s.nextRecord) c.front) (.back s.nextRecord) c.back) :=
              hsilent.trans ⟨rfl, rfl, rfl⟩
            refine (swapFromQuery_asks _ c crtc s.nextRecord ?_).of_requests hreferenced.requests
            rw [getCrtcUstMsc_congr hreferenced]
            rw [callMsc, hcrtc] at hcurrent
            exact hcurrent

/-- **`ms_dri2_schedule_wait_msc`** too. -/
theorem msDri2ScheduleWaitMsc_asks (s : Dri2State) (c : WaitCall) :
    AsksAtMost s (msDri2ScheduleWaitMsc s c)
      (waitRequest ((callMsc s c.toCall).getD c.stackMsc) c.targetMsc c.divisor c.remainder) := by
  unfold msDri2ScheduleWaitMsc
  cases hcrtc : c.covering with
  | none => exact Or.inl rfl
  | some crtc =>
      simp only
      split
      · exact Or.inl rfl
      · have hadded := silent_addFrameEvent (newRecord s
          ⟨some c.draw, some c.client, .waitMsc, none, none, fun _ => none⟩)
          s.nextRecord c.client c.draw c.registerClient c.registerDrawable
        have hnew : Silent s (newRecord s ⟨some c.draw, some c.client, .waitMsc, none, none,
          fun _ => none⟩) := ⟨rfl, rfl, rfl⟩
        generalize msDri2AddFrameEvent _ s.nextRecord c.client c.draw c.registerClient
          c.registerDrawable = out at hadded ⊢
        obtain ⟨t, registered⟩ := out
        have hsilent := hnew.trans hadded
        cases registered with
        | false => exact Or.inl hsilent.requests
        | true =>
            have hasks := (waitFromQuery_asks t c crtc s.nextRecord).of_requests hsilent.requests
            rw [getCrtcUstMsc_congr hsilent] at hasks
            rw [callMsc, hcrtc]
            exact hasks

/-- **Both calls are on time** exactly when the swap does not miss a target right after
the current count. -/
theorem swap_and_wait_onTime_iff {swap : SwapCall} {wait : WaitCall}
    {current asked asked' : UInt64} (hcurrent : callMsc s swap.toCall = some current)
    (hcurrent' : (callMsc t wait.toCall).getD wait.stackMsc = current)
    (hsame : wait.targetMsc = swap.targetMsc ∧ wait.divisor = swap.divisor ∧
      wait.remainder = swap.remainder)
    (hrem : 0 < swap.divisor.toNat → swap.remainder.toNat < swap.divisor.toNat)
    (hfits : 0 < swap.divisor.toNat →
      nextMatch current.toNat swap.divisor.toNat swap.remainder.toNat < 2 ^ 64)
    (hasked : Asks s (msDri2ScheduleSwap s swap).1 asked)
    (hasked' : Asks t (msDri2ScheduleWaitMsc t wait) asked') :
    (OnTime current.toNat swap.targetMsc.toNat swap.divisor.toNat swap.remainder.toNat
        (asked.toNat + (flipDelay swap.canFlip).toNat) ∧
      OnTime current.toNat swap.targetMsc.toNat swap.divisor.toNat swap.remainder.toNat
        asked'.toNat) ↔
      ¬ TargetMissed current swap.targetMsc swap.divisor swap.remainder swap.canFlip := by
  obtain ⟨htarget, hdivisor, hremainder⟩ := hsame
  have hswap := (msDri2ScheduleSwap_asks s swap hcurrent).unique hasked
  have hwait := (msDri2ScheduleWaitMsc_asks t wait).unique hasked'
  rw [hcurrent', htarget, hdivisor, hremainder] at hwait
  rw [hswap, hwait, ← swap_onTime_iff hrem hfits]
  exact and_iff_left (wait_onTime hrem hfits)

end Calls

/-- A swap on a displayed drawable that every request is granted to. -/
def grantedSwap (targetMsc divisor remainder : UInt64) (canFlip : Bool) : SwapCall where
  client := 1
  draw := 2
  covering := some 0
  callocOk := true
  registerClient := ⟨true, true⟩
  registerDrawable := ⟨true, true⟩
  getMsc := ⟨.ok ⟨10, 0⟩, .error .enotty⟩
  queueAllocOk := true
  turns := [⟨⟨.ok 20, .error .enotty⟩, []⟩]
  targetMsc := targetMsc
  divisor := divisor
  remainder := remainder
  front := 10
  back := 11
  canFlip := canFlip

/-- The wait with the same arguments. -/
def grantedWait (targetMsc divisor remainder : UInt64) : WaitCall :=
  { (grantedSwap targetMsc divisor remainder false).toCall with stackMsc := 0 }

/-- Before the first call. -/
def quietStart : Dri2State :=
  Dri2State.start (fun _ => ⟨none, none, .queueSwap, none, none, fun _ => none⟩) fun _ => 1

/-- A flip for a frame two ahead is on time, and so is the wait. -/
theorem swap_and_wait_onTime_ahead :
    (OnTime 10 12 5 3 12 ∧ OnTime 10 12 5 3 12) ↔ ¬ TargetMissed 10 12 5 3 true :=
  @swap_and_wait_onTime_iff quietStart quietStart (grantedSwap 12 5 3 true)
    (grantedWait 12 5 3) 10 11 12
    (by decide) (by decide) ⟨rfl, rfl, rfl⟩ (by decide) (by decide) ⟨⟨false, false⟩, rfl⟩
    ⟨⟨false, false⟩, rfl⟩

/-- **A flip for the next frame is late**: 10 is the current count, the swap is for 11,
and with divisor 5 and remainder 3 it takes effect at 13.  The wait is for 11. -/
theorem next_frame_flip_late :
    callMsc quietStart (grantedSwap 11 5 3 true).toCall = some 10 ∧
      (msDri2ScheduleSwap quietStart (grantedSwap 11 5 3 true)).1.requests =
        [(⟨false, false⟩, 12)] ∧
      (msDri2ScheduleWaitMsc quietStart (grantedWait 11 5 3)).requests =
        [(⟨false, false⟩, 11)] ∧
      ¬ OnTime 10 11 5 3 (12 + (flipDelay true).toNat) := by
  refine ⟨by decide, rfl, rfl, fun hon => ?_⟩
  exact absurd (hon.1 (by decide)) (by decide)

end LoongsonVideo.Driver.SwapTiming
