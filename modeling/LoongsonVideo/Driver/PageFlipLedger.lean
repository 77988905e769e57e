import LoongsonVideo.Driver.PageFlipRun
import Mathlib.Algebra.Order.Group.Multiset
import Mathlib.Tactic.Abel

/-!
# References and framebuffers of page flips

The invariant of the flip code, over its moves.

* `refs`: who refers to a flip.  Its queued carriers, the carrier whose handler
  runs, and the call that is still queueing it.  `flip_count` is their number.
* `owned`: what the state owns.  A flip that is referred to owns itself and the
  framebuffer it replaced; the screen owns the one in `fb_id`.
* `Inv`: the two, and that the ledger of the run is lawful and holds exactly
  what is owned, but for the framebuffers in `leaked`.

`Move.inv` carries it along every move.  Only one move leaks: an abort of the
last entry of a flip frees the flip without removing the framebuffer it
replaced, which the handler does.
-/

namespace LoongsonVideo.Driver.PageFlipLedger

open LoongsonVideo.Driver.PageFlip
open LoongsonVideo.Driver.PageFlipRun
open LoongsonVideo.Verified
open LoongsonVideo.Verified.Ledger
open LoongsonVideo.Verified.Machine

variable {ε σ : Type*}

@[simp] theorem ledger_nil : ledger [] = [] := rfl

@[simp] theorem ledger_cons (line : FlipLine) (log : List FlipLine) :
    ledger (line :: log) = line.acts ++ ledger log := List.flatMap_cons

/-- How many aborts found a `flip_count` of one. -/
def lastAborts : List FlipLine → Nat
  | [] => 0
  | .aborted _ _ _ flipCount :: log => lastAborts log + if flipCount = 1 then 1 else 0
  | _ :: log => lastAborts log

/-- Those who refer to flip `f`: queued carriers, carriers whose handler runs,
calls in their loop. -/
def refs (m : Stacked ε σ) (f : Nat) : Nat :=
  m.st.outstanding f + m.running.countP (fun r => r.2.flipdata == f) +
    m.frames.countP (fun frame => frame.f == f)

/-- What the state owns while the flips `live` are referred to and the
framebuffers `leaked` have been forgotten. -/
def owned (live leaked : Multiset Nat) (m : Stacked ε σ) : Multiset Resource :=
  {.fb m.st.fbId} + leaked.map .fb + live.map (fun f => .fb (m.st.flips f).oldFbId) +
    live.map .flipdata + (m.frames : Multiset Frame).map (fun frame => .newFront frame.f) +
    (m.st.queue.tokens : Multiset Nat).map .carrier +
    (m.running : Multiset (Nat × Carrier)).map (fun r => .carrier r.1)

theorem flipdata_mem_owned {live leaked : Multiset Nat} {m : Stacked ε σ} {f : Nat} :
    .flipdata f ∈ owned live leaked m ↔ f ∈ live := by
  simp [owned]

theorem newFront_mem_owned {live leaked : Multiset Nat} {m : Stacked ε σ} {f : Nat} :
    .newFront f ∈ owned live leaked m ↔ ∃ frame ∈ m.frames, frame.f = f := by
  simp [owned]

theorem carrier_mem_owned {live leaked : Multiset Nat} {m : Stacked ε σ} {k : Nat} :
    .carrier k ∈ owned live leaked m ↔
      k ∈ m.st.queue.tokens ∨ ∃ flip, (k, flip) ∈ m.running := by
  simp [owned]

/-- The references of every flip are counted, a running handler's carrier is
its flip's last, the ledger holds what the state owns, and each abort of a last
reference has leaked a framebuffer. -/
structure Inv (live leaked : Multiset Nat) (m : Stacked ε σ) : Prop where
  liveIff : ∀ f, f ∈ live ↔ 0 < refs m f
  count : ∀ f, 0 < refs m f → (m.st.flips f).flipCount = refs m f
  sole : ∀ r ∈ m.running, refs m r.2.flipdata = 1
  fresh : ∀ f, m.st.calls ≤ f → refs m f = 0
  runningLt : ∀ r ∈ m.running, r.1 < m.st.queue.next
  owns : Owns (ledger m.st.log) (owned live leaked m)
  leaks : leaked.card = lastAborts m.st.log

theorem inv_start (fbId : Nat) (flips : Nat → Flipdata ε) (client : σ) :
    Inv 0 0 ⟨[], [], FlipState.start fbId flips client⟩ := by
  have hrefs : ∀ f, refs (⟨[], [], FlipState.start fbId flips client⟩ : Stacked ε σ) f = 0 := by
    intro f
    simp [refs, FlipState.start, FlipState.outstanding]
  refine ⟨?_, ?_, ?_, fun f _ => hrefs f, ?_, ?_, rfl⟩
  · intro f
    simp [hrefs]
  · intro f hf
    simp [hrefs] at hf
  · intro r hr
    cases hr
  · intro r hr
    cases hr
  · have hempty : Owns ([] : List (Act Resource)) 0 := ⟨trivial, rfl⟩
    have hone := hempty.acquire (r := .fb fbId) (by simp)
    simpa [FlipState.start, owned, FlipLine.acts, Pending.tokens] using hone

section Moves

variable {live leaked : Multiset Nat} {frames : List Frame} {running : List (Nat × Carrier)}
  {s s' : FlipState ε σ}

theorem refs_pos_of_frame {c : Frame} (hmem : c ∈ frames) :
    0 < refs ⟨frames, running, s⟩ c.f := by
  have hpos : 0 < frames.countP (fun fr => fr.f == c.f) :=
    List.countP_pos_iff.mpr ⟨c, hmem, by simp⟩
  simp only [refs]
  omega

/-- A move that changes neither the queue nor a flip in use. -/
theorem Inv.frame (h : Inv live leaked ⟨frames, running, s⟩) (hqueue : s'.queue = s.queue)
    (hflips : ∀ f ∈ live, s'.flips f = s.flips f) (hfb : s'.fbId = s.fbId)
    (hcalls : s.calls ≤ s'.calls)
    (howns : Owns (ledger s'.log) (owned live leaked ⟨frames, running, s⟩))
    (hleaks : lastAborts s'.log = lastAborts s.log) :
    Inv live leaked ⟨frames, running, s'⟩ := by
  have hrefs : ∀ f, refs ⟨frames, running, s'⟩ f = refs ⟨frames, running, s⟩ f := by
    intro f
    simp only [refs, FlipState.outstanding, hqueue]
  refine ⟨fun f => ?_, fun f hf => ?_, fun r hr => ?_, fun f hf => ?_, fun r hr => ?_, ?_,
    h.leaks.trans hleaks.symm⟩
  · rw [hrefs, h.liveIff]
  · rw [hrefs] at hf ⊢
    rw [hflips f ((h.liveIff f).mpr hf)]
    exact h.count f hf
  · rw [hrefs]
    exact h.sole r hr
  · rw [hrefs]
    exact h.fresh f (Nat.le_trans hcalls hf)
  · rw [hqueue]
    exact h.runningLt r hr
  · have holds : live.map (fun f => Resource.fb (s'.flips f).oldFbId) =
        live.map (fun f => Resource.fb (s.flips f).oldFbId) :=
      Multiset.map_congr rfl fun f hf => by rw [hflips f hf]
    simpa only [owned, hqueue, hfb, holds] using howns

theorem Inv.next_not_live (h : Inv live leaked ⟨frames, running, s⟩) : s.calls ∉ live := by
  rw [h.liveIff, h.fresh _ (Nat.le_refl _)]
  exact Nat.lt_irrefl 0

theorem Inv.next_carrier (h : Inv live leaked ⟨frames, running, s⟩) :
    .carrier s.queue.next ∉ owned live leaked ⟨frames, running, s⟩ := by
  rw [carrier_mem_owned]
  rintro (hin | ⟨flip, hin⟩)
  · exact Nat.lt_irrefl _ (Pending.lt_next_of_mem hin)
  · exact Nat.lt_irrefl _ (h.runningLt _ hin)

theorem Inv.next_newFront (h : Inv live leaked ⟨frames, running, s⟩) :
    .newFront s.calls ∉ owned live leaked ⟨frames, running, s⟩ := by
  rw [newFront_mem_owned]
  rintro ⟨frame, hmem, hf⟩
  have hpos : 0 < refs ⟨frames, running, s⟩ frame.f := refs_pos_of_frame hmem
  rw [hf, h.fresh _ (Nat.le_refl _)] at hpos
  exact Nat.lt_irrefl 0 hpos

theorem Inv.gbmFails (h : Inv live leaked ⟨frames, running, s⟩) :
    Inv live leaked
      ⟨frames, running, (returnToCaller { s with calls := s.calls + 1 } s.calls false).1⟩ :=
  h.frame rfl (fun _ _ => rfl) rfl (Nat.le_succ _) h.owns rfl

theorem Inv.flipdataFails (h : Inv live leaked ⟨frames, running, s⟩) :
    Inv live leaked ⟨frames, running,
      (returnToCaller (drmmodeBoDestroy (gotNewFront s) s.calls true) s.calls false).1⟩ := by
  refine h.frame rfl (fun _ _ => rfl) rfl (Nat.le_succ _) ?_ rfl
  exact (h.owns.acquire h.next_newFront).release rfl

theorem Inv.importFails (h : Inv live leaked ⟨frames, running, s⟩) (event : ε) :
    Inv live leaked
      ⟨frames, running, (errorOut (openFlip (gotNewFront s) s.calls event) s.calls true).1⟩ := by
  have hcount : ((openFlip (gotNewFront s) s.calls event).flips s.calls).flipCount = 1 := by
    simp [openFlip, FlipState.setFlip]
  have hfront := h.owns.acquire h.next_newFront
  have hflip : .flipdata s.calls ∉
      Resource.newFront s.calls ::ₘ owned live leaked ⟨frames, running, s⟩ := by
    simp [flipdata_mem_owned, h.next_not_live]
  have howns := ((hfront.acquire hflip).release (Multiset.cons_swap _ _ _)).release rfl
  rw [errorOut_last _ _ _ hcount]
  refine h.frame rfl (fun f hf => ?_) rfl (Nat.le_succ _) howns rfl
  have hne : f ≠ s.calls := fun e => h.next_not_live (e ▸ hf)
  exact Function.update_of_ne hne _ _

/-- Other flips keep the framebuffer they replaced. -/
theorem olds_congr {a b : Nat → Flipdata ε} {f : Nat} {l : Multiset Nat}
    (hflips : ∀ g, g ≠ f → b g = a g) (hf : (b f).oldFbId = (a f).oldFbId) :
    l.map (fun g => Resource.fb (b g).oldFbId) =
      l.map (fun g => Resource.fb (a g).oldFbId) := by
  refine Multiset.map_congr rfl fun g _ => ?_
  by_cases hg : g = f
  · rw [hg, hf]
  · rw [hflips g hg]

theorem Inv.start (kernel : FbKernel) (h : Inv live leaked ⟨frames, running, s⟩) (event : ε)
    (nums : List Nat) (ref : Int) :
    Inv (s.calls ::ₘ live) leaked
      ⟨⟨s.calls, nums, ref⟩ :: frames, running,
        drmmodeBoImport kernel (openFlip (gotNewFront s) s.calls event)⟩ := by
  set s' := drmmodeBoImport kernel (openFlip (gotNewFront s) s.calls event) with hs'
  have hflip : s'.flips s.calls = ⟨event, 1, 0, 0, s.fbId⟩ := Function.update_self _ _ _
  have hother : ∀ f, f ≠ s.calls → s'.flips f = s.flips f :=
    fun f hne => Function.update_of_ne hne _ _
  have hrefs : ∀ f, refs ⟨⟨s.calls, nums, ref⟩ :: frames, running, s'⟩ f =
      refs ⟨frames, running, s⟩ f + if f = s.calls then 1 else 0 := by
    intro f
    simp only [refs, List.countP_cons, beq_iff_eq, eq_comm (a := s.calls) (b := f), Nat.add_assoc]
    rfl
  have hnew : refs ⟨frames, running, s⟩ s.calls = 0 := h.fresh _ (Nat.le_refl _)
  refine ⟨fun f => ?_, fun f hf => ?_, fun r hr => ?_, fun f hf => ?_, h.runningLt, ?_, h.leaks⟩
  · rw [Multiset.mem_cons, h.liveIff, hrefs]
    split <;> omega
  · rw [hrefs] at hf ⊢
    by_cases hne : f = s.calls
    · subst hne
      simp [hflip, hnew]
    · simp only [if_neg hne, Nat.add_zero] at hf ⊢
      rw [hother f hne]
      exact h.count f hf
  · have hone := h.sole r hr
    rw [hrefs]
    have hne : r.2.flipdata ≠ s.calls := by
      intro e
      rw [e, hnew] at hone
      cases hone
    rw [if_neg hne, hone]
  · have hlt : s.calls + 1 ≤ f := hf
    rw [hrefs, h.fresh f (Nat.le_of_succ_le hlt), if_neg (Nat.ne_of_gt hlt)]
  · have hfront := h.owns.acquire h.next_newFront
    have hdata := hfront.acquire (r := .flipdata s.calls)
      (by simp [flipdata_mem_owned, h.next_not_live])
    have hfb := hdata.acquire (r := .fb (kernel.pick (registered
        (openFlip (gotNewFront s) s.calls event).log))) (by
      intro hin
      refine kernel.fresh (registered (openFlip (gotNewFront s) s.calls event).log) ?_
      exact List.mem_filterMap.mpr ⟨_, hdata.mem_held.mpr hin, rfl⟩)
    have hsum : Resource.fb s'.fbId ::ₘ Resource.flipdata s.calls ::ₘ
        Resource.newFront s.calls ::ₘ owned live leaked ⟨frames, running, s⟩ =
        owned (s.calls ::ₘ live) leaked ⟨⟨s.calls, nums, ref⟩ :: frames, running, s'⟩ := by
      have holds : live.map (fun f => Resource.fb (s'.flips f).oldFbId) =
          live.map (fun f => Resource.fb (s.flips f).oldFbId) :=
        Multiset.map_congr rfl fun f hf =>
          by rw [hother f fun e => h.next_not_live (e ▸ hf)]
      simp only [owned, ← Multiset.cons_coe, Multiset.map_cons, hflip, holds]
      change _ = _ + Multiset.map Resource.carrier (s.queue.tokens : Multiset Nat) + _
      simp only [← Multiset.singleton_add]
      abel
    rw [← hsum]
    exact hfb

theorem Inv.skip {f num : Nat} {nums : List Nat} {ref : Int}
    (h : Inv live leaked ⟨⟨f, num :: nums, ref⟩ :: frames, running, s⟩) :
    Inv live leaked ⟨⟨f, nums, ref⟩ :: frames, running, s⟩ :=
  ⟨h.liveIff, h.count, h.sole, h.fresh, h.runningLt, h.owns, h.leaks⟩

theorem Inv.carrierOnly (h : Inv live leaked ⟨frames, running, s⟩) :
    Inv live leaked ⟨frames, running,
      (s.act (.acquire (.carrier s.queue.next))).act (.release (.carrier s.queue.next))⟩ :=
  h.frame rfl (fun _ _ => rfl) rfl (Nat.le_refl _)
    ((h.owns.acquire h.next_carrier).release rfl) rfl

theorem Inv.enter {f num : Nat} {nums : List Nat} {ref : Int}
    (h : Inv live leaked ⟨⟨f, num :: nums, ref⟩ :: frames, running, s⟩) (onReference : Bool) :
    Inv live leaked ⟨⟨f, nums, ref⟩ :: frames, running, enterFlip s f onReference⟩ := by
  set s' := enterFlip s f onReference with hs'
  have hflip : s'.flips f = { s.flips f with flipCount := (s.flips f).flipCount + 1 } :=
    Function.update_self _ _ _
  have hother : ∀ g, g ≠ f → s'.flips g = s.flips g := fun g hne => Function.update_of_ne hne _ _
  have hrefs : ∀ g, refs ⟨⟨f, nums, ref⟩ :: frames, running, s'⟩ g =
      refs ⟨⟨f, num :: nums, ref⟩ :: frames, running, s⟩ g + if g = f then 1 else 0 := by
    intro g
    have hout : s'.outstanding g = s.outstanding g + if g = f then 1 else 0 := by
      simp only [FlipState.outstanding]
      change List.countP _ (Carrier.mk onReference f :: s.queue.requests) = _
      simp only [List.countP_cons, beq_iff_eq, eq_comm (a := f) (b := g)]
    simp only [refs, hout, List.countP_cons]
    omega
  have hpos : 0 < refs ⟨⟨f, num :: nums, ref⟩ :: frames, running, s⟩ f :=
    refs_pos_of_frame (c := ⟨f, num :: nums, ref⟩) List.mem_cons_self
  refine ⟨fun g => ?_, fun g hg => ?_, fun r hr => ?_, fun g hg => ?_, fun r hr => ?_, ?_,
    h.leaks⟩
  · rw [h.liveIff, hrefs]
    split
    next e => subst e; omega
    next => omega
  · by_cases hne : g = f
    · subst hne
      have hcount := h.count g hpos
      rw [hrefs, if_pos rfl]
      change (s'.flips g).flipCount = _
      rw [hflip]
      push_cast
      exact congrArg (· + 1) hcount
    · rw [hrefs, if_neg hne, Nat.add_zero] at hg ⊢
      change (s'.flips g).flipCount = _
      rw [hother g hne]
      exact h.count g hg
  · have hone := h.sole r hr
    have hne : r.2.flipdata ≠ f := by
      intro e
      have hrun : 0 < running.countP (fun x => x.2.flipdata == f) :=
        List.countP_pos_iff.mpr ⟨r, hr, by simp [e]⟩
      simp only [refs, e, List.countP_cons, beq_self_eq_true, if_true] at hone
      omega
    rw [hrefs, if_neg hne, hone]
  · have hzero := h.fresh g hg
    have hne : g ≠ f := by
      intro e
      rw [e] at hzero
      omega
    rw [hrefs, if_neg hne, hzero]
  · exact Nat.lt_succ_of_lt (h.runningLt r hr)
  · have hacq := h.owns.acquire h.next_carrier
    have htouch := hacq.touch (r := .flipdata f)
      (by simp [flipdata_mem_owned, h.liveIff, hpos])
    have hsum : Resource.carrier s.queue.next ::ₘ
        owned live leaked ⟨⟨f, num :: nums, ref⟩ :: frames, running, s⟩ =
        owned live leaked ⟨⟨f, nums, ref⟩ :: frames, running, s'⟩ := by
      have holds := olds_congr (l := live) hother (by rw [hflip])
      simp only [owned, holds]
      change _ = _ + Multiset.map Resource.carrier
        ((s.queue.next :: s.queue.tokens : List Nat) : Multiset Nat) + _
      change _ = {Resource.fb s.fbId} + _ + _ + _ + _ + _ + _
      simp only [← Multiset.cons_coe, Multiset.map_cons]
      simp only [← Multiset.singleton_add]
      abel
    rw [← hsum]
    exact htouch

/-! ### Dropping a reference -/

theorem Inv.live_nodup {m : Stacked ε σ} (h : Inv live leaked m) : live.Nodup := by
  have hnodup := h.owns.nodup
  simp only [owned, Multiset.nodup_add] at hnodup
  exact hnodup.1.1.1.2.1.of_map

theorem Inv.mem_erase {m : Stacked ε σ} (h : Inv live leaked m) {f g : Nat} :
    g ∈ live.erase f ↔ g ≠ f ∧ 0 < refs m g := by
  rw [h.live_nodup.mem_erase_iff, h.liveIff]

/-- What it takes to keep the invariant when flip `f` loses a reference but not
its last one. -/
theorem Inv.shared {m m' : Stacked ε σ} (h : Inv live leaked m) {f : Nat}
    (hrefs : ∀ g, refs m g = refs m' g + if g = f then 1 else 0)
    (hcount : (m.st.flips f).flipCount ≠ 1)
    (hflip : (m'.st.flips f).flipCount = (m.st.flips f).flipCount - 1)
    (hother : ∀ g, g ≠ f → m'.st.flips g = m.st.flips g)
    (hrunning : m'.running = m.running) (hcalls : m'.st.calls = m.st.calls)
    (hnext : m'.st.queue.next = m.st.queue.next)
    (howns : Owns (ledger m'.st.log) (owned live leaked m'))
    (hleaks : lastAborts m'.st.log = lastAborts m.st.log) : Inv live leaked m' := by
  have hf := hrefs f
  rw [if_pos rfl] at hf
  have hcount' := h.count f (by omega)
  have htwo : 0 < refs m' f := by omega
  refine ⟨fun g => ?_, fun g hg => ?_, fun r hr => ?_, fun g hg => ?_, fun r hr => ?_, howns,
    h.leaks.trans hleaks.symm⟩
  · rw [h.liveIff, hrefs]
    split
    next e => subst e; omega
    next => omega
  · by_cases hne : g = f
    · subst hne
      rw [hflip, hcount', hf]
      push_cast
      omega
    · have hg' := hrefs g
      rw [if_neg hne, Nat.add_zero] at hg'
      rw [hother g hne, ← hg']
      exact h.count g (by omega)
  · rw [hrunning] at hr
    have hone := h.sole r hr
    have hne : r.2.flipdata ≠ f := by
      intro e
      rw [e] at hone
      omega
    have hg' := hrefs r.2.flipdata
    rw [if_neg hne] at hg'
    omega
  · rw [hcalls] at hg
    have hzero := h.fresh g hg
    have hg' := hrefs g
    omega
  · rw [hrunning] at hr
    rw [hnext]
    exact h.runningLt r hr

/-- What it takes to keep the invariant when flip `f` loses its last
reference. -/
theorem Inv.last {leaked' : Multiset Nat} {m m' : Stacked ε σ} (h : Inv live leaked m) {f : Nat}
    (hrefs : ∀ g, refs m g = refs m' g + if g = f then 1 else 0)
    (hcount : refs m f = 1) (hother : ∀ g, g ≠ f → m'.st.flips g = m.st.flips g)
    (hrunning : ∀ r ∈ m'.running, r ∈ m.running) (hcalls : m'.st.calls = m.st.calls)
    (hnext : m'.st.queue.next = m.st.queue.next)
    (howns : Owns (ledger m'.st.log) (owned (live.erase f) leaked' m'))
    (hleaks : leaked'.card = lastAborts m'.st.log) :
    Inv (live.erase f) leaked' m' := by
  have hzero : refs m' f = 0 := by
    have hf := hrefs f
    rw [if_pos rfl] at hf
    omega
  have hsame : ∀ g, g ≠ f → refs m' g = refs m g := by
    intro g hne
    rw [hrefs, if_neg hne, Nat.add_zero]
  refine ⟨fun g => ?_, fun g hg => ?_, fun r hr => ?_, fun g hg => ?_, fun r hr => ?_, howns,
    hleaks⟩
  · rw [h.mem_erase]
    by_cases hne : g = f
    · simp [hne, hzero]
    · simp [hne, hsame g hne]
  · have hne : g ≠ f := by
      intro e
      rw [e, hzero] at hg
      exact Nat.lt_irrefl 0 hg
    rw [hsame g hne] at hg ⊢
    rw [hother g hne]
    exact h.count g hg
  · have hne : r.2.flipdata ≠ f := by
      intro e
      have hpos : 0 < m'.running.countP (fun x => x.2.flipdata == f) :=
        List.countP_pos_iff.mpr ⟨r, hr, by simp [e]⟩
      simp only [refs] at hzero
      omega
    rw [hsame _ hne]
    exact h.sole r (hrunning r hr)
  · rw [hcalls] at hg
    have hzero := h.fresh g hg
    have hg' := hrefs g
    omega
  · rw [hnext]
    exact h.runningLt r (hrunning r hr)

/-! ### The end of a call -/

section Return

variable {f : Nat} {nums : List Nat} {ref : Int}

theorem refs_pop (g : Nat) (hqueue : s'.queue = s.queue) :
    refs ⟨⟨f, nums, ref⟩ :: frames, running, s⟩ g =
      refs ⟨frames, running, s'⟩ g + if g = f then 1 else 0 := by
  simp only [refs, FlipState.outstanding, hqueue, List.countP_cons, beq_iff_eq,
    eq_comm (a := f) (b := g), Nat.add_assoc]

/-- The call drops the local reference and carriers are still out. -/
theorem Inv.returnShared (h : Inv live leaked ⟨⟨f, nums, ref⟩ :: frames, running, s⟩)
    (hcount : (s.flips f).flipCount ≠ 1) (ok : Bool) (left : Nat) :
    Inv live leaked ⟨frames, running,
      (dropLocal (drmmodeBoDestroy s f true) f).emit (.returned f ok left)⟩ := by
  have hpos : 0 < refs ⟨⟨f, nums, ref⟩ :: frames, running, s⟩ f :=
    refs_pos_of_frame (c := ⟨f, nums, ref⟩) List.mem_cons_self
  refine h.shared (f := f) (fun g => refs_pop g rfl) hcount ?_ ?_ rfl rfl rfl ?_ rfl
  · exact congrArg Flipdata.flipCount (dropLocal_flips_self _ f)
  · exact fun g hne => dropLocal_flips_ne _ f hne
  · have hsum : owned live leaked ⟨⟨f, nums, ref⟩ :: frames, running, s⟩ =
        .newFront f ::ₘ owned live leaked ⟨frames, running,
          (dropLocal (drmmodeBoDestroy s f true) f).emit (.returned f ok left)⟩ := by
      have holds := olds_congr (l := live) (f := f) (a := s.flips)
        (b := (dropLocal (drmmodeBoDestroy s f true) f).flips)
        (fun g hne => dropLocal_flips_ne _ f hne) (by simp)
      simp only [owned]
      change _ = _ ::ₘ ({Resource.fb s.fbId} + _ +
        live.map (fun g => Resource.fb ((dropLocal (drmmodeBoDestroy s f true) f).flips g).oldFbId)
        + _ + _ + Multiset.map Resource.carrier (s.queue.tokens : Multiset Nat) + _)
      rw [holds]
      simp only [← Multiset.cons_coe, Multiset.map_cons]
      simp only [← Multiset.singleton_add]
      abel
    have hfree := h.owns.release hsum
    refine hfree.touch ?_
    rw [flipdata_mem_owned, h.liveIff]
    exact hpos

/-- The call drops the last reference: it takes the new framebuffer back and
frees the flip. -/
theorem Inv.returnLast (h : Inv live leaked ⟨⟨f, nums, ref⟩ :: frames, running, s⟩)
    (hcount : (s.flips f).flipCount = 1) (hqueue : s'.queue = s.queue)
    (hflips : s'.flips = s.flips) (hcalls : s'.calls = s.calls)
    (hfb : s'.fbId = (s.flips f).oldFbId)
    (howns : ∀ rest, owned live leaked ⟨⟨f, nums, ref⟩ :: frames, running, s⟩ =
      .fb s.fbId ::ₘ .newFront f ::ₘ .flipdata f ::ₘ rest → Owns (ledger s'.log) rest)
    (hleaks : lastAborts s'.log = lastAborts s.log) :
    Inv (live.erase f) leaked ⟨frames, running, s'⟩ := by
  have hpos : 0 < refs ⟨⟨f, nums, ref⟩ :: frames, running, s⟩ f :=
    refs_pos_of_frame (c := ⟨f, nums, ref⟩) List.mem_cons_self
  have hone : refs ⟨⟨f, nums, ref⟩ :: frames, running, s⟩ f = 1 := by
    have hc := h.count f hpos
    change (s.flips f).flipCount = _ at hc
    omega
  refine h.last (f := f) (fun g => refs_pop g hqueue) hone (fun g _ => by rw [hflips])
    (fun r hr => hr) hcalls (by rw [hqueue]) (howns _ ?_) (h.leaks.trans hleaks.symm)
  have hlive : live = f ::ₘ live.erase f :=
    (Multiset.cons_erase ((h.liveIff f).mpr hpos)).symm
  conv_lhs => rw [hlive]
  simp only [owned, hqueue, hflips, hfb, ← Multiset.cons_coe, Multiset.map_cons]
  simp only [← Multiset.singleton_add]
  abel

theorem Inv.accepted (h : Inv live leaked ⟨⟨f, nums, ref⟩ :: frames, running, s⟩)
    (hcount : 1 < (s.flips f).flipCount) :
    Inv live leaked ⟨frames, running,
      (returnToCaller (dropLocal (drmmodeBoDestroy s f true) f) f true).1⟩ :=
  h.returnShared (by omega) true _

theorem Inv.giveUpShared (h : Inv live leaked ⟨⟨f, nums, ref⟩ :: frames, running, s⟩)
    (hcount : (s.flips f).flipCount ≠ 1) :
    Inv live leaked ⟨frames, running, (errorOut (errorUndo s f) f true).1⟩ := by
  rw [errorUndo_shared s f hcount, errorOut_shared s f true hcount]
  exact h.returnShared hcount false _

theorem Inv.giveUpLast (h : Inv live leaked ⟨⟨f, nums, ref⟩ :: frames, running, s⟩)
    (hcount : (s.flips f).flipCount = 1) :
    Inv (live.erase f) leaked ⟨frames, running, (errorOut (errorUndo s f) f true).1⟩ := by
  rw [errorUndo_last s f hcount, errorOut_last (takeBackFb s f) f true hcount]
  refine h.returnLast hcount rfl rfl rfl rfl (fun rest hrest => ?_) rfl
  exact ((h.owns.release hrest).release rfl).release rfl

theorem Inv.allDone (h : Inv live leaked ⟨⟨f, nums, ref⟩ :: frames, running, s⟩)
    (hcount : ¬ 1 < (s.flips f).flipCount) :
    Inv (live.erase f) leaked ⟨frames, running,
      (errorOut (errorUndo (drmmodeBoDestroy s f true) f) f false).1⟩ := by
  have hpos : 0 < refs ⟨⟨f, nums, ref⟩ :: frames, running, s⟩ f :=
    refs_pos_of_frame (c := ⟨f, nums, ref⟩) List.mem_cons_self
  have hone : (s.flips f).flipCount = 1 := by
    have hc := h.count f hpos
    change (s.flips f).flipCount = _ at hc
    omega
  rw [errorUndo_last _ f (by rw [drmmodeBoDestroy_flips]; exact hone),
    errorOut_last (takeBackFb (drmmodeBoDestroy s f true) f) f false hone]
  refine h.returnLast hone rfl rfl rfl rfl (fun rest hrest => ?_) rfl
  rw [Multiset.cons_swap] at hrest
  exact ((h.owns.release hrest).release rfl).release rfl

end Return

/-! ### The queue's callbacks -/

section Callbacks

variable {k : Nat} {flip : Carrier}

theorem outstanding_unlink {s t : FlipState ε σ} (hfind : s.queue.find? k = some flip)
    (hqueue : t.queue = s.queue.remove k) (g : Nat) :
    s.outstanding g = t.outstanding g + if g = flip.flipdata then 1 else 0 := by
  simp only [FlipState.outstanding, hqueue, Pending.countP_remove hfind, beq_iff_eq,
    eq_comm (a := flip.flipdata) (b := g)]

theorem refs_unlink (hfind : s.queue.find? k = some flip)
    (hqueue : s'.queue = s.queue.remove k) (g : Nat) :
    refs ⟨frames, running, s⟩ g =
      refs ⟨frames, running, s'⟩ g + if g = flip.flipdata then 1 else 0 := by
  simp only [refs, outstanding_unlink hfind hqueue]
  omega

theorem refs_pos_of_find (hfind : s.queue.find? k = some flip) :
    0 < refs ⟨frames, running, s⟩ flip.flipdata := by
  have hpos : 0 < s.queue.requests.countP (fun c => c.flipdata == flip.flipdata) :=
    List.countP_pos_iff.mpr ⟨flip, Pending.find?_mem hfind, by simp⟩
  simp only [refs, FlipState.outstanding]
  omega

/-- A queued flip counts one entry or more. -/
theorem Inv.one_lt_flipCount {live leaked : Multiset Nat}
    (h : Inv live leaked ⟨frames, running, s⟩) (hfind : s.queue.find? k = some flip)
    (hcount : (s.flips flip.flipdata).flipCount ≠ 1) : 1 < (s.flips flip.flipdata).flipCount := by
  have hpos : 0 < refs ⟨frames, running, s⟩ flip.flipdata := refs_pos_of_find hfind
  have hrefs := h.count flip.flipdata hpos
  change (s.flips flip.flipdata).flipCount = _ at hrefs
  omega

theorem tokens_unlink (hfind : s.queue.find? k = some flip) :
    (s.queue.tokens : Multiset Nat) = k ::ₘ (s.queue.remove k).tokens := by
  rw [Multiset.cons_coe]
  exact Multiset.coe_eq_coe.mpr (Pending.perm_tokens_remove hfind)

/-- What the callbacks do to a flip before `ms_pageflip_free`: at most the two
reported values change. -/
structure SameFlips (f : Nat) (s s' : FlipState ε σ) : Prop where
  other : ∀ g, g ≠ f → s'.flips g = s.flips g
  flipCount : (s'.flips f).flipCount = (s.flips f).flipCount
  oldFbId : (s'.flips f).oldFbId = (s.flips f).oldFbId

theorem recordReference_same (s : FlipState ε σ) (flip : Carrier) (msc ust : UInt64) :
    SameFlips flip.flipdata s (recordReference s flip msc ust) := by
  refine ⟨fun g hne => ?_, recordReference_flipCount s flip msc ust _, ?_⟩
  · unfold recordReference
    split
    · exact Function.update_of_ne hne _ _
    · rfl
  · unfold recordReference
    split
    · simp [FlipState.setFlip]
    · rfl

@[simp] theorem recordReference_queue (s : FlipState ε σ) (flip : Carrier) (msc ust : UInt64) :
    (recordReference s flip msc ust).queue = s.queue := by
  unfold recordReference
  split <;> rfl

@[simp] theorem recordReference_log (s : FlipState ε σ) (flip : Carrier) (msc ust : UInt64) :
    (recordReference s flip msc ust).log = s.log := by
  unfold recordReference
  split <;> rfl

@[simp] theorem recordReference_calls (s : FlipState ε σ) (flip : Carrier) (msc ust : UInt64) :
    (recordReference s flip msc ust).calls = s.calls := by
  unfold recordReference
  split <;> rfl

@[simp] theorem recordReference_fbId (s : FlipState ε σ) (flip : Carrier) (msc ust : UInt64) :
    (recordReference s flip msc ust).fbId = s.fbId := by
  unfold recordReference
  split <;> rfl

/-- A carrier that is not its flip's last is freed. -/
theorem Inv.freeShared (h : Inv live leaked ⟨frames, running, s⟩)
    (hfind : s.queue.find? k = some flip)
    (hcount : (s.flips flip.flipdata).flipCount ≠ 1) (hqueue : s'.queue = s.queue.remove k)
    (hflips : SameFlips flip.flipdata s s') (hcalls : s'.calls = s.calls)
    (hfb : s'.fbId = s.fbId) (howns : Owns (ledger s'.log) (owned live leaked ⟨frames, running, s⟩))
    (hleaks : lastAborts s'.log = lastAborts s.log) :
    Inv live leaked ⟨frames, running, msPageflipFree s' k flip⟩ := by
  have hpos : 0 < refs ⟨frames, running, s⟩ flip.flipdata := refs_pos_of_find hfind
  have hone : 1 < (s'.flips flip.flipdata).flipCount := by
    have hc := h.count flip.flipdata hpos
    change (s.flips flip.flipdata).flipCount = _ at hc
    rw [hflips.flipCount]
    omega
  rw [msPageflipFree_shared s' k flip hone]
  set d : Flipdata ε := { s'.flips flip.flipdata with
    flipCount := (s'.flips flip.flipdata).flipCount - 1 } with hd
  refine h.shared (f := flip.flipdata) (refs_unlink hfind hqueue) hcount ?_ ?_ rfl hcalls ?_ ?_
    hleaks
  · change (Function.update s'.flips flip.flipdata d flip.flipdata).flipCount = _
    rw [Function.update_self]
    exact congrArg (· - 1) hflips.flipCount
  · intro g hne
    exact (Function.update_of_ne hne _ _).trans (hflips.other g hne)
  · change s'.queue.next = s.queue.next
    rw [hqueue, Pending.remove_next]
  · have hin : .carrier k ∈ owned live leaked ⟨frames, running, s⟩ := by
      rw [carrier_mem_owned]
      exact Or.inl (List.mem_map.mpr ⟨_, Pending.find?_eq_some.mp hfind, rfl⟩)
    have hsum : owned live leaked ⟨frames, running, s⟩ = .carrier k ::ₘ
        owned live leaked ⟨frames, running,
          (((s'.act (.touch (.carrier k))).act (.release (.carrier k))).setFlip
            flip.flipdata d).act (.touch (.flipdata flip.flipdata))⟩ := by
      have holds := olds_congr (l := live) (f := flip.flipdata) (a := s.flips)
        (b := Function.update s'.flips flip.flipdata d)
        (fun g hne => (Function.update_of_ne hne _ _).trans (hflips.other g hne))
        (by rw [Function.update_self]; exact hflips.oldFbId)
      simp only [owned, tokens_unlink hfind, Multiset.map_cons]
      change _ = _ ::ₘ ({Resource.fb s'.fbId} + _ + Multiset.map (fun g => Resource.fb
        (Function.update s'.flips flip.flipdata d g).oldFbId) live + _ + _ +
        Multiset.map Resource.carrier (s'.queue.tokens : Multiset Nat) + _)
      rw [holds, hqueue, hfb]
      simp only [← Multiset.singleton_add]
      abel
    have hfree := (howns.touch hin).release hsum
    refine hfree.touch ?_
    rw [flipdata_mem_owned, h.liveIff]
    exact hpos

/-- The two touches with which both callbacks begin. -/
theorem Inv.touched (h : Inv live leaked ⟨frames, running, s⟩)
    (hfind : s.queue.find? k = some flip) :
    Owns (.touch (.flipdata flip.flipdata) :: .touch (.carrier k) :: ledger s.log)
      (owned live leaked ⟨frames, running, s⟩) := by
  refine (h.owns.touch ?_).touch ?_
  · rw [carrier_mem_owned]
    exact Or.inl (List.mem_map.mpr ⟨_, Pending.find?_eq_some.mp hfind, rfl⟩)
  · rw [flipdata_mem_owned, h.liveIff]
    exact refs_pos_of_find hfind

theorem Inv.complete (client : FlipClient ε σ) (h : Inv live leaked ⟨frames, running, s⟩)
    (msc usec : UInt64) (hfind : s.queue.find? k = some flip)
    (hcount : (s.flips flip.flipdata).flipCount ≠ 1) :
    Inv live leaked ⟨frames, running,
      msPageflipHandler client id (unlinkCompleted s k flip msc usec) msc usec k flip⟩ := by
  have hsame := recordReference_same (((unlinkCompleted s k flip msc usec).act
    (.touch (.carrier k))).act (.touch (.flipdata flip.flipdata))) flip msc usec
  rw [msPageflipHandler_shared s k flip msc usec hcount]
  refine h.freeShared hfind hcount ?_ ⟨hsame.other, hsame.flipCount, hsame.oldFbId⟩ ?_ ?_ ?_ ?_
  · rw [recordReference_queue]; rfl
  · rw [recordReference_calls]; rfl
  · rw [recordReference_fbId]; rfl
  · rw [recordReference_log]
    exact h.touched hfind
  · rw [recordReference_log]; rfl

theorem Inv.abortShared (client : FlipClient ε σ) (h : Inv live leaked ⟨frames, running, s⟩)
    (hfind : s.queue.find? k = some flip)
    (hcount : (s.flips flip.flipdata).flipCount ≠ 1) :
    Inv live leaked ⟨frames, running,
      msPageflipAbort client (unlinkAborted s k flip) k flip⟩ := by
  simp only [msPageflipAbort]
  rw [if_neg (by exact hcount)]
  refine h.freeShared hfind hcount rfl ⟨fun _ _ => rfl, rfl, rfl⟩ rfl rfl (h.touched hfind) ?_
  change lastAborts s.log + (if (s.flips flip.flipdata).flipCount = 1 then 1 else 0) = _
  rw [if_neg hcount, Nat.add_zero]

theorem Inv.refs_eq_one {m : Stacked ε σ} (h : Inv live leaked m) {f : Nat}
    (hpos : 0 < refs m f) (hcount : (m.st.flips f).flipCount = 1) : refs m f = 1 := by
  have hc := h.count f hpos
  omega

theorem Inv.completeLast (client : FlipClient ε σ) (h : Inv live leaked ⟨frames, running, s⟩)
    (msc usec : UInt64) (hfind : s.queue.find? k = some flip)
    (hcount : (s.flips flip.flipdata).flipCount = 1) :
    Inv live leaked
      ⟨frames, (k, flip) :: running, handlerEntered client s k flip msc usec⟩ := by
  have hone := h.refs_eq_one (refs_pos_of_find hfind) hcount
  set s₀ := ((unlinkCompleted s k flip msc usec).act (.touch (.carrier k))).act
    (.touch (.flipdata flip.flipdata)) with hs₀
  set s' := handlerEntered client s k flip msc usec with hs'
  have hsame : SameFlips flip.flipdata s s' :=
    have hrecord := recordReference_same s₀ flip msc usec
    ⟨hrecord.other, hrecord.flipCount, hrecord.oldFbId⟩
  have hqueue : s'.queue = s.queue.remove k := recordReference_queue s₀ flip msc usec
  have hrefs : ∀ g, refs ⟨frames, (k, flip) :: running, s'⟩ g = refs ⟨frames, running, s⟩ g := by
    intro g
    have hout := outstanding_unlink (t := s') hfind hqueue g
    simp only [refs, List.countP_cons, beq_iff_eq, eq_comm (a := flip.flipdata) (b := g)]
    omega
  refine ⟨fun g => ?_, fun g hg => ?_, fun r hr => ?_, fun g hg => ?_, fun r hr => ?_, ?_, ?_⟩
  · rw [hrefs, h.liveIff]
  · rw [hrefs] at hg ⊢
    change (s'.flips g).flipCount = _
    by_cases hne : g = flip.flipdata
    · rw [hne, hsame.flipCount, ← hne]
      exact h.count g hg
    · rw [hsame.other g hne]
      exact h.count g hg
  · rw [hrefs]
    rcases List.mem_cons.mp hr with rfl | hr
    · exact hone
    · exact h.sole r hr
  · rw [hrefs]
    refine h.fresh g (Nat.le_trans (Nat.le_of_eq ?_) hg)
    exact (recordReference_calls s₀ flip msc usec).symm
  · change r.1 < s'.queue.next
    rw [hqueue, Pending.remove_next]
    rcases List.mem_cons.mp hr with rfl | hr
    · exact Pending.lt_next_of_find? hfind
    · exact h.runningLt r hr
  · have hlog : ledger s'.log = ledger s₀.log := by
      change ledger (.eventHandler _ _ _ :: (recordReference s₀ flip msc usec).log) = _
      rw [recordReference_log]
      rfl
    have hsum : owned live leaked ⟨frames, running, s⟩ =
        owned live leaked ⟨frames, (k, flip) :: running, s'⟩ := by
      have holds := olds_congr (l := live) hsame.other hsame.oldFbId
      have hfb : s'.fbId = s.fbId := recordReference_fbId s₀ flip msc usec
      simp only [owned, holds, hfb, hqueue, tokens_unlink hfind, ← Multiset.cons_coe,
        Multiset.map_cons]
      simp only [← Multiset.singleton_add]
      abel
    change Owns (ledger s'.log) _
    rw [hlog, ← hsum]
    exact h.touched hfind
  · change _ = lastAborts (.eventHandler _ _ _ :: (recordReference s₀ flip msc usec).log)
    rw [recordReference_log]
    exact h.leaks

theorem Inv.live_eq {m : Stacked ε σ} (h : Inv live leaked m) {f : Nat} (hpos : 0 < refs m f) :
    live = f ::ₘ live.erase f :=
  (Multiset.cons_erase ((h.liveIff f).mpr hpos)).symm

theorem Inv.handlerReturns (h : Inv live leaked ⟨frames, (k, flip) :: running, s⟩) :
    Inv (live.erase flip.flipdata) leaked ⟨frames, running, handlerLeft s k flip⟩ := by
  have hone : refs ⟨frames, (k, flip) :: running, s⟩ flip.flipdata = 1 :=
    h.sole (k, flip) List.mem_cons_self
  have hpos : 0 < refs ⟨frames, (k, flip) :: running, s⟩ flip.flipdata := by omega
  have hcount : (s.flips flip.flipdata).flipCount = 1 := by
    have hc := h.count flip.flipdata hpos
    rw [hone] at hc
    exact hc
  have hin : flip.flipdata ∈ live := (h.liveIff _).mpr hpos
  rw [handlerLeft_last s k flip hcount]
  refine h.last (f := flip.flipdata) (fun g => ?_) hone ?_ ?_ rfl rfl ?_ h.leaks
  · simp only [refs, FlipState.outstanding, List.countP_cons, beq_iff_eq,
      eq_comm (a := flip.flipdata) (b := g)]
    omega
  · exact fun g hne => Function.update_of_ne hne _ _
  · exact fun r hr => List.mem_cons_of_mem _ hr
  · have hsum : owned live leaked ⟨frames, (k, flip) :: running, s⟩ =
        .fb (s.flips flip.flipdata).oldFbId ::ₘ .carrier k ::ₘ .flipdata flip.flipdata ::ₘ
          owned (live.erase flip.flipdata) leaked ⟨frames, running, s⟩ := by
      conv_lhs => rw [h.live_eq hpos]
      simp only [owned, ← Multiset.cons_coe, Multiset.map_cons]
      simp only [← Multiset.singleton_add]
      abel
    have holds := olds_congr (l := live.erase flip.flipdata) (f := flip.flipdata)
      (a := s.flips)
      (b := Function.update s.flips flip.flipdata { s.flips flip.flipdata with flipCount := 0 })
      (fun g hne => Function.update_of_ne hne _ _) (by rw [Function.update_self])
    have htouch := h.owns.touch (r := .flipdata flip.flipdata) (flipdata_mem_owned.mpr hin)
    have hrest := ((((htouch.release hsum).touch (Multiset.mem_cons_self _ _)).release rfl).touch
      (Multiset.mem_cons_self _ _)).release rfl
    simp only [owned] at hrest ⊢
    rw [← holds] at hrest
    exact hrest

theorem Inv.abortLast (client : FlipClient ε σ) (h : Inv live leaked ⟨frames, running, s⟩)
    (hfind : s.queue.find? k = some flip)
    (hcount : (s.flips flip.flipdata).flipCount = 1) :
    Inv (live.erase flip.flipdata) ((s.flips flip.flipdata).oldFbId ::ₘ leaked)
      ⟨frames, running, msPageflipAbort client (unlinkAborted s k flip) k flip⟩ := by
  have hpos : 0 < refs ⟨frames, running, s⟩ flip.flipdata := refs_pos_of_find hfind
  have hin : flip.flipdata ∈ live := (h.liveIff _).mpr hpos
  simp only [msPageflipAbort]
  rw [if_pos (by exact hcount), msPageflipFree_last _ k flip (by exact hcount)]
  refine h.last (f := flip.flipdata) (refs_unlink hfind rfl) (h.refs_eq_one hpos hcount)
    ?_ (fun r hr => hr) rfl rfl ?_ ?_
  · exact fun g hne => Function.update_of_ne hne _ _
  · have hsum : owned live leaked ⟨frames, running, s⟩ =
        .carrier k ::ₘ .flipdata flip.flipdata ::ₘ
          owned (live.erase flip.flipdata) ((s.flips flip.flipdata).oldFbId ::ₘ leaked)
            ⟨frames, running, unlinkAborted s k flip⟩ := by
      conv_lhs => rw [h.live_eq hpos]
      simp only [owned, tokens_unlink hfind, Multiset.map_cons]
      change _ = _ ::ₘ _ ::ₘ ({Resource.fb s.fbId} + _ + Multiset.map
        (fun g => Resource.fb (s.flips g).oldFbId) (live.erase flip.flipdata) + _ + _ +
        Multiset.map Resource.carrier ((s.queue.remove k).tokens : Multiset Nat) + _)
      simp only [← Multiset.singleton_add]
      abel
    have holds := olds_congr (l := live.erase flip.flipdata) (f := flip.flipdata)
      (a := s.flips)
      (b := Function.update s.flips flip.flipdata { s.flips flip.flipdata with flipCount := 0 })
      (fun g hne => Function.update_of_ne hne _ _) (by rw [Function.update_self])
    have htouch := (h.touched hfind).touch (r := .carrier k) (by
      rw [hsum]
      exact Multiset.mem_cons_self _ _)
    have hrest := ((htouch.release hsum).touch (Multiset.mem_cons_self _ _)).release rfl
    simp only [owned] at hrest ⊢
    change Owns _ (_ + _ + Multiset.map (fun g => Resource.fb (s.flips g).oldFbId) _ + _ + _ + _
      + _) at hrest
    rw [← holds] at hrest
    exact hrest
  · change _ = lastAborts s.log + (if (s.flips flip.flipdata).flipCount = 1 then 1 else 0)
    rw [if_pos hcount, Multiset.card_cons, h.leaks]

end Callbacks

/-- **Every move keeps the invariant.** -/
theorem Move.inv {kernel : FbKernel} {config : CrtcConfig} {client : FlipClient ε σ}
    {m m' : Stacked ε σ} (hmove : Move kernel config client m m')
    (h : ∃ live leaked, Inv live leaked m) : ∃ live leaked, Inv live leaked m' := by
  obtain ⟨live, leaked, h⟩ := h
  cases hmove with
  | gbmFails => exact ⟨_, _, h.gbmFails⟩
  | flipdataFails => exact ⟨_, _, h.flipdataFails⟩
  | importFails frames running s event => exact ⟨_, _, h.importFails event⟩
  | start frames running s event ref => exact ⟨_, _, h.start kernel event config.nums ref⟩
  | skip => exact ⟨_, _, h.skip⟩
  | carrierOnly => exact ⟨_, _, h.carrierOnly⟩
  | enter => exact ⟨_, _, h.enter _⟩
  | accepted frames running s f nums ref hcount => exact ⟨_, _, h.accepted hcount⟩
  | allDone frames running s f nums ref hcount => exact ⟨_, _, h.allDone hcount⟩
  | giveUp frames running s f nums ref =>
      by_cases hcount : (s.flips f).flipCount = 1
      · exact ⟨_, _, h.giveUpLast hcount⟩
      · exact ⟨_, _, h.giveUpShared hcount⟩
  | complete frames running s k flip msc usec hfind hcount =>
      exact ⟨_, _, h.complete client msc usec hfind hcount⟩
  | completeLast frames running s k flip msc usec hfind hcount =>
      exact ⟨_, _, h.completeLast client msc usec hfind hcount⟩
  | handlerReturns => exact ⟨_, _, h.handlerReturns⟩
  | abort frames running s k flip hfind =>
      by_cases hcount : (s.flips flip.flipdata).flipCount = 1
      · exact ⟨_, _, h.abortLast client hfind hcount⟩
      · exact ⟨_, _, h.abortShared client hfind hcount⟩

end Moves

/-! ## Runs -/

section Runs

variable (kernel : FbKernel) (config : CrtcConfig) (client : FlipClient ε σ)

/-- One tree as a step of a run. -/
def flipStep (s : FlipState ε σ) (op : FlipOp ε) : FlipState ε σ :=
  FlipOp.exec kernel config client op s

theorem flipStep_inv (s : FlipState ε σ) (op : FlipOp ε)
    (h : ∃ live leaked, Inv live leaked ⟨[], [], s⟩) :
    ∃ live leaked, Inv live leaked ⟨[], [], flipStep kernel config client s op⟩ :=
  Path.invariant (P := fun m => ∃ live leaked, Inv live leaked m) (fun _ _ hmove => Move.inv hmove)
    (FlipOp.exec_moves op [] [] s) h

/-- Every state between the calls of a run satisfies the invariant. -/
theorem run_inv (fbId : Nat) (flips : Nat → Flipdata ε) (c : σ) (ops : List (FlipOp ε)) :
    Always (flipStep kernel config client) (fun s => ∃ live leaked, Inv live leaked ⟨[], [], s⟩)
      (FlipState.start fbId flips c) ops :=
  always_of_step (flipStep_inv kernel config client) ⟨0, 0, inv_start fbId flips c⟩ ops

end Runs

/-! ## Framebuffers -/

/-- No abort has found a `flip_count` of one. -/
def NoLastAbort (log : List FlipLine) : Prop :=
  ∀ f k onReference flipCount, .aborted f k onReference flipCount ∈ log → flipCount ≠ 1

theorem noLastAbort_iff (log : List FlipLine) : NoLastAbort log ↔ lastAborts log = 0 := by
  induction log with
  | nil => simp [NoLastAbort, lastAborts]
  | cons line log ih =>
      have hcons : NoLastAbort (line :: log) ↔
          (∀ f k onReference flipCount, .aborted f k onReference flipCount = line →
            flipCount ≠ 1) ∧ NoLastAbort log := by
        simp only [NoLastAbort, List.mem_cons]
        constructor
        · intro h
          exact ⟨fun f k r n e => h f k r n (Or.inl e), fun f k r n e => h f k r n (Or.inr e)⟩
        · rintro ⟨hline, hlog⟩ f k r n (e | e)
          · exact hline f k r n e
          · exact hlog f k r n e
      rw [hcons, ih]
      cases line with
      | aborted f k onReference flipCount =>
          have hline : (∀ f' k' r' n', FlipLine.aborted f' k' r' n' =
              .aborted f k onReference flipCount → n' ≠ 1) ↔ flipCount ≠ 1 := by
            constructor
            · exact fun h => h f k onReference flipCount rfl
            · rintro hne f' k' r' n' e
              cases e
              exact hne
          rw [hline, lastAborts]
          by_cases hone : flipCount = 1
          · rw [if_pos hone]
            exact iff_of_false (fun h => h.1 hone) (Nat.succ_ne_zero _)
          · rw [if_neg hone]
            exact and_iff_right hone
      | _ => simp [lastAborts]

/-- With nothing on the stack and nothing queued, the framebuffers registered
are the current one and the forgotten ones. -/
theorem Inv.registered_quiet {live leaked : Multiset Nat} {s : FlipState ε σ}
    (h : Inv live leaked ⟨[], [], s⟩) (hqueue : s.queue.entries = []) :
    (registered s.log : Multiset Nat) = s.fbId ::ₘ leaked := by
  have hlive : live = 0 := by
    refine Multiset.eq_zero_of_forall_notMem fun f hf => ?_
    have hpos := (h.liveIff f).mp hf
    simp [refs, FlipState.outstanding, Pending.requests, hqueue] at hpos
  have hheld := h.owns.2
  rw [registered, ← Multiset.filterMap_coe, hheld]
  simp only [owned, hlive, Pending.tokens, hqueue]
  simp [Multiset.filterMap_map, Resource.fb?, Function.comp_def]

/-- **The framebuffer ledger.** No framebuffer is removed twice or removed
without being registered.  Between calls, when no flip entry is outstanding,
`fb_id` names the only framebuffer registered exactly when no abort so far has
taken the last reference of a flip. -/
theorem registered_eq_fbId_iff (kernel : FbKernel) (config : CrtcConfig)
    (client : FlipClient ε σ) (fbId : Nat) (flips : Nat → Flipdata ε) (c : σ)
    (ops : List (FlipOp ε)) :
    Always (flipStep kernel config client)
      (fun s => Lawful (ledger s.log) ∧ (s.queue.entries = [] →
        (registered s.log = [s.fbId] ↔ NoLastAbort s.log)))
      (FlipState.start fbId flips c) ops := by
  refine (run_inv kernel config client fbId flips c ops).mono fun s hinv => ?_
  obtain ⟨live, leaked, h⟩ := hinv
  refine ⟨h.owns.lawful, fun hqueue => ?_⟩
  have hregistered := h.registered_quiet hqueue
  rw [noLastAbort_iff, ← h.leaks, Multiset.card_eq_zero]
  constructor
  · intro hone
    rw [hone] at hregistered
    have hcard := congrArg Multiset.card hregistered
    simpa using hcard
  · intro hleaked
    rw [hleaked] at hregistered
    exact List.perm_singleton.mp (Multiset.coe_eq_coe.mp hregistered)

/-- A kernel that numbers upwards. -/
def FbKernel.upwards : FbKernel where
  pick used := used.foldr max 0 + 1
  fresh := by
    intro used hin
    have hle : ∀ (l : List Nat) (id : Nat), id ∈ l → id ≤ l.foldr max 0 := by
      intro l
      induction l with
      | nil => intro id hid; cases hid
      | cons x l ih =>
          intro id hid
          rcases List.mem_cons.mp hid with rfl | hid
          · exact Nat.le_max_left _ _
          · exact Nat.le_trans (ih id hid) (Nat.le_max_right _ _)
    have hmax := hle used _ hin
    omega

/-- One CRTC, a flip that the kernel accepts, an abort of its entry: the
framebuffer from before the flip stays registered. -/
theorem abort_leaks_framebuffer :
    ¬ ∀ (config : CrtcConfig) (ops : List (FlipOp Unit)),
      Always (flipStep FbKernel.upwards config ⟨fun _ _ _ => id, fun _ => id⟩)
        (fun s : FlipState Unit Unit => s.queue.entries = [] → registered s.log = [s.fbId])
        (FlipState.start 1 (fun _ => ⟨(), 0, 0, 0, 0⟩) ()) ops := by
  intro h
  have hend := (h ⟨[0], by decide, by decide⟩
    [.doPageflip ⟨(), 0, true, true, true⟩ [(⟨true, true, true, true⟩, [])], .abortSeq 0]).last
  exact absurd (hend (by decide)) (by decide)

end LoongsonVideo.Driver.PageFlipLedger
