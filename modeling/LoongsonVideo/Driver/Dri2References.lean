import LoongsonVideo.Driver.Dri2Buffers
import Mathlib.Logic.Equiv.Basic

/-!
# References of DRI2 buffers

The invariant of the pixmaps and buffers of `Dri2Buffers`, function by function.

* `sizes_fit`: an exchange gives no pixmap a buffer object of another size.
-/

namespace LoongsonVideo.Driver.Dri2Buffers

open LoongsonVideo.Verified
open LoongsonVideo.Verified.Ledger
open LoongsonVideo.Verified.Machine

variable {V : Type*}

/-! ## The invariant -/

/-- The references on pixmaps: those of the server, and one for each buffer. -/
def Dri2State.holders (s : Dri2State V) : Multiset Nat :=
  s.held + (s.buffers.requests.map fun o => o.value.pixmap : List Nat)

/-- The allocations of the buffers that there are. -/
def Dri2State.owned (s : Dri2State V) : Multiset BufferMem :=
  (s.buffers.tokens.map BufferMem.buffer : List BufferMem) +
    (s.buffers.tokens.map BufferMem.priv : List BufferMem)

/-- **The invariant**: the counts are right, a buffer that is no front left buffer has a pixmap to
itself, and so has a pixmap its buffer object, which is as large as its header says. -/
structure Inv (s : Dri2State V) : Prop where
  safe : s.fault = false
  glamor : s.glamor = true
  pixmaps : Counts s.pixmaps s.holders
  buffers : Counts s.buffers s.refs
  mem : Owns s.mem s.owned
  own : ∀ b o, s.buffers.find? b = some o → o.value.attachment ≠ dri2BufferFrontLeft →
    s.holders.count o.value.pixmap = 1
  bos : ∀ p d, Shared.get? s.pixmaps p = some d → d.bo < s.nextBo
  distinct : ∀ p q d e, Shared.get? s.pixmaps p = some d → Shared.get? s.pixmaps q = some e →
    d.bo = e.bo → p = q
  size : ∀ p d, Shared.get? s.pixmaps p = some d → s.boSize d.bo = d.size

section Rules

variable {s : Dri2State V}

theorem Inv.use (h : Inv s) {p : Nat} (hp : p ∈ s.holders) : s.use p = s := by
  rw [Dri2State.use, (h.pixmaps.live p).mpr hp]
  rfl

theorem Inv.useBuffer (h : Inv s) {b : Nat} (hb : b ∈ s.refs) : s.useBuffer b = s := by
  rw [Dri2State.useBuffer, (h.buffers.live b).mpr hb]
  rfl

theorem mem_holders_of_held {p : Nat} (hp : p ∈ s.held) : p ∈ s.holders :=
  Multiset.mem_add.mpr (Or.inl hp)

/-- The references of the other buffers. -/
def Dri2State.rest (s : Dri2State V) (b : Nat) : Multiset Nat :=
  ((s.buffers.remove b).requests.map fun o => o.value.pixmap : List Nat)

theorem holders_eq {b : Nat} {o : Shared Dri2Buffer} (hfind : s.buffers.find? b = some o) :
    s.holders = s.held + o.value.pixmap ::ₘ s.rest b := by
  have hperm := (Pending.perm_remove hfind).map fun o => o.value.pixmap
  exact congrArg (s.held + ·) (Multiset.coe_eq_coe.mpr hperm)

theorem holders_modify {b : Nat} {o : Shared Dri2Buffer} (hfind : s.buffers.find? b = some o)
    (f : Shared Dri2Buffer → Shared Dri2Buffer) :
    ({ s with buffers := s.buffers.modify b f } : Dri2State V).holders =
      s.held + (f o).value.pixmap ::ₘ s.rest b := by
  have hperm := (Pending.perm_modify hfind f).map fun o => o.value.pixmap
  exact congrArg (s.held + ·) (Multiset.coe_eq_coe.mpr hperm)

/-- A change that leaves a buffer its pixmap. -/
theorem holders_same (s : Dri2State V) (b : Nat) (f : Shared Dri2Buffer → Shared Dri2Buffer)
    (hf : ∀ o, (f o).value.pixmap = o.value.pixmap) :
    ({ s with buffers := s.buffers.modify b f } : Dri2State V).holders = s.holders := by
  have hmap := Pending.map_requests_modify (p := s.buffers) (g := fun o => o.value.pixmap) b hf
  exact congrArg (s.held + ·) (congrArg _ hmap)

theorem mem_holders {b : Nat} {o : Shared Dri2Buffer} (hfind : s.buffers.find? b = some o) :
    o.value.pixmap ∈ s.holders := by
  rw [holders_eq hfind]
  exact Multiset.mem_add.mpr (Or.inr (Multiset.mem_cons_self _ _))

/-- Another buffer keeps its reference. -/
theorem mem_rest {b b' : Nat} {o : Shared Dri2Buffer} (hfind : s.buffers.find? b' = some o)
    (hne : b' ≠ b) : o.value.pixmap ∈ s.rest b := by
  have hrest : (s.buffers.remove b).find? b' = some o := by
    rw [Pending.find?_remove_ne hne, hfind]
  exact Multiset.mem_coe.mpr (List.mem_map_of_mem (Pending.find?_mem hrest))

/-- A pixmap that the server holds is not a buffer's own. -/
theorem Inv.own_notMem (h : Inv s) {b p : Nat} {o : Shared Dri2Buffer}
    (hfind : s.buffers.find? b = some o) (hown : o.value.attachment ≠ dri2BufferFrontLeft)
    (hp : p ∈ s.held) : o.value.pixmap ≠ p := by
  rintro rfl
  have hone := h.own b o hfind hown
  rw [holders_eq hfind, Multiset.count_add, Multiset.count_cons_self] at hone
  have hpos := Multiset.count_pos.mpr hp
  omega

/-- Nor is one that another buffer has. -/
theorem Inv.own_ne (h : Inv s) {b b' : Nat} {o o' : Shared Dri2Buffer}
    (hfind : s.buffers.find? b = some o) (hown : o.value.attachment ≠ dri2BufferFrontLeft)
    (hfind' : s.buffers.find? b' = some o') (hne : b' ≠ b) : o'.value.pixmap ≠ o.value.pixmap := by
  intro heq
  have hone := h.own b o hfind hown
  rw [holders_eq hfind, Multiset.count_add, Multiset.count_cons_self] at hone
  have hpos := Multiset.count_pos.mpr (heq ▸ mem_rest hfind' hne)
  omega

/-- What only changes in the buffer objects. -/
theorem Inv.cells (h : Inv s) (cells : Nat → Int × Int → V) : Inv { s with cells := cells } where
  safe := h.safe
  glamor := h.glamor
  pixmaps := h.pixmaps
  buffers := h.buffers
  mem := h.mem
  own := h.own
  bos := h.bos
  distinct := h.distinct
  size := h.size

/-- Pixmaps that are as before, or no longer there, keep their buffer objects. -/
theorem Inv.of_get {pixmaps : Pending (Shared Pixmap)} {refs : Multiset Nat}
    {mem : List (Act BufferMem)} (h : Inv s) (buffers : Pending (Shared Dri2Buffer))
    (held : Multiset Nat)
    (hget : ∀ p d, Shared.get? pixmaps p = some d → Shared.get? s.pixmaps p = some d)
    (hpixmaps : Counts pixmaps
      ({ s with buffers := buffers, held := held } : Dri2State V).holders)
    (hbuffers : Counts buffers refs)
    (hmem : Owns mem ({ s with buffers := buffers } : Dri2State V).owned)
    (hown : ∀ b o, buffers.find? b = some o → o.value.attachment ≠ dri2BufferFrontLeft →
      ({ s with buffers := buffers, held := held } : Dri2State V).holders.count o.value.pixmap = 1) :
    Inv { s with pixmaps := pixmaps, buffers := buffers, held := held, refs := refs, mem := mem } where
  safe := h.safe
  glamor := h.glamor
  pixmaps := hpixmaps
  buffers := hbuffers
  mem := hmem
  own := hown
  bos := fun p d hp => h.bos p d (hget p d hp)
  distinct := fun p q d e hp hq => h.distinct p q d e (hget p d hp) (hget q e hq)
  size := fun p d hp => h.size p d (hget p d hp)

/-! ## The server's pixmaps -/

theorem Inv.hold (h : Inv s) {p : Nat} (hp : p ∈ s.held) :
    Inv { refPixmap s p with held := p ::ₘ s.held } := by
  have hmem := mem_holders_of_held hp
  rw [refPixmap, h.use hmem]
  refine h.of_get s.buffers (p ::ₘ s.held)
    (fun q d hq => (Shared.get?_ref s.pixmaps p q).symm.trans hq) ?_ h.buffers h.mem
    fun b o hfind hown => ?_
  · have hcounts := h.pixmaps.ref hmem
    have hholders : ({ s with held := p ::ₘ s.held } : Dri2State V).holders = p ::ₘ s.holders :=
      Multiset.cons_add p _ _
    rw [hholders]
    exact hcounts
  · have hne : o.value.pixmap ≠ p := h.own_notMem hfind hown hp
    have hholders : ({ s with held := p ::ₘ s.held } : Dri2State V).holders = p ::ₘ s.holders :=
      Multiset.cons_add p _ _
    rw [hholders, Multiset.count_cons_of_ne hne]
    exact h.own b o hfind hown

theorem Inv.drop (h : Inv s) {p : Nat} (hp : p ∈ s.held) :
    Inv { destroyPixmap s p with held := s.held.erase p } := by
  have hmem := mem_holders_of_held hp
  have hholders : ({ s with held := s.held.erase p } : Dri2State V).holders = s.holders.erase p :=
    (Multiset.erase_add_left_pos _ hp).symm
  rw [destroyPixmap, h.use hmem]
  refine h.of_get s.buffers (s.held.erase p)
    (fun q d hq => Shared.get?_unref_of_some hq) ?_ h.buffers h.mem fun b o hfind hown => ?_
  · rw [hholders]
    exact h.pixmaps.unref hmem
  · have hne : o.value.pixmap ≠ p := h.own_notMem hfind hown hp
    rw [hholders, Multiset.count_erase_of_ne hne]
    exact h.own b o hfind hown

/-! ## New pixmaps -/

/-- The next pixmap is nobody's. -/
theorem Inv.next_ne (h : Inv s) {p : Nat} (hp : p ∈ s.holders) : p ≠ s.pixmaps.next :=
  fun heq => h.pixmaps.next_notMem (heq ▸ hp)

theorem get_created (screen depth : Nat) (size : Size) {p : Nat} {d : Pixmap}
    (hget : Shared.get? (createPixmap s screen depth size).pixmaps p = some d) :
    (p = s.pixmaps.next ∧ d = ⟨screen, depth, size, s.nextBo, 0⟩) ∨
      (p ≠ s.pixmaps.next ∧ Shared.get? s.pixmaps p = some d) := by
  by_cases hp : p = s.pixmaps.next
  · subst hp
    exact Or.inl ⟨rfl, (Option.some.inj ((Shared.get?_new_self _ _).symm.trans hget)).symm⟩
  · exact Or.inr ⟨hp, (Shared.get?_new_ne hp).symm.trans hget⟩

/-- A new pixmap, for the server or for a buffer. -/
theorem Inv.created (h : Inv s) (screen depth : Nat) (size : Size)
    {buffers : Pending (Shared Dri2Buffer)} {held refs : Multiset Nat} {mem : List (Act BufferMem)}
    (hholders : ({ s with buffers := buffers, held := held } : Dri2State V).holders =
      s.pixmaps.next ::ₘ s.holders)
    (hbuffers : Counts buffers refs)
    (hmem : Owns mem ({ s with buffers := buffers } : Dri2State V).owned)
    (hnew : ∀ b o, buffers.find? b = some o →
      o.value.pixmap = s.pixmaps.next ∨ s.buffers.find? b = some o) :
    Inv { createPixmap s screen depth size with
      buffers := buffers, held := held, refs := refs, mem := mem } where
  safe := h.safe
  glamor := h.glamor
  pixmaps := by
    show Counts _ ({ s with buffers := buffers, held := held } : Dri2State V).holders
    rw [hholders]
    exact h.pixmaps.new _
  buffers := hbuffers
  mem := hmem
  own := by
    intro b o hfind hown
    show ({ s with buffers := buffers, held := held } : Dri2State V).holders.count _ = 1
    rw [hholders]
    rcases hnew b o hfind with hnext | hold
    · rw [hnext, Multiset.count_cons_self,
        Multiset.count_eq_zero_of_notMem h.pixmaps.next_notMem]
    · rw [Multiset.count_cons_of_ne (h.next_ne (mem_holders hold))]
      exact h.own b o hold hown
  bos := by
    intro p d hget
    rcases get_created screen depth size hget with ⟨-, rfl⟩ | ⟨-, hold⟩
    · exact Nat.lt_succ_self _
    · exact Nat.lt_succ_of_lt (h.bos p d hold)
  distinct := by
    intro p q d e hp hq hbo
    rcases get_created screen depth size hp with ⟨rfl, rfl⟩ | ⟨-, hp⟩
    · rcases get_created screen depth size hq with ⟨rfl, -⟩ | ⟨-, hq⟩
      · rfl
      · exact absurd hbo.symm (Nat.ne_of_lt (h.bos q e hq))
    · rcases get_created screen depth size hq with ⟨-, rfl⟩ | ⟨-, hq⟩
      · exact absurd hbo (Nat.ne_of_lt (h.bos p d hp))
      · exact h.distinct p q d e hp hq hbo
  size := by
    intro p d hget
    show Function.update s.boSize s.nextBo size d.bo = d.size
    rcases get_created screen depth size hget with ⟨-, rfl⟩ | ⟨-, hold⟩
    · exact Function.update_self ..
    · rw [Function.update_of_ne (Nat.ne_of_lt (h.bos p d hold))]
      exact h.size p d hold

theorem Inv.serverPixmap (h : Inv s) (screen depth : Nat) (size : Size) :
    Inv { createPixmap s screen depth size with held := s.pixmaps.next ::ₘ s.held } :=
  h.created screen depth size (Multiset.cons_add _ _ _) h.buffers h.mem fun _ _ hfind => Or.inr hfind

/-! ## New buffers -/

/-- A function of the driver has a reference on a pixmap: it is counted with the server's. -/
structure Taken (s : Dri2State V) (p attachment : Nat) : Prop where
  inv : Inv { s with held := p ::ₘ s.held }
  own : attachment ≠ dri2BufferFrontLeft →
    ({ s with held := p ::ₘ s.held } : Dri2State V).holders.count p = 1

theorem Inv.bufferPixmap (h : Inv s) (screen : Nat) {draw : Drawable}
    (hdraw : draw.pixmap ∈ s.held) (attachment format : Nat) (answer : CreateAnswer) :
    (bufferPixmap s screen draw attachment format answer = (s, none)) ∨
      ∃ pixmaps nextBo boSize p,
        bufferPixmap s screen draw attachment format answer =
          ({ s with pixmaps := pixmaps, nextBo := nextBo, boSize := boSize }, some p) ∧
        Taken { s with pixmaps := pixmaps, nextBo := nextBo, boSize := boSize } p attachment ∧
        ∀ q ∈ s.holders, Shared.get? pixmaps q = Shared.get? s.pixmaps q := by
  have huse : s.use draw.pixmap = s := h.use (mem_holders_of_held hdraw)
  unfold Dri2Buffers.bufferPixmap
  rw [huse]
  by_cases hfront : attachment = dri2BufferFrontLeft ∧ (s.pixmap draw.pixmap).screen = screen
  · rw [if_pos hfront]
    have hsame : refPixmap s draw.pixmap =
        { s with pixmaps := Shared.ref s.pixmaps draw.pixmap } := by
      rw [refPixmap, huse]
    have hheld := h.hold hdraw
    rw [hsame] at hheld ⊢
    exact Or.inr ⟨_, _, _, _, rfl, ⟨hheld, fun hne => absurd hfront.1 hne⟩,
      fun q _ => Shared.get?_ref s.pixmaps draw.pixmap q⟩
  · rw [if_neg hfront]
    simp only [ite_self]
    cases colourAttachment attachment with
    | false => exact Or.inl rfl
    | true =>
        cases answer.pixmap with
        | none => exact Or.inl rfl
        | some made =>
            refine Or.inr ⟨_, _, _, _, rfl, ⟨h.serverPixmap _ _ _, fun _ => ?_⟩,
              fun q hq => Shared.get?_new_ne (h.next_ne hq)⟩
            have hone : (s.pixmaps.next ::ₘ s.holders).count s.pixmaps.next = 1 := by
              rw [Multiset.count_cons_self,
                Multiset.count_eq_zero_of_notMem h.pixmaps.next_notMem]
            exact (congrArg (Multiset.count s.pixmaps.next) (Multiset.cons_add _ _ _)).trans hone

/-- What a buffer that is made owns. -/
theorem owned_new (s : Dri2State V) (d : Dri2Buffer) :
    ({ s with buffers := Shared.new s.buffers d } : Dri2State V).owned =
      .priv s.buffers.next ::ₘ .buffer s.buffers.next ::ₘ s.owned := by
  show ((.buffer s.buffers.next :: s.buffers.tokens.map .buffer : List BufferMem) :
      Multiset BufferMem) +
    ((.priv s.buffers.next :: s.buffers.tokens.map .priv : List BufferMem) :
      Multiset BufferMem) = _
  rw [← Multiset.cons_coe, ← Multiset.cons_coe, Multiset.cons_add, Multiset.add_cons,
    Multiset.cons_swap]
  rfl

theorem notMem_owned (s : Dri2State V) :
    BufferMem.buffer s.buffers.next ∉ s.owned ∧ BufferMem.priv s.buffers.next ∉ s.owned := by
  have hlt : ∀ b ∈ s.buffers.tokens, b ≠ s.buffers.next := fun b hb =>
    Nat.ne_of_lt (Pending.lt_next_of_mem hb)
  constructor
  · intro hmem
    rcases Multiset.mem_add.mp hmem with hin | hin
    · obtain ⟨b, hb, heq⟩ := List.mem_map.mp (Multiset.mem_coe.mp hin)
      cases heq
      exact hlt _ hb rfl
    · obtain ⟨b, -, heq⟩ := List.mem_map.mp (Multiset.mem_coe.mp hin)
      cases heq
  · intro hmem
    rcases Multiset.mem_add.mp hmem with hin | hin
    · obtain ⟨b, -, heq⟩ := List.mem_map.mp (Multiset.mem_coe.mp hin)
      cases heq
    · obtain ⟨b, hb, heq⟩ := List.mem_map.mp (Multiset.mem_coe.mp hin)
      cases heq
      exact hlt _ hb rfl

/-- The two allocations of a buffer. -/
theorem Inv.allocated (h : Inv s) :
    Owns (.acquire (.priv s.buffers.next) :: .acquire (.buffer s.buffers.next) :: s.mem)
      (.priv s.buffers.next ::ₘ .buffer s.buffers.next ::ₘ s.owned) := by
  obtain ⟨hbuffer, hpriv⟩ := notMem_owned s
  refine (h.mem.acquire hbuffer).acquire fun hmem => ?_
  rcases Multiset.mem_cons.mp hmem with heq | hmem
  · cases heq
  · exact hpriv hmem

theorem Inv.freed (h : Inv s) :
    Owns (.release (.buffer s.buffers.next) :: .release (.priv s.buffers.next) ::
      .acquire (.priv s.buffers.next) :: .acquire (.buffer s.buffers.next) :: s.mem) s.owned :=
  (h.allocated.release rfl).release rfl

/-- A history of the allocations with the same outcome. -/
theorem Inv.of_mem (h : Inv s) {mem : List (Act BufferMem)} (hmem : Owns mem s.owned) :
    Inv { s with mem := mem } :=
  h.of_get s.buffers s.held (fun _ _ hp => hp) h.pixmaps h.buffers hmem h.own

/-- The buffer takes the reference over. -/
theorem Taken.newBuffer {p attachment : Nat} (h : Taken s p attachment) {d : Dri2Buffer}
    (hp : d.pixmap = p) (hattachment : d.attachment = attachment) :
    Inv { s with
      buffers := Shared.new s.buffers d
      refs := s.buffers.next ::ₘ s.refs
      mem := .acquire (.priv s.buffers.next) :: .acquire (.buffer s.buffers.next) :: s.mem } := by
  have hholders : ({ s with buffers := Shared.new s.buffers d } : Dri2State V).holders =
      ({ s with held := p ::ₘ s.held } : Dri2State V).holders := by
    show s.held + ((d.pixmap :: s.buffers.requests.map fun o => o.value.pixmap : List Nat) :
      Multiset Nat) = p ::ₘ s.held + _
    rw [← Multiset.cons_coe, Multiset.add_cons, Multiset.cons_add, hp]
  refine h.inv.of_get (Shared.new s.buffers d) s.held
    (fun _ _ hget => hget) (hholders ▸ h.inv.pixmaps) (h.inv.buffers.new d)
    ((owned_new s d).symm ▸ h.inv.allocated) fun b o hfind hown => ?_
  show ({ s with buffers := Shared.new s.buffers d } : Dri2State V).holders.count _ = 1
  rw [hholders]
  rcases Pending.find?_alloc_eq_some.mp hfind with ⟨-, rfl⟩ | hold
  · rw [hp]
    exact h.own (hattachment ▸ hown)
  · exact h.inv.own b o hold hown

/-- Or it is given back. -/
theorem Taken.giveBack {p attachment : Nat} (h : Taken s p attachment) {mem : List (Act BufferMem)}
    (hmem : Owns mem s.owned) : Inv { destroyPixmap s p with mem := mem } := by
  have hp : p ∈ ({ s with held := p ::ₘ s.held } : Dri2State V).held := Multiset.mem_cons_self _ _
  have hdropped := h.inv.drop hp
  have huse : s.use p = s := by
    rw [Dri2State.use, (h.inv.pixmaps.live p).mpr (mem_holders_of_held hp)]
    rfl
  rw [destroyPixmap, h.inv.use (mem_holders_of_held hp)] at hdropped
  simp only [Multiset.erase_cons_head] at hdropped
  rw [destroyPixmap, huse]
  exact hdropped.of_mem hmem

theorem Inv.createBuffer (h : Inv s) (screen : Nat) {draw : Drawable}
    (hdraw : draw.pixmap ∈ s.held) (attachment format : Nat) (answer : CreateAnswer) :
    Inv (msDri2CreateBuffer2 s screen draw attachment format answer).1 := by
  unfold msDri2CreateBuffer2
  cases answer.bufferOk with
  | false => exact h
  | true =>
      cases answer.privateOk with
      | false => exact h.of_mem ((h.mem.acquire (notMem_owned s).1).release rfl)
      | true =>
          rcases h.bufferPixmap screen hdraw attachment format answer with
            hnone | ⟨pixmaps, nextBo, boSize, p, hsome, htaken, -⟩
          · rw [hnone]
            exact h.of_mem h.freed
          · rw [hsome]
            cases answer.pitch with
            | none => exact htaken.giveBack h.freed
            | some pitch => exact htaken.newBuffer rfl rfl

/-- A change that leaves a buffer its pixmap and its attachment. -/
theorem Inv.counted (h : Inv s) {b : Nat} {f : Shared Dri2Buffer → Shared Dri2Buffer}
    (hf : ∀ o, (f o).value.pixmap = o.value.pixmap ∧
      (f o).value.attachment = o.value.attachment) {refs : Multiset Nat}
    (hbuffers : Counts (s.buffers.modify b f) refs) :
    Inv { s with buffers := s.buffers.modify b f, refs := refs } := by
  have hholders : ({ s with buffers := s.buffers.modify b f } : Dri2State V).holders = s.holders :=
    holders_same s b f fun o => (hf o).1
  have howned : ({ s with buffers := s.buffers.modify b f } : Dri2State V).owned = s.owned := by
    rw [Dri2State.owned, Pending.tokens_modify]
    rfl
  refine h.of_get (s.buffers.modify b f) s.held (fun _ _ hget => hget)
    (hholders ▸ h.pixmaps) hbuffers (howned ▸ h.mem) fun j o hfind hown => ?_
  show ({ s with buffers := s.buffers.modify b f } : Dri2State V).holders.count _ = 1
  rw [hholders]
  rw [Pending.find?_modify] at hfind
  by_cases hj : j = b
  · rw [if_pos hj] at hfind
    obtain ⟨o', ho', rfl⟩ := Option.map_eq_some_iff.mp hfind
    rw [(hf o').2] at hown
    rw [(hf o').1]
    exact h.own j o' ho' hown
  · rw [if_neg hj] at hfind
    exact h.own j o hfind hown

theorem Inv.reference (h : Inv s) {b : Nat} (hb : b ∈ s.refs) :
    Inv (msDri2ReferenceBuffer s b) := by
  rw [msDri2ReferenceBuffer, h.useBuffer hb]
  exact h.counted (f := fun o => { o with refcnt := o.refcnt + 1 }) (fun _ => ⟨rfl, rfl⟩)
    (h.buffers.ref hb)

theorem owned_remove {b : Nat} {o : Shared Dri2Buffer} (hfind : s.buffers.find? b = some o) :
    s.owned = .priv b ::ₘ .buffer b ::ₘ
      ({ s with buffers := s.buffers.remove b } : Dri2State V).owned := by
  have hperm := Pending.perm_tokens_remove hfind
  have hbuffer : ((s.buffers.tokens.map .buffer : List BufferMem) : Multiset BufferMem) =
      .buffer b ::ₘ ((s.buffers.remove b).tokens.map .buffer : List BufferMem) :=
    Multiset.coe_eq_coe.mpr (hperm.map BufferMem.buffer)
  have hpriv : ((s.buffers.tokens.map .priv : List BufferMem) : Multiset BufferMem) =
      .priv b ::ₘ ((s.buffers.remove b).tokens.map .priv : List BufferMem) :=
    Multiset.coe_eq_coe.mpr (hperm.map BufferMem.priv)
  rw [Dri2State.owned, hbuffer, hpriv, Multiset.cons_add, Multiset.add_cons, Multiset.cons_swap]
  rfl

/-- The last reference is given back. -/
theorem Inv.removeBuffer (h : Inv s) {b : Nat} {o : Shared Dri2Buffer}
    (hfind : s.buffers.find? b = some o) {refs : Multiset Nat}
    (hbuffers : Counts (s.buffers.remove b) refs) :
    Inv { s with
      pixmaps := Shared.unref s.pixmaps o.value.pixmap
      buffers := s.buffers.remove b
      refs := refs
      mem := .release (.buffer b) :: .release (.priv b) :: s.mem } := by
  have hholders : ({ s with buffers := s.buffers.remove b } : Dri2State V).holders =
      s.holders.erase o.value.pixmap := by
    rw [holders_eq hfind, Multiset.add_cons, Multiset.erase_cons_head]
    rfl
  have hmem := (h.mem.release (owned_remove hfind)).release rfl
  refine h.of_get (s.buffers.remove b) s.held
    (fun _ _ hget => Shared.get?_unref_of_some hget) ?_ hbuffers hmem fun j o' hfind' hown => ?_
  · show Counts _ ({ s with buffers := s.buffers.remove b } : Dri2State V).holders
    rw [hholders]
    exact h.pixmaps.unref (mem_holders hfind)
  · have hj : j ≠ b := by
      rintro rfl
      rw [Pending.find?_remove_self] at hfind'
      cases hfind'
    rw [Pending.find?_remove_ne hj] at hfind'
    show ({ s with buffers := s.buffers.remove b } : Dri2State V).holders.count _ = 1
    rw [hholders, Multiset.count_erase_of_ne (h.own_ne hfind' hown hfind hj.symm).symm]
    exact h.own j o' hfind' hown

theorem Inv.destroyBuffer (h : Inv s) {b : Nat} (hb : b ∈ s.refs) :
    Inv (msDri2DestroyBuffer2 s b) := by
  obtain ⟨o, hfind⟩ := h.buffers.find hb
  have hbuffers := h.buffers.unref hb
  unfold msDri2DestroyBuffer2
  rw [hfind]
  by_cases hlast : o.refcnt - 1 = 0
  · have hunref : Shared.unref s.buffers b = s.buffers.remove b := by
      rw [Shared.unref, hfind]
      exact if_pos hlast
    have huse : ({ s with refs := s.refs.erase b } : Dri2State V).use o.value.pixmap =
        { s with refs := s.refs.erase b } := by
      rw [Dri2State.use]
      exact if_pos ((h.pixmaps.live _).mpr (mem_holders hfind))
    rw [hunref] at hbuffers
    simp only [hlast, if_true, destroyPixmap, huse, hunref]
    exact h.removeBuffer hfind hbuffers
  · have hunref : Shared.unref s.buffers b =
        s.buffers.modify b fun o => { o with refcnt := o.refcnt - 1 } := by
      rw [Shared.unref, hfind]
      exact if_neg hlast
    rw [hunref] at hbuffers
    simp only [hlast, if_false, hunref]
    exact h.counted (f := fun o => { o with refcnt := o.refcnt - 1 }) (fun _ => ⟨rfl, rfl⟩)
      hbuffers

/-- A reference that is given back changes no buffer and no pixmap. -/
theorem get_destroyBuffer_buffers {b j : Nat} {d : Dri2Buffer}
    (hget : Shared.get? (msDri2DestroyBuffer2 s b).buffers j = some d) :
    Shared.get? s.buffers j = some d := by
  unfold msDri2DestroyBuffer2 at hget
  cases hfind : s.buffers.find? b with
  | none =>
      rw [hfind] at hget
      exact hget
  | some o =>
      rw [hfind] at hget
      by_cases hlast : o.refcnt - 1 = 0
      · simp only [hlast, if_true] at hget
        exact Shared.get?_unref_of_some hget
      · simp only [hlast, if_false] at hget
        exact Shared.get?_unref_of_some hget

theorem get_destroyBuffer_pixmaps {b q : Nat} {d : Pixmap}
    (hget : Shared.get? (msDri2DestroyBuffer2 s b).pixmaps q = some d) :
    Shared.get? s.pixmaps q = some d := by
  unfold msDri2DestroyBuffer2 at hget
  cases hfind : s.buffers.find? b with
  | none =>
      rw [hfind] at hget
      exact hget
  | some o =>
      rw [hfind] at hget
      by_cases hlast : o.refcnt - 1 = 0
      · simp only [hlast, if_true] at hget
        exact Shared.get?_unref_of_some hget
      · simp only [hlast, if_false] at hget
        exact hget

theorem destroyBuffer_held (s : Dri2State V) (b : Nat) : (msDri2DestroyBuffer2 s b).held = s.held := by
  unfold msDri2DestroyBuffer2
  cases s.buffers.find? b with
  | none => rfl
  | some o =>
      by_cases hlast : o.refcnt - 1 = 0
      · simp only [hlast, if_true, destroyPixmap, Dri2State.use]
        split
        · rfl
        · rfl
      · simp only [hlast, if_false]

theorem destroyBuffer_refs (hinv : Inv s) {b : Nat} (hb : b ∈ s.refs) :
    (msDri2DestroyBuffer2 s b).refs = s.refs.erase b := by
  obtain ⟨o, hfind⟩ := hinv.buffers.find hb
  unfold msDri2DestroyBuffer2
  rw [hfind]
  by_cases hlast : o.refcnt - 1 = 0
  · simp only [hlast, if_true, destroyPixmap, Dri2State.use]
    split
    · rfl
    · rfl
  · simp only [hlast, if_false]

/-! ## Front buffers -/

theorem Inv.setBuffer (h : Inv s) (b : Nat) {f : Dri2Buffer → Dri2Buffer}
    (hf : ∀ d, (f d).pixmap = d.pixmap ∧ (f d).attachment = d.attachment) :
    Inv (s.setBuffer b f) :=
  h.counted (f := fun o => { o with value := f o.value }) (fun o => hf o.value)
    (h.buffers.set b f)

theorem buffer_eq {b : Nat} {o : Shared Dri2Buffer} (hfind : s.buffers.find? b = some o) :
    s.buffer b = o.value := by
  rw [Dri2State.buffer, Shared.get?, hfind]
  rfl

theorem buffer_set {b : Nat} {o : Shared Dri2Buffer} (hfind : s.buffers.find? b = some o)
    (f : Dri2Buffer → Dri2Buffer) (pixmaps : Pending (Shared Pixmap)) :
    ({ s with pixmaps := pixmaps, buffers := Shared.set s.buffers b f } : Dri2State V).buffer b =
      f o.value := by
  rw [Dri2State.buffer, Shared.get?, Shared.set, Pending.find?_modify_self hfind]
  rfl

@[simp] theorem use_pixmaps (s : Dri2State V) (p : Nat) : (s.use p).pixmaps = s.pixmaps := by
  unfold Dri2State.use
  split
  · rfl
  · rfl

@[simp] theorem use_buffers (s : Dri2State V) (p : Nat) : (s.use p).buffers = s.buffers := by
  unfold Dri2State.use
  split
  · rfl
  · rfl

@[simp] theorem use_refs (s : Dri2State V) (p : Nat) : (s.use p).refs = s.refs := by
  unfold Dri2State.use
  split
  · rfl
  · rfl

/-- What is left when a buffer gives its pixmap back for one that the server holds. -/
theorem live_unref {b q : Nat} {o : Shared Dri2Buffer}
    (hfind : s.buffers.find? b = some o) (hq : q ∈ s.held) :
    q ∈ s.holders.erase o.value.pixmap := by
  rw [holders_eq hfind, Multiset.add_cons, Multiset.erase_cons_head]
  exact Multiset.mem_add.mpr (Or.inl hq)

/-- A front left buffer changes its pixmap. -/
theorem Inv.moveFront (h : Inv s) {front q : Nat} {o : Shared Dri2Buffer}
    (hfind : s.buffers.find? front = some o) (hfront : o.value.attachment = dri2BufferFrontLeft)
    (hq : q ∈ s.held) {f : Dri2Buffer → Dri2Buffer} (hf : (f o.value).pixmap = q)
    (hattachment : (f o.value).attachment = o.value.attachment) :
    refPixmap (((destroyPixmap s o.value.pixmap).use q).setBuffer front f) q =
        { s with
          pixmaps := Shared.ref (Shared.unref s.pixmaps o.value.pixmap) q
          buffers := Shared.set s.buffers front f } ∧
      Inv { s with
        pixmaps := Shared.ref (Shared.unref s.pixmaps o.value.pixmap) q
        buffers := Shared.set s.buffers front f } := by
  have hunref := h.pixmaps.unref (mem_holders hfind)
  have hlive := live_unref hfind hq
  have hsome : ((Shared.unref s.pixmaps o.value.pixmap).find? q).isSome = true :=
    (hunref.live q).mpr hlive
  constructor
  · have hdestroyed : (destroyPixmap s o.value.pixmap).use q =
        { s with pixmaps := Shared.unref s.pixmaps o.value.pixmap } := by
      rw [destroyPixmap, h.use (mem_holders hfind), Dri2State.use]
      exact if_pos hsome
    rw [hdestroyed, refPixmap, Dri2State.use, if_pos]
    · rfl
    · exact hsome
  · have hholders : ({ s with buffers := Shared.set s.buffers front f } : Dri2State V).holders =
        q ::ₘ s.holders.erase o.value.pixmap := by
      have hmodify := holders_modify hfind fun o => { o with value := f o.value }
      rw [hf] at hmodify
      rw [holders_eq hfind, Multiset.add_cons, Multiset.erase_cons_head, ← Multiset.add_cons]
      exact hmodify
    have howned : ({ s with buffers := Shared.set s.buffers front f } : Dri2State V).owned =
        s.owned := by
      rw [Dri2State.owned, Shared.set, Pending.tokens_modify]
      rfl
    refine h.of_get (Shared.set s.buffers front f) s.held
      (fun p d hget => ?_) (hholders ▸ hunref.ref hlive) (h.buffers.set front f)
      (howned ▸ h.mem) fun j o' hfind' hown => ?_
    · rw [Shared.get?_ref] at hget
      exact Shared.get?_unref_of_some hget
    · have hj : j ≠ front := by
        rintro rfl
        rw [Shared.set, Pending.find?_modify_self hfind] at hfind'
        cases hfind'
        exact hown (hattachment.trans hfront)
      rw [Shared.set, Pending.find?_modify_ne hj] at hfind'
      show ({ s with buffers := Shared.set s.buffers front f } : Dri2State V).holders.count _ = 1
      rw [hholders, Multiset.count_cons_of_ne (h.own_notMem hfind' hown hq),
        Multiset.count_erase_of_ne (h.own_ne hfind' hown hfind hj.symm).symm]
      exact h.own j o' hfind' hown

/-- A front left buffer after `update_front`. -/
def fresh (draw : Drawable) (pixmap : Pixmap) (buffer : Dri2Buffer) : Dri2Buffer :=
  { buffer with
    name := pixmap.bo
    pitch := pixmap.size.devKind
    cpp := pixmap.size.bitsPerPixel / 8
    pixmap := draw.pixmap }

/-- What `update_front` does. -/
structure Updated (s s' : Dri2State V) (draw : Drawable) (front : Nat) : Prop where
  inv : Inv s'
  held : s'.held = s.held
  refs : s'.refs = s.refs
  cells : s'.cells = s.cells
  pixmap : ∀ p d, Shared.get? s'.pixmaps p = some d → Shared.get? s.pixmaps p = some d
  others : ∀ b, b ≠ front → s'.buffers.find? b = s.buffers.find? b
  front : s'.buffer front = fresh draw (s.pixmap draw.pixmap) (s.buffer front)

theorem Inv.updateFront (h : Inv s) {draw : Drawable} {front : Nat} (hdraw : draw.pixmap ∈ s.held)
    (hfront : front ∈ s.refs) (hleft : (s.buffer front).attachment = dri2BufferFrontLeft)
    (pitch : Option Nat) :
    updateFront s draw front pitch = (s, false) ∨
      ∃ s', updateFront s draw front pitch = (s', true) ∧ Updated s s' draw front := by
  unfold Dri2Buffers.updateFront
  rw [h.useBuffer hfront, h.use (mem_holders_of_held hdraw)]
  cases pitch with
  | none => exact Or.inl rfl
  | some pitch =>
      obtain ⟨o, hfind⟩ := h.buffers.find hfront
      rw [buffer_eq hfind] at hleft
      -- The name is written first.
      have hnamed : Inv (s.setBuffer front fun buffer =>
          { buffer with name := (s.pixmap draw.pixmap).bo }) :=
        h.setBuffer front fun _ => ⟨rfl, rfl⟩
      have hfind' := Pending.find?_modify_self hfind fun o : Shared Dri2Buffer =>
        { o with value := { o.value with name := (s.pixmap draw.pixmap).bo } }
      -- The pixmap of the drawable outlives the reference that is given back.
      have hsize : ∀ t : Dri2State V, t.pixmaps = Shared.unref s.pixmaps o.value.pixmap →
          t.pixmap draw.pixmap = s.pixmap draw.pixmap := by
        intro t ht
        rw [Dri2State.pixmap, Dri2State.pixmap, ht,
          h.pixmaps.get_unref (mem_holders hfind) (live_unref hfind hdraw)]
      obtain ⟨heq, hinv⟩ := hnamed.moveFront hfind' hleft hdraw (f := fun buffer =>
        { buffer with
          pitch := (s.pixmap draw.pixmap).size.devKind
          cpp := (s.pixmap draw.pixmap).size.bitsPerPixel / 8
          pixmap := draw.pixmap }) rfl rfl
      have hbuffer := buffer_eq (s := s.setBuffer front fun buffer =>
        { buffer with name := (s.pixmap draw.pixmap).bo }) hfind'
      refine Or.inr ⟨_, ?_, hinv, rfl, rfl, rfl, fun p d hget => ?_, fun b hb => ?_, ?_⟩
      · simp only [nameFromPixmap, Option.map_some, hbuffer]
        rw [hsize (((destroyPixmap (s.setBuffer front fun buffer =>
          { buffer with name := (s.pixmap draw.pixmap).bo }) o.value.pixmap).use draw.pixmap)) ?_]
        · exact congrArg (·, true) heq
        · rw [use_pixmaps]
          rfl
      · exact Shared.get?_unref_of_some ((Shared.get?_ref _ _ _).symm.trans hget)
      · exact (Pending.find?_modify_ne hb _).trans (Pending.find?_modify_ne hb _)
      · rw [buffer_eq hfind]
        exact buffer_set (s := s.setBuffer front fun buffer =>
          { buffer with name := (s.pixmap draw.pixmap).bo }) hfind' _ _

/-! ## Flips -/

/-- The front and the back buffer of a swap are two. -/
theorem Swapping.ne {draw : Drawable} {front back : Nat} (h : Swapping s draw front back) :
    back ≠ front := by
  intro heq
  have hleft := h.frontLeft
  rw [← heq, h.backLeft] at hleft
  exact absurd hleft (by decide)

/-- What `can_flip` finds out. -/
structure Flippable (s s' : Dri2State V) (draw : Drawable) (front back : Nat)
    (env : FlipConditions) : Prop where
  updated : Updated s s' draw front
  whole : env.dri2CanFlip = true
  size : (s'.pixmap draw.pixmap).size = (s'.pixmap (s.buffer back).pixmap).size

theorem Updated.back {s' : Dri2State V} {draw : Drawable} {front back : Nat}
    (h : Updated s s' draw front) (hne : back ≠ front) : s'.buffer back = s.buffer back := by
  rw [Dri2State.buffer, Dri2State.buffer, Shared.get?, Shared.get?, h.others back hne]

theorem Updated.attachment {s' : Dri2State V} {draw : Drawable} {front : Nat}
    (h : Updated s s' draw front) (b : Nat) :
    (s'.buffer b).attachment = (s.buffer b).attachment := by
  by_cases hb : b = front
  · rw [hb, h.front]
    rfl
  · rw [h.back hb]

theorem Inv.buffer_mem (h : Inv s) {b : Nat} (hb : b ∈ s.refs) :
    (s.buffer b).pixmap ∈ s.holders := by
  obtain ⟨o, hfind⟩ := h.buffers.find hb
  rw [buffer_eq hfind]
  exact mem_holders hfind

theorem Inv.canExchange (h : Inv s) {draw : Drawable} {front back : Nat} {env : FlipConditions}
    (hswap : Swapping s draw front back) (hwhole : env.dri2CanFlip = true) :
    (∃ s', canExchange s draw front back env = (s', true) ∧
        Flippable s s' draw front back env) ∨
      ∃ s', canExchange s draw front back env = (s', false) ∧
        (s' = s ∨ Updated s s' draw front) := by
  unfold Dri2Buffers.canExchange
  rw [h.useBuffer hswap.backHeld]
  cases env.crtcs.any Prod.fst with
  | true => exact Or.inr ⟨s, rfl, Or.inl rfl⟩
  | false =>
      by_cases hoff : env.crtcs.countP Prod.snd = 0
      · simp only [hoff, if_true]
        exact Or.inr ⟨s, rfl, Or.inl rfl⟩
      · simp only [hoff, if_false]
        rcases h.updateFront hswap.drawHeld hswap.frontHeld hswap.frontLeft env.pitch with
          hsame | ⟨s', hok, hupdated⟩
        · rw [hsame]
          exact Or.inr ⟨s, rfl, Or.inl rfl⟩
        · rw [hok]
          have hback := hupdated.back hswap.ne
          have hfront : (s'.buffer front).pixmap = draw.pixmap := by
            rw [hupdated.front]
            rfl
          have husefront := hupdated.inv.use
            (hupdated.inv.buffer_mem (hupdated.refs.symm ▸ hswap.frontHeld))
          have huseback := hupdated.inv.use
            (hupdated.inv.buffer_mem (hupdated.refs.symm ▸ hswap.backHeld))
          rw [hfront] at husefront
          rw [hback] at huseback
          simp only [Bool.not_true, Bool.false_eq_true, if_false, hfront, husefront, hback, huseback]
          have hno : ∃ s'', (s', false) = (s'', false) ∧ (s'' = s ∨ Updated s s'' draw front) :=
            ⟨s', rfl, Or.inr hupdated⟩
          by_cases hwidth : (s'.pixmap draw.pixmap).size.width =
              (s'.pixmap (s.buffer back).pixmap).size.width
          · by_cases hheight : (s'.pixmap draw.pixmap).size.height =
                (s'.pixmap (s.buffer back).pixmap).size.height
            · by_cases hbpp : (s'.pixmap draw.pixmap).size.bitsPerPixel =
                  (s'.pixmap (s.buffer back).pixmap).size.bitsPerPixel
              · by_cases hkind : (s'.pixmap draw.pixmap).size.devKind =
                    (s'.pixmap (s.buffer back).pixmap).size.devKind
                · simp only [hwidth, hheight, hbpp, hkind, ne_eq, not_true, if_false]
                  refine Or.inl ⟨s', rfl, hupdated, hwhole, ?_⟩
                  exact (Size.mk.injEq ..).mpr ⟨hwidth, hheight, hbpp, hkind⟩
                · simp only [hwidth, hheight, hbpp, hkind, ne_eq, not_true, not_false_eq_true,
                    if_false, if_true]
                  exact Or.inr hno
              · simp only [hwidth, hheight, hbpp, ne_eq, not_true, not_false_eq_true, if_false,
                  if_true]
                exact Or.inr hno
            · simp only [hwidth, hheight, ne_eq, not_true, not_false_eq_true, if_false, if_true]
              exact Or.inr hno
          · simp only [hwidth, ne_eq, not_false_eq_true, if_true]
            exact Or.inr hno

theorem Inv.canFlip (h : Inv s) {draw : Drawable} {front back : Nat}
    (hswap : Swapping s draw front back) (env : FlipConditions) :
    (∃ s', canFlip s draw front back env = (s', true) ∧ Flippable s s' draw front back env) ∨
      ∃ s', canFlip s draw front back env = (s', false) ∧ (s' = s ∨ Updated s s' draw front) := by
  unfold Dri2Buffers.canFlip
  split
  · rename_i hflags
    simp only [Bool.and_eq_true] at hflags
    exact h.canExchange hswap hflags.2
  · exact Or.inr ⟨s, rfl, Or.inl rfl⟩

/-! ## Exchanges -/

/-- A change that leaves a pixmap its buffer object and its size. -/
theorem Inv.setPixmap (h : Inv s) (p : Nat) {f : Pixmap → Pixmap}
    (hf : ∀ d, (f d).bo = d.bo ∧ (f d).size = d.size) : Inv (s.setPixmap p f) := by
  have hget : ∀ q d, Shared.get? (Shared.set s.pixmaps p f) q = some d →
      ∃ d', Shared.get? s.pixmaps q = some d' ∧ d'.bo = d.bo ∧ d'.size = d.size := by
    intro q d hq
    rw [Shared.get?_set] at hq
    split at hq
    · obtain ⟨d', hd', rfl⟩ := Option.map_eq_some_iff.mp hq
      exact ⟨d', hd', (hf d').1.symm, (hf d').2.symm⟩
    · exact ⟨d, hq, rfl, rfl⟩
  exact
    { safe := h.safe
      glamor := h.glamor
      pixmaps := h.pixmaps.set p f
      buffers := h.buffers
      mem := h.mem
      own := h.own
      bos := by
        intro q d hq
        obtain ⟨d', hd', hbo, -⟩ := hget q d hq
        exact hbo ▸ h.bos q d' hd'
      distinct := by
        intro q r d e hq hr hbo
        obtain ⟨d', hd', hd, -⟩ := hget q d hq
        obtain ⟨e', he', he, -⟩ := hget r e hr
        exact h.distinct q r d' e' hd' he' (hd.trans (hbo.trans he.symm))
      size := by
        intro q d hq
        obtain ⟨d', hd', hbo, hsize⟩ := hget q d hq
        rw [← hbo, ← hsize]
        exact h.size q d' hd' }

theorem pixmap_eq {p : Nat} {d : Pixmap} (hget : Shared.get? s.pixmaps p = some d) :
    s.pixmap p = d := by
  rw [Dri2State.pixmap, hget]
  rfl

theorem Updated.pixmap_eq {draw : Drawable} {front : Nat} {s' : Dri2State V}
    (h : Updated s s' draw front) {p : Nat}
    (hp : p ∈ s'.holders) : s'.pixmap p = s.pixmap p := by
  obtain ⟨d, hd⟩ := h.inv.pixmaps.get hp
  rw [Dri2Buffers.pixmap_eq hd, Dri2Buffers.pixmap_eq (h.pixmap p d hd)]

/-- The pixmaps after an exchange. -/
theorem get_exchangeBos {p q : Nat} (hne : p ≠ q) {dp dq : Pixmap}
    (hp : Shared.get? s.pixmaps p = some dp) (hq : Shared.get? s.pixmaps q = some dq) (r : Nat) :
    Shared.get? (exchangeBos s p q).pixmaps r =
      if r = p then some { dp with bo := dq.bo }
      else if r = q then some { dq with bo := dp.bo }
      else Shared.get? s.pixmaps r := by
  rw [exchangeBos, pixmap_eq hp, pixmap_eq hq]
  simp only [Dri2State.setPixmap, Shared.get?_set]
  by_cases hrp : r = p
  · subst hrp
    simp only [hne, if_true, if_false, hp, Option.map_some]
  · by_cases hrq : r = q
    · subst hrq
      simp only [hrp, if_true, if_false, hq, Option.map_some]
    · simp only [hrp, hrq, if_false]

/-- Two pixmaps of one size exchange their buffer objects. -/
theorem Inv.exchangeBos (h : Inv s) {p q : Nat} (hne : p ≠ q) {dp dq : Pixmap}
    (hp : Shared.get? s.pixmaps p = some dp) (hq : Shared.get? s.pixmaps q = some dq)
    (hsize : dp.size = dq.size) : Inv (exchangeBos s p q) := by
  have hget := get_exchangeBos hne hp hq
  -- Every pixmap has a buffer object that a pixmap of its size had.
  have hold : ∀ r d, Shared.get? (Dri2Buffers.exchangeBos s p q).pixmaps r = some d →
      ∃ d', Shared.get? s.pixmaps (Equiv.swap p q r) = some d' ∧
        d'.bo = d.bo ∧ d'.size = d.size := by
    intro r d hr
    rw [hget] at hr
    rw [Equiv.swap_apply_def]
    by_cases hrp : r = p
    · simp only [hrp, if_true] at hr ⊢
      cases hr
      exact ⟨dq, hq, rfl, hsize.symm⟩
    · by_cases hrq : r = q
      · subst hrq
        simp only [hrp, if_false, if_true] at hr ⊢
        cases hr
        exact ⟨dp, hp, rfl, hsize⟩
      · simp only [hrp, hrq, if_false] at hr ⊢
        exact ⟨d, hr, rfl, rfl⟩
  exact
    { safe := h.safe
      glamor := h.glamor
      pixmaps := by
        have hset := (h.pixmaps.set p fun pixmap => { pixmap with bo := (s.pixmap q).bo }).set q
          fun pixmap => { pixmap with bo := (s.pixmap p).bo }
        exact hset
      buffers := h.buffers
      mem := h.mem
      own := h.own
      bos := by
        intro r d hr
        obtain ⟨d', hd', hbo, -⟩ := hold r d hr
        exact hbo ▸ h.bos _ d' hd'
      distinct := by
        intro r r' d e hr hr' hbo
        obtain ⟨d', hd', hd, -⟩ := hold r d hr
        obtain ⟨e', he', he, -⟩ := hold r' e hr'
        have hsame := h.distinct _ _ d' e' hd' he' (hd.trans (hbo.trans he.symm))
        exact (Equiv.swap p q).injective hsame
      size := by
        intro r d hr
        obtain ⟨d', hd', hbo, hsize'⟩ := hold r d hr
        rw [← hbo, ← hsize']
        exact h.size _ d' hd' }

/-- A buffer after an exchange of names. -/
def named (front back frontName backName b : Nat) (d : Dri2Buffer) : Dri2Buffer :=
  if b = back then { d with name := frontName }
  else if b = front then { d with name := backName }
  else d

theorem get_exchangeNames {front back : Nat} (hne : back ≠ front) (b : Nat) :
    Shared.get? (exchangeNames s front back).buffers b = (Shared.get? s.buffers b).map
      (named front back (s.buffer front).name (s.buffer back).name b) := by
  simp only [exchangeNames, Dri2State.setBuffer, Shared.get?_set]
  by_cases hback : b = back
  · subst hback
    simp only [hne, if_true, if_false]
    exact congrArg (Option.map · _) (funext fun d => (if_pos rfl).symm)
  · by_cases hfront : b = front
    · subst hfront
      simp only [hne.symm, if_true, if_false]
      exact congrArg (Option.map · _) (funext fun d => ((if_neg hne.symm).trans (if_pos rfl)).symm)
    · simp only [hback, hfront, if_false]
      have hid : named front back (s.buffer front).name (s.buffer back).name b = id :=
        funext fun d => (if_neg hback).trans (if_neg hfront)
      rw [hid, Option.map_id]
      rfl

theorem Inv.exchangeNames (h : Inv s) (front back : Nat) : Inv (exchangeNames s front back) :=
  (h.setBuffer front (f := fun buffer => { buffer with name := (s.buffer back).name })
    fun _ => ⟨rfl, rfl⟩).setBuffer back
      (f := fun buffer => { buffer with name := (s.buffer front).name }) fun _ => ⟨rfl, rfl⟩

theorem Inv.exchangePrivs (h : Inv s) (p q : Nat) : Inv (exchangePrivs s p q) :=
  (h.setPixmap p (f := fun pixmap => { pixmap with msPriv := (s.pixmap q).msPriv })
    fun _ => ⟨rfl, rfl⟩).setPixmap q
      (f := fun pixmap => { pixmap with msPriv := (s.pixmap p).msPriv }) fun _ => ⟨rfl, rfl⟩

/-- A change that leaves the buffer object and the size. -/
theorem get_setPixmap (p r : Nat) {f : Pixmap → Pixmap}
    (hf : ∀ d, (f d).bo = d.bo ∧ (f d).size = d.size) {d : Pixmap}
    (hr : Shared.get? s.pixmaps r = some d) :
    ∃ d', Shared.get? (s.setPixmap p f).pixmaps r = some d' ∧ d'.bo = d.bo ∧ d'.size = d.size := by
  simp only [Dri2State.setPixmap, Shared.get?_set, hr]
  by_cases hp : r = p
  · exact ⟨f d, if_pos hp, hf d⟩
  · exact ⟨d, if_neg hp, rfl, rfl⟩

/-- The privates say nothing about sizes and buffer objects. -/
theorem get_exchangePrivs (p q r : Nat) {d : Pixmap} (hr : Shared.get? s.pixmaps r = some d) :
    ∃ d', Shared.get? (exchangePrivs s p q).pixmaps r = some d' ∧ d'.bo = d.bo ∧
      d'.size = d.size := by
  obtain ⟨d1, hd1, hbo1, hsize1⟩ := get_setPixmap p r
    (f := fun pixmap => { pixmap with msPriv := (s.pixmap q).msPriv }) (fun _ => ⟨rfl, rfl⟩) hr
  obtain ⟨d2, hd2, hbo2, hsize2⟩ := get_setPixmap q r
    (f := fun pixmap => { pixmap with msPriv := (s.pixmap p).msPriv }) (fun _ => ⟨rfl, rfl⟩) hd1
  exact ⟨d2, hd2, hbo2.trans hbo1, hsize2.trans hsize1⟩

/-- What `ms_dri2_exchange_buffers` does. -/
structure Exchanged (s s' : Dri2State V) (front back : Nat) : Prop where
  inv : Inv s'
  held : s'.held = s.held
  refs : s'.refs = s.refs
  cells : s'.cells = s.cells
  bo : ∀ r ∈ s.holders, (s'.pixmap r).bo =
    (s.pixmap (Equiv.swap (s.buffer front).pixmap (s.buffer back).pixmap r)).bo
  size : ∀ r ∈ s.holders, (s'.pixmap r).size = (s.pixmap r).size
  buffers : ∀ b, Shared.get? s'.buffers b = (Shared.get? s.buffers b).map
    (named front back (s.buffer front).name (s.buffer back).name b)

/-- The names are exchanged, and nothing else of the buffers. -/
theorem Exchanged.buffer {s' : Dri2State V} {front back : Nat}
    (h : Exchanged s s' front back) (hinv : Inv s) {b : Nat}
    (hb : b ∈ s.refs) : (s'.buffer b).attachment = (s.buffer b).attachment ∧
      (s'.buffer b).pixmap = (s.buffer b).pixmap := by
  obtain ⟨d, hd⟩ := hinv.buffers.get hb
  have hget := h.buffers b
  rw [hd] at hget
  rw [Dri2State.buffer, Dri2State.buffer, hget, hd]
  simp only [Option.map_some, Option.getD_some, named]
  split
  · exact ⟨rfl, rfl⟩
  · split
    · exact ⟨rfl, rfl⟩
    · exact ⟨rfl, rfl⟩

theorem Inv.exchange (h : Inv s) {front back : Nat} (hfront : front ∈ s.refs)
    (hback : back ∈ s.refs) (hleft : (s.buffer front).attachment = dri2BufferFrontLeft)
    (hown : (s.buffer back).attachment ≠ dri2BufferFrontLeft)
    (hsize : (s.pixmap (s.buffer front).pixmap).size = (s.pixmap (s.buffer back).pixmap).size) :
    Exchanged s (msDri2ExchangeBuffers s front back) front back := by
  have hne : back ≠ front := fun heq => hown (heq ▸ hleft)
  obtain ⟨of, hof⟩ := h.buffers.find hfront
  obtain ⟨ob, hob⟩ := h.buffers.find hback
  have hpq : (s.buffer front).pixmap ≠ (s.buffer back).pixmap := by
    rw [buffer_eq hob] at hown
    rw [buffer_eq hof, buffer_eq hob]
    exact h.own_ne hob hown hof hne.symm
  obtain ⟨dp, hdp⟩ := h.pixmaps.get (h.buffer_mem hfront)
  obtain ⟨dq, hdq⟩ := h.pixmaps.get (h.buffer_mem hback)
  rw [pixmap_eq hdp, pixmap_eq hdq] at hsize
  unfold msDri2ExchangeBuffers
  rw [h.useBuffer hfront, h.useBuffer hback]
  simp only [h.use (h.buffer_mem hfront), h.use (h.buffer_mem hback)]
  generalize hp : (s.buffer front).pixmap = p at *
  generalize hq : (s.buffer back).pixmap = q at *
  have hprivs := (h.exchangeNames front back).exchangePrivs p q
  obtain ⟨dp', hdp', hboP, hsizeP⟩ := get_exchangePrivs (s := Dri2Buffers.exchangeNames s front back) p q p hdp
  obtain ⟨dq', hdq', hboQ, hsizeQ⟩ := get_exchangePrivs (s := Dri2Buffers.exchangeNames s front back) p q q hdq
  have hglamor : (Dri2Buffers.exchangePrivs (Dri2Buffers.exchangeNames s front back) p q).glamor =
      true := h.glamor
  rw [if_pos hglamor]
  exact
    { inv := hprivs.exchangeBos hpq hdp' hdq' (hsizeP.trans (hsize.trans hsizeQ.symm))
      held := rfl
      refs := rfl
      cells := rfl
      bo := by
        intro r hr
        obtain ⟨d, hd⟩ := h.pixmaps.get hr
        obtain ⟨d', hd', hbo, -⟩ :=
          get_exchangePrivs (s := Dri2Buffers.exchangeNames s front back) p q r hd
        have hget := get_exchangeBos hpq hdp' hdq' r
        rw [hp, hq, Equiv.swap_apply_def]
        by_cases hrp : r = p
        · rw [if_pos hrp] at hget ⊢
          rw [pixmap_eq hget, pixmap_eq hdq]
          exact hboQ
        · by_cases hrq : r = q
          · rw [if_neg hrp, if_pos hrq] at hget ⊢
            rw [pixmap_eq hget, pixmap_eq hdp]
            exact hboP
          · rw [if_neg hrp, if_neg hrq] at hget ⊢
            rw [hd'] at hget
            rw [pixmap_eq hget, pixmap_eq hd]
            exact hbo
      size := by
        intro r hr
        obtain ⟨d, hd⟩ := h.pixmaps.get hr
        obtain ⟨d', hd', -, hsizeR⟩ :=
          get_exchangePrivs (s := Dri2Buffers.exchangeNames s front back) p q r hd
        have hget := get_exchangeBos hpq hdp' hdq' r
        rw [pixmap_eq hd]
        by_cases hrp : r = p
        · subst hrp
          cases hdp'.symm.trans hd'
          rw [if_pos rfl] at hget
          rw [pixmap_eq hget]
          exact hsizeR
        · by_cases hrq : r = q
          · subst hrq
            cases hdq'.symm.trans hd'
            rw [if_neg hrp, if_pos rfl] at hget
            rw [pixmap_eq hget]
            exact hsizeR
          · rw [if_neg hrp, if_neg hrq, hd'] at hget
            rw [pixmap_eq hget]
            exact hsizeR
      buffers := fun b => get_exchangeNames hne b }

/-! ## Copies -/

/-- The pixels after a copy. -/
def copied (s : Dri2State V) (src dst : Target) (clip : Int × Int → Bool)
    (width height offX offY : Int) : Nat → Int × Int → V :=
  (copyArea s src dst clip width height offX offY).cells

theorem Inv.copyArea (h : Inv s) {src dst : Target} (hsrc : src.pixmap ∈ s.holders)
    (hdst : dst.pixmap ∈ s.holders) (clip : Int × Int → Bool) (width height offX offY : Int) :
    copyArea s src dst clip width height offX offY =
      { s with cells := copied s src dst clip width height offX offY } := by
  rw [copied, Dri2Buffers.copyArea, h.use hsrc, h.use hdst]

/-- The drawable or the pixmap that a copy of a buffer reads or writes. -/
def Dri2State.side (s : Dri2State V) (draw : Drawable) (b : Nat) : Target :=
  if (s.buffer b).attachment = dri2BufferFrontLeft then draw.target
  else s.pixmapTarget (s.buffer b).pixmap

theorem Inv.side_mem (h : Inv s) {draw : Drawable} (hdraw : draw.pixmap ∈ s.held) {b : Nat}
    (hb : b ∈ s.refs) : (s.side draw b).pixmap ∈ s.holders := by
  unfold Dri2State.side
  split
  · exact mem_holders_of_held hdraw
  · exact h.buffer_mem hb

theorem Inv.copyRegion (h : Inv s) (screen : Nat) {draw : Drawable}
    (hdraw : draw.pixmap ∈ s.held) (region : Int × Int → Bool) {dest source : Nat}
    (hdest : dest ∈ s.refs) (hsource : source ∈ s.refs) (prime : Option (Option Target))
    (hprime : ∀ target ∈ prime.join, target.pixmap ∈ s.held) (gcOk : Bool) :
    ∃ cells, msDri2CopyRegion2 s screen draw region dest source prime gcOk =
      { s with cells := cells } := by
  have hcopy : ∀ {dst : Target} (offX offY : Int), dst.pixmap ∈ s.holders →
      ∃ cells, (if !gcOk then s
        else Dri2Buffers.copyArea s (s.side draw source) dst
          (fun pos => region (pos.1 - offX, pos.2 - offY)) draw.width draw.height offX offY) =
        { s with cells := cells } := by
    intro dst offX offY hdst
    cases gcOk with
    | false => exact ⟨s.cells, rfl⟩
    | true =>
        rw [Bool.not_true, if_neg Bool.false_ne_true]
        exact ⟨_, h.copyArea (h.side_mem hdraw hsource) hdst _ _ _ _ _⟩
  have hside := h.side_mem hdraw hdest
  unfold msDri2CopyRegion2
  rw [h.useBuffer hsource, h.useBuffer hdest]
  by_cases hother : (s.buffer dest).attachment = dri2BufferFrontLeft ∧ draw.screen ≠ screen
  · rw [if_pos hother]
    cases prime with
    | none => exact ⟨s.cells, rfl⟩
    | some target =>
        cases target with
        | none => exact hcopy 0 0 hside
        | some target =>
            have htarget := mem_holders_of_held (hprime target rfl)
            by_cases hwindow : draw.isWindow = true
            · simp only [hwindow, if_true]
              exact hcopy _ _ htarget
            · simp only [hwindow]
              exact hcopy 0 0 htarget
  · rw [if_neg hother]
    exact hcopy 0 0 hside

/-! ## Steps -/

theorem Inv.blitSwap (h : Inv s) {draw : Drawable} (hdraw : draw.pixmap ∈ s.held) {dst src : Nat}
    (hdst : dst ∈ s.refs) (hsrc : src ∈ s.refs) (gcOk : Bool) :
    ∃ cells, msDri2BlitSwap s draw dst src gcOk = { s with cells := cells } :=
  h.copyRegion draw.screen hdraw draw.target.inside hdst hsrc none
    (fun _ hin => nomatch hin) gcOk

/-- What has been promised holds after `update_front`. -/
theorem Swapping.updated {draw : Drawable} {front back : Nat} (h : Swapping s draw front back)
    {s' : Dri2State V} (hupdated : Updated s s' draw front) : Swapping s' draw front back where
  drawHeld := hupdated.held ▸ h.drawHeld
  frontHeld := hupdated.refs ▸ h.frontHeld
  backHeld := hupdated.refs ▸ h.backHeld
  frontLeft := by
    rw [hupdated.front]
    exact h.frontLeft
  backLeft := by
    rw [hupdated.back h.ne]
    exact h.backLeft

theorem Flippable.exchanged {draw : Drawable} {front back : Nat} {env : FlipConditions}
    {s' : Dri2State V} (h : Flippable s s' draw front back env)
    (hswap : Swapping s draw front back) :
    s'.use (s'.buffer back).pixmap = s' ∧
      Exchanged s' (msDri2ExchangeBuffers s' front back) front back := by
  have hswap' := hswap.updated h.updated
  have hinv := h.updated.inv
  refine ⟨hinv.use (hinv.buffer_mem hswap'.backHeld),
    hinv.exchange hswap'.frontHeld hswap'.backHeld hswap'.frontLeft ?_ ?_⟩
  · rw [hswap'.backLeft]
    decide
  · rw [h.updated.front, h.updated.back hswap.ne]
    exact h.size

/-- How a swap goes when its vblank has come. -/
theorem Inv.frameEvent (h : Inv s) {draw : Drawable} {front back : Nat}
    (hswap : Swapping s draw front back) (env : FlipConditions) (queueFlip scheduled gcOk : Bool) :
    (∃ s', queueFlip = true ∧ scheduled = true ∧
        Dri2Buffers.canFlip s draw front back env = (s', true) ∧
        Flippable s s' draw front back env ∧
        completeSwap s queueFlip draw front back env scheduled gcOk =
          msDri2ExchangeBuffers s' front back ∧
        Exchanged s' (msDri2ExchangeBuffers s' front back) front back) ∨
      ∃ s', (s' = s ∨ Updated s s' draw front) ∧
        (queueFlip && scheduled && (Dri2Buffers.canFlip s draw front back env).2) = false ∧
        completeSwap s queueFlip draw front back env scheduled gcOk =
          msDri2BlitSwap s' draw front back gcOk := by
  unfold completeSwap
  cases queueFlip with
  | false => exact Or.inr ⟨s, Or.inl rfl, rfl, rfl⟩
  | true =>
      rcases h.canFlip hswap env with ⟨s', hcan, hflip⟩ | ⟨s', hcannot, hsame⟩
      · rw [hcan]
        cases scheduled with
        | false => exact Or.inr ⟨s', Or.inr hflip.updated, rfl, rfl⟩
        | true =>
            obtain ⟨huse, hexchanged⟩ := hflip.exchanged hswap
            refine Or.inl ⟨s', rfl, rfl, rfl, hflip, ?_, hexchanged⟩
            simp only [Bool.and_self, if_true, huse]
      · rw [hcannot]
        exact Or.inr ⟨s', hsame, Bool.and_false _, rfl⟩

theorem Inv.perform (h : Inv s) {act : Dri2Act V} (hact : Promised s act) :
    Inv (perform s act) := by
  cases act with
  | createPixmap screen depth size => exact h.serverPixmap screen depth size
  | holdPixmap p => exact h.hold hact
  | dropPixmap p => exact h.drop hact
  | createBuffer screen draw attachment format answer =>
      exact h.createBuffer screen hact attachment format answer
  | referenceBuffer b => exact h.reference hact
  | destroyBuffer b => exact h.destroyBuffer hact
  | checkFlip draw front back env =>
      have hswap : SwapPromised s draw front back env := hact
      show Inv (Dri2Buffers.canFlip s draw front back env).1
      rcases h.canFlip hswap.toSwapping env with ⟨s', hcan, hflip⟩ | ⟨s', hcannot, rfl | hupdated⟩
      · rw [hcan]
        exact hflip.updated.inv
      · rw [hcannot]
        exact h
      · rw [hcannot]
        exact hupdated.inv
  | frameEvent queueFlip draw front back env scheduled gcOk =>
      have hswap : SwapPromised s draw front back env := hact
      show Inv (completeSwap s queueFlip draw front back env scheduled gcOk)
      rcases h.frameEvent hswap.toSwapping env queueFlip scheduled gcOk with
        ⟨s', -, -, -, -, heq, hexchanged⟩ | ⟨s', hsame, -, heq⟩
      · rw [heq]
        exact hexchanged.inv
      · rw [heq]
        rcases hsame with rfl | hupdated
        · obtain ⟨cells, hcells⟩ := h.blitSwap hswap.drawHeld hswap.frontHeld hswap.backHeld gcOk
          rw [hcells]
          exact h.cells cells
        · have hswap' := hswap.updated hupdated
          obtain ⟨cells, hcells⟩ :=
            hupdated.inv.blitSwap hswap'.drawHeld hswap'.frontHeld hswap'.backHeld gcOk
          rw [hcells]
          exact hupdated.inv.cells cells
  | copyRegion screen draw region dest source prime gcOk =>
      obtain ⟨hdraw, hdest, hsource, hprime⟩ := hact
      obtain ⟨cells, hcells⟩ := h.copyRegion screen hdraw region hdest hsource prime hprime gcOk
      show Inv (msDri2CopyRegion2 s screen draw region dest source prime gcOk)
      rw [hcells]
      exact h.cells cells
  | render bo cells => exact h.cells _

theorem Inv.next (h : Inv s) (act : Dri2Act V) : Inv (step s act) := by
  unfold step
  split
  · exact h.perform ‹_›
  · exact h

theorem inv_start (cells : Nat → Int × Int → V) : Inv (.start cells) where
  safe := rfl
  glamor := rfl
  pixmaps := counts_empty
  buffers := counts_empty
  mem := ⟨trivial, rfl⟩
  own := fun _ _ h => nomatch h
  bos := fun _ _ h => nomatch h
  distinct := fun _ _ _ _ h => nomatch h
  size := fun _ _ h => nomatch h

end Rules

/-! ## Runs -/

/-- **A pixmap's header says how large its buffer object is**, whatever was exchanged, and no two
pixmaps have the same one. -/
theorem sizes_fit (cells : Nat → Int × Int → V) (acts : List (Dri2Act V)) :
    Always step (fun s => (∀ p d, Shared.get? s.pixmaps p = some d → s.boSize d.bo = d.size) ∧
      ∀ p q d e, Shared.get? s.pixmaps p = some d → Shared.get? s.pixmaps q = some e →
        d.bo = e.bo → p = q) (.start cells) acts :=
  (always_of_step (P := Inv) (fun _ act h => h.next act) (inv_start cells) acts).mono
    fun _ h => ⟨h.size, h.distinct⟩

end LoongsonVideo.Driver.Dri2Buffers
