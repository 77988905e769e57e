import Mathlib.Data.List.Forall2
import Mathlib.Logic.Function.Basic

/-!
# Probing

`LS_Probe` of `src/loongson_probe.c` goes through the device sections of the configuration
that name this driver.  It opens the device of each, looks for outputs, claims a slot and
gets a screen for it, and sets that up.  The screen is carried from one section to the next,
the number of the entity is not.

* `probeSections_own`: what the loop does for a section, from the screen it begins with.
* `probe_own_iff`: when every section is treated on its own.
* `probeSections_records`: the entities that have a record afterwards.

What the kernel and the server answer is a parameter.
-/

namespace LoongsonVideo.Driver.Probe

/-! ## Opening a device -/

/-- What `LS_OpenHW` meets: the descriptor that the server was given, `KMSDEVICE`, and what
`open` returns for a path, `none` for -1. -/
structure OpenAnswer where
  passedFd : Option Nat
  kmsDevice : Option String
  opened : String → Option Nat

/-- `LS_OpenHW`. -/
def lsOpenHw (a : OpenAnswer) (dev : Option String) : Option Nat :=
  match a.passedFd, dev with
  | some fd, _ => some fd
  | none, some dev => a.opened dev
  | none, none =>
      match a.kmsDevice.bind a.opened with
      | some fd => some fd
      | none => a.opened "/dev/dri/card0"

/-- What `LS_CheckOutputs` meets: `count_connectors` of the resources, `none` without any, and
the result and the value of `drmGetCap`. -/
structure OutputsAnswer where
  countConnectors : Option Int
  getCap : Int
  primeCap : UInt64
  deriving DecidableEq, Repr

/-- `LS_CheckOutputs`.  `gbmLinear` is `GLAMOR_HAS_GBM_LINEAR`. -/
def lsCheckOutputs (gbmLinear : Bool) (a : OutputsAnswer) : Int :=
  match a.countConnectors with
  | none => 0
  | some n =>
      let ret := if n > 0 then 1 else 0
      if gbmLinear && ret = 0 then
        -- `DRM_PRIME_CAP_EXPORT` is 2
        if a.getCap = 0 ∧ a.primeCap &&& 2 ≠ 0 then 1 else a.getCap
      else ret

/-! ## Sections -/

/-- A device section with its `kmsdev` option, and the answers it meets: whether there is a
device with outputs, the result of `xf86ClaimFbSlot`, negative when there is no slot, and that
of `xf86ConfigFbEntity` for the screen it is passed.  That returns a screen when it is passed
one, and makes none for a slot that is not there. -/
structure Section where
  kmsdev : Option String
  openAnswer : OpenAnswer
  outputs : OutputsAnswer
  claim : Int
  config : Option Nat → Option Nat
  config_some : ∀ scrn, (config (some scrn)).isSome = true
  config_none : claim < 0 → config none = none

/-- `res` of the section is not zero. -/
def Section.passes (gbmLinear : Bool) (a : Section) : Bool :=
  match lsOpenHw a.openAnswer a.kmsdev with
  | none => false
  | some _ => lsCheckOutputs gbmLinear a.outputs != 0

/-! ## Setting up -/

/-- What the server keeps of the entities, by their number, and the driver of its place in
their privates: `ls_entity_index`, `none` for -1, and which privates there are set. -/
structure Entities where
  sharable : Nat → Bool
  instances : Nat → Nat
  nextPrivate : Nat
  instanceFor : List (Nat × Nat × Int)
  lsEntityIndex : Option Nat
  record : Nat → Bool

/-- `LS_SetupEntity` with the number of an entity. -/
def lsSetupEntity (t : Entities) (scrn entityNum : Nat) : Entities :=
  { t with
    sharable := Function.update t.sharable entityNum true
    nextPrivate := if t.lsEntityIndex.isNone then t.nextPrivate + 1 else t.nextPrivate
    instanceFor := (scrn, entityNum, (t.instances entityNum : Int) - 1) :: t.instanceFor
    lsEntityIndex := some (t.lsEntityIndex.getD t.nextPrivate)
    record := Function.update t.record entityNum true }

/-- The calls that set up a screen.  The number of the entity is `none` where the variable has
not been given a value. -/
inductive ProbeCall where
  | setupScrnHooks (scrn : Nat)
  | setupEntity (scrn : Nat) (entityNum : Option Int)
  deriving DecidableEq, Repr

/-- The variables of `LS_Probe` that outlive a section, and the entities. -/
structure ProbeState where
  scrn : Option Nat
  foundScreen : Bool
  entities : Entities

/-- What a call does to the entities.  Without the number of one it indexes the server's table
outside the entities, and what that does is not described. -/
def ProbeCall.run (t : Entities) : ProbeCall → Entities
  | .setupScrnHooks _ => t
  | .setupEntity scrn (some (.ofNat n)) => lsSetupEntity t scrn n
  | .setupEntity _ _ => t

/-- The body of the loop. -/
def probeSection (gbmLinear : Bool) (st : ProbeState) (a : Section) :
    ProbeState × List ProbeCall :=
  let entityNum := if a.passes gbmLinear then some a.claim else none
  let scrn := if a.passes gbmLinear then a.config st.scrn else st.scrn
  match scrn with
  | none => ({ st with scrn := none }, [])
  | some scrn =>
      let calls := [.setupScrnHooks scrn, .setupEntity scrn entityNum]
      (⟨some scrn, true, calls.foldl ProbeCall.run st.entities⟩, calls)

/-- The loop: the variables afterwards, and the calls made for each section. -/
def probeSections (gbmLinear : Bool) : ProbeState → List Section →
    ProbeState × List (List ProbeCall)
  | st, [] => (st, [])
  | st, a :: rest =>
      let (st, calls) := probeSection gbmLinear st a
      let (st, later) := probeSections gbmLinear st rest
      (st, calls :: later)

/-- What `LS_Probe` returns, the entities, and the calls made for each section. -/
structure Probed where
  found : Bool
  entities : Entities
  calls : List (List ProbeCall)

/-- `LS_Probe`.  `detect` is `PROBE_DETECT`; `sections` is empty when none matches. -/
def lsProbe (gbmLinear detect : Bool) (t : Entities) (sections : List Section) : Probed :=
  if detect then ⟨false, t, sections.map fun _ => []⟩
  else if sections.isEmpty then ⟨false, t, []⟩
  else
    let (st, calls) := probeSections gbmLinear ⟨none, false, t⟩ sections
    ⟨st.foundScreen, st.entities, calls⟩

/-! ## On its own -/

/-- The entity that `xf86ClaimFbSlot` returns for the section. -/
def Section.claimed (gbmLinear : Bool) (a : Section) : Option Nat :=
  if a.passes gbmLinear && decide (0 ≤ a.claim) then some a.claim.toNat else none

/-- The section gives a screen to a loop that has none. -/
def Section.makesScreen (gbmLinear : Bool) (a : Section) : Bool :=
  a.passes gbmLinear && (a.config none).isSome

/-- **The property for a section**: hooks only if its device opened and passed, and
`LS_SetupEntity` only with the entity claimed for it. -/
structure Own (gbmLinear : Bool) (a : Section) (calls : List ProbeCall) : Prop where
  hooks : ∀ scrn, .setupScrnHooks scrn ∈ calls → a.passes gbmLinear = true
  entity : ∀ scrn entityNum, .setupEntity scrn entityNum ∈ calls →
    ∃ n, a.claimed gbmLinear = some n ∧ entityNum = some (n : Int)

/-- **The property**, with the result. -/
def TreatsOnItsOwn (gbmLinear : Bool) (sections : List Section) (r : Probed) : Prop :=
  List.Forall₂ (Own gbmLinear) sections r.calls ∧
    (r.found = true ↔ ∃ calls ∈ r.calls, ∃ scrn entityNum, .setupEntity scrn entityNum ∈ calls)

variable {gbmLinear : Bool}

theorem claimed_eq_some {a : Section} {n : Nat} :
    a.claimed gbmLinear = some n ↔ a.passes gbmLinear = true ∧ a.claim = n := by
  unfold Section.claimed
  split
  · next h =>
      obtain ⟨hpass, hclaim⟩ := Bool.and_eq_true_iff.mp h
      have hnonneg := of_decide_eq_true hclaim
      constructor
      · intro hn
        have := Option.some.inj hn
        exact ⟨hpass, by omega⟩
      · rintro ⟨-, hn⟩
        exact congrArg some (by omega)
  · next h =>
      constructor
      · intro hn
        cases hn
      · rintro ⟨hpass, hn⟩
        rw [hpass, hn] at h
        exact (h (decide_eq_true (Int.natCast_nonneg n))).elim

theorem own_nil (a : Section) : Own gbmLinear a [] :=
  ⟨fun _ h => (List.not_mem_nil h).elim, fun _ _ h => (List.not_mem_nil h).elim⟩

/-- A section whose screen is set up is on its own if an entity was claimed for it. -/
theorem own_setup (a : Section) (scrn : Nat) :
    Own gbmLinear a [.setupScrnHooks scrn,
        .setupEntity scrn (if a.passes gbmLinear then some a.claim else none)] ↔
      (a.claimed gbmLinear).isSome = true := by
  constructor
  · intro h
    obtain ⟨n, hn, -⟩ := h.entity scrn _ (List.mem_cons_of_mem _ List.mem_cons_self)
    rw [hn]
    rfl
  · intro h
    obtain ⟨n, hn⟩ := Option.isSome_iff_exists.mp h
    obtain ⟨hpass, hclaim⟩ := claimed_eq_some.mp hn
    refine ⟨fun _ _ => hpass, fun scrn' entityNum hmem => ⟨n, hn, ?_⟩⟩
    have heq : scrn' = scrn ∧ entityNum = some (n : Int) := by
      simpa [hpass, hclaim] using hmem
    exact heq.2

theorem claimed_of_makesScreen {a : Section} (h : a.makesScreen gbmLinear = true) :
    (a.claimed gbmLinear).isSome = true := by
  obtain ⟨hpass, hconfig⟩ := Bool.and_eq_true_iff.mp h
  have hclaim : 0 ≤ a.claim := by
    by_contra hneg
    rw [a.config_none (by omega)] at hconfig
    cases hconfig
  exact Option.isSome_iff_exists.mpr ⟨a.claim.toNat, claimed_eq_some.mpr ⟨hpass, by omega⟩⟩

/-- **A section when there is a screen** is set up, whatever becomes of it. -/
theorem probeSection_some (gbmLinear : Bool) {st : ProbeState} {scrn : Nat}
    (hscrn : st.scrn = some scrn) (a : Section) :
    (probeSection gbmLinear st a).1.scrn.isSome = true ∧
      (Own gbmLinear a (probeSection gbmLinear st a).2 ↔ (a.claimed gbmLinear).isSome = true) := by
  have hnext : ∃ scrn',
      (if a.passes gbmLinear then a.config st.scrn else st.scrn) = some scrn' := by
    rw [hscrn]
    split
    · exact Option.isSome_iff_exists.mp (a.config_some scrn)
    · exact ⟨scrn, rfl⟩
  obtain ⟨scrn', hnext⟩ := hnext
  simp only [probeSection, hnext]
  exact ⟨rfl, own_setup a scrn'⟩

/-- **A section when there is none** is set up if it makes one, and then on its own. -/
theorem probeSection_none (gbmLinear : Bool) {st : ProbeState} (hscrn : st.scrn = none)
    (a : Section) :
    (probeSection gbmLinear st a).1.scrn.isSome = a.makesScreen gbmLinear ∧
      Own gbmLinear a (probeSection gbmLinear st a).2 := by
  cases hpass : a.passes gbmLinear with
  | false => simp [probeSection, Section.makesScreen, hpass, hscrn, own_nil]
  | true =>
      cases hconfig : a.config none with
      | none => simp [probeSection, Section.makesScreen, hpass, hscrn, hconfig, own_nil]
      | some scrn =>
          have hmakes : a.makesScreen gbmLinear = true := by
            simp [Section.makesScreen, hpass, hconfig]
          have hown := (own_setup a scrn).mpr (claimed_of_makesScreen hmakes)
          simp only [hpass, if_true] at hown
          simp only [probeSection, hpass, hscrn, hconfig, if_true, hmakes]
          exact ⟨rfl, hown⟩

/-- **The loop once there is a screen**: every section must be claimed. -/
theorem probeSections_some {st : ProbeState} (hscrn : st.scrn.isSome = true)
    (rest : List Section) :
    List.Forall₂ (Own gbmLinear) rest (probeSections gbmLinear st rest).2 ↔
      ∀ b ∈ rest, (b.claimed gbmLinear).isSome = true := by
  induction rest generalizing st with
  | nil => simp [probeSections]
  | cons a rest ih =>
      obtain ⟨scrn, hscrn⟩ := Option.isSome_iff_exists.mp hscrn
      obtain ⟨hnext, hown⟩ := probeSection_some gbmLinear hscrn a
      simp only [probeSections, List.forall₂_cons, List.forall_mem_cons, hown, ih hnext]

/-- **The loop**: after a section that makes a screen every section must be claimed. -/
theorem probeSections_own (gbmLinear : Bool) {st : ProbeState} (hscrn : st.scrn = none)
    (sections : List Section) :
    List.Forall₂ (Own gbmLinear) sections (probeSections gbmLinear st sections).2 ↔
      sections.Pairwise fun a b =>
        a.makesScreen gbmLinear = true → (b.claimed gbmLinear).isSome = true := by
  induction sections generalizing st with
  | nil => simp [probeSections]
  | cons a rest ih =>
      obtain ⟨hnext, hown⟩ := probeSection_none gbmLinear hscrn a
      simp only [probeSections, List.forall₂_cons, hown, true_and, List.pairwise_cons]
      cases hmakes : a.makesScreen gbmLinear with
      | false =>
          rw [hmakes] at hnext
          have hnone := Option.not_isSome_iff_eq_none.mp (Bool.eq_false_iff.mp hnext)
          rw [ih hnone]
          simp
      | true =>
          rw [hmakes] at hnext
          rw [probeSections_some hnext]
          constructor
          · intro hall
            exact ⟨fun b hb _ => hall b hb,
              List.pairwise_of_forall_mem_list fun b _ c hc _ => hall c hc⟩
          · exact fun h b hb => h.1 b hb rfl

/-- A section's screen is found exactly when it is set up. -/
theorem probeSection_found (st : ProbeState) (a : Section) :
    (probeSection gbmLinear st a).1.foundScreen = true ↔ st.foundScreen = true ∨
      ∃ scrn entityNum, .setupEntity scrn entityNum ∈ (probeSection gbmLinear st a).2 := by
  cases hnext : (if a.passes gbmLinear then a.config st.scrn else st.scrn) with
  | none => simp [probeSection, hnext]
  | some scrn =>
      simp only [probeSection, hnext]
      exact ⟨fun _ => .inr ⟨scrn, _, List.mem_cons_of_mem _ List.mem_cons_self⟩, fun _ => trivial⟩

theorem probeSections_found (gbmLinear : Bool) (st : ProbeState) (sections : List Section) :
    (probeSections gbmLinear st sections).1.foundScreen = true ↔ st.foundScreen = true ∨
      ∃ calls ∈ (probeSections gbmLinear st sections).2,
        ∃ scrn entityNum, .setupEntity scrn entityNum ∈ calls := by
  induction sections generalizing st with
  | nil => simp [probeSections]
  | cons a rest ih => simp [probeSections, ih, probeSection_found, or_assoc]

/-- **Every section is treated on its own** if and only if no section that makes a screen comes
before one without an entity: one that does not open, has no outputs or is refused a slot. -/
theorem probe_own_iff (gbmLinear detect : Bool) (t : Entities) (sections : List Section) :
    TreatsOnItsOwn gbmLinear sections (lsProbe gbmLinear detect t sections) ↔
      (detect = false → sections.Pairwise fun a b =>
        a.makesScreen gbmLinear = true → (b.claimed gbmLinear).isSome = true) := by
  cases detect with
  | true =>
      refine ⟨fun _ h => (by cases h), fun _ => ⟨?_, ?_⟩⟩
      · exact List.forall₂_map_right_iff.mpr (List.forall₂_same.mpr fun a _ => own_nil a)
      · simp [lsProbe]
  | false =>
      have hnone : (⟨none, false, t⟩ : ProbeState).scrn = none := rfl
      have hown := probeSections_own gbmLinear hnone sections
      have hfound := probeSections_found gbmLinear ⟨none, false, t⟩ sections
      cases sections with
      | nil => simp [TreatsOnItsOwn, lsProbe]
      | cons a rest =>
          simp only [Bool.false_eq_true, false_or] at hfound
          rw [← hown]
          exact ⟨fun h _ => h.1, fun h => ⟨h rfl, hfound⟩⟩

/-! ## Two cards -/

def noEntities : Entities := ⟨fun _ => false, fun _ => 1, 0, [], none, fun _ => false⟩

/-- A section for a device with one connector, which gets entity `n`, and one for a device that
does not open. -/
def cardSection (n : Nat) : Section :=
  ⟨none, ⟨none, none, fun _ => some 3⟩, ⟨some 1, 0, 0⟩, n, fun scrn => some (scrn.getD 0),
    fun _ => rfl, fun h => (Int.not_lt.mpr (Int.natCast_nonneg n) h).elim⟩

def deadSection : Section :=
  ⟨some "/dev/dri/card1", ⟨none, none, fun _ => none⟩, ⟨none, 0, 0⟩, -1, fun scrn => scrn,
    fun _ => rfl, fun _ => rfl⟩

/-- A device that does not open, after one that does: its section is set up too, with a variable
that has no value. -/
theorem dead_section_set_up :
    ¬TreatsOnItsOwn false [cardSection 0, deadSection]
      (lsProbe false false noEntities [cardSection 0, deadSection]) := by
  rintro ⟨hown, -⟩
  have hdead : Own false deadSection [.setupScrnHooks 0, .setupEntity 0 none] := by
    cases hown with
    | cons _ hrest =>
        cases hrest with
        | cons h _ => exact h
  exact Bool.false_ne_true (hdead.hooks 0 List.mem_cons_self)

/-! ## The entities -/

theorem probeSection_entities (st : ProbeState) (a : Section) :
    (probeSection gbmLinear st a).1.entities =
      (probeSection gbmLinear st a).2.foldl ProbeCall.run st.entities := by
  cases hnext : (if a.passes gbmLinear then a.config st.scrn else st.scrn) with
  | none => simp [probeSection, hnext]
  | some scrn => simp only [probeSection, hnext]

theorem probeSections_entities (st : ProbeState) (sections : List Section) :
    (probeSections gbmLinear st sections).1.entities =
      (probeSections gbmLinear st sections).2.flatten.foldl ProbeCall.run st.entities := by
  induction sections generalizing st with
  | nil => rfl
  | cons a rest ih =>
      simp only [probeSections, ih, probeSection_entities, List.flatten_cons, List.foldl_append]

/-- What a call makes of an entity. -/
theorem run_record (t : Entities) (call : ProbeCall) (n : Nat) :
    ((call.run t).record n = true ↔
        t.record n = true ∨ ∃ scrn, call = .setupEntity scrn (some n)) ∧
      ((call.run t).sharable n = true ↔
        t.sharable n = true ∨ ∃ scrn, call = .setupEntity scrn (some n)) := by
  cases call with
  | setupScrnHooks scrn => simp [ProbeCall.run]
  | setupEntity scrn entityNum =>
      match entityNum with
      | none => simp [ProbeCall.run]
      | some (.negSucc m) => simp [ProbeCall.run]
      | some (.ofNat m) =>
          by_cases hm : n = m
          · subst hm
            simp [ProbeCall.run, lsSetupEntity]
          · have hne : ¬((m : Int) = n) := by omega
            simp [ProbeCall.run, lsSetupEntity, hm, hne]

theorem runs_record (t : Entities) (calls : List ProbeCall) (n : Nat) :
    ((calls.foldl ProbeCall.run t).record n = true ↔
        t.record n = true ∨ ∃ scrn, .setupEntity scrn (some n) ∈ calls) ∧
      ((calls.foldl ProbeCall.run t).sharable n = true ↔
        t.sharable n = true ∨ ∃ scrn, .setupEntity scrn (some n) ∈ calls) := by
  induction calls generalizing t with
  | nil => simp
  | cons call calls ih =>
      obtain ⟨hrecord, hshare⟩ := run_record t call n
      obtain ⟨hrecords, hshares⟩ := ih (call.run t)
      rw [List.foldl_cons, hrecords, hshares, hrecord, hshare]
      simp only [List.mem_cons, exists_or, or_assoc, eq_comm, and_self]

/-- **The entities afterwards**: a new record, and the mark that the entity is shared, are those
of the entities that were set up. -/
theorem probeSections_records (st : ProbeState) (sections : List Section) (n : Nat) :
    ((probeSections gbmLinear st sections).1.entities.record n = true ↔
      st.entities.record n = true ∨
        ∃ calls ∈ (probeSections gbmLinear st sections).2,
          ∃ scrn, .setupEntity scrn (some n) ∈ calls) ∧
      ((probeSections gbmLinear st sections).1.entities.sharable n = true ↔
        st.entities.sharable n = true ∨
          ∃ calls ∈ (probeSections gbmLinear st sections).2,
            ∃ scrn, .setupEntity scrn (some n) ∈ calls) := by
  have hflat : (∃ scrn, ProbeCall.setupEntity scrn (some n) ∈
        (probeSections gbmLinear st sections).2.flatten) ↔
      ∃ calls ∈ (probeSections gbmLinear st sections).2,
        ∃ scrn, .setupEntity scrn (some n) ∈ calls := by
    simp only [List.mem_flatten]
    exact ⟨fun ⟨scrn, calls, hcalls, h⟩ => ⟨calls, hcalls, scrn, h⟩,
      fun ⟨calls, hcalls, scrn, h⟩ => ⟨scrn, calls, hcalls, h⟩⟩
  rw [probeSections_entities, ← hflat]
  exact runs_record st.entities _ n

end LoongsonVideo.Driver.Probe
