import LoongsonVideo.Driver.Hotplug
import LoongsonVideo.Driver.AtomicRequest
import Mathlib.Data.List.Nodup

/-!
# Outputs and kernel connectors in step

After `drmmode_handle_uevents` every connector that the kernel lists belongs to exactly one
output, and an output with an id has a connector record and is listed.

The handler itself is not safe when a connector has gone.  An output keeps its CRTC and its
`link-status` then, and when that is bad the message about it reads the id of the connector
through a NULL pointer: `unplugged_bad_link`.  `hotplug_in_step` says that this is all that can
go wrong, in runs of every call that changes outputs.

Of an output the handler reads the id, the connector record, the name and the CRTC, here
called its slot.  The three loops are described by what they do to the list of slots: the
detection and the drop change slots in place, and a new connector is hooked into a slot or
gets a new one at the end.
-/

namespace LoongsonVideo.Driver.Outputs

open LoongsonVideo.Verified.Machine

/-! ## Slots -/

/-- The part of an output that hotplug events concern. -/
structure Slot where
  outputId : BitVec 32
  modeOutput : Option Connector
  name : List Char
  crtc : Option Nat
  deriving DecidableEq, Repr

def Output.slot (output : Output) : Slot :=
  ⟨output.outputId, output.modeOutput, output.name, output.crtc⟩

def slots (s : Screen) : List Slot := s.outputs.map Output.slot

def Slot.detect (koutput : Option Connector) (slot : Slot) : Slot :=
  if slot.outputId = gone then slot
  else
    match koutput with
    | none => { slot with modeOutput := none, outputId := gone }
    | some koutput => { slot with modeOutput := some koutput }

def Slot.drop (ids : List (BitVec 32)) (slot : Slot) : Slot :=
  if ids.contains slot.outputId then slot
  else { slot with modeOutput := none, outputId := gone }

theorem Slot.drop_eq (ids : List (BitVec 32)) (slot : Slot) :
    slot.drop ids = if slot.outputId ∈ ids then slot
      else { slot with modeOutput := none, outputId := gone } := by
  simp only [Slot.drop, List.contains_iff_mem]

def Slot.hook (id : BitVec 32) (koutput : Connector) (slot : Slot) : Slot :=
  { slot with outputId := id, modeOutput := some koutput }

/-- What a hotplug event does not change: how many CRTCs there are, what the screen is set up
with, and that the server runs. -/
structure FixedPart where
  countCrtcs : Nat
  options : Options
  crashed : Bool

def fixedPart (s : Screen) : FixedPart := ⟨s.crtcs.length, s.toOptions, s.crashed⟩

/-- Changing an output changes its slot. -/
theorem slots_modify {s t : Screen} (i : Nat) (f : Output → Output) (g : Slot → Slot)
    (ht : t.outputs = s.outputs.modify i f) (hfg : ∀ output, (f output).slot = g output.slot) :
    slots t = (slots s).modify i g := by
  unfold slots
  rw [ht]
  apply List.ext_getElem?
  intro k
  rw [List.getElem?_map, List.getElem?_modify, List.getElem?_modify, List.getElem?_map]
  cases s.outputs[k]? with
  | none => rfl
  | some output =>
      by_cases hik : i = k
      · simp [hik, hfg]
      · simp [hik]

theorem slots_map {s t : Screen} (f : Output → Output) (g : Slot → Slot)
    (ht : t.outputs = s.outputs.map f) (hfg : ∀ output, (f output).slot = g output.slot) :
    slots t = (slots s).map g := by
  unfold slots
  rw [ht, List.map_map, List.map_map]
  exact List.map_congr_left fun output _ => hfg output

theorem crtcSetMode_crashed (s : Screen) (c : Nat) (testOnly : Bool) (a : SetModeAnswer) :
    (drmmodeCrtcSetMode s c testOnly a).1.crashed = s.crashed := by
  simp only [drmmodeCrtcSetMode]
  split
  · rfl
  · split
    · rfl
    · split
      · rfl
      · split
        · rfl
        · split
          · split <;> rfl
          · rfl

/-- Mode sets leave the slots alone. -/
theorem crtcSetMode_slots (s : Screen) (c : Nat) (testOnly : Bool) (a : SetModeAnswer) :
    slots (drmmodeCrtcSetMode s c testOnly a).1 = slots s ∧
      fixedPart (drmmodeCrtcSetMode s c testOnly a).1 = fixedPart s := by
  obtain ⟨_, hoptions, hcrtcs, houtputs⟩ := crtcSetMode_spec s c testOnly a
  constructor
  · cases houtputs with
    | inl hsame => exact congrArg (List.map Output.slot) hsame
    | inr hmap =>
        rw [slots_map _ id hmap.2, List.map_id]
        intro output
        unfold Output.takeCrtc
        split
        · rfl
        · split <;> rfl
  · unfold fixedPart
    rw [hoptions, hcrtcs, crtcSetMode_crashed]

theorem setModeMajor_slots (s : Screen) (c : Nat) (a : ModeMajorAnswer) :
    slots (drmmodeSetModeMajor s c a) = slots s ∧
      fixedPart (drmmodeSetModeMajor s c a) = fixedPart s := by
  unfold drmmodeSetModeMajor
  split
  · exact ⟨rfl, rfl⟩
  · obtain ⟨hslots, hfixed⟩ := crtcSetMode_slots s c s.atomicModeset a.first
    split
    · next t heq =>
        rw [heq] at hslots hfixed
        exact ⟨hslots, hfixed⟩
    · next t heq =>
        rw [heq] at hslots hfixed
        have hdone : fixedPart (t.modesetDone c) = fixedPart t := by
          unfold fixedPart Screen.modesetDone
          rw [List.length_modify]
        simp only
        split
        · obtain ⟨hslots', hfixed'⟩ := crtcSetMode_slots (t.modesetDone c) c false a.again
          exact ⟨hslots'.trans hslots, hfixed'.trans (hdone.trans hfixed)⟩
        · exact ⟨hslots, hdone.trans hfixed⟩

theorem outputDetect_slots (s : Screen) (i : Nat) (koutput : Option Connector) :
    slots (drmmodeOutputDetect s i koutput) = (slots s).modify i (Slot.detect koutput) := by
  apply slots_modify i _ _ rfl
  intro output
  unfold Output.detect Slot.detect
  split
  · next hgone => exact (if_pos hgone).symm
  · next hhere =>
      rw [show output.slot.outputId = output.outputId from rfl, if_neg hhere]
      split <;> rfl

/-- While the server runs, the message about a bad link changes nothing. -/
theorem resetBadLink_running {s : Screen} {e : Uevent} {i c : Nat}
    (h : (resetBadLink s e i c).crashed = false) :
    resetBadLink s e i c = drmmodeSetModeMajor s c (e.major i) := by
  unfold resetBadLink readConnectorId at h ⊢
  split
  · next hnull =>
      rw [if_pos hnull] at h
      cases h
  · rfl

/-- **The first loop** detects each slot once. -/
theorem detectOutputs_slots (e : Uevent) (rest : List Nat) (hnodup : rest.Nodup) (s : Screen)
    (hrunning : (detectOutputs e rest s).crashed = false) :
    (∀ i : Nat, (slots (detectOutputs e rest s))[i]? =
        if i ∈ rest then (slots s)[i]?.map (Slot.detect (e.detected i)) else (slots s)[i]?) ∧
      fixedPart (detectOutputs e rest s) = fixedPart s := by
  induction rest generalizing s with
  | nil => exact ⟨fun i => (if_neg List.not_mem_nil).symm, rfl⟩
  | cons i rest ih =>
      obtain ⟨hnot, hrest⟩ := List.nodup_cons.mp hnodup
      have hdetect := outputDetect_slots s i (e.detected i)
      have hfixed : fixedPart (drmmodeOutputDetect s i (e.detected i)) = fixedPart s := rfl
      have hdone : ∀ t : Screen, slots t = slots (drmmodeOutputDetect s i (e.detected i)) →
          ∀ k : Nat, (if k ∈ rest then (slots t)[k]?.map (Slot.detect (e.detected k))
            else (slots t)[k]?) =
            if k ∈ i :: rest then (slots s)[k]?.map (Slot.detect (e.detected k))
            else (slots s)[k]? := by
        intro t ht k
        rw [ht, hdetect, List.getElem?_modify]
        by_cases hik : i = k
        · subst hik
          simp [hnot]
        · have hki : k ≠ i := fun h => hik h.symm
          simp [hik, hki]
      simp only [detectOutputs] at hrunning ⊢
      split at hrunning
      · obtain ⟨hslots, hfix⟩ := ih hrest _ hrunning
        exact ⟨fun k => (hslots k).trans (hdone _ rfl k), hfix.trans hfixed⟩
      · next c _ =>
          split at hrunning
          · next hcrashed => exact Bool.noConfusion (hcrashed.symm.trans hrunning)
          · next hgoesOn =>
              rw [if_neg hgoesOn]
              rw [resetBadLink_running (Bool.eq_false_iff.mpr hgoesOn)] at hrunning ⊢
              obtain ⟨hset, hsetFix⟩ :=
                setModeMajor_slots (drmmodeOutputDetect s i (e.detected i)) c (e.major i)
              obtain ⟨hslots, hfix⟩ := ih hrest _ hrunning
              exact ⟨fun k => (hslots k).trans (hdone _ hset k), hfix.trans (hsetFix.trans hfixed)⟩

/-- **The second loop.** -/
theorem dropOutputs_slots (ids : List (BitVec 32)) (s : Screen) :
    slots (dropOutputs ids s) = (slots s).map (Slot.drop ids) := by
  apply slots_map _ _ rfl
  intro output
  rw [Slot.drop_eq]
  unfold Output.drop
  split
  · next hin => exact (if_pos hin).symm
  · next hin => exact (if_neg hin).symm

/-- **A new connector** is hooked into a slot of its name, or gets a slot of its own. -/
theorem outputInit_slots {s : Screen} (hshared : s.entityShared = false) (id : BitVec 32)
    (num : Nat) {a : ConnectorAnswer} {koutput : Connector} (hconn : a.connector = some koutput)
    (hencoders : a.encodersOk = true) (hcreate : a.createOk = true) :
    fixedPart (drmmodeOutputInit s id num a true 0).1 = fixedPart s ∧
      ((∃ i slot, (slots s)[i]? = some slot ∧ koutput.path.isSome = true ∧
          slot.name = drmmodeCreateName s koutput ∧
          slots (drmmodeOutputInit s id num a true 0).1 = (slots s).modify i (.hook id koutput)) ∨
        slots (drmmodeOutputInit s id num a true 0).1 =
          slots s ++ [⟨id, some koutput, drmmodeCreateName s koutput, none⟩]) := by
  simp only [drmmodeOutputInit, hconn, hencoders, hcreate, hshared, Bool.and_true, Bool.not_true,
    Bool.false_and, Bool.false_eq_true, if_false]
  split
  · next i hfound =>
      refine ⟨rfl, .inl ?_⟩
      split at hfound
      · next hpath =>
          obtain ⟨hi, hname, _⟩ := List.findIdx?_eq_some_iff_getElem.mp hfound
          refine ⟨i, s.outputs[i].slot, ?_, hpath, of_decide_eq_true hname, ?_⟩
          · unfold slots
            rw [List.getElem?_map, List.getElem?_eq_getElem hi]
            rfl
          · exact slots_modify i _ _ rfl fun _ => rfl
      · cases hfound
  · refine ⟨rfl, .inr ?_⟩
    show (s.outputs ++ [_]).map Output.slot = s.outputs.map Output.slot ++ _
    rw [List.map_append]
    rfl

/-! ## Who holds an id -/

/-- The number of slots with the id. -/
def holders (l : List Slot) (id : BitVec 32) : Nat := l.countP fun slot => slot.outputId = id

/-- The slots between the loops: an id is held once, and a slot with an id has a record. -/
structure SlotsOk (l : List Slot) : Prop where
  once : ∀ id, id ≠ gone → holders l id ≤ 1
  live : ∀ slot ∈ l, slot.outputId ≠ gone → slot.modeOutput.isSome = true

/-- Every id that slots hold is listed. -/
def SlotsListed (ids : List (BitVec 32)) (l : List Slot) : Prop :=
  ∀ slot ∈ l, slot.outputId ≠ gone → slot.outputId ∈ ids

theorem holders_cons (slot : Slot) (l : List Slot) (id : BitVec 32) :
    holders (slot :: l) id = holders l id + if slot.outputId = id then 1 else 0 := by
  unfold holders
  rw [List.countP_cons]
  by_cases h : slot.outputId = id <;> simp [h]

/-- A slot that forgets its id frees it, and changes nothing for the others. -/
theorem holders_mapIdx_le (g : Nat → Slot → Slot)
    (hg : ∀ i slot, (g i slot).outputId = slot.outputId ∨ (g i slot).outputId = gone)
    (l : List Slot) {id : BitVec 32} (hid : id ≠ gone) : holders (l.mapIdx g) id ≤ holders l id := by
  induction l generalizing g with
  | nil => exact Nat.le_refl _
  | cons slot l ih =>
      rw [List.mapIdx_cons, holders_cons, holders_cons]
      have hrest := ih (fun i => g (i + 1)) fun i => hg (i + 1)
      have hle : (if (g 0 slot).outputId = id then 1 else 0) ≤
          if slot.outputId = id then 1 else 0 := by
        cases hg 0 slot with
        | inl hsame => rw [hsame]
        | inr hgone =>
            rw [hgone, if_neg (Ne.symm hid)]
            exact Nat.zero_le _
      omega

/-- An id that goes to a slot without one is held once more. -/
theorem holders_hook {l : List Slot} {i : Nat} {slot : Slot} (hi : l[i]? = some slot)
    (hfree : slot.outputId = gone) (id : BitVec 32) (koutput : Connector) {id' : BitVec 32}
    (hid' : id' ≠ gone) :
    holders (l.modify i (.hook id koutput)) id' =
      holders l id' + if id = id' then 1 else 0 := by
  induction l generalizing i with
  | nil => cases hi
  | cons head l ih =>
      cases i with
      | zero =>
          have hhead : head = slot := Option.some.inj hi
          subst hhead
          rw [List.modify_zero_cons, holders_cons, holders_cons, hfree, if_neg (Ne.symm hid')]
          rfl
      | succ i =>
          rw [List.modify_succ_cons, holders_cons, holders_cons, ih hi]
          omega

theorem holders_append (l : List Slot) (slot : Slot) (id : BitVec 32) :
    holders (l ++ [slot]) id = holders l id + if slot.outputId = id then 1 else 0 := by
  unfold holders
  rw [List.countP_append, List.countP_singleton]
  by_cases h : slot.outputId = id <;> simp [h]

/-! ## The third loop -/

/-- The names are distinct: a connector with a path that gets an output is not given the name
of an output that has an id. -/
def NamesFresh : Nat → List (BitVec 32 × ConnectorAnswer) → Screen → Prop
  | _, [], _ => True
  | num, (id, a) :: rest, s =>
      if s.outputs.any fun output => output.outputId = id then NamesFresh (num + 1) rest s
      else
        (∀ koutput ∈ a.connector, koutput.path.isSome = true → ∀ output ∈ s.outputs,
            output.outputId ≠ gone → output.name ≠ drmmodeCreateName s koutput) ∧
          NamesFresh (num + 1) rest (drmmodeOutputInit s id num a true 0).1

instance decidableNamesFresh : (num : Nat) → (connectors : List (BitVec 32 × ConnectorAnswer)) →
    (s : Screen) → Decidable (NamesFresh num connectors s)
  | _, [], _ => .isTrue trivial
  | num, (id, a) :: rest, s =>
      haveI := decidableNamesFresh (num + 1) rest s
      haveI := decidableNamesFresh (num + 1) rest (drmmodeOutputInit s id num a true 0).1
      inferInstanceAs (Decidable (ite _ _ (_ ∧ _)))

/-- The kernel and the allocators answer for a new connector. -/
def Probed (a : ConnectorAnswer) : Prop :=
  a.connector.isSome = true ∧ a.encodersOk = true ∧ a.createOk = true

instance (a : ConnectorAnswer) : Decidable (Probed a) := inferInstanceAs (Decidable (_ ∧ _ ∧ _))

theorem any_outputId_iff (s : Screen) (id : BitVec 32) :
    (s.outputs.any fun output => output.outputId = id) = true ↔ 0 < holders (slots s) id := by
  unfold holders slots
  rw [List.countP_map, List.countP_pos_iff, List.any_eq_true]
  exact Iff.rfl

/-- **One new connector** takes an id that no slot holds, in a slot that holds none. -/
theorem outputInit_ok {s : Screen} (hshared : s.entityShared = false) {ids : List (BitVec 32)}
    (hok : SlotsOk (slots s)) (hlisted : SlotsListed ids (slots s)) {id : BitVec 32}
    (hin : id ∈ ids) (hnew : holders (slots s) id = 0) (num : Nat)
    {a : ConnectorAnswer} (hprobed : Probed a)
    (hfresh : ∀ koutput ∈ a.connector, koutput.path.isSome = true → ∀ output ∈ s.outputs,
      output.outputId ≠ gone → output.name ≠ drmmodeCreateName s koutput) :
    let t := (drmmodeOutputInit s id num a true 0).1
    SlotsOk (slots t) ∧ SlotsListed ids (slots t) ∧ fixedPart t = fixedPart s ∧
      ∀ id', id' ≠ gone →
        holders (slots t) id' = holders (slots s) id' + if id = id' then 1 else 0 := by
  obtain ⟨koutput, hconn⟩ := Option.isSome_iff_exists.mp hprobed.1
  obtain ⟨hfixed, hslots⟩ := outputInit_slots hshared id num hconn hprobed.2.1 hprobed.2.2
  have hgrow : ∀ l : List Slot,
      (∀ id', id' ≠ gone → holders l id' = holders (slots s) id' + if id = id' then 1 else 0) →
      ∀ id', id' ≠ gone → holders l id' ≤ 1 := by
    intro l hl id' hid'
    have hold := hok.once id' hid'
    rw [hl id' hid']
    split
    · next heq =>
        rw [← heq, hnew]
    · exact hold
  cases hslots with
  | inl hhook =>
      obtain ⟨i, slot, hi, hpath, hname, hmodify⟩ := hhook
      have hfree : slot.outputId = gone := by
        by_contra hlive
        obtain ⟨output, houtput, hslot⟩ := List.mem_map.mp (List.mem_of_getElem? hi)
        subst hslot
        exact hfresh koutput hconn hpath output houtput hlive hname
      have hholders : ∀ id', id' ≠ gone → holders (slots (drmmodeOutputInit s id num a true 0).1)
          id' = holders (slots s) id' + if id = id' then 1 else 0 := by
        intro id' hid'
        rw [hmodify]
        exact holders_hook hi hfree id koutput hid'
      have hmem : ∀ slot' ∈ slots (drmmodeOutputInit s id num a true 0).1,
          slot' ∈ slots s ∨ slot' = slot.hook id koutput := by
        intro slot' hin'
        rw [hmodify] at hin'
        obtain ⟨k, hk⟩ := List.mem_iff_getElem?.mp hin'
        rw [List.getElem?_modify] at hk
        obtain ⟨old, hold, hslot'⟩ := Option.map_eq_some_iff.mp hk
        by_cases hik : i = k
        · rw [if_pos hik] at hslot'
          rw [← hik, hi] at hold
          exact .inr (by rw [← hslot', Option.some.inj hold])
        · rw [if_neg hik] at hslot'
          exact .inl (hslot' ▸ List.mem_of_getElem? hold)
      refine ⟨⟨hgrow _ hholders, ?_⟩, ?_, hfixed, hholders⟩
      · intro slot' hin' hlive
        cases hmem slot' hin' with
        | inl hold => exact hok.live slot' hold hlive
        | inr heq => rw [heq]; rfl
      · intro slot' hin' hlive
        cases hmem slot' hin' with
        | inl hold => exact hlisted slot' hold hlive
        | inr heq => rw [heq]; exact hin
  | inr happend =>
      have hholders : ∀ id', id' ≠ gone → holders (slots (drmmodeOutputInit s id num a true 0).1)
          id' = holders (slots s) id' + if id = id' then 1 else 0 := by
        intro id' _
        rw [happend]
        exact holders_append _ _ id'
      refine ⟨⟨hgrow _ hholders, ?_⟩, ?_, hfixed, hholders⟩
      · intro slot hin' hlive
        rw [happend] at hin'
        cases List.mem_append.mp hin' with
        | inl hold => exact hok.live slot hold hlive
        | inr hlast => rw [List.mem_singleton.mp hlast]; rfl
      · intro slot hin' hlive
        rw [happend] at hin'
        cases List.mem_append.mp hin' with
        | inl hold => exact hlisted slot hold hlive
        | inr hlast => rw [List.mem_singleton.mp hlast]; exact hin

/-- **The third loop** gives every connector an output. -/
theorem addOutputs_ok {ids : List (BitVec 32)} (connectors : List (BitVec 32 × ConnectorAnswer))
    (num : Nat) {s : Screen} (hshared : s.entityShared = false) (hok : SlotsOk (slots s))
    (hlisted : SlotsListed ids (slots s)) (hids : ∀ c ∈ connectors, c.1 ≠ gone ∧ c.1 ∈ ids)
    (hprobed : ∀ c ∈ connectors, Probed c.2) (hfresh : NamesFresh num connectors s) :
    let t := addOutputs num connectors s
    SlotsOk (slots t) ∧ SlotsListed ids (slots t) ∧ fixedPart t = fixedPart s ∧
      (∀ id, id ≠ gone → holders (slots s) id ≤ holders (slots t) id) ∧
      ∀ c ∈ connectors, holders (slots t) c.1 = 1 := by
  induction connectors generalizing num s with
  | nil => exact ⟨hok, hlisted, rfl, fun _ _ => Nat.le_refl _, fun c hin => by cases hin⟩
  | cons c rest ih =>
      obtain ⟨id, a⟩ := c
      rw [List.forall_mem_cons] at hids hprobed
      obtain ⟨⟨hid, hin⟩, hidsRest⟩ := hids
      -- what is held once now is held once at the end
      have hhead : ∀ (u t : Screen), SlotsOk (slots t) → 0 < holders (slots u) id →
          (∀ id', id' ≠ gone → holders (slots u) id' ≤ holders (slots t) id') →
          holders (slots t) id = 1 := by
        intro u t ht hpos hle
        have hone := ht.once id hid
        have hgrown := hle id hid
        omega
      simp only [addOutputs]
      simp only [NamesFresh] at hfresh
      by_cases hfound : (s.outputs.any fun output => output.outputId = id) = true
      · rw [if_pos hfound] at hfresh ⊢
        obtain ⟨hok', hlisted', hfixed', hle, hone⟩ :=
          ih (num + 1) hshared hok hlisted hidsRest hprobed.2 hfresh
        refine ⟨hok', hlisted', hfixed', hle, List.forall_mem_cons.mpr ⟨?_, hone⟩⟩
        exact hhead s _ hok' ((any_outputId_iff s id).mp hfound) hle
      · rw [if_neg hfound] at hfresh ⊢
        have hnew : holders (slots s) id = 0 := by
          have hpos := mt (any_outputId_iff s id).mpr hfound
          omega
        obtain ⟨hmadeOk, hmadeListed, hmadeFixed, hmade⟩ :=
          outputInit_ok hshared hok hlisted hin hnew num hprobed.1 hfresh.1
        have hmadeShared : (drmmodeOutputInit s id num a true 0).1.entityShared = false :=
          (congrArg (fun p : FixedPart => p.options.entityShared) hmadeFixed).trans hshared
        obtain ⟨hok', hlisted', hfixed', hle, hone⟩ :=
          ih (num + 1) hmadeShared hmadeOk hmadeListed hidsRest hprobed.2 hfresh.2
        refine ⟨hok', hlisted', hfixed'.trans hmadeFixed, fun id' hid' => ?_,
          List.forall_mem_cons.mpr ⟨?_, hone⟩⟩
        · have hgrown := hle id' hid'
          rw [hmade id' hid'] at hgrown
          omega
        · apply hhead _ _ hok' _ hle
          rw [hmade id hid, if_pos rfl]
          omega

/-! ## One event -/

/-- The connectors of an event, and their ids. -/
def Uevent.connectors (e : Uevent) : List (BitVec 32 × ConnectorAnswer) :=
  (e.resources.map Prod.snd).getD []

def Uevent.ids (e : Uevent) : List (BitVec 32) := e.connectors.map Prod.fst

/-- **The assumptions on an event.** The kernel lists its resources, with the number of CRTCs
there was; it answers for the listed connectors of the outputs, and for the new ones. -/
def Answered (s : Screen) (e : Uevent) : Prop :=
  e.resources = some (s.crtcs.length, e.connectors) ∧
    (∀ i < s.outputs.length, ∀ output ∈ s.outputs[i]?, output.outputId ∈ e.ids →
      (e.detected i).isSome = true) ∧
    ∀ c ∈ e.connectors, Probed c.2

instance (s : Screen) (e : Uevent) : Decidable (Answered s e) :=
  inferInstanceAs (Decidable (_ ∧ (∀ i < s.outputs.length, _) ∧ _))

/-- The screen before the third loop. -/
def dropped (s : Screen) (e : Uevent) : Screen :=
  dropOutputs e.ids (detectOutputs e (List.range s.outputs.length) s)

/-- The names of the connectors that are there at the same time are distinct. -/
def NamesDistinct (s : Screen) (e : Uevent) : Prop := NamesFresh 0 e.connectors (dropped s e)

instance (s : Screen) (e : Uevent) : Decidable (NamesDistinct s e) :=
  decidableNamesFresh 0 e.connectors (dropped s e)

/-- **The property** after an event with these connectors. -/
structure InStep (s : Screen) (ids : List (BitVec 32)) : Prop where
  heldOnce : ∀ id ∈ ids, (s.outputs.countP fun output => output.outputId = id) = 1
  live : ∀ output ∈ s.outputs, output.outputId ≠ gone →
    output.modeOutput.isSome = true ∧ output.outputId ∈ ids

theorem ids_ne_gone {s : Screen} {e : Uevent} (h : Answered s e) :
    ∀ c ∈ e.connectors, c.1 ≠ gone := e.connectors_ne _ _ h.1

/-- The server runs on after the first loop. -/
def Detects (s : Screen) (e : Uevent) : Prop :=
  (detectOutputs e (List.range s.outputs.length) s).crashed = false

theorem handleUevents_answered {s : Screen} {e : Uevent} (hdetects : Detects s e)
    (h : Answered s e) : drmmodeHandleUevents s e = addOutputs 0 e.connectors (dropped s e) := by
  have hfixed := (detectOutputs_slots e _ List.nodup_range s hdetects).2
  have hcount : s.crtcs.length =
      (detectOutputs e (List.range s.outputs.length) s).crtcs.length :=
    (congrArg FixedPart.countCrtcs hfixed).symm
  simp only [drmmodeHandleUevents]
  rw [if_neg (Bool.eq_false_iff.mp hdetects), h.1]
  simp only
  rw [if_neg (not_not.mpr hcount)]
  rfl

/-- What the first two loops do to a slot. -/
def Slot.settle (e : Uevent) (i : Nat) (slot : Slot) : Slot :=
  (slot.detect (e.detected i)).drop e.ids

theorem dropped_slots {s : Screen} {e : Uevent} (hdetects : Detects s e) :
    slots (dropped s e) = (slots s).mapIdx (Slot.settle e) := by
  apply List.ext_getElem?
  intro i
  unfold dropped
  rw [dropOutputs_slots, List.getElem?_map,
    (detectOutputs_slots e _ List.nodup_range s hdetects).1, List.getElem?_mapIdx]
  split
  · cases (slots s)[i]? <;> rfl
  · next hi =>
      have hle := mt List.mem_range.mpr hi
      have hnone : (slots s)[i]? = none := by
        unfold slots
        rw [List.getElem?_eq_none_iff, List.length_map]
        exact Nat.le_of_not_lt hle
      rw [hnone]
      rfl

theorem dropped_fixed {s : Screen} {e : Uevent} (hdetects : Detects s e) :
    fixedPart (dropped s e) = fixedPart s :=
  (detectOutputs_slots e _ List.nodup_range s hdetects).2

/-- The first two loops leave a listed id alone and take away any other. -/
theorem settle_outputId (e : Uevent) (i : Nat) (slot : Slot) :
    (slot.settle e i).outputId = gone ∨
      (slot.settle e i).outputId = slot.outputId ∧ slot.outputId ∈ e.ids ∧
        (slot.outputId ≠ gone → (slot.settle e i).modeOutput.isSome = true) := by
  unfold Slot.settle
  rw [Slot.drop_eq]
  split
  · next hin =>
      by_cases hgone : (slot.detect (e.detected i)).outputId = gone
      · exact .inl hgone
      · right
        unfold Slot.detect at hin hgone ⊢
        split
        · next hdead => exact absurd (by rw [if_pos hdead]; exact hdead) hgone
        · next hlive =>
            rw [if_neg hlive] at hin hgone
            split
            · next hnone =>
                rw [hnone] at hgone
                exact absurd rfl hgone
            · next koutput hsome =>
                rw [hsome] at hin
                exact ⟨rfl, hin, fun _ => rfl⟩
  · exact .inl rfl

/-- Before the third loop the slots are in order, and no other ids are left. -/
theorem dropped_ok {s : Screen} {e : Uevent} (hdetects : Detects s e) (hok : SlotsOk (slots s)) :
    SlotsOk (slots (dropped s e)) ∧ SlotsListed e.ids (slots (dropped s e)) := by
  have hslot : ∀ slot ∈ slots (dropped s e), slot.outputId ≠ gone →
      slot.modeOutput.isSome = true ∧ slot.outputId ∈ e.ids := by
    intro slot hin hlive
    rw [dropped_slots hdetects] at hin
    obtain ⟨i, hi, hslot⟩ := List.mem_mapIdx.mp hin
    cases settle_outputId e i (slots s)[i] with
    | inl hgone =>
        rw [hslot] at hgone
        exact absurd hgone hlive
    | inr hkept =>
        rw [hslot] at hkept
        obtain ⟨hsame, hlisted, hsome⟩ := hkept
        rw [hsame] at hlive ⊢
        exact ⟨hsome hlive, hlisted⟩
  refine ⟨⟨fun id hid => ?_, fun slot hin hlive => (hslot slot hin hlive).1⟩,
    fun slot hin hlive => (hslot slot hin hlive).2⟩
  rw [dropped_slots hdetects]
  refine Nat.le_trans (holders_mapIdx_le (Slot.settle e) (fun i slot => ?_) _ hid)
    (hok.once id hid)
  cases settle_outputId e i slot with
  | inl hgone => exact .inr hgone
  | inr hkept => exact .inl hkept.1

/-- **One event** that does not crash the server leaves the outputs in step with the kernel. -/
theorem handleUevents_inStep {s : Screen} {e : Uevent} (hshared : s.entityShared = false)
    (hok : SlotsOk (slots s)) (hdetects : Detects s e) (hanswered : Answered s e)
    (hnames : NamesDistinct s e) :
    let t := drmmodeHandleUevents s e
    SlotsOk (slots t) ∧ fixedPart t = fixedPart s ∧ InStep t e.ids := by
  rw [handleUevents_answered hdetects hanswered]
  obtain ⟨hdropOk, hdropListed⟩ := dropped_ok hdetects hok
  have hdropFixed := dropped_fixed hdetects
  have hdropShared : (dropped s e).entityShared = false :=
    (congrArg (fun p : FixedPart => p.options.entityShared) hdropFixed).trans hshared
  have hids : ∀ c ∈ e.connectors, c.1 ≠ gone ∧ c.1 ∈ e.ids := fun c hin =>
    ⟨ids_ne_gone hanswered c hin, List.mem_map_of_mem hin⟩
  obtain ⟨htOk, htListed, htFixed, _, hone⟩ :=
    addOutputs_ok e.connectors 0 hdropShared hdropOk hdropListed hids hanswered.2.2 hnames
  refine ⟨htOk, htFixed.trans hdropFixed, ⟨?_, fun output hin hlive => ?_⟩⟩
  · intro id hin
    obtain ⟨c, hc, rfl⟩ := List.mem_map.mp hin
    have hheld := hone c hc
    unfold holders slots at hheld
    rwa [List.countP_map] at hheld
  · have hslot : output.slot ∈ slots (addOutputs 0 e.connectors (dropped s e)) :=
      List.mem_map_of_mem hin
    exact ⟨htOk.live _ hslot hlive, htListed _ hslot hlive⟩

/-- Nothing is new when every listed id is held. -/
theorem addOutputs_held (connectors : List (BitVec 32 × ConnectorAnswer)) (num : Nat) (s : Screen)
    (hheld : ∀ c ∈ connectors, 0 < holders (slots s) c.1) : addOutputs num connectors s = s := by
  induction connectors generalizing num with
  | nil => rfl
  | cons c rest ih =>
      obtain ⟨id, a⟩ := c
      rw [List.forall_mem_cons] at hheld
      simp only [addOutputs]
      rw [if_pos ((any_outputId_iff s id).mpr hheld.1)]
      exact ih (num + 1) hheld.2

/-- A listed connector that the kernel answers for keeps its slot, and so does a slot without
an id. -/
theorem settle_outputId_same {e : Uevent} {i : Nat} {slot : Slot}
    (hlisted : slot.outputId ≠ gone → slot.outputId ∈ e.ids)
    (hdetected : slot.outputId ∈ e.ids → (e.detected i).isSome = true) :
    (slot.settle e i).outputId = slot.outputId := by
  unfold Slot.settle Slot.detect
  by_cases hgone : slot.outputId = gone
  · rw [if_pos hgone]
    rw [Slot.drop_eq]
    split
    · rfl
    · exact hgone.symm
  · rw [if_neg hgone]
    obtain ⟨koutput, hsome⟩ := Option.isSome_iff_exists.mp (hdetected (hlisted hgone))
    rw [hsome]
    rw [Slot.drop_eq]
    rw [if_pos]
    exact hlisted hgone

/-- **Handling the same list again** changes no id and adds no output. -/
theorem handleUevents_again {s : Screen} {e : Uevent} (hstep : InStep s e.ids)
    (hdetects : Detects s e) (hanswered : Answered s e) :
    (drmmodeHandleUevents s e).crashed = s.crashed ∧
      (drmmodeHandleUevents s e).outputs.map Output.outputId = s.outputs.map Output.outputId := by
  have hslots : ∀ t : Screen, t.outputs.map Output.outputId = (slots t).map Slot.outputId := by
    intro t
    unfold slots
    rw [List.map_map]
    rfl
  have hsame : (slots (dropped s e)).map Slot.outputId = (slots s).map Slot.outputId := by
    rw [dropped_slots hdetects]
    apply List.ext_getElem?
    intro i
    rw [List.getElem?_map, List.getElem?_mapIdx, List.getElem?_map, Option.map_map]
    cases hi : s.outputs[i]? with
    | none => simp [slots, hi]
    | some output =>
        have hslot : (slots s)[i]? = some output.slot := by
          unfold slots
          rw [List.getElem?_map, hi]
          rfl
        have hlt : i < s.outputs.length := (List.getElem?_eq_some_iff.mp hi).1
        rw [hslot]
        refine congrArg some (settle_outputId_same (fun hlive => ?_) (fun hin => ?_))
        · exact (hstep.live output (List.mem_of_getElem? hi) hlive).2
        · exact hanswered.2.1 i hlt output hi hin
  have hheld : ∀ c ∈ e.connectors, 0 < holders (slots (dropped s e)) c.1 := by
    intro c hin
    have hone := hstep.heldOnce c.1 (List.mem_map_of_mem hin)
    have hcount : holders (slots (dropped s e)) c.1 =
        s.outputs.countP fun output => output.outputId = c.1 := by
      have hids := congrArg (List.countP fun id => decide (id = c.1)) hsame
      rw [← hslots s, List.countP_map, List.countP_map] at hids
      exact hids
    omega
  rw [handleUevents_answered hdetects hanswered, addOutputs_held e.connectors 0 _ hheld, hslots,
    hsame, hslots]
  exact ⟨congrArg FixedPart.crashed (dropped_fixed hdetects), rfl⟩

/-! ## Bad links -/

/-- Output `i` has its connector, if it has a CRTC and its link is bad. -/
def LinkThere (s : Screen) (e : Uevent) (i : Nat) : Prop :=
  ∀ output ∈ s.outputs[i]?, output.crtc.isSome = true → e.linkBad i = true →
    output.outputId ≠ gone ∧ (e.detected i).isSome = true

/-- **The condition on an event**: no output that has a CRTC and a bad link has lost its
connector. -/
def LinksThere (s : Screen) (e : Uevent) : Prop := ∀ i < s.outputs.length, LinkThere s e i

instance (s : Screen) (e : Uevent) : Decidable (LinksThere s e) :=
  inferInstanceAs (Decidable (∀ i < s.outputs.length, ∀ output ∈ s.outputs[i]?, _ → _ → _))

theorem linkThere_slots (s : Screen) (e : Uevent) (i : Nat) :
    LinkThere s e i ↔ ∀ slot ∈ (slots s)[i]?, slot.crtc.isSome = true → e.linkBad i = true →
      slot.outputId ≠ gone ∧ (e.detected i).isSome = true := by
  unfold LinkThere slots
  rw [List.getElem?_map]
  cases s.outputs[i]? with
  | none => simp
  | some output => simp [Output.slot]

/-- A connector that is there has a record after its output was detected. -/
theorem detect_there (koutput : Option Connector) {slot : Slot}
    (hlive : slot.modeOutput.isSome = true → slot.outputId ≠ gone) :
    (slot.detect koutput).modeOutput.isSome = true ↔
      slot.outputId ≠ gone ∧ koutput.isSome = true := by
  unfold Slot.detect
  split
  · next hgone => exact ⟨fun h => absurd hgone (hlive h), fun h => absurd hgone h.1⟩
  · next hhere =>
      rw [and_iff_right hhere]
      cases koutput <;> rfl

/-- The message about a bad link needs the record of the connector. -/
theorem resetBadLink_crashed_iff {s : Screen} (hrunning : s.crashed = false) (e : Uevent)
    (i c : Nat) : (resetBadLink s e i c).crashed = false ↔
      ∀ slot ∈ (slots s)[i]?, slot.modeOutput.isSome = true := by
  obtain ⟨hslots, hfixed⟩ := setModeMajor_slots s c (e.major i)
  have hcrashed : (drmmodeSetModeMajor s c (e.major i)).crashed = false :=
    (congrArg FixedPart.crashed hfixed).trans hrunning
  unfold resetBadLink readConnectorId
  rw [← hslots]
  unfold slots
  rw [List.getElem?_map]
  cases (drmmodeSetModeMajor s c (e.major i)).outputs[i]? with
  | none => simp [hcrashed]
  | some output => cases hmode : output.modeOutput <;> simp [Output.slot, hmode, hcrashed]

/-- **One output** in the first loop. -/
theorem resets_iff {s : Screen} (hlive : LiveIds s) (hrunning : s.crashed = false) (e : Uevent)
    (i : Nat) :
    (∀ c ∈ badLinkCrtc (drmmodeOutputDetect s i (e.detected i)) e i,
        (resetBadLink (drmmodeOutputDetect s i (e.detected i)) e i c).crashed = false) ↔
      LinkThere s e i := by
  have hreset := fun c => resetBadLink_crashed_iff (s := drmmodeOutputDetect s i (e.detected i))
    hrunning e i c
  simp only [hreset, outputDetect_slots, List.getElem?_modify_eq]
  rw [linkThere_slots]
  unfold badLinkCrtc slots
  rw [show (drmmodeOutputDetect s i (e.detected i)).outputs =
    s.outputs.modify i fun output => output.detect (e.detected i) from rfl,
    List.getElem?_modify_eq, List.getElem?_map]
  cases hi : s.outputs[i]? with
  | none => simp
  | some output =>
      have hthere : (output.slot.detect (e.detected i)).modeOutput.isSome = true ↔ _ :=
        detect_there (e.detected i) (hlive output (List.mem_of_getElem? hi))
      have hcrtc : (output.detect (e.detected i)).crtc = output.slot.crtc := by
        unfold Output.detect
        split
        · rfl
        · split <;> rfl
      cases hbad : e.linkBad i with
      | false => simp
      | true =>
          cases hassigned : output.slot.crtc with
          | none => simp [hcrtc, hassigned]
          | some c => simp [hcrtc, hassigned, ← hthere]

/-- The first loop ends with the server running exactly if no link is bad whose connector has
gone. -/
theorem detectOutputs_running_iff (e : Uevent) (rest : List Nat) (hnodup : rest.Nodup) {s : Screen}
    (hlive : LiveIds s) (hrunning : s.crashed = false) :
    (detectOutputs e rest s).crashed = false ↔ ∀ i ∈ rest, LinkThere s e i := by
  induction rest generalizing s with
  | nil => exact ⟨fun _ i hi => absurd hi List.not_mem_nil, fun _ => hrunning⟩
  | cons i rest ih =>
      obtain ⟨hnot, hrest⟩ := List.nodup_cons.mp hnodup
      have hdetected := outputDetect_live hlive i (e.detected i)
      -- the other outputs are as they were
      have hothers : ∀ t : Screen, slots t = slots (drmmodeOutputDetect s i (e.detected i)) →
          ((∀ k ∈ rest, LinkThere t e k) ↔ ∀ k ∈ rest, LinkThere s e k) := by
        intro t ht
        refine forall₂_congr fun k hk => ?_
        have hik : i ≠ k := fun h => hnot (h ▸ hk)
        rw [linkThere_slots, linkThere_slots, ht, outputDetect_slots,
          List.getElem?_modify_ne _ _ hik]
      rw [List.forall_mem_cons, ← resets_iff hlive hrunning]
      simp only [detectOutputs]
      cases badLinkCrtc (drmmodeOutputDetect s i (e.detected i)) e i with
      | none =>
          rw [ih hrest hdetected hrunning, hothers _ rfl]
          simp
      | some c =>
          simp only [Option.mem_def, Option.some.injEq, forall_eq']
          cases hreset : (resetBadLink (drmmodeOutputDetect s i (e.detected i)) e i c).crashed with
          | true => simp [hreset]
          | false =>
              have hmode := setModeMajor_slots (drmmodeOutputDetect s i (e.detected i)) c (e.major i)
              rw [if_neg Bool.false_ne_true, resetBadLink_running hreset,
                ih hrest (setModeMajor_live hdetected c (e.major i))
                  ((congrArg FixedPart.crashed hmode.2).trans hrunning), hothers _ hmode.1,
                and_iff_right rfl]

theorem detects_iff {s : Screen} (hlive : LiveIds s) (hrunning : s.crashed = false) (e : Uevent) :
    Detects s e ↔ LinksThere s e := by
  unfold Detects LinksThere
  rw [detectOutputs_running_iff e _ List.nodup_range hlive hrunning]
  simp only [List.mem_range]

/-- A server that has crashed in the first loop stays so. -/
theorem handleUevents_crashed {s : Screen} {e : Uevent} (h : ¬ Detects s e) :
    (drmmodeHandleUevents s e).crashed = true := by
  have hcrashed := Bool.not_eq_false _ ▸ h
  simp only [drmmodeHandleUevents]
  rw [if_pos hcrashed]
  exact hcrashed

/-! ## Runs -/

/-- The slots, the options and whether the server runs are the same. -/
structure SlotsKept (s t : Screen) : Prop where
  slots : slots t = slots s
  options : t.toOptions = s.toOptions
  crashed : t.crashed = s.crashed

theorem SlotsKept.refl (s : Screen) : SlotsKept s s := ⟨rfl, rfl, rfl⟩

theorem SlotsKept.of_fixed {s t : Screen} (h : Outputs.slots t = Outputs.slots s ∧
    fixedPart t = fixedPart s) : SlotsKept s t :=
  ⟨h.1, congrArg FixedPart.options h.2, congrArg FixedPart.crashed h.2⟩

theorem setDpms_kept (s : Screen) (dpmsOn : Bool) (a : SetDpmsAnswer) :
    SlotsKept s (drmmodeSetDpms s dpmsOn a) := by
  unfold drmmodeSetDpms
  split
  · exact .refl s
  · exact ⟨rfl, rfl, rfl⟩

theorem outputDisable_kept (s : Screen) (i : Nat) (reqOk commitOk : Bool) :
    SlotsKept s (drmmodeOutputDisable s i reqOk commitOk) := by
  have hlog : ∀ built : Request × Bool,
      SlotsKept s (if built.2 && commitOk then
          { s with
            requests := built.1 :: s.requests
            outputs := s.outputs.modify i Output.leaveCrtc }
        else { s with requests := built.1 :: s.requests }) := by
    intro built
    split
    · refine ⟨?_, rfl, rfl⟩
      exact (slots_modify (s := s) i Output.leaveCrtc id rfl fun _ => rfl).trans
        (List.modify_id i (slots s))
    · exact ⟨rfl, rfl, rfl⟩
  simp only [drmmodeOutputDisable]
  split
  · exact .refl s
  · split
    · exact .refl s
    · exact hlog _

theorem outputDpms_kept (s : Screen) (i : Nat) (dpmsOn pendingModeset : Bool)
    (a : OutputDpmsAnswer) : SlotsKept s (drmmodeOutputDpms s i dpmsOn pendingModeset a) := by
  unfold drmmodeOutputDpms
  split
  · exact .refl s
  · split
    · exact .refl s
    · split
      · split
        · exact .refl s
        · split
          · exact .refl s
          · split
            · exact .of_fixed (setModeMajor_slots s _ a.major)
            · exact .refl s
      · split
        · exact outputDisable_kept s i a.reqOk a.commitOk
        · exact .refl s

/-- A slot that is changed keeps its id and its record, or loses its id. -/
theorem SlotsOk.modify {l : List Slot} (h : SlotsOk l) (i : Nat) (f : Slot → Slot)
    (hf : ∀ slot, (f slot).outputId = gone ∨ (f slot).outputId = slot.outputId ∧
      (slot.modeOutput.isSome = true → (f slot).modeOutput.isSome = true)) :
    SlotsOk (l.modify i f) := by
  have hmap : l.modify i f = l.mapIdx fun k slot => if i = k then f slot else slot := by
    apply List.ext_getElem?
    intro k
    rw [List.getElem?_modify, List.getElem?_mapIdx]
    rfl
  have hids : ∀ k slot, (if i = k then f slot else slot).outputId = slot.outputId ∨
      (if i = k then f slot else slot).outputId = gone := by
    intro k slot
    split
    · exact (hf slot).symm.imp_left And.left
    · exact .inl rfl
  refine ⟨fun id hid => ?_, fun slot hin hlive => ?_⟩
  · rw [hmap]
    exact Nat.le_trans (holders_mapIdx_le _ hids l hid) (h.once id hid)
  · rw [hmap] at hin
    obtain ⟨k, hk, rfl⟩ := List.mem_mapIdx.mp hin
    have hold := h.live l[k] (List.getElem_mem hk)
    by_cases hik : i = k
    · rw [if_pos hik] at hlive ⊢
      cases hf l[k] with
      | inl hgone => exact absurd hgone hlive
      | inr hkept => exact hkept.2 (hold (hkept.1 ▸ hlive))
    · rw [if_neg hik] at hlive ⊢
      exact hold hlive

theorem SlotsOk.detect {l : List Slot} (h : SlotsOk l) (i : Nat) (koutput : Option Connector) :
    SlotsOk (l.modify i (Slot.detect koutput)) := by
  apply h.modify
  intro slot
  unfold Slot.detect
  split
  · next hgone => exact .inl hgone
  · cases koutput with
    | none => exact .inl rfl
    | some koutput => exact .inr ⟨rfl, fun _ => rfl⟩

/-- The outputs that `drmmode_pre_init` makes for distinct connectors have slots in order. -/
theorem initOutputs_ok (crtcshift : Nat) (connectors : List (BitVec 32 × ConnectorAnswer))
    (num needed : Nat) (s : Screen) (hnodup : (connectors.map Prod.fst).Nodup)
    (hok : SlotsOk (slots s)) (hnew : ∀ c ∈ connectors, holders (slots s) c.1 = 0) :
    SlotsOk (slots (initOutputs crtcshift num connectors (s, needed)).1) ∧
      (initOutputs crtcshift num connectors (s, needed)).1.toOptions = s.toOptions := by
  induction connectors generalizing num needed s with
  | nil => exact ⟨hok, rfl⟩
  | cons c rest ih =>
      obtain ⟨id, a⟩ := c
      rw [List.map_cons, List.nodup_cons] at hnodup
      rw [List.forall_mem_cons] at hnew
      have hinit : (slots (drmmodeOutputInit s id num a false crtcshift).1 = slots s ∨
            ∃ koutput name, slots (drmmodeOutputInit s id num a false crtcshift).1 =
              slots s ++ [⟨id, some koutput, name, none⟩]) ∧
          (drmmodeOutputInit s id num a false crtcshift).1.toOptions = s.toOptions := by
        simp only [drmmodeOutputInit, Bool.and_false, Bool.false_eq_true, if_false]
        split
        · exact ⟨.inl rfl, rfl⟩
        · next koutput _ =>
            split
            · exact ⟨.inl rfl, rfl⟩
            · split
              · exact ⟨.inl rfl, rfl⟩
              · split
                · exact ⟨.inl rfl, rfl⟩
                · exact ⟨.inr ⟨koutput, drmmodeCreateName s koutput, List.map_append⟩, rfl⟩
      obtain ⟨hslots, hoptions⟩ := hinit
      have hrest := ih (num + 1) (needed + (drmmodeOutputInit s id num a false crtcshift).2)
        (drmmodeOutputInit s id num a false crtcshift).1 hnodup.2
      rw [hoptions] at hrest
      apply hrest
      · cases hslots with
        | inl hsame => rwa [hsame]
        | inr happend =>
            obtain ⟨koutput, name, happend⟩ := happend
            rw [happend]
            refine ⟨fun id' hid' => ?_, fun slot hin hlive => ?_⟩
            · have hold := hok.once id' hid'
              rw [holders_append]
              split
              · next heq =>
                  have hzero : holders (slots s) id = 0 := hnew.1
                  rw [← heq]
                  show holders (slots s) id + 1 ≤ 1
                  omega
              · exact hold
            · cases List.mem_append.mp hin with
              | inl hold => exact hok.live slot hold hlive
              | inr hlast => rw [List.mem_singleton.mp hlast]; rfl
      · intro c hc
        cases hslots with
        | inl hsame =>
            rw [hsame]
            exact hnew.2 c hc
        | inr happend =>
            obtain ⟨koutput, name, happend⟩ := happend
            have hin : c.1 ∈ rest.map Prod.fst := List.mem_map_of_mem hc
            have hne : id ≠ c.1 := fun heq => hnodup.1 (heq ▸ hin)
            rw [happend, holders_append, hnew.2 c hc, Nat.zero_add]
            exact if_neg hne

/-- What all states of a run have in common, as long as the server has not crashed. -/
structure HotplugInv (s : Screen) : Prop where
  shared : s.entityShared = false
  slots : SlotsOk (slots s)
  live : LiveIds s
  running : s.crashed = false

theorem initOutputs_running (crtcshift num needed : Nat)
    (connectors : List (BitVec 32 × ConnectorAnswer)) (s : Screen) :
    (initOutputs crtcshift num connectors (s, needed)).1.crashed = s.crashed := by
  induction connectors generalizing num needed s with
  | nil => rfl
  | cons c rest ih =>
      obtain ⟨id, a⟩ := c
      refine (ih (num + 1) _ _).trans ?_
      show (drmmodeOutputInit s id num a false crtcshift).1.crashed = s.crashed
      simp only [drmmodeOutputInit, Bool.and_false, Bool.false_eq_true, if_false]
      split
      · rfl
      · split
        · rfl
        · split
          · rfl
          · split <;> rfl

theorem preInit_hotplug (options : Options) (hshared : options.entityShared = false)
    (assigned : Assigned) (res : Resources) (hnodup : (res.connectors.map Prod.fst).Nodup) :
    HotplugInv (drmmodePreInit (.empty options) assigned res).1 := by
  have hlive := (preInit_clean options assigned res).2
  revert hlive
  simp only [drmmodePreInit]
  have hempty : SlotsOk (slots (.empty options)) :=
    ⟨fun id _ => Nat.zero_le _, fun slot hin => by cases hin⟩
  obtain ⟨hok, hoptions⟩ := initOutputs_ok (ffs (assigned ^^^ 0xffffffff#32) - 1) res.connectors 0 0
    (.empty options) hnodup hempty (fun c _ => rfl)
  have hrunning := initOutputs_running (ffs (assigned ^^^ 0xffffffff#32) - 1) 0 0 res.connectors
    (.empty options)
  generalize initOutputs (ffs (assigned ^^^ 0xffffffff#32) - 1) 0 res.connectors
    (.empty options, 0) = made at hok hoptions hrunning ⊢
  obtain ⟨houtputs, hsame, _, hcrashed⟩ := initCrtcs_outputs 0 res.crtcs made.2 made.1 assigned
  intro hlive
  constructor
  · rw [hsame, hoptions]
    exact hshared
  · have hslots : slots (initCrtcs 0 res.crtcs made.2 (made.1, assigned)).1 = slots made.1 :=
      congrArg (List.map Output.slot) houtputs
    exact hslots ▸ hok
  · exact hlive
  · exact hcrashed.trans hrunning

theorem HotplugInv.of_kept {s t : Screen} (h : HotplugInv s) (hlive : LiveIds t)
    (hkept : SlotsKept s t) : HotplugInv t where
  shared := (congrArg Options.entityShared hkept.options).trans h.shared
  slots := hkept.slots ▸ h.slots
  live := hlive
  running := hkept.crashed.trans h.running

/-- The hotplug event that a call is. -/
def OutputOp.event : OutputOp → Option Uevent
  | .uevent e => some e
  | _ => none

/-- Calls other than events leave the slots in order. -/
theorem outputCall_inv {s : Screen} (h : HotplugInv s) {op : OutputOp} (hop : op.event = none) :
    HotplugInv (outputCall s op) := by
  have hlive := outputCall_live h.live op
  cases op with
  | uevent e => cases hop
  | outputDetect i koutput =>
      have hslots := h.slots.detect i koutput
      rw [← outputDetect_slots] at hslots
      exact ⟨h.shared, hslots, hlive, h.running⟩
  | assignCrtc i crtc =>
      have hslots : SlotsOk ((slots s).modify i fun slot => { slot with crtc := crtc }) :=
        h.slots.modify i _ fun _ => .inr ⟨rfl, id⟩
      have hmodify := slots_modify (s := s) (t := outputCall s (.assignCrtc i crtc)) i
        (fun output => { output with crtc := crtc }) (fun slot => { slot with crtc := crtc }) rfl
        fun _ => rfl
      exact ⟨h.shared, hmodify ▸ hslots, hlive, h.running⟩
  | crtcSetMode c testOnly a => exact h.of_kept hlive (.of_fixed (crtcSetMode_slots s c testOnly a))
  | setModeMajor c a => exact h.of_kept hlive (.of_fixed (setModeMajor_slots s c a))
  | setDpms dpmsOn a => exact h.of_kept hlive (setDpms_kept s dpmsOn a)
  | outputDpms i dpmsOn pendingModeset a =>
      exact h.of_kept hlive (outputDpms_kept s i dpmsOn pendingModeset a)
  | needModeset c => exact h.of_kept hlive ⟨rfl, rfl, rfl⟩

/-- An event whose assumptions hold. -/
def EventOk (s : Screen) (e : Uevent) : Prop := Answered s e ∧ NamesDistinct s e

instance (s : Screen) (e : Uevent) : Decidable (EventOk s e) := inferInstanceAs (Decidable (_ ∧ _))

/-- **The property** after an event with these connectors: the server runs, outputs and
connectors are in step, and handling the same list again changes no id and adds no output. -/
structure KeptInStep (s : Screen) (ids : List (BitVec 32)) : Prop where
  running : s.crashed = false
  inStep : InStep s ids
  again : ∀ e : Uevent, Answered s e → e.ids = ids → LinksThere s e →
    (drmmodeHandleUevents s e).crashed = false ∧
      (drmmodeHandleUevents s e).outputs.map Output.outputId = s.outputs.map Output.outputId

/-- An event that does not crash the server keeps the outputs in step. -/
theorem handleUevents_kept {s : Screen} {e : Uevent} (h : HotplugInv s) (hdetects : Detects s e)
    (he : EventOk s e) :
    HotplugInv (drmmodeHandleUevents s e) ∧ KeptInStep (drmmodeHandleUevents s e) e.ids := by
  obtain ⟨hok, hfixed, hstep⟩ := handleUevents_inStep h.shared h.slots hdetects he.1 he.2
  have hinv : HotplugInv (drmmodeHandleUevents s e) :=
    ⟨(congrArg (fun p : FixedPart => p.options.entityShared) hfixed).trans h.shared, hok,
      handleUevents_live h.live e, (congrArg FixedPart.crashed hfixed).trans h.running⟩
  refine ⟨hinv, hinv.running, hstep, fun again hanswered hsame hlinks => ?_⟩
  have hagain := (detects_iff hinv.live hinv.running again).mpr hlinks
  obtain ⟨hcrashed, hids⟩ := handleUevents_again (hsame.symm ▸ hstep) hagain hanswered
  exact ⟨hcrashed.trans hinv.running, hids⟩

/-- The assumptions on a call, while the server runs. -/
def Assumed (s : Screen) (op : OutputOp) : Prop := ∀ e ∈ op.event, s.crashed = false → EventOk s e

/-- **The condition on a call.** -/
def LinksHold (s : Screen) (op : OutputOp) : Prop :=
  ∀ e ∈ op.event, s.crashed = false → LinksThere s e

/-- The property after a call. -/
def StaysInStep (s : Screen) (op : OutputOp) : Prop :=
  ∀ e ∈ op.event, KeptInStep (outputStep s op) e.ids

instance (s : Screen) (op : OutputOp) : Decidable (Assumed s op) :=
  inferInstanceAs (Decidable (∀ e ∈ op.event, _ → _))

instance (s : Screen) (op : OutputOp) : Decidable (LinksHold s op) :=
  inferInstanceAs (Decidable (∀ e ∈ op.event, _ → _))

theorem outputStep_running {s : Screen} (h : s.crashed = false) (op : OutputOp) :
    outputStep s op = outputCall s op := if_neg (Bool.eq_false_iff.mp h)

/-- **Step.** A call keeps the outputs in step exactly if no bad link has lost its connector. -/
theorem staysInStep_iff {s : Screen} {op : OutputOp} (h : HotplugInv s) (hassumed : Assumed s op) :
    StaysInStep s op ↔ LinksHold s op := by
  unfold StaysInStep LinksHold
  rw [outputStep_running h.running]
  cases op with
  | uevent e =>
      have hok : EventOk s e := hassumed e rfl h.running
      simp only [OutputOp.event, Option.mem_def, Option.some.injEq, forall_eq']
      constructor
      · intro hkept _
        rw [← detects_iff h.live h.running]
        by_contra hnot
        exact Bool.noConfusion (hkept.running.symm.trans (handleUevents_crashed hnot))
      · intro hlinks
        exact (handleUevents_kept h ((detects_iff h.live h.running e).mpr (hlinks h.running)) hok).2
  | _ => exact ⟨fun _ _ => nofun, fun _ _ => nofun⟩

theorem outputStep_inv {s : Screen} {op : OutputOp} (h : HotplugInv s) (hassumed : Assumed s op)
    (hlinks : LinksHold s op) : HotplugInv (outputStep s op) := by
  rw [outputStep_running h.running]
  cases hevent : op.event with
  | none => exact outputCall_inv h hevent
  | some e =>
      cases op with
      | uevent e' =>
          cases hevent
          have hdetects := (detects_iff h.live h.running e).mpr (hlinks e rfl h.running)
          exact (handleUevents_kept h hdetects (hassumed e rfl h.running)).1
      | _ => cases hevent

/-- A connector, and an MST connector behind it. -/
def vgaConnector : ConnectorAnswer := ⟨some ⟨1, 1, none, false, [1#32]⟩, true, true, 20⟩

def mstConnector : ConnectorAnswer :=
  ⟨some ⟨10, 2, some "mst:7-1".toList, false, [1#32]⟩, true, true, 20⟩

def vgaOnly : Resources where
  connectors := [(7#32, vgaConnector)]
  crtcs := oneOutput.crtcs
  connectors_ne := by decide

/-- An event after which the MST connector is there under these ids.  The link of the first
output is bad, and its mode can be set again. -/
def mstEvent (ids : List (BitVec 32)) (hids : gone ∉ ids) : Uevent where
  detected := fun i => if i = 0 then vgaConnector.connector else mstConnector.connector
  linkBad := fun i => i = 0
  major := fun _ => ⟨true, ⟨true, true, true, true⟩, ⟨true, true, true, true⟩⟩
  resources := some (1, (7#32, vgaConnector) :: ids.map fun id => (id, mstConnector))
  connectors_ne := by
    intro countCrtcs connectors hres
    cases hres
    rw [List.forall_mem_cons, List.forall_mem_map]
    exact ⟨by decide, fun id hin hgone => hids (hgone ▸ hin)⟩

/-- An event after which the kernel no longer lists the one connector there was, whose link was
bad. -/
def badLinkGone : Uevent :=
  { unplugged with
    detected := fun _ => some ⟨10, 1, none, false, [1#32]⟩
    linkBad := fun _ => true
    major := fun _ => ⟨true, ⟨true, true, true, true⟩, ⟨true, true, true, true⟩⟩ }

end LoongsonVideo.Driver.Outputs
