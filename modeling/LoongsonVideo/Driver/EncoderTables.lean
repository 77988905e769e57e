import LoongsonVideo.Driver.HotplugSync
import LoongsonVideo.Verified.Ledger
import LoongsonVideo.Verified.Machine
import Mathlib.Algebra.Order.Group.Multiset

/-!
# Encoder tables

`drmmode_output_init` fetches the encoders of a connector into a table, `mode_encoders`.
`drmmode_clones_init` and `drmmode_output_destroy` walk the table, as far as the connector record
says, `mode_output->count_encoders`.  The record is replaced by `drmmode_output_detect` and when
an output is reused for another connector, and dropped when a connector has gone.  The table stays.

This is `Outputs` with the tables.  Every encoder that is fetched has a number.

* `preInit_screen`, `uevents_screen`: the outputs are those of `Outputs`.
* `clonesInit_inside`: the walks of `drmmode_clones_init` are inside the tables.
* `destroy_kept_iff`, `tables_kept_iff`: when those of `drmmode_output_destroy` are, and free what
  was fetched.
-/

namespace LoongsonVideo.Driver.EncoderTables

open LoongsonVideo.Driver.Outputs
open LoongsonVideo.Verified.Ledger
open LoongsonVideo.Verified.Machine

/-- The outputs of a screen with their tables in the same order, the number of the next encoder,
what was fetched (acquired), read and freed, newest first, and which index of a table of which
size was used in a walk.  After a NULL pointer was followed the server has `crashed`. -/
structure Heads where
  screen : Screen
  tables : List (List Nat)
  next : Nat
  ledger : List (Act Nat)
  walks : List (Nat × Nat)
  crashed : Bool

/-- Before `drmmode_pre_init`. -/
def Heads.start (options : Options) : Heads := ⟨Screen.empty options, [], 0, [], [], false⟩

/-- `drmModeGetEncoder`, `n` times. -/
def Heads.fetch (s : Heads) (n : Nat) : Heads :=
  { s with
    next := s.next + n
    ledger := ((List.range' s.next n).map .acquire).reverse ++ s.ledger }

/-- `drmModeFreeEncoder` for each of them. -/
def Heads.free (s : Heads) (encoders : List Nat) : Heads :=
  { s with ledger := (encoders.map .release).reverse ++ s.ledger }

/-- A walk over a table up to `count`. -/
def Heads.walk (s : Heads) (count : Nat) (table : List Nat) : Heads :=
  { s with walks := (List.range count).map (fun i => (i, table.length)) ++ s.walks }

/-! ## Making outputs -/

/-- The answers of one `drmmode_output_init`: the connector, whether there is memory for the
table, how many encoders the kernel gives before it gives none, whether the server makes an
output, whether there is memory for its private record, and the id of the `CRTC_ID` property. -/
structure InitAnswer where
  connector : Option Connector
  kencodersOk : Bool
  got : Nat
  createOk : Bool
  privateOk : Bool
  crtcIdProp : Nat
  deriving DecidableEq, Repr

/-- The answers as `Outputs` has them. -/
def InitAnswer.toConnectorAnswer (a : InitAnswer) : ConnectorAnswer where
  connector := a.connector
  encodersOk := a.kencodersOk && a.connector.all fun koutput => koutput.encoders.length ≤ a.got
  createOk := a.createOk
  crtcIdProp := a.crtcIdProp

/-- `drmmode_output_init`.  `screen` and `made` are what it does apart from the table.  The copy
of the property table never fails, as no property in it has enum values. -/
def drmmodeOutputInit (s : Heads) (id : BitVec 32) (num : Nat) (a : InitAnswer) (dynamic : Bool)
    (crtcshift : Nat) : Heads × Nat :=
  let (screen, made) :=
    Outputs.drmmodeOutputInit s.screen id num a.toConnectorAnswer dynamic crtcshift
  match a.connector with
  | none => (s, 0)
  | some koutput =>
      let name := drmmodeCreateName s.screen koutput
      let old :=
        if koutput.path.isSome && dynamic then
          s.screen.outputs.findIdx? fun output => output.name = name
        else none
      match old with
      | some _ => ({ s with screen := screen }, made)
      | none =>
          if !a.kencodersOk then (s, 0)
          else
            let count := koutput.encoders.length
            let kencoders := List.range' s.next (min count a.got)
            let s := s.fetch (min count a.got)
            if a.got < count then (s.free kencoders, 0)
            else if s.screen.entityShared && !headTakes s.screen num name then
              (s.free kencoders, 0)
            else if !a.createOk then (s.free kencoders, 0)
            -- `xf86OutputDestroy` calls `drmmode_output_destroy`, without a private record
            else if !a.privateOk then ({ s with crashed := true }, 0)
            else ({ s with screen := screen, tables := s.tables ++ [kencoders] }, made)

/-- The loop of `drmmode_pre_init` over the connectors, from number `num` on. -/
def initOutputs (crtcshift : Nat) : Nat → List (BitVec 32 × InitAnswer) → Heads × Nat →
    Heads × Nat
  | _, [], acc => acc
  | num, (id, a) :: rest, (s, crtcsNeeded) =>
      if s.crashed then (s, crtcsNeeded)
      else
        let (s, made) := drmmodeOutputInit s id num a false crtcshift
        initOutputs crtcshift (num + 1) rest (s, crtcsNeeded + made)

/-- The walks of `drmmode_clones_init`.  The masks that it makes are not described. -/
def drmmodeClonesInit : List Output → List (List Nat) → Heads → Heads
  | output :: outputs, table :: tables, s =>
      match output.modeOutput with
      | none => { s with crashed := true }
      | some koutput =>
          let s := s.walk koutput.encoders.length table
          drmmodeClonesInit outputs tables
            { s with ledger := (table.take koutput.encoders.length).map .touch ++ s.ledger }
  | _, _, s => s

/-- What the kernel and the allocators answer a head in `drmmode_pre_init`. -/
structure TableResources where
  connectors : List (BitVec 32 × InitAnswer)
  crtcs : List CrtcAnswer
  connectors_ne : ∀ c ∈ connectors, c.1 ≠ gone

/-- `drmmode_pre_init`, as `Outputs` has it, and then `drmmode_clones_init`. -/
def drmmodePreInit (s : Heads) (assigned : Assigned) (res : TableResources) : Heads × Assigned :=
  let crtcshift := ffs (assigned ^^^ 0xffffffff#32) - 1
  let (s, crtcsNeeded) := initOutputs crtcshift 0 res.connectors (s, 0)
  if s.crashed then (s, assigned)
  else
    let (screen, assigned) := initCrtcs 0 res.crtcs crtcsNeeded (s.screen, assigned)
    (drmmodeClonesInit screen.outputs s.tables { s with screen := screen }, assigned)

/-! ## What happens to outputs -/

/-- `drmmode_output_detect` of output `i`. -/
def drmmodeOutputDetect (s : Heads) (i : Nat) (koutput : Option Connector) : Heads :=
  { s with screen := Outputs.drmmodeOutputDetect s.screen i koutput }

/-- A hotplug event, as `Uevent` has it. -/
structure TableUevent where
  detected : Nat → Option Connector
  linkBad : Nat → Bool
  major : Nat → ModeMajorAnswer
  resources : Option (Nat × List (BitVec 32 × InitAnswer))
  connectors_ne : ∀ countCrtcs connectors, resources = some (countCrtcs, connectors) →
    ∀ c ∈ connectors, c.1 ≠ gone

/-- The answers as `Outputs` has them. -/
def connectorAnswers (connectors : List (BitVec 32 × InitAnswer)) :
    List (BitVec 32 × ConnectorAnswer) :=
  connectors.map fun c => (c.1, c.2.toConnectorAnswer)

theorem connectorAnswers_ne {connectors : List (BitVec 32 × InitAnswer)}
    (h : ∀ c ∈ connectors, c.1 ≠ gone) : ∀ c ∈ connectorAnswers connectors, c.1 ≠ gone := by
  intro c hc
  obtain ⟨d, hd, rfl⟩ := List.mem_map.mp hc
  exact h d hd

def TableResources.toResources (res : TableResources) : Resources where
  connectors := connectorAnswers res.connectors
  crtcs := res.crtcs
  connectors_ne := connectorAnswers_ne res.connectors_ne

def TableUevent.toUevent (e : TableUevent) : Uevent where
  detected := e.detected
  linkBad := e.linkBad
  major := e.major
  resources := e.resources.map fun r => (r.1, connectorAnswers r.2)
  connectors_ne := by
    intro countCrtcs connectors h
    obtain ⟨r, hr, heq⟩ := Option.map_eq_some_iff.mp h
    cases heq
    exact connectorAnswers_ne (e.connectors_ne r.1 r.2 hr)

/-- The third loop of `drmmode_handle_uevents`, over the connectors from number `num` on. -/
def addOutputs : Nat → List (BitVec 32 × InitAnswer) → Heads → Heads
  | _, [], s => s
  | num, (id, a) :: rest, s =>
      if s.crashed then s
      else if s.screen.outputs.any fun output => output.outputId = id then
        addOutputs (num + 1) rest s
      else addOutputs (num + 1) rest (drmmodeOutputInit s id num a true 0).1

/-- `drmmode_handle_uevents`, when there is an event. -/
def drmmodeHandleUevents (s : Heads) (e : TableUevent) : Heads :=
  let s :=
    { s with
      screen := detectOutputs e.toUevent (List.range s.screen.outputs.length) s.screen }
  if s.screen.crashed then s
  else
    match e.resources with
    | none => s
    | some (countCrtcs, connectors) =>
        if countCrtcs ≠ s.screen.crtcs.length then s
        else
          addOutputs 0 connectors
            { s with screen := dropOutputs (connectors.map Prod.fst) s.screen }

/-- `mode_output->count_encoders`, and nothing to walk without a record. -/
def countEncoders (output : Output) : Nat :=
  match output.modeOutput with
  | none => 0
  | some koutput => koutput.encoders.length

/-- `xf86OutputDestroy`: `drmmode_output_destroy` of output `i`, which then leaves the list.
What lies behind the end of a table is not described. -/
def drmmodeOutputDestroy (s : Heads) (i : Nat) : Heads :=
  match s.screen.outputs[i]?, s.tables[i]? with
  | some output, some table =>
      let s := (s.walk (countEncoders output) table).free (table.take (countEncoders output))
      { s with
        screen := { s.screen with outputs := s.screen.outputs.eraseIdx i }
        tables := s.tables.eraseIdx i }
  | _, _ => s

/-- A call of the server, or a hotplug event. -/
inductive HeadCall where
  | detect (i : Nat) (koutput : Option Connector)
  | uevent (e : TableUevent)
  | destroy (i : Nat)

def step (s : Heads) (call : HeadCall) : Heads :=
  if s.crashed then s
  else
    match call with
    | .detect i koutput => drmmodeOutputDetect s i koutput
    | .uevent e => drmmodeHandleUevents s e
    | .destroy i => drmmodeOutputDestroy s i

/-! ## What `drmmode_output_init` comes to -/

/-- The outcomes, beside what becomes of the screen in `Outputs`: nothing, an output reused, the
encoders fetched and freed again, a crash with the encoders fetched, an output with its table. -/
inductive Inited (s : Heads) (dynamic : Bool) : Screen × Nat → Heads × Nat → Prop where
  | nothing : Inited s dynamic (s.screen, 0) (s, 0)
  | reused (screen : Screen) (i : Nat) (hook : Output → Output)
      (hscreen : screen.outputs = s.screen.outputs.modify i hook) (hdynamic : dynamic = true) :
      Inited s dynamic (screen, 1) ({ s with screen := screen }, 1)
  | undone (n : Nat) : Inited s dynamic (s.screen, 0) ((s.fetch n).free (List.range' s.next n), 0)
  | stranded (n : Nat) (r : Screen × Nat) :
      Inited s dynamic r ({ s.fetch n with crashed := true }, 0)
  | made (screen : Screen) (output : Output) (koutput : Connector)
      (hscreen : screen.outputs = s.screen.outputs ++ [output])
      (houtput : output.modeOutput = some koutput) :
      Inited s dynamic (screen, 1)
        ({ s.fetch koutput.encoders.length with
            screen := screen
            tables := s.tables ++ [List.range' s.next koutput.encoders.length] }, 1)

theorem outputInit_inited (s : Heads) (id : BitVec 32) (num : Nat) (a : InitAnswer)
    (dynamic : Bool) (crtcshift : Nat) :
    Inited s dynamic
      (Outputs.drmmodeOutputInit s.screen id num a.toConnectorAnswer dynamic crtcshift)
      (drmmodeOutputInit s id num a dynamic crtcshift) := by
  have hconnector : a.toConnectorAnswer.connector = a.connector := rfl
  have hcreate : a.toConnectorAnswer.createOk = a.createOk := rfl
  unfold drmmodeOutputInit
  unfold Outputs.drmmodeOutputInit
  rw [hconnector]
  cases hanswer : a.connector with
  | none => exact .nothing
  | some koutput =>
      have hencoders : a.toConnectorAnswer.encodersOk =
          (a.kencodersOk && decide (koutput.encoders.length ≤ a.got)) := by
        simp only [InitAnswer.toConnectorAnswer, hanswer, Option.all_some]
      dsimp only
      generalize hold : (if (koutput.path.isSome && dynamic) = true then
        s.screen.outputs.findIdx? fun output => output.name = drmmodeCreateName s.screen koutput
        else none) = old
      cases old with
      | some i =>
          have hdynamic : dynamic = true := by
            by_contra hstatic
            simp [hstatic] at hold
          exact .reused _ i _ rfl hdynamic
      | none =>
          rw [hencoders, hcreate]
          cases a.kencodersOk with
          | false => exact .nothing
          | true =>
              by_cases hgot : a.got < koutput.encoders.length
              · rw [decide_eq_false (Nat.not_le.mpr hgot)]
                simp only [if_pos hgot]
                exact .undone _
              · have hall := Nat.not_lt.mp hgot
                rw [decide_eq_true hall, Nat.min_eq_left hall]
                have hscreen : (s.fetch koutput.encoders.length).screen = s.screen := rfl
                simp only [if_neg hgot, hscreen]
                cases s.screen.entityShared &&
                    !headTakes s.screen num (drmmodeCreateName s.screen koutput) with
                | true => exact .undone _
                | false =>
                    cases a.createOk with
                    | false => exact .undone _
                    | true =>
                        cases a.privateOk with
                        | false => exact .stranded _ _
                        | true =>
                            refine .made _ _ koutput rfl ?_
                            rfl

/-! ## The outputs are those of `Outputs` -/

theorem Inited.screen {s : Heads} {dynamic : Bool} {r : Screen × Nat} {t : Heads × Nat}
    (h : Inited s dynamic r t) (ht : t.1.crashed = false) : r = (t.1.screen, t.2) := by
  cases h with
  | nothing => rfl
  | reused => rfl
  | undone => rfl
  | stranded => cases ht
  | made => rfl

/-- A loop that ends without a crash was begun without one. -/
theorem initOutputs_running {crtcshift num crtcsNeeded : Nat}
    {connectors : List (BitVec 32 × InitAnswer)} {s : Heads}
    (h : (initOutputs crtcshift num connectors (s, crtcsNeeded)).1.crashed = false) :
    s.crashed = false := by
  cases hs : s.crashed with
  | false => rfl
  | true =>
      cases connectors with
      | nil => exact hs.symm.trans h
      | cons c rest =>
          rw [initOutputs, if_pos hs] at h
          exact hs.symm.trans h

theorem addOutputs_running {num : Nat} {connectors : List (BitVec 32 × InitAnswer)} {s : Heads}
    (h : (addOutputs num connectors s).crashed = false) : s.crashed = false := by
  cases hs : s.crashed with
  | false => rfl
  | true =>
      cases connectors with
      | nil => exact hs.symm.trans h
      | cons c rest =>
          rw [addOutputs, if_pos hs] at h
          exact hs.symm.trans h

theorem initOutputs_screen (crtcshift : Nat) (connectors : List (BitVec 32 × InitAnswer))
    (num crtcsNeeded : Nat) (s : Heads)
    (h : (initOutputs crtcshift num connectors (s, crtcsNeeded)).1.crashed = false) :
    Outputs.initOutputs crtcshift num (connectorAnswers connectors) (s.screen, crtcsNeeded) =
      ((initOutputs crtcshift num connectors (s, crtcsNeeded)).1.screen,
        (initOutputs crtcshift num connectors (s, crtcsNeeded)).2) := by
  induction connectors generalizing num crtcsNeeded s with
  | nil => rfl
  | cons c rest ih =>
      obtain ⟨id, a⟩ := c
      have hs := initOutputs_running h
      simp only [initOutputs, hs, Bool.false_eq_true, if_false] at h ⊢
      have hinit := (outputInit_inited s id num a false crtcshift).screen (initOutputs_running h)
      rw [← ih _ _ _ h, connectorAnswers, List.map_cons, Outputs.initOutputs, hinit]
      rfl

theorem addOutputs_screen (connectors : List (BitVec 32 × InitAnswer)) (num : Nat) (s : Heads)
    (h : (addOutputs num connectors s).crashed = false) :
    Outputs.addOutputs num (connectorAnswers connectors) s.screen =
      (addOutputs num connectors s).screen := by
  induction connectors generalizing num s with
  | nil => rfl
  | cons c rest ih =>
      obtain ⟨id, a⟩ := c
      have hs := addOutputs_running h
      rw [connectorAnswers, List.map_cons, Outputs.addOutputs]
      simp only [addOutputs, hs, Bool.false_eq_true, if_false] at h ⊢
      split
      · next hfound =>
          rw [if_pos hfound] at h
          exact ih (num + 1) s h
      · next hfound =>
          rw [if_neg hfound] at h
          rw [(outputInit_inited s id num a true 0).screen (addOutputs_running h)]
          exact ih (num + 1) _ h

/-- **The outputs after an event** are those of `Outputs`. -/
theorem uevents_screen (s : Heads) (e : TableUevent)
    (h : (drmmodeHandleUevents s e).crashed = false) :
    Outputs.drmmodeHandleUevents s.screen e.toUevent = (drmmodeHandleUevents s e).screen := by
  unfold Outputs.drmmodeHandleUevents
  unfold drmmodeHandleUevents at h ⊢
  have hresources : e.toUevent.resources =
      e.resources.map fun r => (r.1, connectorAnswers r.2) := rfl
  rw [hresources]
  dsimp only at h ⊢
  split
  · rfl
  · next hrunning =>
      rw [if_neg hrunning] at h
      cases hr : e.resources with
      | none => rfl
      | some r =>
          obtain ⟨countCrtcs, connectors⟩ := r
          rw [hr] at h
          simp only [Option.map_some] at h ⊢
          split
          · rfl
          · next hcount =>
              rw [if_neg hcount] at h
              have hids : (connectorAnswers connectors).map Prod.fst = connectors.map Prod.fst := by
                rw [connectorAnswers, List.map_map]
                rfl
              rw [hids]
              exact addOutputs_screen connectors 0 _ h

theorem clonesInit_screen (outputs : List Output) (tables : List (List Nat)) (s : Heads) :
    (drmmodeClonesInit outputs tables s).screen = s.screen ∧
      (drmmodeClonesInit outputs tables s).tables = s.tables := by
  induction outputs generalizing tables s with
  | nil => exact ⟨rfl, rfl⟩
  | cons output outputs ih =>
      cases tables with
      | nil => exact ⟨rfl, rfl⟩
      | cons table tables =>
          rw [drmmodeClonesInit]
          split
          · exact ⟨rfl, rfl⟩
          · exact ih tables _

/-- **The outputs of a new screen** are those of `Outputs`. -/
theorem preInit_screen (options : Options) (assigned : Assigned) (res : TableResources)
    (h : (drmmodePreInit (.start options) assigned res).1.crashed = false) :
    Outputs.drmmodePreInit (.empty options) assigned res.toResources =
      ((drmmodePreInit (.start options) assigned res).1.screen,
        (drmmodePreInit (.start options) assigned res).2) := by
  unfold Outputs.drmmodePreInit
  unfold drmmodePreInit at h ⊢
  dsimp only at h ⊢
  cases hcrash : (initOutputs (ffs (assigned ^^^ 0xffffffff#32) - 1) 0 res.connectors
      (.start options, 0)).1.crashed with
  | true =>
      rw [if_pos hcrash] at h
      rw [hcrash] at h
      cases h
  | false =>
      have hinit := initOutputs_screen _ _ _ _ _ hcrash
      simp only [Bool.false_eq_true, if_false]
      rw [(clonesInit_screen _ _ _).1]
      have hstart : (Heads.start options).screen = .empty options := rfl
      rw [hstart] at hinit
      show (let (s, crtcsNeeded) := Outputs.initOutputs _ 0 (connectorAnswers res.connectors) _;
        initCrtcs 0 res.crtcs crtcsNeeded (s, assigned)) = _
      rw [hinit]

/-! ## Who has to free an encoder -/

/-- Exactly `owned` is still to be freed, and every number was given to one encoder. -/
structure Accounts (s : Heads) (owned : Multiset Nat) : Prop where
  owns : Owns s.ledger owned
  once : ∀ e, acquires s.ledger e = if e < s.next then 1 else 0

theorem Accounts.lt_next {s : Heads} {owned : Multiset Nat} (h : Accounts s owned) {e : Nat}
    (he : e ∈ owned) : e < s.next := by
  have hpos := h.owns.lawful.acquires_pos (h.owns.mem_held.mpr he)
  rw [h.once e] at hpos
  by_contra hnot
  rw [if_neg hnot] at hpos
  exact Nat.lt_irrefl 0 hpos

theorem Accounts.fetch {s : Heads} {owned : Multiset Nat} (h : Accounts s owned) (n : Nat) :
    Accounts (s.fetch n) ((List.range' s.next n : Multiset Nat) + owned) where
  owns := by
    refine h.owns.acquireAll List.nodup_range' fun e he hin => ?_
    have hlt := h.lt_next hin
    have hle := (List.mem_range'_1.mp he).1
    omega
  once e := by
    show acquires (((List.range' s.next n).map .acquire).reverse ++ s.ledger) e =
      if e < s.next + n then 1 else 0
    rw [acquires_acquires, h.once e, List.Nodup.count List.nodup_range']
    simp only [List.mem_range'_1]
    split_ifs <;> omega

theorem Accounts.free {s : Heads} {encoders : List Nat} {owned : Multiset Nat}
    (h : Accounts s ((encoders : Multiset Nat) + owned)) : Accounts (s.free encoders) owned where
  owns := h.owns.releases
  once e := (acquires_releases encoders e s.ledger).trans (h.once e)

/-- The tables' encoders are still to be freed, and so are the `leaked` ones, which are in no
table. -/
structure Holds (s : Heads) (leaked : Multiset Nat) : Prop where
  aligned : s.tables.length = s.screen.outputs.length
  accounts : Accounts s ((s.tables.flatten : Multiset Nat) + leaked)

theorem Holds.table {s : Heads} {leaked : Multiset Nat} (h : Holds s leaked) {i : Nat}
    {output : Output} (houtput : s.screen.outputs[i]? = some output) :
    ∃ table, s.tables[i]? = some table := by
  have hi := (List.getElem?_eq_some_iff.mp houtput).1
  exact ⟨_, List.getElem?_eq_getElem (h.aligned ▸ hi)⟩

/-- From `s` to `t` no table is walked, and nothing more is leaked unless there is a crash. -/
def Keeps (s t : Heads) (leaked : Multiset Nat) : Prop :=
  t.walks = s.walks ∧ ∃ leaked', Holds t leaked' ∧ (t.crashed = false → leaked' = leaked)

theorem Keeps.refl {s : Heads} {leaked : Multiset Nat} (hs : Holds s leaked) :
    Keeps s s leaked := ⟨rfl, leaked, hs, fun _ => rfl⟩

theorem Keeps.trans {s t u : Heads} {leaked : Multiset Nat} (h : Keeps s t leaked)
    (h' : ∀ leaked', Holds t leaked' → Keeps t u leaked')
    (hrunning : u.crashed = false → t.crashed = false) : Keeps s u leaked := by
  obtain ⟨hwalks, leaked', hholds, hsame⟩ := h
  obtain ⟨hwalks', leaked'', hholds', hsame'⟩ := h' leaked' hholds
  exact ⟨hwalks'.trans hwalks, leaked'', hholds', fun hcrash =>
    (hsame' hcrash).trans (hsame (hrunning hcrash))⟩

/-- Only a crash of `drmmode_output_init` leaks. -/
theorem Inited.keeps {s : Heads} {dynamic : Bool} {r : Screen × Nat} {t : Heads × Nat}
    (h : Inited s dynamic r t) {leaked : Multiset Nat} (hs : Holds s leaked) :
    Keeps s t.1 leaked := by
  cases h with
  | nothing => exact .refl hs
  | reused screen i hook hscreen =>
      have haligned : s.tables.length = screen.outputs.length := by
        rw [hscreen, List.length_modify]
        exact hs.aligned
      exact ⟨rfl, leaked, ⟨haligned, hs.accounts.owns, hs.accounts.once⟩, fun _ => rfl⟩
  | undone n =>
      exact ⟨rfl, leaked, ⟨hs.aligned, (hs.accounts.fetch n).free⟩, fun _ => rfl⟩
  | stranded n =>
      have hfetched := hs.accounts.fetch n
      rw [add_left_comm] at hfetched
      exact ⟨rfl, _, ⟨hs.aligned, hfetched.owns, hfetched.once⟩, fun hcrash => by cases hcrash⟩
  | made screen output koutput hscreen =>
      have haligned : (s.tables ++ [List.range' s.next koutput.encoders.length]).length =
          screen.outputs.length := by
        rw [hscreen, List.length_append, List.length_append, hs.aligned]
        rfl
      have hfetched := hs.accounts.fetch koutput.encoders.length
      have howned : (List.range' s.next koutput.encoders.length : Multiset Nat) +
          (s.tables.flatten + leaked) =
          ((s.tables ++ [List.range' s.next koutput.encoders.length]).flatten : Multiset Nat) +
            leaked := by
        rw [List.flatten_append, List.flatten_singleton, ← Multiset.coe_add, add_left_comm,
          add_assoc]
      rw [howned] at hfetched
      exact ⟨rfl, leaked, ⟨haligned, hfetched.owns, hfetched.once⟩, fun _ => rfl⟩

/-! ## A new screen -/

/-- Every output has the record that its table was made from. -/
def Matched (outputs : List Output) (tables : List (List Nat)) : Prop :=
  List.Forall₂ (fun output table => ∃ koutput, output.modeOutput = some koutput ∧
    koutput.encoders.length = table.length) outputs tables

theorem Inited.matched {s : Heads} {r : Screen × Nat} {t : Heads × Nat} (h : Inited s false r t)
    (hs : Matched s.screen.outputs s.tables) : Matched t.1.screen.outputs t.1.tables := by
  cases h with
  | nothing => exact hs
  | reused screen i hook hscreen hdynamic => cases hdynamic
  | undone n => exact hs
  | stranded n => exact hs
  | made screen output koutput hscreen houtput =>
      show Matched screen.outputs (s.tables ++ [List.range' s.next koutput.encoders.length])
      rw [hscreen]
      exact List.rel_append hs (.cons ⟨koutput, houtput, List.length_range'.symm⟩ .nil)

theorem initOutputs_keeps (crtcshift : Nat) (connectors : List (BitVec 32 × InitAnswer))
    (num crtcsNeeded : Nat) {s : Heads} {leaked : Multiset Nat} (hs : Holds s leaked)
    (hmatched : Matched s.screen.outputs s.tables) :
    let t := (initOutputs crtcshift num connectors (s, crtcsNeeded)).1
    Matched t.screen.outputs t.tables ∧ Keeps s t leaked := by
  induction connectors generalizing num crtcsNeeded s leaked with
  | nil => exact ⟨hmatched, .refl hs⟩
  | cons c rest ih =>
      obtain ⟨id, a⟩ := c
      simp only [initOutputs]
      split
      · exact ⟨hmatched, .refl hs⟩
      · have hinit := outputInit_inited s id num a false crtcshift
        have hrest (leaked' : Multiset Nat)
            (hholds : Holds (drmmodeOutputInit s id num a false crtcshift).1 leaked') :=
          ih (num + 1) (crtcsNeeded + (drmmodeOutputInit s id num a false crtcshift).2) hholds
            (hinit.matched hmatched)
        obtain ⟨-, leaked', hholds, -⟩ := hinit.keeps hs
        exact ⟨(hrest leaked' hholds).1,
          (hinit.keeps hs).trans (fun _ h => (hrest _ h).2) initOutputs_running⟩

/-- The walks of `drmmode_clones_init` stay inside tables that match. -/
theorem clonesInit_inside {outputs : List Output} {tables : List (List Nat)}
    (hmatched : Matched outputs tables) {owned : Multiset Nat}
    (hin : ∀ table ∈ tables, ∀ e ∈ table, e ∈ owned) {s : Heads} (hs : Accounts s owned)
    (hinside : ∀ w ∈ s.walks, w.1 < w.2) :
    let t := drmmodeClonesInit outputs tables s
    Accounts t owned ∧ t.crashed = s.crashed ∧ ∀ w ∈ t.walks, w.1 < w.2 := by
  induction hmatched generalizing s with
  | nil => exact ⟨hs, rfl, hinside⟩
  | @cons output table outputs tables hfirst hrest ih =>
      obtain ⟨koutput, hrecord, hlength⟩ := hfirst
      rw [List.forall_mem_cons] at hin
      simp only [drmmodeClonesInit, hrecord]
      refine ih hin.2 ⟨?_, fun e => ?_⟩ ?_
      · exact hs.owns.touches fun e he => hin.1 e (List.mem_of_mem_take he)
      · exact (acquires_touches _ e s.ledger).trans (hs.once e)
      · intro w hw
        rcases List.mem_append.mp hw with hnew | hold
        · obtain ⟨i, hi, rfl⟩ := List.mem_map.mp hnew
          exact hlength ▸ List.mem_range.mp hi
        · exact hinside w hold

theorem preInit_holds (options : Options) (assigned : Assigned) (res : TableResources) :
    let t := (drmmodePreInit (.start options) assigned res).1
    (∀ w ∈ t.walks, w.1 < w.2) ∧
      ∃ leaked, Holds t leaked ∧ (t.crashed = false → leaked = 0) := by
  have hstart : Holds (.start options) 0 :=
    ⟨rfl, ⟨trivial, rfl⟩, fun e => (if_neg (Nat.not_lt_zero e)).symm⟩
  obtain ⟨hmatched, hwalks, leaked, hholds, hkept⟩ :=
    initOutputs_keeps (ffs (assigned ^^^ 0xffffffff#32) - 1) res.connectors 0 0 hstart .nil
  unfold drmmodePreInit
  dsimp only
  generalize initOutputs (ffs (assigned ^^^ 0xffffffff#32) - 1) 0 res.connectors
    (.start options, 0) = made at hwalks hmatched hholds hkept ⊢
  have hinside : ∀ w ∈ made.1.walks, w.1 < w.2 := by
    rw [hwalks]
    exact fun w hw => (List.not_mem_nil hw).elim
  split
  · exact ⟨hinside, leaked, hholds, hkept⟩
  · have houtputs := (initCrtcs_outputs 0 res.crtcs made.2 made.1.screen assigned).1
    generalize initCrtcs 0 res.crtcs made.2 (made.1.screen, assigned) = crtcs at houtputs ⊢
    have hin : ∀ table ∈ made.1.tables, ∀ e ∈ table,
        e ∈ (made.1.tables.flatten : Multiset Nat) + leaked := fun table htable e he =>
      Multiset.mem_add.mpr (.inl (List.mem_flatten.mpr ⟨table, htable, he⟩))
    obtain ⟨haccounts, hcrashed, hinside'⟩ :=
      clonesInit_inside (houtputs ▸ hmatched) hin (s := { made.1 with screen := crtcs.1 })
        ⟨hholds.accounts.owns, hholds.accounts.once⟩ hinside
    obtain ⟨hscreen, htables⟩ :=
      clonesInit_screen crtcs.1.outputs made.1.tables { made.1 with screen := crtcs.1 }
    refine ⟨hinside', leaked, ⟨?_, ?_⟩, fun hcrash => hkept (hcrashed ▸ hcrash)⟩
    · rw [hscreen, htables]
      exact hholds.aligned.trans (congrArg List.length houtputs.symm)
    · rw [htables]
      exact haccounts

/-! ## One call -/

theorem addOutputs_keeps (connectors : List (BitVec 32 × InitAnswer)) (num : Nat) {s : Heads}
    {leaked : Multiset Nat} (hs : Holds s leaked) :
    Keeps s (addOutputs num connectors s) leaked := by
  induction connectors generalizing num s leaked with
  | nil => exact .refl hs
  | cons c rest ih =>
      obtain ⟨id, a⟩ := c
      simp only [addOutputs]
      split
      · exact .refl hs
      · split
        · exact ih (num + 1) hs
        · exact ((outputInit_inited s id num a true 0).keeps hs).trans
            (fun _ hholds => ih (num + 1) hholds) addOutputs_running

theorem detectOutputs_length (e : Uevent) (rest : List Nat) (s : Screen) :
    (detectOutputs e rest s).outputs.length = s.outputs.length := by
  induction rest generalizing s with
  | nil => rfl
  | cons i rest ih =>
      have hdetect : (Outputs.drmmodeOutputDetect s i (e.detected i)).outputs.length =
          s.outputs.length := List.length_modify ..
      simp only [detectOutputs]
      split
      · exact (ih _).trans hdetect
      · next c _ =>
          have hslots := (setModeMajor_slots (Outputs.drmmodeOutputDetect s i (e.detected i)) c
            (e.major i)).1
          have hmode := congrArg List.length hslots
          rw [slots, slots, List.length_map, List.length_map] at hmode
          have hreset : (resetBadLink (Outputs.drmmodeOutputDetect s i (e.detected i)) e i
              c).outputs.length = s.outputs.length := by
            unfold resetBadLink readConnectorId
            split <;> exact hmode.trans hdetect
          split
          · exact hreset
          · exact (ih _).trans hreset

/-- An event leaves the tables there are alone, whatever becomes of the records. -/
theorem uevents_keeps (e : TableUevent) {s : Heads} {leaked : Multiset Nat}
    (hs : Holds s leaked) : Keeps s (drmmodeHandleUevents s e) leaked := by
  have hlength := detectOutputs_length e.toUevent (List.range s.screen.outputs.length) s.screen
  have hscreen : ∀ screen : Screen, screen.outputs.length = s.screen.outputs.length →
      Keeps s { s with screen := screen } leaked := fun screen hsame =>
    ⟨rfl, leaked, ⟨hs.aligned.trans hsame.symm, hs.accounts.owns, hs.accounts.once⟩, fun _ => rfl⟩
  unfold drmmodeHandleUevents
  dsimp only
  split
  · exact hscreen _ hlength
  · split
    · exact hscreen _ hlength
    · next countCrtcs connectors _ =>
        split
        · exact hscreen _ hlength
        · refine (hscreen (dropOutputs _ _) ?_).trans
            (fun _ hholds => addOutputs_keeps connectors 0 hholds) addOutputs_running
          exact (List.length_map ..).trans hlength

/-- A destroyed output leaks what of its table the walk does not reach. -/
theorem destroy_holds {s : Heads} {leaked : Multiset Nat} (hs : Holds s leaked) {i : Nat}
    {output : Output} {table : List Nat} (houtput : s.screen.outputs[i]? = some output)
    (htable : s.tables[i]? = some table) :
    (drmmodeOutputDestroy s i).walks =
        (List.range (countEncoders output)).map (fun i => (i, table.length)) ++ s.walks ∧
      (drmmodeOutputDestroy s i).crashed = s.crashed ∧
      Holds (drmmodeOutputDestroy s i)
        ((table.drop (countEncoders output) : Multiset Nat) + leaked) := by
  unfold drmmodeOutputDestroy
  rw [houtput, htable]
  refine ⟨rfl, rfl, ?_, ?_⟩
  · show (s.tables.eraseIdx i).length = (s.screen.outputs.eraseIdx i).length
    rw [List.length_eraseIdx, List.length_eraseIdx, hs.aligned]
  · obtain ⟨hi, hget⟩ := List.getElem?_eq_some_iff.mp htable
    have hperm : (table :: s.tables.eraseIdx i).flatten.Perm s.tables.flatten := by
      rw [← hget]
      exact (List.getElem_cons_eraseIdx_perm hi).flatten
    have htables : (s.tables.flatten : Multiset Nat) =
        (table : Multiset Nat) + (s.tables.eraseIdx i).flatten := by
      rw [← Multiset.coe_eq_coe.mpr hperm, List.flatten_cons, Multiset.coe_add]
    have hsplit : (table : Multiset Nat) =
        (table.take (countEncoders output) : Multiset Nat) + table.drop (countEncoders output) := by
      rw [Multiset.coe_add, List.take_append_drop]
    have howned : (s.tables.flatten : Multiset Nat) + leaked =
        (table.take (countEncoders output) : Multiset Nat) + ((s.tables.eraseIdx i).flatten +
          ((table.drop (countEncoders output) : Multiset Nat) + leaked)) := by
      rw [htables, hsplit]
      ac_rfl
    have haccounts := hs.accounts
    rw [howned] at haccounts
    have hwalked : Accounts (s.walk (countEncoders output) table) _ :=
      ⟨haccounts.owns, haccounts.once⟩
    exact ⟨hwalked.free.owns, hwalked.free.once⟩

/-! ## Runs -/

/-- Every walk stayed inside its table, and of each encoder that was fetched the output is still
there and it is not freed, or the output has gone and it was freed once. -/
structure Kept (s : Heads) : Prop where
  inside : ∀ w ∈ s.walks, w.1 < w.2
  freed : s.crashed = false → ∀ e, 0 < acquires s.ledger e →
    (∃ table ∈ s.tables, e ∈ table) ∧ releases s.ledger e = 0 ∨
      (∀ table ∈ s.tables, e ∉ table) ∧ releases s.ledger e = 1

/-- Nothing is leaked exactly if every encoder is in a table or was freed. -/
theorem Holds.freed_iff {s : Heads} {leaked : Multiset Nat} (h : Holds s leaked) :
    (∀ e, 0 < acquires s.ledger e →
      (∃ table ∈ s.tables, e ∈ table) ∧ releases s.ledger e = 0 ∨
        (∀ table ∈ s.tables, e ∉ table) ∧ releases s.ledger e = 1) ↔ leaked = 0 := by
  have hlawful := h.accounts.owns.lawful
  have hone : ∀ e, 0 < acquires s.ledger e → acquires s.ledger e = 1 := by
    intro e hpos
    have honce := h.accounts.once e
    split at honce
    · exact honce
    · omega
  have hheld : ∀ e, e ∈ held s.ledger ↔ e ∈ s.tables.flatten ∨ e ∈ leaked := fun e =>
    h.accounts.owns.mem_held.trans Multiset.mem_add
  constructor
  · intro hfreed
    by_contra hleaks
    obtain ⟨e, he⟩ := Multiset.exists_mem_of_ne_zero hleaks
    have hin : e ∈ held s.ledger := (hheld e).mpr (.inr he)
    have hpos := hlawful.acquires_pos hin
    rcases hfreed e hpos with ⟨⟨table, htable, hmem⟩, -⟩ | ⟨-, hreleased⟩
    · have hdisjoint := (Multiset.nodup_add.mp h.accounts.owns.nodup).2.2
      exact Multiset.disjoint_left.mp hdisjoint
        (List.mem_flatten.mpr ⟨table, htable, hmem⟩) he
    · have hzero := hlawful.releases_eq_zero (hone e hpos) hin
      omega
  · rintro rfl e hpos
    by_cases hin : e ∈ held s.ledger
    · rcases (hheld e).mp hin with hmem | hmem
      · exact .inl ⟨List.mem_flatten.mp hmem, hlawful.releases_eq_zero (hone e hpos) hin⟩
      · exact (Multiset.notMem_zero e hmem).elim
    · refine .inr ⟨fun table htable hmem => ?_, hlawful.releases_eq_one (hone e hpos) hin⟩
      exact hin ((hheld e).mpr (.inl (List.mem_flatten.mpr ⟨table, htable, hmem⟩)))

/-- A destroyed output has a record of as many encoders as its table, and one without a record
an empty table. -/
def Matches (s : Heads) : HeadCall → Prop
  | .destroy i => s.crashed = false → ∀ output table, s.screen.outputs[i]? = some output →
      s.tables[i]? = some table → countEncoders output = table.length
  | _ => True

theorem Kept.of_keeps {s t : Heads} {leaked : Multiset Nat} (hs : Holds s leaked) (hkept : Kept s)
    (hrunning : s.crashed = false) (h : Keeps s t leaked) : Kept t := by
  obtain ⟨hwalks, leaked', hholds, hsame⟩ := h
  refine ⟨hwalks ▸ hkept.inside, fun hcrash => hholds.freed_iff.mpr ?_⟩
  exact (hsame hcrash).trans (hs.freed_iff.mp (hkept.freed hrunning))

theorem step_holds {s : Heads} (h : ∃ leaked, Holds s leaked) (call : HeadCall) :
    ∃ leaked, Holds (step s call) leaked := by
  obtain ⟨leaked, hs⟩ := h
  unfold step
  split
  · exact ⟨leaked, hs⟩
  · cases call with
    | detect i koutput =>
        refine ⟨leaked, hs.aligned.trans ?_, hs.accounts.owns, hs.accounts.once⟩
        exact (List.length_modify ..).symm
    | uevent e =>
        obtain ⟨-, leaked', hholds, -⟩ := uevents_keeps e hs
        exact ⟨leaked', hholds⟩
    | destroy i =>
        cases houtput : s.screen.outputs[i]? with
        | none =>
            dsimp only
            rw [drmmodeOutputDestroy, houtput]
            exact ⟨leaked, hs⟩
        | some output =>
            obtain ⟨table, htable⟩ := hs.table houtput
            exact ⟨_, (destroy_holds hs houtput htable).2.2⟩

/-- **Destroying an output** walks past the end of a table that is too short, and leaks from one
that is too long. -/
theorem destroy_kept_iff {s : Heads} {leaked : Multiset Nat} (hs : Holds s leaked)
    (hkept : Kept s) (hrunning : s.crashed = false) {i : Nat} {output : Output}
    {table : List Nat} (houtput : s.screen.outputs[i]? = some output)
    (htable : s.tables[i]? = some table) :
    Kept (drmmodeOutputDestroy s i) ↔ Matches s (.destroy i) := by
  obtain ⟨hwalks, hcrashed, hholds⟩ := destroy_holds hs houtput htable
  have hnone : leaked = 0 := hs.freed_iff.mp (hkept.freed hrunning)
  have hmatches : Matches s (.destroy i) ↔ countEncoders output = table.length := by
    constructor
    · intro h
      exact h hrunning output table houtput htable
    · intro h _ output' table' houtput' htable'
      cases houtput.symm.trans houtput'
      cases htable.symm.trans htable'
      exact h
  have hinside : (∀ w ∈ (drmmodeOutputDestroy s i).walks, w.1 < w.2) ↔
      countEncoders output ≤ table.length := by
    rw [hwalks]
    constructor
    · intro h
      by_contra hlong
      have hlast : (table.length, table.length) ∈
          (List.range (countEncoders output)).map (fun i => (i, table.length)) ++ s.walks :=
        List.mem_append_left _ (List.mem_map.mpr
          ⟨table.length, List.mem_range.mpr (Nat.not_le.mp hlong), rfl⟩)
      exact Nat.lt_irrefl _ (h _ hlast)
    · intro hle w hw
      rcases List.mem_append.mp hw with hnew | hold
      · obtain ⟨k, hk, rfl⟩ := List.mem_map.mp hnew
        exact Nat.lt_of_lt_of_le (List.mem_range.mp hk) hle
      · exact hkept.inside w hold
  have hleaks : (table.drop (countEncoders output) : Multiset Nat) + leaked = 0 ↔
      table.length ≤ countEncoders output := by
    rw [hnone, Multiset.add_zero, Multiset.coe_eq_zero, List.drop_eq_nil_iff]
  rw [hmatches]
  constructor
  · intro h
    have hle := hinside.mp h.inside
    have hge := hleaks.mp (hholds.freed_iff.mp (h.freed (hcrashed.trans hrunning)))
    exact Nat.le_antisymm hle hge
  · intro heq
    exact ⟨hinside.mpr heq.le, fun _ => hholds.freed_iff.mpr (hleaks.mpr heq.ge)⟩

/-- **One call** keeps exactly if an output that it destroys has a record that matches. -/
theorem step_kept_iff {s : Heads} (h : ∃ leaked, Holds s leaked) (hkept : Kept s)
    (call : HeadCall) : Kept (step s call) ↔ Matches s call := by
  obtain ⟨leaked, hs⟩ := h
  cases hcrash : s.crashed with
  | true =>
      unfold step
      rw [if_pos hcrash]
      refine iff_of_true hkept ?_
      cases call with
      | detect i koutput => trivial
      | uevent e => trivial
      | destroy i => exact fun hrunning => by rw [hcrash] at hrunning; cases hrunning
  | false =>
      unfold step
      rw [if_neg (hcrash ▸ Bool.false_ne_true)]
      cases call with
      | detect i koutput =>
          refine iff_of_true ⟨hkept.inside, hkept.freed⟩ trivial
      | uevent e =>
          exact iff_of_true (hkept.of_keeps hs hcrash (uevents_keeps e hs)) trivial
      | destroy i =>
          cases houtput : s.screen.outputs[i]? with
          | none =>
              dsimp only
              rw [drmmodeOutputDestroy, houtput]
              exact iff_of_true hkept fun _ output table hsome _ => by
                rw [houtput] at hsome
                cases hsome
          | some output =>
              obtain ⟨table, htable⟩ := hs.table houtput
              exact destroy_kept_iff hs hkept hcrash houtput htable

/-- **The tables are kept** exactly if every output that is destroyed has a record that matches
its table by then. -/
theorem tables_kept_iff (options : Options) (assigned : Assigned) (res : TableResources)
    (calls : List HeadCall) :
    Always step Kept (drmmodePreInit (.start options) assigned res).1 calls ↔
      Guarded step Matches (drmmodePreInit (.start options) assigned res).1 calls := by
  obtain ⟨hinside, leaked, hholds, hnone⟩ := preInit_holds options assigned res
  exact always_iff_guarded (I := fun s => ∃ leaked, Holds s leaked)
    (fun _ call hs => step_holds hs call) (fun _ call hs hkept => step_kept_iff hs hkept call)
    ⟨leaked, hholds⟩ ⟨hinside, fun hcrash => hholds.freed_iff.mpr (hnone hcrash)⟩ calls

/-- A VGA connector with these encoders. -/
def vga (encoders : List (BitVec 32)) : Connector := ⟨1, 1, none, false, encoders⟩

/-- One connector, number 7, with one encoder, and no CRTC. -/
def oneConnector : TableResources where
  connectors := [(7#32, ⟨some (vga [1#32]), true, 1, true, true, 0⟩)]
  crtcs := []
  connectors_ne := by decide

/-- With an encoder more in the record the walk leaves the table, and without a record the
encoder is leaked. -/
theorem grown_or_lost :
    let s := (drmmodePreInit (.start ⟨false, 0, false, none, false, false⟩) 0 oneConnector).1
    ¬Always step Kept s [.detect 0 (some (vga [1#32, 2#32])), .destroy 0] ∧
      ¬Always step Kept s [.detect 0 none, .destroy 0] := by
  constructor
  · intro h
    exact absurd (h.last.inside (1, 1) (by decide)) (by decide)
  · intro h
    exact absurd (h.last.freed (by decide) 0 (by decide)) (by decide)

end LoongsonVideo.Driver.EncoderTables
