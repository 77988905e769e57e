import LoongsonVideo.Verified.Machine

/-!
# Atoms of output properties

`drmmode_output_create_resources` of `src/drmmode_display.c` keeps the connector properties that
the kernel reports and makes an array of atoms for some of them: the name of the property first,
then the names of its enumeration.  `drmmode_output_update_properties` and
`drmmode_output_set_property` index these arrays later.

Both the creation and the update tell RandR a value with `RRChangeOutputProperty(…, FALSE, TRUE)`,
and RandR asks the driver to set it before that returns: `drmmode_output_set_property` runs over
all properties in the middle of the loop, where those still to come have no array.

* `createProp_inside_iff`, `updateProp_inside_iff`, `setProperty_inside_iff`: what one function
  does.
* `atoms_indexed_iff`: a run of them.
* `known_kinds_run`: connectors with which no run goes wrong.
-/

namespace LoongsonVideo.Driver.OutputProperty

open LoongsonVideo.Verified.Machine

abbrev Atom := UInt32

/-- `struct drm_mode_property_enum`. -/
structure PropertyEnum where
  value : UInt64
  name : String
  deriving DecidableEq, Repr

/-- `drmModePropertyRes`; `count_enums` is the length of the list. -/
structure DrmModeProperty where
  propId : UInt32
  flags : UInt32
  name : String
  enums : List PropertyEnum
  deriving DecidableEq, Repr

/-- `DRM_MODE_PROP_RANGE` and so on. -/
def drmModePropRange : UInt32 := 0x2
def drmModePropEnum : UInt32 := 0x8
def drmModePropBlob : UInt32 := 0x10

def DrmModeProperty.has (prop : DrmModeProperty) (flag : UInt32) : Bool := prop.flags &&& flag != 0

/-- `drmmode_property_ignore`. -/
def drmmodePropertyIgnore : Option DrmModeProperty → Bool
  | none => true
  | some prop =>
      if prop.has drmModePropBlob then true
      else prop.name == "EDID" || prop.name == "DPMS" || prop.name == "CRTC_ID"

/-- `drmmode_prop_rec`.  `atoms` is `none` for NULL, else the array that was allocated. -/
structure DrmmodeProp where
  modeProp : DrmModeProperty
  value : UInt64
  numAtoms : Nat
  atoms : Option (List Atom)
  deriving DecidableEq, Repr

/-- `p->atoms[k]` where it is read or written, with `p` as it is then. -/
structure Access where
  p : DrmmodeProp
  k : Nat
  deriving DecidableEq, Repr

/-- The access is to an array that is there, below its length and below `num_atoms`. -/
def Access.Inside (a : Access) : Prop :=
  ∃ atoms, a.p.atoms = some atoms ∧ a.k < a.p.numAtoms ∧ a.k < atoms.length

instance (a : Access) : Decidable a.Inside :=
  decidable_of_iff
    (a.p.atoms.any (fun atoms => a.k < a.p.numAtoms && a.k < atoms.length) = true)
    (by simp [Access.Inside, Option.any_eq_true])

/-- All accesses are inside. -/
def Inside (accesses : List Access) : Prop := ∀ a ∈ accesses, a.Inside

instance (accesses : List Access) : Decidable (Inside accesses) :=
  inferInstanceAs (Decidable (∀ a ∈ accesses, a.Inside))

/-- The value of `p->atoms[k]`; what lies outside is taken as 0. -/
def DrmmodeProp.atom (p : DrmmodeProp) (k : Nat) : Atom := (p.atoms.getD []).getD k 0

/-- Where the loops over the enumeration stop: at the value, or at `count_enums`. -/
def DrmModeProperty.enumIndex (prop : DrmModeProperty) (value : UInt64) : Nat :=
  prop.enums.findIdx (·.value == value)

/-! ## drmmode_output_set_property -/

/-- `RRPropertyValueRec`; `data` is its first four bytes. -/
structure RRPropertyValue where
  type : Atom
  format : Nat
  size : Nat
  data : UInt32
  deriving DecidableEq, Repr

def xaAtom : Atom := 4
def xaInteger : Atom := 19

/-- A request: the property, its value, and the name of the atom that the value is. -/
structure Request where
  property : Atom
  value : RRPropertyValue
  nameForAtom : Option String
  deriving DecidableEq, Repr

/-- What the function returns and what it sends to the kernel. -/
structure Reply where
  ret : Bool
  sent : Option (UInt32 × UInt64)
  deriving DecidableEq, Repr

/-- The value is one item of 32 bits of the type. -/
def RRPropertyValue.isOne (value : RRPropertyValue) (type : Atom) : Bool :=
  value.type == type && value.format == 32 && value.size == 1

/-- The body of the loop of `drmmode_output_set_property`; `none` goes on to the next property. -/
def trySet (request : Request) (p : DrmmodeProp) : Option Reply :=
  if p.atom 0 ≠ request.property then none
  else if p.modeProp.has drmModePropRange then
    if !request.value.isOne xaInteger then some ⟨false, none⟩
    else some ⟨true, some (p.modeProp.propId, request.value.data.toUInt64)⟩
  else if p.modeProp.has drmModePropEnum then
    if !request.value.isOne xaAtom then some ⟨false, none⟩
    else
      match request.nameForAtom with
      | none => some ⟨false, none⟩
      | some name =>
          (p.modeProp.enums.find? (·.name == name)).map
            fun e => ⟨true, some (p.modeProp.propId, e.value)⟩
  else none

/-- `drmmode_output_set_property`. -/
def setProperty (request : Request) : List DrmmodeProp → Reply × List Access
  | [] => (⟨true, none⟩, [])
  | p :: rest =>
      match trySet request p with
      | some reply => (reply, [⟨p, 0⟩])
      | none => ((setProperty request rest).1, ⟨p, 0⟩ :: (setProperty request rest).2)

/-! ## RRChangeOutputProperty -/

/-- What becomes of one property in a loop: the accesses, and the value RandR is told. -/
structure Turn where
  p : DrmmodeProp
  accesses : List Access
  told : Option (Atom × RRPropertyValue)
  deriving DecidableEq, Repr

/-- RandR is told the value of a range. -/
def tellRange (p : DrmmodeProp) : Atom × RRPropertyValue :=
  (p.atom 0, ⟨xaInteger, 32, 1, p.value.toUInt32⟩)

/-- RandR is told the `k`th name of an enumeration. -/
def tellEnum (p : DrmmodeProp) (k : Nat) : Atom × RRPropertyValue :=
  (p.atom 0, ⟨xaAtom, 32, 1, p.atom (k + 1)⟩)

/-- The request that `RRChangeOutputProperty(…, FALSE, TRUE)` makes of the driver.  RandR may give
up before that, which is `none`; else the answer has what `NameForAtom` knows of the value. -/
def rrChangeOutputProperty (answer : Option (Option String))
    (told : Option (Atom × RRPropertyValue)) : Option Request :=
  match told, answer with
  | some (property, value), some name => some ⟨property, value, name⟩
  | _, _ => none

/-- The accesses of the request, if it is made. -/
def asked (request : Option Request) (props : List DrmmodeProp) : List Access :=
  match request with
  | none => []
  | some request => (setProperty request props).2

/-- The properties of an output and the accesses made so far. -/
structure Output where
  props : List DrmmodeProp
  accesses : List Access
  deriving DecidableEq, Repr

/-- A loop over the properties: each has its turn, and RandR may ask back with the ones before it
done and the ones after it as they are. -/
def propLoop {α : Type} (turn : DrmmodeProp → α → Turn) (answer : α → Option (Option String)) :
    List DrmmodeProp → List (DrmmodeProp × α) → Output
  | done, [] => ⟨done, []⟩
  | done, (p, a) :: rest =>
      let t := turn p a
      let output := propLoop turn answer (done ++ [t.p]) rest
      let request := rrChangeOutputProperty (answer a) t.told
      ⟨output.props,
        t.accesses ++ asked request (done ++ t.p :: rest.map Prod.fst) ++ output.accesses⟩

/-! ## drmmode_output_create_resources -/

/-- What the kernel reports of a property, whether its array can be allocated, and what RandR does
when it is told the value. -/
structure Reported where
  prop : Option DrmModeProperty
  value : UInt64
  callocOk : Bool
  answer : Option (Option String)
  deriving DecidableEq, Repr

/-- The first loop of `drmmode_output_create_resources`, for one property. -/
def keepProp (r : Reported) : Option DrmmodeProp :=
  if drmmodePropertyIgnore r.prop then none else r.prop.map (⟨·, r.value, 0, none⟩)

section Create

variable (makeAtom : String → Atom)

/-- The loop that stores the atoms of the enumeration from `atoms[j]` on. -/
def storeEnums : List PropertyEnum → Nat → List Atom → List Atom
  | [], _, atoms => atoms
  | e :: rest, j, atoms => storeEnums rest (j + 1) (atoms.set j (makeAtom e.name))

/-- A range with its array of one atom. -/
def DrmmodeProp.makeRange (p : DrmmodeProp) : DrmmodeProp :=
  { p with numAtoms := 1, atoms := some ((List.replicate 1 0).set 0 (makeAtom p.modeProp.name)) }

/-- An enumeration with its array. -/
def DrmmodeProp.makeEnum (p : DrmmodeProp) : DrmmodeProp :=
  { p with
    numAtoms := p.modeProp.enums.length + 1
    atoms := some (storeEnums makeAtom p.modeProp.enums 1
      ((List.replicate (p.modeProp.enums.length + 1) 0).set 0 (makeAtom p.modeProp.name))) }

/-- The accesses to `atoms[1]` and so on, one for each name. -/
def enumAccesses (p : DrmmodeProp) : List Access :=
  (List.range p.modeProp.enums.length).map fun j => ⟨p, j + 1⟩

/-- The second loop of `drmmode_output_create_resources`, for one property: `atoms` is filled
and given to `RRConfigureOutputProperty` and `RRChangeOutputProperty`. -/
def createProp (callocOk : Bool) (p : DrmmodeProp) : Turn :=
  if p.modeProp.has drmModePropRange then
    if !callocOk then ⟨{ p with numAtoms := 1 }, [], none⟩
    else
      let p := p.makeRange makeAtom
      ⟨p, [⟨p, 0⟩] ++ [⟨p, 0⟩] ++ [⟨p, 0⟩], some (tellRange p)⟩
  else if p.modeProp.has drmModePropEnum then
    if !callocOk then ⟨{ p with numAtoms := p.modeProp.enums.length + 1 }, [], none⟩
    else
      let p := p.makeEnum makeAtom
      let k := p.modeProp.enumIndex p.value
      -- there's always a matching value, the source says
      ⟨p, (⟨p, 0⟩ :: enumAccesses p) ++ (⟨p, 0⟩ :: enumAccesses p) ++ [⟨p, 0⟩, ⟨p, k + 1⟩],
        some (tellEnum p k)⟩
  else ⟨p, [], none⟩

end Create

/-! ## drmmode_output_update_properties -/

/-- The inner loop of `drmmode_output_update_properties`: the property with the values that the
kernel gave last. -/
def updateProp (koutput : List (UInt32 × UInt64)) (p : DrmmodeProp) : Turn :=
  match koutput.find? (·.1 == p.modeProp.propId) with
  | none => ⟨p, [], none⟩
  | some found =>
      if found.2 = p.value then ⟨p, [], none⟩
      else
        let p := { p with value := found.2 }
        if p.modeProp.has drmModePropRange then ⟨p, [⟨p, 0⟩], some (tellRange p)⟩
        else if p.modeProp.has drmModePropEnum then
          let k := p.modeProp.enumIndex p.value
          if k < p.modeProp.enums.length then ⟨p, [⟨p, 0⟩, ⟨p, k + 1⟩], some (tellEnum p k)⟩
          else ⟨p, [], none⟩
        else ⟨p, [], none⟩

/-! ## Runs -/

/-- The properties that `drmmode_output_create_resources` keeps, with what was reported of them. -/
def kept (reported : List Reported) : List (DrmmodeProp × Reported) :=
  reported.filterMap fun r => (keepProp r).map (·, r)

/-- `drmmode_output_create_resources`, on an output that was just made: `num_props` is 0. -/
def createResources (makeAtom : String → Atom) (callocOk : Bool) (reported : List Reported) :
    Output :=
  if !callocOk then ⟨[], []⟩
  else propLoop (fun p r => createProp makeAtom r.callocOk p) Reported.answer [] (kept reported)

/-- `drmmode_output_update_properties`; RandR's answers are by the index of the property. -/
def updateProperties (koutput : List (UInt32 × UInt64)) (answers : Nat → Option (Option String))
    (props : List DrmmodeProp) : Output :=
  propLoop (fun p _ => updateProp koutput p) answers [] props.zipIdx

/-- A later call: the update with the connector as it was last read, `none` for NULL, or a
request. -/
inductive Call where
  | updateProperties (koutput : Option (List (UInt32 × UInt64)))
      (answers : Nat → Option (Option String))
  | setProperty (request : Request)

/-- One call. -/
def step (output : Output) : Call → Output
  | .updateProperties none _ => output
  | .updateProperties (some koutput) answers =>
      let updated := updateProperties koutput answers output.props
      ⟨updated.props, output.accesses ++ updated.accesses⟩
  | .setProperty request =>
      ⟨output.props, output.accesses ++ (setProperty request output.props).2⟩

/-! ## The condition -/

/-- A property whose changes are told to RandR: a range, or an enumeration with the value. -/
def Told (prop : DrmModeProperty) (value : UInt64) : Prop :=
  prop.has drmModePropRange = true ∨
    prop.has drmModePropEnum = true ∧ ∃ e ∈ prop.enums, e.value = value

/-- Each property has its array that a request gets to before one answers it. -/
def Answered (request : Request) : List DrmmodeProp → Prop
  | [] => True
  | p :: rest => p.atoms ≠ none ∧ (trySet request p = none → Answered request rest)

/-- An enumeration whose array can be allocated has the kernel's value; and what RandR asks in
between is answered by the properties that have their arrays by then. -/
def CreateFine (makeAtom : String → Atom) (callocOk : Bool) (reported : List Reported) : Prop :=
  callocOk = true → ∀ before p r after, kept reported = before ++ (p, r) :: after →
    (r.callocOk = true → p.modeProp.has drmModePropEnum = true → Told p.modeProp p.value) ∧
    ∀ request ∈ rrChangeOutputProperty r.answer (createProp makeAtom r.callocOk p).told,
      Answered request (before.map (fun x => (createProp makeAtom x.2.callocOk x.1).p) ++
        (createProp makeAtom r.callocOk p).p :: after.map Prod.fst)

/-- The call meets no property without an array: an update changes none to a value that RandR
is told, and a request, RandR's own too, is answered before it gets to one. -/
def CallFine (output : Output) : Call → Prop
  | .updateProperties none _ => True
  | .updateProperties (some koutput) answers =>
      ∀ p i, (p, i) ∈ output.props.zipIdx →
        (p.atoms = none → ∀ found, koutput.find? (·.1 == p.modeProp.propId) = some found →
          found.2 ≠ p.value → ¬Told p.modeProp found.2) ∧
        ∀ request ∈ rrChangeOutputProperty (answers i) (updateProp koutput p).told,
          Answered request output.props
  | .setProperty request => Answered request output.props

/-! ## Arrays -/

section Inside

@[simp] theorem inside_nil : Inside [] := fun _ h => absurd h List.not_mem_nil

@[simp] theorem inside_cons {a : Access} {accesses : List Access} :
    Inside (a :: accesses) ↔ a.Inside ∧ Inside accesses := List.forall_mem_cons

@[simp] theorem inside_append {xs ys : List Access} :
    Inside (xs ++ ys) ↔ Inside xs ∧ Inside ys := List.forall_mem_append

theorem inside_flatMap {α : Type*} {f : α → List Access} {l : List α} :
    Inside (l.flatMap f) ↔ ∀ x ∈ l, Inside (f x) := by
  induction l with
  | nil => simp
  | cons x l ih => rw [List.flatMap_cons, inside_append, ih, List.forall_mem_cons]

/-- The array of a property, once it has been made: none, or one as long as `num_atoms`, which
is 1 for a range and one more than the names for an enumeration. -/
def Made (p : DrmmodeProp) : Prop :=
  ∀ atoms, p.atoms = some atoms → p.numAtoms = atoms.length ∧
    ((p.modeProp.has drmModePropRange = true ∧ p.numAtoms = 1) ∨
      (p.modeProp.has drmModePropRange = false ∧ p.modeProp.has drmModePropEnum = true ∧
        p.numAtoms = p.modeProp.enums.length + 1))

theorem Made.inside_iff {p : DrmmodeProp} (h : Made p) (k : Nat) :
    Access.Inside ⟨p, k⟩ ↔ p.atoms ≠ none ∧ k < p.numAtoms := by
  constructor
  · rintro ⟨atoms, hatoms, hk, _⟩
    exact ⟨Option.ne_none_iff_exists'.mpr ⟨atoms, hatoms⟩, hk⟩
  · intro hk
    obtain ⟨atoms, hatoms⟩ := Option.ne_none_iff_exists'.mp hk.1
    exact ⟨atoms, hatoms, hk.2, (h atoms hatoms).1 ▸ hk.2⟩

/-- The first place is inside whenever there is an array. -/
theorem Made.first_inside_iff {p : DrmmodeProp} (h : Made p) :
    Access.Inside ⟨p, 0⟩ ↔ p.atoms ≠ none := by
  rw [h.inside_iff, and_iff_left_iff_imp]
  intro hatoms
  obtain ⟨atoms, hatoms⟩ := Option.ne_none_iff_exists'.mp hatoms
  obtain ⟨_, ⟨_, hnum⟩ | ⟨_, _, hnum⟩⟩ := h atoms hatoms
  · omega
  · omega

theorem enumIndex_lt_iff (prop : DrmModeProperty) (value : UInt64) :
    prop.enumIndex value < prop.enums.length ↔ ∃ e ∈ prop.enums, e.value = value := by
  rw [DrmModeProperty.enumIndex, List.findIdx_lt_length]
  simp only [beq_iff_eq]

end Inside

/-! ## Each function -/

section Create

variable (makeAtom : String → Atom)

theorem storeEnums_length (enums : List PropertyEnum) (j : Nat) (atoms : List Atom) :
    (storeEnums makeAtom enums j atoms).length = atoms.length := by
  induction enums generalizing j atoms with
  | nil => rfl
  | cons e rest ih => rw [storeEnums, ih, List.length_set]

theorem makeRange_made {p : DrmmodeProp} (h : p.modeProp.has drmModePropRange = true) :
    Made (p.makeRange makeAtom) := by
  intro atoms hatoms
  obtain rfl := Option.some.inj hatoms
  exact ⟨rfl, Or.inl ⟨h, rfl⟩⟩

theorem makeEnum_made {p : DrmmodeProp} (hrange : p.modeProp.has drmModePropRange = false)
    (henum : p.modeProp.has drmModePropEnum = true) : Made (p.makeEnum makeAtom) := by
  intro atoms hatoms
  obtain rfl := Option.some.inj hatoms
  refine ⟨?_, Or.inr ⟨hrange, henum, rfl⟩⟩
  rw [storeEnums_length makeAtom, List.length_set, List.length_replicate]
  rfl

theorem createProp_made (callocOk : Bool) {p : DrmmodeProp} (hnone : p.atoms = none) :
    Made (createProp makeAtom callocOk p).p := by
  have habsent : ∀ n, Made { p with numAtoms := n } := by
    intro n atoms hatoms
    rw [hnone] at hatoms
    cases hatoms
  rw [createProp]
  cases hrange : p.modeProp.has drmModePropRange with
  | true =>
      cases callocOk with
      | false => exact habsent 1
      | true => exact makeRange_made makeAtom hrange
  | false =>
      cases henum : p.modeProp.has drmModePropEnum with
      | false => exact habsent p.numAtoms
      | true =>
          cases callocOk with
          | false => exact habsent _
          | true => exact makeEnum_made makeAtom hrange henum

/-- All names have their places. -/
theorem enumAccesses_inside {p : DrmmodeProp} (hmade : Made p) (hatoms : p.atoms ≠ none)
    (hnum : p.numAtoms = p.modeProp.enums.length + 1) : Inside (enumAccesses p) := by
  intro a ha
  obtain ⟨j, hj, rfl⟩ := List.mem_map.mp ha
  have hlt := List.mem_range.mp hj
  exact (hmade.inside_iff _).mpr ⟨hatoms, by omega⟩

/-- **Creating a property** goes wrong for an enumeration without the value. -/
theorem createProp_inside_iff (callocOk : Bool) (p : DrmmodeProp) :
    Inside (createProp makeAtom callocOk p).accesses ↔
      (callocOk = true → p.modeProp.has drmModePropEnum = true → Told p.modeProp p.value) := by
  rw [createProp]
  cases hrange : p.modeProp.has drmModePropRange with
  | true =>
      refine iff_of_true ?_ fun _ _ => Or.inl hrange
      cases callocOk with
      | false => exact inside_nil
      | true =>
          have hfirst := (makeRange_made makeAtom hrange).first_inside_iff.mpr
            (Option.some_ne_none _)
          simp [hfirst]
  | false =>
      cases henum : p.modeProp.has drmModePropEnum with
      | false => exact iff_of_true inside_nil fun _ h => absurd h Bool.false_ne_true
      | true =>
          cases callocOk with
          | false => exact iff_of_true inside_nil fun h => absurd h Bool.false_ne_true
          | true =>
              have hmade := makeEnum_made makeAtom hrange henum
              have hatoms : (p.makeEnum makeAtom).atoms ≠ none := Option.some_ne_none _
              have hfirst := hmade.first_inside_iff.mpr hatoms
              have hnames := enumAccesses_inside hmade hatoms rfl
              have hlast : Access.Inside ⟨p.makeEnum makeAtom, p.modeProp.enumIndex p.value + 1⟩ ↔
                  Told p.modeProp p.value := by
                rw [hmade.inside_iff, Told, hrange, henum, ← enumIndex_lt_iff]
                have hnum : (p.makeEnum makeAtom).numAtoms = p.modeProp.enums.length + 1 := rfl
                simp [hatoms, hnum]
              have hsame : (p.makeEnum makeAtom).modeProp = p.modeProp := rfl
              have hvalue : (p.makeEnum makeAtom).value = p.value := rfl
              simp [hfirst, hnames, hsame, hvalue, hlast]

end Create

theorem not_told {prop : DrmModeProperty} {value : UInt64}
    (hrange : prop.has drmModePropRange = false)
    (hlisted : prop.has drmModePropEnum = true → ¬∃ e ∈ prop.enums, e.value = value) :
    ¬Told prop value := by
  intro htold
  rcases htold with h | ⟨henum, h⟩
  · rw [hrange] at h
    cases h
  · exact hlisted henum h

/-- **An update** goes wrong for a property without an array, when its new value is told. -/
theorem updateProp_inside_iff (koutput : List (UInt32 × UInt64)) {p : DrmmodeProp} (h : Made p) :
    Inside (updateProp koutput p).accesses ↔
      (p.atoms = none → ∀ found, koutput.find? (·.1 == p.modeProp.propId) = some found →
        found.2 ≠ p.value → ¬Told p.modeProp found.2) := by
  rw [updateProp]
  cases hfound : koutput.find? (·.1 == p.modeProp.propId) with
  | none => exact iff_of_true inside_nil fun _ _ h => by cases h
  | some found =>
      simp only [Option.some.injEq, forall_eq']
      by_cases hsame : found.2 = p.value
      · rw [if_pos hsame]
        exact iff_of_true inside_nil fun _ hne => absurd hsame hne
      · rw [if_neg hsame]
        have hnew : Made { p with value := found.2 } := h
        have hfirst := hnew.first_inside_iff
        cases hrange : p.modeProp.has drmModePropRange with
        | true =>
            have htold : Told p.modeProp found.2 := Or.inl hrange
            simp [hfirst, hsame, htold]
        | false =>
            cases henum : p.modeProp.has drmModePropEnum with
            | false =>
                have htold : ¬Told p.modeProp found.2 :=
                  not_told hrange fun h => absurd (henum.symm.trans h) Bool.false_ne_true
                exact iff_of_true inside_nil fun _ _ => htold
            | true =>
                have hindex := enumIndex_lt_iff p.modeProp found.2
                by_cases hlt : p.modeProp.enumIndex found.2 < p.modeProp.enums.length
                · have htold : Told p.modeProp found.2 := Or.inr ⟨henum, hindex.mp hlt⟩
                  have hname : Access.Inside ⟨{ p with value := found.2 },
                      p.modeProp.enumIndex found.2 + 1⟩ ↔ p.atoms ≠ none := by
                    rw [hnew.inside_iff, and_iff_left_iff_imp]
                    intro hatoms
                    obtain ⟨atoms, hatoms⟩ := Option.ne_none_iff_exists'.mp hatoms
                    obtain ⟨_, ⟨hno, _⟩ | ⟨_, _, hnum⟩⟩ := h atoms hatoms
                    · exact absurd (hrange.symm.trans hno) Bool.false_ne_true
                    · simp only [hnum]
                      omega
                  simp [hlt, hfirst, hname, hsame, htold]
                · have htold : ¬Told p.modeProp found.2 :=
                    not_told hrange fun _ hlisted => hlt (hindex.mpr hlisted)
                  simp [hlt, htold]

/-- An update changes the value only. -/
theorem updateProp_value (koutput : List (UInt32 × UInt64)) (p : DrmmodeProp) :
    ∃ v, (updateProp koutput p).p = { p with value := v } := by
  rw [updateProp]
  split
  · exact ⟨p.value, rfl⟩
  · next found _ =>
      split
      · exact ⟨p.value, rfl⟩
      · refine ⟨found.2, ?_⟩
        dsimp only
        split
        · rfl
        · split
          · split
            · rfl
            · rfl
          · rfl

theorem updateProp_made (koutput : List (UInt32 × UInt64)) {p : DrmmodeProp} (h : Made p) :
    Made (updateProp koutput p).p := by
  obtain ⟨v, hv⟩ := updateProp_value koutput p
  rw [hv]
  exact h

/-! ## Requests -/

/-- **A request** goes wrong when it gets to a property without an array. -/
theorem setProperty_inside_iff (request : Request) {props : List DrmmodeProp}
    (h : ∀ p ∈ props, Made p) :
    Inside (setProperty request props).2 ↔ Answered request props := by
  induction props with
  | nil => exact iff_of_true inside_nil trivial
  | cons p rest ih =>
      obtain ⟨hp, hrest⟩ := List.forall_mem_cons.mp h
      rw [setProperty, Answered, ← hp.first_inside_iff]
      cases htry : trySet request p with
      | some reply => simp
      | none => simp [ih hrest]

/-- What a request sees of a property. -/
def DrmmodeProp.shape (p : DrmmodeProp) : DrmModeProperty × Option (List Atom) :=
  (p.modeProp, p.atoms)

theorem trySet_congr (request : Request) {p q : DrmmodeProp} (h : p.shape = q.shape) :
    trySet request p = trySet request q := by
  obtain ⟨hprop, hatoms⟩ := Prod.mk.inj h
  unfold trySet DrmmodeProp.atom
  rw [hprop, hatoms]

theorem answered_congr (request : Request) {props props' : List DrmmodeProp}
    (h : props.map DrmmodeProp.shape = props'.map DrmmodeProp.shape) :
    Answered request props ↔ Answered request props' := by
  induction props generalizing props' with
  | nil =>
      obtain rfl : props' = [] := List.map_eq_nil_iff.mp h.symm
      rfl
  | cons p rest ih =>
      obtain ⟨q, rest', rfl, hq, hrest⟩ := List.map_eq_cons_iff.mp h.symm
      rw [Answered, Answered, trySet_congr request hq.symm, ih hrest.symm]
      rw [show p.atoms = q.atoms from (Prod.mk.inj hq).2.symm]

/-- Nothing is missing, so nothing can be met. -/
theorem answered_of_arrays (request : Request) {props : List DrmmodeProp}
    (h : ∀ p ∈ props, p.atoms ≠ none) : Answered request props := by
  induction props with
  | nil => trivial
  | cons p rest ih =>
      obtain ⟨hp, hrest⟩ := List.forall_mem_cons.mp h
      exact ⟨hp, fun _ => ih hrest⟩

/-- A property with its array that answers shields what comes after it. -/
theorem answered_append (request : Request) {before after : List DrmmodeProp} {p : DrmmodeProp}
    (hbefore : ∀ q ∈ before, q.atoms ≠ none) (hp : p.atoms ≠ none)
    (hanswer : trySet request p ≠ none) : Answered request (before ++ p :: after) := by
  induction before with
  | nil => exact ⟨hp, fun h => absurd h hanswer⟩
  | cons q before ih =>
      obtain ⟨hq, hbefore⟩ := List.forall_mem_cons.mp hbefore
      exact ⟨hq, fun _ => ih hbefore⟩

theorem asked_inside_iff (request : Option Request) {props : List DrmmodeProp}
    (h : ∀ p ∈ props, Made p) :
    Inside (asked request props) ↔ ∀ r ∈ request, Answered r props := by
  cases request with
  | none => exact iff_of_true inside_nil fun _ h => by cases h
  | some request =>
      rw [asked, setProperty_inside_iff request h]
      simp

/-! ## The loop over the properties -/

section Loop

variable {α : Type} (turn : DrmmodeProp → α → Turn) (answer : α → Option (Option String))

/-- A property after its turn. -/
def turned (x : DrmmodeProp × α) : DrmmodeProp := (turn x.1 x.2).p

theorem propLoop_props (done : List DrmmodeProp) (rest : List (DrmmodeProp × α)) :
    (propLoop turn answer done rest).props = done ++ rest.map (turned turn) := by
  induction rest generalizing done with
  | nil => simp [propLoop]
  | cons x rest ih =>
      obtain ⟨p, a⟩ := x
      rw [propLoop]
      simp [ih, turned]

/-- **A loop** stays inside exactly when every turn does, and every request that RandR makes in
between. -/
theorem propLoop_inside_iff {done : List DrmmodeProp} {rest : List (DrmmodeProp × α)}
    (hdone : ∀ p ∈ done, Made p) (hrest : ∀ x ∈ rest, Made x.1)
    (hturn : ∀ x ∈ rest, Made (turned turn x)) :
    Inside (propLoop turn answer done rest).accesses ↔
      ∀ before p a after, rest = before ++ (p, a) :: after →
        Inside (turn p a).accesses ∧
        ∀ request ∈ rrChangeOutputProperty (answer a) (turn p a).told,
          Answered request
            (done ++ before.map (turned turn) ++ (turn p a).p :: after.map Prod.fst) := by
  induction rest generalizing done with
  | nil =>
      refine iff_of_true inside_nil fun before p a after h => ?_
      simp at h
  | cons x rest ih =>
      obtain ⟨p, a⟩ := x
      obtain ⟨_, hrest⟩ := List.forall_mem_cons.mp hrest
      obtain ⟨hp, hturn⟩ := List.forall_mem_cons.mp hturn
      have hdone' : ∀ q ∈ done ++ [(turn p a).p], Made q := by
        intro q hq
        rcases List.mem_append.mp hq with hq | hq
        · exact hdone q hq
        · exact List.mem_singleton.mp hq ▸ hp
      have hall : ∀ q ∈ done ++ (turn p a).p :: rest.map Prod.fst, Made q := by
        intro q hq
        rcases List.mem_append.mp hq with hq | hq
        · exact hdone q hq
        · rcases List.mem_cons.mp hq with rfl | hq
          · exact hp
          · obtain ⟨y, hy, rfl⟩ := List.mem_map.mp hq
            exact hrest y hy
      rw [propLoop]
      simp only [inside_append]
      rw [asked_inside_iff _ hall, ih hdone' hrest hturn]
      constructor
      · rintro ⟨hfirst, hlater⟩ before q b after hsplit
        rcases List.cons_eq_append_iff.mp hsplit with ⟨rfl, heq⟩ | ⟨before', rfl, heq⟩
        · cases heq
          simpa using hfirst
        · have h := hlater before' q b after heq
          simpa [turned] using h
      · intro h
        refine ⟨by simpa using h [] p a rest rfl, fun before q b after hsplit => ?_⟩
        have h := h ((p, a) :: before) q b after (by rw [hsplit]; rfl)
        simpa [turned] using h

end Loop

/-! ## Runs of calls -/

section Runs

variable (makeAtom : String → Atom)

theorem keepProp_absent {r : Reported} {p : DrmmodeProp} (h : keepProp r = some p) :
    p.atoms = none := by
  rw [keepProp] at h
  split at h
  · cases h
  · obtain ⟨prop, _, rfl⟩ := Option.map_eq_some_iff.mp h
    rfl

theorem kept_mem {reported : List Reported} {p : DrmmodeProp} {r : Reported} :
    (p, r) ∈ kept reported ↔ r ∈ reported ∧ keepProp r = some p := by
  simp only [kept, List.mem_filterMap, Option.map_eq_some_iff, Prod.mk.injEq]
  constructor
  · rintro ⟨r', hr, p', hkeep, rfl, rfl⟩
    exact ⟨hr, hkeep⟩
  · rintro ⟨hr, hkeep⟩
    exact ⟨r, hr, p, hkeep, rfl, rfl⟩

/-- All arrays of an output are as they were made. -/
def AllMade (output : Output) : Prop := ∀ p ∈ output.props, Made p

theorem kept_made (reported : List Reported) : ∀ x ∈ kept reported,
    Made x.1 ∧ Made (turned (fun p r => createProp makeAtom r.callocOk p) x) := by
  rintro ⟨p, r⟩ hx
  have hnone := keepProp_absent (kept_mem.mp hx).2
  refine ⟨fun atoms hatoms => ?_, createProp_made makeAtom r.callocOk hnone⟩
  rw [hnone] at hatoms
  cases hatoms

theorem createResources_props (reported : List Reported) :
    (createResources makeAtom true reported).props =
      (kept reported).map (turned fun p r => createProp makeAtom r.callocOk p) :=
  propLoop_props _ _ [] _

theorem createResources_made (callocOk : Bool) (reported : List Reported) :
    AllMade (createResources makeAtom callocOk reported) := by
  intro p hp
  cases callocOk with
  | false => exact absurd hp List.not_mem_nil
  | true =>
      rw [createResources_props] at hp
      obtain ⟨x, hx, rfl⟩ := List.mem_map.mp hp
      exact (kept_made makeAtom reported x hx).2

theorem createResources_inside_iff (callocOk : Bool) (reported : List Reported) :
    Inside (createResources makeAtom callocOk reported).accesses ↔
      CreateFine makeAtom callocOk reported := by
  cases callocOk with
  | false => exact iff_of_true inside_nil fun h => absurd h Bool.false_ne_true
  | true =>
      have hmade := kept_made makeAtom reported
      have hloop := propLoop_inside_iff (fun p r => createProp makeAtom r.callocOk p)
        Reported.answer (List.forall_mem_nil Made) (fun x hx => (hmade x hx).1)
        (fun x hx => (hmade x hx).2)
      simp only [createResources, Bool.not_true, Bool.false_eq_true, if_false, CreateFine,
        forall_true_left]
      rw [hloop]
      simp only [createProp_inside_iff, List.nil_append]
      rfl

theorem updateProp_shape (koutput : List (UInt32 × UInt64)) (p : DrmmodeProp) :
    (updateProp koutput p).p.shape = p.shape := by
  obtain ⟨v, hv⟩ := updateProp_value koutput p
  rw [hv]
  rfl

theorem updateProperties_props (koutput : List (UInt32 × UInt64))
    (answers : Nat → Option (Option String)) (props : List DrmmodeProp) :
    (updateProperties koutput answers props).props =
      props.map fun p => (updateProp koutput p).p := by
  rw [updateProperties, propLoop_props, List.nil_append]
  show props.zipIdx.map ((fun p => (updateProp koutput p).p) ∘ Prod.fst) = _
  rw [← List.map_map, List.zipIdx_map_fst]

theorem updateProperties_inside_iff (koutput : List (UInt32 × UInt64))
    (answers : Nat → Option (Option String)) {props : List DrmmodeProp}
    (hmade : ∀ p ∈ props, Made p) :
    Inside (updateProperties koutput answers props).accesses ↔
      ∀ p i, (p, i) ∈ props.zipIdx →
        (p.atoms = none → ∀ found, koutput.find? (·.1 == p.modeProp.propId) = some found →
          found.2 ≠ p.value → ¬Told p.modeProp found.2) ∧
        ∀ request ∈ rrChangeOutputProperty (answers i) (updateProp koutput p).told,
          Answered request props := by
  have hmem : ∀ x ∈ props.zipIdx, Made x.1 := fun x hx => hmade x.1 (List.fst_mem_of_mem_zipIdx hx)
  have hloop := propLoop_inside_iff (fun p (_ : Nat) => updateProp koutput p) answers
    (List.forall_mem_nil Made) hmem fun x hx => updateProp_made koutput (hmem x hx)
  rw [updateProperties, hloop]
  -- A turn keeps what a request sees, so it does not matter how far the loop has got.
  have hshape : ∀ before p i after, props.zipIdx = before ++ (p, i) :: after →
      ([] ++ before.map (turned fun p _ => updateProp koutput p) ++
        (updateProp koutput p).p :: after.map Prod.fst).map DrmmodeProp.shape =
          props.map DrmmodeProp.shape := by
    intro before p i after hsplit
    have hprops := congrArg (List.map Prod.fst) hsplit
    rw [List.zipIdx_map_fst] at hprops
    rw [hprops]
    simp [turned, updateProp_shape]
  constructor
  · intro h p i hp
    obtain ⟨before, after, hsplit⟩ := List.append_of_mem hp
    obtain ⟨hturn, hask⟩ := h before p i after hsplit
    refine ⟨(updateProp_inside_iff koutput (hmem _ hp)).mp hturn, fun request hrequest => ?_⟩
    exact (answered_congr request (hshape before p i after hsplit)).mp (hask request hrequest)
  · intro h before p i after hsplit
    have hp : (p, i) ∈ props.zipIdx := by
      rw [hsplit]
      simp
    obtain ⟨hturn, hask⟩ := h p i hp
    refine ⟨(updateProp_inside_iff koutput (hmem _ hp)).mpr hturn, fun request hrequest => ?_⟩
    exact (answered_congr request (hshape before p i after hsplit)).mpr (hask request hrequest)

theorem step_made (output : Output) (call : Call) (h : AllMade output) :
    AllMade (step output call) := by
  cases call with
  | updateProperties koutput answers =>
      cases koutput with
      | none => exact h
      | some koutput =>
          intro p hp
          simp only [step, updateProperties_props] at hp
          obtain ⟨q, hq, rfl⟩ := List.mem_map.mp hp
          exact updateProp_made koutput (h q hq)
  | setProperty request => exact h

/-- **One call** stays inside exactly when it meets no property without an array. -/
theorem step_inside_iff (output : Output) (call : Call) (hmade : AllMade output)
    (h : Inside output.accesses) : Inside (step output call).accesses ↔ CallFine output call := by
  cases call with
  | updateProperties koutput answers =>
      cases koutput with
      | none => exact iff_of_true h trivial
      | some koutput =>
          simp only [step, CallFine]
          rw [inside_append, and_iff_right h]
          exact updateProperties_inside_iff koutput answers hmade
  | setProperty request =>
      simp only [step, CallFine]
      rw [inside_append, and_iff_right h]
      exact setProperty_inside_iff request hmade

/-- **No atom is read or written outside its array** exactly when the kernel reports a listed
value for every enumeration that gets an array, and no request, RandR's own or a later one, gets
to a property without one, and no update tells RandR of one. -/
theorem atoms_indexed_iff (callocOk : Bool) (reported : List Reported)
    (calls : List Call) :
    Always step (fun output => Inside output.accesses)
        (createResources makeAtom callocOk reported) calls ↔
      CreateFine makeAtom callocOk reported ∧
        Guarded step CallFine (createResources makeAtom callocOk reported) calls := by
  have hmade := createResources_made makeAtom callocOk reported
  have hcreate := createResources_inside_iff makeAtom callocOk reported
  constructor
  · intro h
    have hstart := h.head
    have hcalls := (always_iff_guarded step_made step_inside_iff hmade hstart calls).mp h
    exact ⟨hcreate.mp hstart, hcalls⟩
  · intro h
    exact (always_iff_guarded step_made step_inside_iff hmade (hcreate.mpr h.1) calls).mpr h.2

/-- The kinds that get an array. -/
def KnownKind (prop : DrmModeProperty) : Prop :=
  prop.has drmModePropRange = true ∨ prop.has drmModePropEnum = true

theorem createProp_array {p : DrmmodeProp} (h : KnownKind p.modeProp) :
    (createProp makeAtom true p).p.atoms ≠ none := by
  rw [createProp]
  cases hrange : p.modeProp.has drmModePropRange with
  | true => exact Option.some_ne_none _
  | false =>
      have henum : p.modeProp.has drmModePropEnum = true := by
        rcases h with h | h
        · exact absurd (hrange.symm.trans h) Bool.false_ne_true
        · exact h
      simp only [henum]
      exact Option.some_ne_none _

theorem updateProp_atoms (koutput : List (UInt32 × UInt64)) (p : DrmmodeProp) :
    (updateProp koutput p).p.atoms = p.atoms := (Prod.mk.inj (updateProp_shape koutput p)).2

/-- `NameForAtom` gives back a name of the enumeration, if it gives one. -/
def Named (prop : DrmModeProperty) (answer : Option (Option String)) : Prop :=
  ∀ name, answer = some (some name) → ∃ e ∈ prop.enums, e.name = name

/-- A property answers what RandR asks when it is told the property's value. -/
theorem createProp_answers {p : DrmmodeProp} (h : KnownKind p.modeProp)
    {answer : Option (Option String)} (hnamed : Named p.modeProp answer) {request : Request}
    (hrequest : rrChangeOutputProperty answer (createProp makeAtom true p).told = some request) :
    trySet request (createProp makeAtom true p).p ≠ none := by
  cases answer with
  | none =>
      cases htold : (createProp makeAtom true p).told with
      | none => simp [htold, rrChangeOutputProperty] at hrequest
      | some told => simp [htold, rrChangeOutputProperty] at hrequest
  | some name =>
      rw [createProp] at hrequest ⊢
      cases hrange : p.modeProp.has drmModePropRange with
      | true =>
          simp only [hrange, if_true, Bool.not_true, Bool.false_eq_true, if_false,
            rrChangeOutputProperty, tellRange, Option.some.injEq] at hrequest ⊢
          subst hrequest
          have hsame : (p.makeRange makeAtom).modeProp.has drmModePropRange = true := hrange
          simp [trySet, hsame, RRPropertyValue.isOne]
      | false =>
          have henum : p.modeProp.has drmModePropEnum = true := by
            rcases h with h | h
            · exact absurd (hrange.symm.trans h) Bool.false_ne_true
            · exact h
          simp only [hrange, henum, if_true, Bool.not_true, Bool.false_eq_true, if_false,
            rrChangeOutputProperty, tellEnum, Option.some.injEq] at hrequest ⊢
          subst hrequest
          have hsame : (p.makeEnum makeAtom).modeProp = p.modeProp := rfl
          cases name with
          | none => simp [trySet, hsame, hrange, henum, RRPropertyValue.isOne]
          | some name =>
              obtain ⟨e, he, hname⟩ := hnamed name rfl
              have hfound : (p.modeProp.enums.find? (·.name == name)).isSome = true :=
                List.find?_isSome.mpr ⟨e, he, by simpa using hname⟩
              obtain ⟨e', he'⟩ := Option.isSome_iff_exists.mp hfound
              simp [trySet, hsame, hrange, henum, RRPropertyValue.isOne, he']

/-- Every property has its array. -/
def AllArrays (output : Output) : Prop := ∀ p ∈ output.props, p.atoms ≠ none

theorem step_arrays (output : Output) (call : Call) (h : AllArrays output) :
    AllArrays (step output call) := by
  cases call with
  | updateProperties koutput answers =>
      cases koutput with
      | none => exact h
      | some koutput =>
          intro p hp
          simp only [step, updateProperties_props] at hp
          obtain ⟨q, hq, rfl⟩ := List.mem_map.mp hp
          rw [updateProp_atoms]
          exact h q hq
  | setProperty request => exact h

theorem callFine_of_arrays {output : Output} (h : AllArrays output) (call : Call) :
    CallFine output call := by
  cases call with
  | updateProperties koutput answers =>
      cases koutput with
      | none => trivial
      | some koutput =>
          intro p i hp
          refine ⟨fun hnone => absurd hnone (h p (List.fst_mem_of_mem_zipIdx hp)), ?_⟩
          exact fun request _ => answered_of_arrays request h
  | setProperty request => exact answered_of_arrays request h

/-- **No run goes wrong** on a connector of ranges and enumerations that have their values, as
long as there is memory and RandR finds the names it was given. -/
theorem known_kinds_run {reported : List Reported}
    (hkinds : ∀ r ∈ reported, ∀ p, keepProp r = some p → r.callocOk = true ∧
      KnownKind p.modeProp ∧ Told p.modeProp p.value ∧ Named p.modeProp r.answer)
    (calls : List Call) :
    Always step (fun output => Inside output.accesses)
      (createResources makeAtom true reported) calls := by
  have hkept : ∀ x ∈ kept reported, x.2.callocOk = true ∧ KnownKind x.1.modeProp ∧
      Told x.1.modeProp x.1.value ∧ Named x.1.modeProp x.2.answer := by
    rintro ⟨p, r⟩ hx
    obtain ⟨hr, hkeep⟩ := kept_mem.mp hx
    exact hkinds r hr p hkeep
  have hturned : ∀ x ∈ kept reported, (createProp makeAtom x.2.callocOk x.1).p.atoms ≠ none := by
    intro x hx
    obtain ⟨hcalloc, hkind, _⟩ := hkept x hx
    rw [hcalloc]
    exact createProp_array makeAtom hkind
  have harrays : AllArrays (createResources makeAtom true reported) := by
    intro p hp
    rw [createResources_props] at hp
    obtain ⟨x, hx, rfl⟩ := List.mem_map.mp hp
    exact hturned x hx
  have hcreate : CreateFine makeAtom true reported := by
    intro _ before p r after hsplit
    have hmem : ∀ x ∈ before ++ [(p, r)], x ∈ kept reported := by
      intro x hx
      rw [hsplit]
      rcases List.mem_append.mp hx with hx | hx
      · exact List.mem_append_left _ hx
      · exact List.mem_append_right _ (List.mem_singleton.mp hx ▸ List.mem_cons_self)
    obtain ⟨hcalloc, hkind, htold, hnamed⟩ := hkept (p, r) (hmem _ (by simp))
    refine ⟨fun _ _ => htold, fun request hrequest => ?_⟩
    refine answered_append request (fun q hq => ?_) (hturned (p, r) (hmem _ (by simp))) ?_
    · obtain ⟨x, hx, rfl⟩ := List.mem_map.mp hq
      exact hturned x (hmem x (by simp [hx]))
    · simp only at hcalloc
      rw [hcalloc] at hrequest ⊢
      exact createProp_answers makeAtom hkind hnamed hrequest
  have hmade := createResources_made makeAtom true reported
  have hstart := (createResources_inside_iff makeAtom true reported).mpr hcreate
  refine (always_of_step (P := fun output => (AllMade output ∧ AllArrays output) ∧
    Inside output.accesses) ?_ ⟨⟨hmade, harrays⟩, hstart⟩ calls).mono fun _ h => h.2
  intro output call h
  obtain ⟨⟨hmade, harrays⟩, hinside⟩ := h
  exact ⟨⟨step_made output call hmade, step_arrays output call harrays⟩,
    (step_inside_iff output call hmade hinside).mpr (callFine_of_arrays harrays call)⟩

end Runs

/-- A signed range, `DRM_MODE_PROP_SIGNED_RANGE`. -/
def hue : DrmModeProperty := ⟨40, 0x80, "hue", []⟩

/-- A range. -/
def saturation : DrmModeProperty := ⟨42, drmModePropRange, "saturation", []⟩

/-- An enumeration of one name. -/
def scaling : DrmModeProperty := ⟨41, drmModePropEnum, "scaling mode", [⟨0, "None"⟩]⟩

/-- **A request reads the NULL array of a signed range; so does RandR's own while the range after
it is made; an enumeration whose value is not listed is read behind its array.** -/
theorem request_reads_null :
    ¬Always step (fun output => Inside output.accesses)
        (createResources (fun _ => 70) true [⟨some hue, 0, true, some none⟩])
        [.setProperty ⟨70, ⟨xaInteger, 32, 1, 5⟩, none⟩] ∧
      ¬Inside (createResources (fun _ => 70) true
        [⟨some hue, 0, true, some none⟩, ⟨some saturation, 1, true, some none⟩]).accesses ∧
      ¬Inside (createResources (fun _ => 70) true [⟨some scaling, 9, true, none⟩]).accesses := by
  decide +kernel

end LoongsonVideo.Driver.OutputProperty
