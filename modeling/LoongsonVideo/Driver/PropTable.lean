import Mathlib.Algebra.Ring.Nat
import Mathlib.Data.List.Forall2
import Mathlib.Data.List.Nodup
import LoongsonVideo.Driver.OutputProperty

/-!
# Tables of properties

`drmmode_prop_info_update` of `src/drmmode_display.c` fills a table of property ids by name, a
little from each object it is shown; `drmmode_prop_get_value` reads a value of an object through
the table.

* `update_table`, `update_complete`: after an update the table has every property of the object
  that it knows by name.
* `getValue_simple`, `getValue_first_iff`: what is then read.
-/

namespace LoongsonVideo.Driver.PropTable

open LoongsonVideo.Driver.OutputProperty

/-- `drmmode_prop_enum_info_rec`. -/
structure EnumInfo where
  name : String
  valid : Bool
  value : UInt64
  deriving DecidableEq, Repr

/-- `drmmode_prop_info_rec`; `num_enum_values` is the length of the list. -/
structure PropInfo where
  name : String
  propId : UInt32
  enumValues : List EnumInfo
  deriving DecidableEq, Repr

/-- `drmModeObjectProperties`: the ids and values, in the kernel's order. -/
abbrev ObjectProps := List (UInt32 × UInt64)

/-! ## drmmode_prop_get_value -/

/-- A value as the table reads it: itself, or its place among the names of the enumeration;
`none` when it is none of them. -/
def PropInfo.read (info : PropInfo) (value : UInt64) : Option UInt64 :=
  if info.enumValues = [] then some value
  else (info.enumValues.findIdx? fun e => e.valid && e.value == value).map UInt64.ofNat

/-- The loop of `drmmode_prop_get_value`. -/
def getValueLoop (info : PropInfo) (defValue : UInt64) : ObjectProps → UInt64
  | [] => defValue
  | (id, value) :: rest =>
      if id ≠ info.propId then getValueLoop info defValue rest
      else
        match info.read value with
        | some v => v
        | none => getValueLoop info defValue rest

/-- `drmmode_prop_get_value`. -/
def drmmodePropGetValue (info : PropInfo) (props : ObjectProps) (defValue : UInt64) : UInt64 :=
  if info.propId = 0 then defValue else getValueLoop info defValue props

/-! ## drmmode_prop_info_update -/

/-- One value of the enumeration, looked up among the kernel's. -/
def EnumInfo.fill (enums : List PropertyEnum) (e : EnumInfo) : EnumInfo :=
  if e.valid then e
  else
    match enums.find? fun l => l.name == e.name with
    | none => e
    | some l => { e with valid := true, value := l.value }

/-- The entry once its property has been found. -/
def PropInfo.found (info : PropInfo) (id : UInt32) (prop : DrmModeProperty) : PropInfo :=
  if info.enumValues = [] then { info with propId := id }
  else if !prop.has drmModePropEnum then { info with propId := id }
  else { info with propId := id, enumValues := info.enumValues.map (EnumInfo.fill prop.enums) }

/-- The entry of the property's name is found, if there is one. -/
def recordProp (id : UInt32) (prop : DrmModeProperty) : List PropInfo → List PropInfo
  | [] => []
  | info :: rest =>
      if prop.name = info.name then info.found id prop :: rest
      else info :: recordProp id prop rest

/-- `drmmode_prop_info_update`.  It stops at an unknown property when all entries are found. -/
def drmmodePropInfoUpdate (getProperty : UInt32 → Option DrmModeProperty) :
    List PropInfo → ObjectProps → List PropInfo
  | infos, [] => infos
  | infos, (id, _) :: rest =>
      if infos.any (·.propId == id) then drmmodePropInfoUpdate getProperty infos rest
      else if infos.all (·.propId != 0) then infos
      else
        match getProperty id with
        | none => drmmodePropInfoUpdate getProperty infos rest
        | some prop => drmmodePropInfoUpdate getProperty (recordProp id prop infos) rest

/-- `drmmode_prop_info_copy`. -/
def drmmodePropInfoCopy (src : List PropInfo) (copyPropId : Bool) : List PropInfo :=
  src.map fun info =>
    { info with
      propId := if copyPropId then info.propId else 0
      enumValues := info.enumValues.map ({ · with valid := false }) }

/-! ## What a table knows -/

/-- The kernel calls the property so. -/
def Named (getProperty : UInt32 → Option DrmModeProperty) (id : UInt32) (name : String) : Prop :=
  (getProperty id).map DrmModeProperty.name = some name

instance (getProperty : UInt32 → Option DrmModeProperty) (id : UInt32) (name : String) :
    Decidable (Named getProperty id name) := inferInstanceAs (Decidable (_ = _))

/-- The properties of a set of objects are shared: a name of the table has one id. -/
structure Shared (getProperty : UInt32 → Option DrmModeProperty) (ids : List UInt32)
    (names : List String) : Prop where
  ne_zero : ∀ id ∈ ids, id ≠ 0
  unique : ∀ name ∈ names, ∀ a ∈ ids, ∀ b ∈ ids, Named getProperty a name →
    Named getProperty b name → a = b

/-- A table to be filled: its names are distinct and nothing is found yet. -/
structure Blank (template : List PropInfo) : Prop where
  nodup : (template.map PropInfo.name).Nodup
  unset : ∀ t ∈ template, t.propId = 0
  invalid : ∀ t ∈ template, ∀ e ∈ t.enumValues, e.valid = false

/-- An entry is as in the template, or found. -/
def Entry (getProperty : UInt32 → Option DrmModeProperty) (ids : List UInt32) (t i : PropInfo) :
    Prop :=
  i = t ∨ ∃ id ∈ ids, ∃ prop,
    getProperty id = some prop ∧ prop.name = t.name ∧ i = t.found id prop

/-- A table filled from the template. -/
def Table (getProperty : UInt32 → Option DrmModeProperty) (ids : List UInt32)
    (template infos : List PropInfo) : Prop :=
  List.Forall₂ (Entry getProperty ids) template infos

@[simp] theorem found_name (info : PropInfo) (id : UInt32) (prop : DrmModeProperty) :
    (info.found id prop).name = info.name := by
  rw [PropInfo.found]
  split
  · rfl
  · split <;> rfl

@[simp] theorem found_propId (info : PropInfo) (id : UInt32) (prop : DrmModeProperty) :
    (info.found id prop).propId = id := by
  rw [PropInfo.found]
  split
  · rfl
  · split <;> rfl

section Table

variable {getProperty : UInt32 → Option DrmModeProperty} {ids : List UInt32}
  {template infos : List PropInfo} {id : UInt32}

theorem Entry.name {t i : PropInfo} (h : Entry getProperty ids t i) : i.name = t.name := by
  rcases h with rfl | ⟨id, _, prop, _, _, rfl⟩
  · rfl
  · exact found_name t id prop

theorem Table.names (h : Table getProperty ids template infos) :
    infos.map PropInfo.name = template.map PropInfo.name := by
  induction h with
  | nil => rfl
  | cons hentry _ ih => rw [List.map_cons, List.map_cons, hentry.name, ih]

/-- Each entry comes from the template. -/
theorem Table.entry {info : PropInfo} (h : Table getProperty ids template infos)
    (hinfo : info ∈ infos) : ∃ t ∈ template, Entry getProperty ids t info := by
  induction h with
  | nil => exact absurd hinfo List.not_mem_nil
  | cons hentry _ ih =>
      rcases List.mem_cons.mp hinfo with rfl | hrest
      · exact ⟨_, List.mem_cons_self, hentry⟩
      · obtain ⟨t, ht, hentry'⟩ := ih hrest
        exact ⟨t, List.mem_cons_of_mem _ ht, hentry'⟩

/-- The entry at a place comes from the template's there. -/
theorem Table.get {k : Nat} {t : PropInfo} (h : Table getProperty ids template infos)
    (ht : template[k]? = some t) :
    ∃ info, infos[k]? = some info ∧ info ∈ infos ∧ Entry getProperty ids t info := by
  induction h generalizing k with
  | nil => cases ht
  | @cons t' i ts is hentry _ ih =>
      cases k with
      | zero =>
          obtain rfl : t' = t := Option.some.inj ht
          exact ⟨i, rfl, List.mem_cons_self, hentry⟩
      | succ k =>
          obtain ⟨info, hinfo, hmem, hentry'⟩ := ih ht
          exact ⟨info, hinfo, List.mem_cons_of_mem i hmem, hentry'⟩

theorem named_of_eq {prop : DrmModeProperty} {name : String} (h : getProperty id = some prop)
    (hname : prop.name = name) : Named getProperty id name := by
  rw [Named, h, Option.map_some, hname]

/-- An entry that is found names its property. -/
theorem Table.found_named {info : PropInfo} (hblank : Blank template)
    (h : Table getProperty ids template infos) (hinfo : info ∈ infos) (hset : info.propId ≠ 0) :
    info.propId ∈ ids ∧ Named getProperty info.propId info.name := by
  obtain ⟨t, ht, rfl | ⟨id, hid, prop, hprop, hname, rfl⟩⟩ := h.entry hinfo
  · exact absurd (hblank.unset _ ht) hset
  · rw [found_propId, found_name]
    exact ⟨hid, named_of_eq hprop hname⟩

/-- The entry of a property's name is found with its id, if at all. -/
theorem Table.propId_cases {info : PropInfo} (hblank : Blank template)
    (hshared : Shared getProperty ids (template.map PropInfo.name))
    (h : Table getProperty ids template infos) (hinfo : info ∈ infos) (hid : id ∈ ids)
    (hnamed : Named getProperty id info.name) : info.propId = 0 ∨ info.propId = id := by
  by_cases hset : info.propId = 0
  · exact Or.inl hset
  · obtain ⟨hmem, hnamed'⟩ := h.found_named hblank hinfo hset
    have hname : info.name ∈ template.map PropInfo.name :=
      h.names ▸ List.mem_map_of_mem hinfo
    exact Or.inr (hshared.unique info.name hname _ hmem _ hid hnamed' hnamed)

theorem recordProp_mem {prop : DrmModeProperty} {info : PropInfo}
    (h : info ∈ recordProp id prop infos) :
    info ∈ infos ∨ info.name = prop.name ∧ info.propId = id := by
  induction infos with
  | nil => exact absurd h List.not_mem_nil
  | cons i rest ih =>
      rw [recordProp] at h
      split at h
      · next hname =>
          rcases List.mem_cons.mp h with rfl | hrest
          · exact Or.inr ⟨(found_name i id prop).trans hname.symm, found_propId i id prop⟩
          · exact Or.inl (List.mem_cons_of_mem i hrest)
      · rcases List.mem_cons.mp h with rfl | hrest
        · exact Or.inl List.mem_cons_self
        · exact (ih hrest).imp_left (List.mem_cons_of_mem i)

theorem recordProp_found {prop : DrmModeProperty} {info : PropInfo}
    (hnodup : (infos.map PropInfo.name).Nodup) (h : info ∈ recordProp id prop infos)
    (hname : info.name = prop.name) : info.propId = id := by
  induction infos with
  | nil => exact absurd h List.not_mem_nil
  | cons i rest ih =>
      rw [List.map_cons, List.nodup_cons] at hnodup
      rw [recordProp] at h
      split at h
      · next heq =>
          rcases List.mem_cons.mp h with rfl | hrest
          · exact found_propId i id prop
          · have hmem : i.name ∈ rest.map PropInfo.name := by
              rw [← heq, ← hname]
              exact List.mem_map_of_mem hrest
            exact absurd hmem hnodup.1
      · next hne =>
          rcases List.mem_cons.mp h with rfl | hrest
          · exact absurd hname.symm hne
          · exact ih hnodup.2 hrest

/-- **Recording a property** that no entry has keeps the table. -/
theorem recordProp_table {prop : DrmModeProperty} (hid : id ∈ ids)
    (hshared : Shared getProperty ids (template.map PropInfo.name))
    (hprop : getProperty id = some prop) (hnew : ∀ info ∈ infos, info.propId ≠ id)
    (h : Table getProperty ids template infos) :
    Table getProperty ids template (recordProp id prop infos) := by
  have hunique := hshared.unique
  clear hshared
  induction h with
  | nil => exact List.Forall₂.nil
  | @cons t i ts is hentry hrest ih =>
      obtain ⟨hi, his⟩ := List.forall_mem_cons.mp hnew
      rw [recordProp]
      split
      · next hname =>
          have hname' : prop.name = t.name := hname.trans hentry.name
          refine List.Forall₂.cons (Or.inr ⟨id, hid, prop, hprop, hname', ?_⟩) hrest
          rcases hentry with rfl | ⟨id', hid', prop', hprop', hold, rfl⟩
          · rfl
          · have hsame := hunique t.name List.mem_cons_self id' hid' id hid
              (named_of_eq hprop' hold) (named_of_eq hprop hname')
            exact absurd ((found_propId t id' prop').trans hsame) hi
      · exact List.Forall₂.cons hentry
          (ih his fun name hmem => hunique name (List.mem_cons_of_mem _ hmem))

theorem new_of_not_any (h : ¬infos.any (·.propId == id) = true) :
    ∀ info ∈ infos, info.propId ≠ id := by
  intro info hinfo heq
  exact h (List.any_eq_true.mpr ⟨info, hinfo, beq_iff_eq.mpr heq⟩)

/-- The table has the property, if it knows its name. -/
def Complete (getProperty : UInt32 → Option DrmModeProperty) (infos : List PropInfo)
    (id : UInt32) : Prop :=
  ∀ info ∈ infos, Named getProperty id info.name → info.propId = id

variable (hblank : Blank template)
  (hshared : Shared getProperty ids (template.map PropInfo.name))

include hshared

theorem update_table {props : ObjectProps} (hids : ∀ x ∈ props, x.1 ∈ ids)
    (h : Table getProperty ids template infos) :
    Table getProperty ids template (drmmodePropInfoUpdate getProperty infos props) := by
  induction props generalizing infos with
  | nil => exact h
  | cons x rest ih =>
      obtain ⟨hid, hrest⟩ := List.forall_mem_cons.mp hids
      rw [drmmodePropInfoUpdate]
      split
      · exact ih hrest h
      · next hany =>
          have hnew := new_of_not_any hany
          split
          · exact h
          · split
            · exact ih hrest h
            · next prop hprop => exact ih hrest (recordProp_table hid hshared hprop hnew h)

include hblank

/-- What the table has it keeps. -/
theorem update_keeps {props : ObjectProps} (hids : ∀ x ∈ props, x.1 ∈ ids) (hid : id ∈ ids)
    (h : Table getProperty ids template infos) (hcomplete : Complete getProperty infos id) :
    Complete getProperty (drmmodePropInfoUpdate getProperty infos props) id := by
  induction props generalizing infos with
  | nil => exact hcomplete
  | cons x rest ih =>
      obtain ⟨hx, hrest⟩ := List.forall_mem_cons.mp hids
      rw [drmmodePropInfoUpdate]
      split
      · exact ih hrest h hcomplete
      · next hany =>
          have hnew := new_of_not_any hany
          split
          · exact hcomplete
          · split
            · exact ih hrest h hcomplete
            · next prop hprop =>
                have htable := recordProp_table hx hshared hprop hnew h
                refine ih hrest htable fun info hinfo hnamed => ?_
                rcases recordProp_mem hinfo with hold | ⟨_, hset⟩
                · exact hcomplete info hold hnamed
                · rcases htable.propId_cases hblank hshared hinfo hid hnamed with hzero | heq
                  · exact absurd (hset.symm.trans hzero) (hshared.ne_zero x.1 hx)
                  · exact heq

/-- An entry that has the id is the entry of the property's name. -/
theorem complete_of_any (hid : id ∈ ids) (h : Table getProperty ids template infos)
    (hany : infos.any (·.propId == id) = true) : Complete getProperty infos id := by
  intro info hinfo hnamed
  obtain ⟨other, hother, heq⟩ := List.any_eq_true.mp hany
  have hpropId : other.propId = id := beq_iff_eq.mp heq
  have hset : other.propId ≠ 0 := hpropId ▸ hshared.ne_zero id hid
  obtain ⟨_, hnamed'⟩ := h.found_named hblank hother hset
  rw [hpropId] at hnamed'
  have hname : info.name = other.name := Option.some.inj (hnamed.symm.trans hnamed')
  have hnodup : (infos.map PropInfo.name).Nodup := h.names ▸ hblank.nodup
  rw [List.inj_on_of_nodup_map hnodup hinfo hother hname]
  exact hpropId

/-- **An update finds all properties of the object** that the table knows by name. -/
theorem update_complete {props : ObjectProps} (hids : ∀ x ∈ props, x.1 ∈ ids)
    (h : Table getProperty ids template infos) :
    ∀ x ∈ props, Complete getProperty (drmmodePropInfoUpdate getProperty infos props) x.1 := by
  induction props generalizing infos with
  | nil => exact fun x hx => absurd hx List.not_mem_nil
  | cons y rest ih =>
      obtain ⟨hy, hrest⟩ := List.forall_mem_cons.mp hids
      have hnodup : (infos.map PropInfo.name).Nodup := h.names ▸ hblank.nodup
      rw [drmmodePropInfoUpdate]
      split
      · next hany =>
          have hcomplete := complete_of_any hblank hshared hy h hany
          refine List.forall_mem_cons.mpr ⟨?_, ih hrest h⟩
          exact update_keeps hblank hshared hrest hy h hcomplete
      · next hany =>
          split
          · next hall =>
              intro x hx info hinfo hnamed
              rcases h.propId_cases hblank hshared hinfo (hids x hx) hnamed with hzero | heq
              · exact absurd hzero (bne_iff_ne.mp (List.all_eq_true.mp hall info hinfo))
              · exact heq
          · split
            · next hprop =>
                refine List.forall_mem_cons.mpr ⟨?_, ih hrest h⟩
                refine update_keeps hblank hshared hrest hy h fun info _ hnamed => ?_
                rw [Named, hprop] at hnamed
                cases hnamed
            · next prop hprop =>
                have htable := recordProp_table hy hshared hprop (new_of_not_any hany) h
                refine List.forall_mem_cons.mpr ⟨?_, ih hrest htable⟩
                refine update_keeps hblank hshared hrest hy htable fun info hinfo hnamed => ?_
                rw [Named, hprop] at hnamed
                exact recordProp_found hnodup hinfo (Option.some.inj hnamed).symm

end Table

/-! ## What is read through a table -/

section Read

variable {info : PropInfo} {props : ObjectProps} {defValue : UInt64}

theorem getValue_absent (h : ∀ x ∈ props, x.1 ≠ info.propId) :
    drmmodePropGetValue info props defValue = defValue := by
  rw [drmmodePropGetValue]
  split
  · rfl
  · induction props with
    | nil => rfl
    | cons x rest ih =>
        obtain ⟨hx, hrest⟩ := List.forall_mem_cons.mp h
        rw [getValueLoop, if_pos hx]
        exact ih hrest

theorem getValue_present {x : UInt32 × UInt64} (hnodup : (props.map Prod.fst).Nodup)
    (hx : x ∈ props) (hset : info.propId ≠ 0) (h : info.propId = x.1) :
    drmmodePropGetValue info props defValue = (info.read x.2).getD defValue := by
  have habsent : ∀ {rest : ObjectProps}, (∀ y ∈ rest, y.1 ≠ info.propId) →
      getValueLoop info defValue rest = defValue := by
    intro rest hrest
    have hvalue : drmmodePropGetValue info rest defValue = defValue := getValue_absent hrest
    rwa [drmmodePropGetValue, if_neg hset] at hvalue
  rw [drmmodePropGetValue, if_neg hset]
  induction props with
  | nil => exact absurd hx List.not_mem_nil
  | cons y rest ih =>
      rw [List.map_cons, List.nodup_cons] at hnodup
      rw [getValueLoop]
      rcases List.mem_cons.mp hx with rfl | hx
      · rw [if_neg (not_not.mpr h.symm)]
        cases hread : info.read x.2 with
        | some v => rfl
        | none =>
            refine habsent fun y hy heq => hnodup.1 ?_
            rw [← h, ← heq]
            exact List.mem_map_of_mem hy
      · have hne : y.1 ≠ info.propId := by
          intro heq
          refine hnodup.1 ?_
          rw [heq, h]
          exact List.mem_map_of_mem hx
        rw [if_pos hne]
        exact ih hnodup.2 hx

/-- The object's value of a name of an enumeration. -/
def ShowsFirst (getProperty : UInt32 → Option DrmModeProperty) (props : ObjectProps)
    (name first : String) : Prop :=
  ∃ x ∈ props, ∃ prop, getProperty x.1 = some prop ∧ prop.name = name ∧
    prop.has drmModePropEnum = true ∧
      ∃ l, prop.enums.find? (fun l => l.name == first) = some l ∧ l.value = x.2

/-- No later name is read as the first. -/
theorem later_ne_zero {l : List EnumInfo} {p : EnumInfo → Bool} (hshort : l.length + 1 < 2 ^ 64)
    (hdef : defValue ≠ 0) :
    (((l.findIdx? p).map (· + 1)).map UInt64.ofNat).getD defValue ≠ 0 := by
  cases hindex : l.findIdx? p with
  | none => exact hdef
  | some j =>
      have hlt : j < l.length := (List.findIdx?_eq_some_iff_findIdx_eq.mp hindex).1
      intro hzero
      have hnat : (UInt64.ofNat (j + 1)).toNat = (0 : UInt64).toNat := congrArg UInt64.toNat hzero
      have hsize : j + 1 < UInt64.size := (Nat.succ_lt_succ hlt).trans hshort
      rw [UInt64.toNat_ofNat_of_lt' hsize] at hnat
      exact absurd hnat (Nat.succ_ne_zero j)

/-- The first name of an enumeration is read where the kernel's first entry of this name has
the value. -/
theorem read_first_iff {t : PropInfo} {e : EnumInfo} {es : List EnumInfo} {id : UInt32}
    {prop : DrmModeProperty} {value : UInt64} (hvalues : t.enumValues = e :: es)
    (hinvalid : ∀ e' ∈ e :: es, e'.valid = false) (hshort : es.length + 1 < 2 ^ 64)
    (hdef : defValue ≠ 0) :
    ((t.found id prop).read value).getD defValue = 0 ↔ prop.has drmModePropEnum = true ∧
      ∃ l, prop.enums.find? (fun l => l.name == e.name) = some l ∧ l.value = value := by
  have hne : t.enumValues ≠ [] := by simp [hvalues]
  rw [PropInfo.found, if_neg hne]
  cases henum : prop.has drmModePropEnum with
  | false =>
      have hread : PropInfo.read { t with propId := id } value = none := by
        rw [PropInfo.read, if_neg hne, Option.map_eq_none_iff, List.findIdx?_eq_none_iff, hvalues]
        intro e' he'
        rw [hinvalid e' he']
        rfl
      simp only [Bool.not_false, if_true, hread, Option.getD_none, Bool.false_eq_true, false_and,
        iff_false]
      exact hdef
  | true =>
      simp only [Bool.not_true, Bool.false_eq_true, if_false, true_and]
      rw [PropInfo.read, if_neg (by simp [hvalues])]
      simp only [hvalues, List.map_cons, List.findIdx?_cons]
      have hlater := later_ne_zero (p := fun e => e.valid && e.value == value)
        (l := es.map (EnumInfo.fill prop.enums)) (by rw [List.length_map]; exact hshort) hdef
      have he := hinvalid e List.mem_cons_self
      have hfill : e.fill prop.enums =
          match prop.enums.find? fun l => l.name == e.name with
          | none => e
          | some l => { e with valid := true, value := l.value } := by
        rw [EnumInfo.fill, if_neg (by simp [he])]
      rw [hfill]
      cases hfind : prop.enums.find? fun l => l.name == e.name with
      | none =>
          simp only [he, Bool.false_and, Bool.false_eq_true, if_false]
          exact iff_of_false hlater (by simp)
      | some l =>
          by_cases hvalue : l.value = value
          · simp [hvalue]
          · simp only [hvalue, Bool.true_and, beq_iff_eq, if_false]
            exact iff_of_false hlater (by simp [hvalue])

variable {getProperty : UInt32 → Option DrmModeProperty} {ids : List UInt32}
  {template infos : List PropInfo} {t : PropInfo} (hblank : Blank template)
  (hshared : Shared getProperty ids (template.map PropInfo.name))

include hblank hshared

/-- What is read of an object whose properties the table has: the value of the entry's name. -/
theorem getValue_cases (defValue : UInt64) (hids : ∀ x ∈ props, x.1 ∈ ids)
    (hnodup : (props.map Prod.fst).Nodup)
    (htable : Table getProperty ids template infos)
    (hcomplete : ∀ x ∈ props, Complete getProperty infos x.1) (hinfo : info ∈ infos) :
    (∃ x ∈ props, Named getProperty x.1 info.name ∧ info.propId = x.1 ∧ x.1 ≠ 0 ∧
        (∀ y ∈ props, Named getProperty y.1 info.name → y = x) ∧
        drmmodePropGetValue info props defValue = (info.read x.2).getD defValue) ∨
      (∀ x ∈ props, ¬Named getProperty x.1 info.name) ∧
        drmmodePropGetValue info props defValue = defValue := by
  by_cases hnamed : ∃ x ∈ props, Named getProperty x.1 info.name
  · obtain ⟨x, hx, hname⟩ := hnamed
    have hid := hcomplete x hx info hinfo hname
    have hset := hshared.ne_zero x.1 (hids x hx)
    refine Or.inl ⟨x, hx, hname, hid, hset, fun y hy hname' => ?_, ?_⟩
    · have hsame := (hcomplete y hy info hinfo hname').symm.trans hid
      exact List.inj_on_of_nodup_map hnodup hy hx hsame
    · exact getValue_present hnodup hx (hid ▸ hset) hid
  · have hnone : ∀ x ∈ props, ¬Named getProperty x.1 info.name :=
      fun x hx hname => hnamed ⟨x, hx, hname⟩
    refine Or.inr ⟨hnone, ?_⟩
    by_cases hset : info.propId = 0
    · rw [drmmodePropGetValue, if_pos hset]
    · obtain ⟨_, hname⟩ := htable.found_named hblank hinfo hset
      refine getValue_absent fun x hx heq => hnone x hx ?_
      rwa [heq]

/-- **A plain property**: what holds of the value read holds of the object's own. -/
theorem getValue_plain_iff {P : UInt64 → Prop} (hdef : ¬P defValue)
    (hids : ∀ x ∈ props, x.1 ∈ ids) (hnodup : (props.map Prod.fst).Nodup)
    (htable : Table getProperty ids template infos)
    (hcomplete : ∀ x ∈ props, Complete getProperty infos x.1) (hinfo : info ∈ infos)
    (hentry : Entry getProperty ids t info) (hplain : t.enumValues = []) :
    P (drmmodePropGetValue info props defValue) ↔
      ∃ x ∈ props, Named getProperty x.1 t.name ∧ P x.2 := by
  have henum : info.enumValues = [] := by
    rcases hentry with rfl | ⟨id, _, prop, _, _, rfl⟩
    · exact hplain
    · rw [PropInfo.found, if_pos hplain]
      exact hplain
  rw [← hentry.name]
  rcases getValue_cases hblank hshared defValue hids hnodup htable hcomplete hinfo with
    ⟨x, hx, hname, _, _, honly, hvalue⟩ | ⟨hnone, hvalue⟩
  · rw [hvalue, PropInfo.read, if_pos henum, Option.getD_some]
    constructor
    · exact fun h => ⟨x, hx, hname, h⟩
    · rintro ⟨y, hy, hname', h⟩
      exact honly y hy hname' ▸ h
  · rw [hvalue]
    exact iff_of_false hdef fun ⟨x, hx, hname, _⟩ => hnone x hx hname

/-- **An enumeration** is read as its first name where the object shows it. -/
theorem getValue_first_iff {e : EnumInfo} {es : List EnumInfo} (hdef : defValue ≠ 0)
    (hids : ∀ x ∈ props, x.1 ∈ ids) (hnodup : (props.map Prod.fst).Nodup)
    (htable : Table getProperty ids template infos)
    (hcomplete : ∀ x ∈ props, Complete getProperty infos x.1) (hinfo : info ∈ infos)
    (ht : t ∈ template) (hentry : Entry getProperty ids t info) (hvalues : t.enumValues = e :: es)
    (hshort : es.length + 1 < 2 ^ 64) :
    drmmodePropGetValue info props defValue = 0 ↔ ShowsFirst getProperty props t.name e.name := by
  have hinvalid : ∀ e' ∈ e :: es, e'.valid = false := hvalues ▸ hblank.invalid t ht
  rcases getValue_cases hblank hshared defValue hids hnodup htable hcomplete hinfo with
    ⟨x, hx, hname, hid, hset, honly, hvalue⟩ | ⟨hnone, hvalue⟩
  · rw [hvalue]
    rcases hentry with rfl | ⟨id, _, prop, hprop, hprop', rfl⟩
    · exact absurd ((hblank.unset _ ht).symm.trans hid) (Ne.symm hset)
    · rw [found_propId] at hid
      subst hid
      rw [read_first_iff hvalues hinvalid hshort hdef]
      constructor
      · exact fun h => ⟨x, hx, prop, hprop, hprop', h⟩
      · rintro ⟨y, hy, prop', hy', hname', h⟩
        have hsame : y = x := by
          refine honly y hy ?_
          rw [found_name]
          exact named_of_eq hy' hname'
        subst hsame
        rw [hprop] at hy'
        exact Option.some.inj hy' ▸ h
  · rw [hvalue]
    refine iff_of_false hdef ?_
    rintro ⟨x, hx, prop, hprop, hname, _⟩
    exact hnone x hx (named_of_eq hprop (hname.trans hentry.name.symm))

end Read

end LoongsonVideo.Driver.PropTable
