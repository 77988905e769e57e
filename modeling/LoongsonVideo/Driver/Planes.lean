import LoongsonVideo.Verified.Machine
import LoongsonVideo.Driver.PropTable

/-!
# Primary planes for the CRTCs

`drmmode_crtc_create_planes` of `src/drmmode_display.c` looks for the primary plane of a CRTC
among those that no CRTC has yet.  A plane that is on the CRTC already is best; else the first
is taken.

* `planeLoop_eq`: the loop finds what `pick` says.
* `crtcs_chosen`: the planes of all CRTCs.
-/

namespace LoongsonVideo.Driver.Planes

open LoongsonVideo.Verified.Machine
open LoongsonVideo.Driver.OutputProperty
open LoongsonVideo.Driver.PropTable

/-- A plane as `drmModeGetPlane` gives it, with its properties; `none` when
`drmModeObjectGetProperties` fails. -/
structure Kplane where
  planeId : UInt32
  possibleCrtcs : UInt32
  props : Option ObjectProps
  deriving DecidableEq, Repr

/-- A CRTC of the screen; `num` is its number at the kernel. -/
structure Crtc where
  num : Nat
  crtcId : UInt32
  planeId : UInt32
  deriving DecidableEq, Repr

/-- `DRMMODE_PLANE_TYPE_PRIMARY`, `DRMMODE_PLANE_TYPE__COUNT`. -/
def planeTypePrimary : UInt64 := 0
def planeTypeCount : UInt64 := 3

/-- `plane_type_enums`. -/
def planeTypeEnums : List EnumInfo :=
  [⟨"Primary", false, 0⟩, ⟨"Cursor", false, 0⟩, ⟨"Overlay", false, 0⟩]

/-- `plane_props`, in the order of `enum drmmode_plane_property`. -/
def planeProps : List PropInfo :=
  [⟨"type", 0, planeTypeEnums⟩, ⟨"FB_ID", 0, []⟩, ⟨"IN_FORMATS", 0, []⟩, ⟨"CRTC_ID", 0, []⟩,
    ⟨"SRC_X", 0, []⟩, ⟨"SRC_Y", 0, []⟩, ⟨"SRC_W", 0, []⟩, ⟨"SRC_H", 0, []⟩,
    ⟨"CRTC_X", 0, []⟩, ⟨"CRTC_Y", 0, []⟩, ⟨"CRTC_W", 0, []⟩, ⟨"CRTC_H", 0, []⟩]

/-- `DRMMODE_PLANE_TYPE` and so on. -/
def planeType : Nat := 0
def planeInFormats : Nat := 2
def planeCrtcId : Nat := 3

/-- `drmmode_prop_get_value(&tmp_props[k], props, def)`. -/
def tableValue (infos : List PropInfo) (k : Nat) (props : ObjectProps) (defValue : UInt64) :
    UInt64 :=
  match infos[k]? with
  | none => defValue
  | some info => drmmodePropGetValue info props defValue

/-- `1 << num`.  From 32 on the language leaves the value open; the machine's is `wide`. -/
def bit (wide : Nat → UInt32) (num : Nat) : UInt32 :=
  if num < 32 then 1 <<< num.toUInt32 else wide num

/-- `is_plane_assigned`. -/
def isPlaneAssigned (crtcs : List Crtc) (planeId : UInt32) : Bool :=
  crtcs.any (·.planeId == planeId)

/-- `best_plane` and `blob_id`; no plane is 0. -/
structure Best where
  plane : UInt32
  blobId : UInt32
  deriving DecidableEq, Repr

section Code

variable (getProperty : UInt32 → Option DrmModeProperty) (wide : Nat → UInt32)

/-- The loop of `drmmode_crtc_create_planes` over the planes. -/
def planeLoop (crtcs : List Crtc) (crtc : Crtc) : List PropInfo → Best → List Kplane → Best
  | _, best, [] => best
  | tmpProps, best, kplane :: rest =>
      if kplane.possibleCrtcs &&& bit wide crtc.num = 0 ∨
          isPlaneAssigned crtcs kplane.planeId = true then
        planeLoop crtcs crtc tmpProps best rest
      else
        match kplane.props with
        | none => planeLoop crtcs crtc tmpProps best rest
        | some props =>
            let tmpProps := drmmodePropInfoUpdate getProperty tmpProps props
            if tableValue tmpProps planeType props planeTypeCount ≠ planeTypePrimary then
              planeLoop crtcs crtc tmpProps best rest
            else
              let blobId := (tableValue tmpProps planeInFormats props 0).toUInt32
              let this : Best := ⟨kplane.planeId, blobId⟩
              if (tableValue tmpProps planeCrtcId props 0).toUInt32 = crtc.crtcId then this
              else if best.plane = 0 then planeLoop crtcs crtc tmpProps this rest
              else planeLoop crtcs crtc tmpProps best rest

/-- `drmmode_crtc_create_planes`: the plane of the CRTC and the blob of its formats.  The copy
of the property names and the list of the planes may fail. -/
def drmmodeCrtcCreatePlanes (copyOk : Bool) (kplaneRes : Option (List Kplane)) (crtcs : List Crtc)
    (crtc : Crtc) : Best :=
  if !copyOk then ⟨0, 0⟩
  else
    match kplaneRes with
    | none => ⟨0, 0⟩
    | some planes =>
        planeLoop getProperty wide crtcs crtc (drmmodePropInfoCopy planeProps false) ⟨0, 0⟩ planes

/-- `drmmode_crtc_init` as far as planes go: the new CRTC is the last of the screen. -/
def crtcInit (planes : List Kplane) (crtcs : List Crtc) (head : Nat × UInt32) : List Crtc :=
  let crtc : Crtc := ⟨head.1, head.2, 0⟩
  let best := drmmodeCrtcCreatePlanes getProperty wide true (some planes) (crtcs ++ [crtc]) crtc
  crtcs ++ [{ crtc with planeId := best.plane }]

end Code

/-! ## What is to be chosen -/

/-- The ids of the properties that planes have. -/
def propIds (planes : List Kplane) : List UInt32 :=
  planes.flatMap fun kplane => (kplane.props.getD []).map Prod.fst

/-- The kernel's planes: their ids are distinct and not zero, a property that the driver knows
by name has one id on all planes, and a plane has it once. -/
structure Kernel where
  planes : List Kplane
  getProperty : UInt32 → Option DrmModeProperty
  distinct : (planes.map Kplane.planeId).Nodup
  ne_zero : ∀ kplane ∈ planes, kplane.planeId ≠ 0
  shared : Shared getProperty (propIds planes) (planeProps.map PropInfo.name)
  once : ∀ kplane ∈ planes, ((kplane.props.getD []).map Prod.fst).Nodup

/-- The plane's type is Primary. -/
def Primary (kernel : Kernel) (kplane : Kplane) : Prop :=
  ShowsFirst kernel.getProperty (kplane.props.getD []) "type" "Primary"

/-- The plane's `CRTC_ID` is the CRTC. -/
def Attached (kernel : Kernel) (crtcId : UInt32) (kplane : Kplane) : Prop :=
  ∃ x ∈ kplane.props.getD [], Named kernel.getProperty x.1 "CRTC_ID" ∧ x.2.toUInt32 = crtcId

/-- A primary plane that can drive the CRTC and that no earlier CRTC has. -/
structure Candidate (kernel : Kernel) (wide : Nat → UInt32) (earlier : List Crtc) (num : Nat)
    (kplane : Kplane) : Prop where
  possible : kplane.possibleCrtcs &&& bit wide num ≠ 0
  primary : Primary kernel kplane
  unassigned : ∀ crtc ∈ earlier, crtc.planeId ≠ kplane.planeId

/-- The plane of a CRTC is right, given those that were made before it. -/
structure Chosen (kernel : Kernel) (wide : Nat → UInt32) (earlier : List Crtc) (crtc : Crtc) :
    Prop where
  /-- It is a candidate. -/
  candidate : crtc.planeId ≠ 0 → ∃ kplane ∈ kernel.planes, kplane.planeId = crtc.planeId ∧
    Candidate kernel wide earlier crtc.num kplane
  /-- The first candidate that is on the CRTC is taken. -/
  attached : ∀ before kplane after, kernel.planes = before ++ kplane :: after →
    Candidate kernel wide earlier crtc.num kplane → Attached kernel crtc.crtcId kplane →
    (∀ other ∈ before, Candidate kernel wide earlier crtc.num other →
      ¬Attached kernel crtc.crtcId other) → crtc.planeId = kplane.planeId
  /-- There is none only if there is no candidate. -/
  zero_iff : crtc.planeId = 0 ↔
    ∀ kplane ∈ kernel.planes, ¬Candidate kernel wide earlier crtc.num kplane

/-! ## The search -/

section Pick

variable {E A : Kplane → Prop}

open Classical in
/-- The search among candidates `E`: the first that is `A`, else the one found first. -/
noncomputable def pick (E A : Kplane → Prop) : UInt32 → List Kplane → UInt32
  | best, [] => best
  | best, kplane :: rest =>
      if ¬E kplane then pick E A best rest
      else if A kplane then kplane.planeId
      else if best = 0 then pick E A kplane.planeId rest
      else pick E A best rest

theorem pick_mem (best : UInt32) (l : List Kplane) :
    pick E A best l = best ∨ ∃ kplane ∈ l, E kplane ∧ kplane.planeId = pick E A best l := by
  induction l generalizing best with
  | nil => exact Or.inl rfl
  | cons kplane rest ih =>
      have hrest : ∀ best, (∃ other ∈ rest, E other ∧ other.planeId = pick E A best rest) →
          ∃ other ∈ kplane :: rest, E other ∧ other.planeId = pick E A best rest :=
        fun best ⟨other, hmem, h⟩ => ⟨other, List.mem_cons_of_mem kplane hmem, h⟩
      rw [pick]
      split
      · exact (ih best).imp_right (hrest best)
      · next hE =>
          have hE := not_not.mp hE
          split
          · exact Or.inr ⟨kplane, List.mem_cons_self, hE, rfl⟩
          · split
            · rcases ih kplane.planeId with heq | hmem
              · exact Or.inr ⟨kplane, List.mem_cons_self, hE, heq.symm⟩
              · exact Or.inr (hrest _ hmem)
            · exact (ih best).imp_right (hrest best)

theorem pick_eq_zero_iff {l : List Kplane} (hne : ∀ kplane ∈ l, kplane.planeId ≠ 0)
    (best : UInt32) : pick E A best l = 0 ↔ best = 0 ∧ ∀ kplane ∈ l, ¬E kplane := by
  induction l generalizing best with
  | nil => simp [pick]
  | cons kplane rest ih =>
      obtain ⟨hkplane, hrest⟩ := List.forall_mem_cons.mp hne
      rw [pick, List.forall_mem_cons]
      split
      · next hE => rw [ih hrest, and_iff_right hE]
      · next hE =>
          split
          · exact iff_of_false hkplane fun h => hE h.2.1
          · split
            · rw [ih hrest]
              exact iff_of_false (fun h => hkplane h.1) fun h => hE h.2.1
            · next hbest =>
                rw [ih hrest]
                exact iff_of_false (fun h => hbest h.1) fun h => hbest h.1

theorem pick_first {before after : List Kplane} {kplane : Kplane} (hE : E kplane)
    (hA : A kplane) (hbefore : ∀ other ∈ before, E other → ¬A other) (best : UInt32) :
    pick E A best (before ++ kplane :: after) = kplane.planeId := by
  induction before generalizing best with
  | nil => rw [List.nil_append, pick, if_neg (not_not.mpr hE), if_pos hA]
  | cons other before ih =>
      obtain ⟨hother, hrest⟩ := List.forall_mem_cons.mp hbefore
      rw [List.cons_append, pick]
      split
      · exact ih hrest best
      · next hE =>
          rw [if_neg (hother (not_not.mp hE))]
          split
          · exact ih hrest other.planeId
          · exact ih hrest best

end Pick

/-! ## The loop -/

theorem planeProps_blank : Blank planeProps := by
  constructor
  · decide
  · decide
  · decide

theorem propIds_of_mem {planes : List Kplane} {kplane : Kplane} {props : ObjectProps}
    (hmem : kplane ∈ planes) (hprops : kplane.props = some props) :
    ∀ x ∈ props, x.1 ∈ propIds planes := by
  intro x hx
  refine List.mem_flatMap.mpr ⟨kplane, hmem, ?_⟩
  rw [hprops]
  exact List.mem_map_of_mem hx

section Loop

variable {kernel : Kernel} {wide : Nat → UInt32}

/-- The table as it is carried from plane to plane. -/
def Carried (kernel : Kernel) (tmpProps : List PropInfo) : Prop :=
  Table kernel.getProperty (propIds kernel.planes) planeProps tmpProps

/-- **One plane**: the table stays one, and tells the type of the plane and whether it is on
the CRTC. -/
theorem carried_update {tmpProps : List PropInfo} {kplane : Kplane} {props : ObjectProps}
    {crtcId : UInt32} (hcarried : Carried kernel tmpProps) (hmem : kplane ∈ kernel.planes)
    (hprops : kplane.props = some props) (hcrtcId : crtcId ≠ 0) :
    let tmpProps := drmmodePropInfoUpdate kernel.getProperty tmpProps props
    Carried kernel tmpProps ∧
      (tableValue tmpProps planeType props planeTypeCount = planeTypePrimary ↔
        Primary kernel kplane) ∧
      ((tableValue tmpProps planeCrtcId props 0).toUInt32 = crtcId ↔
        Attached kernel crtcId kplane) := by
  have hids := propIds_of_mem hmem hprops
  have hnodup : (props.map Prod.fst).Nodup := by
    have honce := kernel.once kplane hmem
    rwa [hprops] at honce
  have htable := update_table kernel.shared hids hcarried
  have hcomplete := update_complete planeProps_blank kernel.shared hids hcarried
  obtain ⟨type, htype, htypeMem, htypeEntry⟩ := htable.get (k := planeType) rfl
  obtain ⟨on, hon, honMem, honEntry⟩ := htable.get (k := planeCrtcId) rfl
  refine ⟨htable, ?_, ?_⟩
  · rw [tableValue, htype, Primary, hprops]
    exact getValue_first_iff planeProps_blank kernel.shared (by decide) hids hnodup htable hcomplete
      htypeMem (by decide) htypeEntry rfl (by decide)
  · have hzero : ¬(0 : UInt64).toUInt32 = crtcId := fun h => hcrtcId h.symm
    rw [tableValue, hon, Attached, hprops]
    exact getValue_plain_iff (P := fun value => value.toUInt32 = crtcId) planeProps_blank
      kernel.shared hzero hids hnodup htable hcomplete honMem honEntry rfl

/-- A plane that the loop does not pass over. -/
def Free (kernel : Kernel) (wide : Nat → UInt32) (crtcs : List Crtc) (num : Nat)
    (kplane : Kplane) : Prop :=
  kplane.possibleCrtcs &&& bit wide num ≠ 0 ∧ isPlaneAssigned crtcs kplane.planeId = false ∧
    Primary kernel kplane

/-- **The loop is the search.** -/
theorem planeLoop_eq (wide : Nat → UInt32) (crtcs : List Crtc) {crtc : Crtc}
    (hcrtcId : crtc.crtcId ≠ 0) {l : List Kplane} (hl : ∀ kplane ∈ l, kplane ∈ kernel.planes)
    {tmpProps : List PropInfo} (hcarried : Carried kernel tmpProps) (best : Best) :
    (planeLoop kernel.getProperty wide crtcs crtc tmpProps best l).plane =
      pick (Free kernel wide crtcs crtc.num) (Attached kernel crtc.crtcId) best.plane l := by
  induction l generalizing tmpProps best with
  | nil => rfl
  | cons kplane rest ih =>
      obtain ⟨hmem, hrest⟩ := List.forall_mem_cons.mp hl
      rw [planeLoop, pick]
      split
      · next hskip =>
          have hfree : ¬Free kernel wide crtcs crtc.num kplane := by
            rintro ⟨hpossible, hunassigned, _⟩
            rcases hskip with h | h
            · exact hpossible h
            · exact absurd (hunassigned.symm.trans h) Bool.false_ne_true
          rw [if_pos hfree]
          exact ih hrest hcarried best
      · next hskip =>
          obtain ⟨hpossible, hassigned⟩ := not_or.mp hskip
          split
          · next hprops =>
              have hfree : ¬Free kernel wide crtcs crtc.num kplane := by
                rintro ⟨_, _, hprimary⟩
                rw [Primary, hprops] at hprimary
                obtain ⟨x, hx, _⟩ := hprimary
                exact absurd hx List.not_mem_nil
              rw [if_pos hfree]
              exact ih hrest hcarried best
          · next props hprops =>
              obtain ⟨hnext, htype, hon⟩ := carried_update hcarried hmem hprops hcrtcId
              dsimp only
              by_cases hprimary : Primary kernel kplane
              · have hfree : Free kernel wide crtcs crtc.num kplane :=
                  ⟨hpossible, Bool.eq_false_iff.mpr hassigned, hprimary⟩
                rw [if_neg (not_not.mpr (htype.mpr hprimary)), if_neg (not_not.mpr hfree)]
                by_cases hattached : Attached kernel crtc.crtcId kplane
                · rw [if_pos (hon.mpr hattached), if_pos hattached]
                · rw [if_neg (mt hon.mp hattached), if_neg hattached]
                  by_cases hbest : best.plane = 0
                  · rw [if_pos hbest, if_pos hbest]
                    exact ih hrest hnext _
                  · rw [if_neg hbest, if_neg hbest]
                    exact ih hrest hnext best
              · rw [if_pos (mt htype.mp hprimary), if_pos fun h => hprimary h.2.2]
                exact ih hrest hnext best

/-! ## All CRTCs -/

theorem isPlaneAssigned_eq_false {crtcs : List Crtc} {planeId : UInt32} :
    isPlaneAssigned crtcs planeId = false ↔ ∀ crtc ∈ crtcs, crtc.planeId ≠ planeId := by
  rw [isPlaneAssigned, List.any_eq_false]
  simp only [beq_iff_eq]

/-- While a CRTC looks for its plane it has none, so that only the earlier ones count. -/
theorem free_iff_candidate {crtcs : List Crtc} {num : Nat} (crtcId : UInt32) {kplane : Kplane}
    (hmem : kplane ∈ kernel.planes) :
    Free kernel wide (crtcs ++ [⟨num, crtcId, 0⟩]) num kplane ↔
      Candidate kernel wide crtcs num kplane := by
  have hne := kernel.ne_zero kplane hmem
  rw [Free, isPlaneAssigned_eq_false, List.forall_mem_append]
  constructor
  · rintro ⟨hpossible, hunassigned, hprimary⟩
    exact ⟨hpossible, hprimary, hunassigned.1⟩
  · rintro ⟨hpossible, hprimary, hunassigned⟩
    exact ⟨hpossible, ⟨hunassigned, List.forall_mem_singleton.mpr (Ne.symm hne)⟩, hprimary⟩

/-- The plane that a new CRTC gets. -/
noncomputable def newPlane (kernel : Kernel) (wide : Nat → UInt32) (crtcs : List Crtc)
    (head : Nat × UInt32) : UInt32 :=
  pick (Free kernel wide (crtcs ++ [⟨head.1, head.2, 0⟩]) head.1) (Attached kernel head.2) 0
    kernel.planes

theorem crtcInit_eq (crtcs : List Crtc) {head : Nat × UInt32} (hhead : head.2 ≠ 0) :
    crtcInit kernel.getProperty wide kernel.planes crtcs head =
      crtcs ++ [⟨head.1, head.2, newPlane kernel wide crtcs head⟩] := by
  have hcarried : Carried kernel (drmmodePropInfoCopy planeProps false) := by
    rw [show drmmodePropInfoCopy planeProps false = planeProps by decide]
    exact List.forall₂_same.mpr fun t _ => Or.inl rfl
  let crtc : Crtc := ⟨head.1, head.2, 0⟩
  have hcrtc : crtc.crtcId ≠ 0 := hhead
  have hloop := planeLoop_eq wide (crtcs ++ [crtc]) hcrtc (fun _ h => h) hcarried ⟨0, 0⟩
  rw [newPlane, ← hloop]
  rfl

/-- **One CRTC**: the plane it gets is right. -/
theorem newPlane_chosen (kernel : Kernel) (wide : Nat → UInt32) (crtcs : List Crtc)
    (head : Nat × UInt32) :
    Chosen kernel wide crtcs ⟨head.1, head.2, newPlane kernel wide crtcs head⟩ := by
  constructor
  · intro hne
    rcases pick_mem (E := Free kernel wide (crtcs ++ [⟨head.1, head.2, 0⟩]) head.1)
        (A := Attached kernel head.2) 0 kernel.planes with hzero | ⟨kplane, hmem, hfree, hplane⟩
    · exact absurd hzero hne
    · exact ⟨kplane, hmem, hplane, (free_iff_candidate head.2 hmem).mp hfree⟩
  · intro before kplane after hsplit hcandidate hattached hbefore
    have hmem : ∀ other ∈ before ++ kplane :: after, other ∈ kernel.planes :=
      fun other h => hsplit ▸ h
    have hfree := (free_iff_candidate head.2 (hmem kplane (by simp))).mpr hcandidate
    show newPlane kernel wide crtcs head = kplane.planeId
    rw [newPlane, hsplit]
    refine pick_first hfree hattached (fun other hother hfree' => ?_) 0
    have hother' := hmem other (List.mem_append_left _ hother)
    exact hbefore other hother ((free_iff_candidate head.2 hother').mp hfree')
  · show newPlane kernel wide crtcs head = 0 ↔ _
    rw [newPlane, pick_eq_zero_iff kernel.ne_zero, and_iff_right rfl]
    constructor
    · intro h kplane hmem hcandidate
      exact h kplane hmem ((free_iff_candidate head.2 hmem).mpr hcandidate)
    · intro h kplane hmem hfree
      exact h kplane hmem ((free_iff_candidate head.2 hmem).mp hfree)

/-- Each CRTC of the screen has the right plane, given those before it. -/
def AllChosen (kernel : Kernel) (wide : Nat → UInt32) (crtcs : List Crtc) : Prop :=
  ∀ before crtc after, crtcs = before ++ crtc :: after → Chosen kernel wide before crtc

/-- No two CRTCs have the same plane. -/
def Distinct (crtcs : List Crtc) : Prop :=
  crtcs.Pairwise fun a b => a.planeId ≠ 0 → a.planeId ≠ b.planeId

theorem AllChosen.snoc {crtcs : List Crtc} {crtc : Crtc} (h : AllChosen kernel wide crtcs)
    (hnew : Chosen kernel wide crtcs crtc) : AllChosen kernel wide (crtcs ++ [crtc]) := by
  intro before crtc' after hsplit
  rcases List.eq_nil_or_concat after with rfl | ⟨after', last, rfl⟩
  · obtain ⟨rfl, heq⟩ := List.append_inj' hsplit rfl
    obtain rfl := (List.cons.inj heq).1
    exact hnew
  · rw [List.concat_eq_append, ← List.cons_append, ← List.append_assoc] at hsplit
    exact h before crtc' after' (List.append_inj' hsplit rfl).1

theorem Distinct.snoc {crtcs : List Crtc} {crtc : Crtc} (h : Distinct crtcs)
    (hnew : Chosen kernel wide crtcs crtc) : Distinct (crtcs ++ [crtc]) := by
  refine List.pairwise_append.mpr ⟨h, List.pairwise_singleton _ _, fun a ha b hb hne heq => ?_⟩
  obtain rfl := List.mem_singleton.mp hb
  obtain ⟨kplane, _, hplane, hcandidate⟩ := hnew.candidate (heq ▸ hne)
  exact hcandidate.unassigned a ha (heq.trans hplane.symm)

end Loop

/-- **The planes of all CRTCs**: they are distinct, and each is the one to be chosen. -/
theorem crtcs_chosen (kernel : Kernel) (wide : Nat → UInt32) (heads : List (Nat × UInt32))
    (hheads : ∀ head ∈ heads, head.2 ≠ 0) :
    let crtcs := run (crtcInit kernel.getProperty wide kernel.planes) [] heads
    crtcs.map (fun crtc => (crtc.num, crtc.crtcId)) = heads ∧ Distinct crtcs ∧
      AllChosen kernel wide crtcs := by
  induction heads using List.reverseRecOn with
  | nil => exact ⟨rfl, List.Pairwise.nil, fun before crtc after h => by simp at h⟩
  | append_singleton heads head ih =>
      obtain ⟨hbefore, hhead⟩ := List.forall_mem_append.mp hheads
      obtain ⟨hmap, hdistinct, hchosen⟩ := ih hbefore
      have hnew := newPlane_chosen kernel wide
        (run (crtcInit kernel.getProperty wide kernel.planes) [] heads) head
      rw [run_append, run_cons, run_nil, crtcInit_eq _ (hhead head (List.mem_singleton_self head))]
      refine ⟨?_, hdistinct.snoc hnew, hchosen.snoc hnew⟩
      rw [List.map_append, hmap]
      rfl

/-- An overlay on the first of two CRTCs, a primary plane for either that is on CRTC 31, and a
primary plane for the first.  All have the property 2 before the property 1. -/
def threePlanes : List Kplane :=
  [⟨50, 3, some [(2, 0), (1, 0)]⟩, ⟨51, 3, some [(2, 31), (1, 1)]⟩, ⟨52, 1, some [(2, 0), (1, 1)]⟩]

def twoProperties (id : UInt32) : Option DrmModeProperty :=
  if id = 1 then some ⟨1, drmModePropEnum, "type", [⟨0, "Overlay"⟩, ⟨1, "Primary"⟩]⟩
  else if id = 2 then some ⟨2, 0, "CRTC_ID", []⟩
  else none

theorem threePlanes_ids {id : UInt32} (h : id ∈ propIds threePlanes) : id = 1 ∨ id = 2 := by
  have hids : propIds threePlanes = [2, 1, 2, 1, 2, 1] := rfl
  rw [hids] at h
  simp only [List.mem_cons, List.not_mem_nil, or_false] at h
  tauto

def twoCrtcs : Kernel where
  planes := threePlanes
  getProperty := twoProperties
  distinct := by decide
  ne_zero := by simp [threePlanes]
  shared := by
    constructor
    · intro id hid
      rcases threePlanes_ids hid with rfl | rfl
      · decide
      · decide
    · intro name _ a ha b hb hnameA hnameB
      have hname := hnameA.trans hnameB.symm
      rcases threePlanes_ids ha with rfl | rfl <;> rcases threePlanes_ids hb with rfl | rfl
      · rfl
      · exact absurd hname (by decide)
      · exact absurd hname (by decide)
      · rfl
  once := by simp [threePlanes]

/-- The first CRTC takes the first primary plane, and the second, which was on it, has none. -/
theorem crtcs_chosen_two :
    run (crtcInit twoCrtcs.getProperty (fun _ => 0) twoCrtcs.planes) [] [(0, 30), (1, 31)] =
        [⟨0, 30, 51⟩, ⟨1, 31, 0⟩] ∧
      Distinct [⟨0, 30, 51⟩, ⟨1, 31, 0⟩] ∧
      AllChosen twoCrtcs (fun _ => 0) [⟨0, 30, 51⟩, ⟨1, 31, 0⟩] := by
  have hrun : run (crtcInit twoCrtcs.getProperty (fun _ => 0) twoCrtcs.planes) []
      [(0, 30), (1, 31)] = [⟨0, 30, 51⟩, ⟨1, 31, 0⟩] := by decide +kernel
  have hchosen := crtcs_chosen twoCrtcs (fun _ => 0) [(0, 30), (1, 31)] (by decide)
  rw [hrun] at hchosen
  exact ⟨hrun, hchosen.2⟩

end LoongsonVideo.Driver.Planes
