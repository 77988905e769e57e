import LoongsonVideo.Driver.Hotplug
import LoongsonVideo.Verified.Machine

/-!
# Connectors that have gone in atomic requests

When a connector goes its output keeps `crtc` and `current_crtc`, and has `output_id` -1 from
then on.  `crtc_add_dpms_props` passes over such outputs when they are on the CRTC of the
request, and the functions that build requests have two places where they do not: an output
that was on the CRTC and is no longer assigned to it, and, in `drmmode_set_dpms`, an output
without CRTC.  `requestsClean_iff` says that these are the only ones.
-/

namespace LoongsonVideo.Driver.Outputs

open LoongsonVideo.Verified.Machine

/-- The request has an entry for the object -1. -/
def NamesGone (req : Request) : Prop := ∃ entry ∈ req, entry.1 = gone

/-- **The property.** No request built so far names a connector that has gone. -/
def RequestsClean (s : Screen) : Prop := ∀ req ∈ s.requests, ¬ NamesGone req

theorem RequestsClean.of_eq {s t : Screen} (hs : RequestsClean s) (h : t.requests = s.requests) :
    RequestsClean t := by
  unfold RequestsClean
  rwa [h]

/-! ## What the builders name -/

/-- The output's connector has gone, and the kernel had a `CRTC_ID` property for it. -/
def Vanished (output : Output) : Prop := output.outputId = gone ∧ output.crtcIdProp ≠ 0

/-- An output whose connector has gone while it was on CRTC `c`, and that is now assigned to
another CRTC or to none. -/
def LeftBehind (c : Nat) (output : Output) : Prop :=
  Vanished output ∧ output.crtc ≠ some c ∧ output.currentCrtc = some c

instance (output : Output) : Decidable (Vanished output) := inferInstanceAs (Decidable (_ ∧ _))

instance (c : Nat) (output : Output) : Decidable (LeftBehind c output) :=
  inferInstanceAs (Decidable (_ ∧ _ ∧ _))

/-- `drmModeAtomicAddProperty` names what it is given. -/
theorem namesGone_add (req : Request) (objectId : BitVec 32) (propId : Nat) :
    NamesGone (atomicAddProperty req objectId propId).1 ↔
      NamesGone req ∨ objectId = gone ∧ propId ≠ 0 := by
  unfold atomicAddProperty
  split
  · next hzero =>
      constructor
      · exact .inl
      · rintro (hold | ⟨hgone, hprop⟩)
        · exact hold
        · cases hzero with
          | inl hobject =>
              rw [hgone] at hobject
              exact absurd hobject (by decide)
          | inr hprop' => exact absurd hprop' hprop
  · next hzero =>
      simp only [NamesGone, List.mem_append, List.mem_singleton, or_and_right, exists_or,
        exists_eq_left]
      have hprop : propId ≠ 0 := fun h => hzero (.inr h)
      simp [hprop]

theorem namesGone_add_other (req : Request) {objectId : BitVec 32} (hne : objectId ≠ gone)
    (propId : Nat) : NamesGone (atomicAddProperty req objectId propId).1 ↔ NamesGone req := by
  rw [namesGone_add]
  simp [hne]

theorem namesGone_connector (req : Request) (output : Output) :
    NamesGone (connectorAddProp req output).1 ↔ NamesGone req ∨ Vanished output :=
  namesGone_add req output.outputId output.crtcIdProp

theorem namesGone_crtc (req : Request) (crtc : Crtc) :
    NamesGone (crtcAddProps req crtc).1 ↔ NamesGone req := by
  simp only [crtcAddProps]
  rw [namesGone_add_other _ crtc.crtcId_ne, namesGone_add_other _ crtc.crtcId_ne]

theorem namesGone_plane (crtc : Crtc) (props : List Nat) (req : Request) :
    NamesGone (planeAddProps crtc props req).1 ↔ NamesGone req := by
  induction props generalizing req with
  | nil => exact Iff.rfl
  | cons propId rest ih =>
      simp only [planeAddProps]
      rw [ih, namesGone_add_other _ crtc.planeId_ne]

/-- **`crtc_add_dpms_props`** names the outputs left behind on its CRTC. -/
theorem namesGone_dpmsOutputs (c : Nat) (dpmsOn : Bool) (outputs : List Output) (v : DpmsProps) :
    NamesGone (dpmsOutputs c dpmsOn outputs v).req ↔
      NamesGone v.req ∨ ∃ output ∈ outputs, LeftBehind c output := by
  induction outputs generalizing v with
  | nil => simp [dpmsOutputs]
  | cons output rest ih =>
      simp only [dpmsOutputs, List.mem_cons, exists_eq_or_imp]
      split
      · next hcrtc =>
          split
          · next hcurrent =>
              rw [ih, namesGone_connector]
              simp [LeftBehind, hcrtc, hcurrent, or_assoc]
          · next hcurrent =>
              rw [ih]
              simp [LeftBehind, hcurrent]
      · next hcrtc =>
          have hon : output.crtc = some c := not_not.mp hcrtc
          split
          · rw [ih]
            simp [LeftBehind, hon]
          · next hhere =>
              rw [ih, namesGone_connector]
              simp [LeftBehind, Vanished, hon, hhere]

theorem namesGone_crtcAddDpmsProps (s : Screen) (req : Request) (c : Nat) (crtc : Crtc)
    (dpmsOn blobOk : Bool) :
    NamesGone (crtcAddDpmsProps s req c crtc dpmsOn blobOk).req ↔
      NamesGone req ∨ ∃ output ∈ s.outputs, LeftBehind c output := by
  simp only [crtcAddDpmsProps]
  rw [namesGone_crtc, namesGone_dpmsOutputs]

theorem namesGone_disableOrphans (s : Screen) (c other : Nat) (crtcs : List Crtc)
    (acc : Request × Bool) :
    NamesGone (disableOrphans s c other crtcs acc).1 ↔ NamesGone acc.1 := by
  induction crtcs generalizing other acc with
  | nil => exact Iff.rfl
  | cons crtc rest ih =>
      obtain ⟨req, good⟩ := acc
      simp only [disableOrphans]
      split
      · rw [ih, namesGone_crtc]
      · rw [ih]

/-- The first loop of `drmmode_set_dpms` names the outputs without CRTC. -/
theorem namesGone_dpmsUnused (outputs : List Output) (acc : Request × Bool) :
    NamesGone (dpmsUnusedOutputs outputs acc).1 ↔
      NamesGone acc.1 ∨ ∃ output ∈ outputs, Vanished output ∧ output.crtc = none := by
  induction outputs generalizing acc with
  | nil => simp [dpmsUnusedOutputs]
  | cons output rest ih =>
      obtain ⟨req, good⟩ := acc
      simp only [dpmsUnusedOutputs, List.mem_cons, exists_eq_or_imp]
      split
      · next hcrtc =>
          rw [ih]
          simp [hcrtc]
      · next hcrtc =>
          have hnone : output.crtc = none := not_not.mp hcrtc
          rw [ih, namesGone_connector]
          simp [hnone, or_assoc]

/-- The second one names the outputs left behind on any of the CRTCs. -/
theorem namesGone_dpmsCrtcs (s : Screen) (dpmsOn : Bool) (a : SetDpmsAnswer) (c : Nat)
    (crtcs : List Crtc) (acc : Request × Bool) :
    NamesGone (dpmsCrtcs s dpmsOn a c crtcs acc).1 ↔
      NamesGone acc.1 ∨ ∃ k < crtcs.length, ∃ output ∈ s.outputs, LeftBehind (c + k) output := by
  induction crtcs generalizing c acc with
  | nil => simp [dpmsCrtcs]
  | cons crtc rest ih =>
      obtain ⟨req, good⟩ := acc
      have hsplit : (∃ k < (crtc :: rest).length, ∃ output ∈ s.outputs, LeftBehind (c + k) output) ↔
          (∃ output ∈ s.outputs, LeftBehind c output) ∨
            ∃ k < rest.length, ∃ output ∈ s.outputs, LeftBehind (c + 1 + k) output := by
        constructor
        · rintro ⟨k, hk, hbehind⟩
          cases k with
          | zero => exact .inl hbehind
          | succ k =>
              rw [List.length_cons] at hk
              have hindex : c + 1 + k = c + (k + 1) := by omega
              exact .inr ⟨k, by omega, hindex ▸ hbehind⟩
        · rintro (hbehind | ⟨k, hk, hbehind⟩)
          · exact ⟨0, Nat.succ_pos _, hbehind⟩
          · have hindex : c + 1 + k = c + (k + 1) := by omega
            exact ⟨k + 1, Nat.succ_lt_succ hk, hindex ▸ hbehind⟩
      rw [hsplit, ← or_assoc]
      simp only [dpmsCrtcs]
      split
      · rw [ih, namesGone_plane, namesGone_crtcAddDpmsProps]
      · rw [ih, namesGone_crtcAddDpmsProps]

/-! ## One call -/

/-- Some output is left behind on CRTC `c`. -/
def AnyLeftBehind (s : Screen) (c : Nat) : Prop := ∃ output ∈ s.outputs, LeftBehind c output

instance (s : Screen) (c : Nat) : Decidable (AnyLeftBehind s c) :=
  inferInstanceAs (Decidable (∃ output ∈ s.outputs, _))

/-- **The condition on a mode set** of CRTC `c` that gets as far as to build a request. -/
def SetModeClean (s : Screen) (c : Nat) (a : SetModeAnswer) : Prop :=
  c < s.crtcs.length → s.atomicModeset = true → a.fbOk = true → a.reqOk = true →
    ¬ AnyLeftBehind s c

/-- The condition on `drmmode_set_mode_major`. -/
def ModeMajorClean (s : Screen) (c : Nat) (a : ModeMajorAnswer) : Prop :=
  a.rotateOk = true → SetModeClean s c a.first

/-- The condition on `drmmode_set_dpms`. -/
def SetDpmsClean (s : Screen) (a : SetDpmsAnswer) : Prop :=
  a.reqOk = true → (¬ ∃ output ∈ s.outputs, Vanished output ∧ output.crtc = none) ∧
    ∀ c < s.crtcs.length, ¬ AnyLeftBehind s c

/-- The condition on `drmmode_output_dpms`. -/
def OutputDpmsClean (s : Screen) (i : Nat) (dpmsOn pendingModeset : Bool)
    (a : OutputDpmsAnswer) : Prop :=
  ∀ output ∈ s.outputs[i]?, output.modeOutput.isSome = true →
    if dpmsOn then
      ∀ c ∈ output.crtc, ∀ crtc ∈ s.crtcs[c]?, crtc.needModeset = true → ModeMajorClean s c a.major
    else
      s.atomicModeset = true → pendingModeset = false → a.reqOk = true →
        ∀ c ∈ output.currentCrtc, c < s.crtcs.length → ¬ AnyLeftBehind s c

/-- From `s` to `t` requests were built.  None of them names a connector that has gone exactly
if `clean`. -/
structure Builds (s t : Screen) (clean : Prop) : Prop where
  grows : s.requests <:+ t.requests
  clean_iff : RequestsClean s → (RequestsClean t ↔ clean)

namespace Builds

variable {s t u : Screen} {p q : Prop}

theorem congr (h : Builds s t p) (hpq : p ↔ q) : Builds s t q :=
  ⟨h.grows, fun hs => (h.clean_iff hs).trans hpq⟩

/-- A step that builds nothing. -/
theorem none (h : t.requests = s.requests) (hp : p) : Builds s t p where
  grows := h ▸ List.suffix_rfl
  clean_iff := fun hs => ⟨fun _ => hp, fun _ => hs.of_eq h⟩

/-- A step that builds one request. -/
theorem one {req : Request} (h : t.requests = req :: s.requests) (hp : ¬ NamesGone req ↔ p) :
    Builds s t p where
  grows := h ▸ List.suffix_cons _ _
  clean_iff := by
    intro hs
    rw [← hp]
    unfold RequestsClean
    rw [h, List.forall_mem_cons]
    exact ⟨fun hall => hall.1, fun hreq => ⟨hreq, hs⟩⟩

theorem trans (hst : Builds s t p) (htu : Builds t u q) : Builds s u (p ∧ q) where
  grows := hst.grows.trans htu.grows
  clean_iff := by
    intro hs
    constructor
    · intro hu
      have ht : RequestsClean t := fun req hin => hu req (htu.grows.subset hin)
      exact ⟨(hst.clean_iff hs).mp ht, (htu.clean_iff ht).mp hu⟩
    · rintro ⟨hp, hq⟩
      have ht := (hst.clean_iff hs).mpr hp
      exact (htu.clean_iff ht).mpr hq

/-- A step that builds nothing goes before others. -/
theorem quiet_trans (h : t.requests = s.requests) (htu : Builds t u p) : Builds s u p :=
  ((none h trivial).trans htu).congr ⟨fun hp => hp.2, fun hp => ⟨trivial, hp⟩⟩

/-- And after them. -/
theorem trans_quiet (hst : Builds s t p) (h : u.requests = t.requests) : Builds s u p :=
  (hst.trans (none h trivial)).congr ⟨fun hp => hp.1, fun hp => ⟨hp, trivial⟩⟩

end Builds

/-- **A mode set** builds a request that names the outputs left behind on its CRTC.  A test
leaves the outputs alone. -/
theorem crtcSetMode_spec (s : Screen) (c : Nat) (testOnly : Bool) (a : SetModeAnswer) :
    let t := (drmmodeCrtcSetMode s c testOnly a).1
    Builds s t (SetModeClean s c a) ∧ t.toOptions = s.toOptions ∧ t.crtcs = s.crtcs ∧
      (t.outputs = s.outputs ∨ testOnly = false ∧ t.outputs = s.outputs.map (Output.takeCrtc c)) := by
  simp only [drmmodeCrtcSetMode]
  split
  · next hnone =>
      have hle : s.crtcs.length ≤ c := List.getElem?_eq_none_iff.mp hnone
      have hvoid : SetModeClean s c a := fun hlt => absurd hlt (Nat.not_lt.mpr hle)
      exact ⟨.none rfl hvoid, rfl, rfl, .inl rfl⟩
  · next crtc hc =>
      have hlt : c < s.crtcs.length := (List.getElem?_eq_some_iff.mp hc).1
      split
      · next hfb =>
          rw [Bool.not_eq_true'] at hfb
          have hvoid : SetModeClean s c a := fun _ _ h => absurd (hfb.symm.trans h) nofun
          exact ⟨.none rfl hvoid, rfl, rfl, .inl rfl⟩
      · next hfb =>
          rw [Bool.not_eq_true', Bool.not_eq_false] at hfb
          split
          · next hatomic =>
              rw [Bool.not_eq_true'] at hatomic
              have hvoid : SetModeClean s c a := fun _ h => absurd (hatomic.symm.trans h) nofun
              exact ⟨.none rfl hvoid, rfl, rfl, .inl rfl⟩
          · next hatomic =>
              rw [Bool.not_eq_true', Bool.not_eq_false] at hatomic
              split
              · next hreq =>
                  rw [Bool.not_eq_true'] at hreq
                  have hvoid : SetModeClean s c a := fun _ _ _ h =>
                    absurd (hreq.symm.trans h) nofun
                  exact ⟨.none rfl hvoid, rfl, rfl, .inl rfl⟩
              · next hreq =>
                  rw [Bool.not_eq_true', Bool.not_eq_false] at hreq
                  generalize hbuilt : disableOrphans s c 0 s.crtcs _ = built
                  have hnames : ¬ NamesGone built.1 ↔ SetModeClean s c a := by
                    rw [← hbuilt, namesGone_disableOrphans, namesGone_plane,
                      namesGone_crtcAddDpmsProps]
                    unfold SetModeClean AnyLeftBehind
                    simp [NamesGone, hlt, hatomic, hfb, hreq]
                  split
                  · split
                    · exact ⟨.one rfl hnames, rfl, rfl, .inl rfl⟩
                    · next htest =>
                        exact ⟨.one rfl hnames, rfl, rfl, .inr ⟨Bool.eq_false_iff.mpr htest, rfl⟩⟩
                  · exact ⟨.one rfl hnames, rfl, rfl, .inl rfl⟩

/-- A mode set that succeeds has come past the checks before the request. -/
theorem crtcSetMode_ok {s : Screen} {c : Nat} {testOnly : Bool} {a : SetModeAnswer}
    (h : (drmmodeCrtcSetMode s c testOnly a).2 = true) :
    c < s.crtcs.length ∧ a.fbOk = true ∧ (s.atomicModeset = true → a.reqOk = true) := by
  simp only [drmmodeCrtcSetMode] at h
  split at h
  · cases h
  · next crtc hc =>
      refine ⟨(List.getElem?_eq_some_iff.mp hc).1, ?_, fun hatomic => ?_⟩
      · by_contra hfb
        rw [Bool.not_eq_true] at hfb
        simp [hfb] at h
      · by_contra hreq
        rw [Bool.not_eq_true] at hreq
        cases hfb : a.fbOk with
        | false => simp [hfb] at h
        | true => simp [hfb, hatomic, hreq] at h

/-- **`drmmode_set_mode_major`** builds its requests under one condition. -/
theorem setModeMajor_builds (s : Screen) (c : Nat) (a : ModeMajorAnswer) :
    Builds s (drmmodeSetModeMajor s c a) (ModeMajorClean s c a) := by
  unfold drmmodeSetModeMajor
  split
  · next hrotate =>
      rw [Bool.not_eq_true'] at hrotate
      exact .none rfl fun h => absurd (hrotate.symm.trans h) nofun
  · next hrotate =>
      rw [Bool.not_eq_true', Bool.not_eq_false] at hrotate
      obtain ⟨hfirst, hoptions, hcrtcs, houtputs⟩ :=
        crtcSetMode_spec s c s.atomicModeset a.first
      have hfirst' : Builds s (drmmodeCrtcSetMode s c s.atomicModeset a.first).1
          (ModeMajorClean s c a) :=
        hfirst.congr ⟨fun h _ => h, fun h => h hrotate⟩
      split
      · next t heq =>
          rw [heq] at hfirst'
          exact hfirst'
      · next t heq =>
          obtain ⟨hlt, hfb, hreq⟩ := crtcSetMode_ok (congrArg Prod.snd heq)
          rw [heq] at hfirst' hoptions hcrtcs houtputs
          have hdone : Builds s (t.modesetDone c) (ModeMajorClean s c a) := hfirst'.trans_quiet rfl
          simp only
          split
          · next hatomic =>
              have hsame : s.atomicModeset = true :=
                (congrArg Options.atomicModeset hoptions).symm.trans hatomic
              -- the test has left the outputs alone, so the second request names the same
              have hkept : t.outputs = s.outputs := by
                cases houtputs with
                | inl h => exact h
                | inr h => exact absurd (h.1.symm.trans hsame) nofun
              have hagain := (crtcSetMode_spec (t.modesetDone c) c false a.again).1
              refine (hdone.trans hagain).congr ⟨fun h => h.1, fun h => ⟨h, fun _ _ _ _ => ?_⟩⟩
              have hnone := h hrotate hlt hsame hfb (hreq hsame)
              unfold AnyLeftBehind at hnone ⊢
              rw [← hkept] at hnone
              exact hnone
          · exact hdone

/-- **`drmmode_set_dpms`.** -/
theorem setDpms_builds (s : Screen) (dpmsOn : Bool) (a : SetDpmsAnswer) :
    Builds s (drmmodeSetDpms s dpmsOn a) (SetDpmsClean s a) := by
  unfold drmmodeSetDpms
  split
  · next hreq =>
      rw [Bool.not_eq_true'] at hreq
      exact .none rfl fun h => absurd (hreq.symm.trans h) nofun
  · next hreq =>
      rw [Bool.not_eq_true', Bool.not_eq_false] at hreq
      refine .one rfl ?_
      rw [namesGone_dpmsCrtcs, namesGone_dpmsUnused]
      unfold SetDpmsClean AnyLeftBehind
      simp [NamesGone, hreq]

/-- An output with a connector record has an id. -/
def LiveIds (s : Screen) : Prop :=
  ∀ output ∈ s.outputs, output.modeOutput.isSome = true → output.outputId ≠ gone

/-- **`drmmode_output_disable`** of an output whose connector is there. -/
theorem outputDisable_builds {s : Screen} {i : Nat} {output : Output}
    (hi : s.outputs[i]? = some output) (hhere : output.outputId ≠ gone) (reqOk commitOk : Bool) :
    Builds s (drmmodeOutputDisable s i reqOk commitOk)
      (reqOk = true → ∀ c ∈ output.currentCrtc, c < s.crtcs.length → ¬ AnyLeftBehind s c) := by
  have hown : ¬ NamesGone (connectorAddProp [] output).1 := by
    rw [namesGone_connector]
    simp [NamesGone, Vanished, hhere]
  -- whether the request is committed decides only about `current_crtc`
  have hlog : ∀ (built : Request × Bool) {p : Prop}, (¬ NamesGone built.1 ↔ p) →
      Builds s (if built.2 && commitOk then
          { s with
            requests := built.1 :: s.requests
            outputs := s.outputs.modify i Output.leaveCrtc }
        else { s with requests := built.1 :: s.requests }) p := by
    intro built p hp
    split
    · exact .one rfl hp
    · exact .one rfl hp
  simp only [drmmodeOutputDisable, hi]
  split
  · next hreq =>
      rw [Bool.not_eq_true'] at hreq
      exact .none rfl fun h => absurd (hreq.symm.trans h) nofun
  · next hreq =>
      rw [Bool.not_eq_true', Bool.not_eq_false] at hreq
      apply hlog
      split
      · next hcurrent => simp [hcurrent, hown]
      · next c hcurrent =>
          split
          · next hc =>
              have hle : s.crtcs.length ≤ c := List.getElem?_eq_none_iff.mp hc
              simp [hcurrent, hown, Nat.not_lt.mpr hle]
          · next crtc hc =>
              have hlt : c < s.crtcs.length := (List.getElem?_eq_some_iff.mp hc).1
              rw [namesGone_crtcAddDpmsProps]
              simp [hcurrent, hown, hlt, hreq, AnyLeftBehind]

/-- **`drmmode_output_dpms`.** -/
theorem outputDpms_builds {s : Screen} (hlive : LiveIds s) (i : Nat)
    (dpmsOn pendingModeset : Bool) (a : OutputDpmsAnswer) :
    Builds s (drmmodeOutputDpms s i dpmsOn pendingModeset a)
      (OutputDpmsClean s i dpmsOn pendingModeset a) := by
  unfold drmmodeOutputDpms OutputDpmsClean
  split
  · next hnone => exact .none rfl (by simp [hnone])
  · next output hi =>
      have hin : output ∈ s.outputs := List.mem_of_getElem? hi
      simp only [hi, Option.mem_def, Option.some.injEq, forall_eq']
      split
      · next hmode =>
          rw [Option.isNone_iff_eq_none] at hmode
          exact .none rfl (by simp [hmode])
      · next hmode =>
          have hsome : output.modeOutput.isSome = true := by
            rwa [← Option.not_isNone, Bool.not_eq_true', ← Bool.not_eq_true]
          cases dpmsOn with
          | true =>
              simp only [if_true]
              split
              · next hcrtc => exact .none rfl (by simp [hcrtc])
              · next c hcrtc =>
                  split
                  · next hc => exact .none rfl (by simp [hcrtc, hc])
                  · next crtc hc =>
                      split
                      · next hneed =>
                          refine (setModeMajor_builds s c a.major).congr ?_
                          simp [hsome, hcrtc, hc, hneed]
                      · next hneed => exact .none rfl (by simp [hcrtc, hc, hneed])
          | false =>
              simp only [Bool.false_eq_true, if_false]
              split
              · next hdisable =>
                  rw [Bool.and_eq_true, Bool.not_eq_true'] at hdisable
                  refine (outputDisable_builds hi (hlive output hin hsome) a.reqOk a.commitOk).congr ?_
                  simp [hsome, hdisable.1, hdisable.2]
              · next hdisable =>
                  refine .none rfl fun _ hatomic hpending => absurd ?_ hdisable
                  rw [hatomic, hpending]
                  rfl

/-- The condition on the mode sets of `drmmode_handle_uevents`. -/
def DetectClean (e : Uevent) : List Nat → Screen → Prop
  | [], _ => True
  | i :: rest, s =>
      let s := drmmodeOutputDetect s i (e.detected i)
      match badLinkCrtc s e i with
      | none => DetectClean e rest s
      | some c =>
          ModeMajorClean s c (e.major i) ∧
            ((resetBadLink s e i c).crashed = false → DetectClean e rest (resetBadLink s e i c))

theorem readConnectorId_requests (s : Screen) (i : Nat) :
    (readConnectorId s i).requests = s.requests := by
  unfold readConnectorId
  split <;> rfl

theorem detectOutputs_builds (e : Uevent) (rest : List Nat) (s : Screen) :
    Builds s (detectOutputs e rest s) (DetectClean e rest s) := by
  induction rest generalizing s with
  | nil => exact .none rfl trivial
  | cons i rest ih =>
      simp only [detectOutputs, DetectClean]
      have hquiet : (drmmodeOutputDetect s i (e.detected i)).requests = s.requests := rfl
      cases badLinkCrtc (drmmodeOutputDetect s i (e.detected i)) e i with
      | none => exact .quiet_trans hquiet (ih _)
      | some c =>
          have hset := (setModeMajor_builds (drmmodeOutputDetect s i (e.detected i)) c
            (e.major i)).trans_quiet (readConnectorId_requests _ i)
          apply Builds.quiet_trans hquiet
          simp only
          split
          · next hcrashed =>
              refine hset.congr (and_iff_left fun hrunning => ?_).symm
              exact Bool.noConfusion (hcrashed.symm.trans hrunning)
          · next hrunning =>
              refine (hset.trans (ih _)).congr (and_congr_right fun _ => ?_)
              exact ⟨fun h _ => h, fun h => h (Bool.eq_false_iff.mpr hrunning)⟩

theorem outputInit_requests (s : Screen) (id : BitVec 32) (num : Nat) (a : ConnectorAnswer)
    (dynamic : Bool) (crtcshift : Nat) :
    (drmmodeOutputInit s id num a dynamic crtcshift).1.requests = s.requests := by
  simp only [drmmodeOutputInit]
  split
  · rfl
  · split
    · rfl
    · split
      · rfl
      · split
        · rfl
        · split <;> rfl

theorem addOutputs_requests (num : Nat) (connectors : List (BitVec 32 × ConnectorAnswer))
    (s : Screen) : (addOutputs num connectors s).requests = s.requests := by
  induction connectors generalizing num s with
  | nil => rfl
  | cons c rest ih =>
      obtain ⟨id, a⟩ := c
      simp only [addOutputs]
      split
      · exact ih _ _
      · exact (ih _ _).trans (outputInit_requests s id num a true 0)

/-- **`drmmode_handle_uevents`.** -/
theorem handleUevents_builds (s : Screen) (e : Uevent) :
    Builds s (drmmodeHandleUevents s e) (DetectClean e (List.range s.outputs.length) s) := by
  have hdetect := detectOutputs_builds e (List.range s.outputs.length) s
  simp only [drmmodeHandleUevents]
  split
  · exact hdetect
  · split
    · exact hdetect
    · split
      · exact hdetect
      · exact hdetect.trans_quiet (addOutputs_requests _ _ _)

/-! ## Outputs that are there have an id -/

/-- Outputs that are kept, or that have an id when they have a record. -/
theorem LiveIds.of_forall {s t : Screen} (h : LiveIds s)
    (ht : ∀ output ∈ t.outputs,
      (∃ old ∈ s.outputs, output.outputId = old.outputId ∧ output.modeOutput = old.modeOutput) ∨
        (output.modeOutput.isSome = true → output.outputId ≠ gone)) : LiveIds t := by
  intro output hin hsome
  cases ht output hin with
  | inl hkept =>
      obtain ⟨old, hold, hid, hmode⟩ := hkept
      rw [hid]
      exact h old hold (hmode ▸ hsome)
  | inr hlive => exact hlive hsome

/-- Outputs changed one by one. -/
theorem LiveIds.of_modify {s t : Screen} (h : LiveIds s) (i : Nat) (f : Output → Output)
    (ht : t.outputs = s.outputs.modify i f)
    (hf : ∀ output, (f output).outputId = output.outputId ∧
        (f output).modeOutput = output.modeOutput ∨
      ((f output).modeOutput.isSome = true → (f output).outputId ≠ gone)) : LiveIds t := by
  apply h.of_forall
  intro output hin
  rw [ht] at hin
  obtain ⟨k, hk⟩ := List.mem_iff_getElem?.mp hin
  rw [List.getElem?_modify] at hk
  obtain ⟨old, hold, hnew⟩ := Option.map_eq_some_iff.mp hk
  have hmem : old ∈ s.outputs := List.mem_of_getElem? hold
  by_cases hik : i = k
  · rw [if_pos hik] at hnew
    subst hnew
    cases hf old with
    | inl hkept => exact .inl ⟨old, hmem, hkept.1, hkept.2⟩
    | inr hlive => exact .inr hlive
  · rw [if_neg hik] at hnew
    subst hnew
    exact .inl ⟨old, hmem, rfl, rfl⟩

theorem LiveIds.of_map {s t : Screen} (h : LiveIds s) (f : Output → Output)
    (ht : t.outputs = s.outputs.map f)
    (hf : ∀ output, (f output).outputId = output.outputId ∧
        (f output).modeOutput = output.modeOutput ∨
      ((f output).modeOutput.isSome = true → (f output).outputId ≠ gone)) : LiveIds t := by
  apply h.of_forall
  intro output hin
  rw [ht] at hin
  obtain ⟨old, hold, rfl⟩ := List.mem_map.mp hin
  cases hf old with
  | inl hkept => exact .inl ⟨old, hold, hkept.1, hkept.2⟩
  | inr hlive => exact .inr hlive

theorem LiveIds.of_eq {s t : Screen} (h : LiveIds s) (ht : t.outputs = s.outputs) : LiveIds t := by
  unfold LiveIds
  rwa [ht]

theorem crtcSetMode_live {s : Screen} (h : LiveIds s) (c : Nat) (testOnly : Bool)
    (a : SetModeAnswer) : LiveIds (drmmodeCrtcSetMode s c testOnly a).1 := by
  obtain ⟨_, _, _, houtputs⟩ := crtcSetMode_spec s c testOnly a
  cases houtputs with
  | inl hsame => exact h.of_eq hsame
  | inr hmap =>
      apply h.of_map _ hmap.2
      intro output
      unfold Output.takeCrtc
      left
      split
      · exact ⟨rfl, rfl⟩
      · split <;> exact ⟨rfl, rfl⟩

theorem setModeMajor_live {s : Screen} (h : LiveIds s) (c : Nat) (a : ModeMajorAnswer) :
    LiveIds (drmmodeSetModeMajor s c a) := by
  unfold drmmodeSetModeMajor
  split
  · exact h
  · have hfirst := crtcSetMode_live h c s.atomicModeset a.first
    split
    · next t heq => rwa [heq] at hfirst
    · next t heq =>
        rw [heq] at hfirst
        have hdone : LiveIds (t.modesetDone c) := hfirst.of_eq rfl
        simp only
        split
        · exact crtcSetMode_live hdone c false a.again
        · exact hdone

theorem outputDisable_live {s : Screen} (h : LiveIds s) (i : Nat) (reqOk commitOk : Bool) :
    LiveIds (drmmodeOutputDisable s i reqOk commitOk) := by
  have hlog : ∀ built : Request × Bool,
      LiveIds (if built.2 && commitOk then
          { s with
            requests := built.1 :: s.requests
            outputs := s.outputs.modify i Output.leaveCrtc }
        else { s with requests := built.1 :: s.requests }) := by
    intro built
    split
    · exact h.of_modify i Output.leaveCrtc rfl fun _ => .inl ⟨rfl, rfl⟩
    · exact h.of_eq rfl
  simp only [drmmodeOutputDisable]
  split
  · exact h
  · split
    · exact h
    · exact hlog _

theorem outputDpms_live {s : Screen} (h : LiveIds s) (i : Nat) (dpmsOn pendingModeset : Bool)
    (a : OutputDpmsAnswer) : LiveIds (drmmodeOutputDpms s i dpmsOn pendingModeset a) := by
  unfold drmmodeOutputDpms
  split
  · exact h
  · split
    · exact h
    · split
      · split
        · exact h
        · split
          · exact h
          · split
            · exact setModeMajor_live h _ a.major
            · exact h
      · split
        · exact outputDisable_live h i a.reqOk a.commitOk
        · exact h

theorem outputDetect_live {s : Screen} (h : LiveIds s) (i : Nat) (koutput : Option Connector) :
    LiveIds (drmmodeOutputDetect s i koutput) := by
  apply h.of_modify i _ rfl
  intro output
  unfold Output.detect
  split
  · exact .inl ⟨rfl, rfl⟩
  · next hhere =>
      split
      · exact .inr nofun
      · exact .inr fun _ => hhere

theorem outputInit_live {s : Screen} (h : LiveIds s) {id : BitVec 32} (hid : id ≠ gone)
    (num : Nat) (a : ConnectorAnswer) (dynamic : Bool) (crtcshift : Nat) :
    LiveIds (drmmodeOutputInit s id num a dynamic crtcshift).1 := by
  simp only [drmmodeOutputInit]
  split
  · exact h
  · split
    · exact h.of_modify _ _ rfl fun _ => .inr fun _ => hid
    · split
      · exact h
      · split
        · exact h
        · split
          · exact h
          · apply h.of_forall
            intro output hin
            cases List.mem_append.mp hin with
            | inl hold => exact .inl ⟨output, hold, rfl, rfl⟩
            | inr hnew =>
                rw [List.mem_singleton.mp hnew]
                exact .inr fun _ => hid

theorem detectOutputs_live (e : Uevent) (rest : List Nat) {s : Screen} (h : LiveIds s) :
    LiveIds (detectOutputs e rest s) := by
  induction rest generalizing s with
  | nil => exact h
  | cons i rest ih =>
      simp only [detectOutputs]
      have hdetect := outputDetect_live h i (e.detected i)
      split
      · exact ih hdetect
      · next c _ =>
          have hreset : LiveIds (resetBadLink (drmmodeOutputDetect s i (e.detected i)) e i c) := by
            apply (setModeMajor_live hdetect c (e.major i)).of_eq
            unfold resetBadLink readConnectorId
            split <;> rfl
          split
          · exact hreset
          · exact ih hreset

theorem addOutputs_live (num : Nat) (connectors : List (BitVec 32 × ConnectorAnswer))
    (hne : ∀ c ∈ connectors, c.1 ≠ gone) {s : Screen} (h : LiveIds s) :
    LiveIds (addOutputs num connectors s) := by
  induction connectors generalizing num s with
  | nil => exact h
  | cons c rest ih =>
      obtain ⟨id, a⟩ := c
      rw [List.forall_mem_cons] at hne
      simp only [addOutputs]
      split
      · exact ih (num + 1) hne.2 h
      · exact ih (num + 1) hne.2 (outputInit_live h hne.1 num a true 0)

theorem handleUevents_live {s : Screen} (h : LiveIds s) (e : Uevent) :
    LiveIds (drmmodeHandleUevents s e) := by
  have hdetect := detectOutputs_live e (List.range s.outputs.length) h
  simp only [drmmodeHandleUevents]
  split
  · exact hdetect
  · split
    · exact hdetect
    · next countCrtcs connectors hres =>
        split
        · exact hdetect
        · apply addOutputs_live 0 connectors (e.connectors_ne countCrtcs connectors hres)
          apply hdetect.of_map _ rfl
          intro output
          unfold Output.drop
          split
          · exact .inl ⟨rfl, rfl⟩
          · exact .inr nofun

/-! ## Runs -/

/-- A hotplug event, a call of the server, or a CRTC that RandR assigns to an output or takes
away from it. -/
inductive OutputOp where
  | uevent (e : Uevent)
  | outputDetect (i : Nat) (koutput : Option Connector)
  | assignCrtc (i : Nat) (crtc : Option Nat)
  | crtcSetMode (c : Nat) (testOnly : Bool) (a : SetModeAnswer)
  | setModeMajor (c : Nat) (a : ModeMajorAnswer)
  | setDpms (dpmsOn : Bool) (a : SetDpmsAnswer)
  | outputDpms (i : Nat) (dpmsOn pendingModeset : Bool) (a : OutputDpmsAnswer)
  | needModeset (c : Nat)

/-- One call, while the server runs. -/
def outputCall (s : Screen) : OutputOp → Screen
  | .uevent e => drmmodeHandleUevents s e
  | .outputDetect i koutput => drmmodeOutputDetect s i koutput
  | .assignCrtc i crtc =>
      { s with outputs := s.outputs.modify i fun output => { output with crtc := crtc } }
  | .crtcSetMode c testOnly a => (drmmodeCrtcSetMode s c testOnly a).1
  | .setModeMajor c a => drmmodeSetModeMajor s c a
  | .setDpms dpmsOn a => drmmodeSetDpms s dpmsOn a
  | .outputDpms i dpmsOn pendingModeset a => drmmodeOutputDpms s i dpmsOn pendingModeset a
  | .needModeset c =>
      { s with crtcs := s.crtcs.modify c fun crtc => { crtc with needModeset := true } }

def outputStep (s : Screen) (op : OutputOp) : Screen :=
  if s.crashed then s else outputCall s op

/-- **The condition on a call**: no request is built for a CRTC that an output with a vanished
connector was left behind on, and none by `drmmode_set_dpms` while such an output has no
CRTC. -/
def CallClean (s : Screen) : OutputOp → Prop
  | .uevent e => DetectClean e (List.range s.outputs.length) s
  | .crtcSetMode c _ a => SetModeClean s c a
  | .setModeMajor c a => ModeMajorClean s c a
  | .setDpms _ a => SetDpmsClean s a
  | .outputDpms i dpmsOn pendingModeset a => OutputDpmsClean s i dpmsOn pendingModeset a
  | _ => True

/-- The condition while the server runs. -/
def OpClean (s : Screen) (op : OutputOp) : Prop := s.crashed = false → CallClean s op

theorem outputCall_builds {s : Screen} (h : LiveIds s) (op : OutputOp) :
    Builds s (outputCall s op) (CallClean s op) := by
  cases op with
  | uevent e => exact handleUevents_builds s e
  | outputDetect i koutput => exact .none rfl trivial
  | assignCrtc i crtc => exact .none rfl trivial
  | crtcSetMode c testOnly a => exact (crtcSetMode_spec s c testOnly a).1
  | setModeMajor c a => exact setModeMajor_builds s c a
  | setDpms dpmsOn a => exact setDpms_builds s dpmsOn a
  | outputDpms i dpmsOn pendingModeset a => exact outputDpms_builds h i dpmsOn pendingModeset a
  | needModeset c => exact .none rfl trivial

/-- **Step.** -/
theorem outputStep_builds {s : Screen} (h : LiveIds s) (op : OutputOp) :
    Builds s (outputStep s op) (OpClean s op) := by
  unfold outputStep OpClean
  cases hcrashed : s.crashed with
  | true => exact .none rfl nofun
  | false =>
      exact (outputCall_builds h op).congr ⟨fun hclean _ => hclean, fun hclean => hclean rfl⟩

theorem outputCall_live {s : Screen} (h : LiveIds s) (op : OutputOp) :
    LiveIds (outputCall s op) := by
  cases op with
  | uevent e => exact handleUevents_live h e
  | outputDetect i koutput => exact outputDetect_live h i koutput
  | assignCrtc i crtc => exact h.of_modify i _ rfl fun _ => .inl ⟨rfl, rfl⟩
  | crtcSetMode c testOnly a => exact crtcSetMode_live h c testOnly a
  | setModeMajor c a => exact setModeMajor_live h c a
  | setDpms dpmsOn a =>
      apply h.of_eq
      show (drmmodeSetDpms s dpmsOn a).outputs = s.outputs
      unfold drmmodeSetDpms
      split <;> rfl
  | outputDpms i dpmsOn pendingModeset a => exact outputDpms_live h i dpmsOn pendingModeset a
  | needModeset c => exact h.of_eq rfl

theorem outputStep_live {s : Screen} (h : LiveIds s) (op : OutputOp) :
    LiveIds (outputStep s op) := by
  unfold outputStep
  split
  · exact h
  · exact outputCall_live h op

/-- The loop over the CRTCs makes no outputs. -/
theorem initCrtcs_outputs (i : Nat) (rest : List CrtcAnswer) (needed : Nat) (s : Screen)
    (assigned : Assigned) :
    (initCrtcs i rest needed (s, assigned)).1.outputs = s.outputs ∧
      (initCrtcs i rest needed (s, assigned)).1.toOptions = s.toOptions ∧
      (initCrtcs i rest needed (s, assigned)).1.requests = s.requests ∧
      (initCrtcs i rest needed (s, assigned)).1.crashed = s.crashed := by
  induction rest generalizing i needed s assigned with
  | nil => exact ⟨rfl, rfl, rfl, rfl⟩
  | cons a rest ih =>
      simp only [initCrtcs, drmmodeCrtcInit]
      split
      · cases a.initOk with
        | false => exact ih _ _ s assigned
        | true => exact ih _ _ _ _
      · exact ih _ _ s assigned

/-- A screen after `drmmode_pre_init` has built no request, and its outputs have ids. -/
theorem preInit_clean (options : Options) (assigned : Assigned) (res : Resources) :
    RequestsClean (drmmodePreInit (.empty options) assigned res).1 ∧
      LiveIds (drmmodePreInit (.empty options) assigned res).1 := by
  have houtputs : ∀ (crtcshift num needed : Nat) (connectors : List (BitVec 32 × ConnectorAnswer))
      (s : Screen), (∀ c ∈ connectors, c.1 ≠ gone) → RequestsClean s → LiveIds s →
      RequestsClean (initOutputs crtcshift num connectors (s, needed)).1 ∧
        LiveIds (initOutputs crtcshift num connectors (s, needed)).1 := by
    intro crtcshift num needed connectors
    induction connectors generalizing num needed with
    | nil => exact fun s _ hclean hlive => ⟨hclean, hlive⟩
    | cons c rest ih =>
        obtain ⟨id, a⟩ := c
        intro s hne hclean hlive
        rw [List.forall_mem_cons] at hne
        apply ih (num + 1) _ _ hne.2
        · exact hclean.of_eq (outputInit_requests s id num a false crtcshift)
        · exact outputInit_live hlive hne.1 num a false crtcshift
  have hempty : RequestsClean (.empty options) := fun req hin => by cases hin
  have hnone : LiveIds (.empty options) := fun output hin => by cases hin
  simp only [drmmodePreInit]
  obtain ⟨hclean, hlive⟩ := houtputs (ffs (assigned ^^^ 0xffffffff#32) - 1) 0 0 res.connectors
    (.empty options) res.connectors_ne hempty hnone
  generalize initOutputs (ffs (assigned ^^^ 0xffffffff#32) - 1) 0 res.connectors
    (.empty options, 0) = made at hclean hlive ⊢
  obtain ⟨houts, _, hreqs, _⟩ := initCrtcs_outputs 0 res.crtcs made.2 made.1 assigned
  exact ⟨hclean.of_eq hreqs, hlive.of_eq houts⟩

/-- **Vanished connectors.** In every run no request names the object -1 if and only if no
call builds a request for a CRTC that an output with a vanished connector was left behind on,
and `drmmode_set_dpms` does not run while such an output has no CRTC. -/
theorem requestsClean_iff (options : Options) (assigned : Assigned) (res : Resources)
    (ops : List OutputOp) :
    Always outputStep RequestsClean (drmmodePreInit (.empty options) assigned res).1 ops ↔
      Guarded outputStep OpClean (drmmodePreInit (.empty options) assigned res).1 ops := by
  obtain ⟨hclean, hlive⟩ := preInit_clean options assigned res
  exact always_iff_guarded (fun s op h => outputStep_live h op)
    (fun s op h hs => (outputStep_builds h op).clean_iff hs) hlive hclean ops

/-- One connector and one CRTC. -/
def oneOutput : Resources where
  connectors := [(30#32, ⟨some ⟨10, 1, none, false, [1#32]⟩, true, true, 20⟩)]
  crtcs := [⟨⟨0, 40#32, 50#32, 21, 22, [], false, by decide, by decide⟩, true⟩]
  connectors_ne := by decide

/-- An event after which the kernel lists no connector. -/
def unplugged : Uevent where
  detected := fun _ => none
  linkBad := fun _ => false
  major := fun _ => ⟨false, ⟨true, true, true, true⟩, ⟨true, true, true, true⟩⟩
  resources := some (1, [])
  connectors_ne := by
    intro countCrtcs connectors hres c hin
    cases hres
    cases hin

/-- **An unplugged connector.** It goes while its output is on CRTC 0, RandR takes the CRTC
away from the output, and the next mode set and DPMS change both name the object -1.  The
kernel refuses such a request. -/
theorem unplugged_connector_named :
    let s := (drmmodePreInit (.empty ⟨false, 0, false, none, false, true⟩) 0#32 oneOutput).1
    let t := run outputStep s
      [.assignCrtc 0 (some 0), .crtcSetMode 0 false ⟨true, true, true, true⟩, .uevent unplugged,
        .assignCrtc 0 none, .crtcSetMode 0 false ⟨true, true, true, false⟩,
        .setDpms true ⟨true, fun _ => true, fun _ => true⟩]
    t.requests.head? =
        some [(gone, 20), (gone, 20), (40#32, 21), (40#32, 22)] ∧
      t.requests.tail.head? = some [(gone, 20), (40#32, 21), (40#32, 22)] ∧ ¬ RequestsClean t := by
  intro s t
  have hdpms : t.requests.head? = some [(gone, 20), (gone, 20), (40#32, 21), (40#32, 22)] := by
    decide
  refine ⟨hdpms, by decide, fun hclean => ?_⟩
  apply hclean _ (List.mem_of_mem_head? hdpms)
  exact ⟨_, List.mem_cons_self, rfl⟩

end LoongsonVideo.Driver.Outputs
