import LoongsonVideo.Driver.Outputs

/-!
# Atomic requests

The functions of `src/drmmode_display.c` that build atomic requests: mode sets, DPMS changes
and disabled outputs.  A request is a list of objects and properties;
`drmModeAtomicAddProperty` adds an entry when neither id is zero.  Every request that is
built goes to the screen's log, whether it is committed or not.  What properties are set to
is left out.

`gone` as the object of an entry is the id of an output whose connector has gone.
-/

namespace LoongsonVideo.Driver.Outputs

/-- `drmModeAtomicAddProperty`: the request, and whether an entry was added. -/
def atomicAddProperty (req : Request) (objectId : BitVec 32) (propId : Nat) : Request × Bool :=
  if objectId = 0#32 ∨ propId = 0 then (req, false) else (req ++ [(objectId, propId)], true)

/-- `connector_add_prop` for `CRTC_ID`. -/
def connectorAddProp (req : Request) (output : Output) : Request × Bool :=
  atomicAddProperty req output.outputId output.crtcIdProp

/-- `crtc_add_prop` for `ACTIVE` and then for `MODE_ID`, and whether both were added. -/
def crtcAddProps (req : Request) (crtc : Crtc) : Request × Bool :=
  let (req, active) := atomicAddProperty req crtc.crtcId crtc.activeProp
  let (req, mode) := atomicAddProperty req crtc.crtcId crtc.modeIdProp
  (req, active && mode)

/-- `plane_add_props`. -/
def planeAddProps (crtc : Crtc) : List Nat → Request → Request × Bool
  | [], req => (req, true)
  | propId :: rest, req =>
      let (req, added) := atomicAddProperty req crtc.planeId propId
      let (req, restAdded) := planeAddProps crtc rest req
      (req, added && restAdded)

/-- The variables of `crtc_add_dpms_props`: `ret == 0` is `good`. -/
structure DpmsProps where
  req : Request
  good : Bool
  crtcActive : Bool
  deriving DecidableEq, Repr

/-- The loop of `crtc_add_dpms_props` over the outputs, for CRTC `c`. -/
def dpmsOutputs (c : Nat) (dpmsOn : Bool) : List Output → DpmsProps → DpmsProps
  | [], v => v
  | output :: rest, v =>
      if output.crtc ≠ some c then
        if output.currentCrtc = some c then
          let (req, added) := connectorAddProp v.req output
          dpmsOutputs c dpmsOn rest { v with req := req, good := v.good && added }
        else dpmsOutputs c dpmsOn rest v
      else if output.outputId = gone then dpmsOutputs c dpmsOn rest v
      else
        let (req, added) := connectorAddProp v.req output
        dpmsOutputs c dpmsOn rest
          { req := req, good := v.good && added, crtcActive := v.crtcActive || dpmsOn }

/-- `crtc_add_dpms_props`.  `blobOk` is the answer of `drm_mode_ensure_blob`. -/
def crtcAddDpmsProps (s : Screen) (req : Request) (c : Nat) (crtc : Crtc) (dpmsOn blobOk : Bool) :
    DpmsProps :=
  let v := dpmsOutputs c dpmsOn s.outputs ⟨req, true, false⟩
  let (req, added) := crtcAddProps v.req crtc
  { v with req := req, good := v.good && (!v.crtcActive || blobOk) && added }

/-- The outputs of `other` that a mode set of `c` takes away, and those it leaves. -/
def lostOutputs (s : Screen) (c other : Nat) : Nat :=
  s.outputs.countP fun output => output.currentCrtc = some other ∧ output.crtc = some c

def remainingOutputs (s : Screen) (c other : Nat) : Nat :=
  s.outputs.countP fun output => output.currentCrtc = some other ∧ output.crtc ≠ some c

/-- The loop of `drmmode_crtc_set_mode` that disables orphaned CRTCs. -/
def disableOrphans (s : Screen) (c : Nat) : Nat → List Crtc → Request × Bool → Request × Bool
  | _, [], acc => acc
  | other, crtc :: rest, (req, good) =>
      if other ≠ c ∧ lostOutputs s c other > 0 ∧ remainingOutputs s c other = 0 then
        let (req, added) := crtcAddProps req crtc
        disableOrphans s c (other + 1) rest (req, good && added)
      else disableOrphans s c (other + 1) rest (req, good)

/-- What a mode set does to an output's `current_crtc`. -/
def Output.takeCrtc (c : Nat) (output : Output) : Output :=
  if output.crtc = some c then { output with currentCrtc := some c }
  else if output.currentCrtc = some c then { output with currentCrtc := none }
  else output

/-- The answers of one `drmmode_crtc_set_mode`. -/
structure SetModeAnswer where
  fbOk : Bool
  reqOk : Bool
  blobOk : Bool
  commitOk : Bool
  deriving DecidableEq, Repr

/-- `drmmode_crtc_set_mode`, which returns zero for `true`.  Without atomic mode setting no
request is built. -/
def drmmodeCrtcSetMode (s : Screen) (c : Nat) (testOnly : Bool) (a : SetModeAnswer) :
    Screen × Bool :=
  match s.crtcs[c]? with
  | none => (s, false)
  | some crtc =>
      if !a.fbOk then (s, false)
      else if !s.atomicModeset then (s, a.commitOk)
      else if !a.reqOk then (s, false)
      else
        let v := crtcAddDpmsProps s [] c crtc true a.blobOk
        let (req, planes) := planeAddProps crtc crtc.planeProps v.req
        let (req, good) := disableOrphans s c 0 s.crtcs (req, v.good && planes)
        let s := { s with requests := req :: s.requests }
        if good && a.commitOk then
          if testOnly then (s, true)
          else ({ s with outputs := s.outputs.map (Output.takeCrtc c) }, true)
        else (s, false)

/-- The first loop of `drmmode_set_dpms`, over the outputs.  Only the last answer counts. -/
def dpmsUnusedOutputs : List Output → Request × Bool → Request × Bool
  | [], acc => acc
  | output :: rest, (req, good) =>
      if output.crtc ≠ none then dpmsUnusedOutputs rest (req, good)
      else dpmsUnusedOutputs rest (connectorAddProp req output)

/-- The answers of one `drmmode_set_dpms`, per CRTC for the blob and the framebuffer. -/
structure SetDpmsAnswer where
  reqOk : Bool
  blobOk : Nat → Bool
  fbOk : Nat → Bool

/-- The second loop of `drmmode_set_dpms`, over the CRTCs from number `c` on: the request,
`ret == 0`, and the CRTCs with their new `need_modeset`. -/
def dpmsCrtcs (s : Screen) (dpmsOn : Bool) (a : SetDpmsAnswer) : Nat → List Crtc → Request × Bool →
    Request × Bool × List Crtc
  | _, [], (req, good) => (req, good, [])
  | c, crtc :: rest, (req, good) =>
      let v := crtcAddDpmsProps s req c crtc dpmsOn (a.blobOk c)
      if dpmsOn && v.crtcActive && crtc.needModeset && a.fbOk c then
        let (req, planes) := planeAddProps crtc crtc.planeProps v.req
        let (req, good, crtcs) := dpmsCrtcs s dpmsOn a (c + 1) rest (req, good && v.good && planes)
        (req, good, { crtc with needModeset := false } :: crtcs)
      else
        let (req, good, crtcs) := dpmsCrtcs s dpmsOn a (c + 1) rest (v.req, good && v.good)
        (req, good, crtc :: crtcs)

/-- `drmmode_set_dpms`, up to `xf86DPMSSet`.  The commit changes nothing here. -/
def drmmodeSetDpms (s : Screen) (dpmsOn : Bool) (a : SetDpmsAnswer) : Screen :=
  if !a.reqOk then s
  else
    let (req, good) := dpmsUnusedOutputs s.outputs ([], true)
    let (req, _, crtcs) := dpmsCrtcs s dpmsOn a 0 s.crtcs (req, good)
    { s with crtcs := crtcs, requests := req :: s.requests }

/-- An output that has been disabled. -/
def Output.leaveCrtc (output : Output) : Output := { output with currentCrtc := none }

/-- `drmmode_output_disable` of output `i`. -/
def drmmodeOutputDisable (s : Screen) (i : Nat) (reqOk commitOk : Bool) : Screen :=
  match s.outputs[i]? with
  | none => s
  | some output =>
      if !reqOk then s
      else
        let (req, added) := connectorAddProp [] output
        let (req, good) :=
          match output.currentCrtc with
          | none => (req, added)
          | some c =>
              match s.crtcs[c]? with
              | none => (req, added)
              | some crtc =>
                  let v := crtcAddDpmsProps s req c crtc false true
                  (v.req, added && v.good)
        let s := { s with requests := req :: s.requests }
        if good && commitOk then
          { s with outputs := s.outputs.modify i Output.leaveCrtc }
        else s

/-- The answers of one `drmmode_set_mode_major`: `xf86CrtcRotate`, the first
`drmmode_crtc_set_mode`, and the one after a test. -/
structure ModeMajorAnswer where
  rotateOk : Bool
  first : SetModeAnswer
  again : SetModeAnswer
  deriving DecidableEq, Repr

/-- The CRTC has been set. -/
def Screen.modesetDone (s : Screen) (c : Nat) : Screen :=
  { s with crtcs := s.crtcs.modify c fun crtc => { crtc with needModeset := false } }

/-- `drmmode_set_mode_major` with a mode.  With atomic mode setting the mode is tested
first. -/
def drmmodeSetModeMajor (s : Screen) (c : Nat) (a : ModeMajorAnswer) : Screen :=
  if !a.rotateOk then s
  else
    match drmmodeCrtcSetMode s c s.atomicModeset a.first with
    | (s, false) => s
    | (s, true) =>
        let s := s.modesetDone c
        if s.atomicModeset then (drmmodeCrtcSetMode s c false a.again).1 else s

/-- The answers of one `drmmode_output_dpms`. -/
structure OutputDpmsAnswer where
  reqOk : Bool
  commitOk : Bool
  major : ModeMajorAnswer
  deriving DecidableEq, Repr

/-- `drmmode_output_dpms` of output `i`. -/
def drmmodeOutputDpms (s : Screen) (i : Nat) (dpmsOn pendingModeset : Bool)
    (a : OutputDpmsAnswer) : Screen :=
  match s.outputs[i]? with
  | none => s
  | some output =>
      if output.modeOutput.isNone then s
      else if dpmsOn then
        match output.crtc with
        | none => s
        | some c =>
            match s.crtcs[c]? with
            | none => s
            | some crtc => if crtc.needModeset then drmmodeSetModeMajor s c a.major else s
      else if s.atomicModeset && !pendingModeset then
        drmmodeOutputDisable s i a.reqOk a.commitOk
      else s

end LoongsonVideo.Driver.Outputs
