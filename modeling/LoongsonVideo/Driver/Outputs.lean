import Mathlib.Algebra.Ring.Int.Defs
import Mathlib.Algebra.Ring.Nat
import Mathlib.Data.List.Basic

/-!
# Outputs and connectors

The records of `src/drmmode_display.c` for outputs and CRTCs, and how the driver makes
them from what the kernel lists.

* `parsePathBlob`, `drmmodeCreateName`: the name of an output.  A DisplayPort MST
  connector is named after the connector it hangs on.
* `drmmodeOutputInit`: an output for a connector, either a new one or, when a hotplugged
  MST connector has the name of an output there is, that one.
* `drmmodeCrtcInit`, `drmmodePreInit`: the outputs and CRTCs of a screen.
* `drmmodeOutputDetect`.

Connector ids are 32-bit words.  `output_id` of an output whose connector has gone is -1.
What the kernel, the allocator and the server answer is a parameter.
-/

namespace LoongsonVideo.Driver.Outputs

/-- The `output_id` -1. -/
def gone : BitVec 32 := 0xffffffff#32

/-- What the functions here read of a kernel connector: its type, its `PATH` property if it
has one, whether it is a non-desktop display, and `possible_crtcs` of its encoders. -/
structure Connector where
  connectorType : Nat
  connectorTypeId : Nat
  path : Option (List Char)
  nonDesktop : Bool
  encoders : List (BitVec 32)
  deriving DecidableEq, Repr

/-- `xf86OutputRec` and `drmmode_output_private_rec`.  `crtc` and `currentCrtc` are CRTCs of
the screen by number, `crtcIdProp` is the id of the connector's `CRTC_ID` property. -/
structure Output where
  name : List Char
  outputId : BitVec 32
  modeOutput : Option Connector
  modeEncoders : List (BitVec 32)
  possibleCrtcs : BitVec 32
  nonDesktop : Bool
  crtc : Option Nat
  currentCrtc : Option Nat
  crtcIdProp : Nat
  deriving DecidableEq, Repr

/-- What the functions here read of a CRTC: its place in the kernel's list, and the ids of
it, of its plane and of their properties.  The kernel gives no object the id -1. -/
structure Crtc where
  num : Nat
  crtcId : BitVec 32
  planeId : BitVec 32
  activeProp : Nat
  modeIdProp : Nat
  planeProps : List Nat
  needModeset : Bool
  crtcId_ne : crtcId ≠ gone
  planeId_ne : planeId ≠ gone

/-- An atomic request: the object and the property of each entry. -/
abbrev Request := List (BitVec 32 × Nat)

/-- What a screen is set up with: what decides about names, about the connectors that are left
to other heads of a shared entity, and whether modes are set atomically. -/
structure Options where
  isGpu : Bool
  scrnIndex : Nat
  entityShared : Bool
  zaphodHeads : Option (List (List Char))
  isSecondary : Bool
  atomicModeset : Bool
  deriving DecidableEq, Repr

/-- A screen: its outputs and CRTCs (`xf86CrtcConfigRec`), and the atomic requests built so
far, newest first.  After a NULL pointer was followed the server has `crashed`. -/
structure Screen extends Options where
  outputs : List Output
  crtcs : List Crtc
  requests : List Request
  crashed : Bool

/-- A screen before `drmmode_pre_init`. -/
def Screen.empty (options : Options) : Screen where
  toOptions := options
  outputs := []
  crtcs := []
  requests := []
  crashed := false

/-! ## Names -/

/-- `output_names`. -/
def outputNames : List (List Char) :=
  ["None".toList, "VGA".toList, "DVI-I".toList, "DVI-D".toList, "DVI-A".toList,
    "Composite".toList, "SVIDEO".toList, "LVDS".toList, "Component".toList, "DIN".toList,
    "DP".toList, "HDMI".toList, "HDMI-B".toList, "TV".toList, "eDP".toList, "Virtual".toList,
    "DSI".toList, "DPI".toList]

/-- `strtoul` to the base ten, on a text without a minus sign. -/
def strtoul (text : List Char) : Nat :=
  let text := text.dropWhile fun c => c = ' ' ∨ 9 ≤ c.toNat ∧ c.toNat ≤ 13
  let text := if text.head? = some '+' then text.tail else text
  (text.takeWhile Char.isDigit).foldl (fun n c => 10 * n + (c.toNat - 48)) 0

/-- `parse_path_blob`: the id of the connector at the base, and the rest of the path. -/
def parsePathBlob (pathBlob : Option (List Char)) : Option (BitVec 32 × List Char) :=
  match pathBlob with
  | none => none
  | some blobData =>
      if blobData.take 4 ≠ "mst:".toList then none
      else
        let digits := (blobData.drop 4).takeWhile (· ≠ '-')
        match (blobData.drop 4).dropWhile (· ≠ '-') with
        | [] => none
        | _ :: path =>
            if digits.length + 1 > 5 then none
            else some (BitVec.ofNat 32 (strtoul digits), path)

/-- `find_output`. -/
def findOutput (s : Screen) (id : BitVec 32) : Option Output :=
  s.outputs.find? fun output => output.outputId = id

/-- The last part of `drmmode_create_name`, for connectors without a usable path. -/
def fallbackName (s : Screen) (koutput : Connector) : List Char :=
  match outputNames[koutput.connectorType]? with
  | none =>
      "Unknown".toList ++ Nat.toDigits 10 koutput.connectorType ++ ['-'] ++
        Nat.toDigits 10 koutput.connectorTypeId
  | some kind =>
      if s.isGpu then
        -- `GPU_SCREEN_OFFSET` of the server is 256
        kind ++ ['-'] ++ Nat.toDigits 10 (s.scrnIndex - 256 + 1) ++ ['-'] ++
          Nat.toDigits 10 koutput.connectorTypeId
      else kind ++ ['-'] ++ Nat.toDigits 10 koutput.connectorTypeId

/-- `drmmode_create_name`.  `snprintf` leaves room for 31 characters. -/
def drmmodeCreateName (s : Screen) (koutput : Connector) : List Char :=
  let name :=
    match parsePathBlob koutput.path with
    | none => fallbackName s koutput
    | some (connId, extraPath) =>
        match findOutput s connId with
        | none => fallbackName s koutput
        | some output => output.name ++ ['-'] ++ extraPath
  name.take 31

/-! ## Making outputs and CRTCs -/

/-- The answers of one `drmmode_output_init`: the connector, its encoders, the server's
record for the output, and the id of the connector's `CRTC_ID` property. -/
structure ConnectorAnswer where
  connector : Option Connector
  encodersOk : Bool
  createOk : Bool
  crtcIdProp : Nat
  deriving DecidableEq, Repr

/-- The connectors that a head of a shared entity takes. -/
def headTakes (s : Screen) (num : Nat) (name : List Char) : Bool :=
  match s.zaphodHeads with
  | some tokens => tokens.contains name
  | none => if s.isSecondary then num = 1 else num = 0

/-- `possible_crtcs` of an output. -/
def possibleCrtcs (encoders : List (BitVec 32)) (crtcshift : Nat) : BitVec 32 :=
  encoders.foldl (fun (mask possible : BitVec 32) => mask ||| (possible >>> crtcshift &&& 0x7f#32))
    0#32

/-- `drmmode_output_init` for the connector `id`, the `num`th of the kernel's list. -/
def drmmodeOutputInit (s : Screen) (id : BitVec 32) (num : Nat) (a : ConnectorAnswer)
    (dynamic : Bool) (crtcshift : Nat) : Screen × Nat :=
  match a.connector with
  | none => (s, 0)
  | some koutput =>
      let name := drmmodeCreateName s koutput
      let old :=
        if koutput.path.isSome && dynamic then s.outputs.findIdx? fun output => output.name = name
        else none
      match old with
      | some i =>
          let hook := fun output : Output =>
            { output with
              outputId := id
              modeOutput := some koutput
              nonDesktop := koutput.nonDesktop }
          ({ s with outputs := s.outputs.modify i hook }, 1)
      | none =>
          if !a.encodersOk then (s, 0)
          else if s.entityShared && !headTakes s num name then (s, 0)
          else if !a.createOk then (s, 0)
          else
            let output : Output :=
              { name := name
                outputId := id
                modeOutput := some koutput
                modeEncoders := koutput.encoders
                possibleCrtcs := possibleCrtcs koutput.encoders crtcshift
                nonDesktop := koutput.nonDesktop
                crtc := none
                currentCrtc := none
                crtcIdProp := if s.atomicModeset then a.crtcIdProp else 0 }
            ({ s with outputs := s.outputs ++ [output] }, 1)

/-- The loop of `drmmode_pre_init` over the connectors, from number `num` on. -/
def initOutputs (crtcshift : Nat) : Nat → List (BitVec 32 × ConnectorAnswer) → Screen × Nat →
    Screen × Nat
  | _, [], acc => acc
  | num, (id, a) :: rest, (s, crtcsNeeded) =>
      let (s, made) := drmmodeOutputInit s id num a false crtcshift
      initOutputs crtcshift (num + 1) rest (s, crtcsNeeded + made)

/-- `assigned_crtcs` of the entity that the heads share. -/
abbrev Assigned := BitVec 32

/-- `LS_MarkCrtcInUse`. -/
def markCrtcInUse (assigned : Assigned) (num : Nat) : Assigned := assigned ||| (1#32 <<< num)

/-- A kernel CRTC, and whether `drmmode_crtc_init` succeeds for it. -/
structure CrtcAnswer where
  crtc : Crtc
  initOk : Bool

/-- `drmmode_crtc_init` for the `num`th CRTC of the kernel's list. -/
def drmmodeCrtcInit (s : Screen) (assigned : Assigned) (num : Nat) (a : CrtcAnswer) :
    Screen × Assigned × Nat :=
  if !a.initOk then (s, assigned, 0)
  else
    ({ s with crtcs := s.crtcs ++ [{ a.crtc with num := num }] }, markCrtcInUse assigned num, 1)

/-- The loop of `drmmode_pre_init` over the CRTCs, from number `i` on.  Below zero
`crtcs_needed` is not looked at. -/
def initCrtcs : Nat → List CrtcAnswer → Nat → Screen × Assigned → Screen × Assigned
  | _, [], _, acc => acc
  | i, a :: rest, crtcsNeeded, (s, assigned) =>
      if !s.entityShared || (crtcsNeeded ≠ 0 && !assigned.getLsbD i) then
        let (s, assigned, made) := drmmodeCrtcInit s assigned i a
        initCrtcs (i + 1) rest (crtcsNeeded - made) (s, assigned)
      else initCrtcs (i + 1) rest crtcsNeeded (s, assigned)

/-- `ffs`. -/
def ffs (x : BitVec 32) : Nat :=
  match (List.range 32).find? fun i => x.getLsbD i with
  | none => 0
  | some i => i + 1

/-- What the kernel answers a head: its connectors, none of which has the id -1, and its
CRTCs. -/
structure Resources where
  connectors : List (BitVec 32 × ConnectorAnswer)
  crtcs : List CrtcAnswer
  connectors_ne : ∀ c ∈ connectors, c.1 ≠ gone

/-- The part of `drmmode_pre_init` that makes outputs and CRTCs.  When all CRTCs are in use
C leaves the shift undefined; then there is no CRTC left to describe. -/
def drmmodePreInit (s : Screen) (assigned : Assigned) (res : Resources) : Screen × Assigned :=
  let crtcshift := ffs (assigned ^^^ 0xffffffff#32) - 1
  let (s, crtcsNeeded) := initOutputs crtcshift 0 res.connectors (s, 0)
  initCrtcs 0 res.crtcs crtcsNeeded (s, assigned)

/-! ## Detecting -/

/-- `drmmode_output_detect`, when the kernel answers `koutput` for the connector. -/
def Output.detect (output : Output) (koutput : Option Connector) : Output :=
  if output.outputId = gone then output
  else
    match koutput with
    | none => { output with modeOutput := none, outputId := gone }
    | some koutput => { output with modeOutput := some koutput }

/-- `drmmode_output_detect` of output `i`. -/
def drmmodeOutputDetect (s : Screen) (i : Nat) (koutput : Option Connector) : Screen :=
  { s with outputs := s.outputs.modify i fun output => output.detect koutput }

/-- The name of an MST connector, and of one whose base is not there. -/
example :
    let vga : Connector := ⟨1, 1, none, false, []⟩
    let mst : Connector := ⟨10, 2, some "mst:7-3-1".toList, false, []⟩
    let empty := Screen.empty ⟨false, 0, false, none, false, true⟩
    let s := (drmmodeOutputInit empty 7#32 0 ⟨some vga, true, true, 20⟩ false 0).1
    drmmodeCreateName s mst = "VGA-1-3-1".toList ∧ drmmodeCreateName empty mst = "DP-2".toList := by
  decide

end LoongsonVideo.Driver.Outputs
