import LoongsonVideo.Driver.AtomicModeset

/-!
# Hotplug events

`drmmode_handle_uevents` of `src/drmmode_uevent.c`.  It detects every output, sets the mode
again on outputs with a bad link, drops the connectors that the kernel no longer lists, and
makes outputs for those that are new.  An output whose connector has gone keeps its CRTC and its
`link-status`, since `drmmode_output_detect` returns before it updates the properties.
-/

namespace LoongsonVideo.Driver.Outputs

/-- What happens while one event is handled: what the kernel answers for the connector of
each output, the outputs whose `link-status` is bad as they last had it and the mode sets these
lead to, and the resources, with the number of CRTCs and the connectors.  No connector has the
id -1. -/
structure Uevent where
  detected : Nat → Option Connector
  linkBad : Nat → Bool
  major : Nat → ModeMajorAnswer
  resources : Option (Nat × List (BitVec 32 × ConnectorAnswer))
  connectors_ne : ∀ countCrtcs connectors, resources = some (countCrtcs, connectors) →
    ∀ c ∈ connectors, c.1 ≠ gone

/-- The CRTC of output `i`, if there is one whose link is bad. -/
def badLinkCrtc (s : Screen) (e : Uevent) (i : Nat) : Option Nat :=
  if e.linkBad i then s.outputs[i]?.bind Output.crtc else none

/-- `drmmode_output->mode_output->connector_id`, which the message about a bad link prints.  A
connector that has gone left NULL there. -/
def readConnectorId (s : Screen) (i : Nat) : Screen :=
  if s.outputs[i]?.any fun output => output.modeOutput.isNone then { s with crashed := true } else s

/-- The mode is set again on output `i`, whose link is bad, and the message is printed. -/
def resetBadLink (s : Screen) (e : Uevent) (i c : Nat) : Screen :=
  readConnectorId (drmmodeSetModeMajor s c (e.major i)) i

/-- The first loop of `drmmode_handle_uevents`, over the outputs. -/
def detectOutputs (e : Uevent) : List Nat → Screen → Screen
  | [], s => s
  | i :: rest, s =>
      let s := drmmodeOutputDetect s i (e.detected i)
      match badLinkCrtc s e i with
      | none => detectOutputs e rest s
      | some c =>
          let s := resetBadLink s e i c
          if s.crashed then s else detectOutputs e rest s

/-- An output after the second loop. -/
def Output.drop (ids : List (BitVec 32)) (output : Output) : Output :=
  if output.outputId ∈ ids then output else { output with modeOutput := none, outputId := gone }

/-- The second loop, over the outputs. -/
def dropOutputs (ids : List (BitVec 32)) (s : Screen) : Screen :=
  { s with outputs := s.outputs.map (Output.drop ids) }

/-- The third loop, over the connectors from number `num` on. -/
def addOutputs : Nat → List (BitVec 32 × ConnectorAnswer) → Screen → Screen
  | _, [], s => s
  | num, (id, a) :: rest, s =>
      if s.outputs.any fun output => output.outputId = id then addOutputs (num + 1) rest s
      else addOutputs (num + 1) rest (drmmodeOutputInit s id num a true 0).1

/-- `drmmode_handle_uevents`, when there is an event. -/
def drmmodeHandleUevents (s : Screen) (e : Uevent) : Screen :=
  let s := detectOutputs e (List.range s.outputs.length) s
  if s.crashed then s
  else
    match e.resources with
    | none => s
    | some (countCrtcs, connectors) =>
        if countCrtcs ≠ s.crtcs.length then s
        else addOutputs 0 connectors (dropOutputs (connectors.map Prod.fst) s)

end LoongsonVideo.Driver.Outputs
