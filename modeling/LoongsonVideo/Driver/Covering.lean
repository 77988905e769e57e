import LoongsonVideo.Verified.Scan
import Mathlib.Data.Set.Basic
import Mathlib.Algebra.Order.Ring.Int

/-!
# The CRTC that covers a drawable

`ms_dri2_crtc_covering_drawable` and `ms_randr_crtc_covering_drawable` of
`src/vblank.c`.  Both walk the CRTCs of a screen for the one that shows most of a
drawable, and fall back to the CRTC of the primary output when the drawable is on an
output slave.  One works on the CRTCs of `xf86`, the other on those of RandR, and what
they do otherwise is the same code twice: `coveringCrtc`, with what differs in a
`Search`.

A `BoxRec` has 16-bit fields, so every store into one keeps the low 16 bits.

* `coverings_agree_iff`: with which rotations the two functions agree.
* `covering_most_iff`: for which drawables the CRTC is the one that shows most.
-/

namespace LoongsonVideo.Driver.Covering

open LoongsonVideo.Verified
open LoongsonVideo.Verified.Scan (scan scan_map scan_congr scan_firstMost FirstMost)

/-! ## Boxes -/

/-- A store into a `short`. -/
def short (v : Int) : Int := v.bmod (2 ^ 16)

/-- `BoxRec`. -/
structure Box where
  x1 : Int
  y1 : Int
  x2 : Int
  y2 : Int
  deriving DecidableEq, Repr

def Box.zero : Box := ⟨0, 0, 0, 0⟩

/-- `ms_box_intersect`. -/
def msBoxIntersect (a b : Box) : Box :=
  let x1 := if a.x1 > b.x1 then a.x1 else b.x1
  let x2 := if a.x2 < b.x2 then a.x2 else b.x2
  if x1 ≥ x2 then .zero
  else
    let y1 := if a.y1 > b.y1 then a.y1 else b.y1
    let y2 := if a.y2 < b.y2 then a.y2 else b.y2
    if y1 ≥ y2 then .zero else ⟨x1, y1, x2, y2⟩

/-- `ms_box_area`, in an `int`. -/
def msBoxArea (box : Box) : Int := ((box.x2 - box.x1) * (box.y2 - box.y1)).bmod (2 ^ 32)

/-! ## CRTCs -/

/-- `RR_Rotate_0` to `RR_Rotate_270`. -/
inductive Turn where
  | rotate0
  | rotate90
  | rotate180
  | rotate270
  deriving DecidableEq, Repr

def Turn.bit : Turn → Nat
  | .rotate0 => 1
  | .rotate90 => 2
  | .rotate180 => 4
  | .rotate270 => 8

/-- By a quarter, to either side. -/
def Turn.quarter : Turn → Bool
  | .rotate0 => false
  | .rotate90 => true
  | .rotate180 => false
  | .rotate270 => true

/-- A `Rotation`: one turn and the reflections. -/
structure Rotation where
  turn : Turn
  reflectX : Bool
  reflectY : Bool
  deriving DecidableEq, Repr

/-- The word the server keeps it in. -/
def Rotation.word (r : Rotation) : Nat :=
  r.turn.bit ||| (if r.reflectX then 16 else 0) ||| (if r.reflectY then 32 else 0)

/-- The size of a mode. -/
structure Mode where
  hDisplay : Int
  vDisplay : Int
  deriving DecidableEq, Repr

/-- The server's `xf86ModeWidth` and `xf86ModeHeight`, which look at the turn only. -/
structure ModeSizes where
  xf86ModeWidth : Mode → Rotation → Int
  xf86ModeHeight : Mode → Rotation → Int
  width_upright : ∀ m r, r.turn.quarter = false → xf86ModeWidth m r = m.hDisplay
  width_quarter : ∀ m r, r.turn.quarter = true → xf86ModeWidth m r = m.vDisplay
  height_upright : ∀ m r, r.turn.quarter = false → xf86ModeHeight m r = m.vDisplay
  height_quarter : ∀ m r, r.turn.quarter = true → xf86ModeHeight m r = m.hDisplay

/-- What is read of an `xf86CrtcRec`.  `ptr` is its address, `dpmsOn` is read in the
driver's record of it. -/
structure Xf86Crtc where
  ptr : Nat
  enabled : Bool
  dpmsOn : Bool
  x : Int
  y : Int
  mode : Mode
  rotation : Rotation
  deriving DecidableEq, Repr

/-- The size of an `RRModeRec`. -/
structure RRMode where
  width : UInt16
  height : UInt16
  deriving DecidableEq, Repr

/-- What is read of an `RRCrtcRec`. -/
structure RRCrtc where
  ptr : Nat
  devPrivate : Xf86Crtc
  x : Int
  y : Int
  mode : Option RRMode
  rotation : Rotation
  deriving DecidableEq, Repr

/-- `ms_crtc_on`. -/
def msCrtcOn (crtc : Xf86Crtc) : Bool := crtc.enabled && crtc.dpmsOn

/-- `ms_crtc_box`. -/
def msCrtcBox (server : ModeSizes) (crtc : Xf86Crtc) : Box :=
  if crtc.enabled then
    { x1 := short crtc.x
      x2 := short (crtc.x + server.xf86ModeWidth crtc.mode crtc.rotation)
      y1 := short crtc.y
      y2 := short (crtc.y + server.xf86ModeHeight crtc.mode crtc.rotation) }
  else .zero

/-- `ms_randr_crtc_box`.  The `switch` compares the whole word. -/
def msRandrCrtcBox (crtc : RRCrtc) : Box :=
  match crtc.mode with
  | none => .zero
  | some mode =>
      if crtc.rotation.word = 2 ∨ crtc.rotation.word = 8 then
        { x1 := short crtc.x
          x2 := short (crtc.x + mode.height.toNat)
          y1 := short crtc.y
          y2 := short (crtc.y + mode.width.toNat) }
      else
        { x1 := short crtc.x
          x2 := short (crtc.x + mode.width.toNat)
          y1 := short crtc.y
          y2 := short (crtc.y + mode.height.toNat) }

/-! ## Screens -/

/-- What is read of an `RROutputRec`.  `onScreen` says whether its `pScreen` is the
screen it was looked up on. -/
structure RROutput where
  onScreen : Bool
  crtc : Option RRCrtc
  deriving DecidableEq, Repr

/-- The RandR record of a screen. -/
structure RRScreen where
  primaryOutput : Option RROutput
  crtcs : List RRCrtc
  outputs : List RROutput
  deriving DecidableEq, Repr

/-- A screen: `xf86_config`, its RandR record, and the screens on its `slave_list`. -/
inductive Screen where
  | mk (isGPU isOutputSlave : Bool) (xf86Config : Option (List Xf86Crtc))
      (randr : Option RRScreen) (slaves : List Screen)

def Screen.isOutputSlave : Screen → Bool
  | .mk _ isOutputSlave _ _ _ => isOutputSlave

/-- The outputs of `ms_first_output` in the order of its loops: CRTC by CRTC. -/
def firstOutputOf (outputs : List RROutput) : List RRCrtc → Option RROutput
  | [] => none
  | crtc :: rest =>
      match outputs.find? fun output => output.crtc.map RRCrtc.ptr = some crtc.ptr with
      | some output => some output
      | none => firstOutputOf outputs rest

/-- `ms_first_output`. -/
def msFirstOutput (randr : Option RRScreen) : Option RROutput :=
  match randr with
  | none => none
  | some scrPriv =>
      match scrPriv.primaryOutput with
      | none => firstOutputOf scrPriv.outputs scrPriv.crtcs
      | some primary =>
          if primary.crtc.isSome && primary.onScreen then some primary
          else firstOutputOf scrPriv.outputs scrPriv.crtcs

/-! ## The search -/

/-- What differs between the two searches: the list they walk, when a CRTC of it is on,
its box, and what they take of the primary output's CRTC. -/
structure Search (κ : Type) where
  crtcs : Option (List Xf86Crtc) → Option RRScreen → Option (List κ)
  crtcOn : Bool → κ → Bool
  crtcBox : κ → Box
  primary : RRCrtc → κ

/-- `coverage` of a CRTC. -/
def Search.coverage {κ : Type} (search : Search κ) (box : Box) (crtc : κ) : Int :=
  msBoxArea (msBoxIntersect (search.crtcBox crtc) box)

mutual

/-- `ms_covering_xf86_crtc` and `ms_covering_randr_crtc`.  `rrKey` says whether
`rrPrivKey` is registered. -/
def coveringCrtc {κ : Type} (search : Search κ) (rrKey : Bool) (box : Box) (screenIsMs : Bool) :
    Screen → Option κ
  | .mk isGPU _ xf86Config randr slaves =>
      match search.crtcs xf86Config randr with
      | none => none
      | some crtcs =>
          match (scan (search.crtcOn screenIsMs) (search.coverage box) crtcs (none, 0)).1 with
          | some bestCrtc => some bestCrtc
          | none =>
              if isGPU then none
              else
                match (if rrKey then msFirstOutput randr else none).bind RROutput.crtc with
                | none => none
                | some crtc =>
                    if !msCrtcOn crtc.devPrivate then none
                    else if slaveCovers search rrKey box slaves then some (search.primary crtc)
                    else none

/-- The loop over the slave screens. -/
def slaveCovers {κ : Type} (search : Search κ) (rrKey : Bool) (box : Box) : List Screen → Bool
  | [] => false
  | slave :: rest =>
      if !slave.isOutputSlave then slaveCovers search rrKey box rest
      else if (coveringCrtc search rrKey box false slave).isSome then true
      else slaveCovers search rrKey box rest

end

/-- What `ms_covering_xf86_crtc` works on. -/
def xf86Search (server : ModeSizes) : Search Xf86Crtc where
  crtcs := fun xf86Config _ => xf86Config
  crtcOn := fun screenIsMs crtc => if screenIsMs then msCrtcOn crtc else crtc.enabled
  crtcBox := msCrtcBox server
  primary := RRCrtc.devPrivate

/-- What `ms_covering_randr_crtc` works on. -/
def randrSearch (rrKey : Bool) : Search RRCrtc where
  crtcs := fun _ randr => if !rrKey then none else randr.map RRScreen.crtcs
  crtcOn := fun screenIsMs crtc =>
    if screenIsMs then msCrtcOn crtc.devPrivate else crtc.mode.isSome
  crtcBox := msRandrCrtcBox
  primary := id

/-- `ms_covering_xf86_crtc`. -/
def msCoveringXf86Crtc (server : ModeSizes) (rrKey : Bool) (s : Screen) (box : Box)
    (screenIsMs : Bool) : Option Xf86Crtc :=
  coveringCrtc (xf86Search server) rrKey box screenIsMs s

/-- `ms_covering_randr_crtc`. -/
def msCoveringRandrCrtc (rrKey : Bool) (s : Screen) (box : Box) (screenIsMs : Bool) :
    Option RRCrtc :=
  coveringCrtc (randrSearch rrKey) rrKey box screenIsMs s

/-- A drawable as the protocol admits it. -/
structure Drawable where
  x : Int16
  y : Int16
  width : UInt16
  height : UInt16
  deriving DecidableEq, Repr

/-- The `box` both functions fill in. -/
def Drawable.box (d : Drawable) : Box where
  x1 := short d.x.toInt
  y1 := short d.y.toInt
  x2 := short (short d.x.toInt + d.width.toNat)
  y2 := short (short d.y.toInt + d.height.toNat)

/-- `ms_dri2_crtc_covering_drawable`. -/
def msDri2CrtcCoveringDrawable (server : ModeSizes) (rrKey : Bool) (s : Screen) (d : Drawable) :
    Option Xf86Crtc :=
  msCoveringXf86Crtc server rrKey s d.box true

/-- `ms_randr_crtc_covering_drawable`. -/
def msRandrCrtcCoveringDrawable (rrKey : Bool) (s : Screen) (d : Drawable) : Option RRCrtc :=
  msCoveringRandrCrtc rrKey s d.box true

/-! ## The two searches -/

mutual

/-- A property of the lists of a screen and of all screens below it. -/
def Everywhere (P : Option (List Xf86Crtc) → Option RRScreen → Prop) : Screen → Prop
  | .mk _ _ xf86Config randr slaves => P xf86Config randr ∧ EverywhereAll P slaves

def EverywhereAll (P : Option (List Xf86Crtc) → Option RRScreen → Prop) : List Screen → Prop
  | [] => True
  | slave :: rest => Everywhere P slave ∧ EverywhereAll P rest

end

/-- The second search walks the first one's list under other names, and measures the
CRTCs that are on as the first one does. -/
structure Alike {κ ι : Type} (search : Search κ) (other : Search ι) (name : ι → κ) (box : Box)
    (xf86Config : Option (List Xf86Crtc)) (randr : Option RRScreen) : Prop where
  crtcs : search.crtcs xf86Config randr = (other.crtcs xf86Config randr).map (List.map name)
  crtcOn : ∀ l, other.crtcs xf86Config randr = some l → ∀ c ∈ l, ∀ screenIsMs,
    other.crtcOn screenIsMs c = search.crtcOn screenIsMs (name c)
  coverage : ∀ l, other.crtcs xf86Config randr = some l → ∀ c ∈ l, ∀ screenIsMs,
    other.crtcOn screenIsMs c = true → other.coverage box c = search.coverage box (name c)

section Alike

variable {κ ι : Type} {search : Search κ} {other : Search ι} {name : ι → κ} {box : Box}

theorem Alike.scan_eq {xf86Config : Option (List Xf86Crtc)} {randr : Option RRScreen}
    (h : Alike search other name box xf86Config randr) {l : List ι}
    (hl : other.crtcs xf86Config randr = some l) (screenIsMs : Bool) :
    (scan (search.crtcOn screenIsMs) (search.coverage box) (l.map name) (none, 0)).1 =
      (scan (other.crtcOn screenIsMs) (other.coverage box) l (none, 0)).1.map name := by
  have hmap := scan_map (search.crtcOn screenIsMs) (search.coverage box) name l (none, 0)
  have hsame : scan (other.crtcOn screenIsMs) (other.coverage box) l (none, 0) =
      scan (search.crtcOn screenIsMs ∘ name) (search.coverage box ∘ name) l (none, 0) :=
    scan_congr (fun c hc => h.crtcOn l hl c hc screenIsMs)
      (fun c hc hon => h.coverage l hl c hc screenIsMs hon) (none, 0)
  rw [hsame]
  exact congrArg Prod.fst hmap

mutual

/-- **Simulation.** Alike searches find the same CRTC under its two names. -/
theorem covering_alike (hprimary : ∀ c, search.primary c = name (other.primary c))
    (rrKey screenIsMs : Bool) : ∀ s, Everywhere (Alike search other name box) s →
      coveringCrtc search rrKey box screenIsMs s =
        (coveringCrtc other rrKey box screenIsMs s).map name
  | .mk isGPU _ xf86Config randr slaves, h => by
      obtain ⟨halike, hslaves⟩ := h
      have hcovers := slaveCovers_alike hprimary rrKey slaves hslaves
      rw [coveringCrtc, coveringCrtc, halike.crtcs]
      cases hl : other.crtcs xf86Config randr with
      | none => rfl
      | some l =>
          simp only [Option.map_some]
          rw [halike.scan_eq hl screenIsMs, hcovers]
          cases (scan (other.crtcOn screenIsMs) (other.coverage box) l (none, 0)).1 with
          | some best => rfl
          | none =>
              simp only [Option.map_none]
              split
              · rfl
              · split
                · rfl
                · split
                  · rfl
                  · split
                    · rw [hprimary, Option.map_some]
                    · rfl

theorem slaveCovers_alike (hprimary : ∀ c, search.primary c = name (other.primary c))
    (rrKey : Bool) : ∀ slaves, EverywhereAll (Alike search other name box) slaves →
      slaveCovers search rrKey box slaves = slaveCovers other rrKey box slaves
  | [], _ => by rw [slaveCovers, slaveCovers]
  | slave :: rest, h => by
      rw [slaveCovers, slaveCovers, covering_alike hprimary rrKey false slave h.1,
        slaveCovers_alike hprimary rrKey rest h.2, Option.isSome_map]

end

end Alike

/-! ## Mirrored screens -/

/-- Some axis is reflected. -/
def Rotation.reflected (r : Rotation) : Bool := r.reflectX || r.reflectY

/-- The `switch` sees a quarter turn when nothing is reflected. -/
theorem word_quarter (r : Rotation) :
    (r.word = 2 ∨ r.word = 8) ↔ r.turn.quarter = true ∧ r.reflected = false := by
  obtain ⟨turn, reflectX, reflectY⟩ := r
  cases turn <;> cases reflectX <;> cases reflectY <;> decide

/-- A RandR CRTC that mirrors the `xf86` CRTC it belongs to. -/
structure RRCrtc.Mirrors (crtc : RRCrtc) : Prop where
  x : crtc.x = crtc.devPrivate.x
  y : crtc.y = crtc.devPrivate.y
  rotation : crtc.rotation = crtc.devPrivate.rotation
  enabled : crtc.mode.isSome = crtc.devPrivate.enabled
  width : ∀ mode, crtc.mode = some mode → (mode.width.toNat : Int) = crtc.devPrivate.mode.hDisplay
  height : ∀ mode, crtc.mode = some mode →
    (mode.height.toNat : Int) = crtc.devPrivate.mode.vDisplay

/-- The RandR CRTCs of a screen mirror its `xf86` CRTCs, one by one. -/
def Mirrored (xf86Config : Option (List Xf86Crtc)) (randr : Option RRScreen) : Prop :=
  ∃ scrPriv, randr = some scrPriv ∧
    xf86Config = some (scrPriv.crtcs.map RRCrtc.devPrivate) ∧
    ∀ crtc ∈ scrPriv.crtcs, crtc.Mirrors

/-- The CRTCs of a screen that are enabled have one of these rotations. -/
def RotatedBy (rotations : Set Rotation) (xf86Config : Option (List Xf86Crtc)) : Prop :=
  ∀ crtcs, xf86Config = some crtcs → ∀ crtc ∈ crtcs, crtc.enabled → crtc.rotation ∈ rotations

/-- Both. -/
def MirroredBy (rotations : Set Rotation) (xf86Config : Option (List Xf86Crtc))
    (randr : Option RRScreen) : Prop :=
  Mirrored xf86Config randr ∧ RotatedBy rotations xf86Config

/-- The two boxes of a CRTC are the same, quarter turns with a reflection apart. -/
theorem RRCrtc.Mirrors.box_eq {crtc : RRCrtc} (h : crtc.Mirrors) (server : ModeSizes)
    (henabled : crtc.devPrivate.enabled = true)
    (hrotation : ¬ (crtc.rotation.turn.quarter ∧ crtc.rotation.reflected)) :
    msRandrCrtcBox crtc = msCrtcBox server crtc.devPrivate := by
  obtain ⟨mode, hmode⟩ := Option.isSome_iff_exists.mp (h.enabled.trans henabled)
  have hword := word_quarter crtc.rotation
  rw [msRandrCrtcBox, msCrtcBox, if_pos henabled, hmode, ← h.x, ← h.y, ← h.rotation]
  cases hquarter : crtc.rotation.turn.quarter with
  | false =>
      have hnot : ¬ (crtc.rotation.word = 2 ∨ crtc.rotation.word = 8) := by
        rw [hword, hquarter]
        simp
      simp only [if_neg hnot]
      rw [server.width_upright _ _ hquarter, server.height_upright _ _ hquarter,
        h.width mode hmode, h.height mode hmode]
  | true =>
      have hturned : crtc.rotation.word = 2 ∨ crtc.rotation.word = 8 := by
        refine hword.mpr ⟨hquarter, ?_⟩
        simpa [hquarter] using hrotation
      simp only [if_pos hturned]
      rw [server.width_quarter _ _ hquarter, server.height_quarter _ _ hquarter,
        h.width mode hmode, h.height mode hmode]

/-- On such a screen the two searches are alike. -/
theorem Mirrored.alike {xf86Config : Option (List Xf86Crtc)} {randr : Option RRScreen}
    {rotations : Set Rotation} (h : Mirrored xf86Config randr)
    (hrotated : RotatedBy rotations xf86Config)
    (hgood : ∀ r ∈ rotations, ¬ (r.turn.quarter ∧ r.reflected)) (server : ModeSizes) (box : Box) :
    Alike (xf86Search server) (randrSearch true) RRCrtc.devPrivate box xf86Config randr := by
  obtain ⟨scrPriv, rfl, rfl, hmirrors⟩ := h
  have hon : ∀ crtc ∈ scrPriv.crtcs, ∀ screenIsMs,
      (randrSearch true).crtcOn screenIsMs crtc =
        (xf86Search server).crtcOn screenIsMs crtc.devPrivate := by
    intro crtc hc screenIsMs
    cases screenIsMs with
    | false => exact (hmirrors crtc hc).enabled
    | true => rfl
  refine ⟨rfl, fun l hl crtc hc => ?_, fun l hl crtc hc screenIsMs hlit => ?_⟩
  · cases hl
    exact hon crtc hc
  · cases hl
    have henabled : crtc.devPrivate.enabled = true := by
      cases screenIsMs with
      | false => exact (hmirrors crtc hc).enabled.symm.trans hlit
      | true => exact (Bool.and_eq_true_iff.mp hlit).1
    have hrotation := hrotated _ rfl crtc.devPrivate (List.mem_map_of_mem hc) henabled
    rw [← (hmirrors crtc hc).rotation] at hrotation
    have hbox := (hmirrors crtc hc).box_eq server henabled (hgood _ hrotation)
    exact congrArg (fun b => msBoxArea (msBoxIntersect b box)) hbox

mutual

theorem everywhere_mono {P Q : Option (List Xf86Crtc) → Option RRScreen → Prop}
    (hPQ : ∀ xf86Config randr, P xf86Config randr → Q xf86Config randr) :
    ∀ s, Everywhere P s → Everywhere Q s
  | .mk _ _ _ _ slaves, h => ⟨hPQ _ _ h.1, everywhereAll_mono hPQ slaves h.2⟩

theorem everywhereAll_mono {P Q : Option (List Xf86Crtc) → Option RRScreen → Prop}
    (hPQ : ∀ xf86Config randr, P xf86Config randr → Q xf86Config randr) :
    ∀ slaves, EverywhereAll P slaves → EverywhereAll Q slaves
  | [], _ => trivial
  | slave :: rest, h => ⟨everywhere_mono hPQ slave h.1, everywhereAll_mono hPQ rest h.2⟩

end

/-- A CRTC with a mode of 1 by 2 pixels, and the screen that has this CRTC alone. -/
def lone (rotation : Rotation) : Xf86Crtc := ⟨1, true, true, 0, 0, ⟨1, 2⟩, rotation⟩

def loneScreen (rotation : Rotation) : Screen :=
  .mk true false (some [lone rotation])
    (some ⟨none, [⟨2, lone rotation, 0, 0, some ⟨1, 2⟩, rotation⟩], []⟩) []

/-- The pixel to the right of the first. -/
def secondPixel : Drawable := ⟨1, 0, 1, 1⟩

theorem loneScreen_mirrored (rotation : Rotation) :
    Mirrored (some [lone rotation])
      (some ⟨none, [⟨2, lone rotation, 0, 0, some ⟨1, 2⟩, rotation⟩], []⟩) := by
  refine ⟨_, rfl, rfl, fun crtc hc => ?_⟩
  cases List.mem_singleton.mp hc
  exact ⟨rfl, rfl, rfl, rfl, fun mode hm => by cases hm; rfl, fun mode hm => by cases hm; rfl⟩

/-- Turned and reflected, the mode is two pixels wide for `xf86` and one for RandR. -/
theorem loneScreen_disagrees {rotation : Rotation}
    (hquarter : rotation.turn.quarter = true) (hreflected : rotation.reflected = true)
    (server : ModeSizes) :
    (msDri2CrtcCoveringDrawable server true (loneScreen rotation) secondPixel).isSome = true ∧
      msRandrCrtcCoveringDrawable true (loneScreen rotation) secondPixel = none := by
  have hword : ¬ (rotation.word = 2 ∨ rotation.word = 8) := by
    rw [word_quarter, hreflected]
    simp
  constructor
  · have hbox : msCrtcBox server (lone rotation) = ⟨0, 0, 2, 1⟩ := by
      simp [msCrtcBox, lone, server.width_quarter _ _ hquarter,
        server.height_quarter _ _ hquarter, short, Int.bmod]
    have harea : msBoxArea (msBoxIntersect ⟨0, 0, 2, 1⟩ secondPixel.box) = 1 := by decide
    have hon : msCrtcOn (lone rotation) = true := rfl
    simp [msDri2CrtcCoveringDrawable, msCoveringXf86Crtc, loneScreen, coveringCrtc, xf86Search,
      scan, Search.coverage, hbox, harea, hon]
  · have hbox : msRandrCrtcBox ⟨2, lone rotation, 0, 0, some ⟨1, 2⟩, rotation⟩ =
        ⟨0, 0, 1, 2⟩ := by
      simp [msRandrCrtcBox, hword, short, Int.bmod]
    have harea : msBoxArea (msBoxIntersect ⟨0, 0, 1, 2⟩ secondPixel.box) = 0 := by decide
    simp [msRandrCrtcCoveringDrawable, msCoveringRandrCrtc, loneScreen, coveringCrtc, randrSearch,
      scan, Search.coverage, hbox, harea]

/-- **The two searches agree** on all mirrored screens whose enabled CRTCs have certain
rotations, for every drawable, if and only if none of these is a quarter turn with a
reflection. -/
theorem coverings_agree_iff (server : ModeSizes) (rotations : Set Rotation) :
    (∀ s d, Everywhere (MirroredBy rotations) s →
      (msRandrCrtcCoveringDrawable true s d).map RRCrtc.devPrivate =
        msDri2CrtcCoveringDrawable server true s d) ↔
      ∀ r ∈ rotations, ¬ (r.turn.quarter ∧ r.reflected) := by
  constructor
  · rintro hagree r hr ⟨hquarter, hreflected⟩
    have hlone : Everywhere (MirroredBy rotations) (loneScreen r) :=
      ⟨⟨loneScreen_mirrored r, fun crtcs hcrtcs crtc hc _ => by
        cases hcrtcs
        cases List.mem_singleton.mp hc
        exact hr⟩, trivial⟩
    obtain ⟨hsome, hnone⟩ := loneScreen_disagrees hquarter hreflected server
    rw [← hagree (loneScreen r) secondPixel hlone, hnone] at hsome
    cases hsome
  · intro hgood s d hmirrored
    have halike := everywhere_mono
      (Q := Alike (xf86Search server) (randrSearch true) RRCrtc.devPrivate d.box)
      (fun _ _ h => h.1.alike h.2 hgood server d.box) s hmirrored
    exact (covering_alike (fun _ => rfl) true true s halike).symm

/-- The server's functions on the modes that are used here. -/
def ModeSizes.masking : ModeSizes where
  xf86ModeWidth := fun m r => if r.turn.quarter then m.vDisplay else m.hDisplay
  xf86ModeHeight := fun m r => if r.turn.quarter then m.hDisplay else m.vDisplay
  width_upright := fun m r h => by simp [h]
  width_quarter := fun m r h => by simp [h]
  height_upright := fun m r h => by simp [h]
  height_quarter := fun m r h => by simp [h]

/-- A quarter turn with a reflection. -/
def turnedReflected : Rotation := ⟨.rotate90, true, false⟩

/-- **A reflected quarter turn is not seen** by the RandR search: the drawable on the
turned CRTC is on none for it. -/
theorem reflected_turn_disagrees :
    Everywhere Mirrored (loneScreen turnedReflected) ∧
      (msRandrCrtcCoveringDrawable true (loneScreen turnedReflected) secondPixel).map
          RRCrtc.devPrivate ≠
        msDri2CrtcCoveringDrawable .masking true (loneScreen turnedReflected) secondPixel :=
  ⟨⟨loneScreen_mirrored turnedReflected, trivial⟩, by decide⟩

/-! ## The overlap -/

/-- The area of a CRTC that a drawable covers, in unbounded integers. -/
def overlap (server : ModeSizes) (d : Drawable) (crtc : Xf86Crtc) : Int :=
  max 0 (min (crtc.x + server.xf86ModeWidth crtc.mode crtc.rotation)
      (d.x.toInt + d.width.toNat) - max crtc.x d.x.toInt) *
    max 0 (min (crtc.y + server.xf86ModeHeight crtc.mode crtc.rotation)
      (d.y.toInt + d.height.toNat) - max crtc.y d.y.toInt)

/-- A CRTC inside `[0, 32767]` on both axes. -/
structure Inside (server : ModeSizes) (crtc : Xf86Crtc) : Prop where
  x : 0 ≤ crtc.x
  width : 0 ≤ server.xf86ModeWidth crtc.mode crtc.rotation
  right : crtc.x + server.xf86ModeWidth crtc.mode crtc.rotation ≤ 32767
  y : 0 ≤ crtc.y
  height : 0 ≤ server.xf86ModeHeight crtc.mode crtc.rotation
  bottom : crtc.y + server.xf86ModeHeight crtc.mode crtc.rotation ≤ 32767

theorem overlap_nonneg (server : ModeSizes) (d : Drawable) (crtc : Xf86Crtc) :
    0 ≤ overlap server d crtc :=
  mul_nonneg (le_max_left _ _) (le_max_left _ _)

theorem short_of_range {v : Int} (hlow : -32768 ≤ v) (hhigh : v ≤ 32767) : short v = v := by
  rw [short, Int.bmod]
  omega

/-- The code's area of an intersection, before it is stored in an `int`. -/
theorem area_intersect (a b : Box) :
    msBoxArea (msBoxIntersect a b) =
      (max 0 (min a.x2 b.x2 - max a.x1 b.x1) *
        max 0 (min a.y2 b.y2 - max a.y1 b.y1)).bmod (2 ^ 32) := by
  have hx1 : (if a.x1 > b.x1 then a.x1 else b.x1) = max a.x1 b.x1 := by omega
  have hx2 : (if a.x2 < b.x2 then a.x2 else b.x2) = min a.x2 b.x2 := by omega
  have hy1 : (if a.y1 > b.y1 then a.y1 else b.y1) = max a.y1 b.y1 := by omega
  have hy2 : (if a.y2 < b.y2 then a.y2 else b.y2) = min a.y2 b.y2 := by omega
  simp only [msBoxIntersect, hx1, hx2, hy1, hy2]
  split
  · next h =>
      have hzero : max 0 (min a.x2 b.x2 - max a.x1 b.x1) = 0 := by omega
      rw [hzero, zero_mul]
      rfl
  · next h =>
      split
      · next h' =>
          have hzero : max 0 (min a.y2 b.y2 - max a.y1 b.y1) = 0 := by omega
          rw [hzero, mul_zero]
          rfl
      · next h' =>
          have hw : max 0 (min a.x2 b.x2 - max a.x1 b.x1) = min a.x2 b.x2 - max a.x1 b.x1 := by
            omega
          have hh : max 0 (min a.y2 b.y2 - max a.y1 b.y1) = min a.y2 b.y2 - max a.y1 b.y1 := by
            omega
          rw [hw, hh, msBoxArea]

section Overlap

variable {server : ModeSizes} {d : Drawable} {crtc : Xf86Crtc}

/-- The box of a CRTC inside the range. -/
theorem Inside.box_eq (h : Inside server crtc) (henabled : crtc.enabled = true) :
    msCrtcBox server crtc =
      { x1 := crtc.x
        x2 := crtc.x + server.xf86ModeWidth crtc.mode crtc.rotation
        y1 := crtc.y
        y2 := crtc.y + server.xf86ModeHeight crtc.mode crtc.rotation } := by
  obtain ⟨hx, hwidth, hright, hy, hheight, hbottom⟩ := h
  rw [msCrtcBox, if_pos henabled, short_of_range (by omega) (by omega),
    short_of_range (by omega) hright, short_of_range (by omega) (by omega),
    short_of_range (by omega) hbottom]

/-- The far edge of a drawable: as it is, or wrapped to the other side of the near edge. -/
theorem far_edge (near : Int16) (size : UInt16) :
    short near.toInt = near.toInt ∧
      short (short near.toInt + size.toNat) =
        if near.toInt + size.toNat ≤ 32767 then near.toInt + size.toNat
        else near.toInt + size.toNat - 65536 := by
  have hlow := near.le_toInt
  have hhigh := near.toInt_lt
  have hsize := size.toNat_lt
  have hnear : short near.toInt = near.toInt := short_of_range (by omega) (by omega)
  refine ⟨hnear, ?_⟩
  rw [hnear, short, Int.bmod]
  split <;> omega

/-- The area fits an `int`. -/
theorem Inside.overlap_lt (h : Inside server crtc) (d : Drawable) :
    overlap server d crtc < 2 ^ 31 := by
  obtain ⟨hx, hwidth, hright, hy, hheight, hbottom⟩ := h
  have hw : max 0 (min (crtc.x + server.xf86ModeWidth crtc.mode crtc.rotation)
      (d.x.toInt + d.width.toNat) - max crtc.x d.x.toInt) ≤ 32767 := by omega
  have hh : max 0 (min (crtc.y + server.xf86ModeHeight crtc.mode crtc.rotation)
      (d.y.toInt + d.height.toNat) - max crtc.y d.y.toInt) ≤ 32767 := by omega
  calc overlap server d crtc ≤ 32767 * 32767 :=
        mul_le_mul hw hh (le_max_left _ _) (by decide)
    _ < 2 ^ 31 := by decide

/-- **The coverage is the overlap** of a drawable whose far edges fit a `short`. -/
theorem Inside.coverage_eq (h : Inside server crtc) (henabled : crtc.enabled = true)
    (hright : d.x.toInt + d.width.toNat ≤ 32767) (hbottom : d.y.toInt + d.height.toNat ≤ 32767) :
    (xf86Search server).coverage d.box crtc = overlap server d crtc := by
  obtain ⟨hx1, hx2⟩ := far_edge d.x d.width
  obtain ⟨hy1, hy2⟩ := far_edge d.y d.height
  rw [if_pos hright] at hx2
  rw [if_pos hbottom] at hy2
  have hlt := h.overlap_lt d
  have hnonneg := overlap_nonneg server d crtc
  change msBoxArea (msBoxIntersect (msCrtcBox server crtc) d.box) = _
  rw [h.box_eq henabled, area_intersect, Drawable.box, hx2, hy2, hx1, hy1]
  change (overlap server d crtc).bmod (2 ^ 32) = _
  rw [Int.bmod]
  omega

/-- A drawable whose far edge does not fit is on no CRTC. -/
theorem coverage_wrapped (server : ModeSizes) (crtc : Xf86Crtc)
    (hwraps : ¬ (d.x.toInt + d.width.toNat ≤ 32767 ∧ d.y.toInt + d.height.toNat ≤ 32767)) :
    (xf86Search server).coverage d.box crtc = 0 := by
  obtain ⟨hx1, hx2⟩ := far_edge d.x d.width
  obtain ⟨hy1, hy2⟩ := far_edge d.y d.height
  have hwidth := d.width.toNat_lt
  have hheight := d.height.toNat_lt
  change msBoxArea (msBoxIntersect (msCrtcBox server crtc) d.box) = _
  rw [area_intersect, Drawable.box, hx2, hy2, hx1, hy1]
  by_cases hright : d.x.toInt + d.width.toNat ≤ 32767
  · have hbottom : ¬ d.y.toInt + d.height.toNat ≤ 32767 := fun h => hwraps ⟨hright, h⟩
    have hzero : ∀ a b : Int, max 0 (min a (d.y.toInt + d.height.toNat - 65536) -
        max b d.y.toInt) = 0 := by omega
    simp only [if_neg hbottom, hzero, mul_zero]
    rfl
  · have hzero : ∀ a b : Int, max 0 (min a (d.x.toInt + d.width.toNat - 65536) -
        max b d.x.toInt) = 0 := by omega
    simp only [if_neg hright, hzero, zero_mul]
    rfl

end Overlap

/-- **The covering CRTC** of a GPU screen is the first that shows most of the drawable if
and only if the drawable's far edges are at most 32767, or no CRTC that is on shows any of
it. -/
theorem covering_most_iff (server : ModeSizes) (rrKey isOutputSlave : Bool) (crtcs : List Xf86Crtc)
    (randr : Option RRScreen) (slaves : List Screen) (d : Drawable)
    (hinside : ∀ crtc ∈ crtcs, msCrtcOn crtc → Inside server crtc) :
    FirstMost (overlap server d) 0 (crtcs.filter msCrtcOn)
        (msDri2CrtcCoveringDrawable server rrKey
          (.mk true isOutputSlave (some crtcs) randr slaves) d) ↔
      (d.x.toInt + d.width.toNat ≤ 32767 ∧ d.y.toInt + d.height.toNat ≤ 32767) ∨
        ∀ crtc ∈ crtcs, msCrtcOn crtc → overlap server d crtc = 0 := by
  have hfound : msDri2CrtcCoveringDrawable server rrKey
      (.mk true isOutputSlave (some crtcs) randr slaves) d =
        (scan msCrtcOn ((xf86Search server).coverage d.box) crtcs (none, 0)).1 := by
    have hon : (xf86Search server).crtcOn true = msCrtcOn := rfl
    have hcrtcs : (xf86Search server).crtcs (some crtcs) randr = some crtcs := rfl
    simp only [msDri2CrtcCoveringDrawable, msCoveringXf86Crtc, coveringCrtc, hcrtcs, hon, if_true]
    cases (scan msCrtcOn ((xf86Search server).coverage d.box) crtcs (none, 0)).1 <;> rfl
  have hon : ∀ crtc ∈ crtcs.filter msCrtcOn, crtc ∈ crtcs ∧ msCrtcOn crtc = true :=
    fun crtc hc => List.mem_filter.mp hc
  rw [hfound]
  by_cases hfits : d.x.toInt + d.width.toNat ≤ 32767 ∧ d.y.toInt + d.height.toNat ≤ 32767
  · have hsame : scan msCrtcOn ((xf86Search server).coverage d.box) crtcs (none, 0) =
        scan msCrtcOn (overlap server d) crtcs (none, 0) :=
      scan_congr (fun _ _ => rfl)
        (fun crtc hc hlit => (hinside crtc hc hlit).coverage_eq
          (Bool.and_eq_true_iff.mp hlit).1 hfits.1 hfits.2) (none, 0)
    rw [hsame]
    exact ⟨fun _ => Or.inl hfits, fun _ => scan_firstMost msCrtcOn (overlap server d) 0 crtcs⟩
  · -- The drawable's box is empty for the code, which finds no CRTC.
    have hnone : (scan msCrtcOn ((xf86Search server).coverage d.box) crtcs (none, 0)).1 = none := by
      have hsame : scan msCrtcOn ((xf86Search server).coverage d.box) crtcs (none, 0) =
          scan msCrtcOn (fun _ => 0) crtcs (none, 0) :=
        scan_congr (fun _ _ => rfl) (fun crtc _ _ => coverage_wrapped server crtc hfits) (none, 0)
      have hmost := scan_firstMost msCrtcOn (fun _ : Xf86Crtc => (0 : Int)) 0 crtcs
      rw [hsame]
      cases hbest : (scan msCrtcOn (fun _ => (0 : Int)) crtcs (none, 0)).1 with
      | none => rfl
      | some best =>
          rw [hbest] at hmost
          obtain ⟨-, -, -, hpos, -⟩ := hmost
          exact absurd hpos (lt_irrefl _)
    rw [hnone]
    constructor
    · intro hall
      refine Or.inr fun crtc hc hlit => ?_
      have hle := hall crtc (List.mem_filter.mpr ⟨hc, hlit⟩)
      exact le_antisymm hle (overlap_nonneg server d crtc)
    · rintro (hin | hall)
      · exact absurd hin hfits
      · exact fun crtc hc => (hall crtc (hon crtc hc).1 (hon crtc hc).2).le

/-- A CRTC of 1920 by 1080 pixels at the origin, and one to its right. -/
def twoHeads : List Xf86Crtc :=
  [⟨1, true, true, 0, 0, ⟨1920, 1080⟩, ⟨.rotate0, false, false⟩⟩,
    ⟨2, true, true, 1920, 0, ⟨1920, 1080⟩, ⟨.rotate0, false, false⟩⟩]

theorem twoHeads_inside : ∀ crtc ∈ twoHeads, msCrtcOn crtc → Inside .masking crtc := by
  intro crtc hc _
  simp only [twoHeads, List.mem_cons, List.not_mem_nil, or_false] at hc
  obtain rfl | rfl := hc <;> exact ⟨by decide, by decide, by decide, by decide, by decide, by decide⟩

/-- A window that reaches over both. -/
theorem covering_most_two :
    FirstMost (overlap .masking ⟨1800, 0, 400, 300⟩) 0 (twoHeads.filter msCrtcOn)
      (msDri2CrtcCoveringDrawable .masking true (.mk true false (some twoHeads) none [])
        ⟨1800, 0, 400, 300⟩) :=
  (covering_most_iff .masking true false twoHeads none [] ⟨1800, 0, 400, 300⟩
    twoHeads_inside).mpr (Or.inl (by decide))

/-- **A wide window is on no CRTC**: 40000 pixels from the origin on, it covers both. -/
theorem wide_window_uncovered :
    msDri2CrtcCoveringDrawable .masking true (.mk true false (some twoHeads) none [])
        ⟨0, 0, 40000, 1080⟩ = none ∧
      ¬ FirstMost (overlap .masking ⟨0, 0, 40000, 1080⟩) 0 (twoHeads.filter msCrtcOn) none := by
  refine ⟨by decide, fun hall => ?_⟩
  have hfirst := hall ⟨1, true, true, 0, 0, ⟨1920, 1080⟩, ⟨.rotate0, false, false⟩⟩ (by decide)
  exact absurd hfirst (by decide)

end LoongsonVideo.Driver.Covering
