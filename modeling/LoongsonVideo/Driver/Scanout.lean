import Mathlib.Data.List.Nodup
import Mathlib.Logic.Function.Basic

/-!
# Scanout buffers and scanout areas

The part of `src/drmmode_display.c` that decides which framebuffer a CRTC scans out
and from where.  A CRTC shows a shared pixmap, its rotation shadow, or its part of
the front buffer.  The front buffer gets its framebuffer id in
`drmmode_crtc_get_fb_id`, the first time a mode set needs it, and keeps it in
`drmmode->fb_id`.

* `drmmodeCrtcGetFbId`, `drmmodeCrtcSetMode`, `drmmodeSetModeMajor`.
* `drmmodeXf86crtcResize`: a new front buffer, and the mode sets it leads to.
* `drmmodeSetTargetScanoutPixmapGpu`, `drmmodeSetTargetScanoutPixmapCpu`,
  `drmmodeSetScanoutPixmap`: shared pixmaps, with and without
  `reverse_prime_offload_mode`.
* `drmmodeShadowAllocate`, `drmmodeShadowDestroy`, `drmmodeFreeBos`.

CRTCs and pixmaps are named by number.  What the allocator, the kernel and the server
answer is a parameter.
-/

namespace LoongsonVideo.Driver.Scanout

/-- A shared pixmap, by number, with the size of its drawable. -/
structure Ppix where
  id : Nat
  width : Nat
  height : Nat
  deriving DecidableEq, Repr

/-- What the functions here read of a CRTC and of its private record. -/
structure Crtc where
  enabled : Bool
  hDisplay : Nat
  vDisplay : Nat
  x : Int
  y : Int
  primePixmap : Option Ppix
  primePixmapX : Nat
  enableFlipping : Bool
  rotateFbId : Nat
  needModeset : Bool
  deriving DecidableEq, Repr

/-- What a framebuffer was registered for. -/
inductive FbOwner where
  | front
  | rotate (crtc : Nat)
  | pixmap (id : Nat)
  deriving DecidableEq, Repr

/-- How the kernel numbers a new framebuffer: with an id that is not zero and not in
use. -/
structure FbIds where
  pick : List Nat → Nat
  fresh : ∀ used, pick used ∉ used
  ne_zero : ∀ used, pick used ≠ 0

/-- The least id above all that are in use. -/
def FbIds.above : FbIds where
  pick := fun used => used.foldr max 0 + 1
  fresh := by
    intro used hin
    have hle : ∀ (l : List Nat), ∀ x ∈ l, x ≤ l.foldr max 0 := by
      intro l
      induction l with
      | nil => exact fun x hx => by cases hx
      | cons a l ih =>
          intro x hx
          rw [List.foldr_cons]
          cases List.mem_cons.mp hx with
          | inl h => exact h ▸ Nat.le_max_left _ _
          | inr h => exact Nat.le_trans (ih x h) (Nat.le_max_right _ _)
    exact Nat.lt_irrefl _ (hle used _ hin)
  ne_zero := fun _ => Nat.succ_ne_zero _

/-- One call of `drmmode_crtc_get_fb_id`: whether the CRTC has a shared pixmap without a
framebuffer id of its own, `drmmode->fb_id` before the call, the kernel's answer
to an import, and whether the call registered a framebuffer. -/
structure FbCall where
  lacksId : Bool
  fbId : Nat
  importOk : Bool
  registered : Bool
  deriving DecidableEq, Repr

/-- The screen.  `screenWidth` and `screenHeight` are those of the screen pixmap's drawable,
`pixmapFb` is `ppriv->fb_id` of the pixmaps, `fbs` the framebuffers the kernel has,
`calls` the calls of `drmmode_crtc_get_fb_id`, newest first. -/
structure Drmmode where
  crtcs : List Crtc
  fbId : Nat
  reversePrimeOffloadMode : Bool
  atomicModeset : Bool
  virtualX : Nat
  virtualY : Nat
  screenWidth : Nat
  screenHeight : Nat
  pixmapFb : Nat → Nat
  fbs : List (Nat × FbOwner)
  calls : List FbCall

namespace Drmmode

def setCrtc (s : Drmmode) (i : Nat) (f : Crtc → Crtc) : Drmmode :=
  { s with crtcs := s.crtcs.modify i f }

end Drmmode

/-! ## Framebuffers -/

/-- `drmModeRmFB`. -/
def drmModeRmFB (s : Drmmode) (id : Nat) : Drmmode :=
  { s with fbs := s.fbs.filter fun fb => fb.1 ≠ id }

/-- `drmModeAddFB`: the id of the new framebuffer, or `none` when the kernel refuses. -/
def drmModeAddFB (ids : FbIds) (s : Drmmode) (owner : FbOwner) (ok : Bool) :
    Drmmode × Option Nat :=
  if ok then
    let id := ids.pick (s.fbs.map Prod.fst)
    ({ s with fbs := (id, owner) :: s.fbs }, some id)
  else (s, none)

/-- The framebuffer id a CRTC has of its own or shares, zero when there is none, and the
position it scans out from: `drmmode_crtc_get_fb_id` before the import. -/
def crtcFbId (s : Drmmode) (crtc : Crtc) : Nat × Int × Int :=
  match crtc.primePixmap with
  | some ppix =>
      if !s.reversePrimeOffloadMode then (s.pixmapFb ppix.id, 0, 0)
      else (0, crtc.primePixmapX, 0)
  | none =>
      if crtc.rotateFbId ≠ 0 then (crtc.rotateFbId, 0, 0)
      else (s.fbId, crtc.x, crtc.y)

/-- `drmmode_crtc_get_fb_id`: `*fb_id`, `*x` and `*y`, or `none` for `FALSE`. -/
def drmmodeCrtcGetFbId (ids : FbIds) (s : Drmmode) (crtc : Crtc) (importOk : Bool) :
    Drmmode × Option (Nat × Int × Int) :=
  let (fbId, x, y) := crtcFbId s crtc
  let lacksId := crtc.primePixmap.isSome && fbId == 0
  if fbId = 0 then
    let before := s.fbId
    match drmModeAddFB ids s .front importOk with
    | (s, none) => ({ s with calls := ⟨lacksId, before, importOk, false⟩ :: s.calls }, none)
    | (s, some id) =>
        ({ s with fbId := id, calls := ⟨lacksId, before, importOk, true⟩ :: s.calls },
          some (id, x, y))
  else ({ s with calls := ⟨lacksId, s.fbId, importOk, false⟩ :: s.calls }, some (fbId, x, y))

/-! ## Rotation -/

/-- `drmmode_shadow_allocate` and `drmmode_shadow_destroy` as the server calls them for
a CRTC.  `destroy false` has no shadow buffer to free. -/
inductive RotateCall where
  | allocate (createOk addFbOk : Bool)
  | destroy (data : Bool)
  deriving DecidableEq, Repr

/-- `drmmode_shadow_allocate`. -/
def drmmodeShadowAllocate (ids : FbIds) (s : Drmmode) (i : Nat) (createOk addFbOk : Bool) :
    Drmmode :=
  if !createOk then s
  else
    match drmModeAddFB ids s (.rotate i) addFbOk with
    | (s, none) => s
    | (s, some id) => s.setCrtc i fun crtc => { crtc with rotateFbId := id }

/-- `drmmode_shadow_destroy`. -/
def drmmodeShadowDestroy (s : Drmmode) (i : Nat) (data : Bool) : Drmmode :=
  match s.crtcs[i]? with
  | none => s
  | some crtc =>
      if data then
        (drmModeRmFB s crtc.rotateFbId).setCrtc i fun crtc => { crtc with rotateFbId := 0 }
      else s

def RotateCall.apply (ids : FbIds) (i : Nat) (s : Drmmode) : RotateCall → Drmmode
  | .allocate createOk addFbOk => drmmodeShadowAllocate ids s i createOk addFbOk
  | .destroy data => drmmodeShadowDestroy s i data

/-! ## Mode sets -/

/-- `drmmode_crtc_set_mode`, which returns zero when `commitOk`.  A test does to
framebuffers what a mode set does. -/
def drmmodeCrtcSetMode (ids : FbIds) (s : Drmmode) (i : Nat) (_testOnly importOk commitOk : Bool) :
    Drmmode × Bool :=
  match s.crtcs[i]? with
  | none => (s, false)
  | some crtc =>
      match drmmodeCrtcGetFbId ids s crtc importOk with
      | (s, none) => (s, false)
      | (s, some _) => (s, commitOk)

/-- The mode and position a CRTC is set to. -/
structure Mode where
  hDisplay : Nat
  vDisplay : Nat
  x : Int
  y : Int
  deriving DecidableEq, Repr

def Crtc.mode (crtc : Crtc) : Mode := ⟨crtc.hDisplay, crtc.vDisplay, crtc.x, crtc.y⟩

def Crtc.withMode (crtc : Crtc) (m : Mode) : Crtc :=
  { crtc with hDisplay := m.hDisplay, vDisplay := m.vDisplay, x := m.x, y := m.y }

/-- The answers of one `drmmode_set_mode_major`: what `xf86CrtcRotate` does and returns,
the import and the commit of the first mode set, and of the real one after a test. -/
structure ModeAnswer where
  rotate : List RotateCall
  rotateOk : Bool
  importOk : Bool
  commitOk : Bool
  importAgainOk : Bool
  commitAgainOk : Bool
  deriving DecidableEq, Repr

/-- `drmmode_set_mode_major` with a mode.  When `xf86CrtcRotate` fails it returns `TRUE` and
keeps what it has stored, since `ret` is preset. -/
def drmmodeSetModeMajor (ids : FbIds) (s : Drmmode) (i : Nat) (mode : Mode) (a : ModeAnswer) :
    Drmmode × Bool :=
  match s.crtcs[i]? with
  | none => (s, false)
  | some saved =>
      let restore : Drmmode → Drmmode := fun s => s.setCrtc i fun crtc => crtc.withMode saved.mode
      let s := s.setCrtc i fun crtc => crtc.withMode mode
      let s := a.rotate.foldl (fun s call => call.apply ids i s) s
      if !a.rotateOk then (s, true)
      else
        match drmmodeCrtcSetMode ids s i s.atomicModeset a.importOk a.commitOk with
        | (s, false) => (restore s, false)
        | (s, true) =>
            let s := s.setCrtc i fun crtc => { crtc with needModeset := false }
            if s.atomicModeset then
              ((drmmodeCrtcSetMode ids s i false a.importAgainOk a.commitAgainOk).1, true)
            else (s, true)

/-- The loop of `drmmode_set_dpms` over the CRTCs.  `active` is what
`crtc_add_dpms_props` finds. -/
def dpmsCrtcs (ids : FbIds) (dpmsOn : Bool) (active importOk : Nat → Bool) :
    List Nat → Drmmode → Drmmode
  | [], s => s
  | i :: rest, s =>
      match s.crtcs[i]? with
      | none => dpmsCrtcs ids dpmsOn active importOk rest s
      | some crtc =>
          if dpmsOn && active i && crtc.needModeset then
            match drmmodeCrtcGetFbId ids s crtc (importOk i) with
            | (s, none) => dpmsCrtcs ids dpmsOn active importOk rest s
            | (s, some _) =>
                dpmsCrtcs ids dpmsOn active importOk rest
                  (s.setCrtc i fun crtc => { crtc with needModeset := false })
          else dpmsCrtcs ids dpmsOn active importOk rest s

/-- `drmmode_set_dpms`. -/
def drmmodeSetDpms (ids : FbIds) (s : Drmmode) (dpmsOn : Bool) (active importOk : Nat → Bool) :
    Drmmode :=
  dpmsCrtcs ids dpmsOn active importOk (List.range s.crtcs.length) s

/-! ## Resizing -/

/-- What is left of a number in the `width` or `height` of a drawable, which have 16 bits. -/
def toCard16 (n : Nat) : Nat := n % 65536

/-- `ModifyPixmapHeader` on the screen pixmap, which keeps a size that it is not given. -/
def modifyPixmapHeader (s : Drmmode) (width height : Nat) : Drmmode :=
  { s with
    screenWidth := if 0 < width then toCard16 width else s.screenWidth
    screenHeight := if 0 < height then toCard16 height else s.screenHeight }

@[simp] theorem modifyPixmapHeader_crtcs (s : Drmmode) (width height : Nat) :
    (modifyPixmapHeader s width height).crtcs = s.crtcs := rfl

/-- The answers of `drmmode_xf86crtc_resize`: the new front buffer, the memory its pixels
go to, `drmmode_glamor_handle_new_screen_pixmap`, and the mode sets of the CRTCs. -/
structure ResizeAnswer where
  createOk : Bool
  pixelsOk : Bool
  glamorOk : Bool
  modes : Nat → ModeAnswer

/-- The loop of `drmmode_xf86crtc_resize` over the CRTCs. -/
def resizeCrtcs (ids : FbIds) (modes : Nat → ModeAnswer) : List Nat → Drmmode → Drmmode
  | [], s => s
  | i :: rest, s =>
      match s.crtcs[i]? with
      | none => resizeCrtcs ids modes rest s
      | some crtc =>
          if !crtc.enabled then resizeCrtcs ids modes rest s
          else resizeCrtcs ids modes rest (drmmodeSetModeMajor ids s i crtc.mode (modes i)).1

/-- `drmmode_xf86crtc_resize`. -/
def drmmodeXf86crtcResize (ids : FbIds) (s : Drmmode) (width height : Nat) (a : ResizeAnswer) :
    Drmmode × Bool :=
  if s.virtualX = width ∧ s.virtualY = height then (s, true)
  else
    let fail : Drmmode → Drmmode := fun t =>
      { t with virtualX := s.virtualX, virtualY := s.virtualY, fbId := s.fbId }
    let t := { s with fbId := 0 }
    if !a.createOk then (fail t, false)
    else
      let t := { t with virtualX := width, virtualY := height }
      if !a.pixelsOk then (fail t, false)
      else
        let t := modifyPixmapHeader t width height
        if !a.glamorOk then (fail t, false)
        else
          let t := resizeCrtcs ids a.modes (List.range t.crtcs.length) t
          if s.fbId ≠ 0 then (drmModeRmFB t s.fbId, true) else (t, true)

/-! ## Shared pixmaps -/

/-- The variables of the loop of `drmmode_set_target_scanout_pixmap_gpu`. -/
structure BoundingBox where
  totalWidth : Nat
  maxHeight : Nat
  thisX : Nat
  deriving DecidableEq, Repr

/-- The loop of `drmmode_set_target_scanout_pixmap_gpu`, from CRTC `c` on. -/
def boundingBox (i : Nat) (ppix : Ppix) : Nat → List Crtc → BoundingBox → BoundingBox
  | _, [], box => box
  | c, iter :: rest, box =>
      let box :=
        if !iter.enabled && c != i then box
        else if c = i then
          { totalWidth := box.totalWidth + ppix.width
            maxHeight := max box.maxHeight ppix.height
            thisX := box.totalWidth }
        else
          { box with
            totalWidth := box.totalWidth + iter.hDisplay
            maxHeight := max box.maxHeight iter.vDisplay }
      boundingBox i ppix (c + 1) rest box

/-- The end of `drmmode_set_target_scanout_pixmap_gpu`, when the screen has its size. -/
def placePixmap (s : Drmmode) (i : Nat) (ppix : Ppix) (thisX : Nat) : Drmmode :=
  s.setCrtc i fun crtc => { crtc with primePixmapX := thisX, primePixmap := some ppix }

/-- The beginning of `drmmode_set_target_scanout_pixmap_gpu`, where a CRTC gives up the
pixmap it has. -/
def dropTargetGpu (s : Drmmode) (i : Nat) (crtc : Crtc) : Drmmode :=
  if crtc.primePixmap.isSome then
    let s := if s.fbId ≠ 0 then { drmModeRmFB s s.fbId with fbId := 0 } else s
    s.setCrtc i fun crtc => { crtc with primePixmapX := 0, primePixmap := none }
  else s

/-- `drmmode_set_target_scanout_pixmap_gpu` on `prime_pixmap`. -/
def drmmodeSetTargetScanoutPixmapGpu (ids : FbIds) (s : Drmmode) (i : Nat) (ppix : Option Ppix)
    (a : ResizeAnswer) : Drmmode × Bool :=
  match s.crtcs[i]? with
  | none => (s, false)
  | some crtc =>
      let s := dropTargetGpu s i crtc
      match ppix with
      | none => (s, true)
      | some ppix =>
          let box := boundingBox i ppix 0 s.crtcs ⟨0, 0, 0⟩
          if box.totalWidth ≠ s.screenWidth ∨ box.maxHeight ≠ s.screenHeight then
            match drmmodeXf86crtcResize ids s box.totalWidth box.maxHeight a with
            | (s, false) => (s, false)
            | (s, true) =>
                let s := { s with
                  screenWidth := toCard16 box.totalWidth
                  screenHeight := toCard16 box.maxHeight }
                (placePixmap s i ppix box.thisX, true)
          else (placePixmap s i ppix box.thisX, true)

/-- The beginning of `drmmode_set_target_scanout_pixmap_cpu`, where a CRTC gives up the
pixmap it has. -/
def dropTargetCpu (s : Drmmode) (i : Nat) (crtc : Crtc) : Drmmode :=
  match crtc.primePixmap with
  | none => s
  | some old =>
      let s := drmModeRmFB s (s.pixmapFb old.id)
      let s := { s with pixmapFb := Function.update s.pixmapFb old.id 0 }
      s.setCrtc i fun crtc => { crtc with primePixmap := none }

/-- The framebuffer of a shared pixmap, if it has none yet. -/
def addPixmapFb (ids : FbIds) (s : Drmmode) (ppix : Ppix) (addFbOk : Bool) : Drmmode :=
  if s.pixmapFb ppix.id = 0 then
    match drmModeAddFB ids s (.pixmap ppix.id) addFbOk with
    | (s, none) => s
    | (s, some id) => { s with pixmapFb := Function.update s.pixmapFb ppix.id id }
  else s

/-- `drmmode_set_target_scanout_pixmap_cpu` on `prime_pixmap`.  Its maps and damage
records do not concern framebuffers. -/
def drmmodeSetTargetScanoutPixmapCpu (ids : FbIds) (s : Drmmode) (i : Nat) (ppix : Option Ppix)
    (addFbOk : Bool) : Drmmode × Bool :=
  match s.crtcs[i]? with
  | none => (s, false)
  | some crtc =>
      let s := dropTargetCpu s i crtc
      match ppix with
      | none => (s, true)
      | some ppix =>
          let s := addPixmapFb ids s ppix addFbOk
          (s.setCrtc i fun crtc => { crtc with primePixmap := some ppix }, true)

/-- `drmmode_set_target_scanout_pixmap` on `prime_pixmap`. -/
def drmmodeSetTargetScanoutPixmap (ids : FbIds) (s : Drmmode) (i : Nat) (ppix : Option Ppix)
    (addFbOk : Bool) (a : ResizeAnswer) : Drmmode × Bool :=
  if s.reversePrimeOffloadMode then drmmodeSetTargetScanoutPixmapGpu ids s i ppix a
  else drmmodeSetTargetScanoutPixmapCpu ids s i ppix addFbOk

/-- `drmmode_set_scanout_pixmap`. -/
def drmmodeSetScanoutPixmap (ids : FbIds) (s : Drmmode) (i : Nat) (ppix : Option Ppix)
    (addFbOk : Bool) (a : ResizeAnswer) : Drmmode × Bool :=
  match s.crtcs[i]? with
  | none => (s, false)
  | some crtc =>
      if crtc.enableFlipping then (s, false)
      else drmmodeSetTargetScanoutPixmap ids s i ppix addFbOk a

/-- `drmmode_free_bos`. -/
def drmmodeFreeBos (s : Drmmode) : Drmmode :=
  if s.fbId ≠ 0 then { drmModeRmFB s s.fbId with fbId := 0 } else s

/-! ## What mode sets are made of -/

/-- A relation between the states before and after that the parts of a mode set keep.
It then relates the states before and after whole mode sets. -/
structure Closed (ids : FbIds) (R : Drmmode → Drmmode → Prop) : Prop where
  refl : ∀ s, R s s
  trans : ∀ {s t u}, R s t → R t u → R s u
  withMode : ∀ (s : Drmmode) i m, R s (s.setCrtc i fun crtc => crtc.withMode m)
  needModeset : ∀ (s : Drmmode) i b, R s (s.setCrtc i fun crtc => { crtc with needModeset := b })
  rotate : ∀ s i call, R s (RotateCall.apply ids i s call)
  getFbId : ∀ (s : Drmmode) (i : Nat) (crtc : Crtc) (importOk : Bool), s.crtcs[i]? = some crtc →
    R s (drmmodeCrtcGetFbId ids s crtc importOk).1

namespace Closed

variable {ids : FbIds} {R : Drmmode → Drmmode → Prop}

theorem rotates (h : Closed ids R) (i : Nat) (calls : List RotateCall) (s : Drmmode) :
    R s (calls.foldl (fun s call => call.apply ids i s) s) := by
  induction calls generalizing s with
  | nil => exact h.refl s
  | cons call calls ih => exact h.trans (h.rotate s i call) (ih _)

theorem crtcSetMode (h : Closed ids R) (s : Drmmode) (i : Nat)
    (testOnly importOk commitOk : Bool) :
    R s (drmmodeCrtcSetMode ids s i testOnly importOk commitOk).1 := by
  unfold drmmodeCrtcSetMode
  split
  · exact h.refl s
  · next crtc hi =>
      have hget := h.getFbId s i crtc importOk hi
      split
      · next heq => rwa [heq] at hget
      · next heq => rwa [heq] at hget

theorem setModeMajor (h : Closed ids R) (s : Drmmode) (i : Nat) (mode : Mode)
    (a : ModeAnswer) : R s (drmmodeSetModeMajor ids s i mode a).1 := by
  simp only [drmmodeSetModeMajor]
  split
  · exact h.refl s
  · next saved _ =>
      have hrotated := h.trans (h.withMode s i mode) (h.rotates i a.rotate _)
      generalize a.rotate.foldl (fun s call => call.apply ids i s)
        (s.setCrtc i fun crtc => crtc.withMode mode) = t at hrotated ⊢
      have hmode := h.crtcSetMode t i t.atomicModeset a.importOk a.commitOk
      split
      · exact hrotated
      · split
        · next u heq =>
            rw [heq] at hmode
            exact h.trans hrotated (h.trans hmode (h.withMode u i _))
        · next u heq =>
            rw [heq] at hmode
            have hneed := h.trans hrotated (h.trans hmode (h.needModeset u i false))
            split
            · exact h.trans hneed (h.crtcSetMode _ i false _ _)
            · exact hneed

theorem dpms (h : Closed ids R) (dpmsOn : Bool) (active importOk : Nat → Bool)
    (rest : List Nat) (s : Drmmode) : R s (dpmsCrtcs ids dpmsOn active importOk rest s) := by
  induction rest generalizing s with
  | nil => exact h.refl s
  | cons i rest ih =>
      rw [dpmsCrtcs]
      split
      · exact ih s
      · next crtc hi =>
          have hget := h.getFbId s i crtc (importOk i) hi
          split
          · split
            · next heq =>
                rw [heq] at hget
                exact h.trans hget (ih _)
            · next t _ heq =>
                rw [heq] at hget
                exact h.trans hget (h.trans (h.needModeset t i false) (ih _))
          · exact ih s

theorem resize (h : Closed ids R) (modes : Nat → ModeAnswer) (rest : List Nat)
    (s : Drmmode) : R s (resizeCrtcs ids modes rest s) := by
  induction rest generalizing s with
  | nil => exact h.refl s
  | cons i rest ih =>
      rw [resizeCrtcs]
      split
      · exact ih s
      · next crtc _ =>
          split
          · exact ih s
          · exact h.trans (h.setModeMajor s i crtc.mode (modes i)) (ih _)

end Closed

/-! ## Runs -/

/-- A top-level call, or a CRTC that the server turns on or off. -/
inductive ScanoutOp where
  | crtcSetMode (i : Nat) (testOnly importOk commitOk : Bool)
  | setModeMajor (i : Nat) (mode : Mode) (a : ModeAnswer)
  | setDpms (dpmsOn : Bool) (active importOk : Nat → Bool)
  | setScanoutPixmap (i : Nat) (ppix : Option Ppix) (addFbOk : Bool) (a : ResizeAnswer)
  | resize (width height : Nat) (a : ResizeAnswer)
  | rotate (i : Nat) (call : RotateCall)
  | setEnabled (i : Nat) (enabled : Bool)
  | needModeset (i : Nat)
  | freeBos

def scanoutStep (ids : FbIds) (s : Drmmode) : ScanoutOp → Drmmode
  | .crtcSetMode i testOnly importOk commitOk =>
      (drmmodeCrtcSetMode ids s i testOnly importOk commitOk).1
  | .setModeMajor i mode a => (drmmodeSetModeMajor ids s i mode a).1
  | .setDpms dpmsOn active importOk => drmmodeSetDpms ids s dpmsOn active importOk
  | .setScanoutPixmap i ppix addFbOk a => (drmmodeSetScanoutPixmap ids s i ppix addFbOk a).1
  | .resize width height a => (drmmodeXf86crtcResize ids s width height a).1
  | .rotate i call => call.apply ids i s
  | .setEnabled i enabled => s.setCrtc i fun crtc => { crtc with enabled := enabled }
  | .needModeset i => s.setCrtc i fun crtc => { crtc with needModeset := true }
  | .freeBos => drmmodeFreeBos s

/-- A CRTC as `drmmode_crtc_init` leaves it. -/
def Crtc.new : Crtc where
  enabled := false
  hDisplay := 0
  vDisplay := 0
  x := 0
  y := 0
  primePixmap := none
  primePixmapX := 0
  enableFlipping := false
  rotateFbId := 0
  needModeset := false

/-- A screen of some size with some number of CRTCs, before the first call. -/
def Drmmode.start (numCrtc : Nat) (reversePrimeOffloadMode atomicModeset : Bool)
    (width height : Nat) : Drmmode where
  crtcs := List.replicate numCrtc Crtc.new
  fbId := 0
  reversePrimeOffloadMode := reversePrimeOffloadMode
  atomicModeset := atomicModeset
  virtualX := width
  virtualY := height
  screenWidth := toCard16 width
  screenHeight := toCard16 height
  pixmapFb := fun _ => 0
  fbs := []
  calls := []

/-- Answers that grant everything. -/
def ModeAnswer.granted : ModeAnswer := ⟨[], true, true, true, true, true⟩

def ResizeAnswer.granted : ResizeAnswer := ⟨true, true, true, fun _ => .granted⟩

end LoongsonVideo.Driver.Scanout
