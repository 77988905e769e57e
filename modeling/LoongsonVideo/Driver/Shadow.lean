import LoongsonVideo.Verified.Bytes
import LoongsonVideo.Verified.Region
import Mathlib.Algebra.Ring.Int.Defs
import Mathlib.Algebra.Ring.Nat

/-!
# Shadow framebuffers

`src/loongson_shadow.c`.  Rendering goes to `shadow_fb`, and what was damaged is copied
to the scanout from there.  With `shadow_enable2` a second buffer, `shadow_fb2`, keeps
what was last copied.  The damage is then walked in tiles of 16 by 16 pixels, clipped to
its extents; tiles in which the two buffers agree are dropped from the damage, and the
others are brought up to date in `shadow_fb2`.

The two buffers are blocks with checked access, and so is the array of rectangles, so
that a result at all means that nothing was touched outside.  The server's regions and
its two copying functions are parameters with their laws.
-/

namespace LoongsonVideo.Driver.Shadow

open LoongsonVideo.Verified

/-- A value stored in an `unsigned int`. -/
def u32 (x : Int) : Nat := (x % 2 ^ 32).toNat

/-- The screen, with the facts its setup establishes: a pixel has at least a byte, a line
has room for every pixel, and the size of a shadow buffer is a 32-bit number. -/
structure Screen where
  displayWidth : Nat
  virtualX : Nat
  virtualY : Nat
  bitsPerPixel : Nat
  force2432 : Bool
  deep : 8 ≤ bitsPerPixel
  wide : virtualX ≤ displayWidth
  fits : displayWidth * virtualY * ((bitsPerPixel + 7) / 8) < 2 ^ 32

/-- Every screen the server can describe with its 16-bit coordinates fits, with up to
four bytes a pixel and lines of up to 32768 pixels. -/
theorem fits_of_size {displayWidth virtualY bitsPerPixel : Nat}
    (hwidth : displayWidth ≤ 32768) (hheight : virtualY ≤ 32767) (hbpp : bitsPerPixel ≤ 32) :
    displayWidth * virtualY * ((bitsPerPixel + 7) / 8) < 2 ^ 32 := by
  have harea : displayWidth * virtualY ≤ 32768 * 32767 := Nat.mul_le_mul hwidth hheight
  have hbytes : (bitsPerPixel + 7) / 8 ≤ 4 := by omega
  have hsize := Nat.mul_le_mul harea hbytes
  omega

/-- `drmmode.cpp`. -/
def Screen.cpp (screen : Screen) : Nat := screen.bitsPerPixel / 8

/-- `devKind` of the screen pixmap. -/
def Screen.devKind (screen : Screen) : Nat := screen.displayWidth * screen.cpp

/-- The pixels of the screen. -/
def Screen.box (screen : Screen) : Box := ⟨0, 0, screen.virtualX, screen.virtualY⟩

/-- The argument of `calloc` in `LS_ShadowAllocFB` and `LS_ShadowAllocDoubleFB`. -/
def Screen.shadowSize (screen : Screen) : Nat :=
  u32 (screen.displayWidth * screen.virtualY * ((screen.bitsPerPixel + 7) / 8))

/-- `LS_ShadowAllocFB`: the memory for `shadow_fb`. -/
def lsShadowAllocFB (screen : Screen) (callocOk : Bool) : Option Bytes :=
  if callocOk then some ⟨screen.shadowSize, fun _ => 0⟩ else none

/-- `LS_ShadowAllocDoubleFB`: the same for `shadow_fb2`. -/
def lsShadowAllocDoubleFB (screen : Screen) (callocOk : Bool) : Option Bytes :=
  lsShadowAllocFB screen callocOk

/-- Where a pixel starts in a shadow buffer. -/
def Screen.offset (screen : Screen) (x y : Int) : Nat :=
  (y * screen.devKind + x * screen.cpp).toNat

/-- The bytes of a pixel. -/
def Screen.pixel (screen : Screen) (fb : Bytes) (x y : Int) : List UInt8 :=
  (List.range screen.cpp).map fun c => fb.get (screen.offset x y + c)

/-- What is on the scanout, pixel by pixel. -/
abbrev Scanout (β : Type*) := Int → Int → β

/-- The server's regions, and its `UpdatePacked` and `Update32to24`, which copy exactly
the damaged pixels, each in its own format. -/
structure Server (R β : Type*) extends RegionOps R where
  packed : List UInt8 → β
  format24 : List UInt8 → β
  updatePacked : R → (Int → Int → List UInt8) → Scanout β → Scanout β
  update32to24 : R → (Int → Int → List UInt8) → Scanout β → Scanout β
  updatePacked_eq : ∀ d fb s x y, updatePacked d fb s x y =
    if mem d x y then packed (fb x y) else s x y
  update32to24_eq : ∀ d fb s x y, update32to24 d fb s x y =
    if mem d x y then format24 (fb x y) else s x y

/-- `xRectangle`. -/
structure XRectangle where
  x : Int
  y : Int
  width : Int
  height : Int
  deriving DecidableEq, Repr

/-- The pixels of a rectangle. -/
def XRectangle.box (r : XRectangle) : Box := ⟨r.x, r.y, r.x + r.width, r.y + r.height⟩

/-- The array `prect`: its length and what has been stored so far. -/
structure Rects where
  capacity : Nat
  filled : List XRectangle

/-- A store at `prect[nrects]`. -/
def Rects.store (rects : Rects) (r : XRectangle) : Option Rects :=
  if rects.filled.length < rects.capacity then
    some { rects with filled := rects.filled ++ [r] }
  else none

/-- The rows of `msUpdateIntersect`: those that differ are copied. -/
def updateRows (fb : Bytes) (stride width : Nat) :
    Nat → Nat → Bytes → Bool → Option (Bytes × Bool)
  | 0, _, old, dirty => some (old, dirty)
  | n + 1, pos, old, dirty =>
      match memcmpEq old pos fb pos width with
      | none => none
      | some true => updateRows fb stride width n (pos + stride) old dirty
      | some false =>
          match memcpy old pos fb pos width with
          | none => none
          | some old => updateRows fb stride width n (pos + stride) old true

/-- `msUpdateIntersect`: `shadow_fb2` and the rectangles afterwards. -/
def msUpdateIntersect (screen : Screen) (fb fb2 : Bytes) (box : Box) (rects : Rects) :
    Option (Bytes × Rects) :=
  let stride := u32 screen.devKind
  let width := u32 ((box.x2 - box.x1) * screen.cpp)
  let numLines := u32 (box.y2 - box.y1)
  let goToStart := u32 (box.y1 * stride + box.x1 * screen.cpp)
  match updateRows fb stride width numLines goToStart fb2 false with
  | none => none
  | some (fb2, false) => some (fb2, rects)
  | some (fb2, true) =>
      (rects.store ⟨box.x1, box.y1, box.x2 - box.x1, box.y2 - box.y1⟩).map fun rects =>
        (fb2, rects)

/-- The tile in column `i` and row `j`, clipped to the extents. -/
def tileBox (extents : Box) (i j : Int) : Box :=
  ⟨max (i * 16) extents.x1, max (j * 16) extents.y1,
    min ((i + 1) * 16) extents.x2, min ((j + 1) * 16) extents.y2⟩

section Update

variable {R β : Type*} (server : Server R β) (screen : Screen)

/-- The body of the two loops. -/
def tileStep (fb : Bytes) (damage : R) (i j : Int) (t : Bytes × Rects) :
    Option (Bytes × Rects) :=
  let box := tileBox (server.extents damage) i j
  if server.containsRect damage box ≠ .out then msUpdateIntersect screen fb t.1 box t.2
  else some t

/-- The inner loop, `i` from `tx1 + n - 1` down to `tx1`. -/
def tileRow (fb : Bytes) (damage : R) (tx1 j : Int) :
    Nat → Bytes × Rects → Option (Bytes × Rects)
  | 0, t => some t
  | n + 1, t =>
      (tileStep server screen fb damage (tx1 + n) j t).bind (tileRow fb damage tx1 j n)

/-- The outer loop, `j` from `ty1 + m - 1` down to `ty1`. -/
def tileRows (fb : Bytes) (damage : R) (tx1 ty1 : Int) (n : Nat) :
    Nat → Bytes × Rects → Option (Bytes × Rects)
  | 0, t => some t
  | m + 1, t =>
      (tileRow server screen fb damage tx1 (ty1 + m) n t).bind
        (tileRows fb damage tx1 ty1 n m)

/-- The part of `LS_ShadowUpdatePacked` for two buffers: `shadow_fb2` and the damage
afterwards. -/
def reduceDamage (fb fb2 : Bytes) (damage : R) (callocOk : Bool) : Option (Bytes × R) :=
  let extents := server.extents damage
  let tx1 := extents.x1.tdiv 16
  let tx2 := (extents.x2 + 16 - 1).tdiv 16
  let ty1 := extents.y1.tdiv 16
  let ty2 := (extents.y2 + 16 - 1).tdiv 16
  let nrects := (tx2 - tx1) * (ty2 - ty1)
  if !callocOk then some (fb2, damage)
  else
    (tileRows server screen fb damage tx1 ty1 (tx2 - tx1).toNat (ty2 - ty1).toNat
      (fb2, ⟨nrects.toNat, []⟩)).map fun t =>
        (t.1, server.intersect damage (server.fromRects (t.2.filled.map XRectangle.box)))

/-- The shadow buffers, their switch and the scanout. -/
structure ShadowState (β : Type*) where
  shadowFb : Bytes
  shadowFb2 : Option Bytes
  shadowEnable2 : Bool
  scanout : Scanout β

/-- `use_3224`. -/
def Screen.use3224 (screen : Screen) : Bool :=
  screen.force2432 && screen.bitsPerPixel == 32

/-- The server's copying function for the screen. -/
def update (damage : R) (s : ShadowState β) : ShadowState β :=
  { s with
    scanout :=
      if screen.use3224 then
        server.update32to24 damage (screen.pixel s.shadowFb) s.scanout
      else server.updatePacked damage (screen.pixel s.shadowFb) s.scanout }

/-- `LS_ShadowUpdatePacked`: the state and the damage afterwards, unless memory was
touched outside a block. -/
def lsShadowUpdatePacked (s : ShadowState β) (damage : R) (callocOk : Bool) :
    Option (ShadowState β × R) :=
  match s.shadowEnable2, s.shadowFb2 with
  | true, some fb2 =>
      (reduceDamage server screen s.shadowFb fb2 damage callocOk).map fun r =>
        (update server screen r.2 { s with shadowFb2 := some r.1 }, r.2)
  | _, _ => some (update server screen damage s, damage)

end Update

end LoongsonVideo.Driver.Shadow
