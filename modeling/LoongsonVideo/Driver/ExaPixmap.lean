import LoongsonVideo.Verified.Ledger
import Mathlib.Logic.Function.Basic

/-!
# EXA pixmaps

The memory behind a pixmap, from `src/loongson_pixmap.c`, `src/fake_exa.c`,
`src/loongson_buffer.c` and `src/dumb_bo.c`.  A pixmap's driver private
(`ms_exa_pixmap_priv`) is made for one of two kinds of memory, chosen by the usage
hint: a buffer object of the kernel (`LS_CreateDumbPixmap`) or plain `malloc`
(`LS_CreateExaPixmap`).

A pixmap and its private have one number.  Privates, `malloc` blocks and buffer
objects are numbered by `next`, descriptors by `nextFd`, and no number is used twice.
Every call that may fail has its answer as a parameter.
-/

namespace LoongsonVideo.Driver.ExaPixmap

open LoongsonVideo.Verified.Ledger

/-- `struct LoongsonBuf`. -/
structure LoongsonBuf where
  pDat : Option Nat
  size : UInt32
  pitch : UInt32
  width : UInt32
  height : UInt32
  deriving DecidableEq, Repr

/-- An `mmap` of a buffer object. -/
structure Mapping where
  bo : Nat
  length : UInt32
  deriving DecidableEq, Repr

/-- `struct dumb_bo`. -/
structure DumbBo where
  size : UInt32
  ptr : Option Mapping
  pitch : UInt32
  deriving DecidableEq, Repr

/-- `struct ms_exa_pixmap_priv`. -/
structure ExaPixmapPriv where
  bo : Option Nat
  fd : Int
  pitch : Int
  owned : Bool
  buf : LoongsonBuf
  usageHint : UInt32
  deriving DecidableEq, Repr

/-- What `devPrivate.ptr` points to. -/
inductive PixelData where
  | mapped (m : Mapping)
  | malloced (block : Nat)
  deriving DecidableEq, Repr

/-- The fields of a `PixmapRec` that the driver and the software renderer read. -/
structure PixmapRec where
  width : Int
  height : Int
  depth : Int
  bitsPerPixel : Int
  devKind : Int
  ptr : Option PixelData
  deriving DecidableEq, Repr

/-- What the pixmap code acquires.  `bufField` is the address of the `buf` field
inside a private, which nothing is ever allocated at. -/
inductive Resource where
  | priv (p : Nat)
  | bufField (p : Nat)
  | buf (block : Nat)
  | bo (b : Nat)
  | fd (n : Nat)
  deriving DecidableEq, Repr

/-- The pixmaps of a screen.  `live` are the pixmaps that exist, `callerBos` the
buffer objects that callers of this code have imported and own. -/
structure ExaState where
  exaDrvPtr : Bool
  privs : Nat → ExaPixmapPriv
  bos : Nat → DumbBo
  pixmaps : Nat → PixmapRec
  live : List Nat
  callerBos : List Nat
  next : Nat
  nextFd : Nat
  log : List (Act Resource)

namespace ExaState

def act (s : ExaState) (a : Act Resource) : ExaState := { s with log := a :: s.log }

def setPriv (s : ExaState) (p : Nat) (priv : ExaPixmapPriv) : ExaState :=
  { s with privs := Function.update s.privs p priv }

def setBo (s : ExaState) (b : Nat) (bo : DumbBo) : ExaState :=
  { s with bos := Function.update s.bos b bo }

def setPixmap (s : ExaState) (p : Nat) (pixmap : PixmapRec) : ExaState :=
  { s with pixmaps := Function.update s.pixmaps p pixmap }

/-- Acquire the thing numbered `s.next`. -/
def allocate (s : ExaState) (x : Nat → Resource) : ExaState :=
  ({ s with next := s.next + 1 } : ExaState).act (.acquire (x s.next))

end ExaState

/-! ## Usage hints -/

/-- The server's `CREATE_PIXMAP_USAGE_*` values and the driver's own. -/
def usageScratch : UInt32 := 1
def usageBackingPixmap : UInt32 := 2
def usageGlyphPicture : UInt32 := 3
def usageShared : UInt32 := 4
def usageScanout : UInt32 := 0x80000000

/-- `LS_IsDumbPixmap`. -/
def lsIsDumbPixmap (usageHint : UInt32) : Bool :=
  if usageHint = usageBackingPixmap then true
  else if usageHint = usageShared then true
  else if usageHint = usageGlyphPicture then false
  else if usageHint = usageScratch then false
  else if usageHint = usageScanout then true
  else false

/-! ## Buffer objects and descriptors -/

/-- The answers in `dumb_bo_create`: `calloc`, and the size and pitch the kernel
chose. -/
structure CreateDumb where
  callocOk : Bool
  reply : Option (UInt32 × UInt32)
  deriving DecidableEq, Repr

/-- `dumb_bo_create`. -/
def dumbBoCreate (s : ExaState) (a : CreateDumb) : ExaState × Option Nat :=
  match a.callocOk, a.reply with
  | true, some (size, pitch) =>
      ((s.allocate .bo).setBo s.next ⟨size, none, pitch⟩, some s.next)
  | _, _ => (s, none)

/-- The answers in `dumb_get_bo_from_fd`. -/
structure ImportDumb where
  callocOk : Bool
  primeFDToHandleOk : Bool
  deriving DecidableEq, Repr

/-- `dumb_get_bo_from_fd`.  Both numbers arrive as `int` and are stored as
`uint32_t`, which keeps their bits. -/
def dumbGetBoFromFd (s : ExaState) (pitch size : UInt32) (a : ImportDumb) :
    ExaState × Option Nat :=
  if !a.callocOk then (s, none)
  else if !a.primeFDToHandleOk then (s, none)
  else ((s.allocate .bo).setBo s.next ⟨size, none, pitch⟩, some s.next)

/-- `dumb_bo_destroy`.  When the kernel does not let go of the buffer the record is
not freed either. -/
def dumbBoDestroy (s : ExaState) (b : Nat) (ioctlOk : Bool) : ExaState :=
  let s := (s.act (.touch (.bo b))).setBo b { s.bos b with ptr := none }
  if ioctlOk then s.act (.release (.bo b)) else s

/-- The answers in `dumb_bo_map`. -/
structure MapDumb where
  ioctlOk : Bool
  mmapOk : Bool
  deriving DecidableEq, Repr

/-- `dumb_bo_map`. -/
def dumbBoMap (s : ExaState) (b : Nat) (a : MapDumb) : ExaState :=
  let s := s.act (.touch (.bo b))
  match (s.bos b).ptr with
  | some _ => s
  | none =>
      if a.ioctlOk && a.mmapOk then
        s.setBo b { s.bos b with ptr := some ⟨b, (s.bos b).size⟩ }
      else s

/-- `drmPrimeHandleToFD` on a buffer object. -/
def drmPrimeHandleToFD (s : ExaState) (b : Nat) (ok : Bool) : ExaState × Option Nat :=
  let s := s.act (.touch (.bo b))
  if ok then
    (({ s with nextFd := s.nextFd + 1 } : ExaState).act (.acquire (.fd s.nextFd)),
      some s.nextFd)
  else (s, none)

/-- `if (priv->fd > 0) close(priv->fd)`. -/
def closeFd (s : ExaState) (fd : Int) : ExaState :=
  if fd > 0 then s.act (.release (.fd fd.toNat)) else s

/-! ## Plain memory -/

/-- A `LoongsonBuf` that is all zero. -/
def LoongsonBuf.zero : LoongsonBuf := ⟨none, 0, 0, 0, 0⟩

/-- The pitch of `LS_AllocBuf`: whole 32-bit words, then a multiple of 16. -/
def bufPitch (width bpp : Int) : UInt32 :=
  (UInt32.ofInt (((width * bpp + 31) >>> (5 : Nat)) * 4) + 15) &&& ~~~15

/-- `LS_AllocBuf`. -/
def lsAllocBuf (s : ExaState) (width height bpp : Int) (mallocOk : Bool) :
    ExaState × LoongsonBuf :=
  let pitch := bufPitch width bpp
  let size := pitch * UInt32.ofInt height
  if mallocOk then
    (s.allocate .buf,
      ⟨some s.next, size, pitch, UInt32.ofInt width, UInt32.ofInt height⟩)
  else (s, ⟨none, size, pitch, UInt32.ofInt width, UInt32.ofInt height⟩)

/-- `LS_FreeBuf` on the buffer of a private. -/
def lsFreeBuf (s : ExaState) (p : Nat) : ExaState :=
  match (s.privs p).buf.pDat with
  | none => s
  | some block =>
      (s.act (.release (.buf block))).setPriv p { s.privs p with buf := LoongsonBuf.zero }

/-! ## Creation -/

/-- The private `calloc` returns, with its hint. -/
def ExaPixmapPriv.new (usageHint : UInt32) : ExaPixmapPriv :=
  ⟨none, 0, 0, false, LoongsonBuf.zero, usageHint⟩

/-- A call of `CreatePixmap2` and the answers it meets. -/
structure CreateCall where
  width : Int
  height : Int
  depth : Int
  bitsPerPixel : Int
  usageHint : UInt32
  callocOk : Bool
  mallocOk : Bool
  createDumb : CreateDumb
  primeOk : Bool
  deriving DecidableEq, Repr

/-- `calloc` of a private. -/
def newPriv (s : ExaState) (usageHint : UInt32) : ExaState :=
  (s.allocate .priv).setPriv s.next (ExaPixmapPriv.new usageHint)

/-- The size of a `malloc` pixmap asks for memory. -/
def CreateCall.hasSize (c : CreateCall) : Bool :=
  decide (c.width > 0) && decide (c.height > 0) && decide (c.depth > 0) &&
    decide (c.bitsPerPixel > 0)

/-- `LS_CreateExaPixmap`: the private and what is stored in `*new_fb_pitch`.  On
failure the buffer field is freed instead of the private. -/
def lsCreateExaPixmap (s : ExaState) (c : CreateCall) : ExaState × Option (Nat × Option Int) :=
  if !c.callocOk then (s, none)
  else
    let p := s.next
    let s := newPriv s c.usageHint
    if c.hasSize then
      let (s, buf) := lsAllocBuf s c.width c.height c.bitsPerPixel c.mallocOk
      let s := s.setPriv p { s.privs p with buf := buf }
      match buf.pDat with
      | none => (s.act (.release (.bufField p)), none)
      | some _ => (s, some (p, some buf.pitch.toNat))
    else (s, some (p, some 0))

/-- `LS_CreateDumbPixmap`.  The exported descriptor is stored nowhere. -/
def lsCreateDumbPixmap (s : ExaState) (c : CreateCall) :
    ExaState × Option (Nat × Option Int) :=
  if !c.callocOk then (s, none)
  else
    let p := s.next
    let s := newPriv s c.usageHint
    if c.width = 0 ∧ c.height = 0 then (s, some (p, none))
    else
      match dumbBoCreate s c.createDumb with
      | (s, none) => (s.act (.release (.priv p)), none)
      | (s, some b) =>
          let s := s.setPriv p { s.privs p with bo := some b, owned := true }
          match drmPrimeHandleToFD s b c.primeOk with
          | (s, none) => (s, none)
          | (s, some _) =>
              let pitch : Int := (s.bos b).pitch.toInt32.toInt
              (s.setPriv p { s.privs p with pitch := pitch }, some (p, some pitch))

/-- `ms_exa_create_pixmap2`: the new pixmap, or `none`. -/
def msExaCreatePixmap2 (s : ExaState) (c : CreateCall) : ExaState × Option Nat :=
  let out :=
    if lsIsDumbPixmap c.usageHint then lsCreateDumbPixmap s c else lsCreateExaPixmap s c
  match out with
  | (s, none) => (s, none)
  | (s, some (p, _)) => ({ s with live := p :: s.live }, some p)

/-! ## Replacement, exchange and destruction -/

/-- `if (priv->owned && priv->bo) dumb_bo_destroy(priv->bo)`. -/
def destroyOwned (s : ExaState) (priv : ExaPixmapPriv) (ioctlOk : Bool) : ExaState :=
  match priv.owned, priv.bo with
  | true, some b => dumbBoDestroy s b ioctlOk
  | _, _ => s

/-- The answers in `ms_exa_set_pixmap_bo`: to the destruction of the old buffer object
and to the export of the new one. -/
structure SetAnswer where
  destroyOk : Bool
  primeOk : Bool
  deriving DecidableEq, Repr

/-- `ms_exa_set_pixmap_bo`. -/
def msExaSetPixmapBo (s : ExaState) (p b : Nat) (owned : Bool) (a : SetAnswer) :
    ExaState × Bool :=
  if !s.exaDrvPtr then (s, false)
  else
    let priv := s.privs p
    let s := closeFd (s.act (.touch (.priv p))) priv.fd
    let s := destroyOwned s priv a.destroyOk
    match drmPrimeHandleToFD s b a.primeOk with
    | (s, none) => (s, false)
    | (s, some n) =>
        let pitch : Int := (s.bos b).pitch.toInt32.toInt
        ((s.setPriv p
            { s.privs p with bo := some b, fd := n, pitch := pitch, owned := owned }).setPixmap
          p { s.pixmaps p with ptr := none, devKind := pitch },
          true)

/-- `ms_exa_exchange_buffers`: the privates' whole contents change places. -/
def msExaExchangeBuffers (s : ExaState) (front back : Nat) : ExaState :=
  let s := (s.act (.touch (.priv front))).act (.touch (.priv back))
  (s.setPriv front (s.privs back)).setPriv back (s.privs front)

/-- `LS_DestroyExaPixmap`. -/
def lsDestroyExaPixmap (s : ExaState) (p : Nat) : ExaState :=
  (lsFreeBuf s p).act (.release (.priv p))

/-- `LS_DestroyDumbPixmap`. -/
def lsDestroyDumbPixmap (s : ExaState) (p : Nat) (ioctlOk : Bool) : ExaState :=
  let priv := s.privs p
  (destroyOwned (closeFd s priv.fd) priv ioctlOk).act (.release (.priv p))

/-- `ms_exa_destroy_pixmap`. -/
def msExaDestroyPixmap (s : ExaState) (p : Nat) (ioctlOk : Bool) : ExaState :=
  let s := { s with live := s.live.erase p }
  let s := s.act (.touch (.priv p))
  if lsIsDumbPixmap (s.privs p).usageHint then lsDestroyDumbPixmap s p ioctlOk
  else lsDestroyExaPixmap s p

/-! ## Access -/

/-- `ms_exa_prepare_access`: software rendering gets `devPrivate.ptr` when `true` is
returned. -/
def msExaPrepareAccess (s : ExaState) (p : Nat) (a : MapDumb) : ExaState × Bool :=
  let priv := s.privs p
  let pixmap := s.pixmaps p
  if lsIsDumbPixmap priv.usageHint then
    if pixmap.ptr.isSome then (s, true)
    else
      match priv.bo with
      -- The source does not look: without a `bo` it dereferences `NULL` here.
      | none => (s, false)
      | some b =>
          let s := dumbBoMap s b a
          let ptr := (s.bos b).ptr.map PixelData.mapped
          (s.setPixmap p { pixmap with ptr := ptr }, ptr.isSome)
  else
    let ptr := priv.buf.pDat.map PixelData.malloced
    (s.setPixmap p { pixmap with ptr := ptr }, ptr.isSome)

/-- `ms_exa_finish_access`. -/
def msExaFinishAccess (s : ExaState) (p : Nat) : ExaState :=
  if (s.privs p).bo.isSome then s.setPixmap p { s.pixmaps p with ptr := none } else s

end LoongsonVideo.Driver.ExaPixmap
