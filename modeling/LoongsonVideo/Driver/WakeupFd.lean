import LoongsonVideo.Driver.DrmQueueRun
import Mathlib.Data.List.Basic

/-!
# Watching the device

`ms_vblank_screen_init` has the server watch the descriptor of the device for events, once for
all screens that share it, and `ms_vblank_close_screen` ends this with the last of them.  The
entity counts the screens (`src/loongson_entity.c`) and remembers the server generation it has
counted them in.  The handler is given the screen that was initialised first.

The runs are those of `DrmQueueRun` with a server around them that opens and closes screens and
starts new generations.

* `watched_iff`: when the descriptor of a device is watched.
* `handler_open_iff`: in which runs the handler's screen is never a closed one.
* `handler_open_of_reverse`: so it is when screens are closed in reverse order.
-/

namespace LoongsonVideo.Driver.WakeupFd

open LoongsonVideo.Driver.DrmQueue LoongsonVideo.Driver.DrmQueueRun
open LoongsonVideo.Verified.Machine

/-! ## The server -/

/-- The descriptors of the devices.  Those of two devices differ. -/
structure Devices where
  fd : Nat → Nat
  distinct : Function.Injective fd

/-- The queue, the server's generation and its open screens, newest first.  `lapsed` has the
devices that have been without an open screen in this generation after they had one. -/
structure Server where
  queue : QueueRun
  serverGeneration : Nat
  screens : List Screen
  lapsed : Nat → Bool

/-- The first generation has number 1. -/
def Server.start : Server := ⟨.start, 1, [], fun _ => false⟩

/-- The open screens of a device. -/
def Server.sharing (s : Server) (entity : Nat) : List Screen :=
  s.screens.filter fun screen => screen.entity = entity

inductive ServerCall where
  | queue (op : QueueOp)
  | regenerate

/-- What the server does: it opens no screen twice, closes what is open, in the generation it is
in, and starts the next one without screens. -/
def Admitted (dev : Devices) (s : Server) : ServerCall → Prop
  | .queue (.screenInit screen gen) =>
      gen = s.serverGeneration ∧ screen.fd = dev.fd screen.entity ∧
        screen.scrn ∉ s.screens.map Screen.scrn
  | .queue (.closeScreen screen gen) => gen = s.serverGeneration ∧ screen ∈ s.screens
  | .queue _ => True
  | .regenerate => s.screens = []

instance (dev : Devices) (s : Server) (call : ServerCall) : Decidable (Admitted dev s call) :=
  match call with
  | .queue (.screenInit screen gen) =>
      inferInstanceAs (Decidable (gen = s.serverGeneration ∧
        screen.fd = dev.fd screen.entity ∧ screen.scrn ∉ s.screens.map Screen.scrn))
  | .queue (.closeScreen screen gen) =>
      inferInstanceAs (Decidable (gen = s.serverGeneration ∧ screen ∈ s.screens))
  | .queue (.queueAlloc ..) | .queue (.event _) | .queue .handlerReturn | .queue (.abortSeq ..)
  | .queue (.abort ..) => instDecidableTrue
  | .regenerate => inferInstanceAs (Decidable (s.screens = []))

def perform (s : Server) : ServerCall → Server
  | .queue (.screenInit screen gen) =>
      { s with
        queue := queueStep s.queue (.screenInit screen gen)
        screens := screen :: s.screens }
  | .queue (.closeScreen screen gen) =>
      let screens := s.screens.erase screen
      { s with
        queue := queueStep s.queue (.closeScreen screen gen)
        screens := screens
        lapsed :=
          if screens.all fun other => other.entity ≠ screen.entity then
            Function.update s.lapsed screen.entity true
          else s.lapsed }
  | .queue op => { s with queue := queueStep s.queue op }
  | .regenerate =>
      { s with serverGeneration := s.serverGeneration + 1, lapsed := fun _ => false }

def serverStep (dev : Devices) (s : Server) (call : ServerCall) : Server :=
  if Admitted dev s call then perform s call else s

/-- The entity's record. -/
def Server.wakeup (s : Server) (entity : Nat) : EntityWakeup := s.queue.v.entity entity

/-- What the handler of the device's descriptor is given, if there is one. -/
def Server.handler (dev : Devices) (s : Server) (entity : Nat) : Option Nat :=
  s.queue.v.notifyFd (dev.fd entity)

/-! ## What one call does -/

/-- Entity records and handlers stay as they are. -/
structure Quiet (v v' : Vblank Nat) : Prop where
  entity : v'.entity = v.entity
  notifyFd : v'.notifyFd = v.notifyFd

theorem quiet_queueAlloc (v : Vblank Nat) (crtc : Crtc) (data : Nat) (callocOk : Bool) :
    Quiet v (msDrmQueueAlloc v crtc data callocOk).1 := by
  unfold msDrmQueueAlloc
  split <;> exact ⟨rfl, rfl⟩

theorem quiet_abortFirst (v : Vblank Nat) (p : QueueEntry Nat → Bool) :
    Quiet v (abortFirst v p).1 := by
  unfold abortFirst
  split <;> exact ⟨rfl, rfl⟩

theorem quiet_sequenceHandler (v : Vblank Nat) (frame ns : UInt64) (is64bit : Bool)
    (userData : UInt64) : Quiet v (msDrmSequenceHandler v frame ns is64bit userData).1 := by
  unfold msDrmSequenceHandler
  simp only
  split <;> exact ⟨rfl, rfl⟩

theorem quiet_handleEvent (v : Vblank Nat) (e : KernelEvent) : Quiet v (drmHandleEvent v e).1 := by
  cases e <;> exact quiet_sequenceHandler ..

/-- The calls that are neither of a screen's. -/
def Elsewhere : QueueOp → Prop
  | .screenInit _ _ => False
  | .closeScreen _ _ => False
  | _ => True

theorem quiet_queueStep (st : QueueRun) {op : QueueOp} (hop : Elsewhere op) :
    Quiet st.v (queueStep st op).v := by
  cases op with
  | screenInit _ _ => exact hop.elim
  | closeScreen _ _ => exact hop.elim
  | queueAlloc crtc callocOk =>
      rw [queueStep]
      split <;> exact quiet_queueAlloc ..
  | event e =>
      rw [queueStep]
      split <;> exact quiet_handleEvent ..
  | handlerReturn =>
      rw [queueStep]
      split <;> exact ⟨rfl, rfl⟩
  | abortSeq scrn seq => exact quiet_abortFirst ..
  | abort scrn isMatch => exact quiet_abortFirst ..

/-- The first screen of a generation has the descriptor watched, the next ones are counted. -/
theorem screenInit_cases (v : Vblank Nat) (screen : Screen) (gen : Nat) :
    (gen ≠ (v.entity screen.entity).fdWakeupRegistered ∧
      (msVblankScreenInit v screen gen).entity =
        Function.update v.entity screen.entity ⟨gen, 1⟩ ∧
      (msVblankScreenInit v screen gen).notifyFd =
        Function.update v.notifyFd screen.fd (some screen.scrn)) ∨
    (gen = (v.entity screen.entity).fdWakeupRegistered ∧
      (msVblankScreenInit v screen gen).entity =
        Function.update v.entity screen.entity
          ⟨gen, (v.entity screen.entity).fdWakeupRef + 1⟩ ∧
      (msVblankScreenInit v screen gen).notifyFd = v.notifyFd) := by
  by_cases hgen : gen = (v.entity screen.entity).fdWakeupRegistered
  · have hinit : msVblankScreenInit v screen gen =
        { v with
          msDrmQueue := []
          entity := Function.update v.entity screen.entity
            { v.entity screen.entity with
              fdWakeupRef := (v.entity screen.entity).fdWakeupRef + 1 } } :=
      if_neg (not_not.mpr hgen)
    rw [hinit, hgen]
    exact Or.inr ⟨rfl, rfl, rfl⟩
  · have hinit : msVblankScreenInit v screen gen =
        { v with
          msDrmQueue := []
          notifyFd := Function.update v.notifyFd screen.fd (some screen.scrn)
          entity := Function.update v.entity screen.entity ⟨gen, 1⟩ } :=
      if_pos hgen
    rw [hinit]
    exact Or.inl ⟨hgen, rfl, rfl⟩

/-- In the generation of the count, a screen is counted off, and with the last one the descriptor
is no longer watched. -/
theorem closeScreen_cases (v : Vblank Nat) (screen : Screen) (gen : Nat)
    (hgen : gen = (v.entity screen.entity).fdWakeupRegistered) :
    (msVblankCloseScreen v screen gen).1.entity =
        Function.update v.entity screen.entity
          ⟨gen, (v.entity screen.entity).fdWakeupRef - 1⟩ ∧
      (msVblankCloseScreen v screen gen).1.notifyFd =
        if (v.entity screen.entity).fdWakeupRef = 1 then
          Function.update v.notifyFd screen.fd none
        else v.notifyFd := by
  have hone : (v.entity screen.entity).fdWakeupRef - 1 = 0 ↔
      (v.entity screen.entity).fdWakeupRef = 1 := by omega
  simp only [msVblankCloseScreen, msDrmAbortScrn, hgen, if_true, hone, and_self]

/-! ## The count -/

section Sharing

variable {s : Server} {screen : Screen} {gen : Nat}

theorem sharing_init_self :
    (perform s (.queue (.screenInit screen gen))).sharing screen.entity =
      screen :: s.sharing screen.entity := by
  simp [perform, Server.sharing]

theorem sharing_init_ne {e : Nat} (he : e ≠ screen.entity) :
    (perform s (.queue (.screenInit screen gen))).sharing e = s.sharing e := by
  simp [perform, Server.sharing, he.symm]

theorem sharing_close (e : Nat) :
    (perform s (.queue (.closeScreen screen gen))).sharing e = (s.sharing e).erase screen :=
  List.erase_filter.symm

theorem sharing_close_ne {e : Nat} (he : e ≠ screen.entity) :
    (perform s (.queue (.closeScreen screen gen))).sharing e = s.sharing e := by
  rw [sharing_close]
  refine List.erase_of_not_mem fun hmem => he ?_
  have hentity := (List.mem_filter.mp hmem).2
  exact (of_decide_eq_true hentity).symm

theorem mem_sharing_iff {e : Nat} :
    screen ∈ s.sharing e ↔ screen ∈ s.screens ∧ screen.entity = e := by
  rw [Server.sharing, List.mem_filter, decide_eq_true_iff]

/-- A device lapses when its last screen closes. -/
theorem lapsed_close (e : Nat) :
    (perform s (.queue (.closeScreen screen gen))).lapsed e = true ↔
      s.lapsed e = true ∨ (e = screen.entity ∧ (s.sharing e).erase screen = []) := by
  have hall : ((s.screens.erase screen).all fun other => other.entity ≠ screen.entity) = true ↔
      (s.sharing screen.entity).erase screen = [] := by
    rw [Server.sharing, List.erase_filter, List.filter_eq_nil_iff, List.all_eq_true]
    simp
  simp only [perform]
  split
  · rename_i hempty
    have hnil := hall.mp hempty
    by_cases he : e = screen.entity
    · subst he
      rw [Function.update_self]
      exact iff_of_true rfl (Or.inr ⟨rfl, hnil⟩)
    · rw [Function.update_of_ne he]
      simp [he]
  · rename_i hsome
    constructor
    · exact Or.inl
    · rintro (hlapsed | ⟨rfl, hnil⟩)
      · exact hlapsed
      · exact absurd (hall.mpr hnil) hsome

end Sharing

/-- The record of a device counts its open screens, if it is of this generation. -/
structure Counted (dev : Devices) (s : Server) (e : Nat) : Prop where
  notLater : (s.wakeup e).fdWakeupRegistered ≤ s.serverGeneration
  current : (s.wakeup e).fdWakeupRegistered = s.serverGeneration →
    (s.wakeup e).fdWakeupRef = (s.sharing e).length ∧ (s.sharing e = [] → s.lapsed e = true)
  older : (s.wakeup e).fdWakeupRegistered ≠ s.serverGeneration →
    s.sharing e = [] ∧ s.lapsed e = false
  watched : (s.handler dev e).isSome = true ↔ s.sharing e ≠ [] ∧ s.lapsed e = false

structure Inv (dev : Devices) (s : Server) : Prop where
  counted : ∀ e, Counted dev s e
  fds : ∀ screen ∈ s.screens, screen.fd = dev.fd screen.entity
  scrns : (s.screens.map Screen.scrn).Nodup

theorem inv_start (dev : Devices) : Inv dev Server.start where
  counted _ := ⟨Nat.zero_le 1, fun h => absurd h Nat.zero_ne_one, fun _ => ⟨rfl, rfl⟩,
    by simp [Server.handler, Server.start, QueueRun.start, Vblank.start, Server.sharing]⟩
  fds _ hmem := absurd hmem List.not_mem_nil
  scrns := List.nodup_nil

/-- What the record of a device is compared with. -/
structure SameDevice (dev : Devices) (s s' : Server) (e : Nat) : Prop where
  wakeup : s'.wakeup e = s.wakeup e
  serverGeneration : s'.serverGeneration = s.serverGeneration
  sharing : s'.sharing e = s.sharing e
  lapsed : s'.lapsed e = true ↔ s.lapsed e = true
  handler : s'.handler dev e = s.handler dev e

theorem SameDevice.counted {dev : Devices} {s s' : Server} {e : Nat} (h : SameDevice dev s s' e)
    (hc : Counted dev s e) : Counted dev s' e := by
  have hlapsed : s'.lapsed e = s.lapsed e := Bool.eq_iff_iff.mpr h.lapsed
  constructor
  · rw [h.wakeup, h.serverGeneration]
    exact hc.notLater
  · rw [h.wakeup, h.serverGeneration, h.sharing, hlapsed]
    exact hc.current
  · rw [h.wakeup, h.serverGeneration, h.sharing, hlapsed]
    exact hc.older
  · rw [h.handler, h.sharing, hlapsed]
    exact hc.watched

section Steps

variable {dev : Devices} {s : Server} {screen : Screen}

/-- Another device is not concerned. -/
theorem sameDevice_init {e : Nat} (he : e ≠ screen.entity) (hfd : screen.fd = dev.fd screen.entity) :
    SameDevice dev s (perform s (.queue (.screenInit screen s.serverGeneration))) e := by
  have hne : dev.fd e ≠ screen.fd := fun heq => he (dev.distinct (heq.trans hfd))
  have hcases := screenInit_cases s.queue.v screen s.serverGeneration
  refine ⟨?_, rfl, sharing_init_ne he, Iff.rfl, ?_⟩
  · rcases hcases with ⟨-, hentity, -⟩ | ⟨-, hentity, -⟩
    · exact (congrFun hentity e).trans (Function.update_of_ne he _ _)
    · exact (congrFun hentity e).trans (Function.update_of_ne he _ _)
  · rcases hcases with ⟨-, -, hfds⟩ | ⟨-, -, hfds⟩
    · exact (congrFun hfds (dev.fd e)).trans (Function.update_of_ne hne _ _)
    · exact congrFun hfds (dev.fd e)

theorem counted_init_self (hc : Counted dev s screen.entity)
    (hfd : screen.fd = dev.fd screen.entity) :
    Counted dev (perform s (.queue (.screenInit screen s.serverGeneration))) screen.entity := by
  rcases screenInit_cases s.queue.v screen s.serverGeneration with
    ⟨hgen, hentity, hfds⟩ | ⟨hgen, hentity, hfds⟩
  · -- The first screen of the generation: there was none before it.
    obtain ⟨hnone, hlapsed⟩ := hc.older (Ne.symm hgen)
    have hwakeup : (perform s (.queue (.screenInit screen s.serverGeneration))).wakeup
        screen.entity = ⟨s.serverGeneration, 1⟩ :=
      (congrFun hentity screen.entity).trans (Function.update_self ..)
    have hhandler : (perform s (.queue (.screenInit screen s.serverGeneration))).handler dev
        screen.entity = some screen.scrn := by
      rw [Server.handler, ← hfd]
      exact (congrFun hfds screen.fd).trans (Function.update_self ..)
    constructor
    · rw [hwakeup]
      exact Nat.le_refl _
    · rw [hwakeup, sharing_init_self, hnone]
      exact fun _ => ⟨rfl, fun h => absurd h (List.cons_ne_nil _ _)⟩
    · rw [hwakeup]
      exact fun h => absurd rfl h
    · rw [hhandler, sharing_init_self]
      exact iff_of_true rfl ⟨List.cons_ne_nil _ _, hlapsed⟩
  · obtain ⟨hcount, hempty⟩ := hc.current hgen.symm
    have hwakeup : (perform s (.queue (.screenInit screen s.serverGeneration))).wakeup
        screen.entity = ⟨s.serverGeneration, (s.wakeup screen.entity).fdWakeupRef + 1⟩ :=
      (congrFun hentity screen.entity).trans (Function.update_self ..)
    have hhandler : (perform s (.queue (.screenInit screen s.serverGeneration))).handler dev
        screen.entity = s.handler dev screen.entity := congrFun hfds _
    constructor
    · rw [hwakeup]
      exact Nat.le_refl _
    · rw [hwakeup, sharing_init_self, hcount]
      exact fun _ => ⟨rfl, fun h => absurd h (List.cons_ne_nil _ _)⟩
    · rw [hwakeup]
      exact fun h => absurd rfl h
    · rw [hhandler, sharing_init_self, hc.watched]
      -- A device without screens that is of this generation has lapsed.
      show _ ↔ screen :: _ ≠ [] ∧ s.lapsed screen.entity = false
      constructor
      · exact fun h => ⟨List.cons_ne_nil _ _, h.2⟩
      · intro h
        refine ⟨fun hnone => ?_, h.2⟩
        have hlapsed := hempty hnone
        rw [h.2] at hlapsed
        exact Bool.false_ne_true hlapsed

theorem Counted.isCurrent (hc : Counted dev s screen.entity) (hmem : screen ∈ s.screens) :
    s.serverGeneration = (s.queue.v.entity screen.entity).fdWakeupRegistered := by
  by_contra hgen
  have hnone := (hc.older (Ne.symm hgen)).1
  have hin : screen ∈ s.sharing screen.entity := mem_sharing_iff.mpr ⟨hmem, rfl⟩
  rw [hnone] at hin
  exact List.not_mem_nil hin

theorem sameDevice_close {e : Nat} (hc : Counted dev s screen.entity)
    (hmem : screen ∈ s.screens) (he : e ≠ screen.entity)
    (hfd : screen.fd = dev.fd screen.entity) :
    SameDevice dev s (perform s (.queue (.closeScreen screen s.serverGeneration))) e := by
  have hne : dev.fd e ≠ screen.fd := fun heq => he (dev.distinct (heq.trans hfd))
  obtain ⟨hentity, hfds⟩ :=
    closeScreen_cases s.queue.v screen s.serverGeneration (hc.isCurrent hmem)
  refine ⟨(congrFun hentity e).trans (Function.update_of_ne he _ _), rfl, sharing_close_ne he,
    ?_, (congrFun hfds (dev.fd e)).trans ?_⟩
  · rw [lapsed_close]
    simp [he]
  · split
    · exact Function.update_of_ne hne _ _
    · rfl

/-- The handler goes with the last screen. -/
theorem handler_close (hc : Counted dev s screen.entity) (hmem : screen ∈ s.screens)
    (hfd : screen.fd = dev.fd screen.entity) :
    (perform s (.queue (.closeScreen screen s.serverGeneration))).handler dev screen.entity =
      if (s.sharing screen.entity).length = 1 then none else s.handler dev screen.entity := by
  have hgen := hc.isCurrent hmem
  obtain ⟨-, hfds⟩ := closeScreen_cases s.queue.v screen s.serverGeneration hgen
  have hcount : (s.queue.v.entity screen.entity).fdWakeupRef = (s.sharing screen.entity).length :=
    (hc.current hgen.symm).1
  have hone : (s.queue.v.entity screen.entity).fdWakeupRef = 1 ↔
      (s.sharing screen.entity).length = 1 := by omega
  refine (congrFun hfds (dev.fd screen.entity)).trans ?_
  simp only [hone]
  split
  · rw [← hfd, Function.update_self]
  · rfl

theorem counted_close_self (hc : Counted dev s screen.entity) (hmem : screen ∈ s.screens)
    (hfd : screen.fd = dev.fd screen.entity) :
    Counted dev (perform s (.queue (.closeScreen screen s.serverGeneration))) screen.entity := by
  have hgen := hc.isCurrent hmem
  have hin : screen ∈ s.sharing screen.entity := mem_sharing_iff.mpr ⟨hmem, rfl⟩
  have hlength := List.length_erase_of_mem hin
  have hpos := List.length_pos_of_mem hin
  have hcount : (s.queue.v.entity screen.entity).fdWakeupRef = (s.sharing screen.entity).length :=
    (hc.current hgen.symm).1
  have hlapsed : (perform s (.queue (.closeScreen screen s.serverGeneration))).lapsed
      screen.entity = true ↔ s.lapsed screen.entity = true ∨
        (screen.entity = screen.entity ∧ (s.sharing screen.entity).erase screen = []) :=
    lapsed_close screen.entity
  obtain ⟨hentity, -⟩ := closeScreen_cases s.queue.v screen s.serverGeneration hgen
  have hwakeup : (perform s (.queue (.closeScreen screen s.serverGeneration))).wakeup
      screen.entity =
        ⟨s.serverGeneration, (s.queue.v.entity screen.entity).fdWakeupRef - 1⟩ :=
    (congrFun hentity screen.entity).trans (Function.update_self ..)
  constructor
  · rw [hwakeup]
    exact Nat.le_refl _
  · rw [hwakeup, sharing_close, hcount, hlength]
    refine fun _ => ⟨?_, fun hnil => hlapsed.mpr (Or.inr ⟨rfl, hnil⟩)⟩
    show ((s.sharing screen.entity).length : Int) - 1 = _
    omega
  · rw [hwakeup]
    exact fun h => absurd rfl h
  · rw [handler_close hc hmem hfd, sharing_close]
    by_cases hone : (s.sharing screen.entity).length = 1
    · have hnil : (s.sharing screen.entity).erase screen = [] :=
        List.length_eq_zero_iff.mp (by omega)
      rw [if_pos hone]
      exact iff_of_false Bool.false_ne_true fun h => h.1 hnil
    · have hsome : (s.sharing screen.entity).erase screen ≠ [] := fun hnil => by
        rw [hnil] at hlength
        exact hone (by rw [List.length_nil] at hlength; omega)
      have hkept : (perform s (.queue (.closeScreen screen s.serverGeneration))).lapsed
          screen.entity = s.lapsed screen.entity :=
        Bool.eq_iff_iff.mpr (hlapsed.trans (or_iff_left fun h => hsome h.2))
      rw [if_neg hone, hc.watched, hkept]
      exact and_congr_left fun _ => iff_of_true (List.ne_nil_of_mem hin) hsome

/-- What the other calls leave alone. -/
theorem sameDevice_queue {op : QueueOp} (hop : Elsewhere op) (e : Nat) :
    SameDevice dev s (perform s (.queue op)) e := by
  have hquiet := quiet_queueStep s.queue hop
  cases op with
  | screenInit _ _ => exact hop.elim
  | closeScreen _ _ => exact hop.elim
  | _ =>
      exact ⟨congrFun hquiet.entity e, rfl, rfl, Iff.rfl, congrFun hquiet.notifyFd (dev.fd e)⟩

/-- Between generations nothing is watched. -/
theorem counted_regenerate {e : Nat} (hc : Counted dev s e) (hnone : s.screens = []) :
    Counted dev (perform s .regenerate) e := by
  have hsharing : s.sharing e = [] := by rw [Server.sharing, hnone]; rfl
  have hwatched : ¬ (s.handler dev e).isSome = true := fun h => (hc.watched.mp h).1 hsharing
  have hlt := Nat.lt_succ_of_le hc.notLater
  exact ⟨Nat.le_of_lt hlt, fun h => absurd h (Nat.ne_of_lt hlt), fun _ => ⟨hsharing, rfl⟩,
    iff_of_false hwatched fun h => h.1 hsharing⟩

theorem serverStep_inv (call : ServerCall) (h : Inv dev s) : Inv dev (serverStep dev s call) := by
  unfold serverStep
  split
  · rename_i hadm
    cases call with
    | regenerate =>
        exact ⟨fun e => counted_regenerate (h.counted e) hadm, h.fds, h.scrns⟩
    | queue op =>
        cases op with
        | screenInit screen gen =>
            obtain ⟨rfl, hfd, hnew⟩ := hadm
            refine ⟨fun e => ?_, fun other hmem => ?_, List.nodup_cons.mpr ⟨hnew, h.scrns⟩⟩
            · by_cases he : e = screen.entity
              · subst he
                exact counted_init_self (h.counted _) hfd
              · exact (sameDevice_init he hfd).counted (h.counted e)
            · rcases List.mem_cons.mp hmem with rfl | hmem
              · exact hfd
              · exact h.fds other hmem
        | closeScreen screen gen =>
            obtain ⟨rfl, hmem⟩ := hadm
            have hfd := h.fds screen hmem
            have hsub : (s.screens.erase screen).Sublist s.screens := List.erase_sublist
            refine ⟨fun e => ?_, fun other hother => h.fds other (hsub.subset hother),
              (hsub.map _).nodup h.scrns⟩
            by_cases he : e = screen.entity
            · subst he
              exact counted_close_self (h.counted _) hmem hfd
            · exact (sameDevice_close (h.counted _) hmem he hfd).counted (h.counted e)
        | _ =>
            refine ⟨fun e => (sameDevice_queue ?_ e).counted (h.counted e), h.fds, h.scrns⟩
            exact trivial
  · exact h

end Steps

/-- **The descriptor of a device is watched exactly while a screen of the device is open**, unless
the device has been without one before in the same server generation: then it stays unwatched
until the next. -/
theorem watched_iff (dev : Devices) (calls : List ServerCall) :
    Always (serverStep dev)
      (fun s => ∀ e, (s.handler dev e).isSome = true ↔
        (∃ screen ∈ s.screens, screen.entity = e) ∧ s.lapsed e = false)
      Server.start calls := by
  have hinv := always_of_step (fun s call (h : Inv dev s) => serverStep_inv call h)
    (inv_start dev) calls
  refine hinv.mono fun s h e => ?_
  rw [(h.counted e).watched]
  refine and_congr_left fun _ => ?_
  constructor
  · intro hsome
    obtain ⟨screen, hmem⟩ := List.exists_mem_of_ne_nil _ hsome
    exact ⟨screen, mem_sharing_iff.mp hmem⟩
  · rintro ⟨screen, hmem⟩
    exact List.ne_nil_of_mem (mem_sharing_iff.mpr hmem)

/-! ## The screen of the handler -/

/-- The handler's screen is open. -/
def HandlerOpen (dev : Devices) (s : Server) : Prop :=
  ∀ e scrn, s.handler dev e = some scrn → ∃ screen ∈ s.sharing e, screen.scrn = scrn

/-- The screen that the handler was given is not closed before the others of its device. -/
def ClosedLast (dev : Devices) (s : Server) (call : ServerCall) : Prop :=
  Admitted dev s call →
    match call with
    | .queue (.closeScreen screen _) =>
        s.handler dev screen.entity = some screen.scrn → s.sharing screen.entity = [screen]
    | _ => True

section HandlerOpen

variable {dev : Devices} {s s' : Server} {screen : Screen}

theorem SameDevice.handlerOpen {e scrn : Nat} (h : SameDevice dev s s' e) :
    (s'.handler dev e = some scrn → ∃ screen ∈ s'.sharing e, screen.scrn = scrn) ↔
      (s.handler dev e = some scrn → ∃ screen ∈ s.sharing e, screen.scrn = scrn) := by
  rw [h.handler, h.sharing]

/-- The handler has the first screen that was opened, or what it had. -/
theorem handler_init (hc : Counted dev s screen.entity) (hfd : screen.fd = dev.fd screen.entity) :
    (s.sharing screen.entity = [] ∧
      (perform s (.queue (.screenInit screen s.serverGeneration))).handler dev screen.entity =
        some screen.scrn) ∨
      (perform s (.queue (.screenInit screen s.serverGeneration))).handler dev screen.entity =
        s.handler dev screen.entity := by
  rcases screenInit_cases s.queue.v screen s.serverGeneration with
    ⟨hgen, -, hfds⟩ | ⟨-, -, hfds⟩
  · refine Or.inl ⟨(hc.older (Ne.symm hgen)).1, ?_⟩
    rw [Server.handler, ← hfd]
    exact (congrFun hfds screen.fd).trans (Function.update_self ..)
  · right
    exact congrFun hfds _

theorem handlerOpen_init (hc : Counted dev s screen.entity)
    (hfd : screen.fd = dev.fd screen.entity) (h : HandlerOpen dev s) :
    HandlerOpen dev (perform s (.queue (.screenInit screen s.serverGeneration))) := by
  intro e scrn
  by_cases he : e = screen.entity
  · subst he
    rw [sharing_init_self]
    rcases handler_init hc hfd with ⟨-, hnew⟩ | hold
    · intro hsome
      exact ⟨screen, List.mem_cons_self, Option.some.inj (hnew.symm.trans hsome)⟩
    · intro hsome
      obtain ⟨other, hmem, hscrn⟩ := h _ scrn (hold.symm.trans hsome)
      exact ⟨other, List.mem_cons_of_mem _ hmem, hscrn⟩
  · exact (sameDevice_init he hfd).handlerOpen.mpr (h e scrn)

/-- Screens of one number are one screen. -/
theorem Inv.scrn_inj (hinv : Inv dev s) {other : Screen} (hmem : screen ∈ s.screens)
    (hother : other ∈ s.screens) (hscrn : other.scrn = screen.scrn) : other = screen :=
  List.inj_on_of_nodup_map hinv.scrns hother hmem hscrn

theorem handlerOpen_close_iff (hinv : Inv dev s) (hmem : screen ∈ s.screens)
    (h : HandlerOpen dev s) :
    HandlerOpen dev (perform s (.queue (.closeScreen screen s.serverGeneration))) ↔
      (s.handler dev screen.entity = some screen.scrn → s.sharing screen.entity = [screen]) := by
  have hfd := hinv.fds screen hmem
  have hc := hinv.counted screen.entity
  have hin : screen ∈ s.sharing screen.entity := mem_sharing_iff.mpr ⟨hmem, rfl⟩
  have hhandler := handler_close hc hmem hfd
  by_cases hone : (s.sharing screen.entity).length = 1
  · have hlone : s.sharing screen.entity = [screen] := by
      obtain ⟨other, hother⟩ := List.length_eq_one_iff.mp hone
      rw [hother] at hin ⊢
      rw [List.mem_singleton.mp hin]
    refine iff_of_true (fun e scrn => ?_) fun _ => hlone
    by_cases he : e = screen.entity
    · subst he
      rw [hhandler, if_pos hone]
      exact fun hnone => nomatch hnone
    · exact (sameDevice_close hc hmem he hfd).handlerOpen.mpr (h e scrn)
  · rw [if_neg hone] at hhandler
    have hnot : s.sharing screen.entity ≠ [screen] := fun hlone => hone (by rw [hlone]; rfl)
    constructor
    · intro hopen hgiven
      obtain ⟨other, hother, hscrn⟩ := hopen _ _ (hhandler.trans hgiven)
      rw [sharing_close] at hother
      have hkept := mem_sharing_iff.mp (List.mem_of_mem_erase hother)
      have hsame := hinv.scrn_inj hmem hkept.1 hscrn
      -- The screen is gone, and no other has its number.
      have hnodup : (s.sharing screen.entity).Nodup :=
        (List.Nodup.of_map _ hinv.scrns).filter _
      rw [hsame] at hother
      exact absurd hother hnodup.not_mem_erase
    · intro hlast e scrn
      by_cases he : e = screen.entity
      · subst he
        intro hsome
        rw [hhandler] at hsome
        obtain ⟨other, hother, hscrn⟩ := h _ scrn hsome
        refine ⟨other, ?_, hscrn⟩
        rw [sharing_close]
        refine (List.mem_erase_of_ne fun heq => ?_).mpr hother
        rw [heq] at hscrn
        exact hnot (hlast (hsome.trans (congrArg some hscrn.symm)))
      · exact (sameDevice_close hc hmem he hfd).handlerOpen.mpr (h e scrn)

theorem handlerOpen_step (call : ServerCall) (hinv : Inv dev s) (h : HandlerOpen dev s) :
    HandlerOpen dev (serverStep dev s call) ↔ ClosedLast dev s call := by
  unfold serverStep ClosedLast
  by_cases hadm : Admitted dev s call
  · rw [if_pos hadm]
    simp only [hadm, true_imp_iff]
    cases call with
    | regenerate => exact iff_of_true h trivial
    | queue op =>
        cases op with
        | screenInit screen gen =>
            obtain ⟨rfl, hfd, -⟩ := hadm
            exact iff_of_true (handlerOpen_init (hinv.counted _) hfd h) trivial
        | closeScreen screen gen =>
            obtain ⟨rfl, hmem⟩ := hadm
            exact handlerOpen_close_iff hinv hmem h
        | _ =>
            refine iff_of_true (fun e scrn => ?_) trivial
            refine (sameDevice_queue ?_ e).handlerOpen.mpr (h e scrn)
            exact trivial
  · rw [if_neg hadm]
    exact iff_of_true h fun hyes => absurd hyes hadm

end HandlerOpen

/-- **The handler never has a closed screen exactly in the runs that close the screen it was given
after the others of the device.** -/
theorem handler_open_iff (dev : Devices) (calls : List ServerCall) :
    Always (serverStep dev) (HandlerOpen dev) Server.start calls ↔
      Guarded (serverStep dev) (ClosedLast dev) Server.start calls :=
  always_iff_guarded (fun _ call h => serverStep_inv call h)
    (fun _ call hinv h => handlerOpen_step call hinv h) (inv_start dev)
    (fun _ _ hnone => nomatch hnone) calls

/-! ## Screens that are closed in reverse order -/

/-- The server closes the screen it has opened last. -/
def Reverse (s : Server) : ServerCall → Prop
  | .queue (.closeScreen screen _) => s.screens.head? = some screen
  | _ => True

instance (s : Server) (call : ServerCall) : Decidable (Reverse s call) :=
  match call with
  | .queue (.closeScreen screen _) => inferInstanceAs (Decidable (s.screens.head? = some screen))
  | .queue (.screenInit ..) | .queue (.queueAlloc ..) | .queue (.event _) | .queue .handlerReturn
  | .queue (.abortSeq ..) | .queue (.abort ..) | .regenerate => instDecidableTrue

/-- The handler has the oldest open screen. -/
def GivenOldest (dev : Devices) (s : Server) : Prop :=
  ∀ e scrn, s.handler dev e = some scrn →
    ∃ screen, (s.sharing e).getLast? = some screen ∧ screen.scrn = scrn

section Reverse

variable {dev : Devices} {s s' : Server} {screen : Screen}

theorem GivenOldest.handlerOpen (h : GivenOldest dev s) : HandlerOpen dev s := by
  intro e scrn hsome
  obtain ⟨screen, hlast, hscrn⟩ := h e scrn hsome
  exact ⟨screen, List.mem_of_getLast? hlast, hscrn⟩

theorem SameDevice.givenOldest {e scrn : Nat} (h : SameDevice dev s s' e)
    (hs : GivenOldest dev s) (hsome : s'.handler dev e = some scrn) :
    ∃ screen, (s'.sharing e).getLast? = some screen ∧ screen.scrn = scrn := by
  rw [h.handler] at hsome
  rw [h.sharing]
  exact hs e scrn hsome

theorem givenOldest_init (hc : Counted dev s screen.entity)
    (hfd : screen.fd = dev.fd screen.entity) (h : GivenOldest dev s) :
    GivenOldest dev (perform s (.queue (.screenInit screen s.serverGeneration))) := by
  intro e scrn hsome
  by_cases he : e = screen.entity
  · subst he
    rw [sharing_init_self]
    rcases handler_init hc hfd with ⟨hnone, hnew⟩ | hold
    · rw [hnone]
      exact ⟨screen, rfl, Option.some.inj (hnew.symm.trans hsome)⟩
    · obtain ⟨oldest, hlast, hscrn⟩ := h _ scrn (hold.symm.trans hsome)
      refine ⟨oldest, ?_, hscrn⟩
      rw [List.getLast?_cons, hlast, Option.getD_some]
  · exact (sameDevice_init he hfd).givenOldest h hsome

theorem givenOldest_close (hinv : Inv dev s) (hnewest : s.screens.head? = some screen)
    (h : GivenOldest dev s) :
    GivenOldest dev (perform s (.queue (.closeScreen screen s.serverGeneration))) := by
  have hmem : screen ∈ s.screens := List.mem_of_head? hnewest
  have hfd := hinv.fds screen hmem
  have hc := hinv.counted screen.entity
  intro e scrn hsome
  by_cases he : e = screen.entity
  · subst he
    rw [handler_close hc hmem hfd] at hsome
    obtain ⟨rest, hscreens⟩ := List.head?_eq_some_iff.mp hnewest
    have hsharing : s.sharing screen.entity =
        screen :: rest.filter fun other => other.entity = screen.entity := by
      rw [Server.sharing, hscreens]
      simp
    split at hsome
    · exact nomatch hsome
    · rename_i hmore
      obtain ⟨oldest, hlast, hscrn⟩ := h _ scrn hsome
      rw [hsharing, List.length_cons] at hmore
      have hrest : (rest.filter fun other => other.entity = screen.entity) ≠ [] :=
        fun hnil => hmore (by rw [hnil]; rfl)
      refine ⟨oldest, ?_, hscrn⟩
      rw [sharing_close, hsharing, List.erase_cons_head]
      rwa [hsharing, List.getLast?_cons_of_ne_nil hrest] at hlast
  · exact (sameDevice_close hc hmem he hfd).givenOldest h hsome

theorem serverStep_givenOldest (call : ServerCall) (hinv : Inv dev s) (h : GivenOldest dev s)
    (hreverse : Reverse s call) : GivenOldest dev (serverStep dev s call) := by
  unfold serverStep
  split
  · rename_i hadm
    cases call with
    | regenerate => exact h
    | queue op =>
        cases op with
        | screenInit screen gen =>
            obtain ⟨rfl, hfd, -⟩ := hadm
            exact givenOldest_init (hinv.counted _) hfd h
        | closeScreen screen gen =>
            obtain ⟨rfl, -⟩ := hadm
            exact givenOldest_close hinv hreverse h
        | _ =>
            intro e scrn hsome
            refine (sameDevice_queue ?_ e).givenOldest h hsome
            exact trivial
  · exact h

end Reverse

/-- **Screens that are closed in reverse order** leave the handler with an open one. -/
theorem handler_open_of_reverse (dev : Devices) (calls : List ServerCall)
    (hreverse : Guarded (serverStep dev) Reverse Server.start calls) :
    Always (serverStep dev) (HandlerOpen dev) Server.start calls := by
  have holdest : Always (serverStep dev) (fun s => Inv dev s ∧ GivenOldest dev s)
      Server.start calls :=
    hreverse.always (fun s call h hcall =>
      ⟨serverStep_inv call h.1, serverStep_givenOldest call h.1 h.2 hcall⟩)
      ⟨inv_start dev, fun _ _ hnone => nomatch hnone⟩
  exact holdest.mono fun s h => h.2.handlerOpen

/-- Two screens of one device, closed the last one first, and the next generation's first. -/
theorem handler_open_of_reverse_played :
    Always (serverStep ⟨id, fun _ _ h => h⟩) (HandlerOpen ⟨id, fun _ _ h => h⟩) Server.start
      [.queue (.screenInit ⟨0, 7, 7⟩ 1), .queue (.screenInit ⟨1, 7, 7⟩ 1),
        .queue (.queueAlloc ⟨0, 1⟩ true), .queue (.closeScreen ⟨1, 7, 7⟩ 1),
        .queue (.closeScreen ⟨0, 7, 7⟩ 1), .regenerate, .queue (.screenInit ⟨0, 7, 7⟩ 2)] :=
  handler_open_of_reverse _ _ (by decide)

end LoongsonVideo.Driver.WakeupFd
