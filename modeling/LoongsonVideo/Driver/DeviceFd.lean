import LoongsonVideo.Verified.Ledger
import LoongsonVideo.Verified.Machine

/-!
# The descriptor of the device

`ms_get_drm_master_fd` and `FreeRec` of `src/driver.c` with the reference count of
`src/loongson_entity.c` and the openings of `src/loongson_helpers.c`.  The heads of one
entity share a descriptor, which the entity counts and `FreeRec` closes with the last
reference.  The ledger has what the driver opens or duplicates and what it closes.

* `closed_by_last`: in which runs each descriptor is closed once, with its last head.
-/

namespace LoongsonVideo.Driver.DeviceFd

open LoongsonVideo.Verified LoongsonVideo.Verified.Machine

/-! ## Heads and descriptors -/

/-- An open device: the one the server keeps, or one of those the driver has opened or
duplicated, by their number in time.  The kernel may give the number of a closed descriptor
again, so the descriptor is not its number. -/
inductive Desc where
  | server
  | made (serial : Nat)
  deriving DecidableEq, Repr

/-- A descriptor and its number in the process. -/
structure Fd where
  number : Nat
  desc : Desc
  deriving DecidableEq, Repr

/-- What a head's `modesettingRec` has of it.  `fd` is `none` when negative. -/
structure Head where
  id : Nat
  fd : Option Fd
  fdPassed : Bool
  deriving DecidableEq, Repr

/-- `location` of the entity.  With `XF86_PDEV_SERVER_FD` the server keeps a descriptor, `none`
when negative. -/
inductive Location where
  | pci
  | platform
  | platformServerFd (fd : Option Nat)
  | other
  deriving DecidableEq, Repr

/-- The entity's location and whether there is an `xf86DRMMasterFd`. -/
structure Config where
  location : Location
  masterFd : Bool
  deriving DecidableEq, Repr

/-- The entity's record, the heads that live and the ledger.  `entFd` is `pLsEnt->fd`, zero
for none, and `entDesc` the descriptor it is the number of. -/
structure State where
  entFd : Nat
  entDesc : Desc
  fdRef : Int
  heads : List Head
  made : Nat
  acts : List (Ledger.Act Desc)
  deriving DecidableEq, Repr

def start : State := ⟨0, .server, 0, [], 0, []⟩

/-! ## The entity -/

def lsEntityIncreaseFdReference (s : State) : State := { s with fdRef := s.fdRef + 1 }

/-- `LS_EntityDecreaseFdReference`, with the count it returns. -/
def lsEntityDecreaseFdReference (s : State) : State × Int :=
  let s := { s with fdRef := s.fdRef - 1 }
  (if s.fdRef = 0 then { s with entFd := 0 } else s, s.fdRef)

def lsEntityInitFd (s : State) (fd : Fd) : State :=
  { s with entFd := fd.number, entDesc := fd.desc, fdRef := 1 }

/-! ## Openings -/

/-- `dup`, `open` or `drmOpen`; `none` for a failure. -/
def openFd (s : State) (answer : Option Nat) : State × Option Fd :=
  match answer with
  | none => (s, none)
  | some number =>
      ({ s with made := s.made + 1, acts := .acquire (.made s.made) :: s.acts },
        some ⟨number, .made s.made⟩)

def lsGetPassedFd (c : Config) (s : State) (dup : Option Nat) : State × Option Fd :=
  if c.masterFd then openFd s dup else (s, none)

/-- `LS_OpenHW`.  `opened` is the answer to the last `open`. -/
def lsOpenHw (c : Config) (s : State) (dup opened : Option Nat) : State × Option Fd :=
  match lsGetPassedFd c s dup with
  | (s, some fd) => (s, some fd)
  | (s, none) => openFd s opened

/-- The answers of one `ms_get_drm_master_fd`: to the `dup` it tries first, to that of
`LS_OpenHW`, to `open` or `drmOpen`, and whether the device has a bus id. -/
structure GetAnswer where
  dup : Option Nat
  dupAgain : Option Nat
  opened : Option Nat
  busId : Bool
  deriving DecidableEq, Repr

/-- The descriptor when none is passed. -/
def deviceFd (c : Config) (s : State) (a : GetAnswer) : State × Option Fd :=
  match c.location with
  | .platformServerFd fd => (s, fd.map (⟨·, .server⟩))
  | .platform => lsOpenHw c s a.dupAgain a.opened
  | .pci => if a.busId then openFd s a.opened else (s, none)
  | .other => lsOpenHw c s a.dupAgain a.opened

def addHead (s : State) (id : Nat) (fd : Option Fd) (fdPassed : Bool) : State :=
  { s with heads := ⟨id, fd, fdPassed⟩ :: s.heads }

/-- `ms_get_drm_master_fd` from where no descriptor has been passed. -/
def getDeviceFd (c : Config) (s : State) (id : Nat) (a : GetAnswer) : State × Bool :=
  match deviceFd c s a with
  | (s, none) => (addHead s id none false, false)
  | (s, some fd) => (lsEntityInitFd (addHead s id (some fd) false) fd, true)

/-- `ms_get_drm_master_fd`, for a head that is made. -/
def msGetDrmMasterFd (c : Config) (s : State) (id : Nat) (a : GetAnswer) : State × Bool :=
  if s.entFd ≠ 0 then
    (lsEntityIncreaseFdReference (addHead s id (some ⟨s.entFd, s.entDesc⟩) false), true)
  else
    match lsGetPassedFd c s a.dup with
    | (s, some fd) => (addHead s id (some fd) true, true)
    | (s, none) => getDeviceFd c s id a

/-- The head with this id, taken from the list. -/
def takeHead (id : Nat) : List Head → Option (Head × List Head)
  | [] => none
  | head :: heads =>
      if head.id = id then some (head, heads)
      else (takeHead id heads).map fun (found, rest) => (found, head :: rest)

/-- `close` and `drmClose`. -/
def closeFd (s : State) (fd : Fd) : State := { s with acts := .release fd.desc :: s.acts }

/-- `FreeRec`. -/
def freeRec (c : Config) (s : State) (id : Nat) : State :=
  match takeHead id s.heads with
  | none => s
  | some (head, rest) =>
      let s := { s with heads := rest }
      match head.fd with
      | none => s
      | some fd =>
          if fd.number = 0 then s
          else
            match lsEntityDecreaseFdReference s with
            | (s, ref) =>
                if ref = 0 then
                  match c.location with
                  | .pci => closeFd s fd
                  | .platformServerFd _ => s
                  | .platform => closeFd s fd
                  | .other => closeFd s fd
                else s

/-! ## Runs -/

inductive Act where
  | preInit (id : Nat) (a : GetAnswer)
  | freeScreen (id : Nat)
  deriving DecidableEq, Repr

/-- A head that lives is not initialised again. -/
def step (c : Config) (s : State) : Act → State
  | .preInit id a =>
      if s.heads.any fun head => head.id == id then s else (msGetDrmMasterFd c s id a).1
  | .freeScreen id => freeRec c s id

/-- The head has this descriptor. -/
def Head.uses (d : Desc) (head : Head) : Bool := head.fd.any fun fd => fd.desc == d

/-- **Each descriptor is closed once, with its last head**: nothing is closed that is not open
or that the server keeps, and open is what some head has. -/
structure ClosedByLast (acts : List (Ledger.Act Desc)) (heads : List Head) : Prop where
  lawful : Ledger.Lawful acts
  open_iff : ∀ n, .made n ∈ Ledger.held acts ↔ ∃ head ∈ heads, head.uses (.made n) = true

/-- The entity does not count the head: it has a duplicate of the passed descriptor, or
number zero of the driver's own. -/
def Head.uncounted (head : Head) : Bool :=
  head.fdPassed || head.fd.any fun fd => fd.number == 0 && fd.desc != .server

/-- **The condition.**  No head that the entity does not count is freed. -/
def FreesCounted (s : State) : Act → Prop
  | .preInit _ _ => True
  | .freeScreen id => (takeHead id s.heads).all (fun found => !found.1.uncounted) = true

instance decidableFreesCounted : (s : State) → (a : Act) → Decidable (FreesCounted s a)
  | _, .preInit _ _ => inferInstanceAs (Decidable True)
  | s, .freeScreen id => inferInstanceAs
      (Decidable ((takeHead id s.heads).all (fun found => !found.1.uncounted) = true))

/-! ## What the two calls come to -/

section Cases

variable {c : Config} {s : State} {id : Nat} {head : Head} {rest : List Head}

/-- The server keeps the descriptor of the device. -/
def serverKeeps (c : Config) : Bool :=
  match c.location with
  | .platformServerFd _ => true
  | _ => false

/-- A descriptor more. -/
def opened (s : State) : State :=
  { s with made := s.made + 1, acts := .acquire (.made s.made) :: s.acts }

/-- A head with a descriptor that the entity counts. -/
def countedHead (s : State) (id : Nat) (fd : Fd) : State :=
  lsEntityInitFd (addHead s id (some fd) false) fd

theorem openFd_cases (s : State) (answer : Option Nat) :
    openFd s answer = (s, none) ∨
      ∃ number, openFd s answer = (opened s, some ⟨number, .made s.made⟩) := by
  cases answer with
  | none => exact Or.inl rfl
  | some number => exact Or.inr ⟨number, rfl⟩

theorem lsOpenHw_cases (c : Config) (s : State) (dup answer : Option Nat) :
    lsOpenHw c s dup answer = (s, none) ∨
      ∃ number, lsOpenHw c s dup answer = (opened s, some ⟨number, .made s.made⟩) := by
  unfold lsOpenHw lsGetPassedFd
  cases c.masterFd with
  | false => exact openFd_cases s answer
  | true =>
      rcases openFd_cases s dup with hnone | ⟨number, hsome⟩
      · simp only [if_true, hnone]
        exact openFd_cases s answer
      · simp only [if_true, hsome]
        exact Or.inr ⟨number, rfl⟩

theorem deviceFd_cases (c : Config) (s : State) (a : GetAnswer) :
    deviceFd c s a = (s, none) ∨
      (serverKeeps c = true ∧ ∃ number, deviceFd c s a = (s, some ⟨number, .server⟩)) ∨
      (serverKeeps c = false ∧
        ∃ number, deviceFd c s a = (opened s, some ⟨number, .made s.made⟩)) := by
  unfold deviceFd serverKeeps
  cases c.location with
  | platformServerFd fd =>
      cases fd with
      | none => exact Or.inl rfl
      | some number => exact Or.inr (Or.inl ⟨rfl, number, rfl⟩)
  | platform => exact (lsOpenHw_cases c s a.dupAgain a.opened).imp_right fun h => Or.inr ⟨rfl, h⟩
  | other => exact (lsOpenHw_cases c s a.dupAgain a.opened).imp_right fun h => Or.inr ⟨rfl, h⟩
  | pci =>
      cases a.busId with
      | false => exact Or.inl rfl
      | true => exact (openFd_cases s a.opened).imp_right fun h => Or.inr ⟨rfl, h⟩

/-- What `PreInit` can do. -/
inductive PreInit (c : Config) (s : State) (id : Nat) : State → Prop where
  | lives : PreInit c s id s
  | reused (h : s.entFd ≠ 0) : PreInit c s id
      (lsEntityIncreaseFdReference (addHead s id (some ⟨s.entFd, s.entDesc⟩) false))
  | passed (h : s.entFd = 0) (number : Nat) :
      PreInit c s id (addHead (opened s) id (some ⟨number, .made s.made⟩) true)
  | failed (h : s.entFd = 0) : PreInit c s id (addHead s id none false)
  | server (h : s.entFd = 0) (hkeeps : serverKeeps c = true) (number : Nat) :
      PreInit c s id (countedHead s id ⟨number, .server⟩)
  | device (h : s.entFd = 0) (hkeeps : serverKeeps c = false) (number : Nat) :
      PreInit c s id (countedHead (opened s) id ⟨number, .made s.made⟩)

theorem preInit_cases (c : Config) (s : State) (id : Nat) (a : GetAnswer) :
    PreInit c s id (step c s (.preInit id a)) := by
  unfold step
  simp only
  split
  · exact .lives
  · unfold msGetDrmMasterFd
    split
    · next hent => exact .reused hent
    · next hent =>
        have hzero : s.entFd = 0 := not_not.mp hent
        have hdevice : PreInit c s id (getDeviceFd c s id a).1 := by
          unfold getDeviceFd
          rcases deviceFd_cases c s a with hnone | ⟨hkeeps, number, hserver⟩ | ⟨hkeeps, number, hmade⟩
          · rw [hnone]
            exact .failed hzero
          · rw [hserver]
            exact .server hzero hkeeps number
          · rw [hmade]
            exact .device hzero hkeeps number
        unfold lsGetPassedFd
        cases c.masterFd with
        | false => exact hdevice
        | true =>
            rcases openFd_cases s a.dup with hnone | ⟨number, hsome⟩
            · simp only [if_true, hnone]
              exact hdevice
            · simp only [if_true, hsome]
              exact .passed hzero number

theorem takeHead_perm {heads : List Head} (h : takeHead id heads = some (head, rest)) :
    heads.Perm (head :: rest) := by
  induction heads generalizing rest with
  | nil => cases h
  | cons first heads ih =>
      rw [takeHead] at h
      split at h
      · cases h
        exact List.Perm.refl _
      · obtain ⟨⟨found, others⟩, hfound, hpair⟩ := Option.map_eq_some_iff.mp h
        cases hpair
        exact ((ih hfound).cons first).trans (List.Perm.swap head first others)

/-- What `FreeRec` does with a head that it has taken out. -/
inductive Freed (c : Config) (s : State) (head : Head) (rest : List Head) : State → Prop where
  | bare (h : ∀ fd, head.fd = some fd → fd.number = 0) : Freed c s head rest { s with heads := rest }
  | shared (fd : Fd) (hfd : head.fd = some fd) (hnumber : fd.number ≠ 0) (href : s.fdRef ≠ 1) :
      Freed c s head rest { s with heads := rest, fdRef := s.fdRef - 1 }
  | kept (fd : Fd) (hfd : head.fd = some fd) (hnumber : fd.number ≠ 0) (href : s.fdRef = 1)
      (hkeeps : serverKeeps c = true) :
      Freed c s head rest { s with heads := rest, fdRef := 0, entFd := 0 }
  | closed (fd : Fd) (hfd : head.fd = some fd) (hnumber : fd.number ≠ 0) (href : s.fdRef = 1)
      (hkeeps : serverKeeps c = false) :
      Freed c s head rest
        { s with heads := rest, fdRef := 0, entFd := 0, acts := .release fd.desc :: s.acts }

theorem freeRec_cases (c : Config) (s : State) (id : Nat) :
    (takeHead id s.heads = none ∧ freeRec c s id = s) ∨
      ∃ head rest, takeHead id s.heads = some (head, rest) ∧
        Freed c s head rest (freeRec c s id) := by
  unfold freeRec
  cases htake : takeHead id s.heads with
  | none => exact Or.inl ⟨rfl, rfl⟩
  | some found =>
      obtain ⟨head, rest⟩ := found
      refine Or.inr ⟨head, rest, rfl, ?_⟩
      simp only
      cases hfd : head.fd with
      | none => exact .bare fun fd h => by rw [hfd] at h; cases h
      | some fd =>
          simp only
          by_cases hnumber : fd.number = 0
          · rw [if_pos hnumber]
            exact .bare fun fd' h => by
              rw [hfd] at h
              rw [← Option.some.inj h, hnumber]
          · rw [if_neg hnumber]
            unfold lsEntityDecreaseFdReference
            by_cases href : s.fdRef = 1
            · have hzero : s.fdRef - 1 = 0 := by omega
              simp only [hzero, if_true]
              cases hlocation : c.location with
              | platformServerFd kept =>
                  exact .kept fd hfd hnumber href (by rw [serverKeeps, hlocation])
              | pci => exact .closed fd hfd hnumber href (by rw [serverKeeps, hlocation])
              | platform => exact .closed fd hfd hnumber href (by rw [serverKeeps, hlocation])
              | other => exact .closed fd hfd hnumber href (by rw [serverKeeps, hlocation])
            · have hne : s.fdRef - 1 ≠ 0 := by omega
              simp only [hne, if_false]
              exact .shared fd hfd hnumber href

end Cases

/-! ## What the heads have -/

section Invariants

variable {c : Config} {s t : State} {id : Nat} {head : Head} {rest heads : List Head}

theorem uses_iff {d : Desc} : head.uses d = true ↔ ∃ fd, head.fd = some fd ∧ fd.desc = d := by
  unfold Head.uses
  cases head.fd with
  | none => exact iff_of_false (fun h => by cases h) fun ⟨fd, h, _⟩ => by cases h
  | some fd =>
      show (fd.desc == d) = true ↔ _
      rw [beq_iff_eq]
      exact ⟨fun h => ⟨fd, rfl, h⟩, fun ⟨fd', h, hd⟩ => Option.some.inj h ▸ hd⟩

theorem desc_of_uses {fd : Fd} {d : Desc} (hfd : head.fd = some fd) (h : head.uses d = true) :
    fd.desc = d := by
  obtain ⟨fd', hfd', hdesc⟩ := uses_iff.mp h
  rw [hfd] at hfd'
  exact Option.some.inj hfd' ▸ hdesc

/-- A head that the entity counts. -/
def Head.counted (head : Head) : Bool :=
  !head.fdPassed && head.fd.any fun fd => fd.number != 0

theorem counted_iff : head.counted = true ↔
    head.fdPassed = false ∧ ∃ fd, head.fd = some fd ∧ fd.number ≠ 0 := by
  unfold Head.counted
  rw [Bool.and_eq_true, Bool.not_eq_true']
  refine and_congr_right fun _ => ?_
  cases head.fd with
  | none => exact iff_of_false (fun h => by cases h) fun ⟨fd, h, _⟩ => by cases h
  | some fd =>
      show (fd.number != 0) = true ↔ _
      rw [bne_iff_ne]
      exact ⟨fun h => ⟨fd, rfl, h⟩, fun ⟨fd', h, hd⟩ => Option.some.inj h ▸ hd⟩

/-- The number of heads that the entity should count. -/
def counted (s : State) : Nat := s.heads.countP Head.counted

/-- Two heads have the same descriptor only if the entity counts both. -/
def Apart (head other : Head) : Prop :=
  ∀ n, head.uses (.made n) = true → other.uses (.made n) = true →
    head.counted = true ∧ other.counted = true

/-- What holds of the heads in every run. -/
structure Heads (c : Config) (made : Nat) (heads : List Head) : Prop where
  serial : ∀ head ∈ heads, ∀ n, head.uses (.made n) = true → n < made
  apart : heads.Pairwise Apart
  passed : ∀ head ∈ heads, head.fdPassed = true → ∃ fd, head.fd = some fd
  own : ∀ head ∈ heads, ∀ fd, head.fd = some fd →
    (fd.desc = .server ↔ serverKeeps c = true ∧ head.fdPassed = false)

/-- What holds of the entity's descriptor in every run. -/
structure Entity (c : Config) (s : State) : Prop where
  serial : ∀ n, s.entDesc = .made n → n < s.made
  users : ∀ head ∈ s.heads, ∀ n, s.entDesc = .made n → head.uses (.made n) = true →
    head.counted = true
  own : s.entDesc = .server ↔ serverKeeps c = true
  pos : 1 ≤ s.fdRef
  le : s.fdRef ≤ counted s

structure Coherent (c : Config) (s : State) : Prop where
  heads : Heads c s.made s.heads
  entity : s.entFd ≠ 0 → Entity c s

theorem apart_symm {head other : Head} (h : Apart head other) : Apart other head := fun n ho hh =>
  (h n hh ho).symm

theorem Heads.perm {heads' : List Head} (hperm : heads.Perm heads') {made : Nat}
    (h : Heads c made heads) : Heads c made heads' where
  serial := fun head hin => h.serial head (hperm.mem_iff.mpr hin)
  apart := (hperm.pairwise_iff fun hab => apart_symm hab).mp h.apart
  passed := fun head hin => h.passed head (hperm.mem_iff.mpr hin)
  own := fun head hin => h.own head (hperm.mem_iff.mpr hin)

theorem Heads.tail {made : Nat} (h : Heads c made (head :: rest)) : Heads c made rest where
  serial := fun other hin => h.serial other (List.mem_cons_of_mem head hin)
  apart := (List.pairwise_cons.mp h.apart).2
  passed := fun other hin => h.passed other (List.mem_cons_of_mem head hin)
  own := fun other hin => h.own other (List.mem_cons_of_mem head hin)

/-- A head more. -/
theorem Heads.cons {made made' : Nat} (h : Heads c made heads) (hmade : made ≤ made')
    (hserial : ∀ n, head.uses (.made n) = true → n < made')
    (hapart : ∀ other ∈ heads, Apart head other)
    (hpassed : head.fdPassed = true → ∃ fd, head.fd = some fd)
    (hown : ∀ fd, head.fd = some fd →
      (fd.desc = .server ↔ serverKeeps c = true ∧ head.fdPassed = false)) :
    Heads c made' (head :: heads) where
  serial := fun other hin n huses => by
    cases List.mem_cons.mp hin with
    | inl heq => exact hserial n (heq ▸ huses)
    | inr hold => exact Nat.lt_of_lt_of_le (h.serial other hold n huses) hmade
  apart := List.pairwise_cons.mpr ⟨hapart, h.apart⟩
  passed := List.forall_mem_cons.mpr ⟨hpassed, h.passed⟩
  own := List.forall_mem_cons.mpr ⟨hown, h.own⟩

/-- A new descriptor is nobody's. -/
theorem Heads.notUsed {made : Nat} (h : Heads c made heads) {other : Head} (hin : other ∈ heads) :
    other.uses (.made made) = false := by
  cases huses : other.uses (.made made) with
  | false => rfl
  | true => exact absurd (h.serial other hin made huses) (Nat.lt_irrefl made)

theorem Heads.fresh {made number : Nat} (h : Heads c made heads) (fdPassed : Bool)
    (hfree : serverKeeps c = false ∨ fdPassed = true) :
    Heads c (made + 1) (⟨id, some ⟨number, .made made⟩, fdPassed⟩ :: heads) := by
  refine h.cons (Nat.le_succ made) (fun n huses => ?_) (fun other hin n huses hother => ?_)
    (fun _ => ⟨_, rfl⟩) fun fd hfd => ?_
  · have hdesc : Desc.made made = .made n := desc_of_uses rfl huses
    cases hdesc
    exact Nat.lt_succ_self made
  · have hdesc : Desc.made made = .made n := desc_of_uses rfl huses
    cases hdesc
    rw [h.notUsed hin] at hother
    cases hother
  · cases hfd
    refine iff_of_false (fun h => by cases h) fun hboth => ?_
    rcases hfree with hno | hpassed
    · rw [hno] at hboth
      cases hboth.1
    · have hnot : fdPassed = false := hboth.2
      rw [hpassed] at hnot
      cases hnot

/-! ### One call -/

theorem counted_cons (s : State) (hheads : s.heads = head :: heads) :
    counted s = heads.countP Head.counted + if head.counted then 1 else 0 := by
  rw [counted, hheads, List.countP_cons]

theorem counted_perm (hperm : s.heads.Perm (head :: rest)) :
    counted s = rest.countP Head.counted + if head.counted then 1 else 0 := by
  rw [counted, hperm.countP_eq, List.countP_cons]

/-- A head that shares the entity's descriptor. -/
theorem counted_reused (hent : s.entFd ≠ 0) (id : Nat) :
    counted (lsEntityIncreaseFdReference (addHead s id (some ⟨s.entFd, s.entDesc⟩) false)) =
      counted s + 1 := by
  rw [counted_cons _ rfl, if_pos (counted_iff.mpr ⟨rfl, _, rfl, hent⟩)]
  rfl

theorem counted_countedHead (s : State) (id : Nat) {fd : Fd} (hnumber : fd.number ≠ 0) :
    counted (countedHead s id fd) = counted s + 1 := by
  rw [counted_cons _ rfl, if_pos (counted_iff.mpr ⟨rfl, _, rfl, hnumber⟩)]
  rfl

theorem coherent_preInit (h : Coherent c s) (hpre : PreInit c s id t) : Coherent c t := by
  cases hpre with
  | lives => exact h
  | reused hent =>
      have hentity := h.entity hent
      have hcounted : (⟨id, some ⟨s.entFd, s.entDesc⟩, false⟩ : Head).counted = true :=
        counted_iff.mpr ⟨rfl, _, rfl, hent⟩
      have huses : ∀ n, (⟨id, some ⟨s.entFd, s.entDesc⟩, false⟩ : Head).uses (.made n) = true →
          s.entDesc = .made n :=
        fun n huses => desc_of_uses rfl huses
      refine ⟨h.heads.cons (Nat.le_refl _) (fun n hn => hentity.serial n (huses n hn))
        (fun other hin n hn hother => ⟨hcounted, hentity.users other hin n (huses n hn) hother⟩)
        (fun hfalse => by cases hfalse) fun fd hfd => ?_, fun _ => ?_⟩
      · cases hfd
        exact hentity.own.trans (and_iff_left rfl).symm
      · have hpos := hentity.pos
        have hle := hentity.le
        refine ⟨hentity.serial, List.forall_mem_cons.mpr ⟨fun _ _ _ => hcounted, hentity.users⟩,
          hentity.own, ?_, ?_⟩
        · show 1 ≤ s.fdRef + 1
          omega
        · rw [counted_reused hent]
          show s.fdRef + 1 ≤ ((counted s + 1 : Nat) : Int)
          omega
  | passed hent number =>
      exact ⟨h.heads.fresh true (Or.inr rfl), fun hne => absurd hent hne⟩
  | failed hent =>
      refine ⟨h.heads.cons (Nat.le_refl _) (fun n huses => ?_) (fun other _ n huses _ => ?_)
        (fun hfalse => by cases hfalse) (fun fd hfd => by cases hfd), fun hne => absurd hent hne⟩
      · cases huses
      · cases huses
  | server hent hkeeps number =>
      refine ⟨h.heads.cons (Nat.le_refl _) (fun n huses => ?_) (fun other _ n huses _ => ?_)
        (fun hfalse => by cases hfalse) fun fd hfd => ?_, fun hne => ?_⟩
      · cases huses
      · cases huses
      · cases hfd
        exact iff_of_true rfl ⟨hkeeps, rfl⟩
      · refine ⟨(fun n hdesc => by cases hdesc), (fun head _ n hdesc _ => by cases hdesc),
          iff_of_true rfl hkeeps, Int.le_refl 1, ?_⟩
        rw [counted_countedHead s id hne]
        show (1 : Int) ≤ ((counted s + 1 : Nat) : Int)
        omega
  | device hent hkeeps number =>
      refine ⟨h.heads.fresh false (Or.inl hkeeps), fun hne => ?_⟩
      have hcounted : (⟨id, some ⟨number, .made s.made⟩, false⟩ : Head).counted = true :=
        counted_iff.mpr ⟨rfl, _, rfl, hne⟩
      refine ⟨fun n hdesc => ?_, List.forall_mem_cons.mpr ⟨fun _ _ _ => hcounted, fun head hin n hdesc huses => ?_⟩,
        iff_of_false (fun hdesc => by cases hdesc) (by rw [hkeeps]; decide), Int.le_refl 1, ?_⟩
      · cases hdesc
        exact Nat.lt_succ_self _
      · cases hdesc
        rw [h.heads.notUsed hin] at huses
        cases huses
      · rw [counted_countedHead (opened s) id hne]
        show (1 : Int) ≤ ((counted s + 1 : Nat) : Int)
        omega

/-- A head that does not count is taken out. -/
theorem not_counted_of_bare (h : ∀ fd, head.fd = some fd → fd.number = 0) :
    head.counted = false := by
  cases hcounted : head.counted with
  | false => rfl
  | true =>
      obtain ⟨-, fd, hfd, hnumber⟩ := counted_iff.mp hcounted
      exact absurd (h fd hfd) hnumber

theorem coherent_freed (h : Coherent c s) (hperm : s.heads.Perm (head :: rest))
    (hfreed : Freed c s head rest t) : Coherent c t := by
  have hheads : Heads c s.made rest := (h.heads.perm hperm).tail
  have hin : ∀ other ∈ rest, other ∈ s.heads := fun other hother =>
    hperm.mem_iff.mpr (List.mem_cons_of_mem head hother)
  have hcount := counted_perm hperm
  cases hfreed with
  | bare hbare =>
      refine ⟨hheads, fun hent => ?_⟩
      have hentity := h.entity hent
      rw [not_counted_of_bare hbare] at hcount
      refine ⟨hentity.serial, fun other hother => hentity.users other (hin other hother),
        hentity.own, hentity.pos, ?_⟩
      have hle := hentity.le
      rw [hcount] at hle
      exact hle
  | shared fd hfd hnumber href =>
      refine ⟨hheads, fun hent => ?_⟩
      have hentity := h.entity hent
      have hpos := hentity.pos
      have hle := hentity.le
      refine ⟨hentity.serial, fun other hother => hentity.users other (hin other hother),
        hentity.own, ?_, ?_⟩
      · show 1 ≤ s.fdRef - 1
        omega
      · show s.fdRef - 1 ≤ (rest.countP Head.counted : Int)
        split at hcount <;> omega
  | kept fd hfd hnumber href hkeeps => exact ⟨hheads, fun hne => absurd rfl hne⟩
  | closed fd hfd hnumber href hkeeps => exact ⟨hheads, fun hne => absurd rfl hne⟩

theorem coherent_step (h : Coherent c s) (a : Act) : Coherent c (step c s a) := by
  cases a with
  | preInit id a => exact coherent_preInit h (preInit_cases c s id a)
  | freeScreen id =>
      rcases freeRec_cases c s id with ⟨-, hsame⟩ | ⟨head, rest, htake, hfreed⟩
      · show Coherent c (freeRec c s id)
        rw [hsame]
        exact h
      · exact coherent_freed h (takeHead_perm htake) hfreed

theorem coherent_start (c : Config) : Coherent c start :=
  ⟨⟨(fun _ hin => by cases hin), List.Pairwise.nil, (fun _ hin => by cases hin),
    (fun _ hin => by cases hin)⟩, fun hne => absurd rfl hne⟩

end Invariants

/-! ## Runs that free counted heads only -/

section Counted

variable {c : Config} {s t : State} {id : Nat} {head : Head} {rest heads : List Head}
  {acts : List (Ledger.Act Desc)}

def Closed (s : State) : Prop := ClosedByLast s.acts s.heads

/-- A head without a descriptor of its own. -/
theorem ClosedByLast.cons (h : ClosedByLast acts heads)
    (hused : ∀ n, head.uses (.made n) = true → ∃ other ∈ heads, other.uses (.made n) = true) :
    ClosedByLast acts (head :: heads) where
  lawful := h.lawful
  open_iff := fun n => by
    rw [h.open_iff n, List.exists_mem_cons_iff]
    exact ⟨Or.inr, fun hor => hor.elim (hused n) id⟩

/-- A new descriptor. -/
theorem ClosedByLast.opened (h : ClosedByLast acts heads) {made number : Nat}
    (hheads : Heads c made heads) (fdPassed : Bool) :
    ClosedByLast (.acquire (.made made) :: acts)
      (⟨id, some ⟨number, .made made⟩, fdPassed⟩ :: heads) where
  lawful := by
    refine ⟨fun hheld => ?_, h.lawful⟩
    obtain ⟨other, hin, huses⟩ := (h.open_iff made).mp hheld
    rw [hheads.notUsed hin] at huses
    cases huses
  open_iff := fun n => by
    rw [Ledger.held_acquire, List.mem_cons, h.open_iff n, List.exists_mem_cons_iff, uses_iff]
    refine or_congr_left ⟨fun heq => ⟨_, rfl, heq.symm⟩, ?_⟩
    rintro ⟨fd, hfd, hdesc⟩
    cases hfd
    exact hdesc.symm

/-- Nothing is closed with a head exactly if another one has its descriptor. -/
theorem ClosedByLast.rest_iff (h : ClosedByLast acts heads) (hperm : heads.Perm (head :: rest)) :
    ClosedByLast acts rest ↔
      ∀ n, head.uses (.made n) = true → ∃ other ∈ rest, other.uses (.made n) = true := by
  have hopen : ∀ n, .made n ∈ Ledger.held acts ↔
      head.uses (.made n) = true ∨ ∃ other ∈ rest, other.uses (.made n) = true := by
    intro n
    have hmem : (∃ other ∈ heads, other.uses (.made n) = true) ↔
        ∃ other ∈ head :: rest, other.uses (.made n) = true :=
      exists_congr fun other => and_congr_left fun _ => hperm.mem_iff
    exact ((h.open_iff n).trans hmem).trans (List.exists_mem_cons_iff _ _ _)
  constructor
  · intro hrest n huses
    exact (hrest.open_iff n).mp ((hopen n).mpr (Or.inl huses))
  · intro hused
    exact ⟨h.lawful, fun n => (hopen n).trans ⟨fun hor => hor.elim (hused n) id, Or.inr⟩⟩

/-- The last head's descriptor is closed. -/
theorem ClosedByLast.released (h : ClosedByLast acts heads) (hperm : heads.Perm (head :: rest))
    {fd : Fd} {n : Nat} (hfd : head.fd = some fd) (hdesc : fd.desc = .made n)
    (hlast : ∀ other ∈ rest, other.uses (.made n) = false) :
    ClosedByLast (.release fd.desc :: acts) rest where
  lawful := by
    refine ⟨?_, h.lawful⟩
    rw [hdesc]
    exact (h.open_iff n).mpr
      ⟨head, hperm.mem_iff.mpr List.mem_cons_self, uses_iff.mpr ⟨fd, hfd, hdesc⟩⟩
  open_iff := fun m => by
    rw [hdesc, h.lawful.mem_held_release, h.open_iff m]
    constructor
    · rintro ⟨hne, other, hin, huses⟩
      refine ⟨other, ?_, huses⟩
      cases List.mem_cons.mp (hperm.mem_iff.mp hin) with
      | inr hrest => exact hrest
      | inl heq =>
          rw [heq] at huses
          exact absurd ((desc_of_uses hfd huses).symm.trans hdesc) hne
    · rintro ⟨other, hin, huses⟩
      refine ⟨fun heq => ?_, other, hperm.mem_iff.mpr (List.mem_cons_of_mem head hin), huses⟩
      rw [heq, hlast other hin] at huses
      cases huses

/-- The count is that of the heads, and these have the entity's descriptor. -/
structure Clean (s : State) : Prop where
  same : ∀ head ∈ s.heads, head.counted = true →
    s.entFd ≠ 0 ∧ head.uses s.entDesc = true
  refs : s.entFd ≠ 0 → s.fdRef = counted s

theorem Clean.none_counted (h : Clean s) (hent : s.entFd = 0) : counted s = 0 :=
  List.countP_eq_zero.mpr fun head hin hcounted => (h.same head hin hcounted).1 hent

/-- What the driver itself has made is not the server's. -/
theorem Heads.desc_made {made : Nat} (h : Heads c made heads) (hin : head ∈ heads) {fd : Fd}
    (hfd : head.fd = some fd) (hnot : ¬ (serverKeeps c = true ∧ head.fdPassed = false)) :
    ∃ n, fd.desc = .made n := by
  cases hdesc : fd.desc with
  | made n => exact ⟨n, rfl⟩
  | server => exact absurd ((h.own head hin fd hfd).mp hdesc) hnot

/-- The first head that the entity counts. -/
theorem clean_countedHead (hnone : counted s = 0) (id : Nat) (fd : Fd) :
    Clean (countedHead s id fd) where
  same := List.forall_mem_cons.mpr ⟨fun hcounted => by
    obtain ⟨-, fd', hfd, hnumber⟩ := counted_iff.mp hcounted
    cases hfd
    exact ⟨hnumber, uses_iff.mpr ⟨_, rfl, rfl⟩⟩,
    fun other hin hcounted => absurd hcounted (List.countP_eq_zero.mp hnone other hin)⟩
  refs := fun hne => by
    rw [counted_countedHead s id hne, hnone]
    rfl

theorem kept_preInit (hcoherent : Coherent c s) (hclosed : Closed s) (hclean : Clean s)
    (hpre : PreInit c s id t) : Closed t ∧ Clean t := by
  cases hpre with
  | lives => exact ⟨hclosed, hclean⟩
  | reused hent =>
      have hentity := hcoherent.entity hent
      have hpos : 0 < counted s := by
        have hone := hentity.pos
        have hle := hentity.le
        omega
      obtain ⟨other, hin, hother⟩ := List.countP_pos_iff.mp hpos
      refine ⟨hclosed.cons fun n huses => ⟨other, hin, ?_⟩, ⟨List.forall_mem_cons.mpr
        ⟨fun _ => ⟨hent, uses_iff.mpr ⟨_, rfl, rfl⟩⟩, hclean.same⟩, fun _ => ?_⟩⟩
      · have hdesc : s.entDesc = .made n := desc_of_uses rfl huses
        exact hdesc ▸ (hclean.same other hin hother).2
      · have hrefs := hclean.refs hent
        rw [counted_reused hent]
        show s.fdRef + 1 = ((counted s + 1 : Nat) : Int)
        omega
  | passed hent number =>
      refine ⟨hclosed.opened hcoherent.heads true, ⟨List.forall_mem_cons.mpr
        ⟨(fun hcounted => by cases hcounted), hclean.same⟩, fun hne => absurd hent hne⟩⟩
  | failed hent =>
      exact ⟨hclosed.cons (fun n huses => by cases huses), ⟨List.forall_mem_cons.mpr
        ⟨(fun hcounted => by cases hcounted), hclean.same⟩, fun hne => absurd hent hne⟩⟩
  | server hent hkeeps number =>
      exact ⟨hclosed.cons (fun n huses => by cases huses),
        clean_countedHead (hclean.none_counted hent) id ⟨number, .server⟩⟩
  | device hent hkeeps number =>
      exact ⟨hclosed.opened hcoherent.heads false,
        clean_countedHead (s := opened s) (hclean.none_counted hent) id ⟨number, .made s.made⟩⟩

/-- A head that is not uncounted and has no number to count. -/
theorem not_made_of_bare (hcounted : head.uncounted = false)
    (hbare : ∀ fd, head.fd = some fd → fd.number = 0) (n : Nat) : head.uses (.made n) = false := by
  cases huses : head.uses (.made n) with
  | false => rfl
  | true =>
      obtain ⟨fd, hfd, hdesc⟩ := uses_iff.mp huses
      rw [Head.uncounted, hfd, Option.any_some, hbare fd hfd, hdesc, Bool.or_eq_false_iff] at hcounted
      cases hcounted.2

theorem kept_freed (hcoherent : Coherent c s) (hclosed : Closed s) (hclean : Clean s)
    (hperm : s.heads.Perm (head :: rest)) (hok : head.uncounted = false)
    (hfreed : Freed c s head rest t) : Closed t ∧ Clean t := by
  have hin : ∀ other ∈ rest, other ∈ s.heads := fun other hother =>
    hperm.mem_iff.mpr (List.mem_cons_of_mem head hother)
  have hhead : head ∈ s.heads := hperm.mem_iff.mpr List.mem_cons_self
  have hcount := counted_perm hperm
  have hpassed : head.fdPassed = false := (Bool.or_eq_false_iff.mp hok).1
  have hapart := (List.pairwise_cons.mp (hcoherent.heads.perm hperm).apart).1
  have hdecided : ∀ fd, head.fd = some fd → fd.number ≠ 0 → head.counted = true := fun fd hfd hne =>
    counted_iff.mpr ⟨hpassed, fd, hfd, hne⟩
  -- The descriptor is the entity's, and without other counted heads nobody else has it.
  have hlast : ∀ fd, head.fd = some fd → fd.number ≠ 0 → s.fdRef = 1 →
      rest.countP Head.counted = 0 := by
    intro fd hfd hne href
    have hhere := hdecided fd hfd hne
    have hrefs := hclean.refs (hclean.same head hhead hhere).1
    rw [if_pos hhere] at hcount
    omega
  cases hfreed with
  | bare hbare =>
      refine ⟨(hclosed.rest_iff hperm).mpr fun n huses => ?_, ⟨fun other hother =>
        hclean.same other (hin other hother), fun hent => ?_⟩⟩
      · rw [not_made_of_bare hok hbare n] at huses
        cases huses
      · rw [not_counted_of_bare hbare] at hcount
        exact (hclean.refs hent).trans (congrArg Nat.cast hcount)
  | shared fd hfd hnumber href =>
      have hhere := hdecided fd hfd hnumber
      obtain ⟨hent, hdesc⟩ := hclean.same head hhead hhere
      have hrefs := hclean.refs hent
      rw [if_pos hhere] at hcount
      have hpos : 0 < rest.countP Head.counted := by omega
      obtain ⟨other, hother, hcounted⟩ := List.countP_pos_iff.mp hpos
      refine ⟨(hclosed.rest_iff hperm).mpr fun n huses => ⟨other, hother, ?_⟩, ⟨fun other hother =>
        hclean.same other (hin other hother), fun _ => ?_⟩⟩
      · rw [← desc_of_uses hfd huses, desc_of_uses hfd hdesc]
        exact (hclean.same other (hin other hother) hcounted).2
      · show s.fdRef - 1 = (rest.countP Head.counted : Int)
        omega
  | kept fd hfd hnumber href hkeeps =>
      have hnone := hlast fd hfd hnumber href
      have hserver := (hcoherent.heads.own head hhead fd hfd).mpr ⟨hkeeps, hpassed⟩
      refine ⟨(hclosed.rest_iff hperm).mpr fun n huses => ?_, ⟨fun other hother hcounted => ?_,
        fun hne => absurd rfl hne⟩⟩
      · have hdesc := desc_of_uses hfd huses
        rw [hserver] at hdesc
        cases hdesc
      · exact absurd hcounted (List.countP_eq_zero.mp hnone other hother)
  | closed fd hfd hnumber href hkeeps =>
      have hnone := hlast fd hfd hnumber href
      obtain ⟨n, hdesc⟩ := hcoherent.heads.desc_made hhead hfd fun hboth => by
        rw [hkeeps] at hboth
        cases hboth.1
      refine ⟨hclosed.released hperm hfd hdesc fun other hother => ?_, ⟨fun other hother hcounted => ?_,
        fun hne => absurd rfl hne⟩⟩
      · cases huses : other.uses (.made n) with
        | false => rfl
        | true =>
            have hboth := hapart other hother n (uses_iff.mpr ⟨fd, hfd, hdesc⟩) huses
            exact absurd hboth.2 (List.countP_eq_zero.mp hnone other hother)
      · exact absurd hcounted (List.countP_eq_zero.mp hnone other hother)

/-- The head that `FreeRec` takes out, when the condition holds. -/
theorem not_uncounted (hok : FreesCounted s (.freeScreen id))
    (htake : takeHead id s.heads = some (head, rest)) : head.uncounted = false := by
  rw [FreesCounted, htake, Option.all_some, Bool.not_eq_true'] at hok
  exact hok

theorem kept_step (a : Act) (hok : FreesCounted s a)
    (h : Coherent c s ∧ Closed s ∧ Clean s) :
    Coherent c (step c s a) ∧ Closed (step c s a) ∧ Clean (step c s a) := by
  obtain ⟨hcoherent, hclosed, hclean⟩ := h
  refine ⟨coherent_step hcoherent a, ?_⟩
  cases a with
  | preInit id a => exact kept_preInit hcoherent hclosed hclean (preInit_cases c s id a)
  | freeScreen id =>
      rcases freeRec_cases c s id with ⟨-, hsame⟩ | ⟨head, rest, htake, hfreed⟩
      · show Closed (freeRec c s id) ∧ Clean (freeRec c s id)
        rw [hsame]
        exact ⟨hclosed, hclean⟩
      · exact kept_freed hcoherent hclosed hclean (takeHead_perm htake) (not_uncounted hok htake)
          hfreed

theorem closed_start : Closed start :=
  ⟨trivial, fun _ => iff_of_false (fun h => by cases h) fun ⟨_, hin, _⟩ => by cases hin⟩

end Counted

/-! ## Runs that free others -/

section Uncounted

variable {c : Config} {s t : State} {id : Nat} {head : Head} {rest : List Head}

/-- A head has number zero of the driver's own, which `FreeRec` takes for none. -/
def Zero (s : State) : Prop := ∃ head ∈ s.heads, ∃ n, head.fd = some ⟨0, .made n⟩

/-- **What an uncounted head leaves when it is freed**: the entity counts fewer heads than there
are, so that the last of them will not be the one that closes. -/
structure Tainted (c : Config) (s : State) : Prop where
  keeps : serverKeeps c = false
  few : Zero s ∨ (s.entFd = 0 → 0 < counted s) ∧ (s.entFd ≠ 0 → s.fdRef < counted s)

/-- A count without a descriptor is that of number zero. -/
def Phantom (c : Config) (s : State) : Prop :=
  s.entFd = 0 → 0 < s.fdRef → serverKeeps c = false → Zero s

theorem Zero.preInit (h : Zero s) (hpre : PreInit c s id t) : Zero t := by
  obtain ⟨head, hin, hzero⟩ := h
  cases hpre with
  | lives => exact ⟨head, hin, hzero⟩
  | reused hent => exact ⟨head, List.mem_cons_of_mem _ hin, hzero⟩
  | passed hent number => exact ⟨head, List.mem_cons_of_mem _ hin, hzero⟩
  | failed hent => exact ⟨head, List.mem_cons_of_mem _ hin, hzero⟩
  | server hent hkeeps number => exact ⟨head, List.mem_cons_of_mem _ hin, hzero⟩
  | device hent hkeeps number => exact ⟨head, List.mem_cons_of_mem _ hin, hzero⟩

theorem tainted_preInit (h : Tainted c s) (hpre : PreInit c s id t) : Tainted c t := by
  refine ⟨h.keeps, ?_⟩
  cases h.few with
  | inl hzero => exact Or.inl (hzero.preInit hpre)
  | inr hfew =>
      refine Or.inr ?_
      cases hpre with
      | lives => exact hfew
      | reused hent =>
          refine ⟨fun hno => absurd hno hent, fun _ => ?_⟩
          have hlt := hfew.2 hent
          rw [counted_reused hent]
          show s.fdRef + 1 < ((counted s + 1 : Nat) : Int)
          omega
      | passed hent number => exact ⟨fun _ => hfew.1 hent, fun hne => absurd hent hne⟩
      | failed hent => exact ⟨fun _ => hfew.1 hent, fun hne => absurd hent hne⟩
      | server hent hkeeps number =>
          rw [h.keeps] at hkeeps
          cases hkeeps
      | device hent hkeeps number =>
          have hpos := hfew.1 hent
          have hcount := counted_cons (countedHead (opened s) id ⟨number, .made s.made⟩) rfl
          refine ⟨fun _ => ?_, fun hne => ?_⟩
          · rw [hcount]
            exact Nat.add_pos_left hpos _
          · rw [counted_countedHead (opened s) id hne]
            show (1 : Int) < ((counted s + 1 : Nat) : Int)
            omega

theorem phantom_preInit (h : Phantom c s) (hpre : PreInit c s id t) : Phantom c t := by
  have hgrows : Zero s → Zero t := fun hzero => hzero.preInit hpre
  cases hpre with
  | lives => exact h
  | reused hent => exact fun hzero => absurd hzero hent
  | passed hent number => exact fun hzero hpos hno => hgrows (h hzero hpos hno)
  | failed hent => exact fun hzero hpos hno => hgrows (h hzero hpos hno)
  | server hent hkeeps number =>
      intro _ _ hno
      rw [hkeeps] at hno
      cases hno
  | device hent hkeeps number =>
      intro hzero _ _
      have hnumber : number = 0 := hzero
      exact ⟨_, List.mem_cons_self, s.made, by rw [hnumber]⟩

/-- When all is well after a head is freed, nobody's last descriptor has been left open. -/
theorem freed_shared (hcoherent : Coherent c s) (hclosed : Closed s)
    (hperm : s.heads.Perm (head :: rest)) (hopen : ClosedByLast s.acts rest) {n : Nat}
    (huses : head.uses (.made n) = true) :
    head.counted = true ∧ 0 < rest.countP Head.counted := by
  obtain ⟨other, hother, hused⟩ := (hclosed.rest_iff hperm).mp hopen n huses
  have hboth := (List.pairwise_cons.mp (hcoherent.heads.perm hperm).apart).1 other hother n huses hused
  exact ⟨hboth.1, List.countP_pos_iff.mpr ⟨other, hother, hboth.2⟩⟩

/-- The head with number zero is not the one that was freed. -/
theorem Zero.freed (h : Zero s) (hcoherent : Coherent c s) (hclosed : Closed s)
    (hperm : s.heads.Perm (head :: rest)) (hfreed : Freed c s head rest t) (hafter : Closed t) :
    Zero t := by
  obtain ⟨other, hin, n, hfd⟩ := h
  have hrest : other ∈ rest := by
    cases List.mem_cons.mp (hperm.mem_iff.mp hin) with
    | inr hrest => exact hrest
    | inl heq =>
        subst heq
        have hbare : other.counted = false := not_counted_of_bare fun fd h => by
          rw [hfd] at h
          cases h
          rfl
        have hnumber : ∀ fd, other.fd = some fd → fd.number ≠ 0 → False := fun fd h hne => by
          rw [hfd] at h
          cases h
          exact hne rfl
        cases hfreed with
        | bare _ =>
            have hcounted := (freed_shared hcoherent hclosed hperm hafter
              (uses_iff.mpr ⟨_, hfd, rfl⟩)).1
            rw [hbare] at hcounted
            cases hcounted
        | shared fd h hne _ => exact (hnumber fd h hne).elim
        | kept fd h hne _ _ => exact (hnumber fd h hne).elim
        | closed fd h hne _ _ => exact (hnumber fd h hne).elim
  cases hfreed with
  | bare _ => exact ⟨other, hrest, n, hfd⟩
  | shared _ _ _ _ => exact ⟨other, hrest, n, hfd⟩
  | kept _ _ _ _ _ => exact ⟨other, hrest, n, hfd⟩
  | closed _ _ _ _ _ => exact ⟨other, hrest, n, hfd⟩

theorem phantom_freed (h : Phantom c s) (hcoherent : Coherent c s) (hclosed : Closed s)
    (hperm : s.heads.Perm (head :: rest)) (hfreed : Freed c s head rest t) (hafter : Closed t) :
    Phantom c t := by
  intro hent hpos hno
  have hzero : Zero s := by
    cases hfreed with
    | bare _ => exact h hent hpos hno
    | shared _ _ _ _ =>
        have hmore : 0 < s.fdRef - 1 := hpos
        exact h hent (by omega) hno
    | kept _ _ _ _ _ => cases hpos
    | closed _ _ _ _ _ => cases hpos
  exact hzero.freed hcoherent hclosed hperm hfreed hafter

/-- An uncounted head is freed. -/
theorem tainted_of_uncounted (hcoherent : Coherent c s) (hclosed : Closed s) (hphantom : Phantom c s)
    (hperm : s.heads.Perm (head :: rest)) (hhead : head.uncounted = true)
    (hfreed : Freed c s head rest t) (hafter : Closed t) : Tainted c t := by
  have hin : head ∈ s.heads := hperm.mem_iff.mpr List.mem_cons_self
  have hcount := counted_perm hperm
  -- It has a descriptor of the driver's own and is not among those counted.
  obtain ⟨n, huses, hnot⟩ : ∃ n, head.uses (.made n) = true ∧ head.counted = false := by
    cases hpassed : head.fdPassed with
    | true =>
        obtain ⟨fd, hfd⟩ := hcoherent.heads.passed head hin hpassed
        obtain ⟨n, hdesc⟩ := hcoherent.heads.desc_made hin hfd fun hboth => by
          rw [hpassed] at hboth
          cases hboth.2
        exact ⟨n, uses_iff.mpr ⟨fd, hfd, hdesc⟩, by rw [Head.counted, hpassed]; rfl⟩
    | false =>
        rw [Head.uncounted, hpassed, Bool.false_or, Option.any_eq_true] at hhead
        obtain ⟨fd, hfd, hzero⟩ := hhead
        rw [Bool.and_eq_true, beq_iff_eq, bne_iff_ne] at hzero
        obtain ⟨n, hdesc⟩ : ∃ n, fd.desc = .made n := by
          cases hdesc : fd.desc with
          | server => exact absurd hdesc hzero.2
          | made n => exact ⟨n, rfl⟩
        refine ⟨n, uses_iff.mpr ⟨fd, hfd, hdesc⟩, not_counted_of_bare fun fd' hfd' => ?_⟩
        rw [hfd] at hfd'
        exact Option.some.inj hfd' ▸ hzero.1
  rw [hnot] at hcount
  have hleft : ¬ ClosedByLast s.acts rest := fun hopen => by
    have hcounted := (freed_shared hcoherent hclosed hperm hopen huses).1
    rw [hnot] at hcounted
    cases hcounted
  have hwhole := hfreed
  cases hfreed with
  | bare _ => exact absurd hafter hleft
  | shared _ _ _ _ => exact absurd hafter hleft
  | kept _ _ _ _ _ => exact absurd hafter hleft
  | closed fd hfd hnumber href hkeeps =>
      refine ⟨hkeeps, ?_⟩
      by_cases hent : s.entFd = 0
      · have hzero := hphantom hent (by omega) hkeeps
        exact Or.inl (hzero.freed hcoherent hclosed hperm hwhole hafter)
      · have hle := (hcoherent.entity hent).le
        refine Or.inr ⟨fun _ => ?_, fun hne => absurd rfl hne⟩
        show 0 < rest.countP Head.counted
        have hall : counted s = rest.countP Head.counted := hcount
        omega

theorem tainted_freed (h : Tainted c s) (hcoherent : Coherent c s) (hclosed : Closed s)
    (hphantom : Phantom c s) (hperm : s.heads.Perm (head :: rest))
    (hfreed : Freed c s head rest t) (hafter : Closed t) : Tainted c t := by
  cases hhead : head.uncounted with
  | true => exact tainted_of_uncounted hcoherent hclosed hphantom hperm hhead hfreed hafter
  | false =>
      refine ⟨h.keeps, ?_⟩
      cases h.few with
      | inl hzero => exact Or.inl (hzero.freed hcoherent hclosed hperm hfreed hafter)
      | inr hfew =>
          have hin : head ∈ s.heads := hperm.mem_iff.mpr List.mem_cons_self
          have hcount := counted_perm hperm
          have hpassed : head.fdPassed = false := (Bool.or_eq_false_iff.mp hhead).1
          have hwhole := hfreed
          cases hfreed with
          | bare hbare =>
              rw [not_counted_of_bare hbare] at hcount
              have hall : counted s = rest.countP Head.counted := hcount
              rw [hall] at hfew
              exact Or.inr hfew
          | kept fd hfd hnumber href hkeeps =>
              rw [h.keeps] at hkeeps
              cases hkeeps
          | shared fd hfd hnumber href =>
              rw [if_pos (counted_iff.mpr ⟨hpassed, fd, hfd, hnumber⟩)] at hcount
              obtain ⟨n, hdesc⟩ := hcoherent.heads.desc_made hin hfd fun hboth => by
                rw [h.keeps] at hboth
                cases hboth.1
              have hpos := (freed_shared hcoherent hclosed hperm hafter
                (uses_iff.mpr ⟨fd, hfd, hdesc⟩)).2
              refine Or.inr ⟨fun _ => hpos, fun hne => ?_⟩
              have hlt := hfew.2 hne
              show s.fdRef - 1 < (rest.countP Head.counted : Int)
              omega
          | closed fd hfd hnumber href hkeeps =>
              by_cases hent : s.entFd = 0
              · have hzero := hphantom hent (by omega) hkeeps
                exact Or.inl (hzero.freed hcoherent hclosed hperm hwhole hafter)
              · have hlt := hfew.2 hent
                rw [if_pos (counted_iff.mpr ⟨hpassed, fd, hfd, hnumber⟩)] at hcount
                refine Or.inr ⟨fun _ => ?_, fun hne => absurd rfl hne⟩
                show 0 < rest.countP Head.counted
                omega

/-- A step after which all is well. -/
theorem tainted_step (hcoherent : Coherent c s) (hclosed : Closed s) (hphantom : Phantom c s)
    (a : Act) (hafter : Closed (step c s a)) :
    Phantom c (step c s a) ∧ (Tainted c s ∨ ¬ FreesCounted s a → Tainted c (step c s a)) := by
  cases a with
  | preInit id a =>
      have hpre := preInit_cases c s id a
      exact ⟨phantom_preInit hphantom hpre,
        fun hor => hor.elim (fun h => tainted_preInit h hpre) fun hno => absurd trivial hno⟩
  | freeScreen id =>
      rcases freeRec_cases c s id with ⟨htake, hsame⟩ | ⟨head, rest, htake, hfreed⟩
      · show Phantom c (freeRec c s id) ∧ (_ → Tainted c (freeRec c s id))
        rw [hsame]
        refine ⟨hphantom, fun hor => hor.elim (fun h => h) fun hno => absurd ?_ hno⟩
        rw [FreesCounted, htake]
        rfl
      · have hperm := takeHead_perm htake
        refine ⟨phantom_freed hphantom hcoherent hclosed hperm hfreed hafter, fun hor => ?_⟩
        cases hor with
        | inl htainted =>
            exact tainted_freed htainted hcoherent hclosed hphantom hperm hfreed hafter
        | inr hno =>
            refine tainted_of_uncounted hcoherent hclosed hphantom hperm ?_ hfreed hafter
            rw [FreesCounted, htake, Option.all_some, Bool.not_eq_true', Bool.not_eq_false] at hno
            exact hno

theorem Tainted.heads_ne_nil (h : Tainted c s) (hcoherent : Coherent c s) : s.heads ≠ [] := by
  intro hnil
  have hnone : counted s = 0 := by rw [counted, hnil]; rfl
  cases h.few with
  | inl hzero =>
      obtain ⟨head, hin, -⟩ := hzero
      rw [hnil] at hin
      cases hin
  | inr hfew =>
      by_cases hent : s.entFd = 0
      · have hpos := hfew.1 hent
        omega
      · have hlt := hfew.2 hent
        have hpos := (hcoherent.entity hent).pos
        omega

/-- Once tainted, a run in which all goes well does not end without heads. -/
theorem tainted_run (acts : List Act) : ∀ {s : State}, Coherent c s → Phantom c s → Tainted c s →
    Always (step c) Closed s acts → (run (step c) s acts).heads ≠ [] := by
  induction acts with
  | nil => exact fun hcoherent _ htainted _ => htainted.heads_ne_nil hcoherent
  | cons a acts ih =>
      intro s hcoherent hphantom htainted halways
      obtain ⟨hnext, hkeeps⟩ := tainted_step hcoherent halways.1 hphantom a halways.2.head
      exact ih (coherent_step hcoherent a) hnext (hkeeps (Or.inl htainted)) halways.2

theorem guarded_of_closed (acts : List Act) : ∀ {s : State}, Coherent c s → Phantom c s →
    Always (step c) Closed s acts → (run (step c) s acts).heads = [] →
    Guarded (step c) FreesCounted s acts := by
  induction acts with
  | nil => exact fun _ _ _ _ => trivial
  | cons a acts ih =>
      intro s hcoherent hphantom halways hend
      obtain ⟨hnext, hkeeps⟩ := tainted_step hcoherent halways.1 hphantom a halways.2.head
      refine ⟨?_, ih (coherent_step hcoherent a) hnext halways.2 hend⟩
      by_contra hno
      exact tainted_run acts (coherent_step hcoherent a) hnext (hkeeps (Or.inr hno)) halways.2 hend

/-- **Every run that frees counted heads only** closes each descriptor once, with its last
head; and a run that frees all its heads does so only if it frees counted heads only. -/
theorem closed_by_last (c : Config) (acts : List Act) :
    (Guarded (step c) FreesCounted start acts → Always (step c) Closed start acts) ∧
      ((run (step c) start acts).heads = [] → Always (step c) Closed start acts →
        Guarded (step c) FreesCounted start acts) := by
  constructor
  · intro hguarded
    have hstart : Coherent c start ∧ Closed start ∧ Clean start :=
      ⟨coherent_start c, closed_start, (fun _ hin => by cases hin), fun hne => absurd rfl hne⟩
    have halways := Guarded.always (P := fun s => Coherent c s ∧ Closed s ∧ Clean s)
      (fun s a h hok => kept_step a hok h) hstart hguarded
    exact halways.mono fun s h => h.2.1
  · intro hend halways
    have hnone : ¬ (0 : Int) < 0 := by omega
    exact guarded_of_closed acts (coherent_start c) (fun _ hpos => absurd hpos hnone) halways hend

end Uncounted

/-- Two heads that share the descriptor of a PCI device. -/
def sharedRun : List Act :=
  [.preInit 0 ⟨none, none, some 7, true⟩, .preInit 1 ⟨none, none, some 8, true⟩, .freeScreen 0,
    .freeScreen 1]

theorem closed_by_last_shared :
    Always (step ⟨.pci, false⟩) Closed start sharedRun ∧
      (run (step ⟨.pci, false⟩) start sharedRun).acts =
        [.release (.made 0), .acquire (.made 0)] :=
  ⟨(closed_by_last ⟨.pci, false⟩ sharedRun).1 (by decide), by decide⟩

/-- **A passed descriptor's duplicate is never closed**, and it takes the count of others: with
head 0 freed, head 1 closes the descriptor that head 2 still has. -/
theorem passed_fd_uncounted :
    let alone := run (step ⟨.pci, true⟩) start
      [.preInit 0 ⟨some 5, none, none, true⟩, .freeScreen 0]
    let three := run (step ⟨.pci, true⟩) start
      [.preInit 0 ⟨some 5, none, none, true⟩, .preInit 1 ⟨none, none, some 7, true⟩,
        .preInit 2 ⟨none, none, none, true⟩, .freeScreen 0, .freeScreen 1]
    alone.heads = [] ∧ alone.acts = [.acquire (.made 0)] ∧ ¬ Closed alone ∧
      three.heads = [⟨2, some ⟨7, .made 1⟩, false⟩] ∧
      three.acts = [.release (.made 1), .acquire (.made 1), .acquire (.made 0)] := by
  refine ⟨by decide, by decide, fun h => ?_, by decide, by decide⟩
  obtain ⟨head, hin, -⟩ := (h.open_iff 0).mp (by decide)
  cases hin

end LoongsonVideo.Driver.DeviceFd
