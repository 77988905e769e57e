import LoongsonVideo.Driver.DrmQueue
import LoongsonVideo.Verified.Bytes

/-!
# Cancelling a Present vblank

`ms_present_abort_vblank` of `src/present.c` looks for its event in the queue that all
users of the kernel's events share, and `ms_present_event_match` takes the record behind
every entry for one of Present's: it compares the first eight bytes with the id.

* `firstWord_eq`: what these bytes are for the four kinds of records.
* `abortVblank_cancels_iff`: when the entry that goes is the right one.
-/

namespace LoongsonVideo.Driver.PresentAbort

open LoongsonVideo.Verified
open LoongsonVideo.Driver.DrmQueue

/-- The records behind the entries: `struct ms_present_vblank_event`,
`struct ms_dri2_frame_event`, `struct ms_crtc_pageflip` and `struct vblank_event_args`.
A pointer is a number of 64 bits; `rest` are the bytes after the first member. -/
inductive QueueRecord where
  | presentVblank (eventId : UInt64) (unflip : Bool)
  | dri2Frame (screen : UInt64) (rest : List UInt8)
  | crtcPageflip (onReferenceCrtc : Bool) (flipdata : UInt64)
  | vblankArgs (frontTarget : UInt64) (rest : List UInt8)
  deriving DecidableEq, Repr

namespace QueueRecord

/-- The bytes of a record.  A `Bool` is an `int` and is followed by four bytes of padding
before what is aligned to eight, which `calloc` has left zero. -/
def bytes : QueueRecord → List UInt8
  | presentVblank eventId unflip =>
      leBytes 8 eventId.toNat ++ leBytes 4 unflip.toNat ++ leBytes 4 0
  | dri2Frame screen rest => leBytes 8 screen.toNat ++ rest
  | crtcPageflip onReferenceCrtc flipdata =>
      leBytes 4 onReferenceCrtc.toNat ++ leBytes 4 0 ++ leBytes 8 flipdata.toNat
  | vblankArgs frontTarget rest => leBytes 8 frontTarget.toNat ++ rest

/-- `((struct ms_present_vblank_event *) data)->event_id`, whatever the record is. -/
def eventId (r : QueueRecord) : UInt64 := UInt64.ofNat (leValue (r.bytes.take 8))

/-- An event of Present. -/
def isPresent : QueueRecord → Bool
  | presentVblank _ _ => true
  | dri2Frame _ _ => false
  | crtcPageflip _ _ => false
  | vblankArgs _ _ => false

end QueueRecord

/-- `ms_present_event_match`. -/
def msPresentEventMatch (data : QueueRecord) (matchData : UInt64) : Bool :=
  matchData == data.eventId

/-- `ms_present_abort_vblank`: the queue afterwards and the record whose abort callback is
called. -/
def msPresentAbortVblank (v : Vblank QueueRecord) (scrn : Nat) (eventId : UInt64) :
    Vblank QueueRecord × Option QueueRecord :=
  msDrmAbort v scrn fun data => msPresentEventMatch data eventId

/-! ## First words -/

/-- What the first eight bytes of a record hold. -/
def firstWord : QueueRecord → UInt64
  | .presentVblank eventId _ => eventId
  | .dri2Frame screen _ => screen
  | .crtcPageflip onReferenceCrtc _ => if onReferenceCrtc then 1 else 0
  | .vblankArgs frontTarget _ => frontTarget

theorem leValue_word (word : UInt64) (rest : List UInt8) :
    UInt64.ofNat (leValue ((leBytes 8 word.toNat ++ rest).take 8)) = word := by
  have htake : (leBytes 8 word.toNat ++ rest).take 8 = leBytes 8 word.toNat :=
    List.take_left' (length_leBytes 8 _)
  have hlt : word.toNat < 256 ^ 8 := word.toNat_lt
  rw [htake, leValue_leBytes, Nat.mod_eq_of_lt hlt, UInt64.ofNat_toNat]

theorem firstWord_eq (r : QueueRecord) : r.eventId = firstWord r := by
  cases r with
  | presentVblank eventId unflip =>
      rw [QueueRecord.eventId, QueueRecord.bytes, List.append_assoc]
      exact leValue_word eventId _
  | dri2Frame screen rest => exact leValue_word screen rest
  | crtcPageflip onReferenceCrtc flipdata =>
      have htake : ((leBytes 4 onReferenceCrtc.toNat ++ leBytes 4 0) ++
          leBytes 8 flipdata.toNat).take 8 = leBytes 4 onReferenceCrtc.toNat ++ leBytes 4 0 :=
        List.take_left' (by simp)
      rw [QueueRecord.eventId, QueueRecord.bytes, htake, leValue_append, leValue_leBytes,
        leValue_leBytes]
      cases onReferenceCrtc <;> rfl
  | vblankArgs frontTarget rest => exact leValue_word frontTarget rest

/-! ## The entry that goes -/

/-- **Only the event is cancelled**: nothing happens, or one entry goes, its abort callback is
called, and it is the Present event with this id. -/
def Cancels (v : Vblank QueueRecord) (eventId : UInt64)
    (out : Vblank QueueRecord × Option QueueRecord) : Prop :=
  out = (v, none) ∨
    ∃ before q after unflip, v.msDrmQueue = before ++ q :: after ∧
      q.data = .presentVblank eventId unflip ∧
      out = ({ v with msDrmQueue := before ++ after }, some q.data)

/-- **The condition.**  The first entry whose record begins with this number is a Present
event, if there is one. -/
def PresentFirst (v : Vblank QueueRecord) (eventId : UInt64) : Prop :=
  ∀ q, v.msDrmQueue.find? (fun q => firstWord q.data == eventId) = some q →
    q.data.isPresent = true

theorem takeFirst_fst {δ : Type*} (p : QueueEntry δ → Bool) (l : List (QueueEntry δ)) :
    (takeFirst p l).map Prod.fst = l.find? p := by
  induction l with
  | nil => rfl
  | cons q tmp ih =>
      rw [takeFirst, List.find?_cons]
      cases hq : p q with
      | true => rfl
      | false =>
          rw [← ih]
          simp only [Bool.false_eq_true, if_false, Option.map_map]
          rfl

/-- **Cancelling a vblank** removes its event and nothing else exactly when no other record
that begins with the id comes first. -/
theorem abortVblank_cancels_iff (v : Vblank QueueRecord) (scrn : Nat) (eventId : UInt64) :
    Cancels v eventId (msPresentAbortVblank v scrn eventId) ↔ PresentFirst v eventId := by
  have hmatch : (fun q : QueueEntry QueueRecord => msPresentEventMatch q.data eventId) =
      fun q => firstWord q.data == eventId := by
    funext q
    rw [msPresentEventMatch, firstWord_eq, BEq.comm]
  rw [msPresentAbortVblank, msDrmAbort, hmatch, abortFirst, PresentFirst, ← takeFirst_fst]
  cases hfirst : takeFirst (fun q => firstWord q.data == eventId) v.msDrmQueue with
  | none => exact iff_of_true (Or.inl rfl) fun q hq => by cases hq
  | some found =>
      obtain ⟨q, rest⟩ := found
      obtain ⟨before, after, hqueue, rfl, hword, hbefore⟩ := takeFirst_eq_some hfirst
      constructor
      · intro h other hother
        obtain rfl : q = other := Option.some.inj hother
        cases h with
        | inl hnone => cases congrArg Prod.snd hnone
        | inr hone =>
            obtain ⟨_, q', _, unflip, -, hdata, hout⟩ := hone
            have hsame : q.data = q'.data := Option.some.inj (congrArg Prod.snd hout)
            rw [hsame, hdata]
            rfl
      · intro h
        have hpresent := h q rfl
        refine Or.inr ⟨before, q, after, ?_⟩
        cases hdata : q.data with
        | presentVblank id unflip =>
            rw [hdata] at hword
            obtain rfl : id = eventId := by simpa [firstWord] using hword
            exact ⟨unflip, hqueue, rfl, congrArg (Prod.mk _) (congrArg some hdata)⟩
        | dri2Frame screen bytes => rw [hdata] at hpresent; cases hpresent
        | crtcPageflip reference flipdata => rw [hdata] at hpresent; cases hpresent
        | vblankArgs target bytes => rw [hdata] at hpresent; cases hpresent

/-- Two outstanding requests: the carrier of a page flip, and behind it the first event that
Present has asked for. -/
def flipBeforeEvent : Vblank QueueRecord :=
  { (Vblank.start : Vblank QueueRecord) with
    msDrmQueue := [⟨2, 0, 0, .crtcPageflip true 4096⟩, ⟨1, 0, 0, .presentVblank 1 false⟩] }

/-- **Cancelling event 1 aborts a page flip**: `on_reference_crtc` is 1, and the event stays
in the queue. -/
theorem cancel_aborts_flip :
    (msPresentAbortVblank flipBeforeEvent 0 1).2 = some (.crtcPageflip true 4096) ∧
      (msPresentAbortVblank flipBeforeEvent 0 1).1.msDrmQueue =
        [⟨1, 0, 0, .presentVblank 1 false⟩] ∧
      ¬ Cancels flipBeforeEvent 1 (msPresentAbortVblank flipBeforeEvent 0 1) := by
  have habort : (msPresentAbortVblank flipBeforeEvent 0 1).2 =
      some (.crtcPageflip true 4096) := by decide
  refine ⟨habort, by decide, fun h => ?_⟩
  cases h with
  | inl hnone =>
      rw [hnone] at habort
      cases habort
  | inr hone =>
      obtain ⟨_, q, _, unflip, -, hdata, hout⟩ := hone
      rw [hout, hdata] at habort
      cases habort

end LoongsonVideo.Driver.PresentAbort
