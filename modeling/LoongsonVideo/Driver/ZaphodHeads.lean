import LoongsonVideo.Driver.Outputs
import LoongsonVideo.Verified.Machine

/-!
# Heads that share a device

Several screens on one device take their CRTCs from one bitmap.  `drmmode_pre_init` first
makes the outputs, and says for each which CRTCs of the screen it can use: it shifts the
kernel's masks by the first free bit of the bitmap and keeps seven bits.  Then it takes the
CRTCs, from the first free one on, leaving out those that are in use or that
`drmmode_crtc_init` cannot set up.

No CRTC is ever taken twice.  The masks are right as long as a head's CRTCs follow each other
without a gap and are at most seven: `heads_exact`.
-/

namespace LoongsonVideo.Driver.Outputs

open LoongsonVideo.Verified.Machine

/-! ## Bits -/

/-- The place of the first CRTC that is not in use, as `drmmode_pre_init` finds it. -/
def firstFree (assigned : Assigned) : Nat := ffs (assigned ^^^ 0xffffffff#32) - 1

theorem getLsbD_not_assigned (assigned : Assigned) {i : Nat} (hi : i < 32) :
    (assigned ^^^ 0xffffffff#32).getLsbD i = !assigned.getLsbD i := by
  have hones : 0xffffffff#32 = BitVec.allOnes 32 := by decide
  rw [hones, BitVec.getLsbD_xor, BitVec.getLsbD_allOnes, decide_eq_true hi, Bool.xor_true]

/-- No CRTC below the first free one is free. -/
theorem firstFree_le {assigned : Assigned} {i : Nat} (hi : i < 32)
    (hfree : assigned.getLsbD i = false) : firstFree assigned ≤ i := by
  unfold firstFree ffs
  split
  · exact Nat.zero_le i
  · next first hfirst =>
      rw [List.find?_range_eq_some] at hfirst
      apply Nat.le_of_not_lt
      intro hlt
      have hbelow := hfirst.2.2 i hlt
      rw [getLsbD_not_assigned assigned hi, hfree] at hbelow
      exact absurd hbelow (by decide)

@[simp] theorem getLsbD_markCrtcInUse (assigned : Assigned) (num i : Nat) :
    (markCrtcInUse assigned num).getLsbD i =
      (assigned.getLsbD i || (decide (i < 32) && decide (i = num))) := by
  unfold markCrtcInUse
  rw [BitVec.getLsbD_or, BitVec.getLsbD_shiftLeft, BitVec.getLsbD_one]
  congr 1
  by_cases hi : i < num
  · have hne : i ≠ num := Nat.ne_of_lt hi
    simp [hi, hne]
  · have hiff : i - num = 0 ↔ i = num := by omega
    simp [hi, hiff]

/-- **The mask of an output**, bit by bit. -/
theorem getLsbD_possibleCrtcs (encoders : List (BitVec 32)) (crtcshift k : Nat) :
    (possibleCrtcs encoders crtcshift).getLsbD k = true ↔
      k < 7 ∧ ∃ possible ∈ encoders, possible.getLsbD (crtcshift + k) = true := by
  have hseven : (0x7f#32).getLsbD k = true ↔ k < 7 := by
    by_cases hk : k < 32
    · revert k
      decide
    · rw [BitVec.getLsbD_of_ge _ _ (Nat.le_of_not_lt hk)]
      exact ⟨nofun, fun hlt => by omega⟩
  have hfold : ∀ mask : BitVec 32,
      (encoders.foldl (fun (mask possible : BitVec 32) =>
        mask ||| (possible >>> crtcshift &&& 0x7f#32)) mask).getLsbD k = true ↔
      mask.getLsbD k = true ∨
        k < 7 ∧ ∃ possible ∈ encoders, possible.getLsbD (crtcshift + k) = true := by
    induction encoders with
    | nil => simp
    | cons possible rest ih =>
        intro mask
        rw [List.foldl_cons, ih, BitVec.getLsbD_or, BitVec.getLsbD_and,
          BitVec.getLsbD_ushiftRight, Bool.or_eq_true, Bool.and_eq_true, hseven]
        simp only [List.mem_cons, exists_eq_or_imp]
        constructor
        · rintro ((hmask | ⟨hbit, hk⟩) | ⟨hk, hrest⟩)
          · exact .inl hmask
          · exact .inr ⟨hk, .inl hbit⟩
          · exact .inr ⟨hk, .inr hrest⟩
        · rintro (hmask | ⟨hk, hbit | hrest⟩)
          · exact .inl (.inl hmask)
          · exact .inl (.inr ⟨hbit, hk⟩)
          · exact .inr ⟨hk, hrest⟩
  unfold possibleCrtcs
  rw [hfold, BitVec.getLsbD_zero]
  simp

/-! ## Taking CRTCs -/

/-- The numbers of a screen's CRTCs in the kernel's list. -/
def nums (s : Screen) : List Nat := s.crtcs.map Crtc.num

/-- **The CRTCs a head takes** were free, are marked, and come in the kernel's order; no
mark is taken off. -/
theorem initCrtcs_claims (i : Nat) (rest : List CrtcAnswer) (crtcsNeeded : Nat) (s : Screen)
    (assigned : Assigned) (hend : i + rest.length ≤ 32) (hshared : s.entityShared = true) :
    let t := initCrtcs i rest crtcsNeeded (s, assigned)
    t.1.outputs = s.outputs ∧
      (∀ n, assigned.getLsbD n = true → t.2.getLsbD n = true) ∧
      ∃ new, nums t.1 = nums s ++ new ∧ new.Pairwise (· < ·) ∧
        ∀ n ∈ new, i ≤ n ∧ assigned.getLsbD n = false ∧ t.2.getLsbD n = true := by
  induction rest generalizing i crtcsNeeded s assigned with
  | nil =>
      refine ⟨rfl, fun n hn => hn, [], ?_, List.Pairwise.nil, fun n hn => by cases hn⟩
      exact (List.append_nil _).symm
  | cons a rest ih =>
      rw [List.length_cons] at hend
      have hskip := ih (i + 1) crtcsNeeded s assigned (by omega) hshared
      have hskipped : ∀ t : Screen × Assigned, (t.1.outputs = s.outputs ∧
            (∀ n, assigned.getLsbD n = true → t.2.getLsbD n = true) ∧
            ∃ new, nums t.1 = nums s ++ new ∧ new.Pairwise (· < ·) ∧
              ∀ n ∈ new, i + 1 ≤ n ∧ assigned.getLsbD n = false ∧ t.2.getLsbD n = true) →
          t.1.outputs = s.outputs ∧
            (∀ n, assigned.getLsbD n = true → t.2.getLsbD n = true) ∧
            ∃ new, nums t.1 = nums s ++ new ∧ new.Pairwise (· < ·) ∧
              ∀ n ∈ new, i ≤ n ∧ assigned.getLsbD n = false ∧ t.2.getLsbD n = true := by
        rintro t ⟨houtputs, hmarks, new, hnew, hsorted, hfree⟩
        refine ⟨houtputs, hmarks, new, hnew, hsorted, fun n hn => ?_⟩
        obtain ⟨hle, hrest⟩ := hfree n hn
        exact ⟨by omega, hrest⟩
      simp only [initCrtcs, hshared, Bool.not_true, Bool.false_or]
      split
      · next htake =>
          rw [Bool.and_eq_true, Bool.not_eq_true'] at htake
          simp only [drmmodeCrtcInit]
          cases hok : a.initOk with
          | false => exact hskipped _ (ih (i + 1) _ s assigned (by omega) hshared)
          | true =>
              have hmark : (markCrtcInUse assigned i).getLsbD i = true := by
                rw [getLsbD_markCrtcInUse, decide_eq_true (by omega : i < 32)]
                simp
              obtain ⟨houtputs, hmarks, new, hnew, hsorted, hfree⟩ :=
                ih (i + 1) (crtcsNeeded - 1)
                  { s with crtcs := s.crtcs ++ [{ a.crtc with num := i }] }
                  (markCrtcInUse assigned i) (by omega) hshared
              have hkept : ∀ n, (markCrtcInUse assigned i).getLsbD n = false →
                  assigned.getLsbD n = false := by
                intro n hn
                rw [getLsbD_markCrtcInUse, Bool.or_eq_false_iff] at hn
                exact hn.1
              refine ⟨houtputs, fun n hn => hmarks n ?_, i :: new, ?_, ?_, ?_⟩
              · rw [getLsbD_markCrtcInUse, hn, Bool.true_or]
              · refine hnew.trans ?_
                show (s.crtcs ++ [_]).map Crtc.num ++ new = s.crtcs.map Crtc.num ++ i :: new
                rw [List.map_append, List.append_assoc]
                rfl
              · exact List.pairwise_cons.mpr ⟨fun n hn => (hfree n hn).1, hsorted⟩
              · intro n hn
                cases List.mem_cons.mp hn with
                | inl heq =>
                    subst heq
                    exact ⟨Nat.le_refl _, htake.2, hmarks n hmark⟩
                | inr hin =>
                    obtain ⟨hle, hbit, hset⟩ := hfree n hin
                    exact ⟨by omega, hkept n hbit, hset⟩
      · exact hskipped _ hskip

/-! ## Heads whose CRTCs follow each other -/

/-- CRTC `i` of the kernel's list is not in use and can be set up. -/
def usable (assigned : Assigned) (crtcs : List CrtcAnswer) (i : Nat) : Bool :=
  !assigned.getLsbD i && crtcs[i]?.any CrtcAnswer.initOk

/-- **The condition on a head** that takes `crtcsNeeded` connectors.  Between the first CRTC
not in use and each CRTC it gets, every CRTC can be had too, and none it gets is the eighth
or a later one. -/
def NoGap (assigned : Assigned) (crtcs : List CrtcAnswer) (crtcsNeeded : Nat) : Prop :=
  ∀ i < crtcs.length, usable assigned crtcs i = true →
    (List.range i).countP (usable assigned crtcs) < crtcsNeeded →
    i < firstFree assigned + 7 ∧
      ∀ j < i, firstFree assigned ≤ j → usable assigned crtcs j = true

instance (assigned : Assigned) (crtcs : List CrtcAnswer) (crtcsNeeded : Nat) :
    Decidable (NoGap assigned crtcs crtcsNeeded) :=
  inferInstanceAs (Decidable (∀ i < crtcs.length, _ → _ → _ ∧ ∀ j < i, _))

theorem usable_free {assigned : Assigned} {crtcs : List CrtcAnswer} {i : Nat}
    (h : usable assigned crtcs i = true) : assigned.getLsbD i = false := by
  unfold usable at h
  rw [Bool.and_eq_true, Bool.not_eq_true'] at h
  exact h.1

/-- Without a gap as many CRTCs can be had below `i` as there are from the first free one
on. -/
theorem countP_usable {assigned : Assigned} {crtcs : List CrtcAnswer} {i : Nat} (hi : i ≤ 32)
    (hall : ∀ j < i, firstFree assigned ≤ j → usable assigned crtcs j = true) :
    (List.range i).countP (usable assigned crtcs) = i - firstFree assigned := by
  induction i with
  | zero => simp
  | succ i ih =>
      have hrest := ih (by omega) fun j hj => hall j (by omega)
      rw [List.range_succ, List.countP_append, hrest, List.countP_singleton]
      by_cases hfirst : firstFree assigned ≤ i
      · rw [if_pos (hall i (Nat.lt_succ_self i) hfirst)]
        omega
      · have hnot : ¬ usable assigned crtcs i = true := fun husable =>
          hfirst (firstFree_le (by omega) (usable_free husable))
        rw [if_neg hnot]
        omega

/-- The CRTCs with these numbers follow each other from `first` on and are at most seven. -/
def Consecutive (first : Nat) (ns : List Nat) : Prop :=
  ∀ k n, ns[k]? = some n → n = first + k ∧ k < 7

/-- **The loop over the CRTCs** of a head without a gap.  `done` are the CRTCs it has
seen. -/
theorem initCrtcs_consecutive (assigned : Assigned) (crtcsNeeded : Nat) (crtcs : List CrtcAnswer)
    (hlength : crtcs.length ≤ 32) (hgap : NoGap assigned crtcs crtcsNeeded)
    (rest : List CrtcAnswer) (i : Nat) (hrest : crtcs.drop i = rest) (s : Screen)
    (now : Assigned) (hshared : s.entityShared = true)
    (hnow : ∀ n, i ≤ n → now.getLsbD n = assigned.getLsbD n)
    (hcount : (nums s).length = min ((List.range i).countP (usable assigned crtcs)) crtcsNeeded)
    (hconsecutive : Consecutive (firstFree assigned) (nums s)) :
    Consecutive (firstFree assigned)
      (nums (initCrtcs i rest (crtcsNeeded - (nums s).length) (s, now)).1) := by
  induction rest generalizing i s now with
  | nil => exact hconsecutive
  | cons a rest ih =>
      have hget : crtcs[i]? = some a := by
        have hzero := congrArg (fun l : List CrtcAnswer => l[0]?) hrest
        simpa using hzero
      have hilt : i < crtcs.length := (List.getElem?_eq_some_iff.mp hget).1
      have htail : crtcs.drop (i + 1) = rest := by
        have hone := congrArg (List.drop 1) hrest
        rwa [List.drop_drop] at hone
      have husable : usable assigned crtcs i = (!assigned.getLsbD i && a.initOk) := by
        unfold usable
        rw [hget]
        rfl
      have hsucc : (List.range (i + 1)).countP (usable assigned crtcs) =
          (List.range i).countP (usable assigned crtcs) +
            if usable assigned crtcs i then 1 else 0 := by
        rw [List.range_succ, List.countP_append, List.countP_singleton]
      have hlater : ∀ n, i + 1 ≤ n → now.getLsbD n = assigned.getLsbD n := fun n hn =>
        hnow n (by omega)
      -- a CRTC that is left out does not count, or the head needs none
      have hskip : ((List.range i).countP (usable assigned crtcs) < crtcsNeeded →
            usable assigned crtcs i = false) →
          Consecutive (firstFree assigned)
            (nums (initCrtcs (i + 1) rest (crtcsNeeded - (nums s).length) (s, now)).1) := by
        intro hnot
        apply ih (i + 1) htail s now hshared hlater _ hconsecutive
        rw [hsucc, hcount]
        by_cases hneeded : (List.range i).countP (usable assigned crtcs) < crtcsNeeded
        · rw [hnot hneeded]
          rfl
        · omega
      simp only [initCrtcs, hshared, Bool.not_true, Bool.false_or]
      split
      · next htake =>
          rw [Bool.and_eq_true, Bool.not_eq_true', hnow i (Nat.le_refl i)] at htake
          have hneeded : (List.range i).countP (usable assigned crtcs) < crtcsNeeded := by
            have hpos := of_decide_eq_true htake.1
            omega
          simp only [drmmodeCrtcInit]
          cases hok : a.initOk with
          | false =>
              apply hskip
              intro _
              rw [husable, hok, Bool.and_false]
          | true =>
              have hthis : usable assigned crtcs i = true := by
                rw [husable, htake.2, hok]
                rfl
              obtain ⟨hseven, hall⟩ := hgap i hilt hthis hneeded
              have hfirst := firstFree_le (by omega) htake.2
              have hbelow := countP_usable (by omega) hall
              have hlen : (nums s).length = i - firstFree assigned := by omega
              have hnums : nums { s with crtcs := s.crtcs ++ [{ a.crtc with num := i }] } =
                  nums s ++ [i] := List.map_append
              have hnext := ih (i + 1) htail
                { s with crtcs := s.crtcs ++ [{ a.crtc with num := i }] } (markCrtcInUse now i)
                hshared
              rw [hnums, List.length_append, List.length_singleton, ← Nat.sub_sub] at hnext
              apply hnext
              · intro n hn
                have hne : n ≠ i := by omega
                rw [getLsbD_markCrtcInUse, hlater n hn, decide_eq_false hne, Bool.and_false,
                  Bool.or_false]
              · rw [hsucc, hthis, if_pos rfl]
                omega
              · intro k n hk
                by_cases hlast : k < (nums s).length
                · rw [List.getElem?_append_left hlast] at hk
                  exact hconsecutive k n hk
                · rw [List.getElem?_append_right (Nat.le_of_not_lt hlast)] at hk
                  obtain ⟨hzero, hn⟩ := List.getElem?_eq_some_iff.mp hk
                  rw [List.length_singleton] at hzero
                  have hn' : i = n := by simpa using hn
                  exact ⟨by omega, by omega⟩
      · next hleave =>
          apply hskip
          intro hneeded
          have hbit : assigned.getLsbD i = true := by
            by_contra hfree
            apply hleave
            rw [Bool.and_eq_true, Bool.not_eq_true', hnow i (Nat.le_refl i)]
            exact ⟨decide_eq_true (by omega), Bool.eq_false_iff.mpr hfree⟩
          rw [husable, hbit]
          rfl

/-! ## The outputs of a head -/

/-- The masks of a screen's outputs, for CRTCs that begin at `crtcshift`. -/
def MasksShifted (crtcshift : Nat) (s : Screen) : Prop :=
  ∀ output ∈ s.outputs, output.possibleCrtcs = possibleCrtcs output.modeEncoders crtcshift

/-- A connector that is there when the server starts gets an output of its own. -/
theorem outputInit_static (s : Screen) (id : BitVec 32) (num : Nat) (a : ConnectorAnswer)
    (crtcshift : Nat) (h : MasksShifted crtcshift s) :
    let t := (drmmodeOutputInit s id num a false crtcshift).1
    MasksShifted crtcshift t ∧ t.crtcs = s.crtcs ∧ t.entityShared = s.entityShared := by
  simp only [drmmodeOutputInit, Bool.and_false, Bool.false_eq_true, if_false]
  split
  · exact ⟨h, rfl, rfl⟩
  · split
    · exact ⟨h, rfl, rfl⟩
    · split
      · exact ⟨h, rfl, rfl⟩
      · split
        · exact ⟨h, rfl, rfl⟩
        · refine ⟨fun output hin => ?_, rfl, rfl⟩
          cases List.mem_append.mp hin with
          | inl hold => exact h output hold
          | inr hnew =>
              rw [List.mem_singleton.mp hnew]

theorem initOutputs_static (crtcshift : Nat) (connectors : List (BitVec 32 × ConnectorAnswer))
    (num : Nat) (s : Screen) (crtcsNeeded : Nat) (h : MasksShifted crtcshift s) :
    let t := (initOutputs crtcshift num connectors (s, crtcsNeeded)).1
    MasksShifted crtcshift t ∧ t.crtcs = s.crtcs ∧ t.entityShared = s.entityShared := by
  induction connectors generalizing num s crtcsNeeded with
  | nil => exact ⟨h, rfl, rfl⟩
  | cons c rest ih =>
      obtain ⟨id, a⟩ := c
      obtain ⟨hmasks, hcrtcs, hshared⟩ := outputInit_static s id num a crtcshift h
      obtain ⟨hmasks', hcrtcs', hshared'⟩ :=
        ih (num + 1) _ (crtcsNeeded + (drmmodeOutputInit s id num a false crtcshift).2) hmasks
      exact ⟨hmasks', hcrtcs'.trans hcrtcs, hshared'.trans hshared⟩

/-! ## Heads one after the other -/

/-- A head: what its screen is set up with, and what the kernel answers it. -/
structure Head where
  options : Options
  res : Resources

/-- The screen of a head, on the entity that the heads share. -/
def Head.screen (h : Head) : Screen := .empty { h.options with entityShared := true }

/-- The number of connectors a head takes. -/
def Head.crtcsNeeded (h : Head) (assigned : Assigned) : Nat :=
  (initOutputs (firstFree assigned) 0 h.res.connectors (h.screen, 0)).2

/-- The device: `assigned_crtcs` and the screens of the heads so far. -/
structure Device where
  assigned : Assigned
  heads : List Screen

def headStep (d : Device) (h : Head) : Device :=
  let (s, assigned) := drmmodePreInit h.screen d.assigned h.res
  ⟨assigned, d.heads ++ [s]⟩

/-- The masks of a screen's outputs say what their encoders can drive. -/
def MasksExact (s : Screen) : Prop :=
  ∀ output ∈ s.outputs, ∀ k crtc, s.crtcs[k]? = some crtc →
    (output.possibleCrtcs.getLsbD k = true ↔
      ∃ possible ∈ output.modeEncoders, possible.getLsbD crtc.num = true)

/-- No kernel CRTC is claimed twice. -/
def ClaimedOnce (d : Device) : Prop := (d.heads.flatMap nums).Nodup

/-- **The property.** No kernel CRTC is claimed twice, and the masks are exact. -/
structure HeadsExact (d : Device) : Prop where
  claimedOnce : ClaimedOnce d
  masks : ∀ s ∈ d.heads, MasksExact s

/-- The kernel lists at most 32 CRTCs. -/
def Listed (h : Head) : Prop := h.res.crtcs.length ≤ 32

instance (h : Head) : Decidable (Listed h) := inferInstanceAs (Decidable (_ ≤ _))

/-- The CRTCs of the head follow each other. -/
def HeadFits (d : Device) (h : Head) : Prop :=
  NoGap d.assigned h.res.crtcs (h.crtcsNeeded d.assigned)

instance (d : Device) (h : Head) : Decidable (HeadFits d h) :=
  inferInstanceAs (Decidable (NoGap _ _ _))

/-- The screen of a head when its outputs are made. -/
def Head.withOutputs (h : Head) (assigned : Assigned) : Screen :=
  (initOutputs (firstFree assigned) 0 h.res.connectors (h.screen, 0)).1

/-- The screen with its CRTCs, and what is in use then. -/
def Head.withCrtcs (h : Head) (assigned : Assigned) : Screen × Assigned :=
  initCrtcs 0 h.res.crtcs (h.crtcsNeeded assigned) (h.withOutputs assigned, assigned)

theorem headStep_eq (d : Device) (h : Head) :
    headStep d h = ⟨(h.withCrtcs d.assigned).2, d.heads ++ [(h.withCrtcs d.assigned).1]⟩ := rfl

theorem Head.withOutputs_static (h : Head) (assigned : Assigned) :
    MasksShifted (firstFree assigned) (h.withOutputs assigned) ∧
      nums (h.withOutputs assigned) = [] ∧ (h.withOutputs assigned).entityShared = true := by
  have hempty : MasksShifted (firstFree assigned) h.screen := fun output hin => by cases hin
  obtain ⟨hmasks, hcrtcs, hshared⟩ :=
    initOutputs_static (firstFree assigned) h.res.connectors 0 h.screen 0 hempty
  exact ⟨hmasks, congrArg (List.map Crtc.num) hcrtcs, hshared⟩

/-- A head claims CRTCs that are free, each of them once, and marks them. -/
theorem Head.withCrtcs_claims (h : Head) (assigned : Assigned) (hlisted : Listed h) :
    let t := h.withCrtcs assigned
    t.1.outputs = (h.withOutputs assigned).outputs ∧
      (∀ n, assigned.getLsbD n = true → t.2.getLsbD n = true) ∧ (nums t.1).Nodup ∧
      ∀ n ∈ nums t.1, assigned.getLsbD n = false ∧ t.2.getLsbD n = true := by
  obtain ⟨-, hnone, hshared⟩ := h.withOutputs_static assigned
  have hend : 0 + h.res.crtcs.length ≤ 32 := (Nat.zero_add _).le.trans hlisted
  obtain ⟨houtputs, hkept, new, hnew, hsorted, hfree⟩ :=
    initCrtcs_claims 0 h.res.crtcs (h.crtcsNeeded assigned) (h.withOutputs assigned) assigned
      hend hshared
  rw [hnone, List.nil_append] at hnew
  refine ⟨houtputs, hkept, ?_, fun n hn => (hfree n (hnew ▸ hn)).2⟩
  show (nums (initCrtcs _ _ _ _).1).Nodup
  rw [hnew]
  exact hsorted.imp fun hlt => Nat.ne_of_lt hlt

/-- The CRTCs of a head without a gap stand at their places from the first free one on. -/
theorem Head.withCrtcs_consecutive (h : Head) (assigned : Assigned) (hlisted : Listed h)
    (hgap : NoGap assigned h.res.crtcs (h.crtcsNeeded assigned)) :
    Consecutive (firstFree assigned) (nums (h.withCrtcs assigned).1) := by
  obtain ⟨-, hnone, hshared⟩ := h.withOutputs_static assigned
  have hconsecutive := initCrtcs_consecutive assigned (h.crtcsNeeded assigned) h.res.crtcs
    hlisted hgap h.res.crtcs 0 rfl (h.withOutputs assigned) assigned hshared (fun n _ => rfl)
    (by rw [hnone]; simp) (by rw [hnone]; exact fun k n hk => by cases hk)
  rwa [hnone, List.length_nil, Nat.sub_zero] at hconsecutive

/-- Every claimed CRTC is marked. -/
structure HeadsInv (d : Device) : Prop where
  claimedOnce : ClaimedOnce d
  marked : ∀ n ∈ d.heads.flatMap nums, d.assigned.getLsbD n = true

/-- **One head** claims no CRTC of another. -/
theorem headStep_inv (d : Device) (h : Head) (hinv : HeadsInv d) (hlisted : Listed h) :
    HeadsInv (headStep d h) := by
  obtain ⟨-, hkept, honce, hfree⟩ := h.withCrtcs_claims d.assigned hlisted
  have hflat : (headStep d h).heads.flatMap nums =
      d.heads.flatMap nums ++ nums (h.withCrtcs d.assigned).1 := by
    rw [headStep_eq, List.flatMap_append, List.flatMap_singleton]
  constructor
  · rw [ClaimedOnce, hflat, List.nodup_append]
    refine ⟨hinv.claimedOnce, honce, ?_⟩
    intro n hold m hm heq
    have hmarked := hinv.marked n hold
    rw [heq, (hfree m hm).1] at hmarked
    cases hmarked
  · rw [hflat]
    intro n hn
    cases List.mem_append.mp hn with
    | inl hold => exact hkept n (hinv.marked n hold)
    | inr hin => exact (hfree n hin).2

/-- The masks of a head whose CRTCs follow each other. -/
theorem headStep_masks (d : Device) (h : Head) (hmasks : ∀ s ∈ d.heads, MasksExact s)
    (hlisted : Listed h) (hfits : HeadFits d h) :
    ∀ s ∈ (headStep d h).heads, MasksExact s := by
  rw [headStep_eq]
  intro head hin
  cases List.mem_append.mp hin with
  | inl hold => exact hmasks head hold
  | inr hlast =>
      rw [List.mem_singleton.mp hlast]
      intro output houtput k crtc hk
      have hk' : (nums (h.withCrtcs d.assigned).1)[k]? = some crtc.num := by
        unfold nums
        rw [List.getElem?_map, hk]
        rfl
      obtain ⟨hnum, hseven⟩ := h.withCrtcs_consecutive d.assigned hlisted hfits k crtc.num hk'
      have hshifted := (h.withOutputs_static d.assigned).1 output
        ((h.withCrtcs_claims d.assigned hlisted).1 ▸ houtput)
      rw [hshifted, getLsbD_possibleCrtcs, ← hnum]
      exact ⟨fun hmask => hmask.2, fun hcan => ⟨hseven, hcan⟩⟩

/-- **Heads on one device.** No kernel CRTC is ever claimed twice, after any number of heads.
When the CRTCs of each follow each other and are at most seven, all masks are exact too. -/
theorem heads_exact (heads : List Head) (hlisted : ∀ h ∈ heads, Listed h) :
    Always headStep ClaimedOnce ⟨0#32, []⟩ heads ∧
      (Guarded headStep HeadFits ⟨0#32, []⟩ heads →
        Always headStep HeadsExact ⟨0#32, []⟩ heads) := by
  have hguarded : Guarded headStep (fun _ h => Listed h) ⟨0#32, []⟩ heads :=
    guarded_of_forall hlisted _
  have hstart : HeadsInv ⟨0#32, []⟩ := ⟨List.nodup_nil, fun n hn => by cases hn⟩
  have hclaimed : Always headStep HeadsInv ⟨0#32, []⟩ heads :=
    hguarded.always headStep_inv hstart
  refine ⟨hclaimed.mono fun d hinv => hinv.claimedOnce, fun hfits => ?_⟩
  have hmasks : Always headStep (fun d => ∀ s ∈ d.heads, MasksExact s) ⟨0#32, []⟩ heads :=
    (hguarded.and hfits).always (fun d h hexact hok => headStep_masks d h hexact hok.1 hok.2)
      fun s hin => by cases hin
  exact (hclaimed.and hmasks).mono fun d h => ⟨h.1.claimedOnce, h.2⟩

/-- Two connectors, each driven by the CRTC of its number, on a device with two CRTCs. -/
def twoHeads (firstOk : Bool) : Resources where
  connectors :=
    [(30#32, ⟨some ⟨1, 1, none, false, [1#32]⟩, true, true, 20⟩),
      (31#32, ⟨some ⟨1, 2, none, false, [2#32]⟩, true, true, 20⟩)]
  crtcs :=
    [⟨⟨0, 42#32, 52#32, 21, 22, [], false, by decide, by decide⟩, firstOk⟩,
      ⟨⟨0, 43#32, 53#32, 21, 22, [], false, by decide, by decide⟩, true⟩]
  connectors_ne := by decide

/-- Two heads with a connector and a CRTC each. -/
theorem heads_exact_two :
    Always headStep HeadsExact ⟨0#32, []⟩
      [⟨⟨false, 0, true, none, false, true⟩, twoHeads true⟩,
        ⟨⟨false, 1, true, none, true, true⟩, twoHeads true⟩] :=
  (heads_exact _ (by decide)).2 (by decide)

/-- **A CRTC that cannot be set up.** The head takes the second CRTC.  The mask of its output
says that the encoder can drive it, which can drive only the first. -/
theorem failed_crtc_shifts_masks :
    let d := headStep ⟨0#32, []⟩ ⟨⟨false, 0, true, none, false, true⟩, twoHeads false⟩
    d.heads.map nums = [[1]] ∧
      d.heads.map (fun s => s.outputs.map fun output =>
        (output.possibleCrtcs, output.modeEncoders)) = [[(1#32, [1#32])]] ∧
      ¬ HeadsExact d := by
  intro d
  refine ⟨by decide, by decide, fun h => ?_⟩
  have hmasks : MasksExact ((headStep ⟨0#32, []⟩
      ⟨⟨false, 0, true, none, false, true⟩, twoHeads false⟩).heads.head (by decide)) :=
    h.masks _ (List.head_mem _)
  obtain ⟨possible, hin, hbit⟩ :=
    (hmasks _ (List.mem_of_mem_head? rfl) 0 _ rfl).mp (by decide)
  have heq : possible = 1#32 := List.mem_singleton.mp hin
  subst heq
  exact absurd hbit (by decide)

end LoongsonVideo.Driver.Outputs
