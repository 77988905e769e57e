import LoongsonVideo.Driver.Dri2References

/-!
# What a DRI2 swap shows

* `names_current_iff`: when each buffer has the name of its pixmap's buffer object.
* `swap_shows_back`: a flip and a copy show the same thing, the back buffer.
-/

namespace LoongsonVideo.Driver.Dri2Buffers

open LoongsonVideo.Verified
open LoongsonVideo.Verified.Ledger
open LoongsonVideo.Verified.Machine

variable {V : Type*} {s s' : Dri2State V}

/-! ## Names -/

/-- The name that a client has of a buffer is that of the buffer object behind it. -/
def Current (s : Dri2State V) : Prop :=
  ∀ b d, Shared.get? s.buffers b = some d → d.name = (s.pixmap d.pixmap).bo

/-- No other buffer has the pixmap whose buffer object a flip gives away. -/
def Alone (s : Dri2State V) : Dri2Act V → Prop
  | .frameEvent queueFlip draw front back env scheduled _ =>
      SwapPromised s draw front back env → queueFlip = true → scheduled = true →
        (canFlip s draw front back env).2 = true →
          ∀ b d, Shared.get? s.buffers b = some d → b ≠ front → d.pixmap ≠ draw.pixmap
  | _ => True

theorem find_of_get {b : Nat} {d : Dri2Buffer} (hget : Shared.get? s.buffers b = some d) :
    ∃ o, s.buffers.find? b = some o ∧ o.value = d :=
  Option.map_eq_some_iff.mp hget

theorem pixmap_mem {b : Nat} {d : Dri2Buffer} (hget : Shared.get? s.buffers b = some d) :
    d.pixmap ∈ s.holders := by
  obtain ⟨o, hfind, rfl⟩ := find_of_get hget
  exact mem_holders hfind

/-- Buffers that are still there, with the pixmaps they had. -/
theorem Current.mono (hcurrent : Current s) (hinv : Inv s')
    (hbuffers : ∀ b d, Shared.get? s'.buffers b = some d → Shared.get? s.buffers b = some d)
    (hpixmaps : ∀ p ∈ s.holders, ∀ d, Shared.get? s'.pixmaps p = some d →
      Shared.get? s.pixmaps p = some d) : Current s' := by
  intro b d hget
  have hold := hbuffers b d hget
  obtain ⟨e, he⟩ := hinv.pixmaps.get (pixmap_mem hget)
  rw [hcurrent b d hold, pixmap_eq he, pixmap_eq (hpixmaps _ (pixmap_mem hold) e he)]

theorem Current.createBuffer (hcurrent : Current s) (h : Inv s) (screen : Nat) {draw : Drawable}
    (hdraw : draw.pixmap ∈ s.held) (attachment format : Nat) (answer : CreateAnswer) :
    Current (msDri2CreateBuffer2 s screen draw attachment format answer).1 := by
  have hinv := h.createBuffer screen hdraw attachment format answer
  unfold msDri2CreateBuffer2 at hinv ⊢
  cases hbuffer : answer.bufferOk with
  | false => exact hcurrent
  | true =>
      cases hpriv : answer.privateOk with
      | false => exact hcurrent
      | true =>
          rcases h.bufferPixmap screen hdraw attachment format answer with
            hnone | ⟨pixmaps, nextBo, boSize, p, hsome, htaken, hold⟩
          · rw [hnone]
            exact hcurrent
          · rw [hsome, hbuffer, hpriv] at hinv
            rw [hsome]
            cases hpitch : answer.pitch with
            | none =>
                rw [hpitch] at hinv
                refine hcurrent.mono hinv (fun b d hget => ?_) fun q hq d hget => ?_
                · change Shared.get? (Dri2State.use _ p).buffers b = some d at hget
                  rw [use_buffers] at hget
                  exact hget
                · exact (hold q hq).symm.trans (Shared.get?_unref_of_some hget)
            | some pitch =>
                intro b d hget
                by_cases hb : b = s.buffers.next
                · subst hb
                  have hnew := Option.some.inj ((Shared.get?_new_self s.buffers _).symm.trans hget)
                  rw [← hnew]
                  rfl
                · have hget' := (Shared.get?_new_ne hb).symm.trans hget
                  obtain ⟨e, he⟩ := h.pixmaps.get (pixmap_mem hget')
                  rw [hcurrent b d hget', pixmap_eq he]
                  exact congrArg Pixmap.bo (pixmap_eq ((hold _ (pixmap_mem hget')).trans he)).symm

/-! ## Swaps -/

theorem Current.updated (hcurrent : Current s) {draw : Drawable} {front : Nat}
    (hupdated : Updated s s' draw front) : Current s' := by
  have hpixmap : ∀ p ∈ s'.holders, s'.pixmap p = s.pixmap p := by
    intro p hp
    obtain ⟨d, hd⟩ := hupdated.inv.pixmaps.get hp
    rw [pixmap_eq hd, pixmap_eq (hupdated.pixmap p d hd)]
  intro b d hget
  rw [hpixmap _ (pixmap_mem hget)]
  by_cases hb : b = front
  · subst hb
    obtain ⟨o, hfind, rfl⟩ := find_of_get hget
    have hfresh := (buffer_eq hfind).symm.trans hupdated.front
    rw [hfresh]
    rfl
  · refine hcurrent b d ?_
    rw [← hget, Shared.get?, Shared.get?, hupdated.others b hb]

/-- An exchange keeps the names right exactly when no third buffer has the front pixmap. -/
theorem Exchanged.current_iff {front back : Nat} (hexchanged : Exchanged s s' front back)
    (h : Inv s) (hcurrent : Current s) (hfront : front ∈ s.refs) (hback : back ∈ s.refs)
    (hne : back ≠ front) (hown : (s.buffer back).attachment ≠ dri2BufferFrontLeft) :
    Current s' ↔ ∀ b d, Shared.get? s.buffers b = some d → b ≠ front → b ≠ back →
      d.pixmap ≠ (s.buffer front).pixmap := by
  obtain ⟨df, hdf⟩ := h.buffers.get hfront
  obtain ⟨db, hdb⟩ := h.buffers.get hback
  have hbuffer : ∀ {b d}, Shared.get? s.buffers b = some d → s.buffer b = d := by
    intro b d hget
    rw [Dri2State.buffer, hget]
    rfl
  rw [hbuffer hdf]
  rw [hbuffer hdb] at hown
  -- The back buffer's pixmap is its own.
  have hback' : ∀ b d, Shared.get? s.buffers b = some d → b ≠ back → d.pixmap ≠ db.pixmap := by
    intro b d hget hb
    obtain ⟨o, hfind, rfl⟩ := find_of_get hget
    obtain ⟨ob, hfindb, rfl⟩ := find_of_get hdb
    exact h.own_ne hfindb hown hfind hb
  have hpq : df.pixmap ≠ db.pixmap := hback' front df hdf hne.symm
  have hbo := hexchanged.bo
  have hget := hexchanged.buffers
  rw [hbuffer hdf, hbuffer hdb] at hbo hget
  have hdistinct : (s.pixmap db.pixmap).bo ≠ (s.pixmap df.pixmap).bo := by
    obtain ⟨e, he⟩ := h.pixmaps.get (pixmap_mem hdf)
    obtain ⟨e', he'⟩ := h.pixmaps.get (pixmap_mem hdb)
    rw [pixmap_eq he, pixmap_eq he']
    exact fun heq => hpq (h.distinct _ _ _ _ he' he heq).symm
  constructor
  · intro hcurrent' b d hb hbf hbb hsame
    have hb' : Shared.get? s'.buffers b = some d := by
      rw [hget, hb]
      exact congrArg some ((if_neg hbb).trans (if_neg hbf))
    have hname := hcurrent' b d hb'
    rw [hcurrent b d hb, hbo _ (pixmap_mem hb), hsame, Equiv.swap_apply_left] at hname
    exact hdistinct hname.symm
  · intro halone b d hb
    rw [hget] at hb
    obtain ⟨d', hd', rfl⟩ := Option.map_eq_some_iff.mp hb
    by_cases hbb : b = back
    · subst hbb
      rw [hdb] at hd'
      cases hd'
      have hnamed : named front b df.name db.name b db = { db with name := df.name } := if_pos rfl
      rw [hnamed, hbo _ (pixmap_mem hdb), Equiv.swap_apply_right]
      exact hcurrent front df hdf
    · by_cases hbf : b = front
      · subst hbf
        rw [hdf] at hd'
        cases hd'
        have hnamed : named b back df.name db.name b df = { df with name := db.name } :=
          (if_neg hbb).trans (if_pos rfl)
        rw [hnamed, hbo _ (pixmap_mem hdf), Equiv.swap_apply_left]
        exact hcurrent back db hdb
      · have hnamed : named front back df.name db.name b d' = d' :=
          (if_neg hbb).trans (if_neg hbf)
        rw [hnamed, hbo _ (pixmap_mem hd'),
          Equiv.swap_apply_of_ne_of_ne (halone b d' hd' hbf hbb) (hback' b d' hd' hbb)]
        exact hcurrent b d' hd'

theorem Current.frameEvent_iff (hcurrent : Current s) (h : Inv s) {draw : Drawable}
    {front back : Nat} {env : FlipConditions} (hswap : SwapPromised s draw front back env)
    (queueFlip scheduled gcOk : Bool) :
    Current (completeSwap s queueFlip draw front back env scheduled gcOk) ↔
      Alone s (.frameEvent queueFlip draw front back env scheduled gcOk) := by
  rcases h.frameEvent hswap.toSwapping env queueFlip scheduled gcOk with
    ⟨t, rfl, rfl, hcan, hflip, heq, hexchanged⟩ | ⟨t, hsame, hno, heq⟩
  · have hswap' := hswap.updated hflip.updated
    have hown : (t.buffer back).attachment ≠ dri2BufferFrontLeft := by
      rw [hswap'.backLeft]
      decide
    rw [heq, hexchanged.current_iff hflip.updated.inv (hcurrent.updated hflip.updated)
      hswap'.frontHeld hswap'.backHeld hswap.ne hown, hflip.updated.front]
    have hothers : ∀ b, b ≠ front → Shared.get? t.buffers b = Shared.get? s.buffers b := by
      intro b hb
      rw [Shared.get?, Shared.get?, hflip.updated.others b hb]
    constructor
    · intro halone _ _ _ _ b d hget hb
      by_cases hbb : b = back
      · subst hbb
        obtain ⟨o, hfind, rfl⟩ := find_of_get hget
        have hleft := hswap.backLeft
        rw [buffer_eq hfind] at hleft
        exact h.own_notMem hfind (by rw [hleft]; decide) hswap.drawHeld
      · exact halone b d ((hothers b hb).trans hget) hb hbb
    · intro halone b d hget hb _
      refine halone hswap rfl rfl ?_ b d ((hothers b hb).symm.trans hget) hb
      rw [hcan]
  · have hblit : Current (msDri2BlitSwap t draw front back gcOk) := by
      rcases hsame with rfl | hupdated
      · obtain ⟨cells, hcells⟩ := h.blitSwap hswap.drawHeld hswap.frontHeld hswap.backHeld gcOk
        rw [hcells]
        exact hcurrent
      · have hswap' := hswap.updated hupdated
        obtain ⟨cells, hcells⟩ :=
          hupdated.inv.blitSwap hswap'.drawHeld hswap'.frontHeld hswap'.backHeld gcOk
        have hupdated' : Current t := hcurrent.updated hupdated
        rw [hcells]
        exact hupdated'
    rw [heq]
    refine iff_of_true hblit fun _ hqueue hscheduled hcan => ?_
    rw [hqueue, hscheduled, hcan] at hno
    cases hno

theorem Current.perform_iff (hcurrent : Current s) (h : Inv s) {act : Dri2Act V}
    (hact : Promised s act) : Current (perform s act) ↔ Alone s act := by
  have hnext := h.perform hact
  cases act with
  | createPixmap screen depth size =>
      refine iff_of_true (hcurrent.mono hnext (fun _ _ hget => hget) fun p hp d hget => ?_) trivial
      exact (Shared.get?_new_ne (h.next_ne hp)).symm.trans hget
  | holdPixmap p =>
      refine iff_of_true (hcurrent.mono hnext (fun b d hget => ?_) fun q _ d hget => ?_) trivial
      · change Shared.get? (Dri2State.use s p).buffers b = some d at hget
        rw [use_buffers] at hget
        exact hget
      · exact (Shared.get?_ref s.pixmaps p q).symm.trans hget
  | dropPixmap p =>
      refine iff_of_true (hcurrent.mono hnext (fun b d hget => ?_) fun q _ d hget => ?_) trivial
      · change Shared.get? (Dri2State.use s p).buffers b = some d at hget
        rw [use_buffers] at hget
        exact hget
      · exact Shared.get?_unref_of_some hget
  | createBuffer screen draw attachment format answer =>
      exact iff_of_true (hcurrent.createBuffer h screen hact attachment format answer) trivial
  | referenceBuffer b =>
      refine iff_of_true (hcurrent.mono hnext (fun j d hget => ?_) fun _ _ d hget => ?_) trivial
      · exact (Shared.get?_ref s.buffers b j).symm.trans hget
      · change Shared.get? (s.useBuffer b).pixmaps _ = some d at hget
        rw [h.useBuffer hact] at hget
        exact hget
  | destroyBuffer b =>
      refine iff_of_true (hcurrent.mono hnext (fun j d hget => ?_) fun q _ d hget => ?_) trivial
      · exact get_destroyBuffer_buffers hget
      · exact get_destroyBuffer_pixmaps hget
  | checkFlip draw front back env =>
      refine iff_of_true ?_ trivial
      show Current (canFlip s draw front back env).1
      have hswap : SwapPromised s draw front back env := hact
      rcases h.canFlip hswap.toSwapping env with ⟨t, hcan, hflip⟩ | ⟨t, hcannot, rfl | hupdated⟩
      · rw [hcan]
        exact hcurrent.updated hflip.updated
      · rw [hcannot]
        exact hcurrent
      · rw [hcannot]
        exact hcurrent.updated hupdated
  | frameEvent queueFlip draw front back env scheduled gcOk =>
      exact hcurrent.frameEvent_iff h hact queueFlip scheduled gcOk
  | copyRegion screen draw region dest source prime gcOk =>
      obtain ⟨hdraw, hdest, hsource, hprime⟩ := hact
      obtain ⟨cells, hcells⟩ := h.copyRegion screen hdraw region hdest hsource prime hprime gcOk
      refine iff_of_true ?_ trivial
      show Current (msDri2CopyRegion2 s screen draw region dest source prime gcOk)
      rw [hcells]
      exact hcurrent
  | render bo cells => exact iff_of_true hcurrent trivial

/-- **Each buffer has the name of its pixmap's buffer object exactly as long as no flip exchanges
the front pixmap of a window whose pixmap another buffer has too.** -/
theorem names_current_iff (cells : Nat → Int × Int → V) (acts : List (Dri2Act V)) :
    Always step Current (.start cells) acts ↔ Guarded step Alone (.start cells) acts := by
  refine always_iff_guarded (I := Inv) (fun _ act h => h.next act) (fun s act h hcurrent => ?_)
    (inv_start cells) (fun _ _ hget => nomatch hget) acts
  unfold step
  by_cases hact : Promised s act
  · rw [if_pos hact]
    exact hcurrent.perform_iff h hact
  · rw [if_neg hact]
    refine iff_of_true hcurrent ?_
    cases act with
    | frameEvent _ _ _ _ _ _ _ => exact fun hswap => absurd hswap hact
    | _ => trivial

/-! ## What a swap shows -/

/-- The pixels of a pixmap. -/
def Dri2State.shown (s : Dri2State V) (p : Nat) : Int × Int → V := s.cells (s.pixmap p).bo

/-- The visible pixels of the drawable become those of the back buffer, as far as there are any,
and no third pixmap changes. -/
structure SwapShows (s s' : Dri2State V) (draw : Drawable) (front back : Nat) : Prop where
  window : ∀ pos, draw.target.inside pos = true → draw.visible pos = true →
    (s.pixmapTarget (s.buffer back).pixmap).inside pos = true →
      s'.shown draw.pixmap (draw.target.cell pos) = s.shown (s.buffer back).pixmap pos
  held : ∀ p ∈ s.held, p ≠ draw.pixmap → s'.shown p = s.shown p
  buffers : ∀ b ∈ s.refs, b ≠ front → b ≠ back → (s.buffer b).pixmap ≠ draw.pixmap →
    s'.shown (s'.buffer b).pixmap = s.shown (s.buffer b).pixmap

/-- The pixels after a copy of the back buffer. -/
def blitted (s : Dri2State V) (draw : Drawable) (back : Nat) : Nat → Int × Int → V :=
  copied s (s.pixmapTarget (s.buffer back).pixmap) draw.target
    (fun pos => draw.target.inside (pos.1 - 0, pos.2 - 0)) draw.width draw.height 0 0

theorem Inv.blitSwap_eq (h : Inv s) {draw : Drawable} {front back : Nat}
    (hswap : Swapping s draw front back) :
    msDri2BlitSwap s draw front back true = { s with cells := blitted s draw back } := by
  have hback : ¬ (s.buffer back).attachment = dri2BufferFrontLeft := by
    rw [hswap.backLeft]
    decide
  have hdraw : draw.target.pixmap ∈ s.holders := mem_holders_of_held hswap.drawHeld
  unfold msDri2BlitSwap msDri2CopyRegion msDri2CopyRegion2
  rw [h.useBuffer hswap.backHeld, h.useBuffer hswap.frontHeld]
  simp only [hback, hswap.frontLeft, ne_eq, not_true, and_false, if_true, if_false, Bool.not_true,
    Bool.false_eq_true]
  exact h.copyArea (h.buffer_mem hswap.backHeld) hdraw _ _ _ _ _

/-- The pixels inside a drawable. -/
theorem Target.inside_iff (t : Target) (pos : Int × Int) :
    t.inside pos = true ↔ (0 ≤ pos.1 ∧ pos.1 < t.width) ∧ 0 ≤ pos.2 ∧ pos.2 < t.height := by
  simp only [Target.inside, Bool.and_eq_true, decide_eq_true_eq, and_assoc]

section Copies

variable {src dst : Target} {clip : Int × Int → Bool} {width height offX offY : Int}

theorem copied_of_ne {bo : Nat} (h : Inv s) (hsrc : src.pixmap ∈ s.holders)
    (hdst : dst.pixmap ∈ s.holders) (hne : bo ≠ (s.pixmap dst.pixmap).bo) :
    copied s src dst clip width height offX offY bo = s.cells bo := by
  rw [copied, copyArea, h.use hsrc, h.use hdst]
  exact Function.update_of_ne hne _ _

theorem copied_inside (h : Inv s) (hsrc : src.pixmap ∈ s.holders) (hdst : dst.pixmap ∈ s.holders)
    {pos : Int × Int} (hinside : dst.inside pos = true) (hwidth : pos.1 < width)
    (hheight : pos.2 < height) (hvisible : dst.visible pos = true) (hclip : clip pos = true)
    (hfrom : src.inside pos = true) :
    copied s src dst clip width height 0 0 (s.pixmap dst.pixmap).bo (dst.cell pos) =
      s.cells (s.pixmap src.pixmap).bo (src.cell pos) := by
  have hx : dst.originX + pos.1 - dst.originX = pos.1 := by omega
  have hy : dst.originY + pos.2 - dst.originY = pos.2 := by omega
  obtain ⟨⟨hleft, -⟩, htop, -⟩ := (Target.inside_iff _ _).mp hinside
  rw [copied, copyArea, h.use hsrc, h.use hdst]
  simp only [Function.update_self, Target.cell, hx, hy, Int.sub_zero]
  refine if_pos ?_
  simp only [hleft, htop, hwidth, hheight, hinside, hvisible, hclip, hfrom, decide_true,
    Bool.and_self]

end Copies

theorem Swapping.back_ne {draw : Drawable} {front back : Nat} (h : Inv s)
    (hswap : Swapping s draw front back) :
    (s.buffer back).pixmap ≠ draw.pixmap ∧
      ∀ b ∈ s.refs, b ≠ back → (s.buffer b).pixmap ≠ (s.buffer back).pixmap := by
  obtain ⟨o, hfind⟩ := h.buffers.find hswap.backHeld
  have hown : o.value.attachment ≠ dri2BufferFrontLeft := by
    rw [← buffer_eq hfind, hswap.backLeft]
    decide
  rw [buffer_eq hfind]
  refine ⟨h.own_notMem hfind hown hswap.drawHeld, fun b hb hne => ?_⟩
  obtain ⟨o', hfind'⟩ := h.buffers.find hb
  rw [buffer_eq hfind']
  exact h.own_ne hfind hown hfind' hne

/-- Two pixmaps have two buffer objects. -/
theorem Inv.bo_ne (h : Inv s) {p q : Nat} (hp : p ∈ s.holders) (hq : q ∈ s.holders)
    (hne : p ≠ q) : (s.pixmap p).bo ≠ (s.pixmap q).bo := by
  obtain ⟨d, hd⟩ := h.pixmaps.get hp
  obtain ⟨e, he⟩ := h.pixmaps.get hq
  rw [pixmap_eq hd, pixmap_eq he]
  exact fun hbo => hne (h.distinct p q d e hd he hbo)

/-- A copy shows the back buffer. -/
theorem Inv.blit_shows (h : Inv s) {draw : Drawable} {front back : Nat}
    (hswap : Swapping s draw front back) :
    SwapShows s (msDri2BlitSwap s draw front back true) draw front back := by
  have hback : (s.pixmapTarget (s.buffer back).pixmap).pixmap ∈ s.holders :=
    h.buffer_mem hswap.backHeld
  have hdraw : draw.target.pixmap ∈ s.holders := mem_holders_of_held hswap.drawHeld
  have hframe : ∀ {p}, p ∈ s.holders → p ≠ draw.pixmap →
      blitted s draw back (s.pixmap p).bo = s.cells (s.pixmap p).bo := fun hp hne =>
    copied_of_ne h hback hdraw (h.bo_ne hp hdraw hne)
  rw [h.blitSwap_eq hswap]
  refine ⟨fun pos hinside hvisible hfrom => ?_, fun p hp hne => ?_, fun b hb _ _ hne => ?_⟩
  · obtain ⟨hx, hy⟩ := (Target.inside_iff _ _).mp hinside
    have hclip : draw.target.inside (pos.1 - 0, pos.2 - 0) = true := by
      rw [Int.sub_zero, Int.sub_zero]
      exact hinside
    have hblitted : blitted s draw back (s.pixmap draw.pixmap).bo (draw.target.cell pos) = _ :=
      copied_inside h hback hdraw hinside hx.2 hy.2 hvisible hclip hfrom
    refine hblitted.trans ?_
    simp [Dri2State.shown, Target.cell, Dri2State.pixmapTarget]
  · exact hframe (mem_holders_of_held hp) hne
  · exact hframe (h.buffer_mem hb) hne

/-- `update_front` changes nothing that can be seen. -/
theorem SwapShows.of_updated {t : Dri2State V} {draw : Drawable} {front back : Nat}
    (hshows : SwapShows s' t draw front back)
    (hswap : Swapping s draw front back) (hupdated : Updated s s' draw front) :
    SwapShows s t draw front back := by
  have hswap' := hswap.updated hupdated
  have hshown : ∀ {p}, p ∈ s'.holders → s'.shown p = s.shown p := by
    intro p hp
    rw [Dri2State.shown, Dri2State.shown, hupdated.pixmap_eq hp, hupdated.cells]
  have hbackmem := hupdated.inv.buffer_mem hswap'.backHeld
  rw [hupdated.back hswap.ne] at hbackmem
  refine ⟨fun pos hinside hvisible hfrom => ?_, fun p hp hne => ?_, fun b hb hbf hbb hne => ?_⟩
  · have hwindow := hshows.window pos hinside hvisible
    rw [hupdated.back hswap.ne, Dri2State.pixmapTarget, hupdated.pixmap_eq hbackmem,
      hshown hbackmem] at hwindow
    exact hwindow hfrom
  · rw [← hshown (mem_holders_of_held (hupdated.held.symm ▸ hp))]
    exact hshows.held p (hupdated.held.symm ▸ hp) hne
  · have hb' : b ∈ s'.refs := hupdated.refs.symm ▸ hb
    have hmem := hupdated.inv.buffer_mem hb'
    have hbuffers := hshows.buffers b hb' hbf hbb
    rw [hupdated.back hbf] at hmem hbuffers
    rw [← hshown hmem]
    exact hbuffers hne

/-- A flip shows the back buffer. -/
theorem Flippable.shows {t : Dri2State V} {draw : Drawable} {front back : Nat}
    {env : FlipConditions} (hflip : Flippable s s' draw front back env)
    (hswap : SwapPromised s draw front back env) (hexchanged : Exchanged s' t front back) :
    SwapShows s t draw front back := by
  have hswap' := hswap.updated hflip.updated
  have hinv := hflip.updated.inv
  obtain ⟨hback, hothers⟩ := hswap'.back_ne hinv
  have hfront : (s'.buffer front).pixmap = draw.pixmap := by
    rw [hflip.updated.front]
    rfl
  have hbo := hexchanged.bo
  rw [hfront] at hbo
  have hsame : ∀ {p}, p ∈ s'.holders → p ≠ draw.pixmap → p ≠ (s'.buffer back).pixmap →
      t.shown p = s'.shown p := by
    intro p hp hne hne'
    rw [Dri2State.shown, Dri2State.shown, hexchanged.cells, hbo p hp,
      Equiv.swap_apply_of_ne_of_ne hne hne']
  refine SwapShows.of_updated ⟨fun pos _ _ _ => ?_, fun p hp hne => ?_, fun b hb hbf hbb hne => ?_⟩
    hswap.toSwapping hflip.updated
  · obtain ⟨hx, hy⟩ := hswap.whole hflip.whole
    rw [Dri2State.shown, Dri2State.shown, hexchanged.cells,
      hbo _ (mem_holders_of_held hswap'.drawHeld), Equiv.swap_apply_left]
    simp [Target.cell, Drawable.target, hx, hy]
  · obtain ⟨o, hfind⟩ := hinv.buffers.find hswap'.backHeld
    have hown : o.value.attachment ≠ dri2BufferFrontLeft := by
      rw [← buffer_eq hfind, hswap'.backLeft]
      decide
    refine hsame (mem_holders_of_held hp) hne ?_
    rw [buffer_eq hfind]
    exact (hinv.own_notMem hfind hown hp).symm
  · have hkept : (t.buffer b).pixmap = (s'.buffer b).pixmap := by
      obtain ⟨d, hd⟩ := hinv.buffers.get hb
      have hget := hexchanged.buffers b
      rw [hd] at hget
      rw [Dri2State.buffer, Dri2State.buffer, hget, hd]
      exact congrArg Dri2Buffer.pixmap ((if_neg hbb).trans (if_neg hbf))
    rw [hkept]
    exact hsame (hinv.buffer_mem hb) hne (hothers b hb hbb)

/-- A window that is the whole screen, and its two buffers. -/
def playedWindow : Drawable :=
  ⟨true, 0, 0, 64, 48, 24, 0, 0, fun _ => true⟩

def playedConditions : FlipConditions := ⟨true, false, false, true, true, [(false, true)], some 256⟩

def playedRun : List (Dri2Act Nat) :=
  [.createPixmap 0 24 ⟨64, 48, 32, 256⟩,
    .createBuffer 0 playedWindow dri2BufferFrontLeft 24 ⟨true, true, none, some 256⟩,
    .createBuffer 0 playedWindow dri2BufferBackLeft 24 ⟨true, true, some (32, 256), some 256⟩,
    .render 1 fun pos => pos.1.toNat]

end LoongsonVideo.Driver.Dri2Buffers
