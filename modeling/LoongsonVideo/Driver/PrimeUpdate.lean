import LoongsonVideo.Driver.PrimePair

/-!
# Damage, wake-ups and frames

What holds of both sides of PRIME in every run, whatever the clients, the kernel
and the allocator do, and with events read at any point of any call.

* `no_lost_wakeup`: a pixmap that waits for damage has asked to be told of it.
* `blockHandler_updates`: the block handler leaves no pixmap waiting with damage,
  and no damage on a pixmap that is not updated on request.
* `frames_faithful`: the damage misses nothing, so every pixmap that is handed
  over shows what is drawn.

Each is kept by the moves of `PrimePair`, once for all calls.
-/

namespace LoongsonVideo.Driver.PrimePair

open LoongsonVideo.Verified
open LoongsonVideo.Verified.Machine
open LoongsonVideo.Driver.PrimeSource
open LoongsonVideo.Driver.SharedPixmap (Sink VblankEventArgs FlipAnswer enqueue submit
  msDrmAbortSeq msDrmAbortScrn sharedPixmapFlip enableSharedPixmapFlipping
  disableSharedPixmapFlipping finiSharedPixmapFlipping)

variable {V : Type}

/-! ## Waiting for damage -/

/-- The pixmap waits for damage. -/
def Pair.waits (p : Pair V) (ppix : Nat) : Bool := (p.sink.priv ppix).waitForDamage

/-- The source is to tell of damage to the pixmap. -/
def Pair.notifies (p : Pair V) (ppix : Nat) : Bool := (p.source.priv ppix).notifyOnDamage

/-- A pixmap that waits for damage has asked to be told of it. -/
def Asks (p : Pair V) : Prop := ∀ ppix, p.waits ppix = true → p.notifies ppix = true

/-- The same pixmaps wait. -/
def SameWaits (s s' : Sink) : Prop :=
  ∀ ppix, (s'.priv ppix).waitForDamage = (s.priv ppix).waitForDamage

theorem SameWaits.trans {s s' s'' : Sink} (h : SameWaits s s') (h' : SameWaits s' s'') :
    SameWaits s s'' := fun ppix => (h' ppix).trans (h ppix)

theorem setFlipSeq_waits (s : Sink) (ppix : Nat) (seq : Option Nat) :
    SameWaits s (s.setFlipSeq ppix seq) := by
  intro ppix'
  show (Function.update s.priv ppix { s.priv ppix with flipSeq := seq } ppix').waitForDamage = _
  by_cases heq : ppix' = ppix
  · subst heq
    rw [Function.update_self]
  · rw [Function.update_of_ne heq]

theorem enqueue_waits (s : Sink) (ppix : Nat) (args : VblankEventArgs) (ok : Bool) :
    SameWaits s (enqueue s ppix args ok) := by
  cases ok with
  | false => exact setFlipSeq_waits s ppix none
  | true => exact setFlipSeq_waits s ppix (some s.queue.next)

theorem msDrmAbortSeq_waits (s : Sink) (seq : Option Nat) : SameWaits s (msDrmAbortSeq s seq) := by
  unfold msDrmAbortSeq
  split
  · exact fun _ => rfl
  · split
    · exact fun _ => rfl
    · exact setFlipSeq_waits _ _ none

theorem abortFlipSeq_waits (s : Sink) (target : Option Nat) :
    SameWaits s (SharedPixmap.abortFlipSeq s target) := by
  cases target with
  | none => exact fun _ => rfl
  | some ppix => exact msDrmAbortSeq_waits s _

theorem finiSharedPixmapFlipping_waits (s : Sink) :
    SameWaits s (finiSharedPixmapFlipping s) := by
  unfold finiSharedPixmapFlipping
  split
  · exact fun _ => rfl
  · exact (abortFlipSeq_waits { s with flippingActive := false } _).trans (abortFlipSeq_waits _ _)

theorem msDrmAbortScrn_waits (s : Sink) : SameWaits s (msDrmAbortScrn s) := by
  unfold msDrmAbortScrn
  generalize s.queue.tokens = ks
  induction ks generalizing s with
  | nil => exact fun _ => rfl
  | cons k ks ih => exact (msDrmAbortSeq_waits s (some k)).trans (ih _)

theorem enableSharedPixmapFlipping_waits (s : Sink) (front back : Nat) (frontOk backOk : Bool) :
    SameWaits s (enableSharedPixmapFlipping s front back frontOk backOk) := by
  cases frontOk <;> cases backOk <;> exact fun _ => rfl

theorem setWait_waits (s : Sink) (ppix ppix' : Nat) (wait : Bool) :
    ((s.setWait ppix wait).priv ppix').waitForDamage =
      if ppix' = ppix then wait else (s.priv ppix').waitForDamage := by
  show (Function.update s.priv ppix { s.priv ppix with waitForDamage := wait } ppix').waitForDamage
    = _
  by_cases heq : ppix' = ppix
  · subst heq
    rw [Function.update_self, if_pos rfl]
  · rw [Function.update_of_ne heq, if_neg heq]

theorem setPriv_notifies (s : Source V) (ppix ppix' : Nat) (notify : Bool) :
    ((s.setPriv ppix { s.priv ppix with notifyOnDamage := notify }).priv ppix').notifyOnDamage =
      if ppix' = ppix then notify else (s.priv ppix').notifyOnDamage := by
  by_cases heq : ppix' = ppix
  · subst heq
    rw [setPriv_self, if_pos rfl]
  · rw [setPriv_of_ne heq, if_neg heq]

theorem Asks.withSink {p : Pair V} (h : Asks p) {sink : Sink} (hsame : SameWaits p.sink sink) :
    Asks (p.withSink sink) := by
  intro ppix hwait
  have hwait' : (sink.priv ppix).waitForDamage = true := hwait
  rw [hsame ppix] at hwait'
  exact h ppix hwait'

theorem Asks.askMaster {p : Pair V} (h : Asks p) (ppix : Nat) :
    Asks (PrimePair.askMaster p ppix).1 := by
  intro ppix' hwait
  have hwait' : p.waits ppix' = true := by
    rw [← hwait]
    simp only [Pair.waits, askMaster_sink]
  simp only [Pair.notifies, askMaster_priv]
  exact h ppix' hwait'

/-- Who waits and who has asked after the pixmap's two records are set to the same. -/
theorem Asks.both {p : Pair V} (h : Asks p) (ppix : Nat) (flag : Bool) :
    Asks ((p.withSource (p.source.setPriv ppix
      { p.source.priv ppix with notifyOnDamage := flag })).withSink
        (p.sink.setWait ppix flag)) := by
  intro ppix' hwait
  have hwait' : ((p.sink.setWait ppix flag).priv ppix').waitForDamage = true := hwait
  show ((p.source.setPriv ppix _).priv ppix').notifyOnDamage = true
  rw [setWait_waits] at hwait'
  rw [setPriv_notifies]
  by_cases heq : ppix' = ppix
  · rw [if_pos heq] at hwait' ⊢
    exact hwait'
  · rw [if_neg heq] at hwait' ⊢
    exact h ppix' hwait'

theorem Micro.asks {p p' : Pair V} (h : Micro p p') (hp : Asks p) : Asks p' := by
  cases h with
  | enqueue ppix args ok => exact hp.withSink (enqueue_waits p.sink ppix args ok)
  | submit seq => exact hp.withSink fun _ => rfl
  | abort seq => exact hp.withSink (msDrmAbortSeq_waits p.sink seq)
  | remove k => exact hp.withSink fun _ => rfl
  | targets prime back => exact hp.withSink fun _ => rfl
  | active on => exact hp.withSink fun _ => rfl
  | handOver ppix _ => exact hp.askMaster ppix
  | sleep ppix _ => exact (hp.askMaster ppix).both ppix true
  | wake ppix => exact hp.both ppix false
  | redisplay k e timeout _ => exact hp

theorem Micros.asks {p p' : Pair V} (h : Micros p p') (hp : Asks p) : Asks p' :=
  h.keeps (fun _ _ hmicro => hmicro.asks) hp

/-! ## The update wakes the sink -/

theorem dirtyEntry_micros (p : Pair V) (timeout : Option Int) (k : Nat) {answer : VBlankAnswer V}
    (h : answer.Moves) : Micros p (dirtyEntry p timeout k answer).1 := by
  unfold dirtyEntry
  cases hfind : p.source.dirtyList.find? k with
  | none => exact .refl p
  | some e =>
      simp only []
      split
      · exact .refl p
      · split
        · have hwake := wakeSink_all p e.slaveDst h
          split
          · exact hwake
          · refine hwake.trans (redisplay_micros ?_ timeout)
            rw [hwake.frozen.list]
            exact hfind
        · exact redisplay_micros hfind timeout

theorem dirtyEntries_micros (answers : Nat → VBlankTree) (ks : List Nat) (p : Pair V)
    (timeout : Option Int) :
    Micros p (ks.foldl (fun r k => dirtyEntry r.1 r.2 k (answers k).answer) (p, timeout)).1 := by
  induction ks generalizing p timeout with
  | nil => exact .refl p
  | cons k ks ih =>
      exact (dirtyEntry_micros p timeout k (VBlankTree.answer_moves (answers k))).trans (ih _ _)

/-- The pixmap does not wait while its entry has damage. -/
def Quiet (p : Pair V) (ppix : Nat) : Prop :=
  ∀ k e, (p.source.priv ppix).dirty = some k → p.source.dirtyList.find? k = some e →
    p.waits ppix = true → p.source.damage k = ∅

theorem Quiet.of_frozen {p p' : Pair V} {ppix : Nat} (h : Quiet p ppix) (hf : Frozen p p')
    (hwaits : p'.waits ppix = true → p.waits ppix = true) : Quiet p' ppix := by
  intro k e hdirty hfind hwait
  rw [hf.dirty] at hdirty
  rw [hf.list] at hfind
  rcases hf.damage k with hsame | hempty
  · rw [hsame]
    exact h k e hdirty hfind (hwaits hwait)
  · exact hempty

/-- No move makes a pixmap wait with damage on it. -/
theorem Micro.quiet {p p' : Pair V} (h : Micro p p') {ppix : Nat} (hp : Quiet p ppix) :
    Quiet p' ppix := by
  cases h with
  | enqueue ppix' args ok =>
      refine hp.of_frozen (withSink_frozen p _) fun hwait => ?_
      exact (enqueue_waits p.sink ppix' args ok ppix).symm.trans hwait
  | submit seq => exact hp
  | abort seq =>
      refine hp.of_frozen (withSink_frozen p _) fun hwait => ?_
      exact (msDrmAbortSeq_waits p.sink seq ppix).symm.trans hwait
  | remove k => exact hp
  | targets prime back => exact hp
  | active on => exact hp
  | handOver ppix' _ =>
      refine hp.of_frozen (askMaster_frozen p ppix') fun hwait => ?_
      simpa only [Pair.waits, askMaster_sink] using hwait
  | sleep ppix' hfalse =>
      intro k e hdirty hfind hwait
      have hf := (Micro.sleep p ppix' hfalse).frozen
      rw [hf.dirty] at hdirty
      rw [hf.list] at hfind
      by_cases heq : ppix = ppix'
      · -- It goes to sleep as there is nothing to copy.
        subst heq
        cases askMaster_cases p ppix with
        | gone _ hgone _ => exact absurd hfind (hgone k e hdirty)
        | clean j e' hdirty' hfind' hdamage _ _ =>
            cases hdirty.symm.trans hdirty'
            rcases hf.damage k with hsame | hempty
            · rw [hsame]
              exact hdamage
            · exact hempty
        | copied j e' _ _ _ _ _ _ htrue => exact absurd (hfalse.symm.trans htrue) Bool.false_ne_true
      · have hwait' : p.waits ppix = true := by
          have hset := setWait_waits (askMaster p ppix').1.sink ppix' ppix true
          rw [if_neg heq] at hset
          have hsink : p.waits ppix = (askMaster p ppix').1.waits ppix := by
            simp only [Pair.waits, askMaster_sink]
          exact hsink.trans (hset.symm.trans hwait)
        rcases hf.damage k with hsame | hempty
        · rw [hsame]
          exact hp k e hdirty hfind hwait'
        · exact hempty
  | wake ppix' =>
      refine hp.of_frozen (Micro.wake p ppix').frozen fun hwait => ?_
      have hset := setWait_waits p.sink ppix' ppix false
      have hwait' : ((p.sink.setWait ppix' false).priv ppix).waitForDamage = true := hwait
      rw [hwait'] at hset
      by_cases heq : ppix = ppix'
      · rw [if_pos heq] at hset
        cases hset
      · rw [if_neg heq] at hset
        exact hset.symm
  | redisplay k e timeout hfind =>
      exact hp.of_frozen (Micro.redisplay p k e timeout hfind).frozen id

theorem Micros.quiet {p p' : Pair V} (h : Micros p p') {ppix : Nat} (hp : Quiet p ppix) :
    Quiet p' ppix := h.keeps (fun _ _ hmicro => hmicro.quiet) hp

/-- After a wake-up the pixmap is quiet: it has been told, or does not wait. -/
theorem wakeSink_quiet {p : Pair V} (hp : Asks p) (ppix : Nat) {answer : VBlankAnswer V}
    (h : answer.Moves) : Quiet (wakeSink p ppix answer) ppix := by
  rcases wakeSink_micros p ppix h with ⟨hnotify, hsame⟩ | hmicros
  · rw [hsame]
    intro k e _ _ hwait
    have hasked : (p.source.priv ppix).notifyOnDamage = true := hp ppix hwait
    exact absurd (hnotify.symm.trans hasked) Bool.false_ne_true
  · refine hmicros.quiet fun k e _ _ hwait => ?_
    have hset := setWait_waits p.sink ppix ppix false
    rw [if_pos rfl] at hset
    exact absurd (hset.symm.trans hwait) Bool.false_ne_true

theorem dirtyEntry_quiet {p : Pair V} (hp : Asks p) (hlinked : p.source.Linked)
    (timeout : Option Int) {k : Nat} {e : DirtyUpdate} (hfind : p.source.dirtyList.find? k = some e)
    {answer : VBlankAnswer V} (h : answer.Moves) :
    Quiet (dirtyEntry p timeout k answer).1 e.slaveDst := by
  -- Damage on the entry itself is what has to go.
  have hentry : ∀ k' e', (p.source.priv e.slaveDst).dirty = some k' →
      p.source.dirtyList.find? k' = some e' → k' = k := by
    intro k' e' hdirty hfind'
    obtain ⟨e'', hfind'', hslave⟩ := hlinked.dirty e.slaveDst k' hdirty
    exact hlinked.unique k' k e'' e hfind'' hfind hslave
  have hmoves := dirtyEntry_micros p timeout k h
  unfold dirtyEntry at hmoves ⊢
  simp only [hfind] at hmoves ⊢
  by_cases hdamage : p.source.damage k = ∅
  · rw [if_pos hdamage]
    intro k' e' hdirty hfind' _
    rw [hentry k' e' hdirty hfind']
    exact hdamage
  · rw [if_neg hdamage] at hmoves ⊢
    cases hgpu : p.source.isGPU with
    | false =>
        have hwake := wakeSink_quiet hp e.slaveDst h
        have hfind' : (wakeSink p e.slaveDst answer).source.dirtyList.find? k = some e := by
          rw [(wakeSink_all p e.slaveDst h).frozen.list]
          exact hfind
        simp only [Bool.not_false, if_true]
        split
        · exact hwake
        · exact (redisplay_micros hfind' timeout).quiet hwake
    | true =>
        rw [hgpu] at hmoves
        have hf := hmoves.frozen
        simp only [Bool.not_true, Bool.false_eq_true, if_false] at hf ⊢
        intro k' e' hdirty hfind' _
        rw [hf.dirty] at hdirty
        rw [hf.list] at hfind'
        rw [hentry k' e' hdirty hfind']
        exact Function.update_self ..

/-- **After the loop no pixmap with an entry in it waits with damage.** -/
theorem dirtyEntries_quiet (answers : Nat → VBlankTree) (ks : List Nat) {p : Pair V}
    (timeout : Option Int) (hp : Asks p) (hlinked : p.source.Linked) {k : Nat} {e : DirtyUpdate}
    (hk : k ∈ ks) (hfind : p.source.dirtyList.find? k = some e) :
    Quiet (ks.foldl (fun r k => dirtyEntry r.1 r.2 k (answers k).answer) (p, timeout)).1
      e.slaveDst := by
  induction ks generalizing p timeout with
  | nil => cases hk
  | cons j ks ih =>
      have hmoves := VBlankTree.answer_moves (V := V) (answers j)
      have hbody := dirtyEntry_micros p timeout j hmoves
      rw [List.foldl_cons]
      rcases List.mem_cons.mp hk with rfl | hk
      · exact (dirtyEntries_micros answers ks _ _).quiet
          (dirtyEntry_quiet hp hlinked timeout hfind hmoves)
      · have hfind' : (dirtyEntry p timeout j (answers j).answer).1.source.dirtyList.find? k =
            some e := by
          rw [hbody.frozen.list]
          exact hfind
        exact ih _ (hbody.asks hp) (hbody.frozen.linked hlinked) hk hfind'

/-- A pixmap that is not updated on request has no damage left. -/
def Copied (p : Pair V) (k : Nat) (e : DirtyUpdate) : Prop :=
  (p.source.priv e.slaveDst).deferDirtyUpdate = false → p.source.damage k = ∅

theorem Micros.copied {p p' : Pair V} (h : Micros p p') {k : Nat} {e : DirtyUpdate}
    (hp : Copied p k e) : Copied p' k e := by
  intro hdefer
  rw [h.frozen.deferred] at hdefer
  rcases h.frozen.damage k with hsame | hempty
  · rw [hsame]
    exact hp hdefer
  · exact hempty

theorem dirtyEntry_copied {p : Pair V} (timeout : Option Int) {k : Nat} {e : DirtyUpdate}
    (hfind : p.source.dirtyList.find? k = some e) (answer : VBlankAnswer V) :
    Copied (dirtyEntry p timeout k answer).1 k e := by
  intro hdefer
  unfold dirtyEntry at hdefer ⊢
  simp only [hfind] at hdefer ⊢
  by_cases hdamage : p.source.damage k = ∅
  · rw [if_pos hdamage]
    exact hdamage
  · rw [if_neg hdamage] at hdefer ⊢
    split
    case isTrue hgpu =>
      rw [if_pos hgpu] at hdefer
      split
      case isTrue hdefer' =>
        rw [if_pos hdefer'] at hdefer
        exact absurd (hdefer.symm.trans hdefer') Bool.false_ne_true
      case isFalse => exact Function.update_self ..
    case isFalse => exact Function.update_self ..

theorem dirtyEntries_copied (answers : Nat → VBlankTree) (ks : List Nat) {p : Pair V}
    (timeout : Option Int) {k : Nat} {e : DirtyUpdate} (hk : k ∈ ks)
    (hfind : p.source.dirtyList.find? k = some e) :
    Copied (ks.foldl (fun r k => dirtyEntry r.1 r.2 k (answers k).answer) (p, timeout)).1 k e := by
  induction ks generalizing p timeout with
  | nil => cases hk
  | cons j ks ih =>
      rw [List.foldl_cons]
      rcases List.mem_cons.mp hk with rfl | hk
      · exact (dirtyEntries_micros answers ks _ _).copied (dirtyEntry_copied timeout hfind _)
      · have hbody := dirtyEntry_micros p timeout j (VBlankTree.answer_moves (V := V) (answers j))
        have hfind' : (dirtyEntry p timeout j (answers j).answer).1.source.dirtyList.find? k =
            some e := by
          rw [hbody.frozen.list]
          exact hfind
        exact ih _ hk hfind'

/-- What has damage is updated on request, and does not wait for damage. -/
def Updated (p : Pair V) : Prop :=
  ∀ k e, p.source.dirtyList.find? k = some e → p.source.damage k ≠ ∅ →
    (p.source.priv e.slaveDst).deferDirtyUpdate = true ∧ p.waits e.slaveDst = false

theorem msDirtyUpdate_updated {p : Pair V} (hp : Asks p) (hlinked : p.source.Linked)
    (timeout : Option Int) (answers : Nat → VBlankTree) :
    Updated (msDirtyUpdate p timeout fun k => (answers k).answer).1 := by
  intro k e hfind hdamage
  have hmoves := dirtyEntries_micros answers p.source.dirtyList.tokens p timeout
  have hfind' : p.source.dirtyList.find? k = some e := by
    rw [← hmoves.frozen.list]
    exact hfind
  have hmem : k ∈ p.source.dirtyList.tokens :=
    List.mem_map_of_mem (Pending.find?_eq_some.mp hfind')
  have hquiet := dirtyEntries_quiet answers _ timeout hp hlinked hmem hfind'
  have hcopied := dirtyEntries_copied answers _ timeout hmem hfind'
  have hlinked' := hmoves.frozen.linked hlinked
  have hdefer : ((msDirtyUpdate p timeout fun k => (answers k).answer).1.source.priv
      e.slaveDst).deferDirtyUpdate = true :=
    Bool.eq_true_of_not_eq_false fun hfalse => hdamage (hcopied hfalse)
  refine ⟨hdefer, Bool.eq_false_of_not_eq_true fun hwait => ?_⟩
  obtain ⟨k', hdirty⟩ := Option.ne_none_iff_exists'.mp (hlinked'.deferred e.slaveDst hdefer)
  obtain ⟨e', hfind'', hslave⟩ := hlinked'.dirty e.slaveDst k' hdirty
  cases hlinked'.unique k' k e' e hfind'' hfind hslave
  exact hdamage (hquiet k e' hdirty hfind'' hwait)

/-! ## What is handed over -/

/-- The pixmap shows what was drawn. -/
def Frame.Faithful (f : Frame V) : Prop := ∀ q ∈ f.cells, f.image q = f.scene q

/-- The entries and records fit, the damage misses nothing, and what was handed over was
faithful. -/
structure Shows (p : Pair V) : Prop where
  linked : p.source.Linked
  coherent : p.source.Coherent
  frames : ∀ f ∈ p.frames, f.Faithful

theorem Shows.askMaster {p : Pair V} (hp : Shows p) (ppix : Nat) :
    Shows (PrimePair.askMaster p ppix).1 := by
  have hlinked := (askMaster_frozen p ppix).linked hp.linked
  cases askMaster_cases p ppix with
  | gone hsource _ _ =>
      rw [hsource] at hlinked ⊢
      exact ⟨hlinked, hp.coherent, hp.frames⟩
  | clean k e _ _ _ hsame _ =>
      rw [hsame]
      exact hp
  | copied k e hdirty hfind _ hsource _ hframes _ =>
      refine ⟨hlinked, ?_, ?_⟩
      · rw [hsource]
        exact hp.coherent.display hp.linked hfind
      · obtain ⟨e', hfind', hslave⟩ := hp.linked.dirty ppix k hdirty
        cases hfind.symm.trans hfind'
        have hfresh := hp.coherent.fresh_display hfind
        rw [hframes]
        intro f hf
        rcases List.mem_append.mp hf with hf | hf
        · have hentry : ((p.withSource ((pixmapSyncDirtyHelper p.source k e).damageEmpty
              k)).source.priv ppix).dirty.bind (p.withSource ((pixmapSyncDirtyHelper p.source k
                e).damageEmpty k)).source.dirtyList.find? = some e := by
            show ((p.source.priv ppix).dirty.bind p.source.dirtyList.find?) = some e
            rw [hdirty]
            exact hfind
          unfold Pair.frame at hf
          rw [hentry] at hf
          cases List.mem_singleton.mp hf
          intro q hq
          show ((pixmapSyncDirtyHelper p.source k e).damageEmpty k).pixels ppix q = _
          rw [← hslave]
          exact hfresh q hq
        · exact hp.frames f hf

theorem Micro.shows {p p' : Pair V} (h : Micro p p') (hp : Shows p) : Shows p' := by
  have hlinked := h.frozen.linked hp.linked
  cases h with
  | enqueue | submit | abort | remove | targets | active =>
      exact ⟨hlinked, hp.coherent, hp.frames⟩
  | handOver ppix _ => exact hp.askMaster ppix
  | sleep ppix _ => exact ⟨hlinked, (hp.askMaster ppix).coherent, (hp.askMaster ppix).frames⟩
  | wake ppix => exact ⟨hlinked, hp.coherent, hp.frames⟩
  | redisplay k e timeout hfind =>
      exact ⟨hlinked, hp.coherent.display hp.linked hfind, hp.frames⟩

theorem Micros.shows {p p' : Pair V} (h : Micros p p') (hp : Shows p) : Shows p' :=
  h.keeps (fun _ _ hmicro => hmicro.shows) hp

/-! ## Runs -/

/-- What the server keeps to: a pixmap is tracked once at a time, and one that is flipped is not
given up as one that is not. -/
def Ordered (p : Pair V) : PairAct V → Prop
  | .startTracking _ dst1 dst2 _ _ _ _ =>
      dst1 ≠ dst2 ∧ p.source.Untracked dst1 ∧ p.source.Untracked dst2
  | .startSingle _ dst _ _ => p.source.Untracked dst
  | .stopSingle _ dst => (p.source.priv dst).dirty = none
  | _ => True

instance (p : Pair V) (act : PairAct V) : Decidable (Ordered p act) := by
  cases act <;> unfold Ordered <;> infer_instance

theorem PresentTree.answer_moves (tree : PresentTree) :
    VBlankAnswer.Moves (PresentTree.answer (V := V) tree).vblank := by
  cases tree with
  | mk flip vblank =>
      simp only [PresentTree.answer]
      exact VBlankTree.answer_moves vblank

theorem setModeMajor_micros (p : Pair V) (tree : PresentTree) :
    Micros p (setModeMajor p tree.answer) := by
  unfold setModeMajor
  split
  · exact initSharedPixmapFlipping_micros p tree.answer_moves
  · exact .refl p

/-- What a call does: moves of both sides, a change of the sink where the same pixmaps wait, or a
change of the list. -/
inductive Did (p : Pair V) (act : PairAct V) : Prop where
  | moves (h : Micros p (step p act))
  | sink (s : Sink) (h : step p act = p.withSink s) (hwaits : SameWaits p.sink s)
  | list (s : Source V) (h : step p act = p.withSource s)
      (hnotify : ∀ ppix, (s.priv ppix).notifyOnDamage = (p.source.priv ppix).notifyOnDamage)
      (hlinked : Ordered p act → p.source.Linked → s.Linked)
      (hcoherent : p.source.Coherent → s.Coherent)

theorem step_did (p : Pair V) (act : PairAct V) : Did p act := by
  cases act with
  | startTracking src dst1 dst2 t1 t2 ok1 ok2 =>
      refine .list _ rfl (msStartFlippingPixmapTracking_notify p.source src dst1 dst2 t1 t2 ok1 ok2)
        (fun hok h => ?_) (fun h => ?_)
      · exact msStartFlippingPixmapTracking_linked h hok.1 hok.2.1 hok.2.2 t1 t2 ok1 ok2
      · exact msStartFlippingPixmapTracking_coherent h src dst1 dst2 t1 t2 ok1 ok2
  | stopTracking src dst1 dst2 =>
      exact .list _ rfl (msStopFlippingPixmapTracking_notify p.source src dst1 dst2)
        (fun _ h => msStopFlippingPixmapTracking_linked h src dst1 dst2)
        (fun h => msStopFlippingPixmapTracking_coherent h src dst1 dst2)
  | startSingle src dst t ok =>
      refine .list _ rfl (fun ppix => ?_) (fun hok h => h.startTracking hok t ok)
        (fun h => h.startTracking src dst t ok)
      rw [pixmapStartDirtyTracking_priv]
  | stopSingle src dst =>
      exact .list _ rfl (fun _ => rfl) (fun hok h => h.stopTracking src dst hok)
        (fun h => h.stopTracking src dst)
  | draw drawable region paint =>
      exact .list _ rfl (fun _ => rfl) (fun _ h => ⟨h.unique, h.dirty, h.deferred⟩)
        (fun h => h.draw drawable region paint)
  | blockHandler timeout answers => exact .moves (dirtyEntries_micros answers _ p timeout)
  | enable front back frontOk backOk =>
      exact .sink _ rfl (enableSharedPixmapFlipping_waits p.sink front back frontOk backOk)
  | disable =>
      exact .sink _ rfl (finiSharedPixmapFlipping_waits { p.sink with enableFlipping := false })
  | modeSet answer => exact .moves (setModeMajor_micros p answer)
  | dpms on answer =>
      cases henable : p.sink.enableFlipping with
      | false =>
          have hsame : step p (.dpms on answer) = p := by simp [step, outputDpms, henable]
          refine .moves ?_
          rw [hsame]
          exact .refl p
      | true =>
          cases on with
          | true =>
              have hinit := initSharedPixmapFlipping_micros p answer.answer_moves
              refine .moves ?_
              simpa [step, outputDpms, henable] using hinit
          | false =>
              refine .sink (finiSharedPixmapFlipping p.sink) ?_
                (finiSharedPixmapFlipping_waits p.sink)
              simp [step, outputDpms, henable]
  | event tree => exact .moves (EventTree.exec_micros tree p)
  | abortSeq k => exact .sink _ rfl (msDrmAbortSeq_waits p.sink (some k))
  | abortScrn => exact .sink _ rfl (msDrmAbortScrn_waits p.sink)

theorem asks_step (p : Pair V) (act : PairAct V) (hp : Asks p) : Asks (step p act) := by
  cases step_did p act with
  | moves h => exact h.asks hp
  | sink s h hwaits =>
      rw [h]
      exact hp.withSink hwaits
  | list s h hnotify _ _ =>
      rw [h]
      intro ppix hwait
      show (s.priv ppix).notifyOnDamage = true
      rw [hnotify]
      exact hp ppix hwait

theorem shows_step (p : Pair V) (act : PairAct V) (hp : Shows p) (hok : Ordered p act) :
    Shows (step p act) := by
  cases step_did p act with
  | moves h => exact h.shows hp
  | sink s h _ =>
      rw [h]
      exact ⟨hp.linked, hp.coherent, hp.frames⟩
  | list s h _ hlinked hcoherent =>
      rw [h]
      exact ⟨hlinked hok hp.linked, hcoherent hp.coherent, hp.frames⟩

theorem asks_start (isGPU : Bool) (content pixels : Nat → Pixel → V) :
    Asks (.start isGPU content pixels) := by
  intro ppix hwait
  cases hwait

theorem shows_start (isGPU : Bool) (content pixels : Nat → Pixel → V) :
    Shows (.start isGPU content pixels) :=
  ⟨linked_start isGPU content pixels, coherent_start isGPU content pixels,
    fun _ hf => absurd hf List.not_mem_nil⟩

/-- **No wake-up is lost.** Whatever the server, the kernel and the clients do, with events read
at any point of any call, a pixmap that waits for damage has asked the source to be told of it. -/
theorem no_lost_wakeup (isGPU : Bool) (content pixels : Nat → Pixel → V)
    (acts : List (PairAct V)) : Always step Asks (.start isGPU content pixels) acts :=
  always_of_step asks_step (asks_start isGPU content pixels) acts

/-- One pixel, shown by the pixmaps 0 and 1 in turn: the first two frames, a wait for damage, and
some damage. -/
def playedActs : List (PairAct Nat) :=
  let pixel : Tracking := ⟨{(0, 0)}, id⟩
  let turn : PresentTree := .mk ⟨true, true, true⟩ (.mk true true [] true)
  [.startTracking 7 0 1 pixel pixel true true, .enable 0 1 true true, .modeSet turn,
    .event (.read 0 turn), .event (.read 1 turn), .draw 7 {(0, 0)} fun _ => 5]

/-- **The block handler leaves nobody asleep.** After it only pixmaps that are updated on request
have damage, and they do not wait for it. -/
theorem blockHandler_updates (isGPU : Bool) (content pixels : Nat → Pixel → V)
    (acts : List (PairAct V)) (hacts : Guarded step Ordered (.start isGPU content pixels) acts)
    (timeout : Option Int) (answers : Nat → VBlankTree) :
    Updated (step (run step (.start isGPU content pixels) acts)
      (.blockHandler timeout answers)) := by
  have hasks := run_of_step asks_step (asks_start isGPU content pixels) acts
  have hshows := (hacts.always shows_step (shows_start isGPU content pixels)).last
  exact msDirtyUpdate_updated hasks hshows.linked timeout answers

theorem blockHandler_updates_played :
    Updated (step (run step (.start false (fun _ _ => 0) fun _ _ => 0) playedActs)
      (.blockHandler none fun _ => .mk true true [] true)) :=
  blockHandler_updates false _ _ playedActs (by decide +kernel) none _

/-- **What is handed over is what is drawn.** In every state no pixmap lacks something that is not
in its damage, and every pixmap that was handed to the sink showed what the drawable did. -/
theorem frames_faithful (isGPU : Bool) (content pixels : Nat → Pixel → V)
    (acts : List (PairAct V)) (hacts : Guarded step Ordered (.start isGPU content pixels) acts) :
    Always step (fun p => p.source.Coherent ∧ ∀ f ∈ p.frames, f.Faithful)
      (.start isGPU content pixels) acts :=
  (hacts.always shows_step (shows_start isGPU content pixels)).mono
    fun _ h => ⟨h.coherent, h.frames⟩

theorem frames_faithful_played :
    Always step (fun p => p.source.Coherent ∧ ∀ f ∈ p.frames, f.Faithful)
      (.start false (fun _ _ => 0) fun _ _ => 0) playedActs :=
  frames_faithful false _ _ playedActs (by decide +kernel)

end LoongsonVideo.Driver.PrimePair
