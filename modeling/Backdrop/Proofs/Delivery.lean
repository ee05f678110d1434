import Backdrop.Memory.Sealed
import Backdrop.Proofs.Pixel.Cover
import Backdrop.Proofs.Wall.Painting
import Backdrop.Proofs.Wire.RoundTrip
import Backdrop.Wall.Request

/-!
# Backdrop.Proofs.Delivery

The picture that a client sends is the picture that its targets show.

* `Presentable` is what a client may send: a name that is none or fits, and a file that holds the
  whole picture.
* `Delivered before after target filter source content r`: the targets that may be drawn on show the
  picture, every other monitor is as before, and the report counts both.
* `delivered_run`: writing the request, reading it from a stream that was cut anywhere, and applying
  it to a wall that any run has led to, delivers the picture.
-/

namespace Backdrop

open Wall (MonitorId Display Monitor Report Stage Operation)

/-- Every frame gets memory of just its size. -/
def Wall.Display.Generous (d : Display) : Prop :=
  ∀ f (size : Extent), ∃ memory, d.allocate f size = .ok memory ∧ memory.size = size.byteCount

structure Presentable (name : Option String) (source : Extent) (region : Descriptor) : Prop where
  named : ∀ n, name = some n → 1 ≤ (Utf8.encode n).length ∧
    (Utf8.encode n).length ≤ Wire.maxNameLength
  full : source.width ≠ 0 ∧ source.height ≠ 0
  held : source.byteCount ≤ region.content.size
  /-- No file is longer. -/
  bounded : region.content.size ≤ SharedFile.maxLength

namespace Presentable

variable {name : Option String} {source : Extent} {region : Descriptor}

theorem some_source (fine : Presentable name source region) : source.isEmpty = false :=
  Extent.isEmpty_eq_false_iff.mpr fine.full

theorem addressed (fine : Presentable name source region) : source.byteCount < UInt64.size := by
  have held := fine.held
  have bounded := fine.bounded
  simp only [SharedFile.maxLength] at bounded
  simp only [UInt64.size]
  omega

theorem mapped (fine : Presentable name source region) :
    Source.map region.content source = .ok ⟨source, region.content.extract 0 source.byteCount⟩ := by
  have pos : 0 < source.byteCount := by
    refine Nat.pos_of_ne_zero fun h => ?_
    rw [Extent.byteCount_eq_zero_iff, fine.some_source] at h
    cases h
  have required : Source.required region.content.size source = .ok source.byteCount :=
    Source.required_eq_ok_iff.mpr ⟨rfl, fine.addressed, pos, fine.held⟩
  simp only [Source.map, required]

theorem fair (fine : Presentable name source region) :
    Wire.Posting.Fair ⟨name, some (source, region)⟩ := by
  refine ⟨fun n hn => (fine.named n hn).2, fun extent d h => ?_⟩
  cases h
  exact ⟨fun h => absurd h fine.full.1, fun h => absurd h fine.full.2⟩

/-- What the daemon understands. -/
theorem request_eq (fine : Presentable name source region) :
    Wire.Posting.request ⟨name, some (source, region)⟩ = ⟨name, .draw source region⟩ := by
  have named : name ≠ some "" := by
    intro h
    have long := (fine.named "" h).1
    simp [Utf8.encode] at long
  have visible : source ≠ .zero := by
    rintro rfl
    exact fine.full.1 rfl
  simp only [Wire.Posting.request, Wire.Posting.target, Wire.Posting.action, if_neg named,
    if_neg visible]

end Presentable

/-! ## The wall -/

structure Delivered (before after : Wall) (target : Option String) (filter : Filter)
    (source : Extent) (content : Array UInt8) (r : Report) : Prop where
  shown : ∀ id m, before.monitor? id = some m → m.matchesTarget target = true →
    m.phase = .drawable → ∃ f slot,
      after.monitor? id = some { m with frame := some f } ∧ before.nextFrame ≤ f ∧
      after.frame? f = some slot ∧ slot.owner = id ∧
      slot.size.width.toNat = m.size.width.toNat * m.scale.toNat ∧
      slot.size.height.toNat = m.size.height.toNat * m.scale.toNat ∧
      Cover.Shows slot.pixels slot.size (Cover.picture filter content source slot.size)
        (Cover.window source slot.size)
  others : ∀ id, (∀ m, before.monitor? id = some m → m.matchesTarget target = true →
    m.phase ≠ .drawable) → after.monitor? id = before.monitor? id
  /-- What the others show is in the same memory as before. -/
  slots : ∀ id m f, before.monitor? id = some m →
    (m.matchesTarget target = true → m.phase ≠ .drawable) → m.frame = some f →
      after.frame? f = before.frame? f
  matched : r.matched = before.monitors.entries.countP fun e => e.2.matchesTarget target
  drawn : r.drawn = before.monitors.entries.countP fun e =>
    e.2.matchesTarget target && e.2.phase.isDrawable
  skipped : r.skipped = before.monitors.entries.countP fun e =>
    e.2.matchesTarget target && !e.2.phase.isDrawable
  nothing_else : r.cleared = 0 ∧ r.failed = 0

namespace Wall

variable {name : Option String} {source : Extent} {region : Descriptor} {display : Display}
  {filter : Filter} {w : Wall}

/-- Targets are counted where they are listed. -/
theorem countP_targets (target : Option String) (p : Monitor → Bool) (q : MonitorId → Bool)
    (same : ∀ id m, w.monitor? id = some m → q id = p m) :
    (w.targets target).countP q =
      w.monitors.entries.countP fun e => e.2.matchesTarget target && p e.2 := by
  rw [targets, List.countP_map, List.countP_filter]
  refine List.countP_congr fun e he => ?_
  have found : w.monitor? e.1 = some e.2 := Table.find?_eq_some_iff.mpr he
  simp [same e.1 e.2 found, and_comm]

theorem not_target {target : Option String} {id : MonitorId}
    (unready : ∀ m, w.monitor? id = some m → m.matchesTarget target = true → m.phase ≠ .drawable) :
    ¬ (id ∈ w.targets target ∧ w.drawable id = true) := by
  rintro ⟨wanted, isReady⟩
  obtain ⟨m, found, matches_⟩ := mem_targets.mp wanted
  obtain ⟨m', found', ready⟩ := drawable_iff.mp isReady
  obtain rfl : m = m' := Option.some.inj (found.symm.trans found')
  exact unready m found matches_ ready

/-- Only the first bytes of a file matter. -/
theorem picture_extract (src : Array UInt8) (target : Extent) :
    Cover.picture filter (src.extract 0 source.byteCount) source target =
      Cover.picture filter src source target := by
  have first : (src.extract 0 source.byteCount).extract 0 source.byteCount =
      src.extract 0 source.byteCount := by
    rw [Array.extract_extract]
    simp
  simp only [Cover.picture, Cover.pictureBy, first]

theorem Monitor.Fit.some_frame {m : Monitor} (fit : m.Fit) (ready : m.phase = .drawable)
    (fitting : m.Fitting) : m.frameSize.isEmpty = false := by
  obtain ⟨width, height⟩ := fit.frameSize ready fitting
  obtain ⟨wide, high⟩ := fit.size_full ready
  have scale : m.scale.toNat ≠ 0 := by
    have := fit.scale_pos
    omega
  rw [Extent.isEmpty_eq_false_iff, Ne, Ne, ← UInt32.toNat_inj, ← UInt32.toNat_inj, width, height]
  exact ⟨Nat.mul_ne_zero (fun h => wide (UInt32.toNat_inj.mp h)) scale,
    Nat.mul_ne_zero (fun h => high (UInt32.toNat_inj.mp h)) scale⟩

variable (filter) in
theorem paintable_of_generous (fine : Presentable name source region) (generous : display.Generous)
    (sound : SoundAt (.still w)) (fitting : ∀ id m, w.monitor? id = some m → m.Fitting) :
    Paintable display (region.content.extract 0 source.byteCount) source filter
      (fun size pixels => Cover.Shows pixels size (Cover.picture filter region.content source size)
        (Cover.window source size)) w := by
  intro id m found ready f
  have some_frame := (sound.monitors.fit found).some_frame ready (fitting id m found)
  obtain ⟨memory, allocated, sized⟩ := generous f m.frameSize
  have long : source.byteCount ≤ (region.content.extract 0 source.byteCount).size := by
    have := fine.held
    rw [Array.size_extract]
    omega
  obtain ⟨filled, covered, shown⟩ :=
    Cover.cover_shows filter fine.some_source some_frame long sized
  rw [picture_extract] at shown
  exact ⟨memory, filled, _, allocated, covered, shown⟩

variable (filter) in
/-- A picture that was understood is delivered. -/
theorem handle_delivers (fine : Presentable name source region) (generous : display.Generous)
    {s : Stage} (sound : SoundAt (.still s.wall))
    (fitting : ∀ id m, s.wall.monitor? id = some m → m.Fitting) :
    ∃ r s', s.handle display ⟨name, .draw source region⟩ filter = (.ok r, s') ∧
      Delivered s.wall s'.wall name filter source region.content r := by
  have paintable := paintable_of_generous filter fine generous sound fitting
  obtain ⟨report, painted⟩ := applyAll_painted (nodup_targets s.wall name)
    { Report.empty with matched := (s.wall.targets name).length } sound paintable
  have handled : s.handle display ⟨name, .draw source region⟩ filter =
      (.ok (s.apply display name (.image (region.content.extract 0 source.byteCount) source)
          filter).1,
        (s.apply display name (.image (region.content.extract 0 source.byteCount) source)
          filter).2) := by
    simp only [Stage.handle, Content.ofAction, fine.mapped]
  refine ⟨_, _, handled, ?_⟩
  simp only [Stage.apply, Stage.wall_noteUnmatched]
  refine ⟨?_, fun id unready => painted.kept id (not_target unready), ?_, ?_, ?_, ?_, ?_⟩
  · intro id m found matches_ ready
    have wanted : id ∈ s.wall.targets name := mem_targets.mpr ⟨m, found, matches_⟩
    obtain ⟨f, slot, hm, fresh, hf, owner, size, shown⟩ := painted.drawn id wanted m found ready
    obtain ⟨width, height⟩ := (sound.monitors.fit found).frameSize ready (fitting id m found)
    rw [← size] at width height shown
    exact ⟨f, slot, hm, fresh, hf, owner, width, height, shown⟩
  · intro id m f found unready hf
    refine painted.slots id f (not_target fun m' found' => ?_)
      (shown?_eq_some_iff.mpr ⟨m, found, hf⟩)
    obtain rfl : m = m' := Option.some.inj (found.symm.trans found')
    exact unready
  · rw [report]
    change (s.wall.targets name).length = _
    rw [targets, List.length_map, List.countP_eq_length_filter]
  · rw [report]
    exact (Nat.zero_add _).trans (countP_targets name _ _ fun id m => drawable_of_monitor?)
  · rw [report]
    refine (Nat.zero_add _).trans (countP_targets name (!·.phase.isDrawable) _ fun id m found => ?_)
    rw [drawable_of_monitor? found]
  · rw [report]
    exact ⟨rfl, rfl⟩

end Wall

/-! ## From end to end -/

variable {σ : Type}

theorem delivered_run {ops : List (Display × Operation)} (orderly : Stage.empty.Orderly [] ops)
    {display : Display} (generous : display.Generous)
    (fitting : ∀ id m, (Stage.empty.run ops).wall.monitor? id = some m → m.Fitting)
    {name : Option String} {source : Extent} {region : Descriptor}
    (fine : Presentable name source region) (filter : Filter) {send : Wire.Send σ}
    (productive : Wire.Productive send) (patience : Nat) (channel : σ) {chunks : List Wire.Chunk}
    (cut : Wire.Cut chunks (Wire.sent (Wire.writeRequest (Wire.noteSends send) patience
      (Wire.Posting.outgoing ⟨name, some (source, region)⟩) (channel, [])).2.2)) :
    (Wire.writeRequest (Wire.noteSends send) patience
        (Wire.Posting.outgoing ⟨name, some (source, region)⟩) (channel, [])).1 = .ok () ∧
      ∃ request r s', Wire.readRequest Wire.Chunk.receive chunks = (.ok request, []) ∧
        (Stage.empty.run ops).handle display request filter = (.ok r, s') ∧
        Delivered (Stage.empty.run ops).wall s'.wall name filter source region.content r := by
  obtain ⟨channel', notes, written, cells⟩ :=
    Wire.writeRequest_sent productive patience fine.fair channel []
  rw [written] at cut ⊢
  rw [List.nil_append, cells, ← List.append_nil (Wire.Posting.cells _)] at cut
  obtain ⟨left, read, rest⟩ := Wire.readRequest_cut fine.fair cut
  rw [rest.eq_nil, fine.request_eq] at read
  obtain ⟨r, s', handled, delivered⟩ :=
    Wall.handle_delivers filter fine generous (Wall.soundAt_run orderly) fitting
  exact ⟨rfl, _, r, s', read, handled, delivered⟩

/-- Gives whatever is asked for. -/
def lavish : Display :=
  ⟨fun _ => true, fun _ => none, fun _ size => .ok (Array.replicate size.byteCount 0)⟩

/-- Two monitors, of which the first has its size. -/
def arranged : List (Display × Operation) :=
  [(lavish, .reserve), (lavish, .insert 0 7 0), (lavish, .setLabel 0 "DP-1"),
    (lavish, .setScale 0 2), (lavish, .configure 0 1 ⟨1, 1⟩), (lavish, .reserve),
    (lavish, .insert 1 8 1)]

theorem generous_lavish : lavish.Generous := fun _ _ => ⟨_, rfl, Array.size_replicate⟩

theorem presentable_pixel : Presentable (some "DP-1") ⟨1, 1⟩ ⟨#[1, 2, 3, 4]⟩ := by
  refine ⟨fun n h => ?_, by decide, by decide, by decide⟩
  cases h
  decide

theorem orderly_arranged : Stage.empty.Orderly [] arranged := by decide

theorem fitting_arranged (id : MonitorId) (m : Monitor)
    (found : (Stage.empty.run arranged).wall.monitor? id = some m) : m.Fitting := by
  have small : ∀ e ∈ (Stage.empty.run arranged).wall.monitors.entries,
      e.2.size.width.toNat * e.2.scale.toNat < UInt32.size ∧
        e.2.size.height.toNat * e.2.scale.toNat < UInt32.size := by decide
  obtain ⟨width, height⟩ := small _ (Table.find?_eq_some_iff.mp found)
  exact ⟨width, height⟩

/-- A request for one pixel on one monitor, cut within the header. -/
def pixelChunks : List Wire.Chunk :=
  [.data [1, 0, 0, 0, 1, 0] (some ⟨#[1, 2, 3, 4]⟩),
    .data [0, 0, 4, 0, 0, 0, 0, 0, 0, 0, 68] none, .data [80, 45, 49] none]

theorem cut_pixelChunks : Wire.Cut pixelChunks
    (Wire.sent (Wire.writeRequest (Wire.noteSends Wire.sip) 0
      (Wire.Posting.outgoing ⟨some "DP-1", some (⟨1, 1⟩, ⟨#[1, 2, 3, 4]⟩)⟩) ((), [])).2.2) := by
  obtain ⟨_, notes, written, cells⟩ :=
    Wire.writeRequest_sent Wire.productive_sip 0 presentable_pixel.fair () []
  rw [written, List.nil_append, cells]
  exact ⟨by decide, by decide⟩

theorem delivered_pixel : ∃ request r s',
    Wire.readRequest Wire.Chunk.receive pixelChunks = (.ok request, []) ∧
      (Stage.empty.run arranged).handle lavish request .nearest = (.ok r, s') ∧
      Delivered (Stage.empty.run arranged).wall s'.wall (some "DP-1") .nearest ⟨1, 1⟩
        #[1, 2, 3, 4] r ∧
      r.drawn = 1 := by
  obtain ⟨_, request, r, s', read, handled, delivered⟩ :=
    delivered_run orderly_arranged generous_lavish fitting_arranged presentable_pixel .nearest
      Wire.productive_sip 0 () cut_pixelChunks
  exact ⟨request, r, s', read, handled, delivered, delivered.drawn.trans (by decide)⟩

end Backdrop
