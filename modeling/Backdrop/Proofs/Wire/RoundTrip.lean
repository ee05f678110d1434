import Backdrop.Proofs.Wire.Transit

/-!
# Backdrop.Proofs.Wire.RoundTrip

Requests that are written one after another are read one after another, as they were written.

* `Posting` is what a client asks for, and `Posting.request` what the daemon makes of it: an empty
  name is no name, and a picture without pixels is no picture.
* `writeRequest_sent` and `readRequest_cut` are the two ends of one request.
* `read_written` is about any number of them, whatever the sends accept and wherever the bytes are
  cut on the way.
-/

namespace Backdrop
namespace Wire

structure Posting where
  name : Option String
  picture : Option (Extent × Descriptor)
  deriving Repr, DecidableEq, Inhabited

namespace Posting

def outgoing (p : Posting) : Outgoing := ⟨(p.name.map Utf8.encode).getD [], p.picture⟩

def descriptor (p : Posting) : Option Descriptor := p.picture.map (·.2)

/-- A request that may be sent. -/
structure Fair (p : Posting) : Prop where
  name : ∀ s, p.name = some s → (Utf8.encode s).length ≤ maxNameLength
  picture : ∀ extent d, p.picture = some (extent, d) → (extent.width = 0 ↔ extent.height = 0)

def target (p : Posting) : Option String := if p.name = some "" then none else p.name

def action (p : Posting) : Action :=
  match p.picture with
  | none => .clear
  | some (extent, d) => if extent = .zero then .clear else .draw extent d

def request (p : Posting) : Request := ⟨p.target, p.action⟩

/-- The bytes of the request as they leave, the descriptor on the first of them. -/
def cells (p : Posting) : List Cell :=
  load (p.outgoing.header.encode ++ p.outgoing.name) p.descriptor

variable {p : Posting}

theorem Fair.length_name (fair : p.Fair) : p.outgoing.name.length ≤ maxNameLength := by
  unfold outgoing
  cases hn : p.name with
  | none => exact Nat.zero_le _
  | some s => exact fair.name s hn

theorem Fair.nameLength (fair : p.Fair) :
    p.outgoing.header.nameLength.toNat = p.outgoing.name.length := by
  have := fair.length_name
  simp only [maxNameLength] at this
  simp only [Outgoing.header, Nat.toUInt64, UInt64.toNat_ofNat']
  exact Nat.mod_eq_of_lt (by omega)

theorem Fair.isLopsided (fair : p.Fair) : p.outgoing.extent.isLopsided = false := by
  unfold Outgoing.extent outgoing
  cases hp : p.picture with
  | none => rfl
  | some picture =>
    obtain ⟨extent, d⟩ := picture
    exact Extent.isLopsided_eq_false_iff.mpr (fair.picture extent d hp)

theorem Fair.check (fair : p.Fair) : p.outgoing.header.check = .ok () := by
  have extent : p.outgoing.header.extent = p.outgoing.extent := rfl
  have short := fair.length_name
  unfold Header.check
  rw [extent, fair.isLopsided, fair.nameLength, if_neg (by simp), if_neg (Nat.not_lt.mpr short)]

theorem Fair.payload (fair : p.Fair) :
    p.outgoing.payload = .ok (p.outgoing.header.encode ++ p.outgoing.name) := by
  unfold Outgoing.payload
  rw [if_neg (Nat.not_lt.mpr fair.length_name), fair.check]

theorem targetOf_outgoing (p : Posting) : Request.targetOf p.outgoing.name = .ok p.target := by
  unfold Request.targetOf target outgoing
  cases hn : p.name with
  | none => rfl
  | some s =>
    by_cases hs : s = ""
    · subst hs
      rfl
    · have full : (Utf8.encode s).isEmpty = false := by simpa using Utf8.encode_ne_nil hs
      simp [full, hs, Utf8.decode_encode]

theorem actionOf_outgoing (p : Posting) :
    Request.actionOf p.outgoing.header p.descriptor = .ok p.action := by
  unfold Request.actionOf action descriptor
  cases hp : p.picture with
  | none =>
    have extent : p.outgoing.header.extent = .zero := by
      simp [Outgoing.header, Outgoing.extent, outgoing, hp]
    rw [if_pos (Header.isClear_iff.mpr extent)]
  | some picture =>
    obtain ⟨extent, d⟩ := picture
    have same : p.outgoing.header.extent = extent := by
      simp [Outgoing.header, Outgoing.extent, outgoing, hp]
    simp only [Header.isClear_iff, same, Option.map_some]
    split <;> rfl

theorem Fair.assemble (fair : p.Fair) :
    Request.assemble p.outgoing.header p.outgoing.name p.descriptor = .ok p.request := by
  unfold Request.assemble
  simp only [fair.check, targetOf_outgoing, actionOf_outgoing]
  rfl

end Posting

variable {σ : Type}

/-- A request leaves as a whole. -/
theorem writeRequest_sent {send : Send σ} (productive : Productive send) (patience : Nat)
    {p : Posting} (fair : p.Fair) (s : σ) (notes : List Dispatch) :
    ∃ s' notes', writeRequest (noteSends send) patience p.outgoing (s, notes) =
        (.ok (), s', notes ++ notes') ∧ sent notes' = p.cells := by
  unfold writeRequest
  rw [fair.payload]
  exact sendAll_sent productive patience _ p.descriptor s notes

/-- A request arrives as it left, and what follows it is not touched. -/
theorem readRequest_cut {chunks : List Chunk} {p : Posting} (fair : p.Fair) {rest : List Cell}
    (cut : Cut chunks (p.cells ++ rest)) :
    ∃ chunks', readRequest Chunk.receive chunks = (.ok p.request, chunks') ∧ Cut chunks' rest := by
  have sized : 0 < p.outgoing.header.encode.length := by simp [Header.size]
  rw [Posting.cells, load_append _ sized, List.append_assoc] at cut
  obtain ⟨named, header, cut⟩ := receiveExactly_cut cut []
  obtain ⟨left, name, cut⟩ := receiveExactly_cut cut []
  rw [length_load, Header.length_encode, map_byte_load, findSome?_rider _ sized] at header
  rw [length_load, map_byte_load, findSome?_rider_none] at name
  rw [List.append_nil, List.append_nil] at header name
  refine ⟨left, ?_, cut⟩
  simp only [readRequest, header, Header.decode_encode, fair.check, readNamed, fair.nameLength,
    name, fair.assemble]

/-! ## Many requests -/

/-- Writes one request after another. -/
def writeRequests (send : Send σ) (patience : Nat) :
    List Outgoing → σ → List (Except TransferError Unit) × σ
  | [], s => ([], s)
  | o :: os, s =>
    let (r, s) := writeRequest send patience o s
    let (rs, s) := writeRequests send patience os s
    (r :: rs, s)

/-- Reads so many requests. -/
def readRequests (receive : Receive σ) : Nat → σ → List (Except TransferError Request) × σ
  | 0, s => ([], s)
  | n + 1, s =>
    let (r, s) := readRequest receive s
    let (rs, s) := readRequests receive n s
    (r :: rs, s)

theorem writeRequests_sent {send : Send σ} (productive : Productive send) (patience : Nat)
    {ps : List Posting} (fair : ∀ p ∈ ps, p.Fair) (s : σ) (notes : List Dispatch) :
    ∃ s' notes', writeRequests (noteSends send) patience (ps.map (·.outgoing)) (s, notes) =
        (ps.map fun _ => .ok (), s', notes ++ notes') ∧ sent notes' = ps.flatMap (·.cells) := by
  induction ps generalizing s notes with
  | nil => exact ⟨s, [], by simp [writeRequests], rfl⟩
  | cons p ps ih =>
    obtain ⟨s', first, written, cells⟩ :=
      writeRequest_sent productive patience (fair p List.mem_cons_self) s notes
    obtain ⟨s'', others, all, cells'⟩ :=
      ih (fun q hq => fair q (List.mem_cons_of_mem _ hq)) s' (notes ++ first)
    refine ⟨s'', first ++ others, ?_, ?_⟩
    · simp only [List.map_cons, writeRequests, written, all, List.append_assoc]
    · rw [sent_append, cells, cells', List.flatMap_cons]

theorem readRequests_cut {ps : List Posting} (fair : ∀ p ∈ ps, p.Fair) {chunks : List Chunk}
    (cut : Cut chunks (ps.flatMap (·.cells))) :
    readRequests Chunk.receive ps.length chunks = (ps.map fun p => .ok p.request, []) := by
  induction ps generalizing chunks with
  | nil =>
    rw [cut.eq_nil]
    rfl
  | cons p ps ih =>
    obtain ⟨chunks', first, cut'⟩ := readRequest_cut (fair p List.mem_cons_self) cut
    have others := ih (fun q hq => fair q (List.mem_cons_of_mem _ hq)) cut'
    simp only [List.length_cons, readRequests, first, others, List.map_cons]

/-- What is written is what is read, and nothing is left over. -/
theorem read_written {send : Send σ} (productive : Productive send) (patience : Nat)
    {ps : List Posting} (fair : ∀ p ∈ ps, p.Fair) (s : σ) {chunks : List Chunk}
    (cut : Cut chunks (sent
      (writeRequests (noteSends send) patience (ps.map (·.outgoing)) (s, [])).2.2)) :
    (writeRequests (noteSends send) patience (ps.map (·.outgoing)) (s, [])).1 =
        ps.map (fun _ => .ok ()) ∧
      readRequests Chunk.receive ps.length chunks = (ps.map fun p => .ok p.request, []) := by
  obtain ⟨s', notes', written, cells⟩ := writeRequests_sent productive patience fair s []
  rw [written] at cut ⊢
  rw [List.nil_append, cells] at cut
  exact ⟨rfl, readRequests_cut fair cut⟩

/-- Accepts three bytes at a time. -/
def sip : Send Unit := fun bytes _ s => (.ok (min 3 bytes.length), s)

theorem productive_sip : Productive sip := by
  intro bytes descriptor s some
  exact ⟨_, s, rfl, by omega, Nat.min_le_right _ _⟩

/-- A picture for one monitor, and no picture for any. -/
def posted : List Posting := [⟨some "DP-1", some (⟨2, 1⟩, ⟨#[]⟩)⟩, ⟨none, none⟩]

/-- The bytes of both requests, cut in the first header and again in the second. -/
def cutPosted : List Chunk :=
  [.data [2, 0, 0, 0, 1, 0, 0] (some ⟨#[]⟩),
    .data [0, 4, 0, 0, 0, 0, 0, 0, 0, 68, 80, 45, 49, 0, 0] none,
    .data [0, 0, 0, 0, 0, 0, 0, 0, 0, 0, 0, 0, 0, 0] none]

theorem fair_posted : ∀ p ∈ posted, p.Fair := by
  intro p hp
  simp only [posted, List.mem_cons, List.not_mem_nil, or_false] at hp
  rcases hp with rfl | rfl
  · refine ⟨fun s hs => ?_, fun extent d hd => ?_⟩
    · cases hs
      decide
    · cases hd
      decide
  · exact ⟨fun s hs => (nomatch hs), fun extent d hd => (nomatch hd)⟩

theorem cut_cutPosted : Cut cutPosted (sent
    (writeRequests (noteSends sip) 0 (posted.map (·.outgoing)) ((), [])).2.2) := by
  obtain ⟨s', notes', written, cells⟩ := writeRequests_sent productive_sip 0 fair_posted () []
  rw [written, List.nil_append, cells]
  exact ⟨by decide, by decide⟩

theorem read_written_posted : readRequests Chunk.receive 2 cutPosted =
    ([.ok ⟨some "DP-1", .draw ⟨2, 1⟩ ⟨#[]⟩⟩, .ok ⟨none, .clear⟩], []) :=
  (read_written productive_sip 0 fair_posted () cut_cutPosted).2

end Wire
end Backdrop
