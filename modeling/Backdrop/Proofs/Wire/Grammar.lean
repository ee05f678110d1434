import Backdrop.Proofs.Wire.Transit

/-!
# Backdrop.Proofs.Wire.Grammar

What every stream of bytes means as a request, be it well formed or not.

* `Ending` is what comes after the last byte: the other side has closed, or receiving fails.
* `meaning` takes the stream as a whole, with all its bytes and descriptors in their places.
* `readRequest_meaning` says that reading it in pieces comes to the same, wherever it is cut.
-/

namespace Backdrop
namespace Wire

/-! ## Streams as a whole -/

inductive Ending where
  | closed
  | failed (cause : TransferError)
  deriving Repr, DecidableEq, Inhabited

namespace Ending

/-- What is wrong when the stream ends too early. -/
def fault (ending : Ending) (expected received : Nat) : TransferError :=
  match ending with
  | .closed => .truncated expected received
  | .failed cause => cause

/-- Chunks that start with this ending. Chunks after it may follow, but none is a part of the
stream. -/
inductive Ends : Ending → List Chunk → Prop where
  | nothing : Ends .closed []
  | empty (descriptor : Option Descriptor) (later : List Chunk) :
      Ends .closed (.data [] descriptor :: later)
  | failure (cause : TransferError) (later : List Chunk) :
      Ends (.failed cause) (.failure cause :: later)

end Ending

/-- What comes of a stream: the request or what is wrong, how many bytes tell, and whether it takes
the ending to tell. -/
structure Reading where
  outcome : Except TransferError Request
  seen : Nat
  ended : Bool

/-- What a name and a descriptor mean after a header that is in order. -/
def spelled (extent : Extent) (name : List UInt8) (descriptor : Option Descriptor) :
    Except TransferError Request :=
  match Utf8.decode name with
  | .error fault => .error (.invalidName fault)
  | .ok text =>
    let target := if name = [] then none else some text
    if extent.width = 0 then .ok ⟨target, .clear⟩
    else
      match descriptor with
      | none => .error (.missingDescriptor extent)
      | some descriptor => .ok ⟨target, .draw extent descriptor⟩

/-- Sixteen bytes of a header, as many bytes of a name as it says, and a descriptor that comes with
the header. Of several faults the first one in this order counts. -/
def meaning (cells : List Cell) (ending : Ending) : Reading :=
  let bytes := cells.map (·.byte)
  let header := Header.decode bytes
  let extent := header.extent
  let length := header.nameLength.toNat
  if bytes.length < 16 then ⟨.error (ending.fault 16 bytes.length), bytes.length, true⟩
  else if ¬(extent.width = 0 ↔ extent.height = 0) then ⟨.error (.badDimensions extent), 16, false⟩
  else if 4096 < length then ⟨.error (.nameTooLong length), 16, false⟩
  else if bytes.length < 16 + length then
    ⟨.error (ending.fault length (bytes.length - 16)), bytes.length, true⟩
  else
    ⟨spelled extent ((bytes.drop 16).take length) ((cells.take 16).findSome? (·.rider)),
      16 + length, false⟩

/-! ## Streams that are too short -/

theorem fill_ends {tail : List Chunk} {ending : Ending} (ends : ending.Ends tail)
    (have_ : List UInt8) (first : Option Descriptor) {missing : Nat} (more : missing ≠ 0) :
    fill Chunk.receive missing have_ first tail =
      (.error (ending.fault (have_.length + missing) have_.length), tail.tail) := by
  rw [fill, if_neg more]
  cases ends with
  | nothing => simp [Chunk.receive, Ending.fault]
  | empty descriptor later => simp [Chunk.receive, Ending.fault]
  | failure cause later => simp [Chunk.receive, Ending.fault]

theorem fill_short {chunks tail : List Chunk} {cells : List Cell} {ending : Ending}
    (cut : Cut chunks cells) (ends : ending.Ends tail) (have_ : List UInt8)
    (first : Option Descriptor) {missing : Nat} (short : cells.length < missing) :
    fill Chunk.receive missing have_ first (chunks ++ tail) =
      (.error (ending.fault (have_.length + missing) (have_.length + cells.length)),
        tail.tail) := by
  -- By induction on the number of cells, all of which are received before the stream ends.
  induction hk : cells.length using Nat.strongRecOn
    generalizing chunks cells have_ first missing with
  | ind k ih =>
    have more : missing ≠ 0 := by omega
    cases k with
    | zero =>
      obtain rfl : cells = [] := List.length_eq_zero_iff.mp hk
      rw [cut.eq_nil, List.nil_append]
      exact fill_ends ends have_ first more
    | succ k =>
      obtain ⟨got, chunks', rest, received, pos, _, joined, cut'⟩ :=
        cut.receive (by omega) (Nat.pos_of_ne_zero more) tail
      have total : cells.length = got.bytes.length + rest.length := by
        rw [joined, List.length_append, length_load]
      rw [fill, if_neg more]
      simp only [received, if_neg (Nat.ne_of_gt pos)]
      rw [ih rest.length (by omega) cut' (have_ ++ got.bytes) _ (by omega) rfl, List.length_append,
        show have_.length + got.bytes.length + (missing - got.bytes.length) =
          have_.length + missing by omega,
        show have_.length + got.bytes.length + rest.length = have_.length + (k + 1) by omega]

theorem receiveExactly_short {chunks tail : List Chunk} {cells : List Cell} {ending : Ending}
    (cut : Cut chunks cells) (ends : ending.Ends tail) {n : Nat} (short : cells.length < n) :
    receiveExactly Chunk.receive n (chunks ++ tail) =
      (.error (ending.fault n cells.length), tail.tail) := by
  simpa [receiveExactly] using fill_short cut ends [] none short

/-! ## Streams with a header -/

theorem decode_take (bytes : List UInt8) : Header.decode (bytes.take 16) = Header.decode bytes := by
  simp only [Header.decode, List.take_take, List.drop_take]
  rfl

section Parts

variable {h : Header}

theorem check_lopsided (one : ¬(h.extent.width = 0 ↔ h.extent.height = 0)) :
    h.check = .error (.badDimensions h.extent) := by
  have lopsided : h.extent.isLopsided = true := by
    rw [← Bool.not_eq_false, Extent.isLopsided_eq_false_iff]
    exact one
  rw [Header.check, if_pos lopsided]

theorem check_long (both : h.extent.width = 0 ↔ h.extent.height = 0)
    (long : 4096 < h.nameLength.toNat) : h.check = .error (.nameTooLong h.nameLength.toNat) := by
  have even := Extent.isLopsided_eq_false_iff.mpr both
  rw [Header.check, even, if_neg Bool.false_ne_true]
  exact if_pos long

theorem check_fair (both : h.extent.width = 0 ↔ h.extent.height = 0)
    (short : ¬4096 < h.nameLength.toNat) : h.check = .ok () := by
  have even := Extent.isLopsided_eq_false_iff.mpr both
  rw [Header.check, even, if_neg Bool.false_ne_true]
  exact if_neg short

theorem isClear_of_even (both : h.extent.width = 0 ↔ h.extent.height = 0) :
    h.isClear = true ↔ h.extent.width = 0 := by
  unfold Header.isClear
  rw [Bool.and_eq_true, beq_iff_eq, beq_iff_eq, ← both, and_self]

theorem assemble_eq_spelled (both : h.extent.width = 0 ↔ h.extent.height = 0)
    (short : ¬4096 < h.nameLength.toNat) (name : List UInt8) (descriptor : Option Descriptor) :
    Request.assemble h name descriptor = spelled h.extent name descriptor := by
  have target : Request.targetOf name =
      match Utf8.decode name with
      | .error fault => .error (.invalidName fault)
      | .ok text => .ok (if name = [] then none else some text) := by
    unfold Request.targetOf
    cases name with
    | nil =>
      rw [show Utf8.decode [] = .ok "" from Utf8.decode_encode ""]
      rfl
    | cons b bs =>
      rw [if_neg (by simp)]
      split <;> simp_all
  have action : Request.actionOf h descriptor =
      if h.extent.width = 0 then .ok .clear
      else
        match descriptor with
        | none => .error (.missingDescriptor h.extent)
        | some descriptor => .ok (.draw h.extent descriptor) := by
    unfold Request.actionOf
    simp only [isClear_of_even both]
    split
    · rfl
    · cases descriptor <;> rfl
  unfold Request.assemble spelled
  simp only [check_fair both short, target, action]
  cases Utf8.decode name with
  | error fault => rfl
  | ok text =>
    by_cases zero : h.extent.width = 0
    · simp only [if_pos zero]
    · simp only [if_neg zero]
      cases descriptor <;> rfl

end Parts

/-! ## Reading in pieces -/

section Pieces

variable {chunks tail : List Chunk} {cells : List Cell} {ending : Ending}

theorem readRequest_short (cut : Cut chunks cells) (ends : ending.Ends tail)
    (short : cells.length < 16) :
    readRequest Chunk.receive (chunks ++ tail) =
      (.error (ending.fault 16 cells.length), tail.tail) := by
  have received := receiveExactly_short cut ends (n := Header.size) short
  simp only [readRequest, received]
  rfl

/-- A whole header is received, and then it is looked at. -/
theorem readRequest_headed (cut : Cut chunks cells) (long : 16 ≤ cells.length) (tail : List Chunk) :
    ∃ named, Cut named (cells.drop 16) ∧
      readRequest Chunk.receive (chunks ++ tail) =
        let header := Header.decode (cells.map (·.byte))
        match header.check with
        | .error e => (.error e, named ++ tail)
        | .ok () =>
          readNamed Chunk.receive header ((cells.take 16).findSome? (·.rider)) (named ++ tail) := by
  rw [← List.take_append_drop 16 cells] at cut
  obtain ⟨named, received, cut'⟩ := receiveExactly_cut cut tail
  have sixteen : (cells.take 16).length = Header.size := List.length_take_of_le long
  rw [sixteen] at received
  have decoded : Header.decode ((cells.take 16).map (·.byte)) =
      Header.decode (cells.map (·.byte)) := by
    rw [List.map_take, decode_take]
  refine ⟨named, cut', ?_⟩
  cases checked : (Header.decode (cells.map (·.byte))).check with
  | error e => simp only [readRequest, received, decoded, checked]
  | ok _ => simp only [readRequest, received, decoded, checked]

theorem readNamed_short {named : List Chunk} {rest : List Cell} (cut : Cut named rest)
    (ends : ending.Ends tail) {h : Header} (short : rest.length < h.nameLength.toNat)
    (descriptor : Option Descriptor) :
    readNamed Chunk.receive h descriptor (named ++ tail) =
      (.error (ending.fault h.nameLength.toNat rest.length), tail.tail) := by
  simp only [readNamed, receiveExactly_short cut ends short]

theorem readNamed_whole {named : List Chunk} {rest : List Cell} (cut : Cut named rest)
    {h : Header} (both : h.extent.width = 0 ↔ h.extent.height = 0)
    (fits : ¬4096 < h.nameLength.toNat) (long : h.nameLength.toNat ≤ rest.length)
    (descriptor : Option Descriptor) (tail : List Chunk) :
    ∃ left, Cut left (rest.drop h.nameLength.toNat) ∧
      readNamed Chunk.receive h descriptor (named ++ tail) =
        (spelled h.extent ((rest.map (·.byte)).take h.nameLength.toNat) descriptor,
          left ++ tail) := by
  rw [← List.take_append_drop h.nameLength.toNat rest] at cut
  obtain ⟨left, received, cut'⟩ := receiveExactly_cut cut tail
  rw [List.length_take_of_le long] at received
  refine ⟨left, cut', ?_⟩
  simp only [readNamed, received, assemble_eq_spelled both fits, List.map_take]

/-- The outcome is that of the whole stream, and what does not tell is left. -/
theorem readRequest_eq_meaning (cut : Cut chunks cells) (ends : ending.Ends tail) :
    ∃ rest, Cut rest (cells.drop (meaning cells ending).seen) ∧
      readRequest Chunk.receive (chunks ++ tail) = ((meaning cells ending).outcome,
        rest ++ if (meaning cells ending).ended then tail.tail else tail) := by
  have spent : Cut [] (cells.drop cells.length) := by
    rw [List.drop_length]
    exact ⟨fun _ hc => (nomatch hc), rfl⟩
  by_cases short : cells.length < 16
  · have whole : meaning cells ending =
        ⟨.error (ending.fault 16 cells.length), cells.length, true⟩ := by
      simp only [meaning, List.length_map, if_pos short]
    rw [whole]
    exact ⟨[], spent, readRequest_short cut ends short⟩
  obtain ⟨named, cut', read⟩ := readRequest_headed cut (Nat.not_lt.mp short) tail
  simp only [meaning, List.length_map, if_neg short]
  -- From here on the header decides, in the order of its checks.
  generalize Header.decode (cells.map (·.byte)) = h at read ⊢
  by_cases both : h.extent.width = 0 ↔ h.extent.height = 0
  case neg =>
    simp only [check_lopsided both] at read
    rw [if_pos both]
    exact ⟨named, cut', read⟩
  rw [if_neg (Decidable.not_not.mpr both)]
  by_cases long : 4096 < h.nameLength.toNat
  case pos =>
    simp only [check_long both long] at read
    rw [if_pos long]
    exact ⟨named, cut', read⟩
  rw [if_neg long]
  simp only [check_fair both long] at read
  by_cases missing : cells.length < 16 + h.nameLength.toNat
  · have fewer : (cells.drop 16).length < h.nameLength.toNat := by
      rw [List.length_drop]
      omega
    rw [if_pos missing, read, readNamed_short cut' ends fewer, List.length_drop]
    exact ⟨[], spent, rfl⟩
  · have enough : h.nameLength.toNat ≤ (cells.drop 16).length := by
      rw [List.length_drop]
      omega
    obtain ⟨left, cut'', assembled⟩ := readNamed_whole cut' both long enough
      ((cells.take 16).findSome? (·.rider)) tail
    rw [List.drop_drop] at cut''
    rw [if_neg missing, read, assembled, List.map_drop]
    exact ⟨left, cut'', rfl⟩

/-- What a stream means is what is read from it, however it is cut and whatever stands for its
end. -/
theorem readRequest_meaning (cut : Cut chunks cells) (ends : ending.Ends tail) :
    (∃ rest, Cut rest (cells.drop (meaning cells ending).seen) ∧
      readRequest Chunk.receive (chunks ++ tail) = ((meaning cells ending).outcome,
        rest ++ if (meaning cells ending).ended then tail.tail else tail)) ∧
    ∀ chunks' tail', Cut chunks' cells → ending.Ends tail' →
      (readRequest Chunk.receive (chunks' ++ tail')).1 =
        (readRequest Chunk.receive (chunks ++ tail)).1 := by
  obtain ⟨rest, cut', read⟩ := readRequest_eq_meaning cut ends
  refine ⟨⟨rest, cut', read⟩, fun chunks' tail' other ends' => ?_⟩
  obtain ⟨_, _, read'⟩ := readRequest_eq_meaning other ends'
  rw [read, read']

end Pieces

/-- A picture for one monitor, cut in the height and in the name, with the descriptor on the second
piece and two bytes too many. -/
def ragged : List Chunk :=
  [.data [1, 0, 0, 0, 1, 0] none, .data [0, 0, 4, 0, 0, 0, 0, 0, 0, 0, 68] (some ⟨#[9]⟩),
    .data [80, 45, 49, 7, 7] (some ⟨#[8]⟩)]

theorem cut_ragged : Cut ragged (ragged.flatMap Chunk.cells) := ⟨by decide, rfl⟩

theorem readRequest_meaning_ragged :
    (readRequest Chunk.receive (ragged ++ [.failure .timedOut])).1 =
      .ok ⟨some "DP-1", .draw ⟨1, 1⟩ ⟨#[9]⟩⟩ := by
  obtain ⟨⟨_, _, read⟩, _⟩ := readRequest_meaning cut_ragged (.failure .timedOut [])
  rw [read]
  rfl

end Wire
end Backdrop
