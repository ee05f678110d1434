import Backdrop.Proofs.Wire.Transit

/-!
# Backdrop.Proofs.Wire.Outflow

How a request leaves when sends accept little or fail.

* `Accepting send`: a send that succeeds accepts some of what it is offered.
* `Sends rest d notes r`: offering `rest` with the descriptor `d` takes the sends `notes` and comes
  to `r`. `sendAll_sends` says that `sendAll` keeps to it, and everything else is shown by induction
  on it.
* `Written o r notes`: what is sent for `o` and what comes of it. `writeRequest_written` holds for
  every channel that is `Accepting`, whatever its sends accept and whenever they fail.
-/

namespace Backdrop
namespace Wire

variable {σ : Type}

/-- A send fails, or it accepts at least one byte and no more than there are. -/
def Accepting (send : Send σ) : Prop :=
  ∀ bytes descriptor s n, 0 < bytes.length → (send bytes descriptor s).1 = .ok n →
    1 ≤ n ∧ n ≤ bytes.length

/-- The bytes that sends have accepted, in their order. -/
def accepted (notes : List Dispatch) : List UInt8 := (sent notes).map (·.byte)

/-- The sends of a payload, and what comes of them. -/
structure Carried (payload : List UInt8) (descriptor : Option Descriptor)
    (r : Except TransferError Unit) (notes : List Dispatch) : Prop where
  /-- Every send offers what no send before it has accepted. -/
  offered : ∀ before x after, notes = before ++ x :: after → accepted before ++ x.offered = payload
  descriptor : ∀ before x after, notes = before ++ x :: after →
    x.descriptor = if before = [] then descriptor else none
  bounded : notes.length ≤ payload.length
  whole : r = .ok () ↔ accepted notes = payload
  /-- A send that fails is the last one, and its error is what comes of it all. -/
  failed : ∀ before x after e, notes = before ++ x :: after → x.outcome = .error e →
    after = [] ∧ r = .error e ∧ accepted notes <+: payload ∧ accepted notes ≠ payload
  /-- There is no other error. -/
  cause : ∀ e, r = .error e → ∃ before x, notes = before ++ [x] ∧ x.outcome = .error e

/-- The sends of a request, and what comes of them. -/
structure Written (o : Outgoing) (r : Except TransferError Unit) (notes : List Dispatch) :
    Prop where
  long : maxNameLength < o.name.length →
    notes = [] ∧ r = .error (.nameTooLong o.name.length)
  lopsided : o.name.length ≤ maxNameLength → o.extent.isLopsided = true →
    notes = [] ∧ r = .error (.badDimensions o.extent)
  carried : o.name.length ≤ maxNameLength → o.extent.isLopsided = false →
    Carried (o.header.encode ++ o.name) (o.picture.map (·.2)) r notes

/-! ## Accepted bytes -/

section Cons

variable (rest : List UInt8) (d : Option Descriptor) (notes : List Dispatch)

@[simp] theorem accepted_cons_ok (n : Nat) :
    accepted (⟨rest, d, .ok n⟩ :: notes) = rest.take n ++ accepted notes := by
  simp [accepted, sent, Dispatch.cells]

@[simp] theorem accepted_cons_error (e : TransferError) :
    accepted (⟨rest, d, .error e⟩ :: notes) = accepted notes := by
  simp [accepted, sent, Dispatch.cells]

end Cons

/-! ## Sends one after another -/

/-- Offering what is left, with a descriptor for the next send alone. -/
inductive Sends : List UInt8 → Option Descriptor → List Dispatch → Except TransferError Unit →
    Prop where
  | done (d : Option Descriptor) : Sends [] d [] (.ok ())
  | failed {rest : List UInt8} (d : Option Descriptor) (e : TransferError) :
      0 < rest.length → Sends rest d [⟨rest, d, .error e⟩] (.error e)
  | taken {rest : List UInt8} {n : Nat} {notes : List Dispatch}
      {r : Except TransferError Unit} (d : Option Descriptor) :
      1 ≤ n → n ≤ rest.length → Sends (rest.drop n) none notes r →
      Sends rest d (⟨rest, d, .ok n⟩ :: notes) r

section Step

variable {send : Send σ} {rest : List UInt8} {d : Option Descriptor} {s s' : σ}

theorem sendAll_failed (patience : Nat) {e : TransferError} (more : 0 < rest.length)
    (sending : send rest d s = (.error e, s')) :
    sendAll send patience rest d s = (.error e, s') := by
  rw [sendAll, if_neg (Nat.ne_of_gt more)]
  simp only [sending]

theorem sendAll_taken (patience : Nat) {n : Nat} (more : 0 < rest.length) (pos : 1 ≤ n)
    (sending : send rest d s = (.ok n, s')) :
    sendAll send patience rest d s = sendAll send patience (rest.drop n) none s' := by
  rw [sendAll, if_neg (Nat.ne_of_gt more)]
  simp only [sending, if_neg (Nat.ne_of_gt pos)]

end Step

theorem sendAll_sends {send : Send σ} (accepting : Accepting send) (patience : Nat)
    (rest : List UInt8) (d : Option Descriptor) (s : σ) (notes : List Dispatch) :
    ∃ r s' notes', sendAll send patience rest d s = (r, s') ∧
      sendAll (noteSends send) patience rest d (s, notes) = (r, s', notes ++ notes') ∧
      Sends rest d notes' r := by
  -- By induction on the number of bytes that are not accepted yet.
  induction hk : rest.length using Nat.strongRecOn generalizing rest d s notes with
  | ind k ih =>
    by_cases nothing : rest.length = 0
    · obtain rfl : rest = [] := List.length_eq_zero_iff.mp nothing
      exact ⟨.ok (), s, [], by simp [sendAll], by simp [sendAll], .done d⟩
    have more : 0 < rest.length := Nat.pos_of_ne_zero nothing
    cases sending : send rest d s with
    | mk outcome s' =>
      have noting : noteSends send rest d (s, notes) =
          (outcome, s', notes ++ [⟨rest, d, outcome⟩]) := by simp only [noteSends, sending]
      cases outcome with
      | error e =>
        exact ⟨.error e, s', _, sendAll_failed patience more sending,
          sendAll_failed patience more noting, .failed d e more⟩
      | ok n =>
        obtain ⟨pos, le⟩ := accepting rest d s n more (by rw [sending])
        have shorter : (rest.drop n).length < k := by
          rw [List.length_drop]
          omega
        obtain ⟨r, s'', notes', plain, noted, sends⟩ :=
          ih _ shorter (rest.drop n) none s' (notes ++ [⟨rest, d, .ok n⟩]) rfl
        refine ⟨r, s'', ⟨rest, d, .ok n⟩ :: notes', ?_, ?_, .taken d pos le sends⟩
        · rw [sendAll_taken patience more pos sending]
          exact plain
        · rw [sendAll_taken patience more pos noting, noted, List.append_assoc]
          rfl

namespace Sends

variable {rest : List UInt8} {d : Option Descriptor} {notes before after : List Dispatch}
  {r : Except TransferError Unit} {x : Dispatch} {e : TransferError}

theorem length_le (h : Sends rest d notes r) : notes.length ≤ rest.length := by
  induction h with
  | done d => exact Nat.le_refl 0
  | failed d e more => exact more
  | taken d pos le _ ih =>
    rw [List.length_drop] at ih
    rw [List.length_cons]
    omega

theorem offered (h : Sends rest d notes r) (split : notes = before ++ x :: after) :
    accepted before ++ x.offered = rest := by
  induction h generalizing before with
  | done d => simp at split
  | failed d e more =>
    cases before with
    | nil =>
      cases split
      rfl
    | cons y before => simp at split
  | @taken rest n notes r d pos le _ ih =>
    cases before with
    | nil =>
      cases split
      rfl
    | cons y before =>
      cases split
      rw [accepted_cons_ok, List.append_assoc, ih rfl, List.take_append_drop]

theorem descriptor (h : Sends rest d notes r) (split : notes = before ++ x :: after) :
    x.descriptor = if before = [] then d else none := by
  induction h generalizing before with
  | done d => simp at split
  | failed d e more =>
    cases before with
    | nil =>
      cases split
      rfl
    | cons y before => simp at split
  | taken d pos le _ ih =>
    cases before with
    | nil =>
      cases split
      rfl
    | cons y before =>
      cases split
      -- Behind the first send there is no descriptor left to offer.
      simpa using ih rfl

theorem accepted_prefix (h : Sends rest d notes r) : accepted notes <+: rest := by
  induction h with
  | done d => exact List.prefix_rfl
  | failed d e more =>
    rw [accepted_cons_error]
    exact List.nil_prefix
  | @taken rest n notes r d pos le _ ih =>
    rw [accepted_cons_ok]
    simpa using (List.prefix_append_right_inj (rest.take n)).mpr ih

theorem ok_iff (h : Sends rest d notes r) : r = .ok () ↔ accepted notes = rest := by
  induction h with
  | done d => exact ⟨fun _ => rfl, fun _ => rfl⟩
  | @failed rest d e more =>
    have some : [] ≠ rest := by
      rintro rfl
      cases more
    rw [accepted_cons_error]
    exact ⟨nofun, fun none => absurd none some⟩
  | @taken rest n notes r d pos le _ ih =>
    have split : rest.take n ++ accepted notes = rest ↔
        rest.take n ++ accepted notes = rest.take n ++ rest.drop n := by
      rw [List.take_append_drop]
    rw [ih, accepted_cons_ok, split, List.append_cancel_left_eq]

theorem failure (h : Sends rest d notes r) (split : notes = before ++ x :: after)
    (fails : x.outcome = .error e) : after = [] ∧ r = .error e := by
  induction h generalizing before with
  | done d => simp at split
  | failed d e' more =>
    cases before with
    | nil =>
      cases split
      cases fails
      exact ⟨rfl, rfl⟩
    | cons y before => simp at split
  | taken d pos le _ ih =>
    cases before with
    | nil =>
      cases split
      cases fails
    | cons y before =>
      cases split
      exact ih rfl

theorem cause (h : Sends rest d notes r) (wrong : r = .error e) :
    ∃ before x, notes = before ++ [x] ∧ x.outcome = .error e := by
  induction h with
  | done d => cases wrong
  | failed d e' more =>
    cases wrong
    exact ⟨[], _, rfl, rfl⟩
  | taken d pos le _ ih =>
    obtain ⟨before, x, split, fails⟩ := ih wrong
    exact ⟨_ :: before, x, by rw [split]; rfl, fails⟩

theorem carried (h : Sends rest d notes r) : Carried rest d r notes where
  offered _ _ _ := h.offered
  descriptor _ _ _ := h.descriptor
  bounded := h.length_le
  whole := h.ok_iff
  failed before x after e split fails := by
    obtain ⟨last, wrong⟩ := h.failure split fails
    refine ⟨last, wrong, h.accepted_prefix, fun all => ?_⟩
    rw [h.ok_iff.mpr all] at wrong
    cases wrong
  cause _ := h.cause

end Sends

/-! ## Requests -/

section Payload

variable {o : Outgoing}

theorem payload_long (long : maxNameLength < o.name.length) :
    o.payload = .error (.nameTooLong o.name.length) := by
  rw [Outgoing.payload, if_pos long]

theorem payload_lopsided (short : o.name.length ≤ maxNameLength)
    (lopsided : o.extent.isLopsided = true) : o.payload = .error (.badDimensions o.extent) := by
  have checked : o.header.check = .error (.badDimensions o.extent) := by
    rw [Header.check, if_pos (show o.header.extent.isLopsided = true from lopsided)]
    rfl
  rw [Outgoing.payload, if_neg (Nat.not_lt.mpr short), checked]

theorem payload_fair (short : o.name.length ≤ maxNameLength)
    (even : o.extent.isLopsided = false) : o.payload = .ok (o.header.encode ++ o.name) := by
  have extent : o.header.extent.isLopsided = false := even
  have counted : o.header.nameLength.toNat = o.name.length := by
    simp only [maxNameLength] at short
    simp only [Outgoing.header, Nat.toUInt64, UInt64.toNat_ofNat']
    omega
  have checked : o.header.check = .ok () := by
    rw [Header.check, extent, counted, if_neg Bool.false_ne_true, if_neg (Nat.not_lt.mpr short)]
  rw [Outgoing.payload, if_neg (Nat.not_lt.mpr short), checked]

end Payload

/-- Taking a record of the sends changes nothing, and the record is as it should be. -/
theorem writeRequest_written {send : Send σ} (accepting : Accepting send) (patience : Nat)
    (o : Outgoing) (s : σ) :
    ∃ r s' notes, writeRequest send patience o s = (r, s') ∧
      writeRequest (noteSends send) patience o (s, []) = (r, s', notes) ∧ Written o r notes := by
  unfold writeRequest
  by_cases long : maxNameLength < o.name.length
  · rw [payload_long long]
    refine ⟨_, s, [], rfl, rfl, fun _ => ⟨rfl, rfl⟩, fun short => ?_, fun short => ?_⟩
    · exact absurd long (Nat.not_lt.mpr short)
    · exact absurd long (Nat.not_lt.mpr short)
  have short : o.name.length ≤ maxNameLength := Nat.le_of_not_lt long
  cases lopsided : o.extent.isLopsided with
  | true =>
    rw [payload_lopsided short lopsided]
    refine ⟨_, s, [], rfl, rfl, fun h => absurd h long, fun _ _ => ⟨rfl, rfl⟩, fun _ even => ?_⟩
    rw [lopsided] at even
    cases even
  | false =>
    rw [payload_fair short lopsided]
    obtain ⟨r, s', notes, plain, noted, sends⟩ := sendAll_sends accepting patience
      (o.header.encode ++ o.name) (o.picture.map (·.2)) s []
    refine ⟨r, s', notes, plain, noted, fun h => absurd h long, fun _ one => ?_,
      fun _ _ => sends.carried⟩
    rw [lopsided] at one
    cases one

/-- Accepts three bytes at a time, so many times, and then fails. -/
def faltering : Send Nat := fun bytes _ left =>
  if left = 0 then (.error .timedOut, 0) else (.ok (min 3 bytes.length), left - 1)

theorem accepting_faltering : Accepting faltering := by
  intro bytes descriptor left n some ok
  unfold faltering at ok
  split at ok
  · cases ok
  · cases ok
    omega

/-- A picture of two pixels for the monitor DP-1. -/
def parcel : Outgoing := ⟨[68, 80, 45, 49], some (⟨2, 1⟩, ⟨#[]⟩)⟩

/-- The third send fails, after six bytes. -/
theorem writeRequest_written_faltering :
    Accepting faltering ∧ ∃ s' notes,
      writeRequest (noteSends faltering) 0 parcel (2, []) = (.error .timedOut, s', notes) ∧
      accepted notes = [2, 0, 0, 0, 1, 0] ∧ notes.length = 3 ∧
      Written parcel (.error .timedOut) notes := by
  refine ⟨accepting_faltering, ?_⟩
  obtain ⟨r, s', notes, plain, noted, written⟩ :=
    writeRequest_written accepting_faltering 0 parcel 2
  have payload : parcel.payload = .ok (parcel.header.encode ++ parcel.name) := rfl
  have run : writeRequest (noteSends faltering) 0 parcel (2, []) = (.error .timedOut, 0,
      [⟨parcel.header.encode ++ parcel.name, some ⟨#[]⟩, .ok 3⟩,
        ⟨(parcel.header.encode ++ parcel.name).drop 3, none, .ok 3⟩,
        ⟨(parcel.header.encode ++ parcel.name).drop 6, none, .error .timedOut⟩]) := by
    simp only [writeRequest, payload]
    rw [sendAll_taken 0 (by decide) (by decide) rfl, sendAll_taken 0 (by decide) (by decide) rfl]
    exact sendAll_failed 0 (by decide) rfl
  rw [noted] at run
  cases run
  exact ⟨_, _, noted, by decide, rfl, written⟩

end Wire
end Backdrop
