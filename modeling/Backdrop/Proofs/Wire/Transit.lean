import Backdrop.Wire.Chunks
import Backdrop.Wire.Notes

/-!
# Backdrop.Proofs.Wire.Transit

Bytes on their way from one channel to another.

* `Cell` is a byte together with the descriptor that rides on it, and `load` loads a descriptor on
  the first of some bytes.
* `sent` is what a record of sends has put on the way, and `sendAll_sent` says that it is all that
  was to be sent, however little each send accepts.
* `Cut chunks cells` says that the chunks are those cells, cut somewhere, and `receiveExactly_cut`
  that it does not matter where.
* `readRequest_alike` compares channels that deliver the same.
-/

namespace Backdrop
namespace Wire

structure Cell where
  byte : UInt8
  rider : Option Descriptor
  deriving Repr, DecidableEq, Inhabited

def load : List UInt8 → Option Descriptor → List Cell
  | [], _ => []
  | b :: bs, d => ⟨b, d⟩ :: bs.map (⟨·, none⟩)

section Load

variable (bs : List UInt8) (d : Option Descriptor)

@[simp] theorem load_nil : load [] d = [] := rfl

theorem load_none : load bs none = bs.map (⟨·, none⟩) := by
  cases bs <;> rfl

@[simp] theorem length_load : (load bs d).length = bs.length := by
  cases bs <;> simp [load]

@[simp] theorem map_byte_load : (load bs d).map (·.byte) = bs := by
  cases bs with
  | nil => rfl
  | cons b bs => simp [load, Function.comp_def]

/-- The descriptor stays with the first byte. -/
theorem load_take_drop {n : Nat} (hn : 0 < n) :
    load bs d = load (bs.take n) d ++ load (bs.drop n) none := by
  obtain ⟨n, rfl⟩ := Nat.exists_eq_succ_of_ne_zero (Nat.ne_of_gt hn)
  cases bs with
  | nil => rfl
  | cons b bs =>
    rw [List.take_succ_cons, List.drop_succ_cons, load_none, load, load, List.cons_append,
      ← List.map_append, List.take_append_drop]

theorem load_append {bs : List UInt8} (hbs : 0 < bs.length) (bs' : List UInt8) :
    load (bs ++ bs') d = load bs d ++ load bs' none := by
  rw [load_take_drop _ d hbs, List.take_left, List.drop_left]

theorem findSome?_rider_none : (load bs none).findSome? (·.rider) = none := by
  rw [load_none]
  simp

theorem findSome?_rider {bs : List UInt8} (hbs : 0 < bs.length) :
    (load bs d).findSome? (·.rider) = d := by
  cases bs with
  | nil => cases hbs
  | cons b bs =>
    cases d with
    | none => exact findSome?_rider_none _
    | some d => rfl

end Load

/-! ## Sending -/

/-- What a send puts on the way. -/
def Dispatch.cells (x : Dispatch) : List Cell :=
  match x.outcome with
  | .ok n => load (x.offered.take n) x.descriptor
  | .error _ => []

def sent (notes : List Dispatch) : List Cell := notes.flatMap Dispatch.cells

variable {σ : Type}

/-- Every send accepts some of what it is offered. -/
def Productive (send : Send σ) : Prop :=
  ∀ bytes descriptor s, 0 < bytes.length → ∃ n s', send bytes descriptor s = (.ok n, s') ∧
    1 ≤ n ∧ n ≤ bytes.length

theorem sent_append (notes notes' : List Dispatch) :
    sent (notes ++ notes') = sent notes ++ sent notes' :=
  List.flatMap_append

theorem sendAll_sent {send : Send σ} (productive : Productive send) (patience : Nat)
    (rest : List UInt8) (descriptor : Option Descriptor) (s : σ) (notes : List Dispatch) :
    ∃ s' notes', sendAll (noteSends send) patience rest descriptor (s, notes) =
        (.ok (), s', notes ++ notes') ∧ sent notes' = load rest descriptor := by
  -- By induction on the number of bytes that are not accepted yet.
  induction hk : rest.length using Nat.strongRecOn generalizing rest descriptor s notes with
  | ind k ih =>
    rw [sendAll]
    split
    · rename_i done
      rw [List.length_eq_zero_iff.mp done]
      exact ⟨s, [], by simp, rfl⟩
    · rename_i more
      obtain ⟨n, s', accepts, pos, le⟩ := productive rest descriptor s (Nat.pos_of_ne_zero more)
      have hn : n ≠ 0 := Nat.ne_of_gt pos
      simp only [noteSends, accepts, if_neg hn]
      have shorter : (rest.drop n).length < k := by
        rw [List.length_drop]
        omega
      obtain ⟨s'', notes', all, cells⟩ := ih _ shorter (rest.drop n) none s'
        (notes ++ [⟨rest, descriptor, .ok n⟩]) rfl
      refine ⟨s'', ⟨rest, descriptor, .ok n⟩ :: notes', by simpa using all, ?_⟩
      rw [load_take_drop rest descriptor pos, ← cells]
      rfl

/-! ## Receiving -/

def Chunk.cells : Chunk → List Cell
  | .data bytes descriptor => load bytes descriptor
  | .failure _ => []

/-- The chunks are the cells, cut into pieces of one byte at least. -/
structure Cut (chunks : List Chunk) (cells : List Cell) : Prop where
  full : ∀ c ∈ chunks, 0 < c.cells.length
  joined : chunks.flatMap Chunk.cells = cells

namespace Cut

variable {chunks : List Chunk} {cells : List Cell}

theorem eq_nil (cut : Cut chunks []) : chunks = [] := by
  cases chunks with
  | nil => rfl
  | cons c chunks =>
    have first := cut.full c List.mem_cons_self
    have joined := congrArg List.length cut.joined
    simp only [List.flatMap_cons, List.length_append, List.length_nil] at joined
    omega

/-- A receive takes some of the first cells, whatever follows them. -/
theorem receive (cut : Cut chunks cells) (more : 0 < cells.length) {n : Nat} (hn : 0 < n)
    (tail : List Chunk) :
    ∃ got chunks' rest, Chunk.receive n (chunks ++ tail) = (.ok got, chunks' ++ tail) ∧
      0 < got.bytes.length ∧ got.bytes.length ≤ n ∧
      cells = load got.bytes got.descriptor ++ rest ∧ Cut chunks' rest := by
  obtain ⟨full, rfl⟩ := cut
  cases chunks with
  | nil => cases more
  | cons c chunks =>
    have first := full c List.mem_cons_self
    have others : ∀ c ∈ chunks, 0 < c.cells.length := fun c hc => full c (List.mem_cons_of_mem _ hc)
    cases c with
    | failure e => cases first
    | data bytes descriptor =>
      simp only [Chunk.cells, length_load] at first
      have taken : 0 < (bytes.take n).length := by
        rw [List.length_take]
        omega
      have split := load_take_drop bytes descriptor hn
      simp only [List.cons_append, Chunk.receive, List.flatMap_cons, Chunk.cells]
      cases left : bytes.drop n with
      | nil =>
        refine ⟨_, chunks, chunks.flatMap Chunk.cells, rfl, taken, List.length_take_le n bytes, ?_,
          others, rfl⟩
        rw [split, left, load_nil, List.append_nil]
      | cons b bs =>
        refine ⟨_, .data (b :: bs) none :: chunks, _, rfl, taken, List.length_take_le n bytes, ?_,
          List.forall_mem_cons.mpr ⟨Nat.succ_pos _, others⟩, rfl⟩
        rw [split, left, List.append_assoc]
        rfl

end Cut

theorem fill_cut {chunks : List Chunk} {xs rest : List Cell} (cut : Cut chunks (xs ++ rest))
    (have_ : List UInt8) (first : Option Descriptor) (tail : List Chunk) :
    ∃ chunks', fill Chunk.receive xs.length have_ first (chunks ++ tail) =
        (.ok (have_ ++ xs.map (·.byte), first.or (xs.findSome? (·.rider))), chunks' ++ tail) ∧
      Cut chunks' rest := by
  -- By induction on the number of bytes that are missing.
  induction hk : xs.length using Nat.strongRecOn generalizing chunks xs have_ first with
  | ind k ih =>
    rw [fill]
    split
    · rename_i done
      obtain rfl : xs = [] := List.length_eq_zero_iff.mp (hk.trans done)
      exact ⟨chunks, by simp, cut⟩
    · rename_i more
      have long : 0 < (xs ++ rest).length := by
        rw [List.length_append]
        omega
      obtain ⟨got, chunks', rest', received, some, le, joined, cut'⟩ :=
        cut.receive long (Nat.pos_of_ne_zero more) tail
      -- What was received lies within the cells that are missing.
      obtain ⟨ys, rfl, rfl⟩ :
          ∃ ys, xs = load got.bytes got.descriptor ++ ys ∧ rest' = ys ++ rest := by
        rcases List.append_eq_append_iff.mp joined with ⟨ys, hxs, hrest⟩ | ⟨ys, hxs, hrest⟩
        · have : ys.length = 0 := by
            have := congrArg List.length hxs
            simp only [List.length_append, length_load] at this
            omega
          obtain rfl : ys = [] := List.length_eq_zero_iff.mp this
          exact ⟨[], by simpa using hxs.symm, by simpa using hrest.symm⟩
        · exact ⟨ys, hxs, hrest⟩
      have hlen : k - got.bytes.length = ys.length := by
        simp only [List.length_append, length_load] at hk
        omega
      have hpos : got.bytes.length ≠ 0 := Nat.ne_of_gt some
      simp only [received, if_neg hpos, hlen]
      obtain ⟨chunks'', filled, cut''⟩ := ih ys.length (by omega) cut' (have_ ++ got.bytes)
        (first.or got.descriptor) rfl
      refine ⟨chunks'', ?_, cut''⟩
      rw [filled, List.map_append, map_byte_load, List.findSome?_append, findSome?_rider _ some,
        List.append_assoc, Option.or_assoc]

/-- However the cells are cut, the first of them are received, and the others are left. -/
theorem receiveExactly_cut {chunks : List Chunk} {xs rest : List Cell}
    (cut : Cut chunks (xs ++ rest)) (tail : List Chunk) :
    ∃ chunks', receiveExactly Chunk.receive xs.length (chunks ++ tail) =
        (.ok (xs.map (·.byte), xs.findSome? (·.rider)), chunks' ++ tail) ∧ Cut chunks' rest := by
  obtain ⟨chunks', filled, cut'⟩ := fill_cut cut [] none tail
  exact ⟨chunks', by simpa [receiveExactly] using filled, cut'⟩

/-! ## Channels that are alike -/

section Alike

variable {σ τ : Type} {receive : Receive σ} {receive' : Receive τ} {R : σ → τ → Prop}

/-- In related states the channels deliver the same, and come to related states again. -/
def Alike (receive : Receive σ) (receive' : Receive τ) (R : σ → τ → Prop) : Prop :=
  ∀ n s t, R s t → (receive n s).1 = (receive' n t).1 ∧ R (receive n s).2 (receive' n t).2

theorem fill_alike (alike : Alike receive receive' R) {s : σ} {t : τ} (start : R s t) (n : Nat)
    (have_ : List UInt8) (first : Option Descriptor) :
    (fill receive n have_ first s).1 = (fill receive' n have_ first t).1 ∧
      R (fill receive n have_ first s).2 (fill receive' n have_ first t).2 := by
  -- By induction on the number of bytes that are missing.
  induction hn : n using Nat.strongRecOn generalizing n s t have_ first with
  | ind k ih =>
    subst hn
    rw [fill, fill]
    by_cases done : n = 0
    · rw [if_pos done, if_pos done]
      exact ⟨rfl, start⟩
    rw [if_neg done, if_neg done]
    obtain ⟨same, next⟩ := alike n s t start
    generalize receive n s = x at same next ⊢
    generalize receive' n t = y at same next ⊢
    obtain ⟨r, s'⟩ := x
    obtain ⟨_, t'⟩ := y
    obtain rfl := same
    cases r with
    | error e => exact ⟨rfl, next⟩
    | ok got =>
      by_cases bare : got.bytes.length = 0
      · simp only [if_pos bare]
        exact ⟨trivial, next⟩
      · simp only [if_neg bare]
        exact ih _ (by omega) next _ _ _ rfl

theorem readRequest_alike (alike : Alike receive receive' R) {s : σ} {t : τ} (start : R s t) :
    (readRequest receive s).1 = (readRequest receive' t).1 ∧
      R (readRequest receive s).2 (readRequest receive' t).2 := by
  obtain ⟨same, next⟩ := fill_alike alike start Header.size [] none
  unfold readRequest receiveExactly
  generalize fill receive Header.size [] none s = x at same next ⊢
  generalize fill receive' Header.size [] none t = y at same next ⊢
  obtain ⟨r, s'⟩ := x
  obtain ⟨_, t'⟩ := y
  obtain rfl := same
  cases r with
  | error e => exact ⟨rfl, next⟩
  | ok header =>
    cases checked : (Header.decode header.1).check with
    | error e =>
      simp only [checked]
      exact ⟨trivial, next⟩
    | ok _ =>
      simp only [checked, readNamed, receiveExactly]
      obtain ⟨same, next⟩ := fill_alike alike next (Header.decode header.1).nameLength.toNat [] none
      generalize fill receive _ [] none s' = x at same next ⊢
      generalize fill receive' _ [] none t' = y at same next ⊢
      obtain ⟨r, s''⟩ := x
      obtain ⟨_, t''⟩ := y
      obtain rfl := same
      cases r with
      | error e => exact ⟨rfl, next⟩
      | ok name => exact ⟨rfl, next⟩

end Alike

end Wire
end Backdrop
