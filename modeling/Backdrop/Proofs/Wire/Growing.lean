import Backdrop.Wire.Stream

/-!
# Backdrop.Proofs.Wire.Growing

Requests that are read while they are still being written.

* `Deed` is what a client does with its end of a connection, and `Stream.after` what comes of it.
  Once the end is closed nothing comes of anything.
* `Stream.receiveAmid` receives from a stream on which the client goes on: before each receive it
  does some more.
* `readRequest_amid` says that this reads what one finds who waits until the reading is over and
  then reads at once. `readRequest_grown` says that what is read stands whatever else arrives,
  unless the client stalls.
-/

namespace Backdrop
namespace Wire

inductive Deed where
  | write (m : Message)
  | close
  | fail (cause : Errno)
  deriving Repr, DecidableEq, Inhabited

namespace Stream

/-- The client may still write. -/
def Waits (s : Stream) : Prop := s.writerOpen = true ∧ s.fault = none

def sever (cause : Errno) (s : Stream) : Stream :=
  { s with writerOpen := false, fault := some cause }

def after (s : Stream) (d : Deed) : Stream :=
  if s.writerOpen then
    match d with
    | .write m => (s.push m).2
    | .close => s.closeWriter
    | .fail cause => s.sever cause
  else s

def afterAll (s : Stream) (ds : List Deed) : Stream := ds.foldl after s

/-- More is queued, and perhaps the other end is closed. -/
def grown (more : List Message) (writerOpen : Bool) (fault : Option Errno) (s : Stream) : Stream :=
  { s with queue := s.queue ++ more, writerOpen := writerOpen, fault := fault }

/-- No message is without bytes. -/
def Full (queue : List Message) : Prop := ∀ m ∈ queue, m.bytes ≠ []

/-! ## Queues that grow at the end -/

theorem take_append {n : Nat} (pos : 0 < n) (queue : List Message) :
    (∃ bytes, take n queue = (bytes, [], []) ∧ bytes.length < n ∧
      ∀ more, take n (queue ++ more) = (bytes ++ (take (n - bytes.length) more).1,
        (take (n - bytes.length) more).2)) ∨
    ∀ more, take n (queue ++ more) =
      ((take n queue).1, (take n queue).2.1, (take n queue).2.2 ++ more) := by
  induction queue generalizing n with
  | nil => exact .inl ⟨[], rfl, pos, fun more => by simp⟩
  | cons m rest ih =>
    by_cases short : n < m.bytes.length
    · right
      intro more
      simp [take, short]
    by_cases bare : m.descriptors.isEmpty
    · by_cases whole : n = m.bytes.length
      · right
        intro more
        simp [take, bare, ← whole]
      · have left : 0 < n - m.bytes.length := by omega
        rcases ih left with ⟨bytes, taken, fewer, on⟩ | on
        · refine .inl ⟨m.bytes ++ bytes, ?_, ?_, fun more => ?_⟩
          · simp [take, short, bare, whole, taken]
          · rw [List.length_append]
            omega
          · simp [take, short, bare, whole, on, Nat.sub_add_eq]
        · refine .inr fun more => ?_
          simp [take, short, bare, whole, on]
    · right
      intro more
      simp [take, short, bare]

theorem length_take_le (n : Nat) (queue : List Message) : (take n queue).1.length ≤ n := by
  induction queue generalizing n with
  | nil => exact Nat.zero_le n
  | cons m rest ih =>
    have := ih (n - m.bytes.length)
    simp only [take]
    split
    · exact List.length_take_le n m.bytes
    · split
      · split
        · simp; omega
        · simp; omega
      · simp; omega

theorem Full.take {queue : List Message} (full : Full queue) (n : Nat) :
    Full (take n queue).2.2 := by
  induction queue generalizing n with
  | nil => exact full
  | cons m rest ih =>
    have others : Full rest := fun m' hm => full m' (List.mem_cons_of_mem _ hm)
    simp only [Stream.take]
    split
    · rename_i short
      refine List.forall_mem_cons.mpr ⟨?_, others⟩
      simpa using short
    · split
      · split
        · exact others
        · exact ih others _
      · exact others

theorem Full.take_pos {queue : List Message} (full : Full queue) (some : queue ≠ []) {n : Nat}
    (pos : 0 < n) : 0 < (Stream.take n queue).1.length := by
  cases queue with
  | nil => exact absurd rfl some
  | cons m rest =>
    have bytes : 0 < m.bytes.length := List.length_pos_iff.mpr (full m List.mem_cons_self)
    simp only [Stream.take]
    split
    · simp; omega
    · split
      · split
        · exact bytes
        · simp; omega
      · exact bytes

/-! ## Receives -/

section Receive

variable {s s' : Stream} {n : Nat} {got : Received}

theorem receive_ok (received : receive n s = (.ok got, s')) (some : got.bytes.length ≠ 0) :
    s.queue ≠ [] ∧ got = ⟨(take n s.queue).1, (take n s.queue).2.1.head?⟩ ∧
      (take n s.queue).2.1.length ≤ maxDescriptors ∧
      s' = { s with
        queue := (take n s.queue).2.2
        log := s.log ++ (keepFirst (take n s.queue).2.1).2 } := by
  unfold receive at received
  split at received
  · split at received
    · cases received
    · split at received <;> cases received
      exact absurd rfl some
  · rename_i queued
    simp only at received
    split at received <;> cases received
    rename_i room
    refine ⟨fun nothing => queued (by simp [nothing]), rfl, Nat.not_lt.mp room, rfl⟩

theorem receive_queued (some : s.queue ≠ [])
    (room : (take n s.queue).2.1.length ≤ maxDescriptors) :
    receive n s = (.ok ⟨(take n s.queue).1, (take n s.queue).2.1.head?⟩,
      { s with
        queue := (take n s.queue).2.2
        log := s.log ++ (keepFirst (take n s.queue).2.1).2 }) := by
  have queued : s.queue.isEmpty = false := by simpa using some
  simp only [receive, queued, Bool.false_eq_true, if_false, if_neg (Nat.not_lt.mpr room)]
  rfl

theorem receive_crowded (some : s.queue ≠ [])
    (crowded : maxDescriptors < (take n s.queue).2.1.length) :
    receive n s = (.error (.message .noBuffers), { s with queue := (take n s.queue).2.2 }) := by
  have queued : s.queue.isEmpty = false := by simpa using some
  simp only [receive, queued, Bool.false_eq_true, if_false, if_pos crowded]

/-- What is noted about a stream does not matter for what is received; more is noted behind it. -/
theorem receive_noted (n : Nat) (s : Stream) :
    receive n s = ((receive n { s with log := [] }).1,
      { (receive n { s with log := [] }).2 with
        log := s.log ++ (receive n { s with log := [] }).2.log }) := by
  obtain ⟨queue, writerOpen, readerOpen, fault, log⟩ := s
  by_cases bare : queue = []
  · subst bare
    cases fault with
    | some e => simp [receive]
    | none => cases writerOpen <;> simp [receive]
  · by_cases crowded : maxDescriptors < (take n queue).2.1.length
    · rw [receive_crowded bare crowded, receive_crowded bare crowded]
      simp
    · have room := Nat.not_lt.mp crowded
      rw [receive_queued bare room, receive_queued bare room]
      simp

/-- What is received first may as well be received along with what is queued later. -/
theorem fill_receive (pos : 0 < n) (received : receive n s = (.ok got, s'))
    (some : got.bytes.length ≠ 0) {more : List Message} (later : Full more) (writerOpen : Bool)
    (fault : Option Errno) (have_ : List UInt8) (first : Option Descriptor) :
    fill receive n have_ first (s.grown more writerOpen fault) =
      fill receive (n - got.bytes.length) (have_ ++ got.bytes) (first.or got.descriptor)
        (s'.grown more writerOpen fault) := by
  obtain ⟨queued, rfl, room, rfl⟩ := receive_ok received some
  have queued' : (s.grown more writerOpen fault).queue ≠ [] := by
    simp [grown, queued]
  rw [fill, if_neg (Nat.ne_of_gt pos)]
  rcases take_append pos s.queue with ⟨bytes, taken, fewer, on⟩ | on
  · -- Nothing is left of what was queued, and there is room for more.
    rw [taken] at some ⊢
    simp only at some
    cases more with
    | nil =>
      have same : (s.grown [] writerOpen fault).queue = s.queue := List.append_nil _
      rw [receive_queued queued' (by rw [same, taken]; exact Nat.zero_le _)]
      simp only [same, taken, if_neg some]
      simp [grown]
    | cons m more =>
      have left : n - bytes.length ≠ 0 := by omega
      have more_pos := later.take_pos (List.cons_ne_nil _ _) (Nat.pos_of_ne_zero left)
      rw [fill.eq_def receive (n - bytes.length), if_neg left]
      by_cases crowded :
          maxDescriptors < (take (n - bytes.length) (m :: more)).2.1.length
      · rw [receive_crowded queued' (by simpa [grown, on] using crowded),
          receive_crowded (by simp [grown]) (by simpa [grown] using crowded)]
        simp [grown, on, keepFirst]
      · rw [receive_queued queued' (by simpa [grown, on] using crowded),
          receive_queued (by simp [grown]) (by simpa [grown] using crowded)]
        have more_ne := Nat.ne_of_gt more_pos
        simp [grown, on, keepFirst, more_ne, some, Nat.sub_add_eq]
  · rw [receive_queued queued' (by simpa [grown, on] using room)]
    simp only [grown, on, if_neg some]

/-- What receives leave of a stream. -/
structure Leaves (s s' : Stream) : Prop where
  full : Full s'.queue
  writerOpen : s'.writerOpen = s.writerOpen
  readerOpen : s'.readerOpen = s.readerOpen
  fault : s'.fault = s.fault

theorem Leaves.trans {s'' : Stream} (before : Leaves s s') (after : Leaves s' s'') :
    Leaves s s'' :=
  ⟨after.full, after.writerOpen.trans before.writerOpen, after.readerOpen.trans before.readerOpen,
    after.fault.trans before.fault⟩

theorem Leaves.waits (leaves : Leaves s s') (waits : s.Waits) : s'.Waits :=
  ⟨leaves.writerOpen.trans waits.1, leaves.fault.trans waits.2⟩

/-- A receive delivers bytes, or it comes to the end of what is queued, or there are too many
descriptors. -/
theorem receive_cases (full : Full s.queue) (pos : 0 < n) :
    (∃ got s', receive n s = (.ok got, s') ∧ 0 < got.bytes.length ∧ got.bytes.length ≤ n ∧
      Leaves s s') ∨
    (s.queue = [] ∧ (receive n s).2 = s ∧ ∀ got, (receive n s).1 = .ok got → got.bytes = []) ∨
    (s.queue ≠ [] ∧ maxDescriptors < (take n s.queue).2.1.length) := by
  by_cases none : s.queue = []
  · refine .inr (.inl ⟨none, ?_⟩)
    simp only [receive, none, List.isEmpty_nil, if_true]
    cases s.fault with
    | some e => exact ⟨rfl, fun _ h => (nomatch h)⟩
    | none =>
      cases s.writerOpen with
      | true => exact ⟨rfl, fun _ h => (nomatch h)⟩
      | false => exact ⟨rfl, by rintro _ ⟨⟩; rfl⟩
  by_cases crowded : maxDescriptors < (take n s.queue).2.1.length
  · exact .inr (.inr ⟨none, crowded⟩)
  · exact .inl ⟨_, _, receive_queued none (Nat.not_lt.mp crowded), full.take_pos none pos,
      length_take_le n s.queue, full.take n, rfl, rfl, rfl⟩

theorem receive_leaves (full : Full s.queue) (pos : 0 < n) : Leaves s (receive n s).2 := by
  rcases receive_cases full pos with
    ⟨_, s', received, _, _, leaves⟩ | ⟨_, same, _⟩ | ⟨some, crowded⟩
  · rw [received]
    exact leaves
  · rw [same]
    exact ⟨full, rfl, rfl, rfl⟩
  · rw [receive_crowded some crowded]
    exact ⟨full.take n, rfl, rfl, rfl⟩

theorem fill_leaves (full : Full s.queue) (have_ : List UInt8) (first : Option Descriptor) :
    Leaves s (fill receive n have_ first s).2 := by
  -- By induction on the number of bytes that are missing.
  induction hn : n using Nat.strongRecOn generalizing n s have_ first with
  | ind k ih =>
    subst hn
    rw [fill]
    split
    · exact ⟨full, rfl, rfl, rfl⟩
    · rename_i more
      have leaves := receive_leaves full (Nat.pos_of_ne_zero more)
      cases received : receive n s with
      | mk r s' =>
        rw [received] at leaves
        cases r with
        | error e => exact leaves
        | ok got =>
          simp only
          split
          · exact leaves
          · exact leaves.trans (ih _ (by omega) leaves.full _ _ rfl)

end Receive

/-! ## What is read stands -/

section Settled

variable {s : Stream} {more : List Message} (writerOpen : Bool) (fault : Option Errno)

theorem fill_grown (full : Full s.queue) (later : Full more) {n : Nat} (have_ : List UInt8)
    (first : Option Descriptor)
    (told : (∃ x, (fill receive n have_ first s).1 = .ok x) ∨
      s.Waits ∧ (fill receive n have_ first s).1 ≠ .error .timedOut) :
    fill receive n have_ first (s.grown more writerOpen fault) =
      ((fill receive n have_ first s).1,
        (fill receive n have_ first s).2.grown more writerOpen fault) := by
  -- By induction on the number of bytes that are missing.
  induction hn : n using Nat.strongRecOn generalizing n s have_ first with
  | ind k ih =>
    subst hn
    by_cases done : n = 0
    · rw [fill, fill, if_pos done, if_pos done]
    have pos : 0 < n := Nat.pos_of_ne_zero done
    rcases receive_cases full pos with
      ⟨got, s', received, some, le, leaves⟩ | ⟨empty, _, bare⟩ | ⟨queued, crowded⟩
    · have some' := Nat.ne_of_gt some
      have step : fill receive n have_ first s =
          fill receive (n - got.bytes.length) (have_ ++ got.bytes)
            (first.or got.descriptor) s' := by
        rw [fill, if_neg done]
        simp only [received, if_neg some']
      rw [step] at told
      rw [fill_receive pos received some' later, step]
      refine ih _ (by omega) leaves.full _ _ ?_ rfl
      exact told.imp_right fun ⟨waits, h⟩ => ⟨leaves.waits waits, h⟩
    · -- At the end of what is queued nothing has been told.
      exfalso
      rw [fill, if_neg done] at told
      rcases told with ⟨x, told⟩ | ⟨⟨writer, sound⟩, told⟩
      · cases received : receive n s with
        | mk r s' =>
          rw [received] at told bare
          cases r with
          | error e => cases told
          | ok got => simp [bare got rfl] at told
      · exact told (by simp [receive, empty, writer, sound])
    · have grown_queued : (s.grown more writerOpen fault).queue ≠ [] := by
        simp [grown, queued]
      rw [fill, fill, if_neg done, if_neg done, receive_crowded queued crowded]
      rcases take_append pos s.queue with ⟨bytes, taken, _, _⟩ | on
      · rw [taken] at crowded
        cases crowded
      · rw [receive_crowded grown_queued (by simpa [grown, on] using crowded)]
        simp [grown, on]

/-- Unless the client stalls, what is read stands whatever else it sends. -/
theorem readRequest_grown (full : Full s.queue) (later : Full more) (waits : s.Waits)
    (told : (readRequest receive s).1 ≠ .error .timedOut) :
    (readRequest receive (s.grown more writerOpen fault)).1 = (readRequest receive s).1 := by
  have header := fill_grown writerOpen fault full later (n := Header.size) [] none
  have leaves := fill_leaves (n := Header.size) full [] none
  unfold readRequest receiveExactly at told ⊢
  cases filled : fill receive Header.size [] none s with
  | mk r s' =>
    rw [filled] at told header leaves
    cases r with
    | error e =>
      rw [header (.inr ⟨waits, fun h => told (by cases h; rfl)⟩)]
    | ok x =>
      obtain ⟨bytes, descriptor⟩ := x
      rw [header (.inl ⟨_, rfl⟩)]
      cases checked : (Header.decode bytes).check with
      | error e => simp only [checked]
      | ok _ =>
        simp only [checked, readNamed, receiveExactly] at told ⊢
        have name := fill_grown writerOpen fault leaves.full later
          (n := (Header.decode bytes).nameLength.toNat) [] none
        cases named : fill receive (Header.decode bytes).nameLength.toNat [] none s' with
        | mk r' s'' =>
          rw [named] at told name
          cases r' with
          | error e => rw [name (.inr ⟨leaves.waits waits, fun h => told (by cases h; rfl)⟩)]
          | ok y => rw [name (.inl ⟨_, rfl⟩)]

end Settled

/-! ## Deeds -/

/-- A stream that only its client has touched. -/
structure Fair (s : Stream) : Prop where
  full : Full s.queue
  sound : s.writerOpen = true → s.fault = none
  readerOpen : s.readerOpen = true
  quiet : s.log = []

theorem full_nil : Full [] := fun _ hm => (nomatch hm)

theorem fair_open : Fair open_ := ⟨full_nil, fun _ => rfl, rfl, rfl⟩

/-- What a push queues does not depend on what is still queued. -/
theorem push_grown (m : Message) (s : Stream) :
    ∃ more, Full more ∧ ∀ queue log, (push m { s with queue := queue, log := log }).2 =
      { s with queue := queue ++ more, log := log } := by
  by_cases many : maxSent < m.descriptors.length
  · exact ⟨[], full_nil, fun queue log => by simp [push, many]⟩
  cases there : s.readerOpen with
  | false => exact ⟨[], full_nil, fun queue log => by simp [push, many]⟩
  | true =>
    by_cases bare : m.bytes = []
    · exact ⟨[], full_nil, fun queue log => by simp [push, many, bare]⟩
    · exact ⟨[m], List.forall_mem_singleton.mpr bare, fun queue log => by simp [push, many, bare]⟩

theorem after_grown (s : Stream) (d : Deed) :
    ∃ more writerOpen fault, Full more ∧
      (writerOpen = true → s.writerOpen = true ∧ fault = s.fault) ∧
      ∀ queue log, ({ s with queue := queue, log := log } : Stream).after d =
        ({ s with queue := queue, log := log } : Stream).grown more writerOpen fault := by
  cases hw : s.writerOpen with
  | false =>
    refine ⟨[], false, s.fault, full_nil, by simp, fun queue log => ?_⟩
    simp [after, grown]
  | true =>
    cases d with
    | close =>
      refine ⟨[], false, s.fault, full_nil, by simp, fun queue log => ?_⟩
      simp [after, grown, closeWriter]
    | fail cause =>
      refine ⟨[], false, some cause, full_nil, by simp, fun queue log => ?_⟩
      simp [after, grown, sever]
    | write m =>
      obtain ⟨more, full, pushed⟩ := push_grown m s
      rw [hw] at pushed
      refine ⟨more, true, s.fault, full, by simp, fun queue log => ?_⟩
      simp [after, grown, pushed]

theorem afterAll_grown (s : Stream) (ds : List Deed) :
    ∃ more writerOpen fault, Full more ∧
      ∀ queue log, ({ s with queue := queue, log := log } : Stream).afterAll ds =
        ({ s with queue := queue, log := log } : Stream).grown more writerOpen fault := by
  -- By induction on the deeds.
  induction ds generalizing s with
  | nil =>
    exact ⟨[], s.writerOpen, s.fault, full_nil, fun queue log => by simp [afterAll, grown]⟩
  | cons d ds ih =>
    obtain ⟨more, writerOpen, fault, full, _, one⟩ := after_grown s d
    obtain ⟨more', writerOpen', fault', full', all⟩ :=
      ih { s with writerOpen := writerOpen, fault := fault }
    refine ⟨more ++ more', writerOpen', fault', List.forall_mem_append.mpr ⟨full, full'⟩, ?_⟩
    intro queue log
    have rest := all (queue ++ more) log
    simp only [afterAll, List.foldl_cons] at rest ⊢
    rw [one queue log]
    simpa [grown] using rest

theorem afterAll_eq_grown (s : Stream) (ds : List Deed) :
    ∃ more writerOpen fault, Full more ∧ s.afterAll ds = s.grown more writerOpen fault := by
  obtain ⟨more, writerOpen, fault, full, all⟩ := afterAll_grown s ds
  exact ⟨more, writerOpen, fault, full, all s.queue s.log⟩

theorem Full.afterAll {s : Stream} (full : Full s.queue) (ds : List Deed) :
    Full (s.afterAll ds).queue := by
  obtain ⟨more, writerOpen, fault, later, all⟩ := afterAll_eq_grown s ds
  rw [all]
  exact List.forall_mem_append.mpr ⟨full, later⟩

/-- What is noted about a stream does not matter for what comes of deeds. -/
theorem afterAll_noted (s : Stream) (log : List Log.Line) (ds : List Deed) :
    ({ s with log := log } : Stream).afterAll ds = { s.afterAll ds with log := log } := by
  obtain ⟨more, writerOpen, fault, _, all⟩ := afterAll_grown s ds
  have plain : s.afterAll ds = s.grown more writerOpen fault := all s.queue s.log
  rw [plain]
  exact all s.queue log

theorem log_afterAll (s : Stream) (ds : List Deed) : (s.afterAll ds).log = s.log := by
  obtain ⟨more, writerOpen, fault, _, all⟩ := afterAll_eq_grown s ds
  rw [all]
  rfl

/-- Once the end is closed nothing comes of anything. -/
theorem afterAll_closed {s : Stream} (closed : s.writerOpen = false) (ds : List Deed) :
    s.afterAll ds = s := by
  induction ds with
  | nil => rfl
  | cons d ds ih =>
    have one : s.after d = s := by simp [after, closed]
    rw [afterAll, List.foldl_cons, one]
    exact ih

theorem Fair.after {s : Stream} (fair : Fair s) (d : Deed) : Fair (s.after d) := by
  obtain ⟨more, writerOpen, fault, full, open_, one⟩ := after_grown s d
  have one : s.after d = s.grown more writerOpen fault := one s.queue s.log
  rw [one]
  refine ⟨List.forall_mem_append.mpr ⟨fair.full, full⟩, fun h => ?_, fair.readerOpen, fair.quiet⟩
  obtain ⟨before, same⟩ := open_ h
  exact same.trans (fair.sound before)

theorem Fair.afterAll {s : Stream} (fair : Fair s) (ds : List Deed) : Fair (s.afterAll ds) :=
  List.foldlRecOn ds Stream.after fair fun _ fair d _ => fair.after d

/-- Either the client stalls, or what is read is what is read from all that it ever sends. -/
theorem readRequest_settled {s : Stream} (fair : Fair s) :
    ((readRequest receive s).1 = .error .timedOut ∧ s.Waits) ∨
      ∀ ds, (readRequest receive (s.afterAll ds)).1 = (readRequest receive s).1 := by
  cases hw : s.writerOpen with
  | false =>
    right
    intro ds
    rw [afterAll_closed hw]
  | true =>
    have waits : s.Waits := ⟨hw, fair.sound hw⟩
    by_cases stalls : (readRequest receive s).1 = .error .timedOut
    · exact .inl ⟨stalls, waits⟩
    · right
      intro ds
      obtain ⟨more, writerOpen, fault, full, all⟩ := afterAll_eq_grown s ds
      rw [all]
      exact readRequest_grown writerOpen fault fair.full full waits stalls

/-! ## Reading while the client goes on -/

/-- Before each receive the client does some more. -/
def receiveAmid : Receive (Stream × List (List Deed)) := fun n (s, pace) =>
  let (r, s) := receive n (s.afterAll (pace.headD []))
  (r, s, pace.tail)

theorem flatten_take_succ (pace : List (List Deed)) (u : Nat) :
    (pace.take (u + 1)).flatten = pace.headD [] ++ (pace.tail.take u).flatten := by
  cases pace with
  | nil => simp
  | cons ds pace => simp

theorem afterAll_append (s : Stream) (ds ds' : List Deed) :
    s.afterAll (ds ++ ds') = (s.afterAll ds).afterAll ds' :=
  List.foldl_append

/-- What the client does afterwards is queued behind what receives left. -/
theorem Leaves.afterAll {s s' : Stream} (leaves : Leaves s s') (ds : List Deed) :
    ∃ more writerOpen fault, Full more ∧ s.afterAll ds = s.grown more writerOpen fault ∧
      s'.afterAll ds = s'.grown more writerOpen fault := by
  obtain ⟨more, writerOpen, fault, later, all⟩ := afterAll_grown s ds
  have same : s' = { s with queue := s'.queue, log := s'.log } := by
    obtain ⟨_, writer, reader, faults⟩ := leaves
    cases s'
    cases writer
    cases reader
    cases faults
    rfl
  refine ⟨more, writerOpen, fault, later, all s.queue s.log, ?_⟩
  rw [same]
  exact all s'.queue s'.log

theorem fill_amid {s : Stream} (full : Full s.queue) (n : Nat) (have_ : List UInt8)
    (first : Option Descriptor) (pace : List (List Deed)) :
    ∃ u, fill receiveAmid n have_ first (s, pace) =
      ((fill receive n have_ first (s.afterAll (pace.take u).flatten)).1,
        (fill receive n have_ first (s.afterAll (pace.take u).flatten)).2, pace.drop u) := by
  -- By induction on the number of bytes that are missing.
  induction hn : n using Nat.strongRecOn generalizing n s have_ first pace with
  | ind k ih =>
    subst hn
    by_cases done : n = 0
    · refine ⟨0, ?_⟩
      rw [fill, fill, if_pos done, if_pos done]
      rfl
    have pos : 0 < n := Nat.pos_of_ne_zero done
    have once : (pace.take 1).flatten = pace.headD [] := by
      rw [flatten_take_succ, List.take_zero, List.flatten_nil, List.append_nil]
    have grown := full.afterAll (pace.headD [])
    cases received : receive n (s.afterAll (pace.headD [])) with
    | mk r s' =>
      cases r with
      | error e =>
        refine ⟨1, ?_⟩
        rw [fill, fill, if_neg done, if_neg done, once, List.drop_one]
        simp only [receiveAmid, received]
      | ok got =>
        by_cases bare : got.bytes.length = 0
        · refine ⟨1, ?_⟩
          rw [fill, fill, if_neg done, if_neg done, once, List.drop_one]
          simp only [receiveAmid, received, if_pos bare]
        · have leaves := receive_leaves grown pos
          rw [received] at leaves
          obtain ⟨u, rest⟩ := ih (n - got.bytes.length) (by omega) leaves.full
            (n - got.bytes.length) (have_ ++ got.bytes) (first.or got.descriptor) pace.tail rfl
          obtain ⟨more, writerOpen, fault, later, whole, behind⟩ :=
            leaves.afterAll (pace.tail.take u).flatten
          rw [behind, ← fill_receive pos received bare later, ← whole] at rest
          refine ⟨u + 1, ?_⟩
          rw [flatten_take_succ, afterAll_append, ← List.drop_tail, fill, if_neg done]
          simp only [receiveAmid, received, if_neg bare]
          exact rest

/-- Reading while the client goes on is waiting for as long and then reading at once. -/
theorem readRequest_amid {s : Stream} (full : Full s.queue) (pace : List (List Deed)) :
    ∃ u, readRequest receiveAmid (s, pace) =
      ((readRequest receive (s.afterAll (pace.take u).flatten)).1,
        (readRequest receive (s.afterAll (pace.take u).flatten)).2, pace.drop u) := by
  obtain ⟨u, header⟩ := fill_amid full Header.size [] none pace
  have grown := full.afterAll (pace.take u).flatten
  have leaves := fill_leaves (n := Header.size) grown [] none
  unfold readRequest receiveExactly
  rw [header]
  cases filled : fill receive Header.size [] none (s.afterAll (pace.take u).flatten) with
  | mk r s' =>
    rw [filled] at leaves
    cases r with
    | error e =>
      refine ⟨u, ?_⟩
      simp only [filled]
    | ok x =>
      obtain ⟨bytes, descriptor⟩ := x
      cases checked : (Header.decode bytes).check with
      | error e =>
        refine ⟨u, ?_⟩
        simp only [filled, checked]
      | ok _ =>
        -- What comes while the name is read does not change what was read as the header.
        obtain ⟨u', name⟩ := fill_amid leaves.full (Header.decode bytes).nameLength.toNat [] none
          (pace.drop u)
        obtain ⟨more, writerOpen, fault, later, whole, behind⟩ :=
          leaves.afterAll ((pace.drop u).take u').flatten
        have header' := fill_grown writerOpen fault grown later (n := Header.size) [] none
          (.inl ⟨(bytes, descriptor), by rw [filled]⟩)
        rw [filled] at header'
        refine ⟨u + u', ?_⟩
        rw [List.take_add, List.flatten_append, afterAll_append, whole, header']
        simp only [checked, readNamed, receiveExactly, name, behind, List.drop_drop]
        cases fill receive (Header.decode bytes).nameLength.toNat [] none
          (s'.grown more writerOpen fault) with
        | mk r' s'' => cases r' <;> rfl

end Stream
end Wire
end Backdrop
