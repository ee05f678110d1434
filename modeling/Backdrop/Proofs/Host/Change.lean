import Backdrop.Proofs.Host.Way

/-!
# Backdrop.Proofs.Host.Change

Paths in a tree, and what each change of the tree does.

* `Tree.wayTo` lists the places that a path passes; `locate_congr` and `locate_leaf` say when it
  leads where it led.
* `Tree.create_ok`, `Tree.write_ok` and `Tree.remove_ok` say what a change comes to that succeeds.
* `Tree.Amended` is what all of them have in common, as long as they make no socket.
-/

namespace Backdrop
namespace Tree

/-! ## Paths -/

theorem locateAlong_ok_iff {t : Tree} {follow : Bool} {p : Path} {names : List PathName}
    {spot : Spot} : t.locateAlong follow p names = .ok spot ↔
      p.isEmpty = false ∧ p.length ≤ maxPath ∧
        t.walk follow maxLinks (if p.isAbsolute then [] else t.workingDirectory) names
          p.endsInSeparator = .ok spot := by
  unfold locateAlong
  split
  · simp [*]
  · rename_i named
    split
    · rename_i long
      exact iff_of_false nofun fun found => absurd found.2.1 (Nat.not_le.mpr long)
    · rename_i short
      exact ⟨fun found => ⟨by simpa using named, Nat.le_of_not_lt short, found⟩,
        fun found => found.2.2⟩

variable {t t' : Tree} {p : Path} {spot : Spot}

/-- The places that a path passes, the one that it leads to among them. -/
def wayTo (t : Tree) (p : Path) : List Location :=
  t.way false maxLinks (if p.isAbsolute then [] else t.workingDirectory) p.steps

theorem locate_congr (working : t'.workingDirectory = t.workingDirectory)
    (same : ∀ l ∈ t.wayTo p, t'.node? l = t.node? l) : t'.locate false p = t.locate false p := by
  simp only [locate, locateAlong, working, walk_congr p.endsInSeparator same]

theorem node?_of_locate {follow : Bool} (found : t.locate follow p = .ok spot)
    (no : spot.node ≠ some .directory) :
    spot.location ≠ [] ∧ t.node? spot.location = spot.node :=
  node?_of_walk (locateAlong_ok_iff.mp found).2.2 no

/-- A path that leads to a leaf leads there as long as the directories and links are kept. -/
theorem locate_leaf {follow follow' : Bool} (found : t.locate follow p = .ok spot)
    (leaf : Leaf spot.node) (more : follow = true → follow' = true)
    (working : t'.workingDirectory = t.workingDirectory)
    (kept : ∀ l, ¬ Leaf (t.node? l) → t'.node? l = t.node? l)
    (new : Leaf (t'.node? spot.location)) :
    t'.locate follow' p = .ok { spot with node := t'.node? spot.location } := by
  obtain ⟨named, short, found⟩ := locateAlong_ok_iff.mp found
  refine locateAlong_ok_iff.mpr ⟨named, short, ?_⟩
  rw [working]
  exact walk_leaf found leaf more kept new

/-- A path to a leaf has no link at its end that could be followed. -/
theorem locate_true (there : t.locate false p = .ok spot) (leaf : Leaf spot.node) :
    t.locate true p = .ok spot := by
  have here := (node?_of_locate there leaf.1).2
  have found : t.locate true p = _ :=
    locate_leaf there leaf nofun rfl (fun _ _ => rfl) (here ▸ leaf)
  rwa [here] at found

/-- Names without a null byte lead to places without one. -/
theorem Plain.location_of_locateAlong {follow : Bool} {names : List PathName} (plain : t.Plain)
    (uncut : Path.Uncut names) (found : t.locateAlong follow p names = .ok spot) :
    Path.Uncut spot.location := by
  refine plain.location_of_walk ?_ uncut (locateAlong_ok_iff.mp found).2.2
  split
  · exact Path.uncut_nil
  · exact plain.working

theorem slash_of_locate {follow : Bool} (found : t.locate follow p = .ok spot)
    (plain : spot.slash = false) : p.endsInSeparator = false := by
  cases ends : p.endsInSeparator with
  | false => rfl
  | true =>
    have := slash_of_walk (locateAlong_ok_iff.mp found).2.2 ends
    rw [plain] at this
    cases this

theorem inspect_ne_refused {follow : Bool} : t.inspect follow p ≠ .error .connectionRefused := by
  have located : t.locate (follow || p.endsInSeparator) p ≠ .error .connectionRefused := by
    unfold locate locateAlong
    split
    · exact fun e => absurd (Except.error.inj e) (by decide)
    · split
      · exact fun e => absurd (Except.error.inj e) (by decide)
      · exact walk_ne_refused
  unfold inspect
  split
  · rename_i e failed
    rintro same
    cases Except.error.inj same
    exact located failed
  · split
    · exact fun e => absurd (Except.error.inj e) (by decide)
    · split
      · exact fun e => absurd (Except.error.inj e) (by decide)
      · exact nofun

/-- What is found is at the end of the path; behind a separator it is a directory. -/
theorem inspect_ok {follow : Bool} {n : Node} (found : t.inspect follow p = .ok n) :
    ∃ spot, t.locate (follow || p.endsInSeparator) p = .ok spot ∧ spot.node = some n ∧
      (spot.slash = true → n = .directory) := by
  unfold inspect at found
  split at found
  · cases found
  rename_i spot located
  split at found
  · cases found
  rename_i m there
  split at found
  · cases found
  rename_i plain
  cases found
  refine ⟨spot, located, there, fun ends => ?_⟩
  simpa [ends] using plain

theorem inspect_missing {l : Location} (free : t.locate false p = .ok ⟨l, none, false⟩) :
    t.inspect false p = .error .noEntry := by
  simp [inspect, slash_of_locate free rfl, free]

/-- Nothing is below what is no directory. -/
theorem inspect_barred {follow : Bool} {q : Path} {n : Node} {rest : List UInt8}
    (found : t.inspect true q = .ok n) (leaf : Leaf (some n))
    (below : p.bytes = q.bytes ++ Path.separator :: rest) (short : p.length ≤ maxPath) :
    t.inspect follow p = .error .notDirectory := by
  obtain ⟨spot, located, there, _⟩ := inspect_ok found
  obtain ⟨named, _, walked⟩ := locateAlong_ok_iff.mp located
  have absolute := Path.isAbsolute_below named below
  have steps := Path.steps_below below
  have named' : p.isEmpty = false := by simp [Path.isEmpty, below]
  rw [Bool.true_or] at walked
  rw [← there] at leaf
  unfold inspect
  by_cases last : Path.steps ⟨rest⟩ = []
  · -- Only separators follow, and behind them a directory is looked for.
    have ends := Path.endsInSeparator_below below last
    obtain ⟨slash, walked'⟩ := walk_slash walked p.endsInSeparator
    obtain rfl : slash = true := slash_of_walk walked' ends
    have located' : t.locate true p = .ok { spot with slash := true } := by
      refine locateAlong_ok_iff.mpr ⟨named', short, ?_⟩
      rw [absolute, steps, last, List.append_nil]
      exact walked'
    have other : n ≠ .directory := by
      rintro rfl
      exact leaf.1 there
    rw [ends, Bool.or_true, located']
    simp [there, other]
  · have barred : t.locate (follow || p.endsInSeparator) p = .error .notDirectory := by
      unfold locate locateAlong
      rw [if_neg (by simp [named']), if_neg (Nat.not_lt.mpr short), absolute, steps]
      exact walk_barred walked leaf (by simp [there]) last _ _
    rw [barred]

/-! ## Changes -/

theorem create_ok {n : Node} (created : t.create p n = .ok t') :
    ∃ spot, t.locate false p = .ok spot ∧ spot.node = none ∧
      (spot.slash = true → n = .directory) ∧ t' = t.put spot.location n := by
  unfold create at created
  split at created
  · cases created
  rename_i spot located
  split at created
  · cases created
  rename_i free
  split at created
  · cases created
  rename_i fits
  cases created
  refine ⟨spot, located, by simpa using free, fun ends => ?_, rfl⟩
  simpa [ends] using fits

theorem write_ok {content : List UInt8} (written : t.write p content = .ok t') :
    ∃ spot names, (∀ n ∈ names, n = itself ∨ n ∈ p.steps) ∧
      t.locateAlong true p names = .ok spot ∧ (∀ k, spot.node ≠ some (.socket k)) ∧
      t' = t.put spot.location (.file content) := by
  unfold write at written
  split at written
  · cases written
  rename_i spot located
  refine ⟨spot, _, ?_, located, ?_⟩
  · intro n listed
    split at listed
    · rcases List.mem_append.mp listed with before | last
      · exact .inr (List.dropLast_subset _ before)
      · exact .inl (List.mem_singleton.mp last)
    · exact .inr listed
  · unfold writeAt at written
    split at written
    · cases written
    · split at written <;> cases written <;> simp [*]

theorem remove_ok (removed : t.remove p = .ok t') :
    ∃ spot n, t.locate false p = .ok spot ∧ spot.node = some n ∧ n ≠ .directory ∧
      spot.slash = false ∧ t' = t.drop spot.location := by
  unfold remove at removed
  split at removed
  · cases removed
  rename_i spot located
  split at removed
  · cases removed
  · cases removed
  · rename_i n no there
    split at removed
    · cases removed
    rename_i plain
    cases removed
    exact ⟨spot, n, located, there, no, by simpa using plain, rfl⟩

theorem remove_of_locate {n : Node} (found : t.locate false p = .ok spot)
    (there : spot.node = some n) (no : n ≠ .directory) (plain : spot.slash = false) :
    t.remove p = .ok (t.drop spot.location) := by
  unfold remove
  rw [found]
  cases n <;> simp_all

/-- A socket is found where it was put, also by whoever would follow a link. -/
theorem locate_put_socket {l : Location} {ends : Bool}
    (free : t.locate false p = .ok ⟨l, none, ends⟩) (follow : Bool) (k : Nat) :
    (t.put l (.socket k)).locate follow p = .ok ⟨l, some (.socket k), ends⟩ := by
  obtain ⟨below, none⟩ := node?_of_locate free leaf_none.1
  have put := t.node?_put_self below (.socket k)
  have kept : ∀ l', ¬ Leaf (t.node? l') → (t.put l (.socket k)).node? l' = t.node? l' := by
    intro l' no
    refine t.node?_put_ne ?_ _
    rintro rfl
    exact no (none ▸ leaf_none)
  have there : (t.put l (.socket k)).locate follow p = _ :=
    locate_leaf free leaf_none nofun rfl kept (put ▸ leaf_socket k)
  rwa [put] at there

/-- Nothing is found where something was dropped that no walk went through. -/
theorem locate_drop {l : Location} {n : Node} {ends : Bool}
    (there : t.locate false p = .ok ⟨l, some n, ends⟩) (leaf : Leaf (some n)) :
    (t.drop l).locate false p = .ok ⟨l, none, ends⟩ := by
  obtain ⟨below, here⟩ := node?_of_locate there leaf.1
  have dropped := t.node?_drop_self below
  have kept : ∀ l', ¬ Leaf (t.node? l') → (t.drop l).node? l' = t.node? l' := by
    intro l' no
    refine t.node?_drop_ne ?_
    rintro rfl
    exact no (here ▸ leaf)
  have gone : (t.drop l).locate false p = _ :=
    locate_leaf there leaf id rfl kept (dropped ▸ leaf_none)
  rwa [dropped] at gone

/-- A path to one leaf does not pass another one. -/
theorem locate_drop_ne {follow ends : Bool} {l l' : Location} {n : Node}
    (there : t.locate follow p = .ok ⟨l, some n, ends⟩) (leaf : Leaf (some n)) (apart : l ≠ l')
    (leaf' : Leaf (t.node? l')) : (t.drop l').locate follow p = .ok ⟨l, some n, ends⟩ := by
  have here : (t.drop l').node? l = some n :=
    (node?_drop_ne t apart).trans (node?_of_locate there leaf.1).2
  have kept : ∀ k, ¬ Leaf (t.node? k) → (t.drop l').node? k = t.node? k := by
    intro k no
    refine node?_drop_ne t ?_
    rintro rfl
    exact no leaf'
  have leads : (t.drop l').locate follow p = _ :=
    locate_leaf there leaf id rfl kept (here ▸ leaf)
  rwa [here] at leads

/-! ## Trees in which no socket is made -/

theorem of_node?_put {t : Tree} {l l' : Location} {n m : Node}
    (there : (t.put l n).node? l' = some m) : l' = l ∧ m = n ∨ t.node? l' = some m := by
  by_cases here : l' = l
  · subst here
    by_cases below : l' = []
    · subst below
      exact .inr there
    · rw [node?_put_self t below] at there
      exact .inl ⟨rfl, (Option.some.inj there).symm⟩
  · rw [node?_put_ne t here] at there
    exact .inr there

theorem of_node?_drop {t : Tree} {l l' : Location} {m : Node}
    (there : (t.drop l).node? l' = some m) : t.node? l' = some m := by
  by_cases here : l' = l
  · subst here
    by_cases below : l' = []
    · subst below
      exact there
    · rw [node?_drop_self t below] at there
      cases there
  · rwa [node?_drop_ne t here] at there

/-- What becomes of a tree if no socket is made in it. -/
inductive Amended (t : Tree) : Tree → Prop where
  | same : Amended t t
  | put {l : Location} {n : Node} (named : Path.Uncut l) (other : ∀ k, n ≠ .socket k)
      (linked : ∀ target, n = .link target → (0 : UInt8) ∉ target.bytes) : Amended t (t.put l n)
  | drop (l : Location) : Amended t (t.drop l)

namespace Amended

theorem working (amended : Amended t t') : t'.workingDirectory = t.workingDirectory := by
  cases amended <;> rfl

theorem socket (amended : Amended t t') {l : Location} {k : Nat}
    (there : t'.node? l = some (.socket k)) : t.node? l = some (.socket k) := by
  cases amended with
  | same => exact there
  | put _ other _ =>
    rcases of_node?_put there with ⟨_, here⟩ | before
    · exact absurd here.symm (other k)
    · exact before
  | drop _ => exact of_node?_drop there

theorem plain (amended : Amended t t') (plain : t.Plain) : t'.Plain := by
  cases amended with
  | same => exact plain
  | put named _ linked =>
    refine ⟨plain.working, ?_, ?_⟩
    · intro l n there
      rcases of_node?_put there with ⟨rfl, _⟩ | before
      · exact named
      · exact plain.named _ _ before
    · intro l target there
      rcases of_node?_put there with ⟨_, here⟩ | before
      · exact linked target here.symm
      · exact plain.linked _ _ before
  | drop _ =>
    exact ⟨plain.working, fun _ _ there => plain.named _ _ (of_node?_drop there),
      fun _ _ there => plain.linked _ _ (of_node?_drop there)⟩

end Amended

theorem Plain.put_socket {t : Tree} (plain : t.Plain) {l : Location} (named : Path.Uncut l)
    (k : Nat) : (t.put l (.socket k)).Plain where
  working := plain.working
  named := by
    intro l n there
    rcases of_node?_put there with ⟨rfl, _⟩ | before
    · exact named
    · exact plain.named _ _ before
  linked := by
    intro l target there
    rcases of_node?_put there with ⟨_, here⟩ | before
    · cases here
    · exact plain.linked _ _ before

end Tree
end Backdrop
