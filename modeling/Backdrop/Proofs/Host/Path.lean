import Backdrop.Host.Path

/-!
# Backdrop.Proofs.Host.Path

The names of a path, and what stands between its separators.

* `Path.uncut_steps`: the names of a path have a null byte in them if the path has.
* `Path.steps_below`: a path below another one has its names first.
* `Path.isAbsolute_absolute`: resolved against an absolute directory, a path is absolute.
-/

namespace Backdrop

namespace Path

theorem mem_splitNames {b : UInt8} (other : b ≠ separator) {bytes : List UInt8}
    (there : b ∈ bytes) : ∃ n ∈ splitNames bytes, b ∈ n := by
  induction bytes with
  | nil => cases there
  | cons c rest ih =>
    rw [splitNames]
    by_cases cut : c = separator
    · rcases List.mem_cons.mp there with rfl | later
      · exact absurd cut other
      · obtain ⟨n, listed, inside⟩ := ih later
        rw [if_pos cut]
        exact ⟨n, List.mem_cons_of_mem _ listed, inside⟩
    · rw [if_neg cut]
      rcases List.mem_cons.mp there with rfl | later
      · split <;> simp
      · obtain ⟨n, listed, inside⟩ := ih later
        split
        · rename_i none
          simp [none] at listed
        · rename_i first others some
          rw [some] at listed
          rcases List.mem_cons.mp listed with rfl | behind
          · exact ⟨_, List.mem_cons_self, List.mem_cons_of_mem _ inside⟩
          · exact ⟨n, List.mem_cons_of_mem _ behind, inside⟩

theorem mem_of_splitNames {b : UInt8} {n : PathName} {bytes : List UInt8}
    (listed : n ∈ splitNames bytes) (inside : b ∈ n) : b ∈ bytes := by
  induction bytes generalizing n with
  | nil => simp_all [splitNames]
  | cons c rest ih =>
    rw [splitNames] at listed
    split at listed
    · rcases List.mem_cons.mp listed with rfl | behind
      · cases inside
      · exact List.mem_cons_of_mem _ (ih behind inside)
    · split at listed
      · simp_all
      · rename_i first others some
        rcases List.mem_cons.mp listed with rfl | behind
        · rcases List.mem_cons.mp inside with rfl | later
          · exact List.mem_cons_self
          · exact List.mem_cons_of_mem _ (ih (some ▸ List.mem_cons_self) later)
        · exact List.mem_cons_of_mem _ (ih (some ▸ List.mem_cons_of_mem _ behind) inside)

theorem splitNames_ne_nil (bytes : List UInt8) : splitNames bytes ≠ [] := by
  cases bytes with
  | nil => simp [splitNames]
  | cons b rest =>
    rw [splitNames]
    split
    · simp
    · split <;> simp

theorem splitNames_append (before after : List UInt8) :
    splitNames (before ++ separator :: after) = splitNames before ++ splitNames after := by
  induction before with
  | nil => simp [splitNames]
  | cons b before ih =>
    rw [List.cons_append, splitNames, splitNames, ih]
    split
    · rfl
    · cases split : splitNames before with
      | nil => exact absurd split (splitNames_ne_nil before)
      | cons n ns => rfl

/-- A byte that is no separator is in one of the names. -/
theorem mem_steps {p : Path} {b : UInt8} (other : b ≠ separator) (there : b ∈ p.bytes) :
    ∃ n ∈ p.steps, b ∈ n := by
  obtain ⟨n, listed, inside⟩ := mem_splitNames other there
  refine ⟨n, List.mem_filter.mpr ⟨listed, ?_⟩, inside⟩
  cases n with
  | nil => cases inside
  | cons => rfl

/-- No null byte cuts these names short. -/
def Uncut (names : List PathName) : Prop := ∀ n ∈ names, (0 : UInt8) ∉ n

theorem uncut_steps {p : Path} : Uncut p.steps ↔ (0 : UInt8) ∉ p.bytes := by
  constructor
  · intro uncut there
    obtain ⟨n, listed, inside⟩ := mem_steps (by decide) there
    exact uncut n listed inside
  · intro none n listed inside
    exact none (mem_of_splitNames (List.mem_filter.mp listed).1 inside)

theorem Uncut.append {names names' : List PathName} (uncut : Uncut names)
    (uncut' : Uncut names') : Uncut (names ++ names') :=
  List.forall_mem_append.mpr ⟨uncut, uncut'⟩

theorem uncut_nil : Uncut [] := nofun

/-! ## Below a path -/

section Below

variable {p q : Path} {rest : List UInt8}

theorem isAbsolute_below (named : q.isEmpty = false) (below : p.bytes = q.bytes ++ rest) :
    p.isAbsolute = q.isAbsolute := by
  obtain ⟨bytes⟩ := q
  cases bytes with
  | nil => cases named
  | cons b bytes => simp [isAbsolute, below]

theorem steps_below (below : p.bytes = q.bytes ++ separator :: rest) :
    p.steps = q.steps ++ steps ⟨rest⟩ := by
  simp [steps, below, splitNames_append]

/-- Where no names follow, separators do. -/
theorem endsInSeparator_below (below : p.bytes = q.bytes ++ separator :: rest)
    (last : steps ⟨rest⟩ = []) : p.endsInSeparator = true := by
  have only : ∀ b ∈ separator :: rest, b = separator := by
    intro b listed
    by_cases cut : b = separator
    · exact cut
    · have later : b ∈ (⟨rest⟩ : Path).bytes := (List.mem_cons.mp listed).resolve_left cut
      obtain ⟨n, named, _⟩ := mem_steps cut later
      rw [last] at named
      cases named
  have ends := List.getLast?_eq_some_getLast (List.cons_ne_nil separator rest)
  rw [endsInSeparator, below, List.getLast?_append, ends, Option.some_or]
  simp [only _ (List.getLast_mem (List.cons_ne_nil separator rest))]

end Below

/-! ## Absolute paths -/

theorem isEmpty_of_isAbsolute {p : Path} (absolute : p.isAbsolute = true) : p.isEmpty = false := by
  obtain ⟨bytes⟩ := p
  cases bytes with
  | nil => cases absolute
  | cons b bytes => rfl

theorem isAbsolute_join {p : Path} (absolute : p.isAbsolute = true) (q : Path) :
    (p.join q).isAbsolute = true := by
  have extended : ∀ bytes, isAbsolute ⟨p.bytes ++ bytes⟩ = true := by
    intro bytes
    rw [isAbsolute_below (isEmpty_of_isAbsolute absolute) rfl]
    exact absolute
  unfold join
  split
  · assumption
  · split <;> exact extended _

theorem isAbsolute_joins {p : Path} (absolute : p.isAbsolute = true) (names : List PathName) :
    (names.foldl (fun d n => d.join ⟨n⟩) p).isAbsolute = true := by
  induction names generalizing p with
  | nil => exact absolute
  | cons n names ih => exact ih (isAbsolute_join absolute _)

theorem isAbsolute_absolute {cwd p q : Path} (from_ : cwd.isAbsolute = true)
    (resolved : absolute cwd p = .ok q) : q.isAbsolute = true := by
  unfold absolute at resolved
  split at resolved
  · cases resolved
  simp only [Except.ok.injEq] at resolved
  generalize started : (if p.isAbsolute = true then _ else cwd) = start at resolved
  have begins : start.isAbsolute = true := by
    rw [← started]
    split
    · split <;> rfl
    · exact from_
  have whole := isAbsolute_joins begins p.names
  rw [← resolved]
  split
  · rw [isAbsolute_below (isEmpty_of_isAbsolute whole) rfl]
    exact whole
  · exact whole

end Path
end Backdrop
