import Backdrop.Settings.Locate

/-!
# Backdrop.Proofs.Settings.Locate

What the three sources for the path of the socket come to: the override, the settings, and the
runtime directory.

* `Precise` lists what is promised. The first source that says something decides, whatever is
  behind it, and a path that is returned fits the address of a socket.
* `Hollow` is the one case without these promises: the settings name an empty path, which is taken
  as it stands.
-/

namespace Backdrop
namespace Settings

/-- No path is given, or an empty one. -/
def Silent (source : Option Path) : Prop := ∀ p, source = some p → p.bytes = []

/-- A path, unless it is too long for the address of a socket. -/
def admitted (p : Path) : Except DaemonError Path :=
  if p.bytes.length ≤ 107 then .ok p else .error (.socketPathTooLong p)

/-- The socket in a directory. One separator is put between them, unless the directory ends in
one. -/
def inside (dir : Path) : Path :=
  let between := if dir.bytes.getLast? = some 0x2F then [] else [0x2F]
  ⟨dir.bytes ++ between ++ Utf8.encode "lamco-wallpaper.sock"⟩

/-- What the sources of a path should come to. -/
structure Precise (override configured runtime : Option Path) : Prop where
  overridden : ∀ p, override = some p → p.bytes ≠ [] → ∀ configured' runtime',
    resolveSocket override configured' runtime' = admitted p
  written : Silent override → ∀ p, configured = some p → p.bytes ≠ [] → ∀ runtime',
    resolveSocket override configured runtime' = admitted p
  placed : Silent override → Silent configured → ∀ dir, runtime = some dir → dir.bytes ≠ [] →
    resolveSocket override configured runtime = admitted (inside dir)
  unset : Silent override → Silent configured → runtime = none →
    resolveSocket override configured runtime = .error .runtimeDirUnset
  empty : Silent override → Silent configured → ∀ dir, runtime = some dir → dir.bytes = [] →
    resolveSocket override configured runtime = .error .runtimeDirEmpty
  usable : ∀ p, resolveSocket override configured runtime = .ok p →
    1 ≤ p.bytes.length ∧ p.bytes.length ≤ 107

/-- The settings name an empty path, and nothing overrides it. -/
def Hollow (override configured : Option Path) : Prop :=
  Silent override ∧ configured = some ⟨[]⟩

section Choice

variable {override configured runtime : Option Path} {p dir : Path} {e : DaemonError}

theorem isEmpty_of_said (said : p.bytes ≠ []) : p.isEmpty = false := by
  simpa [Path.isEmpty] using said

theorem chooseSocket_overridden (said : p.bytes ≠ []) (configured runtime : Option Path) :
    chooseSocket (some p) configured runtime = .ok p := by
  simp [chooseSocket, Option.filter, isEmpty_of_said said]

/-- An override that says nothing counts as none. -/
theorem chooseSocket_of_silent (silent : Silent override) (configured runtime : Option Path) :
    chooseSocket override configured runtime = chooseSocket none configured runtime := by
  cases override with
  | none => rfl
  | some p => simp [chooseSocket, Option.filter, Path.isEmpty, silent p rfl]

theorem join_socketName (said : dir.bytes ≠ []) : dir.join socketName = inside dir := by
  have relative : socketName.isAbsolute = false := by decide
  rw [Path.join, relative, isEmpty_of_said said, Bool.false_or, if_neg Bool.false_ne_true]
  by_cases ends : dir.bytes.getLast? = some 0x2F
  · have slash : dir.endsInSeparator = true := by simp [Path.endsInSeparator, ends, Path.separator]
    simp only [slash, inside, ends, if_true, List.append_nil]
    rfl
  · have letter : dir.endsInSeparator = false := by
      simpa [Path.endsInSeparator, Path.separator] using ends
    simp only [letter, inside, ends, if_false, Bool.false_eq_true, List.append_assoc]
    rfl

theorem chooseSocket_placed (said : dir.bytes ≠ []) :
    chooseSocket none none (some dir) = .ok (inside dir) := by
  rw [← join_socketName said]
  exact if_neg (by simp [isEmpty_of_said said])

theorem chooseSocket_empty (nothing : dir.bytes = []) :
    chooseSocket none none (some dir) = .error .runtimeDirEmpty :=
  if_pos (List.isEmpty_iff.mpr nothing)

theorem resolveSocket_of_ok (chosen : chooseSocket override configured runtime = .ok p) :
    resolveSocket override configured runtime = admitted p := by
  simp only [resolveSocket, chosen, admitted, Path.length, maxSocketPath, ← Nat.not_le, ite_not]

theorem resolveSocket_of_error (failed : chooseSocket override configured runtime = .error e) :
    resolveSocket override configured runtime = .error e := by
  rw [resolveSocket, failed]

theorem chooseSocket_of_resolved (found : resolveSocket override configured runtime = .ok p) :
    chooseSocket override configured runtime = .ok p ∧ p.bytes.length ≤ 107 := by
  cases chosen : chooseSocket override configured runtime with
  | error e =>
    rw [resolveSocket_of_error chosen] at found
    cases found
  | ok q =>
    rw [resolveSocket_of_ok chosen, admitted] at found
    split at found
    · cases found
      exact ⟨rfl, ‹_›⟩
    · cases found

theorem said_of_not_silent (loud : ¬ Silent override) : ∃ p, override = some p ∧ p.bytes ≠ [] := by
  simpa [Silent] using loud

/-- Settings that say nothing leave the path out, unless they name an empty one. -/
theorem none_of_silent (full : ¬ Hollow override configured) (silent : Silent override)
    (silent' : Silent configured) : configured = none := by
  cases configured with
  | none => rfl
  | some p =>
    obtain ⟨bytes⟩ := p
    obtain rfl : bytes = [] := silent' _ rfl
    exact absurd ⟨silent, rfl⟩ full

theorem said_of_chosen (full : ¬ Hollow override configured)
    (chosen : chooseSocket override configured runtime = .ok p) : p.bytes ≠ [] := by
  by_cases silent : Silent override
  case neg =>
    obtain ⟨q, rfl, said⟩ := said_of_not_silent silent
    rw [chooseSocket_overridden said] at chosen
    cases chosen
    exact said
  by_cases silent' : Silent configured
  case neg =>
    obtain ⟨q, rfl, said⟩ := said_of_not_silent silent'
    rw [chooseSocket_of_silent silent] at chosen
    cases chosen
    exact said
  obtain rfl := none_of_silent full silent silent'
  rw [chooseSocket_of_silent silent] at chosen
  cases runtime with
  | none => cases chosen
  | some dir =>
    by_cases nothing : dir.bytes = []
    · rw [chooseSocket_empty nothing] at chosen
      cases chosen
    · rw [chooseSocket_placed nothing] at chosen
      cases chosen
      simp [inside, nothing]

theorem precise_of_full (full : ¬ Hollow override configured) :
    Precise override configured runtime where
  overridden := by
    rintro p rfl said configured' runtime'
    exact resolveSocket_of_ok (chooseSocket_overridden said configured' runtime')
  written := by
    rintro silent p rfl _ runtime'
    exact resolveSocket_of_ok (chooseSocket_of_silent silent (some p) runtime')
  placed := by
    rintro silent silent' dir rfl said
    obtain rfl := none_of_silent full silent silent'
    exact resolveSocket_of_ok
      ((chooseSocket_of_silent silent none (some dir)).trans (chooseSocket_placed said))
  unset := by
    rintro silent silent' rfl
    obtain rfl := none_of_silent full silent silent'
    exact resolveSocket_of_error (chooseSocket_of_silent silent none none)
  empty := by
    rintro silent silent' dir rfl nothing
    obtain rfl := none_of_silent full silent silent'
    exact resolveSocket_of_error
      ((chooseSocket_of_silent silent none (some dir)).trans (chooseSocket_empty nothing))
  usable := by
    intro p found
    obtain ⟨chosen, short⟩ := chooseSocket_of_resolved found
    exact ⟨List.length_pos_iff.mpr (said_of_chosen full chosen), short⟩

theorem resolveSocket_hollow (hollow : Hollow override configured) (runtime : Option Path) :
    resolveSocket override configured runtime = .ok ⟨[]⟩ := by
  obtain ⟨silent, rfl⟩ := hollow
  exact resolveSocket_of_ok (chooseSocket_of_silent silent (some ⟨[]⟩) runtime)

end Choice

/-- The sources come to what they should, unless an empty path in the settings is reached. It is the
path then, whatever the runtime directory. -/
theorem precisely_resolved (override configured runtime : Option Path) :
    (Precise override configured runtime ↔ ¬ Hollow override configured) ∧
    (Hollow override configured → resolveSocket override configured runtime = .ok ⟨[]⟩) := by
  refine ⟨⟨fun precise hollow => ?_, precise_of_full⟩, fun hollow => ?_⟩
  · obtain ⟨some_byte, _⟩ := precise.usable ⟨[]⟩ (resolveSocket_hollow hollow runtime)
    exact Nat.not_succ_le_zero 0 some_byte
  · exact resolveSocket_hollow hollow runtime

/-- An empty path in the settings hides a runtime directory that would do. -/
theorem runtime_hidden :
    resolveSocket none (some ⟨[]⟩) (some (.ofString "/run/user/1000")) = .ok ⟨[]⟩ ∧
    admitted (inside (.ofString "/run/user/1000")) =
      .ok (.ofString "/run/user/1000/lamco-wallpaper.sock") ∧
    ¬ Precise none (some ⟨[]⟩) (some (.ofString "/run/user/1000")) := by
  have resolved : resolveSocket none (some ⟨[]⟩) (some (.ofString "/run/user/1000")) = .ok ⟨[]⟩ :=
    rfl
  refine ⟨resolved, rfl, fun precise => ?_⟩
  obtain ⟨some_byte, _⟩ := precise.usable ⟨[]⟩ resolved
  exact Nat.not_succ_le_zero 0 some_byte

end Settings
end Backdrop
