import Mathlib.Data.List.Count
import Mathlib.Data.List.Sort
import Backdrop.Table

/-!
# Backdrop.Proofs.Table

Tables in which the same is found are the same.

* `Table.ext_find?` is that statement: equations between tables are proved through `find?`.
* `Table.change` gives an entry another value or takes it out. Changes that commute on values
  commute on tables.
-/

namespace Backdrop
namespace Table

variable {α : Type}

theorem ext_find? {t t' : Table α} (h : ∀ k, t.find? k = t'.find? k) : t = t' := by
  have irrefl : Std.Irrefl fun a b : Nat × α => a.1 < b.1 := ⟨fun a => Nat.lt_irrefl a.1⟩
  have antisymm : Std.Antisymm fun a b : Nat × α => a.1 < b.1 :=
    ⟨fun _ _ h h' => absurd h (Nat.lt_asymm h')⟩
  have same : t.entries = t'.entries := by
    refine t.ascending.eq_of_mem_iff t'.ascending fun ⟨k, v⟩ => ?_
    rw [← find?_eq_some_iff, ← find?_eq_some_iff, h]
  obtain ⟨l, _⟩ := t
  obtain ⟨l', _⟩ := t'
  cases same
  rfl

theorem insert_insert (t : Table α) (k : Nat) (v v' : α) :
    (t.insert k v).insert k v' = t.insert k v' := by
  refine ext_find? fun j => ?_
  simp only [find?_insert]
  split <;> rfl

theorem insert_of_find? {t : Table α} {k : Nat} {v : α} (found : t.find? k = some v) :
    t.insert k v = t := by
  refine ext_find? fun j => ?_
  rw [find?_insert]
  split
  · rename_i same
    rw [← same, found]
  · rfl

/-! ## Keys -/

theorem mem_keys {t : Table α} {k : Nat} : k ∈ t.keys ↔ ∃ v, t.find? k = some v := by
  constructor
  · intro hk
    obtain ⟨⟨_, v⟩, he, rfl⟩ := List.mem_map.mp hk
    exact ⟨v, find?_eq_some_iff.mpr he⟩
  · rintro ⟨v, hv⟩
    exact List.mem_map.mpr ⟨(k, v), find?_eq_some_iff.mp hv, rfl⟩

theorem sortedLT_keys (t : Table α) : t.keys.SortedLT :=
  (t.ascending.map (S := (· < ·)) Prod.fst fun _ _ h => h).sortedLT

theorem nodup_keys (t : Table α) : t.keys.Nodup := t.sortedLT_keys.nodup

theorem count_keys (t : Table α) (k : Nat) :
    t.keys.count k = if (t.find? k).isSome then 1 else 0 := by
  rw [t.nodup_keys.count]
  refine if_congr ?_ rfl rfl
  rw [mem_keys, Option.isSome_iff_exists]

/-- The key of the first entry with a property has an entry with the property. -/
theorem exists_of_findKey {t : Table α} {p : Nat × α → Bool} {k : Nat}
    (first : (t.entries.find? p).map (·.1) = some k) :
    ∃ v, t.find? k = some v ∧ p (k, v) = true := by
  obtain ⟨⟨_, v⟩, listed, rfl⟩ := Option.map_eq_some_iff.mp first
  exact ⟨v, find?_eq_some_iff.mpr (List.mem_of_find?_eq_some listed), List.find?_some listed⟩

/-- A table of what stands at the places of a list. -/
theorem entries_eq_mapIdx {t : Table α} {l : List α} (places : ∀ k, t.find? k = l[k]?) :
    t.entries = l.mapIdx fun k v => (k, v) := by
  have irrefl : Std.Irrefl fun a b : Nat × α => a.1 < b.1 := ⟨fun a => Nat.lt_irrefl a.1⟩
  have antisymm : Std.Antisymm fun a b : Nat × α => a.1 < b.1 :=
    ⟨fun _ _ h h' => absurd h (Nat.lt_asymm h')⟩
  refine t.ascending.eq_of_mem_iff ?_ fun ⟨k, v⟩ => ?_
  · rw [List.pairwise_iff_getElem]
    intro i j hi hj less
    simpa using less
  · rw [← find?_eq_some_iff, places, List.mem_mapIdx]
    constructor
    · intro here
      obtain ⟨room, rfl⟩ := List.getElem?_eq_some_iff.mp here
      exact ⟨k, room, rfl⟩
    · rintro ⟨i, room, same⟩
      cases same
      exact List.getElem?_eq_getElem room

/-! ## Changes -/

/-- Gives the entry of a key, if there is one, another value, or takes it out. -/
def change (t : Table α) (k : Nat) (f : α → Option α) : Table α :=
  match t.find? k with
  | none => t
  | some v =>
    match f v with
    | none => t.erase k
    | some v' => t.insert k v'

theorem find?_change (t : Table α) (k j : Nat) (f : α → Option α) :
    (t.change k f).find? j = if k = j then (t.find? j).bind f else t.find? j := by
  unfold change
  by_cases hk : k = j
  · subst hk
    cases hv : t.find? k with
    | none => simp [hv]
    | some v => cases hf : f v <;> simp [hf, find?_erase]
  · cases t.find? k with
    | none => simp [hk]
    | some v => cases hf : f v <;> simp [hf, hk, find?_erase, find?_insert]

theorem change_comm (t : Table α) {k j : Nat} {f g : α → Option α}
    (comm : k = j → ∀ v, (f v).bind g = (g v).bind f) :
    (t.change k f).change j g = (t.change j g).change k f := by
  refine ext_find? fun i => ?_
  simp only [find?_change]
  by_cases hk : k = i
  · by_cases hj : j = i
    · simp only [hk, hj, if_true, Option.bind_assoc]
      exact congrArg _ (funext (comm (hk.trans hj.symm)))
    · simp [hk, hj]
  · by_cases hj : j = i <;> simp [hk, hj]

theorem insert_change_comm (t : Table α) {k j : Nat} (apart : k ≠ j) (v : α) (f : α → Option α) :
    (t.insert k v).change j f = (t.change j f).insert k v := by
  refine ext_find? fun i => ?_
  simp only [find?_change, find?_insert]
  by_cases hk : k = i
  · have : j ≠ i := fun hj => apart (hk.trans hj.symm)
    simp [hk, this]
  · simp [hk]

/-- The other keys stay, in their order. -/
theorem filter_keys_change (t : Table α) (k : Nat) (f : α → Option α) :
    (t.change k f).keys.filter (· ≠ k) = t.keys.filter (· ≠ k) := by
  refine List.Pairwise.eq_of_mem_iff (r := (· < ·)) ((t.change k f).sortedLT_keys.pairwise.filter _)
    (t.sortedLT_keys.pairwise.filter _) fun j => ?_
  simp only [List.mem_filter, mem_keys, find?_change, decide_eq_true_eq]
  by_cases hk : k = j
  · simp [hk]
  · simp [hk]

end Table
end Backdrop
