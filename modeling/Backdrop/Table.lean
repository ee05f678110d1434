/-!
# Backdrop.Table

Finite maps from numbers, kept as a list of entries in ascending order of their keys. The order of
the entries is what a walk over the map sees.

The view of a table is `find?`. The lemmas say what each operation does to it, and
`Table.find?_eq_some_iff` that it finds what the entries hold.
-/

namespace Backdrop

structure Table (α : Type) where
  entries : List (Nat × α)
  ascending : entries.Pairwise (fun a b => a.1 < b.1) := by simp

namespace Table

variable {α β : Type}

def empty : Table α := ⟨[], List.Pairwise.nil⟩

instance : Inhabited (Table α) := ⟨empty⟩

/-- The entry of a key in a list of entries. -/
def findIn (k : Nat) : List (Nat × α) → Option α
  | [] => none
  | (j, v) :: rest => if j = k then some v else findIn k rest

def find? (t : Table α) (k : Nat) : Option α := findIn k t.entries

def contains (t : Table α) (k : Nat) : Bool := (t.find? k).isSome

def keys (t : Table α) : List Nat := t.entries.map (·.1)

def values (t : Table α) : List α := t.entries.map (·.2)

def size (t : Table α) : Nat := t.entries.length

/-- Puts an entry at its place, over any entry of the same key. -/
def insertIn (k : Nat) (v : α) : List (Nat × α) → List (Nat × α)
  | [] => [(k, v)]
  | (j, w) :: rest =>
    if k < j then (k, v) :: (j, w) :: rest
    else if k = j then (k, v) :: rest
    else (j, w) :: insertIn k v rest

theorem fst_mem_insertIn {k : Nat} {v : α} {l : List (Nat × α)} {e : Nat × α}
    (h : e ∈ insertIn k v l) : e.1 = k ∨ e ∈ l := by
  induction l with
  | nil => simp [insertIn] at h; simp [h]
  | cons a rest ih =>
    obtain ⟨j, w⟩ := a
    simp only [insertIn] at h
    split at h
    · simp only [List.mem_cons] at h
      rcases h with h | h | h <;> simp [h]
    · split at h
      · simp only [List.mem_cons] at h
        rcases h with h | h <;> simp [h]
      · simp only [List.mem_cons] at h
        rcases h with h | h
        · simp [h]
        · rcases ih h with h | h <;> simp [h]

theorem pairwise_insertIn {k : Nat} {v : α} {l : List (Nat × α)}
    (h : l.Pairwise (fun a b => a.1 < b.1)) :
    (insertIn k v l).Pairwise (fun a b => a.1 < b.1) := by
  induction l with
  | nil => simp [insertIn]
  | cons a rest ih =>
    obtain ⟨j, w⟩ := a
    rw [List.pairwise_cons] at h
    simp only [insertIn]
    split
    · next hk =>
      refine List.pairwise_cons.mpr ⟨?_, List.pairwise_cons.mpr h⟩
      intro e he
      rcases List.mem_cons.mp he with he | he
      · subst he; exact hk
      · exact Nat.lt_trans hk (h.1 e he)
    · split
      · next hk => subst hk; exact List.pairwise_cons.mpr ⟨h.1, h.2⟩
      · next hlt hne =>
        refine List.pairwise_cons.mpr ⟨?_, ih h.2⟩
        intro e he
        rcases fst_mem_insertIn he with he | he
        · simp only [he]; omega
        · exact h.1 e he

def insert (t : Table α) (k : Nat) (v : α) : Table α :=
  ⟨insertIn k v t.entries, pairwise_insertIn t.ascending⟩

def erase (t : Table α) (k : Nat) : Table α :=
  ⟨t.entries.filter (fun e => e.1 != k), t.ascending.filter _⟩

/-- Changes each value, knowing its key. -/
def mapWithKey (f : Nat → α → β) (t : Table α) : Table β :=
  ⟨t.entries.map (fun e => (e.1, f e.1 e.2)), by
    simpa [List.pairwise_map] using t.ascending⟩

/-- Changes the value of one key. -/
def modify (t : Table α) (k : Nat) (f : α → α) : Table α :=
  t.mapWithKey fun j v => if j = k then f v else v

theorem findIn_insertIn (k j : Nat) (v : α) (l : List (Nat × α)) :
    findIn j (insertIn k v l) = if k = j then some v else findIn j l := by
  induction l with
  | nil => simp [insertIn, findIn]
  | cons a rest ih =>
    obtain ⟨i, w⟩ := a
    simp only [insertIn]
    split
    · simp [findIn]
    · split
      · next h => subst h; by_cases hj : k = j <;> simp [findIn, hj]
      · next hlt hne =>
        simp only [findIn, ih]
        by_cases hj : k = j
        · subst hj
          have : i ≠ k := fun h => hne h.symm
          simp [this]
        · simp [hj]

@[simp] theorem find?_empty (k : Nat) : (empty : Table α).find? k = none := rfl

theorem find?_insert (t : Table α) (k j : Nat) (v : α) :
    (t.insert k v).find? j = if k = j then some v else t.find? j :=
  findIn_insertIn k j v t.entries

@[simp] theorem find?_insert_self (t : Table α) (k : Nat) (v : α) :
    (t.insert k v).find? k = some v := by
  simp [find?_insert]

theorem find?_erase (t : Table α) (k j : Nat) :
    (t.erase k).find? j = if k = j then none else t.find? j := by
  obtain ⟨l, h⟩ := t
  simp only [find?, erase]
  clear h
  induction l with
  | nil => simp [findIn]
  | cons a rest ih =>
    obtain ⟨i, w⟩ := a
    by_cases hi : i = k
    · subst hi
      simp only [List.filter_cons, bne_self_eq_false, Bool.false_eq_true, if_false, ih, findIn]
      by_cases hj : i = j <;> simp [hj]
    · simp only [List.filter_cons, bne_iff_ne, ne_eq, hi, not_false_eq_true, if_true, findIn, ih]
      by_cases hj : k = j
      · subst hj; simp [hi]
      · simp [hj]

theorem find?_mapWithKey (f : Nat → α → β) (t : Table α) (j : Nat) :
    (t.mapWithKey f).find? j = (t.find? j).map (f j) := by
  obtain ⟨l, h⟩ := t
  simp only [find?, mapWithKey]
  clear h
  induction l with
  | nil => simp [findIn]
  | cons a rest ih =>
    obtain ⟨i, w⟩ := a
    by_cases hi : i = j
    · subst hi; simp [findIn]
    · simp only [List.map_cons, findIn, if_neg hi]
      exact ih

theorem find?_modify (t : Table α) (k j : Nat) (f : α → α) :
    (t.modify k f).find? j = (t.find? j).map fun v => if j = k then f v else v :=
  find?_mapWithKey _ t j

theorem findIn_eq_some_iff {k : Nat} {v : α} {l : List (Nat × α)}
    (h : l.Pairwise (fun a b => a.1 < b.1)) : findIn k l = some v ↔ (k, v) ∈ l := by
  induction l with
  | nil => simp [findIn]
  | cons a rest ih =>
    obtain ⟨j, w⟩ := a
    rw [List.pairwise_cons] at h
    by_cases hj : j = k
    · subst hj
      simp only [findIn, if_true, Option.some.injEq, List.mem_cons, Prod.mk.injEq, true_and]
      constructor
      · intro hv; exact Or.inl hv.symm
      · rintro (hv | hv)
        · exact hv.symm
        · exact absurd (h.1 _ hv) (Nat.lt_irrefl _)
    · simp only [findIn, hj, if_false, ih h.2, List.mem_cons, Prod.mk.injEq]
      constructor
      · exact Or.inr
      · rintro (⟨hk, _⟩ | hv)
        · exact absurd hk.symm hj
        · exact hv

theorem find?_eq_some_iff {t : Table α} {k : Nat} {v : α} :
    t.find? k = some v ↔ (k, v) ∈ t.entries :=
  findIn_eq_some_iff t.ascending

theorem eq_empty_of_entries {t : Table α} (h : t.entries = []) : t = empty := by
  obtain ⟨l, hl⟩ := t
  cases h
  rfl

/-- Without its first key a table has its other entries. -/
theorem entries_erase_head {t : Table α} {k : Nat} {v : α} {rest : List (Nat × α)}
    (h : t.entries = (k, v) :: rest) : (t.erase k).entries = rest := by
  have hlt := t.ascending
  rw [h, List.pairwise_cons] at hlt
  simp only [erase, h, List.filter_cons, bne_self_eq_false, Bool.false_eq_true, if_false]
  refine List.filter_eq_self.mpr fun e he => ?_
  have : k < e.1 := hlt.1 e he
  simp only [bne_iff_ne, ne_eq]
  omega

end Table
end Backdrop
