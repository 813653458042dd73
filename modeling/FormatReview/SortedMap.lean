namespace FormatReview

/-! Finite maps from text keys, kept as a list in strictly increasing key order. The order is
part of the type, so two maps with the same entries are equal and a listing is always sorted. -/

structure SortedMap (α : Type u) where
  entries : List (String × α)
  increasing : entries.Pairwise fun a b => a.1 < b.1

namespace SortedMap

variable {α : Type u} {β : Type v}

@[ext] theorem ext {a b : SortedMap α} (h : a.entries = b.entries) : a = b := by
  cases a
  cases b
  simp_all

instance [BEq α] : BEq (SortedMap α) where
  beq a b := a.entries == b.entries

instance [DecidableEq α] : DecidableEq (SortedMap α) := fun a b =>
  if h : a.entries = b.entries then
    isTrue (ext h)
  else
    isFalse fun equal => h (equal ▸ rfl)

def empty : SortedMap α := ⟨[], .nil⟩

instance : Inhabited (SortedMap α) := ⟨empty⟩

instance : EmptyCollection (SortedMap α) := ⟨empty⟩

def keys (m : SortedMap α) : List String := m.entries.map (·.1)

def values (m : SortedMap α) : List α := m.entries.map (·.2)

def isEmpty (m : SortedMap α) : Bool := m.entries.isEmpty

def get? (m : SortedMap α) (key : String) : Option α := m.entries.lookup key

def contains (m : SortedMap α) (key : String) : Bool := (m.get? key).isSome

/-- Puts the entry at its place, in the stead of one with the same key. -/
def insertEntry (key : String) (value : α) : List (String × α) → List (String × α)
  | [] => [(key, value)]
  | (k, v) :: rest =>
      if key < k then (key, value) :: (k, v) :: rest
      else if key = k then (key, value) :: rest
      else (k, v) :: insertEntry key value rest

theorem mem_insertEntry {key : String} {value : α} {entry : String × α}
    {entries : List (String × α)} (h : entry ∈ insertEntry key value entries) :
    entry = (key, value) ∨ entry ∈ entries := by
  induction entries with
  | nil => simpa [insertEntry] using h
  | cons head rest ih =>
      obtain ⟨k, v⟩ := head
      simp only [insertEntry] at h
      split at h
      · simpa using h
      · split at h
        · rcases List.mem_cons.1 h with h | h
          · exact .inl h
          · exact .inr (List.mem_cons_of_mem _ h)
        · rcases List.mem_cons.1 h with h | h
          · exact .inr (h ▸ List.mem_cons_self)
          · exact (ih h).imp id (List.mem_cons_of_mem _)

theorem lt_of_not_lt_of_ne {a b : String} (notLess : ¬ a < b) (distinct : a ≠ b) : b < a :=
  Decidable.byContradiction fun h => distinct (String.le_antisymm h notLess)

theorem insertEntry_increasing {key : String} {value : α} {entries : List (String × α)}
    (h : entries.Pairwise fun a b => a.1 < b.1) :
    (insertEntry key value entries).Pairwise fun a b => a.1 < b.1 := by
  induction entries with
  | nil => simp [insertEntry]
  | cons head rest ih =>
      obtain ⟨k, v⟩ := head
      obtain ⟨below, tail⟩ := List.pairwise_cons.1 h
      simp only [insertEntry]
      split
      · next less =>
          refine List.pairwise_cons.2 ⟨fun entry member => ?_, h⟩
          rcases List.mem_cons.1 member with rfl | member
          · exact less
          · exact String.lt_trans less (below entry member)
      · next notLess =>
          split
          · next equal =>
              subst equal
              exact List.pairwise_cons.2 ⟨below, tail⟩
          · next distinct =>
              refine List.pairwise_cons.2 ⟨fun entry member => ?_, ih tail⟩
              rcases mem_insertEntry member with rfl | member
              · exact lt_of_not_lt_of_ne notLess distinct
              · exact below entry member

def insert (m : SortedMap α) (key : String) (value : α) : SortedMap α :=
  ⟨insertEntry key value m.entries, insertEntry_increasing m.increasing⟩

/-- Of two pairs with one key the later stays. -/
def ofList (pairs : List (String × α)) : SortedMap α :=
  pairs.foldl (fun m pair => m.insert pair.1 pair.2) empty

theorem lookup_insertEntry_self (key : String) (value : α) (entries : List (String × α)) :
    (insertEntry key value entries).lookup key = some value := by
  induction entries with
  | nil => simp [insertEntry]
  | cons head rest ih =>
      obtain ⟨k, v⟩ := head
      simp only [insertEntry]
      split
      · simp
      · split
        · simp
        · next distinct => simp [List.lookup_cons, beq_eq_false_iff_ne.2 distinct, ih]

theorem lookup_insertEntry_of_ne {key other : String} (h : other ≠ key) (value : α)
    (entries : List (String × α)) :
    (insertEntry key value entries).lookup other = entries.lookup other := by
  induction entries with
  | nil => simp [insertEntry, List.lookup_cons, beq_eq_false_iff_ne.2 h]
  | cons head rest ih =>
      obtain ⟨k, v⟩ := head
      simp only [insertEntry]
      split
      · simp [List.lookup_cons, beq_eq_false_iff_ne.2 h]
      · split
        · next equal =>
            subst equal
            simp [List.lookup_cons, beq_eq_false_iff_ne.2 h]
        · simp [List.lookup_cons, ih]

@[simp] theorem get?_empty (key : String) : (empty : SortedMap α).get? key = none := rfl

@[simp] theorem get?_insert_self (m : SortedMap α) (key : String) (value : α) :
    (m.insert key value).get? key = some value :=
  lookup_insertEntry_self key value m.entries

theorem get?_insert_of_ne (m : SortedMap α) {key other : String} (h : other ≠ key) (value : α) :
    (m.insert key value).get? other = m.get? other :=
  lookup_insertEntry_of_ne h value m.entries

end SortedMap

end FormatReview
