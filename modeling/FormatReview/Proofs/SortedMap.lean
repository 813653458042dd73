import FormatReview.SortedMap
import Mathlib.Data.List.Nodup

namespace FormatReview.SortedMap

variable {α : Type u}

theorem mem_iff_lookup {entries : List (String × α)}
    (increasing : entries.Pairwise fun a b => a.1 < b.1) (key : String) (value : α) :
    (key, value) ∈ entries ↔ entries.lookup key = some value := by
  induction entries with
  | nil => simp
  | cons head rest ih =>
      obtain ⟨first, held⟩ := head
      obtain ⟨above, tail⟩ := List.pairwise_cons.1 increasing
      by_cases same : key = first
      · subst same
        have elsewhere : (key, value) ∉ rest := fun member =>
          String.lt_irrefl key (above (key, value) member)
        simp [elsewhere, eq_comm]
      · rw [List.lookup_cons, beq_eq_false_iff_ne.2 same, List.mem_cons, ← ih tail]
        simp [same]

theorem mem_entries (m : SortedMap α) (key : String) (value : α) :
    (key, value) ∈ m.entries ↔ m.get? key = some value :=
  mem_iff_lookup m.increasing key value

theorem eq_of_mem_entries (m : SortedMap α) {first second : String × α}
    (here : first ∈ m.entries) (there : second ∈ m.entries) (same : first.1 = second.1) :
    first = second := by
  have found := (m.mem_entries first.1 first.2).1 here
  have again := (m.mem_entries second.1 second.2).1 there
  rw [same, again] at found
  exact Prod.ext same (Option.some.inj found.symm)

theorem entries_nodup (m : SortedMap α) : m.entries.Nodup := by
  refine m.increasing.imp ?_
  intro a b less equal
  rw [equal] at less
  exact String.lt_irrefl b.1 less

theorem mem_keys (m : SortedMap α) (key : String) : key ∈ m.keys ↔ (m.get? key).isSome := by
  rw [keys, List.mem_map, Option.isSome_iff_exists]
  constructor
  · rintro ⟨entry, member, rfl⟩
    exact ⟨entry.2, (m.mem_entries entry.1 entry.2).1 member⟩
  · rintro ⟨value, found⟩
    exact ⟨(key, value), (m.mem_entries key value).2 found, rfl⟩

theorem keys_nodup (m : SortedMap α) : m.keys.Nodup := by
  refine List.pairwise_map.2 (m.increasing.imp ?_)
  intro a b less equal
  rw [equal] at less
  exact String.lt_irrefl b.1 less

theorem eq_of_get? {m n : SortedMap α} (agree : ∀ key, m.get? key = n.get? key) : m = n := by
  have permuted : m.entries.Perm n.entries := by
    rw [List.perm_ext_iff_of_nodup m.entries_nodup n.entries_nodup]
    intro entry
    obtain ⟨key, value⟩ := entry
    rw [mem_entries, mem_entries, agree]
  refine ext (permuted.eq_of_pairwise ?_ m.increasing n.increasing)
  intro a b _ _ below above
  exact absurd (String.lt_trans below above) (String.lt_irrefl a.1)

theorem insertEntry_last {entries : List (String × α)} {key : String} {value : α}
    (below : ∀ entry ∈ entries, entry.1 < key) :
    insertEntry key value entries = entries ++ [(key, value)] := by
  induction entries with
  | nil => rfl
  | cons head rest ih =>
      obtain ⟨first, held⟩ := head
      have less : first < key := below (first, held) List.mem_cons_self
      have after : ¬ key < first := fun more =>
        String.lt_irrefl key (String.lt_trans more less)
      have distinct : key ≠ first := fun equal => String.lt_irrefl key (equal ▸ less)
      rw [insertEntry, if_neg after, if_neg distinct,
        ih fun entry member => below entry (List.mem_cons_of_mem _ member)]
      rfl

theorem entries_foldl_insert {pairs : List (String × α)} (m : SortedMap α)
    (increasing : (m.entries ++ pairs).Pairwise fun a b => a.1 < b.1) :
    (pairs.foldl (fun m pair => m.insert pair.1 pair.2) m).entries = m.entries ++ pairs := by
  induction pairs generalizing m with
  | nil => simp
  | cons pair rest ih =>
      have below : ∀ entry ∈ m.entries, entry.1 < pair.1 := fun entry member =>
        (List.pairwise_append.1 increasing).2.2 entry member pair List.mem_cons_self
      have inserted : (m.insert pair.1 pair.2).entries = m.entries ++ [pair] :=
        insertEntry_last below
      rw [List.foldl_cons, ih, inserted, List.append_assoc, List.singleton_append]
      rwa [inserted, List.append_assoc, List.singleton_append]

theorem entries_ofList {pairs : List (String × α)}
    (increasing : pairs.Pairwise fun a b => a.1 < b.1) : (ofList pairs).entries = pairs :=
  entries_foldl_insert empty increasing

theorem get?_foldl_insert {pairs : List (String × α)} (distinct : (pairs.map (·.1)).Nodup)
    (m : SortedMap α) (key : String) :
    (pairs.foldl (fun m pair => m.insert pair.1 pair.2) m).get? key =
      (pairs.lookup key).or (m.get? key) := by
  induction pairs generalizing m with
  | nil => rfl
  | cons pair rest ih =>
      obtain ⟨first, value⟩ := pair
      obtain ⟨fresh, tail⟩ := List.nodup_cons.1 distinct
      rw [List.foldl_cons, ih tail]
      by_cases same : key = first
      · subst same
        have nomore : rest.lookup key = none :=
          List.lookup_eq_none_iff.2 fun pair member =>
            bne_iff_ne.2 fun equal => fresh (List.mem_map.2 ⟨pair, member, equal.symm⟩)
        rw [nomore, get?_insert_self, List.lookup_cons_self]
        rfl
      · rw [get?_insert_of_ne m same, List.lookup_cons, beq_eq_false_iff_ne.2 same]

theorem get?_ofList {pairs : List (String × α)} (distinct : (pairs.map (·.1)).Nodup)
    (key : String) : (ofList pairs).get? key = pairs.lookup key := by
  rw [ofList, get?_foldl_insert distinct, get?_empty, Option.or_none]

end FormatReview.SortedMap
