import FormatReview.Proofs.Json.Record

namespace FormatReview.Json

/-! What decoders make of the values that were written for them. -/

variable {α : Type}

/-- The decoder takes every value that `encode` writes, for what was written. -/
def Decoder.Undoes (decode : Decoder α) (encode : α → Json) : Prop :=
  ∀ a, decode (encode a) = .ok a

namespace Decoder

theorem undoes_string : string.Undoes .string := fun _ => rfl

theorem undoes_path : path.Undoes .string := fun _ => rfl

theorem undoes_word : word.Undoes .word := fun n => (decodes_word (.word n) n).2 rfl

theorem undoes_halfWord : halfWord.Undoes fun n => .nat n.toNat := by
  intro n
  exact map_ok_iff.2 ⟨n.toNat, natBelow_ok_iff.2 ⟨rfl, n.toNat_lt⟩, UInt16.ofNat_toNat⟩

/-- Null tells that there is nothing, so nothing else may be written so. -/
theorem undoes_optional {decode : Decoder α} {encode : α → Json} (undoes : decode.Undoes encode)
    (nonnull : ∀ a, encode a ≠ .null) : decode.optional.Undoes (.optional encode) := by
  intro written
  cases written with
  | none => rfl
  | some a =>
      have given : ∀ v, v ≠ .null → decode.optional v = (decode v).map some := by
        intro v present
        cases v with
        | null => exact absurd rfl present
        | bool | number | string | array | object => rfl
      rw [optional_some, given _ (nonnull a), undoes a]
      rfl

theorem undoes_list {decode : Decoder α} {encode : α → Json} (undoes : decode.Undoes encode) :
    decode.list.Undoes fun values => .array (values.map encode) := by
  intro values
  refine (mapM_ok_iff fun _ _ => Iff.rfl).2 ?_
  induction values with
  | nil => exact .nil
  | cons a rest ih => exact .cons (undoes a) ih

theorem undoes_map {decode : Decoder α} {encode : α → Json} (undoes : decode.Undoes encode) :
    decode.map.Undoes fun m => .object (m.entries.map fun entry => (entry.1, encode entry.2)) := by
  intro m
  have increasing : (m.entries.map fun entry => (entry.1, encode entry.2)).Pairwise
      fun a b => a.1 < b.1 := List.pairwise_map.2 m.increasing
  have read : entries decode (m.entries.map fun entry => (entry.1, encode entry.2)) =
      .ok m.entries := by
    rw [entries_ok_iff, List.forall₂_map_left_iff]
    exact List.forall₂_same.2 fun entry _ => ⟨rfl, undoes entry.2⟩
  refine map_ok_iff.2 ⟨m.entries, ?_, SortedMap.ext (SortedMap.entries_ofList m.increasing)⟩
  rw [members, SortedMap.entries_ofList increasing]
  exact read

end Decoder

/-- Names that differ are found as they are written, however they are sorted. -/
theorem part_of_lookup {fields : List (String × Json)} (distinct : (fields.map (·.1)).Nodup)
    {names : List String} {place : Nat} {found : Option Json}
    (looked : names.filterMap (fun name => fields.lookup name) = found.toList) :
    Part names place (.object fields) found := by
  have same : (members fields).get? = fun name => fields.lookup name :=
    funext fun name => SortedMap.get?_ofList distinct name
  rw [Part, same, looked]

theorem part_of_distinct {fields : List (String × Json)} (distinct : (fields.map (·.1)).Nodup)
    (name : String) (place : Nat) : Part [name] place (.object fields) (fields.lookup name) := by
  refine part_of_lookup distinct ?_
  rw [List.filterMap_cons]
  cases fields.lookup name with
  | none => rfl
  | some v => rfl

namespace Field

variable {field : Field α} {fields : List (String × Json)} {place : Nat} {a : α}

theorem holds_written {encode : α → Json} (undoes : field.decode.Undoes encode)
    (bare : field.aliases = []) (distinct : (fields.map (·.1)).Nodup)
    (found : fields.lookup field.name = some (encode a)) :
    field.Holds place (.object fields) a := by
  refine ⟨some (encode a), ?_, undoes a⟩
  rw [names, bare, ← found]
  exact part_of_distinct distinct field.name place

theorem holds_unwritten (absent : field.absent = some a) (bare : field.aliases = [])
    (distinct : (fields.map (·.1)).Nodup) (found : fields.lookup field.name = none) :
    field.Holds place (.object fields) a := by
  refine ⟨none, ?_, absent⟩
  rw [names, bare, ← found]
  exact part_of_distinct distinct field.name place

end Field

theorem recordContent_object_ok_iff {slots : List Slot} {build : Source → Except Mismatch α}
    (distinct : (slots.flatMap Slot.names).Nodup) (title : String)
    {fields : List (String × Json)} {a : α} :
    recordContent slots build (some (.object fields)) = .ok a ↔
      Builds slots title build (.object fields) a := by
  rw [recordContent, bind_ok_iff]
  constructor
  · intro recorded
    obtain ⟨⟨⟩, scanned, built⟩ := recorded
    exact ⟨(scan_members_ok_iff distinct _).1 scanned, built⟩
  · intro fitting
    obtain ⟨fits, built⟩ := fitting
    exact ⟨(), (scan_members_ok_iff distinct _).2 fits, built⟩

end FormatReview.Json
