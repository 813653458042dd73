import FormatReview.Json.Decode
import FormatReview.Proofs.SortedMap

namespace FormatReview.Json

/-! What decoders take, and what they make of it. -/

variable {α β ε : Type}

theorem bind_ok_iff {first : Except ε α} {next : α → Except ε β} {b : β} :
    first >>= next = .ok b ↔ ∃ a, first = .ok a ∧ next a = .ok b := by
  cases first with
  | error problem => simp [bind, Except.bind]
  | ok a => simp [bind, Except.bind]

theorem map_ok_iff {first : Except ε α} {f : α → β} {b : β} :
    first.map f = .ok b ↔ ∃ a, first = .ok a ∧ f a = b := by
  cases first with
  | error problem => simp [Except.map]
  | ok a => simp [Except.map]

theorem mapError_ok_iff {first : Except ε α} {f : ε → β} {a : α} :
    first.mapError f = .ok a ↔ first = .ok a := by
  cases first with
  | error problem => simp [Except.mapError]
  | ok b => simp [Except.mapError]

def IsText (v : Json) (s : String) : Prop := v = .string s

def IsWord (v : Json) (n : UInt64) : Prop := v = .word n

inductive IsList (Means : Json → α → Prop) : Json → List α → Prop
  | items {items values} : List.Forall₂ Means items values → IsList Means (.array items) values

/-- The object has the keys of the map, with their values. -/
inductive IsMap (Means : Json → α → Prop) : Json → SortedMap α → Prop
  | fields {fields map} :
      (∀ key, Option.Rel Means ((members fields).get? key) (map.get? key)) →
      IsMap Means (.object fields) map

/-- A value that may be absent or null. -/
inductive Loose (Means : Json → α → Prop) : Option Json → Option α → Prop
  | absent : Loose Means none none
  | null : Loose Means (some .null) none
  | given {v a} : Means v a → Loose Means (some v) (some a)

/-- The decoder takes what means something, for what it means. -/
def Decoder.Decodes (decode : Decoder α) (Means : Json → α → Prop) : Prop :=
  ∀ v a, decode v = .ok a ↔ Means v a

namespace Decoder

theorem decodes_string : string.Decodes IsText := by
  intro v s
  cases v with
  | string written => simp [string, IsText]
  | null | bool | number | array | object => simp [string, misfit, IsText]

theorem natBelow_ok_iff {bound n : Nat} {expected : String} {v : Json} :
    natBelow bound expected v = .ok n ↔ v = .nat n ∧ n < bound := by
  cases v with
  | number number =>
      cases number with
      | int i =>
          simp only [natBelow, Json.nat, Json.number.injEq, Number.int.injEq]
          by_cases inside : 0 ≤ i ∧ i < bound
          · rw [if_pos inside, Except.ok.injEq]
            omega
          · rw [if_neg inside]
            constructor
            · intro impossible
              cases impossible
            · omega
      | real x => simp [natBelow, misfit, Json.nat]
  | null | bool | string | array | object => simp [natBelow, misfit, Json.nat]

theorem decodes_word : word.Decodes IsWord := by
  intro v n
  simp only [word, map_ok_iff, natBelow_ok_iff, IsWord, Json.word]
  constructor
  · intro decoded
    obtain ⟨i, ⟨same, small⟩, rfl⟩ := decoded
    rw [same, UInt64.toNat_ofNat_of_lt' small]
  · intro same
    exact ⟨n.toNat, ⟨same, n.toNat_lt⟩, UInt64.ofNat_toNat⟩

theorem optional_ok_iff {decode : Decoder α} {Means : Json → α → Prop}
    (decodes : decode.Decodes Means) (nonnull : ∀ a, ¬ Means .null a) {v : Json}
    {written : Option α} :
    decode.optional v = .ok written ↔ Loose Means (some v) written := by
  have given : ∀ v, v ≠ .null →
      ((decode v).map some = .ok written ↔ Loose Means (some v) written) := by
    intro v present
    rw [map_ok_iff]
    constructor
    · intro decoded
      obtain ⟨a, decoded, rfl⟩ := decoded
      exact .given ((decodes v a).1 decoded)
    · intro loose
      cases loose with
      | null => exact absurd rfl present
      | given means => exact ⟨_, (decodes v _).2 means, rfl⟩
  cases v with
  | null =>
      constructor
      · intro decoded
        cases decoded
        exact .null
      · intro loose
        cases loose with
        | null => rfl
        | given means => exact absurd means (nonnull _)
  | bool | number | string | array | object => exact given _ (by simp)

theorem mapM_ok_iff {decode : Decoder α} {Means : Json → α → Prop}
    (decodes : decode.Decodes Means) {items : List Json} {values : List α} :
    items.mapM decode = .ok values ↔ List.Forall₂ Means items values := by
  induction items generalizing values with
  | nil => simp [pure, Except.pure, eq_comm]
  | cons item rest ih =>
      simp only [List.mapM_cons, bind_ok_iff, pure, Except.pure, Except.ok.injEq,
        List.forall₂_cons_left_iff, decodes item, ih]
      constructor
      · intro mapped
        obtain ⟨a, means, more, others, rfl⟩ := mapped
        exact ⟨a, more, means, others, rfl⟩
      · intro related
        obtain ⟨a, more, means, others, rfl⟩ := related
        exact ⟨a, means, more, others, rfl⟩

theorem decodes_list {decode : Decoder α} {Means : Json → α → Prop}
    (decodes : decode.Decodes Means) : decode.list.Decodes (IsList Means) := by
  intro v values
  cases v with
  | array items =>
      rw [list, mapM_ok_iff decodes]
      constructor
      · exact .items
      · intro given
        obtain ⟨each⟩ := given
        exact each
  | null | bool | number | string | object =>
      constructor
      · intro impossible
        cases impossible
      · intro impossible
        cases impossible

theorem entries_ok_iff {decode : Decoder α} {pairs : List (String × Json)}
    {values : List (String × α)} :
    entries decode pairs = .ok values ↔
      List.Forall₂ (fun pair value => pair.1 = value.1 ∧ decode pair.2 = .ok value.2)
        pairs values := by
  induction pairs generalizing values with
  | nil => simp [entries, eq_comm]
  | cons pair rest ih =>
      obtain ⟨key, v⟩ := pair
      simp only [entries, bind_ok_iff, pure, Except.pure, Except.ok.injEq,
        List.forall₂_cons_left_iff, ih]
      constructor
      · intro mapped
        obtain ⟨a, decoded, more, others, rfl⟩ := mapped
        exact ⟨(key, a), more, ⟨rfl, decoded⟩, others, rfl⟩
      · intro related
        obtain ⟨⟨_, a⟩, more, ⟨rfl, decoded⟩, others, rfl⟩ := related
        exact ⟨a, decoded, more, others, rfl⟩

theorem entries_ok_of_forall {decode : Decoder α} {pairs : List (String × Json)}
    (each : ∀ pair ∈ pairs, ∃ a, decode pair.2 = .ok a) :
    ∃ values, entries decode pairs = .ok values := by
  induction pairs with
  | nil => exact ⟨[], rfl⟩
  | cons pair rest ih =>
      obtain ⟨a, decoded⟩ := each pair List.mem_cons_self
      obtain ⟨values, others⟩ := ih fun other member => each other (List.mem_cons_of_mem _ member)
      refine ⟨(pair.1, a) :: values, ?_⟩
      rw [entries_ok_iff] at others ⊢
      exact .cons ⟨rfl, decoded⟩ others

theorem lookup_of_forall₂ {decode : Decoder α} {pairs : List (String × Json)}
    {values : List (String × α)}
    (each : List.Forall₂ (fun pair value => pair.1 = value.1 ∧ decode pair.2 = .ok value.2)
      pairs values) (key : String) :
    Option.Rel (fun v a => decode v = .ok a) (pairs.lookup key) (values.lookup key) := by
  induction each with
  | nil => exact .none
  | @cons pair value pairs values here others ih =>
      obtain ⟨first, v⟩ := pair
      obtain ⟨_, a⟩ := value
      obtain ⟨rfl, decoded⟩ := here
      by_cases same : key = first
      · subst same
        simpa using Option.Rel.some decoded
      · rw [List.lookup_cons, List.lookup_cons, beq_eq_false_iff_ne.2 same]
        exact ih

theorem increasing_of_forall₂ {decode : Decoder α} {pairs : List (String × Json)}
    {values : List (String × α)}
    (each : List.Forall₂ (fun pair value => pair.1 = value.1 ∧ decode pair.2 = .ok value.2)
      pairs values) (increasing : pairs.Pairwise fun a b => a.1 < b.1) :
    values.Pairwise fun a b => a.1 < b.1 := by
  have keys : pairs.map (·.1) = values.map (·.1) := by
    induction each with
    | nil => rfl
    | cons here others ih =>
        rw [List.map_cons, List.map_cons, here.1, ih (List.pairwise_cons.1 increasing).2]
  rw [← List.pairwise_map (f := Prod.fst) (R := (· < ·))] at increasing ⊢
  rwa [← keys]

theorem eq_of_rel {decode : Decoder α} {found : Option Json} {one other : Option α}
    (first : Option.Rel (fun v a => decode v = .ok a) found one)
    (second : Option.Rel (fun v a => decode v = .ok a) found other) : one = other := by
  cases first with
  | none =>
      cases second with
      | none => rfl
  | some decoded =>
      cases second with
      | some again => rw [Except.ok.inj (decoded.symm.trans again)]

theorem map_ok_iff_get? {decode : Decoder α} {fields : List (String × Json)} {m : SortedMap α} :
    decode.map (.object fields) = .ok m ↔
      ∀ key, Option.Rel (fun v a => decode v = .ok a) ((members fields).get? key) (m.get? key) := by
  have forward : ∀ n : SortedMap α, decode.map (.object fields) = .ok n →
      ∀ key, Option.Rel (fun v a => decode v = .ok a) ((members fields).get? key) (n.get? key) := by
    intro n decoded key
    obtain ⟨values, each, rfl⟩ := map_ok_iff.1 decoded
    rw [entries_ok_iff] at each
    have increasing := increasing_of_forall₂ each (members fields).increasing
    rw [SortedMap.get?, SortedMap.get?, SortedMap.entries_ofList increasing]
    exact lookup_of_forall₂ each key
  refine ⟨forward m, fun related => ?_⟩
  have each : ∀ pair ∈ (members fields).entries, ∃ a, decode pair.2 = .ok a := by
    intro pair member
    obtain ⟨key, v⟩ := pair
    have here := related key
    rw [((members fields).mem_entries key v).1 member] at here
    cases found : m.get? key with
    | none =>
        rw [found] at here
        cases here
    | some a =>
        rw [found] at here
        cases here with
        | some decoded => exact ⟨a, decoded⟩
  obtain ⟨values, decoded⟩ := entries_ok_of_forall each
  have made : decode.map (.object fields) = .ok (SortedMap.ofList values) :=
    map_ok_iff.2 ⟨values, decoded, rfl⟩
  have same : m = SortedMap.ofList values :=
    SortedMap.eq_of_get? fun key => eq_of_rel (related key) (forward _ made key)
  rw [same]
  exact made

theorem decodes_map {decode : Decoder α} {Means : Json → α → Prop}
    (decodes : decode.Decodes Means) : decode.map.Decodes (IsMap Means) := by
  have same : (fun v a => decode v = .ok a) = Means := by
    funext v a
    exact propext (decodes v a)
  intro v m
  cases v with
  | object fields =>
      rw [map_ok_iff_get?, same]
      constructor
      · exact .fields
      · intro given
        obtain ⟨related⟩ := given
        exact related
  | null | bool | number | string | array =>
      constructor
      · intro impossible
        cases impossible
      · intro impossible
        cases impossible

end Decoder

end FormatReview.Json
