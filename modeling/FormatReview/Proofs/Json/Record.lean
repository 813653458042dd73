import FormatReview.Proofs.Json.Decoder
import Mathlib.Data.List.Pairwise

namespace FormatReview.Json

/-! What records take: each field under at most one of its names, or at its place. -/

variable {α β : Type}

theorem filterMap_eq_findSome? {ι : Type} {names : List ι} (distinct : names.Nodup)
    (find : ι → Option β) :
    names.filterMap find = (names.findSome? find).toList ↔
      ∀ one ∈ names, ∀ other ∈ names,
        (find one).isSome → (find other).isSome → one = other := by
  induction names with
  | nil => simp
  | cons name rest ih =>
      obtain ⟨fresh, tail⟩ := List.nodup_cons.1 distinct
      cases found : find name with
      | none => simp [found, ih tail]
      | some value =>
          have alone : (∀ other ∈ rest, ¬ (find other).isSome) ↔
              ∀ one ∈ name :: rest, ∀ other ∈ name :: rest,
                (find one).isSome → (find other).isSome → one = other := by
            constructor
            · intro none one memberOne other memberOther foundOne foundOther
              have first : one = name := (List.mem_cons.1 memberOne).resolve_right
                fun member => none one member foundOne
              have second : other = name := (List.mem_cons.1 memberOther).resolve_right
                fun member => none other member foundOther
              rw [first, second]
            · intro unique other member foundOther
              have same := unique name List.mem_cons_self other (List.mem_cons_of_mem _ member)
                (by simp [found]) foundOther
              exact fresh (same ▸ member)
          rw [← alone]
          simp [found]

theorem findSome?_of_filterMap {ι : Type} {names : List ι} {find : ι → Option β}
    {found : Option β} (only : names.filterMap find = found.toList) :
    names.findSome? find = found := by
  rw [← List.head?_filterMap, only]
  cases found <;> rfl

namespace Slot

def names (slot : Slot) : List String := slot.name :: slot.aliases

theorem answers_iff (slot : Slot) (key : String) : slot.answers key ↔ key ∈ slot.names := by
  simp [answers, names]

/-- At most one name of the field occurs, with a value that fits. -/
def Fits (slot : Slot) (m : SortedMap Json) : Prop :=
  (∀ one ∈ slot.names, ∀ other ∈ slot.names,
    (m.get? one).isSome → (m.get? other).isSome → one = other) ∧
  ∀ key ∈ slot.names, ∀ v, m.get? key = some v → slot.check v = .ok ()

theorem eq_of_mem_names {slots : List Slot} (distinct : (slots.flatMap names).Nodup)
    {one other : Slot} (first : one ∈ slots) (second : other ∈ slots) {key : String}
    (here : key ∈ one.names) (there : key ∈ other.names) : one = other := by
  by_contra different
  have apart := (List.nodup_flatMap.1 distinct).2
  have symmetric : Std.Symm (Function.onFun List.Disjoint names) :=
    ⟨fun _ _ disjoint _ left right => disjoint right left⟩
  exact apart.forall first second different here there

end Slot

/-- Each entry that a field goes by fits, and is the first and only one of its field. -/
def Clear (slots : List Slot) (seen : List String) (entries : List (String × Json)) : Prop :=
  ∀ slot ∈ slots, ∀ entry ∈ entries, entry.1 ∈ slot.names →
    slot.name ∉ seen ∧ slot.check entry.2 = .ok () ∧
      ∀ other ∈ entries, other.1 ∈ slot.names → other = entry

theorem scan_cons_of_some {slots : List Slot} {seen : List String} {key : String} {v : Json}
    {rest : List (String × Json)} {owner : Slot}
    (found : slots.find? (·.answers key) = some owner) :
    scan slots seen ((key, v) :: rest) = .ok () ↔
      owner.name ∉ seen ∧ owner.check v = .ok () ∧
        scan slots (owner.name :: seen) rest = .ok () := by
  simp only [scan, found]
  by_cases taken : owner.name ∈ seen
  · simp [taken]
  · rw [if_neg (by simpa using taken), bind_ok_iff]
    constructor
    · intro scanned
      obtain ⟨⟨⟩, fits, others⟩ := scanned
      exact ⟨taken, fits, others⟩
    · intro clear
      obtain ⟨_, fits, others⟩ := clear
      exact ⟨(), fits, others⟩

theorem clear_cons_of_owned {slots : List Slot} (distinct : (slots.flatMap Slot.names).Nodup)
    {seen : List String} {key : String} {v : Json} {rest : List (String × Json)}
    (fresh : key ∉ rest.map (·.1)) {owner : Slot} (owned : owner ∈ slots)
    (named : key ∈ owner.names) :
    Clear slots seen ((key, v) :: rest) ↔
      owner.name ∉ seen ∧ owner.check v = .ok () ∧ Clear slots (owner.name :: seen) rest := by
  have mine : ∀ slot ∈ slots, key ∈ slot.names → slot = owner :=
    fun slot member here => Slot.eq_of_mem_names distinct member owned here named
  constructor
  · intro clear
    obtain ⟨untaken, fits, only⟩ := clear owner owned (key, v) List.mem_cons_self named
    refine ⟨untaken, fits, ?_⟩
    intro slot member entry inside here
    obtain ⟨unseen, checked, unique⟩ :=
      clear slot member entry (List.mem_cons_of_mem _ inside) here
    refine ⟨?_, checked, fun other otherInside => unique other (List.mem_cons_of_mem _ otherInside)⟩
    intro before
    rcases List.mem_cons.1 before with same | before
    · have equal : slot = owner := Slot.eq_of_mem_names distinct member owned
        List.mem_cons_self (same ▸ List.mem_cons_self)
      rw [equal] at here
      have repeated := only entry (List.mem_cons_of_mem _ inside) here
      exact fresh (List.mem_map.2 ⟨entry, inside, congrArg Prod.fst repeated⟩)
    · exact unseen before
  · intro taken slot member entry inside here
    obtain ⟨untaken, fits, clear⟩ := taken
    have nomore : ∀ other ∈ rest, other.1 ∉ owner.names := fun other otherInside otherHere =>
      (clear owner owned other otherInside otherHere).1 List.mem_cons_self
    rcases List.mem_cons.1 inside with rfl | inside
    · cases mine slot member here
      refine ⟨untaken, fits, ?_⟩
      intro other otherInside otherHere
      rcases List.mem_cons.1 otherInside with rfl | otherInside
      · rfl
      · exact absurd otherHere (nomore other otherInside)
    · obtain ⟨unseen, checked, unique⟩ := clear slot member entry inside here
      refine ⟨fun before => unseen (List.mem_cons_of_mem _ before), checked, ?_⟩
      intro other otherInside otherHere
      rcases List.mem_cons.1 otherInside with rfl | otherInside
      · cases mine slot member otherHere
        exact absurd here (nomore entry inside)
      · exact unique other otherInside otherHere

theorem scan_ok_iff {slots : List Slot} (distinct : (slots.flatMap Slot.names).Nodup)
    {seen : List String} {entries : List (String × Json)} (keys : (entries.map (·.1)).Nodup) :
    scan slots seen entries = .ok () ↔ Clear slots seen entries := by
  induction entries generalizing seen with
  | nil => simp [scan, Clear]
  | cons head rest ih =>
      obtain ⟨key, v⟩ := head
      obtain ⟨fresh, tail⟩ := List.nodup_cons.1 keys
      cases found : slots.find? (·.answers key) with
      | none =>
          have nobody : ∀ slot ∈ slots, key ∉ slot.names := by
            intro slot member named
            exact List.find?_eq_none.1 found slot member ((slot.answers_iff key).2 named)
          simp only [scan, found, ih tail, Clear, List.forall_mem_cons]
          refine forall₂_congr fun slot member => ?_
          simp [nobody slot member]
      | some owner =>
          have owned : owner ∈ slots := List.mem_of_find?_eq_some found
          have named : key ∈ owner.names := by
            have answered := List.find?_some found
            exact (owner.answers_iff key).1 answered
          rw [scan_cons_of_some found, ih tail, clear_cons_of_owned distinct fresh owned named]

theorem scan_members_ok_iff {slots : List Slot} (distinct : (slots.flatMap Slot.names).Nodup)
    (m : SortedMap Json) :
    scan slots [] m.entries = .ok () ↔ ∀ slot ∈ slots, slot.Fits m := by
  have keys : (m.entries.map (·.1)).Nodup := by
    refine List.Nodup.map_on ?_ m.entries_nodup
    intro first here second there same
    exact m.eq_of_mem_entries here there same
  rw [scan_ok_iff distinct keys]
  constructor
  · intro clear slot member
    constructor
    · intro one oneNamed other otherNamed oneFound otherFound
      obtain ⟨v, found⟩ := Option.isSome_iff_exists.1 oneFound
      obtain ⟨w, again⟩ := Option.isSome_iff_exists.1 otherFound
      have here := (m.mem_entries one v).2 found
      have there := (m.mem_entries other w).2 again
      exact congrArg Prod.fst ((clear slot member (other, w) there otherNamed).2.2 _ here oneNamed)
    · intro key named v found
      exact (clear slot member (key, v) ((m.mem_entries key v).2 found) named).2.1
  · intro fits slot member entry inside named
    obtain ⟨key, v⟩ := entry
    have found := (m.mem_entries key v).1 inside
    refine ⟨List.not_mem_nil, (fits slot member).2 key named v found, ?_⟩
    intro entry otherInside otherNamed
    obtain ⟨other, w⟩ := entry
    have again := (m.mem_entries other w).1 otherInside
    have same := (fits slot member).1 other otherNamed key named (by simp [again]) (by simp [found])
    exact m.eq_of_mem_entries otherInside inside same

/-- What a value holds of a record's field: in an object under one of its names at most, in an
array at its place. -/
def Part (names : List String) (place : Nat) : Json → Option Json → Prop
  | .object fields, found => names.filterMap (members fields).get? = found.toList
  | .array items, found => items[place]? = found
  | _, _ => False

def LoosePart (names : List String) (place : Nat) (Means : Json → α → Prop) (v : Json)
    (written : Option α) : Prop :=
  ∃ found, Part names place v found ∧ Loose Means found written

def Compound : Json → Prop
  | .object _ => True
  | .array _ => True
  | _ => False

/-- An object, or an array no longer than `width`. -/
def Spans (width : Nat) : Json → Prop
  | .object _ => True
  | .array items => items.length ≤ width
  | _ => False

theorem Spans.compound {width : Nat} {v : Json} (spans : Spans width v) : Compound v := by
  cases v with
  | object | array => trivial
  | null | bool | number | string => cases spans

namespace Field

def fallback (field : Field α) : Json → Option α
  | .array _ => field.beyond
  | _ => field.absent

def Gives (field : Field α) (missing : Option α) : Option Json → α → Prop
  | some v, a => field.decode v = .ok a
  | none, a => missing = some a

def Holds (field : Field α) (place : Nat) (v : Json) (a : α) : Prop :=
  ∃ found, Part field.names place v found ∧ field.Gives (field.fallback v) found a

theorem ofMembers_ok_iff (field : Field α) (m : SortedMap Json) (a : α) :
    field.ofMembers m = .ok a ↔
      field.Gives field.absent (field.names.findSome? m.get?) a := by
  rw [ofMembers]
  cases field.names.findSome? m.get? with
  | some v => exact Iff.rfl
  | none =>
      cases missing : field.absent with
      | none => simp [Gives]
      | some value => simp [Gives]

theorem ofItem_ok_iff (field : Field α) (record : String) (place : Nat) (items : List Json)
    (a : α) :
    field.ofItem record place items = .ok a ↔ field.Gives field.beyond items[place]? a := by
  rw [ofItem]
  cases items[place]? with
  | some v => exact Iff.rfl
  | none =>
      cases missing : field.beyond with
      | none => simp [Gives]
      | some value => simp [Gives]

theorem holds_object (field : Field α) (distinct : field.names.Nodup) (place : Nat)
    (fields : List (String × Json)) (a : α) :
    field.Holds place (.object fields) a ↔
      field.slot.Fits (members fields) ∧ field.ofMembers (members fields) = .ok a := by
  rw [ofMembers_ok_iff]
  constructor
  · intro holds
    obtain ⟨found, only, gives⟩ := holds
    have first := findSome?_of_filterMap only
    have unique : field.names.filterMap (members fields).get? =
        (field.names.findSome? (members fields).get?).toList := by
      rw [first]
      exact only
    rw [filterMap_eq_findSome? distinct] at unique
    refine ⟨⟨unique, ?_⟩, first.symm ▸ gives⟩
    intro key named v here
    have listed : v ∈ found.toList := only ▸ List.mem_filterMap.2 ⟨key, named, here⟩
    cases found with
    | none => simp at listed
    | some w =>
        have same : v = w := by simpa using listed
        rw [same]
        exact map_ok_iff.2 ⟨a, gives, rfl⟩
  · intro read
    obtain ⟨⟨unique, _⟩, gives⟩ := read
    exact ⟨_, (filterMap_eq_findSome? distinct _).2 unique, gives⟩

theorem holds_array (field : Field α) (place : Nat) (items : List Json) (a : α) :
    field.Holds place (.array items) a ↔ field.Gives field.beyond items[place]? a := by
  constructor
  · intro holds
    obtain ⟨found, rfl, gives⟩ := holds
    exact gives
  · intro gives
    exact ⟨_, rfl, gives⟩

theorem fallback_eq {field : Field α} {missing : Option α} (absent : field.absent = missing)
    (beyond : field.beyond = missing) (v : Json) : field.fallback v = missing := by
  cases v with
  | array => exact beyond
  | null | bool | number | string | object => exact absent

theorem holds_required {field : Field α} {Means : Json → α → Prop}
    (decodes : field.decode.Decodes Means) (absent : field.absent = none)
    (beyond : field.beyond = none) {place : Nat} {v : Json} {a : α} :
    field.Holds place v a ↔ ∃ w, Part field.names place v (some w) ∧ Means w a := by
  rw [Holds, fallback_eq absent beyond]
  constructor
  · intro holds
    obtain ⟨found, part, gives⟩ := holds
    cases found with
    | none => cases gives
    | some w => exact ⟨w, part, (decodes w a).1 gives⟩
  · intro present
    obtain ⟨w, part, means⟩ := present
    exact ⟨some w, part, (decodes w a).2 means⟩

theorem gives_loose {field : Field (Option α)} {decode : Decoder α} {Means : Json → α → Prop}
    (decodes : decode.Decodes Means) (nonnull : ∀ a, ¬ Means .null a)
    (reads : field.decode = decode.optional) {found : Option Json} {written : Option α} :
    field.Gives (some none) found written ↔ Loose Means found written := by
  cases found with
  | none =>
      constructor
      · intro gives
        cases gives
        exact .absent
      · intro loose
        cases loose
        rfl
  | some v =>
      rw [← Decoder.optional_ok_iff decodes nonnull, ← reads]
      exact Iff.rfl

theorem holds_loose {field : Field (Option α)} {decode : Decoder α} {Means : Json → α → Prop}
    (decodes : decode.Decodes Means) (nonnull : ∀ a, ¬ Means .null a)
    (reads : field.decode = decode.optional) (absent : field.absent = some none)
    (beyond : field.beyond = some none) {place : Nat} {v : Json} {written : Option α} :
    field.Holds place v written ↔ LoosePart field.names place Means v written := by
  rw [Holds, fallback_eq absent beyond, LoosePart]
  exact exists_congr fun found =>
    and_congr_right fun _ => gives_loose decodes nonnull reads

end Field

/-- The fields fit, and `build` makes `a` of the value. -/
def Builds (slots : List Slot) (title : String) (build : Source → Except Mismatch α) :
    Json → α → Prop
  | .object fields, a =>
      (∀ slot ∈ slots, slot.Fits (members fields)) ∧ build (.members (members fields)) = .ok a
  | .array items, a => build (.items title items) = .ok a
  | _, _ => False

theorem record_ok_iff {name : String} {slots : List Slot} {build : Source → Except Mismatch α}
    (distinct : (slots.flatMap Slot.names).Nodup) (v : Json) (a : α) :
    record name slots build v = .ok a ↔
      Spans slots.length v ∧
        Builds slots ("struct " ++ name ++ " with " ++ plural slots.length) build v a := by
  cases v with
  | object fields =>
      rw [record, bind_ok_iff]
      constructor
      · intro recorded
        obtain ⟨⟨⟩, scanned, built⟩ := recorded
        exact ⟨trivial, (scan_members_ok_iff distinct _).1 scanned, built⟩
      · intro fitting
        obtain ⟨_, fits, built⟩ := fitting
        exact ⟨(), (scan_members_ok_iff distinct _).2 fits, built⟩
  | array items =>
      rw [record, bind_ok_iff]
      constructor
      · intro recorded
        obtain ⟨b, built, ended⟩ := recorded
        by_cases short : items.length ≤ slots.length
        · rw [if_pos short] at ended
          cases ended
          exact ⟨short, built⟩
        · rw [if_neg short] at ended
          cases ended
      · intro fitting
        obtain ⟨short, built⟩ := fitting
        exact ⟨a, built, if_pos short⟩
  | null | bool | number | string => simp [record, Decoder.misfit, Builds]

theorem builds_field {field : Field β} {place : Nat} {slots : List Slot} {title : String}
    {next : β → Source → Except Mismatch α} (distinct : field.names.Nodup) (v : Json) (a : α) :
    Builds (field.slot :: slots) title
        (fun source => field.read place source >>= fun b => next b source) v a ↔
      ∃ b, field.Holds place v b ∧ Builds slots title (next b) v a := by
  cases v with
  | object fields =>
      simp only [Builds, Field.read, bind_ok_iff, List.forall_mem_cons,
        field.holds_object distinct]
      constructor
      · intro building
        obtain ⟨⟨fits, others⟩, b, read, built⟩ := building
        exact ⟨b, ⟨fits, read⟩, others, built⟩
      · intro holding
        obtain ⟨b, ⟨fits, read⟩, others, built⟩ := holding
        exact ⟨⟨fits, others⟩, b, read, built⟩
  | array items =>
      simp only [Builds, Field.read, bind_ok_iff, field.holds_array, field.ofItem_ok_iff]
  | null | bool | number | string => simp [Builds]

theorem builds_nil {title : String} {b a : α} (v : Json) :
    Builds [] title (fun _ => pure b) v a ↔ Compound v ∧ b = a := by
  cases v with
  | object | array => simp [Builds, Compound, pure, Except.pure]
  | null | bool | number | string => simp [Builds, Compound]

end FormatReview.Json
