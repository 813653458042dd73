import FormatReview.Proofs.Session.Relay

namespace FormatReview.Session

/-! The progress shown of an upload under way is the highest percentage delivered so far, whatever
the order of the percentages, and however often each of them came. -/

/-! The highest of some percentages. -/

theorem max_eq_of_le {a b : UInt8} (below : a ≤ b) : max a b = b := if_pos below

theorem max_eq_of_ge {a b : UInt8} (above : b ≤ a) : max a b = a := by
  by_cases below : a ≤ b
  · rw [max_eq_of_le below]
    exact UInt8.le_antisymm above below
  · exact if_neg below

theorem max_percent_le_iff (a b bound : UInt8) : max a b ≤ bound ↔ a ≤ bound ∧ b ≤ bound := by
  by_cases below : a ≤ b
  · rw [max_eq_of_le below]
    exact ⟨fun most => ⟨UInt8.le_trans below most, most⟩, And.right⟩
  · have above : b ≤ a := UInt8.le_of_lt (UInt8.not_le.1 below)
    rw [max_eq_of_ge above]
    exact ⟨fun most => ⟨most, UInt8.le_trans above most⟩, And.left⟩

theorem foldl_max_le_iff (reached : UInt8) (percents : List UInt8) (bound : UInt8) :
    percents.foldl max reached ≤ bound ↔
      reached ≤ bound ∧ ∀ percent ∈ percents, percent ≤ bound := by
  induction percents generalizing reached with
  | nil => simp
  | cons percent rest ih =>
      rw [List.foldl_cons, ih, max_percent_le_iff, List.forall_mem_cons, and_assoc]

theorem le_foldl_max (reached : UInt8) (percents : List UInt8) :
    reached ≤ percents.foldl max reached :=
  ((foldl_max_le_iff _ _ _).1 (UInt8.le_refl _)).1

/-- Neither order nor number matters to the highest. -/
theorem foldl_max_eq_of_mem_iff {percents others : List UInt8}
    (same : ∀ percent, percent ∈ others ↔ percent ∈ percents) (reached : UInt8) :
    others.foldl max reached = percents.foldl max reached := by
  apply UInt8.le_antisymm
  · obtain ⟨least, most⟩ := (foldl_max_le_iff reached percents _).1 (UInt8.le_refl _)
    exact (foldl_max_le_iff _ _ _).2 ⟨least, fun percent member => most percent ((same _).1 member)⟩
  · obtain ⟨least, most⟩ := (foldl_max_le_iff reached others _).1 (UInt8.le_refl _)
    exact (foldl_max_le_iff _ _ _).2 ⟨least, fun percent member => most percent ((same _).2 member)⟩

/-! The events of an upload under way. -/

/-- What may come before an upload has ended: its percentages, rejections, and whatever is left of
other uploads. -/
inductive Event.Underway (generation : Nat) : Event → Prop
  | progress (percent : UInt8) : Underway generation (progressEvent generation percent)
  | reject (rejection : Rejection) : Underway generation (.reject rejection)
  | foreign {event : Upload.Event} (other : event.generation ≠ generation) :
      Underway generation (.upload event)

/-- The percentage that an event brings to an upload. Nothing beyond 100 is shown. -/
def Event.percent? (generation : Nat) : Event → Option UInt8
  | .upload ⟨tag, .progress percent⟩ => if tag = generation then some (min percent 100) else none
  | _ => none

def Event.rejection? : Event → Option Rejection
  | .reject rejection => some rejection
  | _ => none

def percents (generation : Nat) (events : List Event) : List UInt8 :=
  events.filterMap (Event.percent? generation)

def lastRejection? (events : List Event) : Option Rejection :=
  (events.filterMap Event.rejection?).getLast?

section Events

variable (generation : Nat)

@[simp] theorem percent?_progressEvent (percent : UInt8) :
    (progressEvent generation percent).percent? generation = some (min percent 100) := if_pos rfl

theorem percent?_foreign {event : Upload.Event} (other : event.generation ≠ generation) :
    Event.percent? generation (.upload event) = none := by
  obtain ⟨tag, report⟩ := event
  cases report with
  | progress percent => exact if_neg other
  | completed review => rfl
  | failed failure => rfl

theorem mem_percents_iff {events : List Event} {shown : UInt8} :
    shown ∈ percents generation events ↔
      ∃ percent, progressEvent generation percent ∈ events ∧ min percent 100 = shown := by
  rw [percents, List.mem_filterMap]
  constructor
  · rintro ⟨event, member, brought⟩
    cases event with
    | select selection => cases brought
    | clear => cases brought
    | reject rejection => cases brought
    | upload event =>
        obtain ⟨tag, report⟩ := event
        cases report with
        | completed review => cases brought
        | failed failure => cases brought
        | progress percent =>
            obtain ⟨rfl, shown⟩ := Option.ite_none_right_eq_some.1 brought
            exact ⟨percent, member, Option.some.inj shown⟩
  · rintro ⟨percent, member, rfl⟩
    exact ⟨_, member, percent?_progressEvent generation percent⟩

theorem percents_cons (event : Event) (rest : List Event) :
    percents generation (event :: rest) =
      (event.percent? generation).toList ++ percents generation rest := by
  cases brought : event.percent? generation <;> simp [percents, brought]

theorem percents_append (events more : List Event) :
    percents generation (events ++ more) = percents generation events ++ percents generation more :=
  List.filterMap_append

end Events

theorem lastRejection?_cons (event : Event) (rest : List Event) :
    lastRejection? (event :: rest) = (lastRejection? rest).or event.rejection? := by
  cases brought : event.rejection? with
  | none => rw [lastRejection?, List.filterMap_cons_none brought, lastRejection?, Option.or_none]
  | some rejection =>
      rw [lastRejection?, List.filterMap_cons_some brought, List.getLast?_cons, lastRejection?]
      cases (rest.filterMap Event.rejection?).getLast? <;> rfl

/-! A session on whose upload nothing but such events come. -/

theorem report_progress (session : Session) (percent : UInt8) :
    (session.report (.progress percent)).2 =
      { session with progress := max session.progress (min percent 100) } := by
  simp only [report]
  by_cases kept : min percent 100 ≤ session.progress ∧ session.progress ≠ 0
  · rw [if_pos kept, max_eq_of_ge kept.1]
  · rw [if_neg kept, max_eq_of_le]
    by_cases reached : min percent 100 ≤ session.progress
    · -- A percentage that shows nothing new is taken only at the start, where zero is shown.
      have zero : session.progress = 0 :=
        Decidable.byContradiction fun started => kept ⟨reached, started⟩
      rw [zero]
      exact UInt8.zero_le
    · exact UInt8.le_of_lt (UInt8.not_le.1 reached)

variable {session : Session}

theorem apply_underway (unsettled : session.settled = false) {event : Event}
    (underway : event.Underway session.generation) :
    (session.apply event).2 =
      { session with
        progress := (event.percent? session.generation).toList.foldl max session.progress
        rejection := event.rejection?.or session.rejection } := by
  cases underway with
  | progress percent =>
      rw [percent?_progressEvent, progressEvent, apply_upload_open _ rfl unsettled, report_progress]
      rfl
  | reject rejection => rfl
  | foreign other =>
      rw [apply_upload_stale _ other, percent?_foreign _ other]
      rfl

theorem applyAll_underway (unsettled : session.settled = false) {events : List Event}
    (underway : ∀ event ∈ events, event.Underway session.generation) :
    (session.applyAll events).2 =
      { session with
        progress := (percents session.generation events).foldl max session.progress
        rejection := (lastRejection? events).or session.rejection } := by
  induction events generalizing session with
  | nil => rfl
  | cons event rest ih =>
      obtain ⟨first, later⟩ := List.forall_mem_cons.1 underway
      rw [applyAll_cons, apply_underway unsettled first]
      refine Eq.trans (ih unsettled later) ?_
      rw [percents_cons, List.foldl_append, lastRejection?_cons, Option.or_assoc]

/-- While an upload is under way, its progress never falls, and it is the highest percentage that
came, or zero if none did. So neither the order of the percentages nor their number matters to the
session: of the order of all events, it keeps the last rejection. -/
theorem progress_of_delivered (session : Session) (events : List Event)
    (underway : ∀ event ∈ events, event.Underway session.beginUpload.generation) :
    let begun := session.beginUpload
    let after (delivered : List Event) := (begun.applyAll delivered).2
    (∀ i j, i ≤ j → (after (events.take i)).progress ≤ (after (events.take j)).progress) ∧
    after events =
      { begun with
        progress := (percents begun.generation events).foldl max 0
        rejection := (lastRejection? events).or begun.rejection } ∧
    ∀ others : List Event, (∀ event ∈ others, event.Underway begun.generation) →
      (∀ percent, progressEvent begun.generation percent ∈ others ↔
        progressEvent begun.generation percent ∈ events) →
      after others = { after events with rejection := (after others).rejection } ∧
        (lastRejection? others = lastRejection? events → after others = after events) := by
  intro begun after
  have shown (delivered : List Event)
      (underway : ∀ event ∈ delivered, event.Underway begun.generation) :
      after delivered = { begun with
        progress := (percents begun.generation delivered).foldl max 0
        rejection := (lastRejection? delivered).or begun.rejection } :=
    applyAll_underway rfl underway
  refine ⟨?rises, shown events underway, ?same⟩
  case rises =>
    intro i j earlier
    rw [shown _ fun event member => underway event (List.mem_of_mem_take member),
      shown _ fun event member => underway event (List.mem_of_mem_take member)]
    obtain ⟨more, rfl⟩ := Nat.exists_eq_add_of_le earlier
    rw [List.take_add, percents_append, List.foldl_append]
    exact le_foldl_max _ _
  case same =>
    intro others underwayOthers same
    have highest : (percents begun.generation others).foldl max 0 =
        (percents begun.generation events).foldl max 0 := by
      apply foldl_max_eq_of_mem_iff
      intro percent
      simp only [mem_percents_iff, same]
    rw [shown others underwayOthers, shown events underway, highest]
    exact ⟨rfl, fun last => by rw [last]⟩

/-- Three percentages, among a rejection and what is left of an earlier upload, and the same with
two of them exchanged and one twice. -/
theorem progress_of_delivered_out_of_order :
    let rejection : Rejection := .unsupportedType "notes.txt" "docx"
    let events : List Event :=
      [progressEvent 2 55, .reject rejection, progressEvent 1 90, progressEvent 2 70,
        progressEvent 2 10]
    let others : List Event :=
      [progressEvent 2 10, progressEvent 2 70, progressEvent 2 70, .reject rejection,
        progressEvent 2 55]
    let begun := fresh.beginUpload.beginUpload
    (∀ event ∈ events, event.Underway 2) ∧ (∀ event ∈ others, event.Underway 2) ∧
    (begun.applyAll events).2 = { begun with progress := 70, rejection := some rejection } ∧
    (begun.applyAll others).2 = (begun.applyAll events).2 := by
  intro rejection events others begun
  have underway : ∀ event ∈ events, event.Underway 2 := by
    simp only [events, List.forall_mem_cons]
    exact ⟨.progress 55, .reject rejection, .foreign (by decide), .progress 70, .progress 10,
      List.forall_mem_nil _⟩
  have underwayOthers : ∀ event ∈ others, event.Underway 2 := by
    simp only [others, List.forall_mem_cons]
    exact ⟨.progress 10, .progress 70, .progress 70, .reject rejection, .progress 55,
      List.forall_mem_nil _⟩
  obtain ⟨-, shown, again⟩ := progress_of_delivered fresh.beginUpload events underway
  have same (percent : UInt8) :
      progressEvent 2 percent ∈ others ↔ progressEvent 2 percent ∈ events := by
    simp only [others, events, progressEvent, List.mem_cons, List.not_mem_nil, Event.upload.injEq,
      Upload.Event.mk.injEq, Upload.Report.progress.injEq]
    grind
  exact ⟨underway, underwayOthers, shown, (again others underwayOthers same).2 rfl⟩

end FormatReview.Session
