import FormatReview.Proofs.Upload.Percent
import FormatReview.Upload.Telling

namespace FormatReview.Upload

/-! What two tasks tell of the percentages that they take from one tracker. The percentages are taken
in rising order. They are told in that order too, unless both tasks have one in hand at some moment:
then 100 may come before the last of the others. -/

/-- The percentages as they were taken, and as they were told. -/
inductive Told (crossed : Prop) : List UInt8 → List UInt8 → Prop
  | inOrder (percents : List UInt8) : Told crossed percents percents
  | overtaken (cross : crossed) (before : List UInt8) (late : UInt8) :
      Told crossed (before ++ [late, 100]) (before ++ [100, late])

namespace Told

variable {crossed : Prop} {taken told : List UInt8}

theorem imp {other : Prop} (order : Told crossed taken told) (step : crossed → other) :
    Told other taken told := by
  cases order with
  | inOrder => exact .inOrder _
  | overtaken cross before late => exact .overtaken (step cross) before late

theorem mem_iff (order : Told crossed taken told) (percent : UInt8) :
    percent ∈ told ↔ percent ∈ taken := by
  cases order with
  | inOrder => rfl
  | overtaken cross before late => simp [or_comm]

/-- Only 100 can come before its turn. -/
theorem eq_of_not_mem (order : Told crossed taken told) (unfinished : 100 ∉ taken) :
    told = taken := by
  cases order with
  | inOrder => rfl
  | overtaken cross before late => simp at unfinished

end Told

/-! One step of one task. -/

namespace Hand

/-- What someone has yet to be told of the percentage in hand. -/
def due : Hand → Ear → List UInt8
  | .empty, _ => []
  | .taken percent, _ => [percent]
  | .heard _, .observer => []
  | .heard percent, .stream => [percent]

@[simp] theorem due_empty (ear : Ear) : empty.due ear = [] := by cases ear <;> rfl

@[simp] theorem due_taken (percent : UInt8) (ear : Ear) : (taken percent).due ear = [percent] := by
  cases ear <;> rfl

theorem due_cases (hand : Hand) (ear : Ear) :
    hand.due ear = [] ∨ hand ≠ .empty ∧ ∃ percent, hand.due ear = [percent] := by
  cases hand with
  | empty => exact .inl (due_empty ear)
  | taken percent => exact .inr ⟨by simp, percent, due_taken percent ear⟩
  | heard percent =>
      cases ear with
      | observer => exact .inl rfl
      | stream => exact .inr ⟨by simp, percent, rfl⟩

end Hand

/-- What a step passes on to someone is what was due, and what it does not pass on stays due. -/
def Passes (hand : Hand) (signals : List Signal) (next : Hand) (ear : Ear) : Prop :=
  reaching ear signals = [] ∧ next.due ear = hand.due ear ∨
    reaching ear signals = hand.due ear ∧ next.due ear = []

namespace Teller

/-- What a step of a task can be. -/
inductive Stepped (teller : Teller) (tracker : Tracker) : List Signal × Tracker × Teller → Prop
  | passed {signals : List Signal} {hand : Hand}
      (passes : ∀ ear, Passes teller.hand signals hand ear) :
      Stepped teller tracker (signals, tracker, ⟨hand, teller.ahead⟩)
  | silent {advance : Advance} {rest : List Advance} (free : teller.hand = .empty)
      (next : teller.ahead = advance :: rest) (quiet : (tracker.advance advance).1 = none) :
      Stepped teller tracker ([], (tracker.advance advance).2, ⟨.empty, rest⟩)
  | took {advance : Advance} {rest : List Advance} {percent : UInt8} (free : teller.hand = .empty)
      (next : teller.ahead = advance :: rest)
      (told : (tracker.advance advance).1 = some percent) :
      Stepped teller tracker ([], (tracker.advance advance).2, ⟨.taken percent, rest⟩)

theorem stepped_step (teller : Teller) (tracker : Tracker) :
    teller.Stepped tracker (teller.step tracker) := by
  obtain ⟨hand, ahead⟩ := teller
  cases hand with
  | taken percent =>
      refine .passed fun ear => ?_
      cases ear with
      | observer => exact .inr ⟨rfl, rfl⟩
      | stream => exact .inl ⟨rfl, rfl⟩
  | heard percent =>
      refine .passed fun ear => ?_
      cases ear with
      | observer => exact .inl ⟨rfl, rfl⟩
      | stream => exact .inr ⟨rfl, rfl⟩
  | empty =>
      cases ahead with
      | nil => exact .passed fun ear => .inl ⟨rfl, rfl⟩
      | cons advance rest =>
          simp only [step]
          cases told : (tracker.advance advance).1 with
          | none => exact .silent rfl rfl told
          | some percent => exact .took rfl rfl told

theorem left_step (teller : Teller) (tracker : Tracker) :
    (teller.step tracker).2.2.left ≤ teller.left - 1 := by
  obtain ⟨hand, ahead⟩ := teller
  cases hand with
  | taken percent => simp only [step, left]; omega
  | heard percent => simp only [step, left]; omega
  | empty =>
      cases ahead with
      | nil => simp [step, left]
      | cons advance rest =>
          simp only [step, left, List.length_cons]
          cases (tracker.advance advance).1 <;> simp only [Option.elim] <;> omega

theorem idle_of_left {teller : Teller} (through : teller.left = 0) :
    teller.hand = .empty ∧ teller.ahead = [] := by
  obtain ⟨hand, ahead⟩ := teller
  cases hand with
  | empty =>
      have counted : 3 * ahead.length = 0 := by simpa only [left, Nat.zero_add] using through
      have none : ahead = [] := List.length_eq_zero_iff.1 (by omega)
      exact ⟨rfl, none⟩
  | taken percent => simp only [left] at through; omega
  | heard percent => simp only [left] at through; omega

end Teller

namespace Telling

/-- Both tasks have a percentage in hand. -/
def Crossing (telling : Telling) : Prop :=
  telling.body.hand ≠ .empty ∧ telling.upload.hand ≠ .empty

/-- At some moment both tasks have a percentage in hand. -/
def Crosses (telling : Telling) : List Turn → Prop
  | [] => telling.Crossing
  | turn :: rest => telling.Crossing ∨ (telling.step turn).2.Crosses rest

theorem crosses_of_step {telling : Telling} {turn : Turn} {rest : List Turn}
    (crossing : (telling.step turn).2.Crossing) : telling.Crosses (turn :: rest) := by
  cases rest with
  | nil => exact .inr crossing
  | cons next rest => exact .inr (.inl crossing)

/-! Both tasks come to their end. -/

def left (telling : Telling) : Turn → Nat
  | .body => telling.body.left
  | .upload => telling.upload.left

theorem left_step (telling : Telling) (turn acting : Turn) :
    (telling.step acting).2.left turn ≤
      telling.left turn - if acting == turn then 1 else 0 := by
  cases acting with
  | body =>
      cases turn with
      | body => exact telling.body.left_step telling.tracker
      | upload => exact Nat.le_refl _
  | upload =>
      cases turn with
      | body => exact Nat.le_refl _
      | upload => exact telling.upload.left_step telling.tracker

theorem left_run (telling : Telling) (turn : Turn) (turns : List Turn) :
    (telling.run turns).2.left turn ≤ telling.left turn - turns.count turn := by
  induction turns generalizing telling with
  | nil => exact Nat.le_refl _
  | cons acting rest ih =>
      have first := telling.left_step turn acting
      have later := ih (telling.step acting).2
      simp only [run_cons, List.count_cons]
      omega

theorem idle_of_toTheEnd (telling : Telling) (turns : List Turn) (turn : Turn) :
    (telling.run (telling.toTheEnd turns)).2.left turn = 0 := by
  have through := telling.left_run turn (telling.toTheEnd turns)
  have enough : telling.left turn ≤ (telling.toTheEnd turns).count turn := by
    cases turn with
    | body => simp [toTheEnd, left, List.count_append, List.count_replicate]
    | upload => simp [toTheEnd, left, List.count_append, List.count_replicate]
  omega

end Telling

/-! What is taken, and what is told. -/

/-- The percentages that come of some advances, in the order in which they were made. -/
def takenOver (total : UInt64) (made : List Advance) : List UInt8 :=
  ((Tracker.start total).tellAll made).1

section Taken

variable {total : UInt64} {made : List Advance} {tracker : Tracker} {advance : Advance}

theorem tracked_concat (tracked : tracker = ((Tracker.start total).tellAll made).2)
    (advance : Advance) :
    (tracker.advance advance).2 = ((Tracker.start total).tellAll (made ++ [advance])).2 := by
  rw [Tracker.tellAll_append, ← tracked]
  rfl

theorem takenOver_concat (tracked : tracker = ((Tracker.start total).tellAll made).2)
    (advance : Advance) :
    takenOver total (made ++ [advance]) =
      takenOver total made ++ (tracker.advance advance).1.toList := by
  rw [takenOver, takenOver, Tracker.tellAll_append, ← tracked]
  exact congrArg _ (List.append_nil _)

theorem takenOver_of_none (tracked : tracker = ((Tracker.start total).tellAll made).2)
    (quiet : (tracker.advance advance).1 = none) :
    takenOver total (made ++ [advance]) = takenOver total made := by
  rw [takenOver_concat tracked, quiet, Option.toList_none, List.append_nil]

theorem takenOver_of_some (tracked : tracker = ((Tracker.start total).tellAll made).2)
    {percent : UInt8} (told : (tracker.advance advance).1 = some percent) :
    takenOver total (made ++ [advance]) = takenOver total made ++ [percent] := by
  rw [takenOver_concat tracked, told, Option.toList_some]

theorem unfinished_of_taken (tracked : tracker = ((Tracker.start total).tellAll made).2)
    {percent : UInt8} (told : (tracker.advance advance).1 = some percent) :
    100 ∉ takenOver total made := by
  intro finished
  have rising : (takenOver total (made ++ [advance])).Pairwise (· < ·) :=
    Tracker.tellAll_rising _ _
  have bounded (other : UInt8) (member : other ∈ takenOver total (made ++ [advance])) :
      other ≤ 100 := Tracker.le_of_mem_tellAll member
  rw [takenOver_of_some tracked told] at rising bounded
  have above := (List.pairwise_append.1 rising).2.2 100 finished percent (List.mem_singleton_self _)
  exact UInt8.not_le.2 above (bounded percent (List.mem_append_right _ (List.mem_singleton_self _)))

theorem getLast?_takenOver (finished : .finish ∈ made) :
    (takenOver total made).getLast? = some 100 := by
  have full : ((Tracker.start total).tellAll made).2.last = some 100 :=
    Tracker.full_of_finish finished
  rwa [Tracker.last_tellAll, Tracker.start, Option.or_none] at full

end Taken

/-- What was taken, against what was told and what is still in hand: whichever task goes on first
with what it has in hand, the order can be accounted for. -/
structure Accounted (crossed received : Prop) (total : UInt64) (telling : Telling)
    (made : List Advance) (told : List Signal) : Prop where
  tracked : telling.tracker = ((Tracker.start total).tellAll made).2
  finishing : telling.upload.ahead = [.finish] ∨
    telling.upload.ahead = [] ∧ (received → .finish ∈ made)
  full : ∀ ear, ∀ percent ∈ telling.upload.hand.due ear, percent = 100
  bodyFirst : ∀ ear, Told crossed (takenOver total made)
    (reaching ear told ++ telling.body.hand.due ear ++ telling.upload.hand.due ear)
  uploadFirst : ∀ ear, Told crossed (takenOver total made)
    (reaching ear told ++ telling.upload.hand.due ear ++ telling.body.hand.due ear)

theorem Passes.mem_of_due {hand next : Hand} {signals : List Signal} {ear : Ear} {percent : UInt8}
    (passes : Passes hand signals next ear) (due : percent ∈ next.due ear) :
    percent ∈ hand.due ear := by
  rcases passes with ⟨-, same⟩ | ⟨-, done⟩
  · rwa [same] at due
  · rw [done] at due
    cases due

/-- Passing on what is due changes nothing about the order, whichever task comes first. -/
theorem Passes.told {crossed : Prop} {taken before other : List UInt8} {signals : List Signal}
    {hand next : Hand} {ear : Ear} (passes : Passes hand signals next ear)
    (first : Told crossed taken (before ++ hand.due ear ++ other))
    (second : Told crossed taken (before ++ other ++ hand.due ear)) :
    Told crossed taken (before ++ reaching ear signals ++ next.due ear ++ other) ∧
      Told crossed taken (before ++ reaching ear signals ++ other ++ next.due ear) := by
  rcases passes with ⟨silent, same⟩ | ⟨passed, done⟩
  · rw [silent, same, List.append_nil]
    exact ⟨first, second⟩
  · rw [passed, done, List.append_nil, List.append_nil]
    exact ⟨first, first⟩

namespace Accounted

variable {crossed received : Prop} {total : UInt64} {telling : Telling} {made : List Advance}
  {told : List Signal} {advance : Advance} {percent : UInt8}

/-- Before 100 was taken, the upload has nothing in hand, and the rest is in its order. -/
theorem taken_eq (accounted : Accounted crossed received total telling made told)
    (unfinished : 100 ∉ takenOver total made) (ear : Ear) :
    telling.upload.hand.due ear = [] ∧
      reaching ear told ++ telling.body.hand.due ear = takenOver total made := by
  have order := accounted.bodyFirst ear
  have idle : telling.upload.hand.due ear = [] := by
    apply List.eq_nil_iff_forall_not_mem.2
    intro percent due
    have full := accounted.full ear percent due
    apply unfinished
    rw [← order.mem_iff, ← full]
    exact List.mem_append_right _ due
  rw [idle, List.append_nil] at order
  exact ⟨idle, order.eq_of_not_mem unfinished⟩

theorem finishing_concat (accounted : Accounted crossed received total telling made told)
    (advance : Advance) :
    telling.upload.ahead = [.finish] ∨
      telling.upload.ahead = [] ∧ (received → .finish ∈ made ++ [advance]) :=
  accounted.finishing.imp_right fun ⟨spent, finished⟩ =>
    ⟨spent, fun answered => List.mem_append_left _ (finished answered)⟩

theorem body_step (accounted : Accounted crossed received total telling made told) :
    ∃ more, Accounted crossed received total (telling.step .body).2 more
      (told ++ (telling.step .body).1) := by
  have stepped := telling.body.stepped_step telling.tracker
  simp only [Telling.step]
  generalize telling.body.step telling.tracker = result at stepped ⊢
  cases stepped with
  | passed passes =>
      have both (ear : Ear) :=
        (passes ear).told (accounted.bodyFirst ear) (accounted.uploadFirst ear)
      refine ⟨made, { accounted with bodyFirst := fun ear => ?_, uploadFirst := fun ear => ?_ }⟩
      · rw [reaching_append]
        exact (both ear).1
      · rw [reaching_append]
        exact (both ear).2
  | @silent advance rest free next quiet =>
      have taken := takenOver_of_none accounted.tracked quiet
      have tracked := tracked_concat accounted.tracked advance
      rw [List.append_nil]
      refine ⟨made ++ [advance], tracked, accounted.finishing_concat advance, accounted.full,
        fun ear => ?_, fun ear => ?_⟩
      · simpa only [taken, free] using accounted.bodyFirst ear
      · simpa only [taken, free] using accounted.uploadFirst ear
  | @took advance rest percent free next tells =>
      have taken := takenOver_of_some accounted.tracked tells
      have tracked := tracked_concat accounted.tracked advance
      -- As the body still takes one, 100 was not taken yet, and the upload has nothing to tell.
      have straight (ear : Ear) :
          telling.upload.hand.due ear = [] ∧ reaching ear told = takenOver total made := by
        simpa [free] using
          accounted.taken_eq (unfinished_of_taken accounted.tracked tells) ear
      rw [List.append_nil]
      refine ⟨made ++ [advance], tracked, accounted.finishing_concat advance, accounted.full,
        fun ear => ?_, fun ear => ?_⟩
      · simp only [straight ear, taken, Hand.due_taken, List.append_nil]
        exact .inOrder _
      · simp only [straight ear, taken, Hand.due_taken, List.append_nil]
        exact .inOrder _

theorem finish_of_ahead (accounted : Accounted crossed received total telling made told)
    {rest : List Advance} (next : telling.upload.ahead = advance :: rest) :
    advance = .finish ∧ rest = [] := by
  rcases accounted.finishing with last | ⟨spent, -⟩
  · simpa using next.symm.trans last
  · cases next.symm.trans spent

theorem upload_step (accounted : Accounted crossed received total telling made told)
    (apart : (telling.step .upload).2.Crossing → crossed) :
    ∃ more, Accounted crossed received total (telling.step .upload).2 more
      (told ++ (telling.step .upload).1) := by
  have stepped := telling.upload.stepped_step telling.tracker
  simp only [Telling.step] at apart ⊢
  generalize telling.upload.step telling.tracker = result at stepped apart ⊢
  cases stepped with
  | passed passes =>
      have both (ear : Ear) :=
        (passes ear).told (accounted.uploadFirst ear) (accounted.bodyFirst ear)
      refine ⟨made, { accounted with
        full := fun ear percent due => accounted.full ear percent ((passes ear).mem_of_due due)
        bodyFirst := fun ear => ?_
        uploadFirst := fun ear => ?_ }⟩
      · rw [reaching_append]
        exact (both ear).2
      · rw [reaching_append]
        exact (both ear).1
  | @silent advance rest free next quiet =>
      have taken := takenOver_of_none accounted.tracked quiet
      have tracked := tracked_concat accounted.tracked advance
      obtain ⟨rfl, rfl⟩ := accounted.finish_of_ahead next
      rw [List.append_nil]
      refine ⟨made ++ [.finish], tracked, .inr ⟨rfl, fun _ => by simp⟩, by simp,
        fun ear => ?_, fun ear => ?_⟩
      · simpa only [taken, free] using accounted.bodyFirst ear
      · simpa only [taken, free] using accounted.uploadFirst ear
  | @took advance rest percent free next tells =>
      have taken := takenOver_of_some accounted.tracked tells
      have tracked := tracked_concat accounted.tracked advance
      obtain ⟨rfl, rfl⟩ := accounted.finish_of_ahead next
      obtain rfl : percent = 100 := Tracker.eq_of_finish tells
      have straight (ear : Ear) :=
        (accounted.taken_eq (unfinished_of_taken accounted.tracked tells) ear).2
      rw [List.append_nil]
      refine ⟨made ++ [.finish], tracked, .inr ⟨rfl, fun _ => by simp⟩, by simp,
        fun ear => ?_, fun ear => ?_⟩
      · simp only [straight ear, taken, Hand.due_taken]
        exact .inOrder _
      · -- Now 100 may be told before what the body still has in hand.
        rw [taken, ← straight ear]
        simp only [Hand.due_taken, List.append_assoc]
        rcases telling.body.hand.due_cases ear with none | ⟨holds, late, due⟩
        · rw [none]
          exact .inOrder _
        · rw [due]
          exact .overtaken (apart ⟨holds, by simp⟩) _ late

theorem step (accounted : Accounted crossed received total telling made told) (turn : Turn)
    (apart : (telling.step turn).2.Crossing → crossed) :
    ∃ more, Accounted crossed received total (telling.step turn).2 more
      (told ++ (telling.step turn).1) := by
  cases turn with
  | body => exact accounted.body_step
  | upload => exact accounted.upload_step apart

theorem run (accounted : Accounted crossed received total telling made told) {turns : List Turn}
    (apart : telling.Crosses turns → crossed) :
    ∃ more, Accounted crossed received total (telling.run turns).2 more
      (told ++ (telling.run turns).1) := by
  induction turns generalizing telling made told with
  | nil => exact ⟨made, by simpa using accounted⟩
  | cons turn rest ih =>
      obtain ⟨more, stepped⟩ := accounted.step turn fun crossing =>
        apart (Telling.crosses_of_step crossing)
      obtain ⟨final, ran⟩ := ih stepped fun crosses => apart (.inr crosses)
      exact ⟨final, by simpa only [Telling.run_cons, List.append_assoc] using ran⟩

end Accounted

theorem accounted_start (crossed : Prop) (total : UInt64) (advances : List Advance)
    (received : Bool) :
    Accounted crossed received total (.start total advances received) [] [] where
  tracked := rfl
  finishing := by cases received <;> simp [Telling.start]
  full := by simp [Telling.start]
  bodyFirst ear := by
    simp only [Telling.start, reaching_nil, Hand.due_empty, List.append_nil]
    exact .inOrder _
  uploadFirst ear := by
    simp only [Telling.start, reaching_nil, Hand.due_empty, List.append_nil]
    exact .inOrder _

/-- All that two tasks tell, up to the end of both. -/
theorem told_toTheEnd (total : UInt64) (advances : List Advance) (received : Bool)
    (turns : List Turn) :
    let telling : Telling := .start total advances received
    let turns := telling.toTheEnd turns
    ∃ made, (received = true → .finish ∈ made) ∧
      ∀ ear, Told (telling.Crosses turns) (takenOver total made)
        (reaching ear (telling.run turns).1) := by
  intro telling all
  have begun := accounted_start (telling.Crosses all) total advances received
  obtain ⟨made, ended⟩ := begun.run id
  obtain ⟨bodyIdle, -⟩ := Teller.idle_of_left (telling.idle_of_toTheEnd turns .body)
  obtain ⟨uploadIdle, spent⟩ := Teller.idle_of_left (telling.idle_of_toTheEnd turns .upload)
  refine ⟨made, ?_, fun ear => ?_⟩
  · rcases ended.finishing with last | ⟨-, finished⟩
    · cases spent.symm.trans last
    · exact finished
  · have order := ended.bodyFirst ear
    rw [bodyIdle, uploadIdle] at order
    simpa using order

theorem not_crosses_of_unfinished (total : UInt64) (advances : List Advance) (turns : List Turn) :
    ¬(Telling.start total advances false).Crosses turns := by
  have idle (telling : Telling) (free : telling.upload = ⟨.empty, []⟩) :
      ¬telling.Crosses turns := by
    induction turns generalizing telling with
    | nil => exact fun crossing => crossing.2 (by rw [free])
    | cons turn rest ih =>
        rintro (crossing | later)
        · exact crossing.2 (by rw [free])
        · refine ih (telling.step turn).2 ?_ later
          cases turn with
          | body => exact free
          | upload => simp [Telling.step, Teller.step, free]
  exact idle _ rfl

end FormatReview.Upload
