import FormatReview.Upload.Event

namespace FormatReview.Upload

/-! The events of an upload: all are of its generation, and only the last one can end it. -/

variable {settings : Settings} {candidate : Candidate} {kind : DocumentKind} {generation : Nat}
  {storage : Storage} {service : Service} {event : Event}

theorem exchange_of_prepare_error {fault : Fault}
    (unready : prepare settings candidate kind storage = .error fault) (service : Service) :
    exchange settings candidate kind storage service = ⟨none, [], .error fault⟩ := by
  simp [exchange, unready]

theorem events_run :
    (run settings candidate kind generation storage service).events =
      (reaching .stream (exchange settings candidate kind storage service).signals).map
          (fun percent => ⟨generation, .progress percent⟩) ++
        [⟨generation, lastReport (settings.endpoints.urlFor kind)
          (exchange settings candidate kind storage service).review⟩] := rfl

theorem mem_events_run :
    event ∈ (run settings candidate kind generation storage service).events ↔
      (∃ percent ∈ reaching .stream (exchange settings candidate kind storage service).signals,
        event = ⟨generation, .progress percent⟩) ∨
      event = ⟨generation, lastReport (settings.endpoints.urlFor kind)
        (exchange settings candidate kind storage service).review⟩ := by
  simp only [events_run, List.mem_append, List.mem_map, List.mem_singleton,
    eq_comm (a := event)]

theorem generation_of_mem_events
    (member : event ∈ (run settings candidate kind generation storage service).events) :
    event.generation = generation := by
  rcases mem_events_run.1 member with ⟨percent, -, rfl⟩ | rfl
  · rfl
  · rfl

theorem getLast?_events_of_isTerminal
    (member : event ∈ (run settings candidate kind generation storage service).events)
    (terminal : event.isTerminal = true) :
    (run settings candidate kind generation storage service).events.getLast? = some event := by
  rcases mem_events_run.1 member with ⟨percent, -, rfl⟩ | rfl
  · simp [Event.isTerminal, Report.isTerminal] at terminal
  · exact List.getLast?_concat

end FormatReview.Upload
