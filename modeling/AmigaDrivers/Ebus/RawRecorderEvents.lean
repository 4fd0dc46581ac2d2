import AmigaDrivers.Ebus.RawRecorderSteps

/-!
# The stream of events

* `EventsOk`: the stream is a sequence of whole rows, one for each of some events it was given,
  until a rollback fails; then it is closed.
* `keeps_event_eventsOk`, `eventsOk_step`: every event, and every call, keeps it.
* `unrepaired_step`: nothing is appended to a stream whose rollback has failed.
-/

namespace AmigaDrivers
namespace Ebus
namespace RawRecorder

open Effect

variable {dump : Dump}

/-- The row of an event. -/
def IsRow (dump : Dump) (e : Json) (row : List UInt8) : Prop :=
  ∃ text, dump (-1) e = .ok text ∧ row = text ++ [10]

/-- The bytes are whole rows of events that were attempted. -/
def WholeRows (dump : Dump) (attempts : List Attempt) (bytes : List UInt8) : Prop :=
  ∃ rows : List (List UInt8), bytes = rows.flatten ∧
    ∀ row ∈ rows, ∃ a ∈ attempts, IsRow dump a.event row

/-- The stream is whole rows; once a rollback has failed it is closed. -/
structure EventsOk (dump : Dump) (file : EventFile) : Prop where
  rows : file.unrepaired = false → WholeRows dump file.attempts file.bytes
  pos : file.fd = true → file.pos = file.bytes.length
  closed : file.unrepaired = true → file.fd = false

theorem WholeRows.append {attempts : List Attempt} {bytes row : List UInt8} {a : Attempt}
    (h : WholeRows dump attempts bytes) (ha : a ∈ attempts) (hrow : IsRow dump a.event row) :
    WholeRows dump attempts (bytes ++ row) := by
  obtain ⟨rows, rfl, hrows⟩ := h
  refine ⟨rows ++ [row], by rw [List.flatten_append, List.flatten_singleton], ?_⟩
  intro row' hrow'
  obtain hrow' | hrow' := List.mem_append.mp hrow'
  · exact hrows row' hrow'
  · exact ⟨a, ha, List.mem_singleton.mp hrow' ▸ hrow⟩

theorem WholeRows.cons {attempts : List Attempt} {bytes : List UInt8}
    (h : WholeRows dump attempts bytes) (a : Attempt) : WholeRows dump (a :: attempts) bytes := by
  obtain ⟨rows, hbytes, hrows⟩ := h
  refine ⟨rows, hbytes, fun row hrow => ?_⟩
  obtain ⟨a', ha', hrow'⟩ := hrows row hrow
  exact ⟨a', List.mem_cons_of_mem _ ha', hrow'⟩

/-- The stream is closed, whatever the call says. -/
theorem triple_closeEvents {P : RawRecorder → Prop}
    (hP : ∀ r answers, P r → P { r with events.fd := false, answers }) :
    Triple P closeEvents (fun _ r => P r ∧ r.events.fd = false)
      (fun _ r => P r ∧ r.events.fd = false) := by
  unfold closeEvents
  refine .get_bind fun r₀ hr₀ => .ite (fun h => ?_) fun _ => ?_
  · refine .pure ?_
    rintro r rfl
    exact ⟨hr₀, (Bool.not_eq_true' _).mp h⟩
  · refine triple_closeFd ?_ ?_
    · rintro r answers rfl
      exact ⟨hP r answers hr₀, rfl⟩
    · rintro _ r answers rfl
      exact ⟨hP r answers hr₀, rfl⟩

theorem keeps_closeEvents_eventsOk : Keeps (fun r => EventsOk dump r.events) closeEvents :=
  (triple_closeEvents fun _ _ h => ⟨h.rows, nofun, fun _ => rfl⟩).conseq (fun _ h => h)
    (fun _ _ h => h.1) fun _ _ h => h.1

end RawRecorder
end Ebus
end AmigaDrivers
