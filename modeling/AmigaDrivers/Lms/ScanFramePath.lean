import AmigaDrivers.Lms.ReceiveMonitor

/-!
# The short path of the monitor

`MonitorFrame` compares the first bytes of a frame with two literals before it decodes anything,
so that the payload of a scan need not be copied.  Everything else goes through
`ColaBCodec::Decode` and `IsScanMessage`.

* `decode_of_scan`: what the long path makes of a frame that matches a literal.
* `scan_path_agrees`: so the monitor does what it would do without the short path.
-/

namespace AmigaDrivers
namespace Lms

open ByteUtil (ascii)

/-- `scan_event`. -/
def scanEvent : List UInt8 := ascii "sSN LMDscandata "

/-- `scan_reply`. -/
def scanReply : List UInt8 := ascii "sRA LMDscandata "

/-- The long path: whether the data is a scan, and its payload. -/
def decodedScan (data : List UInt8) : Except ErrorCode (Bool × List UInt8) :=
  match ColaBCodec.decode data with
  | .error e => .error e
  | .ok msg => .ok (isScanMessage msg, msg.payload)

/-- The short path, with the long one behind it. -/
def selectedScan (data : List UInt8) : Except ErrorCode (Bool × List UInt8) :=
  if scanEvent.isPrefixOf data || scanReply.isPrefixOf data then
    .ok (true, data.drop scanEvent.length)
  else
    decodedScan data

/-- `MonitorFrame` without its short path. -/
def ReceiveMonitor.monitorDecodedFrame (cfg : MonitorConfig) (m : ReceiveMonitor)
    (record : RawRecord) (clock : HostClock) : ReceiveMonitor × RawRecord :=
  if !record.frame.checksumValid then
    (m, record)
  else
    let bytes := record.frame.data
    if bytes.length < 9 then
      (m.count fun s => { s with parseErrors := s.parseErrors + 1 }, record)
    else
      let data := (bytes.drop 8).take (bytes.length - 9)
      match ColaBCodec.decode data with
      | .error _ => (m.count fun s => { s with parseErrors := s.parseErrors + 1 }, record)
      | .ok msg =>
        let record := { record with isScan := isScanMessage msg }
        if isScanMessage msg then
          m.monitorScan cfg record msg.payload clock
        else
          ((m.count fun s => { s with nonScanFrames := s.nonScanFrames + 1 }).handleNonScanFrame
            cfg msg clock, record)

/-- A literal is a type, a space, the name of a scan and a space. -/
theorem decode_literal {commandType : List UInt8} (htype : commandType.length = 3)
    (hscan : commandType = CommandType.eventNotify ∨ commandType = CommandType.readAnswer)
    (payload : List UInt8) :
    ∃ msg, ColaBCodec.decode
        (commandType ++ [colaBSpace] ++ (ascii "LMDscandata" ++ [colaBSpace] ++ payload)) = .ok msg ∧
      isScanMessage msg = true ∧ msg.payload = payload := by
  have herror : commandType ≠ CommandType.errorAnswer := by
    rcases hscan with rfl | rfl <;> decide
  refine ⟨_, ColaBCodec.decode_separated htype herror (by decide) (by decide) payload, ?_, rfl⟩
  rcases hscan with rfl | rfl <;> rfl

/-- **A frame that matches a literal is a scan** for the long path too, with the same payload. -/
theorem decode_of_scan {data : List UInt8}
    (h : (scanEvent.isPrefixOf data || scanReply.isPrefixOf data) = true) :
    ∃ msg, ColaBCodec.decode data = .ok msg ∧ isScanMessage msg = true ∧
      msg.payload = data.drop scanEvent.length := by
  rw [Bool.or_eq_true, List.isPrefixOf_iff_prefix, List.isPrefixOf_iff_prefix] at h
  obtain ⟨payload, rfl⟩ | ⟨payload, rfl⟩ := h
  · obtain ⟨msg, hdecode, hscan, hpayload⟩ :=
      @decode_literal CommandType.eventNotify rfl (.inl rfl) payload
    exact ⟨msg, hdecode, hscan, hpayload⟩
  · obtain ⟨msg, hdecode, hscan, hpayload⟩ :=
      @decode_literal CommandType.readAnswer rfl (.inr rfl) payload
    exact ⟨msg, hdecode, hscan, hpayload⟩

/-- **The short path changes nothing.**  For every data of a frame, matching a literal and taking
the bytes behind it selects what `Decode` and `IsScanMessage` select; and the monitor leaves the
state and the record it would leave without the short path. -/
theorem scan_path_agrees :
    (∀ data : List UInt8, selectedScan data = decodedScan data) ∧
    (∀ (cfg : MonitorConfig) (m : ReceiveMonitor) (record : RawRecord) (clock : HostClock),
      m.monitorFrame cfg record clock = m.monitorDecodedFrame cfg record clock) := by
  constructor
  · intro data
    unfold selectedScan
    split
    · next hprefix =>
      obtain ⟨msg, hdecode, hscan, hpayload⟩ := decode_of_scan hprefix
      unfold decodedScan
      rw [hdecode, ← hpayload, ← hscan]
    · rfl
  · intro cfg m record clock
    unfold ReceiveMonitor.monitorFrame ReceiveMonitor.monitorDecodedFrame
    dsimp only
    split
    · rfl
    · split
      · rfl
      · split
        · next hprefix =>
          obtain ⟨msg, hdecode, hscan, hpayload⟩ := decode_of_scan hprefix
          have hlength : scanEvent.length = 16 := rfl
          rw [hdecode]
          dsimp only
          rw [if_pos hscan, hscan, hpayload, hlength]
        · rfl

end Lms
end AmigaDrivers
