import AmigaDrivers.Lms.ReceiveMonitor

/-!
# The files of a recording

`lms4xxx::RawRecorder` writes a recording as a sequence of splits, each of a BIN file with the
telegrams, a CSV file that indexes them and a JSON sidecar.  `OpenSplit` and `CloseSplit` are
sequences of operations on the file system, each a step of its own here: the failure latch that
`CloseSplit` looks at in between is also set by the thread that queues the telegrams.

How an operation ends is an argument.  A failed `WriteAll` may have written a part; a failed
`WriteMetadata` leaves what the operation that failed leaves.  The first fields of the sidecar
are the same in every split and are left out.

`records`, the four flags behind it and `failedAtMark` record what has happened to a split;
nothing reads them.
-/

namespace AmigaDrivers
namespace Lms

/-- How a `WriteAll` ends, and how many bytes it has written when it fails. -/
structure WriteAllResult where
  ok : Bool
  taken : Nat
  deriving DecidableEq, Repr

/-- How a `WriteMetadata` ends.  The text of a file that could not be truncated is followed by
the rest of the old one, if that was longer. -/
inductive MetadataResult
  | done
  | seekFailed
  | writeFailed
  | truncateFailed (rest : Bool)
  | syncFailed
  deriving DecidableEq, Repr

/-- What the surroundings answer to an operation. -/
structure IoAnswers where
  /-- a create, a sync or a close succeeds -/
  ok : Bool
  write : WriteAllResult
  metadata : MetadataResult
  /-- the flush interval is over -/
  flushDue : Bool
  deriving DecidableEq, Repr

/-- The document `WriteMetadata` writes. -/
structure SplitMetadata where
  splitIndex : Nat
  framesTotal : Nat
  scansTotal : Nat
  bytesTotal : Nat
  closedCleanly : Bool
  deriving DecidableEq, Repr

/-- The content of the JSON file. -/
inductive Sidecar
  | absent
  | empty
  | torn
  | document (doc : SplitMetadata)
  deriving DecidableEq, Repr

/-- A split on disk. -/
structure Split where
  sidecar : Sidecar := .absent
  bin : Option (List UInt8) := none
  csv : Option (List Char) := none
  /-- the records `Append` has completed -/
  records : List RawRecord := []
  /-- the syncs and closes of `CloseSplit` that have succeeded -/
  binSynced : Bool := false
  csvSynced : Bool := false
  binClosed : Bool := false
  csvClosed : Bool := false
  /-- the failure latch when the clean flag had been written -/
  failedAtMark : Option Bool := none
  deriving DecidableEq, Repr

/-- The files of a recorder, and what it knows of the split it is in. -/
structure SplitFiles where
  /-- the splits before the current one -/
  earlier : List Split := []
  current : Split := {}
  jsonOpen : Bool := false
  binOpen : Bool := false
  csvOpen : Bool := false
  splitIndex : Nat := 0
  splitBytes : Nat := 0
  splitFrames : Nat := 0
  splitScans : Nat := 0
  filesCreated : Nat := 0
  /-- a metadata write that takes the clean flag back has failed -/
  retractFailed : Bool := false
  deriving DecidableEq, Repr

/-- `kIndexHeader`. -/
def indexHeader : List Char :=
  ("offset,length,host_receive_monotonic_us,is_scan,checksum_valid," ++
    "device_time_unix_us,clock_step_us,clock_quality_flags\n").toList

/-- The index row of a record at an offset. -/
def indexRow (offset : Nat) (record : RawRecord) : List Char :=
  (toString offset ++ "," ++ toString record.frame.data.length ++ "," ++
    toString record.receiveTimestampUs ++ "," ++ (if record.isScan then "1," else "0,") ++
    (if record.frame.checksumValid then "1," else "0,") ++ toString record.deviceTimeUnixUs ++ "," ++
    toString record.clockStepUs ++ "," ++ toString record.clockQualityFlags.value ++ "\n").toList

/-- The operations of `OpenSplit`. -/
inductive OpenStep
  | createJson
  | manifest
  | createBin
  | createCsv
  | header
  | syncBin
  | syncCsv
  | syncDirectory
  deriving DecidableEq, Repr

/-- How an operation of `OpenSplit` ends. -/
inductive OpenOutcome
  | threw
  | next (at' : OpenStep)
  | done
  deriving DecidableEq, Repr

/-- The operations of `CloseSplit`: the syncs and closes of the two data files, the final counts,
the clean flag between two looks at the failure latch, its retraction, and the close of the
sidecar. -/
inductive CloseStep
  | syncBin
  | syncCsv
  | closeBin
  | closeCsv
  | finalCounts
  | checkClean
  | markClean
  | checkFailed
  | retract
  | closeJson
  deriving DecidableEq, Repr

namespace SplitFiles

/-- The document of the current split. -/
def metadata (f : SplitFiles) (clean : Bool) : SplitMetadata where
  splitIndex := f.splitIndex
  framesTotal := f.splitFrames
  scansTotal := f.splitScans
  bytesTotal := f.splitBytes
  closedCleanly := clean

/-- `WriteMetadata`: the sidecar it leaves. -/
def sidecarAfter (f : SplitFiles) (clean : Bool) : MetadataResult → Sidecar
  | .done | .syncFailed | .truncateFailed false => .document (f.metadata clean)
  | .seekFailed => f.current.sidecar
  | .writeFailed | .truncateFailed true => .torn

/-- `WriteMetadata`. -/
def writeMetadata (f : SplitFiles) (clean : Bool) (r : MetadataResult) : SplitFiles :=
  { f with current := { f.current with sidecar := f.sidecarAfter clean r } }

/-- `WriteAll` to the BIN file: what is written of the bytes. -/
def appendBin (f : SplitFiles) (bytes : List UInt8) (r : WriteAllResult) : SplitFiles :=
  { f with
    current :=
      { f.current with
        bin := f.current.bin.map fun bin => bin ++ if r.ok then bytes else bytes.take r.taken } }

/-- `WriteAll` to the CSV file. -/
def appendCsv (f : SplitFiles) (text : List Char) (r : WriteAllResult) : SplitFiles :=
  { f with
    current :=
      { f.current with
        csv := f.current.csv.map fun csv => csv ++ if r.ok then text else text.take r.taken } }

/-- An operation of `OpenSplit`. -/
def openStep (f : SplitFiles) (r : IoAnswers) : OpenStep → SplitFiles × OpenOutcome
  | .createJson =>
    let f := { f with splitBytes := 0, splitFrames := 0, splitScans := 0 }
    if r.ok then
      ({ f with jsonOpen := true, current := { f.current with sidecar := .empty } }, .next .manifest)
    else
      (f, .threw)
  | .manifest =>
    (f.writeMetadata false r.metadata, if r.metadata = .done then .next .createBin else .threw)
  | .createBin =>
    if r.ok then
      ({ f with
          binOpen := true
          current := { f.current with bin := some [] }
          filesCreated := f.filesCreated + 1 }, .next .createCsv)
    else
      (f, .threw)
  | .createCsv =>
    if r.ok then
      ({ f with csvOpen := true, current := { f.current with csv := some [] } }, .next .header)
    else
      (f, .threw)
  | .header => (f.appendCsv indexHeader r.write, if r.write.ok then .next .syncBin else .threw)
  | .syncBin => (f, if r.ok then .next .syncCsv else .threw)
  | .syncCsv => (f, if r.ok then .next .syncDirectory else .threw)
  | .syncDirectory => (f, if r.ok then .done else .threw)

/-- An operation of `CloseSplit`: the files, the failure latch, and the next operation. -/
def closeStep (f : SplitFiles) (failed : Bool) (r : IoAnswers) :
    CloseStep → SplitFiles × Bool × Option CloseStep
  | .syncBin =>
    if f.binOpen then
      ({ f with current := { f.current with binSynced := r.ok } }, failed || !r.ok, some .syncCsv)
    else
      (f, failed, some .syncCsv)
  | .syncCsv =>
    if f.csvOpen then
      ({ f with current := { f.current with csvSynced := r.ok } }, failed || !r.ok, some .closeBin)
    else
      (f, failed, some .closeBin)
  | .closeBin =>
    if f.binOpen then
      ({ f with binOpen := false, current := { f.current with binClosed := r.ok } },
        failed || !r.ok, some .closeCsv)
    else
      (f, failed, some .closeCsv)
  | .closeCsv =>
    if f.csvOpen then
      ({ f with csvOpen := false, current := { f.current with csvClosed := r.ok } },
        failed || !r.ok, some .finalCounts)
    else
      (f, failed, some .finalCounts)
  | .finalCounts =>
    if f.jsonOpen then
      (f.writeMetadata false r.metadata, failed || decide (r.metadata ≠ .done), some .checkClean)
    else
      (f, failed, none)
  | .checkClean => (f, failed, some (if failed then .checkFailed else .markClean))
  | .markClean =>
    let g := f.writeMetadata true r.metadata
    let failed := failed || decide (r.metadata ≠ .done)
    ({ g with current := { g.current with failedAtMark := some failed } }, failed, some .checkFailed)
  | .checkFailed => (f, failed, some (if failed then .retract else .closeJson))
  | .retract =>
    ({ f.writeMetadata false r.metadata with
        retractFailed := f.retractFailed || decide (r.metadata ≠ .done) },
      failed || decide (r.metadata ≠ .done), some .closeJson)
  | .closeJson => ({ f with jsonOpen := false }, failed || !r.ok, none)

/-- `++split_index` before the next `OpenSplit`. -/
def nextSplit (f : SplitFiles) : SplitFiles :=
  { f with
    earlier := f.earlier ++ [f.current]
    current := {}
    splitIndex := f.splitIndex + 1 }

/-- The counters of a record that has been appended. -/
def countRecord (f : SplitFiles) (record : RawRecord) : SplitFiles :=
  { f with
    splitBytes := f.splitBytes + record.frame.data.length
    splitFrames := f.splitFrames + 1
    splitScans := f.splitScans + if record.isScan then 1 else 0
    current := { f.current with records := f.current.records ++ [record] } }

/-- The splits, in order. -/
def splits (f : SplitFiles) : List Split := f.earlier ++ [f.current]

/-- The BIN files, one after another. -/
def content (f : SplitFiles) : List UInt8 := f.splits.flatMap fun split => split.bin.getD []

end SplitFiles
end Lms
end AmigaDrivers
