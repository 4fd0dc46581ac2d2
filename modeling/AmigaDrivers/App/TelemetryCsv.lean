import AmigaDrivers.Foundation.Lines
import AmigaDrivers.Foundation.Utf8
import Mathlib.Data.List.DropRight

/-!
# The telemetry files of the AsteRx

The telemetry of the receiver is written as CSV: a header that names the columns, and one row per
record.  The readers share how they take a row apart.

* `csvHeader`, `csvFields`: the columns that a header names, and the fields of a row.
* `splitlines_of_noCr`: the rows of a chunk, where no carriage return stands in it.
-/

namespace AmigaDrivers
namespace App
namespace TelemetryCsv

/-- `b"\n"`. -/
abbrev newline : UInt8 := 10

/-- `b"\r"`. -/
abbrev carriageReturn : UInt8 := 13

/-- `MAX_ROW_BYTES`. -/
def maxRowBytes : Nat := 4096

/-- The files of `CSV_COLUMNS`. -/
inductive Stream
  | insNavGeod
  | receiverStatus
  deriving DecidableEq, Repr

/-- The name of the file. -/
def Stream.name : Stream → String
  | .insNavGeod => "live_insnavgeod.csv"
  | .receiverStatus => "live_receiverstatus.csv"

/-- `CSV_COLUMNS`. -/
def Stream.csvColumns : Stream → List String
  | .insNavGeod => ["tow_ms", "host_unix_ns", "gnss_mode", "error", "info", "gnss_age_s", "lat_deg",
      "lon_deg", "height_m", "accuracy_m", "heading_deg", "pitch_deg", "roll_deg"]
  | .receiverStatus => ["tow_ms", "host_unix_ns", "cpu_load_pct", "up_time_s", "rx_status",
      "rx_error", "ext_error", "temp_c"]

/-- `strip("\r\n")`. -/
def stripLineEnd (l : List Char) : List Char :=
  (l.dropWhile fun c => c == '\r' || c == '\n').rdropWhile fun c => c == '\r' || c == '\n'

/-- `text.strip("\r\n").split(",")`. -/
def splitFields (text : List Char) : List String :=
  ((stripLineEnd text).splitOn ',').map String.ofList

/-- `raw.decode("utf-8-sig")`. -/
def decodeSig (raw : List UInt8) : Option (List Char) :=
  Utf8.decodeStrict ((raw.dropPrefix? [0xEF, 0xBB, 0xBF]).getD raw)

/-- `csv_header`.  `unicodeError` is what the exception of the decoder says. -/
def csvHeader (unicodeError : List UInt8 → String) (stream : Stream) (raw : List UInt8) :
    Except String (List String) :=
  match decodeSig raw with
  | none => .error (unicodeError raw)
  | some text =>
    let names := splitFields text
    let missing := (stream.csvColumns.filter fun name => name ∉ names).mergeSort fun a b => a ≤ b
    if missing ≠ [] ∨ ¬names.Nodup then
      .error (stream.name ++ ": missing or duplicate columns (" ++ ", ".intercalate missing ++ ")")
    else .ok names

/-- `csv_fields`. -/
def csvFields (raw : List UInt8) (columns : List String) : Option (List String) :=
  match Utf8.decodeStrict raw with
  | none => none
  | some text =>
    let fields := splitFields text
    if fields.length = columns.length then some fields else none

/-- A header that is accepted names a column. -/
theorem columns_ne_nil {unicodeError : List UInt8 → String} {stream : Stream} {raw : List UInt8}
    {columns : List String} (h : csvHeader unicodeError stream raw = .ok columns) :
    columns ≠ [] := by
  unfold csvHeader at h
  split at h
  · exact nomatch h
  · dsimp only at h
    split_ifs at h
    obtain rfl := Except.ok.inj h
    unfold splitFields
    exact fun hnil => List.splitOnP_ne_nil _ _ (List.map_eq_nil_iff.mp hnil)

/-! ## The rows of a chunk -/

/-- `splitlines`, where a line has already begun; `cr` after a carriage return, whose newline ends no
other line. -/
def splitlinesFrom (cr : Bool) (begun : List UInt8) : List UInt8 → List (List UInt8)
  | [] => if begun = [] then [] else [begun]
  | b :: rest =>
    if b = carriageReturn then begun :: splitlinesFrom true [] rest
    else if b = newline then
      if cr then splitlinesFrom false [] rest else begun :: splitlinesFrom false [] rest
    else splitlinesFrom false (begun ++ [b]) rest

/-- `splitlines`. -/
def splitlines (l : List UInt8) : List (List UInt8) := splitlinesFrom false [] l

example : splitlines [97, 13, 10, 98, 10, 10, 99] = [[97], [98], [], [99]] := by decide

theorem splitlinesFrom_of_noCr {l : List UInt8} (h : carriageReturn ∉ l) (begun : List UInt8) :
    splitlinesFrom false begun l = (Lines.cut newline begun l).1 ++
      if (Lines.cut newline begun l).2 = [] then [] else [(Lines.cut newline begun l).2] := by
  induction l generalizing begun with
  | nil => rfl
  | cons b l ih =>
    obtain ⟨hne, h⟩ := not_or.mp (List.mem_cons.not.mp h)
    rw [splitlinesFrom, if_neg (Ne.symm hne), Lines.cut, if_neg Bool.false_ne_true]
    by_cases hb : b = newline
    · rw [if_pos hb, if_pos hb, ih h]
      rfl
    · rw [if_neg hb, if_neg hb, ih h]

/-- **The rows of a chunk** that ends in a newline are its lines. -/
theorem splitlines_of_noCr {l : List UInt8} (h : carriageReturn ∉ l)
    (hend : Lines.unfinished newline l = []) : splitlines l = Lines.lines newline l := by
  unfold splitlines
  rw [splitlinesFrom_of_noCr h]
  show Lines.lines newline l ++ (if Lines.unfinished newline l = [] then [] else _) = _
  rw [if_pos hend, List.append_nil]

end TelemetryCsv
end App
end AmigaDrivers
