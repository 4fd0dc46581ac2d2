import AmigaDrivers.Common.ByteUtil
import AmigaDrivers.Ebus.Crc32c
import AmigaDrivers.Foundation.LittleEndian

/-!
# The raw container, as it is written

`raw::MakeFileHeader` and `raw::MakeRecordHeader`.  Every number is little-endian, and each header
ends in a checksum of what stands before it.
-/

namespace AmigaDrivers
namespace Ebus

/-- `kFileHeaderSize`. -/
def kFileHeaderSize : Nat := 64

/-- `kRecordHeaderSize`. -/
def kRecordHeaderSize : Nat := 48

/-- `kMaxMetadataSize`. -/
def kMaxMetadataSize : Nat := 1024 * 1024

/-- `kVersion`. -/
def kVersion : Nat := 1

open LittleEndian (encode)

/-- What `MakeFileHeader` computes its checksum over. -/
def fileHeaderBody (created segment : Nat) : List UInt8 :=
  ByteUtil.ascii "EBUSRAW" ++ [0] ++ encode 2 kVersion ++ encode 2 kFileHeaderSize ++ encode 4 0 ++
    encode 8 created ++ encode 8 segment ++ List.replicate 28 0

/-- `MakeFileHeader`. -/
def makeFileHeader (sse42 : Bool) (created segment : Nat) : List UInt8 :=
  fileHeaderBody created segment ++
    encode 4 (crc32c sse42 (fileHeaderBody created segment)).toNat

/-- What `MakeRecordHeader` computes its checksum over. -/
def recordHeaderBody (metadataSize payloadSize sequence metadataCrc payloadCrc : Nat) :
    List UInt8 :=
  ByteUtil.ascii "EBFR" ++ encode 4 kRecordHeaderSize ++ encode 4 metadataSize ++ encode 4 0 ++
    encode 8 payloadSize ++ encode 8 sequence ++ encode 4 metadataCrc ++ encode 4 payloadCrc

/-- `MakeRecordHeader`. -/
def makeRecordHeader (sse42 : Bool)
    (metadataSize payloadSize sequence metadataCrc payloadCrc : Nat) : List UInt8 :=
  let body := recordHeaderBody metadataSize payloadSize sequence metadataCrc payloadCrc
  body ++ encode 4 (crc32c sse42 body).toNat ++ encode 4 0

@[simp] theorem length_fileHeaderBody (created segment : Nat) :
    (fileHeaderBody created segment).length = 60 := by
  simp [fileHeaderBody, ByteUtil.ascii]

@[simp] theorem length_makeFileHeader (sse42 : Bool) (created segment : Nat) :
    (makeFileHeader sse42 created segment).length = kFileHeaderSize := by
  simp [makeFileHeader, kFileHeaderSize]

@[simp] theorem length_recordHeaderBody
    (metadataSize payloadSize sequence metadataCrc payloadCrc : Nat) :
    (recordHeaderBody metadataSize payloadSize sequence metadataCrc payloadCrc).length = 40 := by
  simp [recordHeaderBody, ByteUtil.ascii]

@[simp] theorem length_makeRecordHeader (sse42 : Bool)
    (metadataSize payloadSize sequence metadataCrc payloadCrc : Nat) :
    (makeRecordHeader sse42 metadataSize payloadSize sequence metadataCrc payloadCrc).length =
      kRecordHeaderSize := by
  simp [makeRecordHeader, kRecordHeaderSize]

end Ebus
end AmigaDrivers
