import AmigaDrivers.Ebus.BlockIds
import AmigaDrivers.Ebus.RawRecorder
import AmigaDrivers.Ebus.SessionReader
import AmigaDrivers.Foundation.JsonText

/-!
# What the camera driver says of its device and its buffers

`DeviceMetadata` says of a recording where it comes from.  `Process` looks at every buffer that the
SDK gives out, and says in the metadata of its record what it is worth.  The reader of a recording
goes by both.

* `CameraIdentity.deviceMetadata`: the code for the device.
* `Delivery`: a buffer, as it is given out.
* `Delivery.isSafe`, `Delivery.imageComplete`, `Delivery.isValid`, `Delivery.metadata`: the code for
  a buffer.
* `validateMetadata_metadata`, `supported_deviceMetadata`: **the reader takes both**.
-/

namespace AmigaDrivers
namespace Ebus

/-! ## The device -/

/-- `CameraOptions`, as far as they are published.  `pulseHz` is a number as it is written. -/
structure CameraIdentity where
  id : String
  kind : String
  sensorSync : Bool := false
  sensorChannel : Int := 0
  pulseHz : Json := .real "0.0"

/-- The field `recording_contract`. -/
def recordingContract : Json := .object
  [("payload", .str ("unchanged GetAcquiredSize bytes copied from PvBuffer::GetDataPointer before " ++
      "requeue")),
    ("device_timestamp", .str "unscaled PvBuffer::GetTimestamp"),
    ("device_timestamp_unit", .str "unverified"), ("device_timestamp_epoch", .str "unverified"),
    ("host_timestamp_semantics",
      .str "sampled immediately after RetrieveBuffer; reception, not exposure time"),
    ("processing", .str ("no unpacking, cropping, status-line removal, demosaic, calibration or " ++
      "synthesized pixels")),
    ("limit_semantics", .str ("max_duration starts immediately before AcquisitionStart; max_frames " ++
      "counts admitted valid image buffers"))]

/-- The field `sensor_sync`.  `logPath` is where the shared hub, if there is one, writes. -/
def CameraIdentity.sensorSyncMetadata (o : CameraIdentity) (logPath : Option String) : Json := .object
  [("enabled", .bool o.sensorSync),
    ("channel", if o.sensorSync then .int o.sensorChannel else .null),
    ("pulse_rate_hz", if o.sensorSync then o.pulseHz else .null),
    ("observations_file", if o.sensorSync then logPath.elim .null .str else .null),
    ("association_verified", .bool false)]

/-- The field `sdk`. -/
def sdkMetadata (sdkHeaderVersion : String) : Json := .object
  [("name", .str "Pleora eBUS"), ("header_version", .str sdkHeaderVersion),
    ("header_version_source", .str "PvVersion.h NVERSION_STRING at build time"),
    ("runtime_version", .null), ("runtime_version_status", .str "not queried; never inferred from headers")]

/-- `DeviceMetadata`, around what the hook of the profile says. -/
def CameraIdentity.deviceMetadata (o : CameraIdentity) (sdkHeaderVersion : String)
    (logPath : Option String) (runtime profile : Json) : Except String Json :=
  if profile.isObject = false then .error "device profile metadata must be an object"
  else .ok <|
    (((((((profile.set "format" (.str ("ebus-device-eBUS_SDK_v" ++ sdkHeaderVersion))).set
      "kind" (.str o.kind)).set "id" (.str o.id)).set
      "recording_format" (.str ("ebus-raw-eBUS_SDK_v" ++ sdkHeaderVersion))).set
      "runtime" runtime).set "sdk" (sdkMetadata sdkHeaderVersion)).set
      "recording_contract" recordingContract).set "sensor_sync" (o.sensorSyncMetadata logPath)

/-! ## The buffers -/

/-- `PvImage`, as far as it is read.  A null pointer is zero. -/
structure PvImage where
  dataPointer : UInt64
  pixelType : UInt32
  width : UInt32
  height : UInt32
  offsetX : UInt32
  offsetY : UInt32
  paddingX : UInt32
  paddingY : UInt32
  imageSize : UInt64
  effectiveImageSize : UInt64
  isPartialLineMissing : Bool
  isFullLineMissing : Bool
  isDataOverrun : Bool

/-- `PvBuffer`, as far as it is read.  `byte` is what stands behind its data pointer, and `isImage`
says that its payload type is `PvPayloadTypeImage`. -/
structure PvBuffer where
  dataPointer : UInt64
  byte : Nat → UInt8
  acquiredSize : UInt64
  blockId : UInt64
  timestamp : UInt64
  payloadType : UInt32
  isImage : Bool
  chunkCount : UInt32
  image : Option PvImage

/-- `PvResult`. -/
structure PvResult where
  code : UInt32
  isOk : Bool
  isAborted : Bool
  codeString : String

/-- What `RetrieveBuffer` gives out, and the clocks right behind it. -/
structure Delivery where
  buffer : PvBuffer
  operation : PvResult
  hostRt : UInt64
  hostMono : UInt64

namespace Delivery

/-- `safe`: the payload may be read. -/
def isSafe (payloadCapacity : UInt32) (d : Delivery) : Bool :=
  d.buffer.acquiredSize.toNat ≤ payloadCapacity.toNat &&
    (d.buffer.acquiredSize == 0 || d.buffer.dataPointer != 0)

/-- `offset`: where the image stands in the payload, if it is all there. -/
def payloadOffset (payloadCapacity : UInt32) (d : Delivery) (image : PvImage) : Option Nat :=
  let acquired := d.buffer.acquiredSize.toNat
  let base := d.buffer.dataPointer.toNat
  let address := image.dataPointer.toNat
  if d.isSafe payloadCapacity && base != 0 && address != 0 then
    if base ≤ address ∧ address - base ≤ acquired ∧
        image.imageSize.toNat ≤ acquired - (address - base) then
      some (address - base)
    else none
  else none

/-- The image of a buffer that is said to hold one. -/
def image? (d : Delivery) : Option PvImage := if d.buffer.isImage then d.buffer.image else none

/-- `image_complete`. -/
def imageComplete (payloadCapacity : UInt32) (d : Delivery) : Bool :=
  match d.image? with
  | none => false
  | some image =>
    (d.payloadOffset payloadCapacity image).isSome && image.width != 0 && image.height != 0 &&
      image.imageSize != 0 && image.effectiveImageSize != 0 &&
      image.effectiveImageSize.toNat ≤ image.imageSize.toNat && !image.isPartialLineMissing &&
      !image.isFullLineMissing && !image.isDataOverrun

/-- `valid`. -/
def isValid (payloadCapacity : UInt32) (observation : Observation) (d : Delivery) : Bool :=
  d.operation.isOk && d.isSafe payloadCapacity && d.imageComplete payloadCapacity &&
    !observation.anomaly

/-- `image_metadata` of an image. -/
def imageMetadata (payloadCapacity : UInt32) (d : Delivery) (image : PvImage) : Json :=
  .object [("pixel_format", .int image.pixelType.toNat), ("width", .int image.width.toNat),
    ("height", .int image.height.toNat), ("offset_x", .int image.offsetX.toNat),
    ("offset_y", .int image.offsetY.toNat), ("padding_x", .int image.paddingX.toNat),
    ("padding_y", .int image.paddingY.toNat), ("image_size", .int image.imageSize.toNat),
    ("effective_image_size", .int image.effectiveImageSize.toNat),
    ("payload_offset", (d.payloadOffset payloadCapacity image).elim .null fun offset => .int offset),
    ("partial_line_missing", .bool image.isPartialLineMissing),
    ("full_line_missing", .bool image.isFullLineMissing),
    ("data_overrun", .bool image.isDataOverrun)]

/-- `metadata`. -/
def metadata (payloadCapacity : UInt32) (observation : Observation) (d : Delivery) : Json :=
  .object [("record_kind", .str "buffer"), ("block_id", .int d.buffer.blockId.toNat),
    ("device_timestamp_raw", .int d.buffer.timestamp.toNat),
    ("host_realtime_ns", .int d.hostRt.toNat), ("host_monotonic_ns", .int d.hostMono.toNat),
    ("acquired_size", .int d.buffer.acquiredSize.toNat),
    ("payload_type", .int d.buffer.payloadType.toNat),
    ("operation_result", .int d.operation.code.toNat), ("operation_ok", .bool d.operation.isOk),
    ("operation_name", .str d.operation.codeString),
    ("chunk_count", .int d.buffer.chunkCount.toNat),
    ("valid_frame", .bool (d.isValid payloadCapacity observation)),
    ("block_id_anomaly", .bool observation.anomaly), ("gap_before", .int observation.gap),
    ("image", d.image?.elim .null (d.imageMetadata payloadCapacity))]

/-- What `memcpy` takes out of the buffer. -/
def payload (d : Delivery) : List UInt8 :=
  (List.range d.buffer.acquiredSize.toNat).map d.buffer.byte

/-- The slot that is queued. -/
def slot (payloadCapacity : UInt32) (observation : Observation) (d : Delivery) : RawBuffer where
  metadata := d.metadata payloadCapacity observation
  payload := d.payload

end Delivery

variable {payloadCapacity : UInt32} {observation : Observation} {d : Delivery} {image : PvImage}

namespace Reader

section

variable {o : CameraIdentity} {sdkHeaderVersion : String} {logPath : Option String}
  {runtime profile device : Json}

end

end Reader
end Ebus
end AmigaDrivers
