import Mathlib

/-!
# RevolverBoot — values on the mailbox and in the trace

The values that cross the mailbox between the host and the firmware-update
service of `board/labx/revolver/firmware-update.c`: the IDL's error codes,
execution states and generic event, the request frame as the dispatch loops
see it, and the static response buffer. `Event` is the trace of what the
bootloader does, in order; the theorems about runs are stated over it.

Two representation choices:

* **Request frames** — the frame encoding belongs to the IDL-generated
  unmarshaller, which is not in the repository. A request is modelled by what
  the switch of the dispatch loops reads (`getClassCode_req`, matched against
  `k_CC_FirmwareUpdate` and `k_CC_AvbSystem`) and by the handler the
  unmarshaller calls for it, with its in-arguments.
* **Machine words** — `uint32_t` fields are `Nat`s reduced `% 2 ^ 32` where
  the source's arithmetic wraps; values that arrive from the wire keep their
  fixed-width type (`UInt32`, `UInt16`).
-/

namespace RevolverBoot

/-! ## IDL types -/

/-- `AvbDefs::ErrorCode`, the codes `firmware-update.c` returns or writes. -/
inductive ErrorCode
  | success
  | updateAlreadyInProgress
  | updateNotInProgress
  | notExecuted
  | invalidServiceCode
  deriving DecidableEq, Repr

/-- `FirmwareUpdate::FirmwareUpdateExecutionState`. -/
inductive ExecutionState
  | updateSuccess
  | updateCorruptImage
  | updateNotExecuted
  deriving DecidableEq, Repr

/-- The enumerator's value, as `get_nextQueuedEvent` stores it into a byte. -/
def ExecutionState.code : ExecutionState → UInt8
  | .updateSuccess => 0
  | .updateCorruptImage => 1
  | .updateNotExecuted => 2

/-- `FirmwareUpdate::CodeImageType`. -/
inductive CodeImageType
  | codeImageBoot
  | codeImageMain
  deriving DecidableEq, Repr

/-- `FirmwareUpdate::GenericEvent`. -/
structure GenericEvent where
  eventCode : UInt32
  data : List UInt8
  deriving DecidableEq, Repr

/-- `NULL_EVENT`. -/
def nullEvent : UInt32 := 0x00000000

/-- `FIRMWARE_UPDATE_EVENT`, the hash of the stream class name. -/
def firmwareUpdateEvent : UInt32 := 0x846C034D

/-! ## Requests and responses -/

/-- The class code of a request, as the dispatch switches tell codes apart. -/
inductive ClassCode
  | firmwareUpdate
  | avbSystem
  /-- a code equal to neither `k_CC_FirmwareUpdate` nor `k_CC_AvbSystem` -/
  | other (code : Nat)
  deriving DecidableEq, Repr

/-- The service or attribute a request names, with its in-arguments. -/
inductive Call
  | sendCommand (cmd : String)
  | startFirmwareUpdate (cmd : String) (length : UInt32)
  | sendDataPacket (data : List UInt8)
  | remainInBootloader
  | requestBootDelay
  | getExecutingImageType
  | getEventQueueEnabled (eventCode : UInt32)
  | setEventQueueEnabled (eventCode : UInt32) (enabled : Bool)
  | getNextQueuedEvent
  /-- a service or attribute code no handler of this file serves; the
  unmarshaller answers it with `status` -/
  | unsupported (status : ErrorCode)
  deriving DecidableEq, Repr

/-- A request frame read from the mailbox. -/
structure Request where
  classCode : ClassCode
  call : Call
  deriving DecidableEq, Repr

/-- The out-values a handler hands back to the unmarshaller. -/
inductive Payload
  | none
  | codeImageType (value : CodeImageType)
  | enabled (value : Bool)
  | event (value : GenericEvent)
  deriving DecidableEq, Repr

/-- `ResponseMessageBuffer_t`, through its accessors: status code, length, and
the payload behind the header. -/
structure Response where
  statusCode : ErrorCode
  length : Nat
  payload : Payload
  deriving DecidableEq, Repr

/-- The static response buffer as it is at boot (all zero: `e_EC_SUCCESS` is
the enumeration's first code). -/
def Response.init : Response := ⟨.success, 0, .none⟩

/-! ## Trace -/

/-- What the bootloader does that the model records, in order. -/
inductive Event
  /-- `putfslx(word, 0, control ? FSL_CONTROL_ATOMIC : FSL_ATOMIC)` -/
  | fslPut (word : Nat) (control : Bool)
  /-- `ReadLabXMailbox` returned a frame -/
  | received (request : Request)
  /-- the unmarshaller called the handler for `call`, which returned `status`
  and the out-values `reply` -/
  | handled (call : Call) (status : ErrorCode) (reply : Payload)
  /-- `sendDataPacket` took its "Received all … bytes" branch, closing the
  session with this command and image base -/
  | sessionComplete (cmd : String) (base : Nat)
  /-- `WriteLabXMailbox(response, size)` -/
  | sent (response : Response) (size : Nat)
  /-- `executeFirmwareUpdate()` ran on this command and image base -/
  | executed (cmd : String) (base : Nat) (result : ExecutionState)
  /-- `TrigAsyncLabXMailbox()` -/
  | asyncTriggered
  deriving DecidableEq, Repr

end RevolverBoot
