import RevolverBoot.Model.Handlers

/-!
# RevolverBoot — the mailbox loops and the boot decision

`DoFirmwareUpdate` and `CheckFirmwareUpdate` of `firmware-update.c`. The
mailbox is a list of read outcomes: `some req` when `ReadLabXMailbox` returns
a frame, `none` when it returns `FALSE` (an empty mailbox during the boot
window, a failed blocking read in the update loop). A run ends where the list
does, which is a point where the firmware is about to read the mailbox again.

The two loops route requests with separate copies of the same switch:
`dispatchRequest` is steps 2–3 of `DoFirmwareUpdate`'s iteration,
`pollRequest` the same steps in the boot window. Both take the unmarshaller as
an argument; the firmware runs them with `unmarshal P`.
-/

namespace RevolverBoot

/-! ## Routing a request -/

/-- The `default:` branch: `setStatusCode_resp(response, e_EC_INVALID_SERVICE_CODE);
setLength_resp(response, getPayloadOffset_resp(response))`. -/
def reportMalformed (getPayloadOffsetResp : Response → Nat) (g : Globals) : Globals :=
  let response := { g.response with statusCode := .invalidServiceCode }
  { g with response := { response with length := getPayloadOffsetResp response } }

/-- `respSize = getLength_resp(response); setLength_resp(response, respSize);
WriteLabXMailbox(response, respSize)`. -/
def writeResponse (g : Globals) : Globals := g.emit [.sent g.response g.response.length]

@[simp] theorem reportMalformed_trace (f : Response → Nat) (g : Globals) :
    (reportMalformed f g).trace = g.trace := rfl
@[simp] theorem reportMalformed_fwUpdateCtxt (f : Response → Nat) (g : Globals) :
    (reportMalformed f g).fwUpdateCtxt = g.fwUpdateCtxt := rfl
@[simp] theorem reportMalformed_executeUpdate (f : Response → Nat) (g : Globals) :
    (reportMalformed f g).executeUpdate = g.executeUpdate := rfl
@[simp] theorem reportMalformed_statusCode (f : Response → Nat) (g : Globals) :
    (reportMalformed f g).response.statusCode = .invalidServiceCode := rfl

@[simp] theorem writeResponse_trace (g : Globals) :
    (writeResponse g).trace = g.trace ++ [.sent g.response g.response.length] := rfl
@[simp] theorem writeResponse_fwUpdateCtxt (g : Globals) : (writeResponse g).fwUpdateCtxt = g.fwUpdateCtxt := rfl
@[simp] theorem writeResponse_executeUpdate (g : Globals) : (writeResponse g).executeUpdate = g.executeUpdate := rfl
@[simp] theorem writeResponse_response (g : Globals) : (writeResponse g).response = g.response := rfl

/-- Steps 2–3 of an iteration of `DoFirmwareUpdate`: both of the service's
class codes go to the unmarshaller. -/
def dispatchRequest (unmarshal : Unmarshal) (getPayloadOffsetResp : Response → Nat) (g : Globals)
    (req : Request) : Globals :=
  let g := g.emit [.received req]
  let g := match req.classCode with
    | .firmwareUpdate | .avbSystem => unmarshal req g
    | .other _ => reportMalformed getPayloadOffsetResp g
  writeResponse g

/-- The same steps in an attempt of `CheckFirmwareUpdate`'s window: only
`k_CC_FirmwareUpdate` goes to the unmarshaller. -/
def pollRequest (unmarshal : Unmarshal) (getPayloadOffsetResp : Response → Nat) (g : Globals)
    (req : Request) : Globals :=
  let g := g.emit [.received req]
  let g := match req.classCode with
    | .firmwareUpdate => unmarshal req g
    | _ => reportMalformed getPayloadOffsetResp g
  writeResponse g

/-! ## `DoFirmwareUpdate` -/

/-- Step 4 of an iteration of `DoFirmwareUpdate`: run the update a packet has
just completed, then post its event if the queue is enabled. -/
def runPendingUpdate (P : Platform) (g : Globals) : Globals :=
  if g.executeUpdate then
    let g := { (executeFirmwareUpdate P g).2 with executeUpdate := false }
    if g.queueEnabled then { g with eventValid := true }.emit [.asyncTriggered] else g
  else g

/-- One iteration of `DoFirmwareUpdate`'s loop, on a frame it has read. -/
def dispatchIteration (P : Platform) (g : Globals) (req : Request) : Globals :=
  runPendingUpdate P (dispatchRequest (unmarshal P) P.getPayloadOffsetResp g req)

/-- `DoFirmwareUpdate()`: serve requests while the blocking read succeeds. -/
def doFirmwareUpdate (P : Platform) : Globals → List (Option Request) → Globals
  | g, [] => g
  | g, none :: _ => g
  | g, some req :: reads => doFirmwareUpdate P (dispatchIteration P g req) reads

/-! ## `CheckFirmwareUpdate` -/

/-- `GENERAL5_MAGIC`, left in GENERAL5 when a reconfiguration fell back. -/
def general5Magic : Nat := 0x0ABCD

/-- `FINISH_FSL_BIT`, which drains the FSL FIFO into the ICAP. -/
def finishFslBit : Nat := 0x80000000

/-- The words `CheckFirmwareUpdate` puts to the ICAP to read GENERAL5: a
control word, two pad words, the sync word pair, the Type 1 read of GENERAL5,
two Type 1 NOPs and the drain. -/
def icapProbe : List Event :=
  [.fslPut 0x0FFFF true, .fslPut 0x0FFFF false, .fslPut 0x0FFFF false, .fslPut 0x0AA99 false,
    .fslPut 0x05566 false, .fslPut 0x02AE1 false, .fslPut 0x02000 false, .fslPut 0x02000 false,
    .fslPut finishFslBit false]

/-- One attempt of the boot window; `true` when it breaks out of the window,
which it does on the first response answered `e_EC_SUCCESS`. -/
def pollAttempt (P : Platform) (g : Globals) : Option Request → Globals × Bool
  | none => (g, false)
  | some req =>
    let g := pollRequest (unmarshal P) P.getPayloadOffsetResp g req
    (g, decide (g.response.statusCode = .success))

/-- The window `for (i = 0; i < 4; ++i)` with `n` attempts left: the globals
after it and the reads it left in the mailbox. -/
def pollWindow (P : Platform) : Nat → Globals → List (Option Request) → Globals × List (Option Request)
  | 0, g, reads => (g, reads)
  | n + 1, g, reads =>
    let r := pollAttempt P g reads.head?.join
    if r.2 then (r.1, reads.tail) else pollWindow P n r.1 reads.tail

/-- How `CheckFirmwareUpdate` ends. -/
inductive Outcome
  /-- it returns this value to the boot sequence -/
  | boot (returnValue : Nat)
  /-- it entered `DoFirmwareUpdate`, after which it waits for a reset forever -/
  | update
  deriving DecidableEq, Repr

/-- `CheckFirmwareUpdate()`, where `readValue` is what `getfslx` reads back
from GENERAL5 after the probe. -/
def checkFirmwareUpdate (P : Platform) (readValue : UInt16) (g : Globals) (reads : List (Option Request)) :
    Outcome × Globals :=
  let w := pollWindow P 4 (g.emit icapProbe) reads
  if readValue.toNat = general5Magic then (.update, doFirmwareUpdate P w.1 w.2)
  else if w.1.firmwareUpdate then (.update, doFirmwareUpdate P w.1 w.2)
  else if w.1.bootDelay then (.boot 1, w.1)
  else (.boot 0, w.1)

/-- `CheckFirmwareUpdate` either enters the update loop where the window left
the mailbox, or returns with the window's state. -/
theorem checkFirmwareUpdate_cases (P : Platform) (readValue : UInt16) (g : Globals)
    (reads : List (Option Request)) :
    let w := pollWindow P 4 (g.emit icapProbe) reads
    let r := checkFirmwareUpdate P readValue g reads
    (r.1 = .update ∧ r.2 = doFirmwareUpdate P w.1 w.2) ∨ (r.1 ≠ .update ∧ r.2 = w.1) := by
  simp only [checkFirmwareUpdate]
  split_ifs <;> simp

end RevolverBoot
