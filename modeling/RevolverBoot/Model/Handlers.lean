import RevolverBoot.Model.Types

/-!
# RevolverBoot — the globals and the handlers of `firmware-update.c`

The file's global variables (`fwUpdateCtxt`, the flags, the execution-state
cell `*state`, the static response buffer) together with the memory and the
U-Boot environment the handlers write, and one function per handler, each a
transcription of its C body.

What the file takes from outside is a `Platform`: the staging address
`XPAR_DDR2_CONTROL_MPMC_BASEADDR` of `xparameters.h` (with the fact that it
is a 32-bit address), the image-header checks of U-Boot's `image.h`, the hush
shell `parse_string_outer`, and the response-buffer accessors of the
generated unmarshaller.

The shell runs a command line over the memory and the environment and may
write both (`mw`, `cp`, `setenv`, ...): `sendCommand` and the execution of a
completed image leave what it leaves. Nothing in the file keeps a command off
the staging buffer, so what the session results need of the shell is a
premise, `Platform.KeepsStaging`, stated only for the commands a run carries.

`unmarshal` stands for `FirmwareUpdate__unmarshal`, generated from the IDL and
absent from the repository: it calls the handler a request names, copies the
handler's return code into the response status and its out-values into the
payload. The dispatch loops take their unmarshaller as an argument, so results
about the loops alone hold for any unmarshaller.
-/

namespace RevolverBoot

/-! ## Memory and environment -/

/-- Byte memory, by 32-bit address. -/
abbrev Mem := Nat → UInt8

/-- The U-Boot environment. -/
abbrev Env := String → Option String

/-- `memcpy(dst, src, n)` in the 32-bit address space: byte `i` of `src` lands
at `dst + i`, wrapping at `2 ^ 32`. -/
def memcpy (mem : Mem) (dst : Nat) (src : List UInt8) : Mem := fun a =>
  if a < 2 ^ 32 ∧ (a + 2 ^ 32 - dst) % 2 ^ 32 < src.length then
    src.getD ((a + 2 ^ 32 - dst) % 2 ^ 32) 0
  else mem a

/-- The `n` bytes of memory from `base` on. -/
def readMem (mem : Mem) (base n : Nat) : List UInt8 :=
  (List.range n).map fun i => mem ((base + i) % 2 ^ 32)

/-- `setenv(name, value)`. -/
def setenv (env : Env) (name value : String) : Env := fun n =>
  if n = name then some value else env n

@[simp] theorem length_readMem (mem : Mem) (base n : Nat) : (readMem mem base n).length = n := by
  simp [readMem]

theorem readMem_getElem (mem : Mem) (base n i : Nat) (h : i < (readMem mem base n).length) :
    (readMem mem base n)[i] = mem ((base + i) % 2 ^ 32) := by
  simp [readMem]

/-- `memcpy` leaves every address outside `[dst, dst + src.length)` as it was. -/
theorem memcpy_of_not_mem {mem : Mem} {dst a : Nat} {src : List UInt8}
    (h : ¬ (a < 2 ^ 32 ∧ (a + 2 ^ 32 - dst) % 2 ^ 32 < src.length)) : memcpy mem dst src a = mem a :=
  if_neg h

/-- Copying `src` to the end of a region extends the region by `src`, as long as
the region still fits in the address space. -/
theorem readMem_memcpy (mem : Mem) (src : List UInt8) (base : Nat) {t : Nat} (ht : t + src.length ≤ 2 ^ 32) :
    readMem (memcpy mem ((base + t) % 2 ^ 32) src) base (t + src.length) = readMem mem base t ++ src := by
  apply List.ext_getElem (by simp)
  intro i h₁ h₂
  have hi₁ : i < t + src.length := by simpa using h₁
  rw [readMem_getElem]
  simp only [memcpy]
  by_cases hi : i < t
  · rw [List.getElem_append_left (by simpa using hi), readMem_getElem, if_neg (by omega)]
  · have hj : ((base + i) % 2 ^ 32 + 2 ^ 32 - (base + t) % 2 ^ 32) % 2 ^ 32 = i - t := by omega
    rw [List.getElem_append_right (by simpa using hi), if_pos (by omega), hj]
    simp [List.getD_eq_getElem?_getD, List.getElem?_eq_getElem (by omega : i - t < src.length)]

/-! ## Platform -/

/-- What `firmware-update.c` takes from outside the file. -/
structure Platform where
  /-- `XPAR_DDR2_CONTROL_MPMC_BASEADDR`, where images are staged -/
  ddr2Base : Nat
  ddr2Base_lt : ddr2Base < 2 ^ 32
  /-- `image_check_type(hdr, IH_TYPE_KERNEL)` for the header at an address -/
  imageCheckType : Mem → Nat → Bool
  /-- `image_check_dcrc(hdr)` for the header at an address -/
  imageCheckDcrc : Mem → Nat → Bool
  /-- `parse_string_outer(cmd, FLAG_PARSE_SEMICOLON | FLAG_EXIT_FROM_LOOP)` over
  the memory and the environment: the exit status, and the memory and
  environment the command leaves. A command that never returns (a `bootm` that
  starts a kernel) ends the run there, which the model does not follow. -/
  parseStringOuter : String → Mem → Env → Int × Mem × Env
  /-- `getPayloadOffset_resp` -/
  getPayloadOffsetResp : Response → Nat
  /-- the bytes the unmarshaller marshals for a handler's out-values -/
  marshalledSize : Payload → Nat

/-- A sample platform: images staged at `0x88000000`, every image a kernel
image whose data CRC verifies when its first byte is nonzero, a shell on which
every command succeeds and writes nothing, and a two-word response header. -/
def Platform.sample : Platform where
  ddr2Base := 0x88000000
  ddr2Base_lt := by decide
  imageCheckType := fun _ _ => true
  imageCheckDcrc := fun mem base => mem base ≠ 0
  parseStringOuter := fun _ mem env => (0, mem, env)
  getPayloadOffsetResp := fun _ => 8
  marshalledSize := fun _ => 4

/-- The shell command `cmd` leaves the first `n` bytes of the staging buffer
as they were, whatever memory and environment it runs over. -/
def Platform.KeepsStaging (P : Platform) (cmd : String) (n : Nat) : Prop :=
  ∀ mem env, readMem (P.parseStringOuter cmd mem env).2.1 P.ddr2Base n = readMem mem P.ddr2Base n

theorem readMem_take (mem : Mem) (base : Nat) {m n : Nat} (h : m ≤ n) :
    (readMem mem base n).take m = readMem mem base m := by
  rw [readMem, ← List.map_take, List.take_range, Nat.min_eq_left h]
  rfl

theorem Platform.keepsStaging_zero (P : Platform) (cmd : String) : P.KeepsStaging cmd 0 := fun _ _ => rfl

theorem Platform.KeepsStaging.mono {P : Platform} {cmd : String} {m n : Nat} (h : P.KeepsStaging cmd n)
    (hmn : m ≤ n) : P.KeepsStaging cmd m := fun mem env => by
  rw [← readMem_take _ _ hmn, ← readMem_take mem _ hmn, h]

/-! ## Globals -/

/-- `FirmwareUpdateCtxt_t`; pointers are 32-bit addresses. -/
structure FirmwareUpdateCtxt where
  bUpdateInProgress : Bool
  length : Nat
  bytesReceived : Nat
  fwImageBase : Nat
  fwImagePtr : Nat
  cmd : String
  deriving DecidableEq, Repr

/-- The file's globals, with the memory and environment its handlers write and
the trace of what it did. `state` is the cell the global pointer `state`
points to. Nothing under `src/` assigns that pointer, which is zero-initialised,
so the source as it stands writes through `NULL`; the model assumes it points
to a valid cell of its own that nothing else writes. -/
structure Globals where
  state : ExecutionState
  bootDelay : Bool
  firmwareUpdate : Bool
  executeUpdate : Bool
  queueEnabled : Bool
  eventValid : Bool
  fwUpdateCtxt : FirmwareUpdateCtxt
  response : Response
  mem : Mem
  env : Env
  trace : List Event

/-- The zero-initialised globals at power-on, over whatever memory and
environment the board starts with. -/
def Globals.init (mem : Mem) (env : Env) : Globals where
  state := .updateSuccess
  bootDelay := false
  firmwareUpdate := false
  executeUpdate := false
  queueEnabled := false
  eventValid := false
  fwUpdateCtxt := ⟨false, 0, 0, 0, 0, ""⟩
  response := Response.init
  mem := mem
  env := env
  trace := []

/-- Append events to the trace. -/
def Globals.emit (g : Globals) (es : List Event) : Globals := { g with trace := g.trace ++ es }

@[simp] theorem Globals.emit_trace (g : Globals) (es : List Event) : (g.emit es).trace = g.trace ++ es := rfl
@[simp] theorem Globals.emit_fwUpdateCtxt (g : Globals) (es : List Event) :
    (g.emit es).fwUpdateCtxt = g.fwUpdateCtxt := rfl
@[simp] theorem Globals.emit_executeUpdate (g : Globals) (es : List Event) :
    (g.emit es).executeUpdate = g.executeUpdate := rfl
@[simp] theorem Globals.emit_response (g : Globals) (es : List Event) : (g.emit es).response = g.response := rfl

/-! ## Handlers -/

/-- `get_ExecutingImageType`: the bootloader, never the main image. -/
def getExecutingImageType : ErrorCode × CodeImageType := (.success, .codeImageBoot)

/-- `startFirmwareUpdate(cmd, length)`: reports a superseded session, then
starts the new one at the staging base whatever came before. -/
def startFirmwareUpdate (P : Platform) (g : Globals) (cmd : String) (length : UInt32) :
    ErrorCode × Globals :=
  let returnValue := if g.fwUpdateCtxt.bUpdateInProgress then .updateAlreadyInProgress else .success
  (returnValue, { g with fwUpdateCtxt := ⟨true, length.toNat, 0, P.ddr2Base, P.ddr2Base, cmd⟩ })

/-- `sendDataPacket(data)`: copy the packet to the image pointer and count it;
the packet that brings the count to `length` closes the session and raises
`executeUpdate`, any other one advances the pointer. -/
def sendDataPacket (g : Globals) (data : List UInt8) : ErrorCode × Globals :=
  let ctx := g.fwUpdateCtxt
  if !ctx.bUpdateInProgress then (.updateNotInProgress, g) else
  let mem := memcpy g.mem ctx.fwImagePtr data
  let bytesReceived := (ctx.bytesReceived + data.length) % 2 ^ 32
  if bytesReceived ≥ ctx.length then
    (.success, { g with
      mem, executeUpdate := true
      fwUpdateCtxt := { ctx with bytesReceived, bUpdateInProgress := false }
      trace := g.trace ++ [.sessionComplete ctx.cmd ctx.fwImageBase] })
  else
    (.success, { g with
      mem, fwUpdateCtxt := { ctx with bytesReceived, fwImagePtr := (ctx.fwImagePtr + data.length) % 2 ^ 32 } })

/-- The session context after a packet of a transfer in progress: the count
wraps at `2 ^ 32`, and the transfer stays open while the count is below the
declared length. -/
theorem sendDataPacket_fwUpdateCtxt (g : Globals) (data : List UInt8)
    (h : g.fwUpdateCtxt.bUpdateInProgress = true) :
    (sendDataPacket g data).2.fwUpdateCtxt.bytesReceived =
        (g.fwUpdateCtxt.bytesReceived + data.length) % 2 ^ 32 ∧
      ((sendDataPacket g data).2.fwUpdateCtxt.bUpdateInProgress = true ↔
        (g.fwUpdateCtxt.bytesReceived + data.length) % 2 ^ 32 < g.fwUpdateCtxt.length) := by
  simp only [sendDataPacket, h, Bool.not_true, Bool.false_eq_true, if_false]
  split <;> simp <;> omega

/-- `doCrcCheck()`: `1` only for a kernel image whose data CRC verifies; the
verdict on a kernel image is left in `crcreturn`. -/
def doCrcCheck (P : Platform) (g : Globals) : Nat × Globals :=
  let base := g.fwUpdateCtxt.fwImageBase
  if P.imageCheckType g.mem base then
    let env := setenv g.env "crcreturn" "0"
    if !P.imageCheckDcrc g.mem base then (0, { g with env := setenv env "crcreturn" "1" })
    else (1, { g with env })
  else (0, g)

/-- `executeFirmwareUpdate()`: check the staged image, then run the session's
command through the shell; the outcome goes to `*state`. -/
def executeFirmwareUpdate (P : Platform) (g : Globals) : Nat × Globals :=
  let ctx := g.fwUpdateCtxt
  let (crc, g) := doCrcCheck P g
  let (rc, st, g) :=
    if crc = 0 then (1, ExecutionState.updateCorruptImage, g)
    else
      let (rc, mem, env) := P.parseStringOuter ctx.cmd g.mem g.env
      if rc ≠ 0 then (1, .updateNotExecuted, { g with mem, env }) else (0, .updateSuccess, { g with mem, env })
  (rc, { g with state := st }.emit [.executed ctx.cmd ctx.fwImageBase st])

/-- `doCrcCheck` writes only the environment. -/
theorem doCrcCheck_frame (P : Platform) (g : Globals) : ∃ env, (doCrcCheck P g).2 = { g with env := env } := by
  dsimp only [doCrcCheck]
  split
  · split <;> exact ⟨_, rfl⟩
  · exact ⟨g.env, rfl⟩

/-- `executeFirmwareUpdate` writes the memory and the environment (through the
shell) and `*state`, and records that it ran on the context's command and
base. -/
theorem executeFirmwareUpdate_frame (P : Platform) (g : Globals) :
    ∃ mem env st, (executeFirmwareUpdate P g).2 =
      { g with mem := mem, env := env, state := st,
               trace := g.trace ++ [.executed g.fwUpdateCtxt.cmd g.fwUpdateCtxt.fwImageBase st] } := by
  obtain ⟨env, h⟩ := doCrcCheck_frame P g
  simp only [executeFirmwareUpdate, h, Globals.emit]
  split_ifs <;> exact ⟨_, _, _, rfl⟩

/-- `sendCommand(cmd)`: the shell runs the command over the memory and the
environment. -/
def sendCommand (P : Platform) (g : Globals) (cmd : String) : ErrorCode × Globals :=
  let (rc, mem, env) := P.parseStringOuter cmd g.mem g.env
  (if rc ≠ 0 then .notExecuted else .success, { g with mem, env })

/-- `remainInBootloader()`. -/
def remainInBootloader (g : Globals) : ErrorCode × Globals := (.success, { g with firmwareUpdate := true })

/-- `requestBootDelay()`. -/
def requestBootDelay (g : Globals) : ErrorCode × Globals := (.success, { g with bootDelay := true })

/-- `get_eventQueueEnabled(eventCode, &enabled)`: the event code is not looked at. -/
def getEventQueueEnabled (g : Globals) (_eventCode : UInt32) : ErrorCode × Bool := (.success, g.queueEnabled)

/-- `set_eventQueueEnabled(eventCode, enabled)`: the event code is not looked at. -/
def setEventQueueEnabled (g : Globals) (_eventCode : UInt32) (enabled : Bool) : ErrorCode × Globals :=
  (.success, { g with queueEnabled := enabled })

/-- `get_nextQueuedEvent(&event)`: a pending event carries the current
`*state` and is consumed; otherwise only the event code is written. -/
def getNextQueuedEvent (g : Globals) (event : GenericEvent) : ErrorCode × GenericEvent × Globals :=
  if g.eventValid then (.success, ⟨firmwareUpdateEvent, [g.state.code]⟩, { g with eventValid := false })
  else (.success, { event with eventCode := nullEvent }, g)

/-! ## The unmarshaller -/

/-- The handler a call names, run on the globals: its return code, its
out-values and the globals after it. Modelled from the spec: the `GenericEvent`
that `get_nextQueuedEvent` fills is the out-struct of `FirmwareUpdate__unmarshal`,
which is not in the repository; it is handed over fresh, as `⟨0, []⟩`. -/
def callHandler (P : Platform) (g : Globals) : Call → ErrorCode × Payload × Globals
  | .sendCommand cmd =>
    let r := sendCommand P g cmd
    (r.1, .none, r.2)
  | .startFirmwareUpdate cmd length =>
    let r := startFirmwareUpdate P g cmd length
    (r.1, .none, r.2)
  | .sendDataPacket data =>
    let r := sendDataPacket g data
    (r.1, .none, r.2)
  | .remainInBootloader =>
    let r := remainInBootloader g
    (r.1, .none, r.2)
  | .requestBootDelay =>
    let r := requestBootDelay g
    (r.1, .none, r.2)
  | .getExecutingImageType => (getExecutingImageType.1, .codeImageType getExecutingImageType.2, g)
  | .getEventQueueEnabled eventCode =>
    let r := getEventQueueEnabled g eventCode
    (r.1, .enabled r.2, g)
  | .setEventQueueEnabled eventCode enabled =>
    let r := setEventQueueEnabled g eventCode enabled
    (r.1, .none, r.2)
  | .getNextQueuedEvent =>
    let r := getNextQueuedEvent g ⟨0, []⟩
    (r.1, .event r.2.1, r.2.2)
  | .unsupported status => (status, .none, g)

/-- Fill the response buffer with a status and out-values. -/
def answer (P : Platform) (g : Globals) (status : ErrorCode) (reply : Payload) : Globals :=
  let response := { g.response with statusCode := status, payload := reply }
  { g with response := { response with length := P.getPayloadOffsetResp response + P.marshalledSize reply } }

@[simp] theorem answer_trace (P : Platform) (g : Globals) (status : ErrorCode) (reply : Payload) :
    (answer P g status reply).trace = g.trace := rfl
@[simp] theorem answer_fwUpdateCtxt (P : Platform) (g : Globals) (status : ErrorCode) (reply : Payload) :
    (answer P g status reply).fwUpdateCtxt = g.fwUpdateCtxt := rfl
@[simp] theorem answer_executeUpdate (P : Platform) (g : Globals) (status : ErrorCode) (reply : Payload) :
    (answer P g status reply).executeUpdate = g.executeUpdate := rfl
@[simp] theorem answer_statusCode (P : Platform) (g : Globals) (status : ErrorCode) (reply : Payload) :
    (answer P g status reply).response.statusCode = status := rfl

/-- An unmarshaller: decode the request in the request buffer, act on it and
fill the response buffer. -/
abbrev Unmarshal := Request → Globals → Globals

/-- Modelled from the spec: `FirmwareUpdate__unmarshal`, generated from the IDL
and not in the repository. It invokes the handler the request names and
answers with the handler's return code and out-values. -/
def unmarshal (P : Platform) : Unmarshal := fun req g =>
  match req.call with
  | .unsupported status => answer P g status .none
  | call =>
    let (status, reply, g) := callHandler P g call
    answer P (g.emit [.handled call status reply]) status reply

/-- The two ways the unmarshaller answers: with the status an unsupported call
carries, or with the handler's code and out-values once the handler has run
and been recorded. -/
theorem unmarshal_eq (P : Platform) (req : Request) (g : Globals) :
    (∃ status, req.call = .unsupported status ∧ unmarshal P req g = answer P g status .none) ∨
      let r := callHandler P g req.call
      unmarshal P req g = answer P (r.2.2.emit [.handled req.call r.1 r.2.1]) r.1 r.2.1 := by
  obtain ⟨classCode, call⟩ := req
  cases call
  case unsupported status => exact .inl ⟨status, rfl, rfl⟩
  all_goals exact .inr rfl

/-! ## What a handler can touch -/

/-- The calls that act on the update session. -/
def Call.isSession : Call → Bool
  | .startFirmwareUpdate .. | .sendDataPacket _ => true
  | _ => false

/-- Handlers other than the session's leave the session context,
`executeUpdate` and the trace alone, and the memory too unless the call is a
shell command, which leaves the memory the shell leaves. -/
theorem callHandler_frame (P : Platform) (g : Globals) {c : Call} (hc : c.isSession = false) :
    let g' := (callHandler P g c).2.2
    g'.fwUpdateCtxt = g.fwUpdateCtxt ∧ g'.executeUpdate = g.executeUpdate ∧ g'.trace = g.trace ∧
      (g'.mem = g.mem ∨ ∃ cmd, c = .sendCommand cmd ∧ g'.mem = (P.parseStringOuter cmd g.mem g.env).2.1) := by
  cases c <;> simp_all [Call.isSession, callHandler, sendCommand, remainInBootloader, requestBootDelay,
    setEventQueueEnabled, getNextQueuedEvent]
  split <;> simp

end RevolverBoot
