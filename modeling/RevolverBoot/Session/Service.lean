import RevolverBoot.Session.Refinement
import RevolverBoot.Boot.Window

/-!
# RevolverBoot — the update loop is the specification's update service

The session results follow the handlers call by call; the execution results
follow the trace. Here the two meet: `DoFirmwareUpdate`, run from any state that
stands for a session of the specification with no execution pending, is the
specification's update service (`Session.serve`). Each iteration moves the
session as the spec does, and step 4 runs `executeFirmwareUpdate` exactly when
the spec's executor runs, on the transfer it completes. The command is that
transfer's start's, the base is the staging base, and the bytes received are
exactly its packets. The loop then leaves the session idle.

`executedImages` reads off a run what step 4 hands to `executeFirmwareUpdate`;
`executions` reads off the trace what it recorded doing. The two agree.

The side conditions are the session's: no transfer's image reaches `2 ^ 32`
bytes, and the shell commands the loop routes leave the staging buffer alone
as far as the routed packets can fill it (`Platform.KeepsStaging`). From
power-on the first is implied by a budget on the packet data in the mailbox
(`Session.serveFits_of_packetBytes`), and the second is asked of the commands
in the mailbox against that budget.

## Results

* `callHandler_serves` — one handler call, between two requests.
* `dispatchIteration_serves`, `doFirmwareUpdate_serves` — one iteration, and
  the whole update loop, with what step 4 executes.
* `dispatchIteration_executions`, `doFirmwareUpdate_executions` — the trace
  records exactly those executions.
* `doFirmwareUpdate_executes_transfer_once` — the specification's law of a
  transfer: a start and packets reaching its length execute once, on the
  packets end to end.
* `pollWindow_serviceRel` — the boot window, from power-on, always fits and
  leaves no execution pending.
* `checkFirmwareUpdate_serves` — every run from power-on.
-/

namespace RevolverBoot

/-! ## The relation, and what the executor is handed -/

/-- The call a frame of the boot window hands to the handlers: only a
`k_CC_FirmwareUpdate` frame reaches the unmarshaller. -/
def pollCall (req : Request) : Option Call :=
  match req.classCode with
  | .firmwareUpdate => some req.call
  | _ => none

/-- The call a frame of the update loop hands to the handlers. -/
def dispatchCall (req : Request) : Option Call :=
  match req.classCode with
  | .firmwareUpdate | .avbSystem => some req.call
  | .other _ => none

/-- Between two requests of the update loop: the globals stand for the spec's
session, and no execution is pending. -/
def ServiceRel (P : Platform) (g : Globals) (s : Session) : Prop :=
  SessionRel P g s ∧ g.executeUpdate = false

/-- What `executeFirmwareUpdate` is handed: the session's command, the image
base, and the bytes received as they stand from that base. -/
def Globals.staged (g : Globals) : String × Nat × List UInt8 :=
  (g.fwUpdateCtxt.cmd, g.fwUpdateCtxt.fwImageBase,
    readMem g.mem g.fwUpdateCtxt.fwImageBase g.fwUpdateCtxt.bytesReceived)

/-- The staged images `DoFirmwareUpdate` executes, in order: step 4 of an
iteration hands the globals to `executeFirmwareUpdate` when the request left
`executeUpdate` raised. -/
def executedImages (P : Platform) : Globals → List (Option Request) → List (String × Nat × List UInt8)
  | _, [] => []
  | _, none :: _ => []
  | g, some req :: reads =>
    let d := dispatchRequest (unmarshal P) P.getPayloadOffsetResp g req
    (if d.executeUpdate then [d.staged] else []) ++ executedImages P (runPendingUpdate P d) reads

theorem executedImages_cons (P : Platform) (g : Globals) (req : Request) (reads : List (Option Request)) :
    executedImages P g (some req :: reads) =
      executedImages P g [some req] ++ executedImages P (dispatchIteration P g req) reads := by
  simp [executedImages, dispatchIteration]

/-- The executions a trace records, with their command and image base. -/
def executions (trace : List Event) : List (String × Nat) :=
  trace.filterMap fun
    | .executed cmd base _ => some (cmd, base)
    | _ => none

@[simp] theorem executions_append (xs ys : List Event) :
    executions (xs ++ ys) = executions xs ++ executions ys :=
  List.filterMap_append ..

theorem executions_of_quiet {es : List Event} (h : ∀ e ∈ es, e.quiet = true) : executions es = [] := by
  induction es with
  | nil => rfl
  | cons e es ih =>
    rw [← List.singleton_append, executions_append, ih fun e' he' => h e' (List.mem_cons_of_mem _ he')]
    have he := h e (List.mem_cons_self ..)
    cases e <;> first | rfl | simp [Event.quiet] at he

/-! ## One handler call -/

/-- Between two requests, a handler call moves the globals as the spec's
session moves, and it leaves an execution pending only when it completes the
transfer. -/
theorem callHandler_serves (P : Platform) {g : Globals} {s : Session} (c : Call) (h : ServiceRel P g s)
    (hfit : s.fits c = true) (hcmd : ∀ cmd, c = .sendCommand cmd → P.KeepsStaging cmd s.imageLength) :
    SessionRel P (callHandler P g c).2.2 (s.step c) ∧
      ((callHandler P g c).2.2.executeUpdate = false ∨ ∃ cmd image, s.step c = .done cmd image) := by
  refine ⟨(sessionRel_step c h.1 hfit hcmd).1, ?_⟩
  cases hx : (callHandler P g c).2.2.executeUpdate
  · exact .inl rfl
  · exact .inr (((callHandler_executeUpdate_iff c h.1 hfit).mp hx).resolve_left (by simp [h.2]))

/-! ## One request -/

/-- What `SessionRel` reads of the globals after the unmarshaller is what the
handler left. -/
theorem unmarshal_view (P : Platform) (req : Request) (g : Globals) :
    (unmarshal P req g).fwUpdateCtxt = (callHandler P g req.call).2.2.fwUpdateCtxt ∧
      (unmarshal P req g).mem = (callHandler P g req.call).2.2.mem ∧
      (unmarshal P req g).executeUpdate = (callHandler P g req.call).2.2.executeUpdate := by
  obtain ⟨hctx, hexec, -, -⟩ := unmarshal_spec P req g
  refine ⟨hctx, ?_, hexec⟩
  rcases unmarshal_eq P req g with ⟨status, hc, h⟩ | h <;> rw [h]
  · rw [hc]
    rfl
  · rfl

theorem dispatchRequest_view (P : Platform) (g : Globals) (req : Request) :
    let d := dispatchRequest (unmarshal P) P.getPayloadOffsetResp g req
    let h := runCalls P (g.emit [.received req]) ([req].filterMap dispatchCall)
    d.fwUpdateCtxt = h.fwUpdateCtxt ∧ d.mem = h.mem ∧ d.executeUpdate = h.executeUpdate := by
  cases hcc : req.classCode
  case other =>
    simp only [dispatchRequest, dispatchCall, hcc, List.filterMap_cons_none, List.filterMap_nil, runCalls_nil]
    exact ⟨rfl, rfl, rfl⟩
  all_goals
    have hcall : [req].filterMap dispatchCall = [req.call] := by simp [dispatchCall, hcc]
    simp only [dispatchRequest, hcc, hcall, runCalls_cons, runCalls_nil]
    exact unmarshal_view P req _

theorem pollRequest_view (P : Platform) (g : Globals) (req : Request) :
    let p := pollRequest (unmarshal P) P.getPayloadOffsetResp g req
    let h := runCalls P (g.emit [.received req]) ([req].filterMap pollCall)
    p.fwUpdateCtxt = h.fwUpdateCtxt ∧ p.mem = h.mem ∧ p.executeUpdate = h.executeUpdate := by
  cases hcc : req.classCode
  case firmwareUpdate =>
    have hcall : [req].filterMap pollCall = [req.call] := by simp [pollCall, hcc]
    simp only [pollRequest, hcc, hcall, runCalls_cons, runCalls_nil]
    exact unmarshal_view P req _
  all_goals
    simp only [pollRequest, pollCall, hcc, List.filterMap_cons_none, List.filterMap_nil, runCalls_nil]
    exact ⟨rfl, rfl, rfl⟩

/-- Step 4 leaves the session context alone: the shell it may run writes
memory and the environment, not the context. -/
theorem runPendingUpdate_fwUpdateCtxt (P : Platform) (g : Globals) :
    (runPendingUpdate P g).fwUpdateCtxt = g.fwUpdateCtxt := by
  obtain ⟨mem, env, st, hx⟩ := executeFirmwareUpdate_frame P g
  simp only [runPendingUpdate]
  split_ifs <;> simp [Globals.emit, hx]

/-- One iteration of the update loop is one call to the update service: the
executor runs on the transfer the service completes, if any. -/
theorem dispatchIteration_serves (P : Platform) {g : Globals} {s : Session} (req : Request) (h : ServiceRel P g s)
    (hfit : s.serveFits ([req].filterMap dispatchCall) = true)
    (hshell : ∀ cmd, .sendCommand cmd ∈ [req].filterMap dispatchCall → P.KeepsStaging cmd s.imageLength) :
    ServiceRel P (dispatchIteration P g req) (s.serveRun ([req].filterMap dispatchCall)).1 ∧
      executedImages P g [some req] =
        (s.serveRun ([req].filterMap dispatchCall)).2.map fun x => (x.1, P.ddr2Base, x.2) := by
  obtain ⟨hctx, hmem, hexec⟩ := dispatchRequest_view P g req
  obtain ⟨hdone, hkeep, -⟩ := runPendingUpdate_exec P (dispatchRequest (unmarshal P) P.getPayloadOffsetResp g req)
  have hsess := runPendingUpdate_fwUpdateCtxt P (dispatchRequest (unmarshal P) P.getPayloadOffsetResp g req)
  simp only [dispatchIteration, executedImages, List.append_nil]
  generalize dispatchRequest (unmarshal P) P.getPayloadOffsetResp g req = d at *
  have h' : ServiceRel P (g.emit [.received req]) s := h
  cases hc : dispatchCall req with
  | none =>
    have hcalls : [req].filterMap dispatchCall = [] := by simp [hc]
    rw [hcalls] at hctx hmem hexec hfit ⊢
    have hd : d.executeUpdate = false := hexec.trans h'.2
    rw [hkeep hd, hd]
    exact ⟨⟨sessionRel_congr hctx hmem hexec h'.1, hd⟩, rfl⟩
  | some c =>
    have hcalls : [req].filterMap dispatchCall = [c] := by simp [hc]
    rw [hcalls, runCalls_cons, runCalls_nil] at hctx hmem hexec
    rw [hcalls, Session.serveFits, Session.serveFits, Bool.and_true] at hfit
    rw [hcalls, Session.serveRun_singleton, Session.serve]
    obtain ⟨hrel, hpending⟩ := callHandler_serves P c h' hfit fun cmd hc => hshell cmd (by simp [hcalls, hc])
    have hd := sessionRel_congr hctx hmem hexec hrel
    cases hs : s.step c
    case done cmd image =>
      rw [hs] at hd
      obtain ⟨hip, hx, hcmd, hbase, hlen, himage⟩ := hd
      refine ⟨⟨?_, hdone⟩, by simp [hx, Globals.staged, hcmd, hbase, hlen, himage]⟩
      show (runPendingUpdate P d).fwUpdateCtxt.bUpdateInProgress = false
      rw [hsess]
      exact hip
    all_goals
      rw [hs] at hd
      have hx : d.executeUpdate = false := by
        rcases hpending with hx | ⟨cmd, image, hdn⟩
        · exact hexec.trans hx
        · rw [hs] at hdn
          cases hdn
      rw [hkeep hx, hx]
      exact ⟨⟨hd, hx⟩, rfl⟩

/-! ## Whole runs -/

/-- The update loop, from any state standing for a session with no execution
pending, is the update service over the frames it routes up to the first
failed read. -/
theorem doFirmwareUpdate_serves (P : Platform) {g : Globals} {s : Session} (reads : List (Option Request))
    (h : ServiceRel P g s)
    (hfit : s.serveFits ((reads.takeWhile Option.isSome).reduceOption.filterMap dispatchCall) = true)
    (hshell : ∀ cmd, .sendCommand cmd ∈ (reads.takeWhile Option.isSome).reduceOption.filterMap dispatchCall →
      P.KeepsStaging cmd (s.imageLength + packetBytes ((reads.takeWhile Option.isSome).reduceOption.filterMap dispatchCall))) :
    ServiceRel P (doFirmwareUpdate P g reads)
        (s.serveRun ((reads.takeWhile Option.isSome).reduceOption.filterMap dispatchCall)).1 ∧
      executedImages P g reads =
        (s.serveRun ((reads.takeWhile Option.isSome).reduceOption.filterMap dispatchCall)).2.map
          fun x => (x.1, P.ddr2Base, x.2) := by
  induction reads generalizing g s with
  | nil => exact ⟨h, rfl⟩
  | cons o reads ih =>
    cases o with
    | none => exact ⟨h, rfl⟩
    | some req =>
      have hframes : ((some req :: reads).takeWhile Option.isSome).reduceOption =
          [req] ++ (reads.takeWhile Option.isSome).reduceOption := rfl
      rw [hframes, List.filterMap_append, Session.serveFits_append, Bool.and_eq_true] at hfit
      rw [hframes, List.filterMap_append, packetBytes_append] at hshell
      have hlen := Session.imageLength_serve_le s
      obtain ⟨h₁, himg₁⟩ := dispatchIteration_serves P req h hfit.1 fun cmd hc =>
        (hshell cmd (List.mem_append_left _ hc)).mono (by omega)
      have hrun : (s.serveRun ([req].filterMap dispatchCall)).1.imageLength ≤
          s.imageLength + packetBytes ([req].filterMap dispatchCall) := by
        cases hc : dispatchCall req <;> simp [hc, Session.serveRun, Session.serveRun_singleton, hlen]
      obtain ⟨h₂, himg₂⟩ := ih h₁ hfit.2 fun cmd hc => (hshell cmd (List.mem_append_right _ hc)).mono (by omega)
      rw [hframes, List.filterMap_append, Session.serveRun_append, executedImages_cons, himg₁, himg₂,
        List.map_append]
      exact ⟨h₂, rfl⟩

/-- The trace of an iteration records one execution, on the command and base
step 4 was handed, exactly when step 4 runs `executeFirmwareUpdate`. -/
theorem dispatchIteration_executions (P : Platform) {g : Globals} (req : Request) (hexec : g.executeUpdate = false) :
    ∃ es, (dispatchIteration P g req).trace = g.trace ++ es ∧
      executions es = (executedImages P g [some req]).map fun x => (x.1, x.2.1) := by
  obtain ⟨cs, hs, hcs, hhs, htr⟩ := dispatchRequest_completion P req hexec
  obtain ⟨-, hkeep, hrun⟩ := runPendingUpdate_exec P (dispatchRequest (unmarshal P) P.getPayloadOffsetResp g req)
  simp only [dispatchIteration, executedImages, List.append_nil]
  generalize dispatchRequest (unmarshal P) P.getPayloadOffsetResp g req = d at *
  have hquiet : executions (.received req :: (cs ++ hs ++ [.sent d.response d.response.length])) = [] := by
    rcases hcs with ⟨rfl, -⟩ | ⟨rfl, -⟩ <;> rcases hhs with rfl | ⟨c, s, p, rfl⟩ <;> rfl
  cases hd : d.executeUpdate
  · rw [hkeep hd, htr]
    exact ⟨_, rfl, by simpa using hquiet⟩
  · obtain ⟨st, tail, htail, htr'⟩ := hrun hd
    refine ⟨.received req :: (cs ++ hs ++ [.sent d.response d.response.length]) ++
      [.executed d.fwUpdateCtxt.cmd d.fwUpdateCtxt.fwImageBase st] ++ tail,
      by rw [htr', htr]; simp only [List.append_assoc], ?_⟩
    rw [executions_append, executions_append, hquiet]
    rcases htail with rfl | rfl <;> simp [hd, executions, Globals.staged]

theorem doFirmwareUpdate_executions (P : Platform) {g : Globals} (reads : List (Option Request))
    (hexec : g.executeUpdate = false) :
    ∃ es, (doFirmwareUpdate P g reads).trace = g.trace ++ es ∧
      executions es = (executedImages P g reads).map fun x => (x.1, x.2.1) := by
  induction reads generalizing g with
  | nil => exact ⟨[], by simp [doFirmwareUpdate], rfl⟩
  | cons o reads ih =>
    cases o with
    | none => exact ⟨[], by simp [doFirmwareUpdate], rfl⟩
    | some req =>
      obtain ⟨es₁, htr₁, hex₁⟩ := dispatchIteration_executions P req hexec
      obtain ⟨es₂, htr₂, hex₂⟩ := ih (g := dispatchIteration P g req) (runPendingUpdate_exec P _).1
      refine ⟨es₁ ++ es₂, by rw [doFirmwareUpdate, htr₂, htr₁, List.append_assoc], ?_⟩
      rw [executedImages_cons, executions_append, hex₁, hex₂, List.map_append]

/-- The specification's law of a transfer, for the update loop: from any state
between two requests, a start followed by packets whose total first reaches the
declared length at the last one makes `DoFirmwareUpdate` execute exactly once,
on the start's command, at the staging base, on the packets end to end. The
trace records that one execution, and the loop ends idle with nothing pending. -/
theorem doFirmwareUpdate_executes_transfer_once (P : Platform) {g : Globals} {s : Session} (h : ServiceRel P g s)
    (cmd : String) (length : UInt32) (packets : List (List UInt8)) (last : List UInt8)
    (hbefore : packets.flatten.length < length.toNat) (hdone : length.toNat ≤ packets.flatten.length + last.length)
    (hfit : packets.flatten.length + last.length < 2 ^ 32) :
    let reads := some ⟨.firmwareUpdate, .startFirmwareUpdate cmd length⟩ ::
      (packets ++ [last]).map fun data => some ⟨.firmwareUpdate, .sendDataPacket data⟩
    executedImages P g reads = [(cmd, P.ddr2Base, packets.flatten ++ last)] ∧
      ServiceRel P (doFirmwareUpdate P g reads) .idle ∧
      ∃ es, (doFirmwareUpdate P g reads).trace = g.trace ++ es ∧ executions es = [(cmd, P.ddr2Base)] := by
  intro reads
  have hread : reads.takeWhile Option.isSome = reads := List.takeWhile_eq_self_iff.mpr fun x hx => by
    simp only [reads, List.mem_cons, List.mem_map] at hx
    rcases hx with rfl | ⟨_, -, rfl⟩ <;> rfl
  have hcalls : (reads.takeWhile Option.isSome).reduceOption.filterMap dispatchCall =
      .startFirmwareUpdate cmd length :: (packets ++ [last]).map .sendDataPacket := by
    simp [hread, reads, dispatchCall, List.reduceOption, List.filterMap_map, List.filterMap_filterMap,
      Function.comp_def]
    exact congrFun (List.filterMap_eq_map Call.sendDataPacket) packets
  have hfits : s.serveFits (.startFirmwareUpdate cmd length :: (packets ++ [last]).map .sendDataPacket) = true := by
    rw [Session.serveFits, Session.fits_start, Session.serve_start, Bool.true_and]
    refine Session.serveFits_of_packetBytes ?_
    simpa [Session.imageLength, packetBytes, Call.dataLength, Function.comp_def, List.length_flatten] using hfit
  have hserve := doFirmwareUpdate_serves P reads h (by rw [hcalls]; exact hfits) (by rw [hcalls]; simp)
  rw [hcalls, Session.serveRun_transfer s cmd length packets last hbefore hdone] at hserve
  obtain ⟨hrel, himg⟩ := hserve
  obtain ⟨es, htr, hex⟩ := doFirmwareUpdate_executions P reads h.2
  rw [himg] at hex
  exact ⟨himg, hrel, es, htr, hex⟩

/-- A transfer sent in two packets from power-on. -/
theorem doFirmwareUpdate_executes_transfer_once_halves :
    ServiceRel Platform.sample (Globals.init (fun _ => 0) (fun _ => none)) .idle ∧
      [[0xDE, 0xAD]].flatten.length < (4 : UInt32).toNat ∧
      (4 : UInt32).toNat ≤ [[0xDE, 0xAD]].flatten.length + [0xBE, 0xEF].length ∧
      [[0xDE, 0xAD]].flatten.length + [0xBE, 0xEF].length < 2 ^ 32 ∧
      executedImages Platform.sample (Globals.init (fun _ => 0) (fun _ => none))
        [some ⟨.firmwareUpdate, .startFirmwareUpdate "run commit" 4⟩,
          some ⟨.firmwareUpdate, .sendDataPacket [0xDE, 0xAD]⟩, some ⟨.firmwareUpdate, .sendDataPacket [0xBE, 0xEF]⟩] =
        [("run commit", 0x88000000, [0xDE, 0xAD, 0xBE, 0xEF])] :=
  ⟨⟨rfl, rfl⟩, by decide, by decide, by decide,
    (doFirmwareUpdate_executes_transfer_once Platform.sample (g := Globals.init (fun _ => 0) (fun _ => none))
      (s := .idle) ⟨rfl, rfl⟩ "run commit" 4 [[0xDE, 0xAD]] [0xBE, 0xEF]
      (by decide) (by decide) (by decide)).1⟩

/-! ## The boot window -/

/-- An attempt of the window, from no transfer and no execution pending: the
routed call fits, moves the globals as the spec's session, and a window that
goes on has opened no transfer. -/
theorem pollAttempt_serves (P : Platform) {g : Globals} (o : Option Request) (h : ServiceRel P g .idle) :
    let a := pollAttempt P g o
    let calls := [o].reduceOption.filterMap pollCall
    Session.idle.fitsRun calls = true ∧ ServiceRel P a.1 (Session.idle.run calls) ∧
      (a.2 = false → Session.idle.run calls = .idle) := by
  obtain ⟨hexec, -, hgo⟩ := pollAttempt_quiet P o h.1
  intro a calls
  cases o with
  | none => exact ⟨rfl, h, fun _ => rfl⟩
  | some req =>
    obtain ⟨hctx, hmem, -⟩ := pollRequest_view P g req
    have hcalls : calls = [req].filterMap pollCall := rfl
    have ha : a.1 = pollRequest (unmarshal P) P.getPayloadOffsetResp g req := rfl
    have hidle : ServiceRel P (g.emit [.received req]) .idle := h
    rw [ha] at hexec hgo ⊢
    rw [hcalls]
    cases hc : pollCall req with
    | none =>
      have hnil : [req].filterMap pollCall = [] := by simp [hc]
      rw [hnil] at hctx hmem ⊢
      exact ⟨rfl, ⟨sessionRel_congr hctx hmem hexec hidle.1, hexec.trans h.2⟩, fun _ => rfl⟩
    | some c =>
      have hone : [req].filterMap pollCall = [c] := by simp [hc]
      rw [hone, runCalls_cons, runCalls_nil] at hctx hmem
      rw [hone]
      have hrel := (sessionRel_step c hidle.1 rfl fun cmd _ => P.keepsStaging_zero cmd).1
      have hexec' := (callHandler_of_not_inProgress P c hidle.1).2.1
      have hd : SessionRel P (pollRequest (unmarshal P) P.getPayloadOffsetResp g req) (Session.idle.step c) :=
        sessionRel_congr hctx hmem (hexec.trans (hexec'.trans rfl).symm) hrel
      refine ⟨rfl, ⟨hd, hexec.trans h.2⟩, fun hstop => ?_⟩
      have hip := hgo hstop
      rw [Session.run_cons, Session.run_nil]
      cases hs : Session.idle.step c
      case idle => rfl
      case active => rw [hs] at hd; simp [hd.1] at hip
      case done =>
        rw [hs] at hd
        cases hd.2.1.symm.trans (hexec.trans h.2)

/-- The boot window, from no transfer and no execution pending, always fits and
leaves the globals standing for the spec's session after its routed calls,
with no execution pending. -/
theorem pollWindow_serviceRel (P : Platform) (n : Nat) {g : Globals} (reads : List (Option Request))
    (h : ServiceRel P g .idle) :
    ∃ k ≤ n, (pollWindow P n g reads).2 = reads.drop k ∧
      Session.idle.fitsRun ((reads.take k).reduceOption.filterMap pollCall) = true ∧
      ServiceRel P (pollWindow P n g reads).1 (Session.idle.run ((reads.take k).reduceOption.filterMap pollCall)) := by
  obtain ⟨k, hk, hd, -, hw⟩ := pollWindow_rel P
    (R := fun g g' c => ServiceRel P g .idle →
      Session.idle.fitsRun (c.reduceOption.filterMap pollCall) = true ∧
        ServiceRel P g' (Session.idle.run (c.reduceOption.filterMap pollCall)))
    (fun _ h => ⟨rfl, h⟩) (fun g o h => (pollAttempt_serves P o h).imp_right And.left)
    (fun g o g' c hcont hrest h => by
      obtain ⟨hfit₁, hrel₁, hidle⟩ := pollAttempt_serves P o h
      rw [hidle hcont] at hrel₁
      obtain ⟨hfit₂, hrel₂⟩ := hrest hrel₁
      have hsplit : (o :: c).reduceOption.filterMap pollCall =
          [o].reduceOption.filterMap pollCall ++ c.reduceOption.filterMap pollCall := by
        rw [← List.filterMap_append, ← List.reduceOption_append]
        rfl
      rw [hsplit, Session.fitsRun_append, Session.run_append, hidle hcont, hfit₁, hfit₂]
      exact ⟨rfl, hrel₂⟩)
    n g reads
  exact ⟨k, hk, hd, hw h⟩

/-! ## From power-on -/

theorem packetBytes_pollCall_le (frames : List Request) :
    packetBytes (frames.filterMap pollCall) ≤ packetBytes (frames.filterMap dispatchCall) := by
  induction frames with
  | nil => exact le_rfl
  | cons req frames ih =>
    cases hcc : req.classCode <;> simp [List.filterMap_cons, pollCall, dispatchCall, hcc] <;> omega

/-- The window's and the update loop's routed calls carry together at most the
packet data of the whole mailbox. -/
theorem packetBytes_window_loop_le (reads : List (Option Request)) (k : Nat) :
    packetBytes ((reads.take k).reduceOption.filterMap pollCall) +
        packetBytes (((reads.drop k).takeWhile Option.isSome).reduceOption.filterMap dispatchCall) ≤
      packetBytes (reads.reduceOption.filterMap dispatchCall) := by
  have hwindow := packetBytes_pollCall_le (reads.take k).reduceOption
  have hloop := congrArg (fun l => packetBytes (l.reduceOption.filterMap dispatchCall))
    (List.takeWhile_append_dropWhile Option.isSome (reads.drop k))
  have hall := congrArg (fun l => packetBytes (l.reduceOption.filterMap dispatchCall)) (List.take_append_drop k reads)
  simp only [List.reduceOption_append, List.filterMap_append, packetBytes_append] at hloop hall
  omega

/-- Every run from power-on whose mailbox carries fewer than `2 ^ 32` bytes of
packet data, and whose shell commands leave the staging buffer alone as far as
that data can fill it: the update loop runs the executor exactly on the
transfers the specification's update service completes over the frames routed,
in order. Each is executed with the command of its start, at the staging base,
on staged bytes that are exactly its packets. The trace records exactly these
executions, and the run ends standing for the service's session with no
execution pending. -/
theorem checkFirmwareUpdate_serves (P : Platform) (readValue : UInt16) (mem : Mem) (env : Env)
    (reads : List (Option Request)) (hbytes : packetBytes (reads.reduceOption.filterMap dispatchCall) < 2 ^ 32)
    (hshell : ∀ cmd, .sendCommand cmd ∈ reads.reduceOption.filterMap dispatchCall →
      P.KeepsStaging cmd (packetBytes (reads.reduceOption.filterMap dispatchCall))) :
    let w := pollWindow P 4 ((Globals.init mem env).emit icapProbe) reads
    let r := checkFirmwareUpdate P readValue (Globals.init mem env) reads
    ∃ k ≤ 4, w.2 = reads.drop k ∧
      let run := (Session.idle.run ((reads.take k).reduceOption.filterMap pollCall)).serveRun
        (if r.1 = .update then ((reads.drop k).takeWhile Option.isSome).reduceOption.filterMap dispatchCall else [])
      ServiceRel P r.2 run.1 ∧ executions r.2.trace = run.2.map (fun x => (x.1, P.ddr2Base)) ∧
        (r.1 = .update → executedImages P w.1 w.2 = run.2.map fun x => (x.1, P.ddr2Base, x.2)) := by
  dsimp only
  obtain ⟨k, hk, hd, -, hw⟩ := pollWindow_serviceRel P 4 reads (g := (Globals.init mem env).emit icapProbe) ⟨rfl, rfl⟩
  obtain ⟨-, es₀, htr₀, hq₀⟩ := pollWindow_quiet P 4 reads (g := (Globals.init mem env).emit icapProbe) rfl
  have hprobe : executions icapProbe = [] := rfl
  have hwindow : executions (pollWindow P 4 ((Globals.init mem env).emit icapProbe) reads).1.trace = [] := by
    rw [htr₀, executions_append, executions_of_quiet hq₀]
    exact hprobe
  refine ⟨k, hk, hd, ?_⟩
  rcases checkFirmwareUpdate_cases P readValue (Globals.init mem env) reads with ⟨hu, hr⟩ | ⟨hu, hr⟩
  · have hrun := Session.imageLength_run_le .idle ((reads.take k).reduceOption.filterMap pollCall)
    rw [show Session.idle.imageLength = 0 from rfl, Nat.zero_add] at hrun
    have hbudget := packetBytes_window_loop_le reads k
    have hfit : (Session.idle.run ((reads.take k).reduceOption.filterMap pollCall)).serveFits
        (((reads.drop k).takeWhile Option.isSome).reduceOption.filterMap dispatchCall) = true :=
      Session.serveFits_of_packetBytes (by omega)
    have hsub : (((reads.drop k).takeWhile Option.isSome).reduceOption.filterMap dispatchCall).Sublist
        (reads.reduceOption.filterMap dispatchCall) :=
      (((List.takeWhile_sublist _).trans (List.drop_sublist _ _)).filterMap _).filterMap _
    have hloop : ∀ cmd, .sendCommand cmd ∈ ((reads.drop k).takeWhile Option.isSome).reduceOption.filterMap dispatchCall →
        P.KeepsStaging cmd ((Session.idle.run ((reads.take k).reduceOption.filterMap pollCall)).imageLength +
          packetBytes (((reads.drop k).takeWhile Option.isSome).reduceOption.filterMap dispatchCall)) :=
      fun cmd hc => (hshell cmd (hsub.subset hc)).mono (by omega)
    rw [← hd] at hfit hloop
    obtain ⟨hrel, himg⟩ := doFirmwareUpdate_serves P _ hw hfit hloop
    obtain ⟨es, htr, hex⟩ := doFirmwareUpdate_executions P (pollWindow P 4 _ reads).2 hw.2
    rw [if_pos hu, hr, ← hd]
    refine ⟨hrel, ?_, fun _ => himg⟩
    rw [htr, executions_append, hwindow, hex, himg, List.map_map]
    rfl
  · rw [if_neg hu, hr, Session.serveRun, List.map_nil]
    exact ⟨hw, hwindow, fun h => absurd h hu⟩

/-- The scenario of the specification after a failed reconfiguration: the
window reads `start("run commit", 4)`, and the update loop reads one 4-byte
packet and executes the transfer once. -/
theorem checkFirmwareUpdate_serves_commit :
    packetBytes ([some ⟨.firmwareUpdate, .startFirmwareUpdate "run commit" 4⟩,
        some ⟨.firmwareUpdate, .sendDataPacket [0xDE, 0xAD, 0xBE, 0xEF]⟩].reduceOption.filterMap dispatchCall) < 2 ^ 32 ∧
      (∀ cmd, .sendCommand cmd ∈ [some ⟨.firmwareUpdate, .startFirmwareUpdate "run commit" 4⟩,
          some ⟨.firmwareUpdate, .sendDataPacket [0xDE, 0xAD, 0xBE, 0xEF]⟩].reduceOption.filterMap dispatchCall →
        Platform.sample.KeepsStaging cmd 4) ∧
      executions (checkFirmwareUpdate Platform.sample 0xABCD (Globals.init (fun _ => 0) (fun _ => none))
        [some ⟨.firmwareUpdate, .startFirmwareUpdate "run commit" 4⟩,
          some ⟨.firmwareUpdate, .sendDataPacket [0xDE, 0xAD, 0xBE, 0xEF]⟩]).2.trace = [("run commit", 0x88000000)] := by
  have hshell : ∀ cmd, .sendCommand cmd ∈ [some ⟨.firmwareUpdate, .startFirmwareUpdate "run commit" 4⟩,
      some ⟨.firmwareUpdate, .sendDataPacket [0xDE, 0xAD, 0xBE, 0xEF]⟩].reduceOption.filterMap dispatchCall →
      Platform.sample.KeepsStaging cmd 4 := fun _ h => by simp [List.reduceOption, dispatchCall] at h
  refine ⟨by decide, hshell, ?_⟩
  obtain ⟨k, hk, hd, -, hex, -⟩ := checkFirmwareUpdate_serves Platform.sample 0xABCD (fun _ => 0) (fun _ => none)
    [some ⟨.firmwareUpdate, .startFirmwareUpdate "run commit" 4⟩,
      some ⟨.firmwareUpdate, .sendDataPacket [0xDE, 0xAD, 0xBE, 0xEF]⟩] (by decide) hshell
  have hw : (pollWindow Platform.sample 4 ((Globals.init (fun _ => 0) (fun _ => none)).emit icapProbe)
      [some ⟨.firmwareUpdate, .startFirmwareUpdate "run commit" 4⟩,
        some ⟨.firmwareUpdate, .sendDataPacket [0xDE, 0xAD, 0xBE, 0xEF]⟩]).2 =
      [some ⟨.firmwareUpdate, .sendDataPacket [0xDE, 0xAD, 0xBE, 0xEF]⟩] := by decide
  rw [hw] at hd
  obtain rfl : k = 1 := by interval_cases k <;> first | rfl | exact absurd hd (by decide)
  rw [hex]
  decide

end RevolverBoot
