import RevolverBoot.Model.Dispatch

/-!
# RevolverBoot — each completed transfer runs once, right after its answer

`sendDataPacket` does not run the update itself: it raises `executeUpdate`,
and step 4 of `DoFirmwareUpdate`'s iteration runs `executeFirmwareUpdate`
after the response is written and lowers the flag. Nothing else reads the
flag, so the discipline rests on two facts: the flag is down whenever a
request is read, and no transfer can complete in the boot window, whose loop
never looks at the flag.

The discipline is stated over the trace by a monitor (`ExecPaired`): every
completion is followed, once its response is written and before any request
is read, by one execution on the completed transfer's command and image base;
no execution happens otherwise. The boot window stays quiet because it breaks
out at its first `e_EC_SUCCESS`, and a transfer can only be opened by a start,
which answers `e_EC_SUCCESS` when no transfer is in progress.

## Results

* `callHandler_completion` — a handler emits nothing, or it is the packet that
  completes a transfer, recording it and raising `executeUpdate`.
* `dispatchIteration_monitor`, `doFirmwareUpdate_monitor` — one iteration, and
  the whole update loop, from a lowered flag.
* `pollAttempt_quiet`, `pollWindow_quiet` — the boot window, from no transfer
  in progress.
* `executeFirmwareUpdate_follows_completion` — every run from power-on.
-/

namespace RevolverBoot

/-! ## The discipline, as a monitor over the trace -/

/-- Events other than a completion or an execution. -/
def Event.quiet : Event → Bool
  | .sessionComplete .. | .executed .. => false
  | _ => true

/-- What the monitor remembers: nothing outstanding, or a completed transfer
(its command and image base) waiting for its execution, before or after its
response is written. -/
inductive Pending
  | clear
  | completed (cmd : String) (base : Nat) (answered : Bool)
  deriving DecidableEq, Repr

/-- One step of the monitor; `none` rejects the trace. -/
def Pending.next : Pending → Event → Option Pending
  | .clear, .sessionComplete cmd base => some (.completed cmd base false)
  | .clear, .executed .. => none
  | .clear, _ => some .clear
  | .completed cmd base false, .sent .. => some (.completed cmd base true)
  | .completed _ _ false, .received _ => none
  | .completed cmd base false, e => if e.quiet then some (.completed cmd base false) else none
  | .completed cmd base true, .executed cmd' base' _ =>
    if cmd' = cmd ∧ base' = base then some .clear else none
  | .completed _ _ true, _ => none

/-- The monitor over a trace. -/
def monitor : Pending → List Event → Option Pending
  | p, [] => some p
  | p, e :: es => (p.next e).bind fun p => monitor p es

/-- Every completion is executed once, on its own command and image base, after
its response is written and before the next request is read; there is no other
execution, and none is outstanding. -/
def ExecPaired (trace : List Event) : Prop := monitor .clear trace = some .clear

theorem monitor_append (p : Pending) (xs ys : List Event) :
    monitor p (xs ++ ys) = (monitor p xs).bind fun p => monitor p ys := by
  induction xs generalizing p with
  | nil => rfl
  | cons e es ih =>
    simp only [List.cons_append, monitor]
    cases p.next e with
    | none => rfl
    | some q => exact ih q

theorem Pending.next_clear {e : Event} (h : e.quiet = true) : Pending.next .clear e = some .clear := by
  cases e <;> first | rfl | simp [Event.quiet] at h

/-- The execution a completed, answered transfer waits for. -/
theorem Pending.next_executed (cmd : String) (base : Nat) (st : ExecutionState) :
    Pending.next (.completed cmd base true) (.executed cmd base st) = some .clear := by
  simp [Pending.next]

theorem monitor_quiet {es : List Event} (h : ∀ e ∈ es, e.quiet = true) : monitor .clear es = some .clear := by
  induction es with
  | nil => rfl
  | cons e es ih =>
    rw [monitor, Pending.next_clear (h e (List.mem_cons_self ..)), Option.some_bind]
    exact ih fun e he => h e (List.mem_cons_of_mem _ he)

/-! ## One request -/

/-- A handler either emits nothing and leaves `executeUpdate` alone, or it is
the packet completing a transfer: it records the completion with the command
and base the context keeps, and raises `executeUpdate`. -/
theorem callHandler_completion (P : Platform) (g : Globals) (c : Call) :
    let g' := (callHandler P g c).2.2
    (g'.trace = g.trace ∧ g'.executeUpdate = g.executeUpdate) ∨
      (g'.trace = g.trace ++ [.sessionComplete g'.fwUpdateCtxt.cmd g'.fwUpdateCtxt.fwImageBase] ∧
        g'.executeUpdate = true) := by
  cases hc : c.isSession
  · obtain ⟨-, hexec, htrace, -⟩ := callHandler_frame P g hc
    exact .inl ⟨htrace, hexec⟩
  · cases c <;> simp [Call.isSession] at hc
    case startFirmwareUpdate => exact .inl ⟨rfl, rfl⟩
    case sendDataPacket data =>
      dsimp only [callHandler, sendDataPacket]
      split
      · exact .inl ⟨rfl, rfl⟩
      · split
        · exact .inr ⟨rfl, rfl⟩
        · exact .inl ⟨rfl, rfl⟩

/-- With no transfer in progress a handler emits nothing and leaves
`executeUpdate` alone, and the only call that opens a transfer answers
`e_EC_SUCCESS`. -/
theorem callHandler_of_not_inProgress (P : Platform) {g : Globals} (c : Call)
    (hip : g.fwUpdateCtxt.bUpdateInProgress = false) :
    let r := callHandler P g c
    r.2.2.trace = g.trace ∧ r.2.2.executeUpdate = g.executeUpdate ∧
      (r.2.2.fwUpdateCtxt.bUpdateInProgress = true → r.1 = .success) := by
  cases hc : c.isSession
  · obtain ⟨hctx, hexec, htrace, -⟩ := callHandler_frame P g hc
    exact ⟨htrace, hexec, by simp [hctx, hip]⟩
  · cases c <;> simp [Call.isSession] at hc
    case startFirmwareUpdate => simp [callHandler, startFirmwareUpdate, hip]
    case sendDataPacket data => simp [callHandler, sendDataPacket, hip]

/-- The unmarshaller adds at most the handler's `handled` record to what the
handler did, and answers with the handler's code. -/
theorem unmarshal_spec (P : Platform) (req : Request) (g : Globals) :
    let u := unmarshal P req g
    let r := callHandler P g req.call
    u.fwUpdateCtxt = r.2.2.fwUpdateCtxt ∧ u.executeUpdate = r.2.2.executeUpdate ∧ u.response.statusCode = r.1 ∧
      (u.trace = r.2.2.trace ∨ ∃ c s p, u.trace = r.2.2.trace ++ [.handled c s p]) := by
  rcases unmarshal_eq P req g with ⟨status, hc, h⟩ | h <;> rw [h]
  · simp [callHandler, hc]
  · exact ⟨rfl, rfl, rfl, .inr ⟨_, _, _, rfl⟩⟩

/-- Steps 2–3 from a lowered flag: the trace gains the read, possibly a
completion (and then the flag is up, the context still naming the completed
transfer), possibly the handler's record, and the response. -/
theorem dispatchRequest_completion (P : Platform) {g : Globals} (req : Request) (hexec : g.executeUpdate = false) :
    let d := dispatchRequest (unmarshal P) P.getPayloadOffsetResp g req
    ∃ cs hs, ((cs = [] ∧ d.executeUpdate = false) ∨
        (cs = [.sessionComplete d.fwUpdateCtxt.cmd d.fwUpdateCtxt.fwImageBase] ∧ d.executeUpdate = true)) ∧
      (hs = [] ∨ ∃ c s p, hs = [.handled c s p]) ∧
      d.trace = g.trace ++ .received req :: (cs ++ hs ++ [.sent d.response d.response.length]) := by
  obtain ⟨hctx, hexecu, -, htr⟩ := unmarshal_spec P req (g.emit [.received req])
  have hc := callHandler_completion P (g.emit [.received req]) req.call
  cases hcc : req.classCode
  case other =>
    exact ⟨[], [], .inl ⟨rfl, by simp [dispatchRequest, hcc, hexec]⟩, .inl rfl, by simp [dispatchRequest, hcc]⟩
  all_goals
    rcases htr with htr | ⟨c, s, p, htr⟩ <;> rcases hc with ⟨htr', hexec'⟩ | ⟨htr', hexec'⟩
    · exact ⟨[], [], .inl ⟨rfl, by simp [dispatchRequest, hcc, hexecu, hexec', hexec]⟩, .inl rfl,
        by simp [dispatchRequest, hcc, htr, htr']⟩
    · exact ⟨_, [], .inr ⟨rfl, by simp [dispatchRequest, hcc, hexecu, hexec']⟩, .inl rfl,
        by simp [dispatchRequest, hcc, htr, htr', hctx]⟩
    · exact ⟨[], _, .inl ⟨rfl, by simp [dispatchRequest, hcc, hexecu, hexec', hexec]⟩, .inr ⟨c, s, p, rfl⟩,
        by simp [dispatchRequest, hcc, htr, htr']⟩
    · exact ⟨_, _, .inr ⟨rfl, by simp [dispatchRequest, hcc, hexecu, hexec']⟩, .inr ⟨c, s, p, rfl⟩,
        by simp [dispatchRequest, hcc, htr, htr', hctx]⟩

/-- Step 4: the flag ends down; if it was up, the trace records the execution on
the context's command and base, then perhaps the notification. -/
theorem runPendingUpdate_exec (P : Platform) (g : Globals) :
    let g' := runPendingUpdate P g
    g'.executeUpdate = false ∧ (g.executeUpdate = false → g' = g) ∧
      (g.executeUpdate = true → ∃ st tail, (tail = [] ∨ tail = [.asyncTriggered]) ∧
        g'.trace = g.trace ++ [.executed g.fwUpdateCtxt.cmd g.fwUpdateCtxt.fwImageBase st] ++ tail) := by
  obtain ⟨mem, env, st, hx⟩ := executeFirmwareUpdate_frame P g
  cases hg : g.executeUpdate
  · exact ⟨by simp [runPendingUpdate, hg], fun _ => by simp [runPendingUpdate, hg], nofun⟩
  · simp only [runPendingUpdate, hg, if_true, hx]
    split
    · exact ⟨rfl, nofun, fun _ => ⟨st, _, .inr rfl, by simp [Globals.emit]⟩⟩
    · exact ⟨rfl, nofun, fun _ => ⟨st, [], .inl rfl, by simp⟩⟩

/-- From a lowered flag, one iteration of `DoFirmwareUpdate` leaves the flag
lowered and adds a trace the monitor accepts. -/
theorem dispatchIteration_monitor (P : Platform) {g : Globals} (req : Request) (hexec : g.executeUpdate = false) :
    let g' := dispatchIteration P g req
    g'.executeUpdate = false ∧ ∃ es, g'.trace = g.trace ++ es ∧ monitor .clear es = some .clear := by
  have hcomp := dispatchRequest_completion P req hexec
  have hrun := runPendingUpdate_exec P (dispatchRequest (unmarshal P) P.getPayloadOffsetResp g req)
  simp only [dispatchIteration]
  generalize dispatchRequest (unmarshal P) P.getPayloadOffsetResp g req = d at hcomp hrun ⊢
  obtain ⟨hdone, hquiet, hrun⟩ := hrun
  obtain ⟨cs, hs, hcs, hhs, htr⟩ := hcomp
  refine ⟨hdone, ?_⟩
  rcases hcs with ⟨rfl, hd⟩ | ⟨rfl, hd⟩
  · rw [hquiet hd, htr]
    exact ⟨_, rfl, monitor_quiet (by rcases hhs with rfl | ⟨c, s, p, rfl⟩ <;> simp [Event.quiet])⟩
  · obtain ⟨st, tail, htail, htr'⟩ := hrun hd
    rw [htr', htr, List.append_assoc, List.append_assoc]
    refine ⟨_, rfl, ?_⟩
    have hanswered : monitor .clear (.received req :: ([.sessionComplete d.fwUpdateCtxt.cmd d.fwUpdateCtxt.fwImageBase] ++
        hs ++ [.sent d.response d.response.length])) = some (.completed d.fwUpdateCtxt.cmd d.fwUpdateCtxt.fwImageBase true) := by
      rcases hhs with rfl | ⟨c, s, p, rfl⟩ <;> rfl
    rw [monitor_append, hanswered, Option.some_bind, monitor_append]
    simp only [monitor, Pending.next_executed, Option.some_bind]
    rcases htail with rfl | rfl <;> rfl

/-- With no transfer in progress, an attempt of the boot window emits no
completion or execution and leaves `executeUpdate` alone; the window goes on
only if no transfer was opened. -/
theorem pollAttempt_quiet (P : Platform) {g : Globals} (o : Option Request)
    (hip : g.fwUpdateCtxt.bUpdateInProgress = false) :
    let r := pollAttempt P g o
    r.1.executeUpdate = g.executeUpdate ∧ (∃ es, r.1.trace = g.trace ++ es ∧ ∀ e ∈ es, e.quiet = true) ∧
      (r.2 = false → r.1.fwUpdateCtxt.bUpdateInProgress = false) := by
  cases o with
  | none => exact ⟨rfl, ⟨[], by simp [pollAttempt], by simp⟩, fun _ => hip⟩
  | some req =>
    obtain ⟨hctx, hexecu, hstatus, htr⟩ := unmarshal_spec P req (g.emit [.received req])
    obtain ⟨htr', hexec', hopen⟩ := callHandler_of_not_inProgress P req.call (g := g.emit [.received req]) hip
    cases hcc : req.classCode
    case firmwareUpdate =>
      simp only [pollAttempt, pollRequest, hcc, writeResponse_trace, writeResponse_executeUpdate,
        writeResponse_fwUpdateCtxt, writeResponse_response]
      generalize unmarshal P req (g.emit [.received req]) = u at *
      refine ⟨by simp [hexecu, hexec'], ?_, fun hstop => ?_⟩
      · rcases htr with htr | ⟨c, s, p, htr⟩ <;> simp only [htr, htr', Globals.emit_trace, List.append_assoc] <;>
          exact ⟨_, rfl, by simp [Event.quiet]⟩
      · rw [hctx]
        cases hu : (callHandler P (g.emit [.received req]) req.call).2.2.fwUpdateCtxt.bUpdateInProgress
        · rfl
        · simp [hstatus, hopen hu] at hstop
    all_goals
      simp only [pollAttempt, pollRequest, hcc, writeResponse_trace, writeResponse_executeUpdate,
        writeResponse_fwUpdateCtxt, reportMalformed_trace, reportMalformed_executeUpdate,
        reportMalformed_fwUpdateCtxt, Globals.emit_trace, Globals.emit_executeUpdate, Globals.emit_fwUpdateCtxt,
        List.append_assoc]
      exact ⟨by simp, ⟨_, rfl, by simp [Event.quiet]⟩, fun _ => hip⟩

/-! ## Whole runs -/

/-- The boot window, from no transfer in progress: nothing completes, nothing
runs, `executeUpdate` is as it was. -/
theorem pollWindow_quiet (P : Platform) (n : Nat) {g : Globals} (reads : List (Option Request))
    (hip : g.fwUpdateCtxt.bUpdateInProgress = false) :
    let w := pollWindow P n g reads
    w.1.executeUpdate = g.executeUpdate ∧ ∃ es, w.1.trace = g.trace ++ es ∧ ∀ e ∈ es, e.quiet = true := by
  induction n generalizing g reads with
  | zero => exact ⟨rfl, [], by simp [pollWindow], by simp⟩
  | succ n ih =>
    obtain ⟨hexec, ⟨es, htr, hq⟩, hgo⟩ := pollAttempt_quiet P reads.head?.join hip
    simp only [pollWindow]
    split
    · exact ⟨hexec, es, htr, hq⟩
    · rename_i hstop
      obtain ⟨hexec', es', htr', hq'⟩ := ih reads.tail (hgo (by simpa using hstop))
      refine ⟨hexec'.trans hexec, es ++ es', by rw [htr', htr, List.append_assoc], ?_⟩
      simpa [or_imp, forall_and] using And.intro hq hq'

theorem doFirmwareUpdate_monitor (P : Platform) {g : Globals} (reads : List (Option Request))
    (hexec : g.executeUpdate = false) :
    let g' := doFirmwareUpdate P g reads
    g'.executeUpdate = false ∧ ∃ es, g'.trace = g.trace ++ es ∧ monitor .clear es = some .clear := by
  induction reads generalizing g with
  | nil => exact ⟨hexec, [], by simp [doFirmwareUpdate], rfl⟩
  | cons o reads ih =>
    cases o with
    | none => exact ⟨hexec, [], by simp [doFirmwareUpdate], rfl⟩
    | some req =>
      obtain ⟨hexec', es, htrace, hmon⟩ := dispatchIteration_monitor P req hexec
      obtain ⟨hexec'', es', htrace', hmon'⟩ := ih hexec'
      refine ⟨hexec'', es ++ es', by simp [doFirmwareUpdate, htrace', htrace], ?_⟩
      rw [monitor_append, hmon]
      exact hmon'

/-- Every run from power-on: the trace keeps the execution discipline, so each
completion is executed once, on the completed transfer's command and image
base, right after its response and before the next read, and nothing else is
ever executed; `executeUpdate` is down at every read of the boot window and of
the update loop; and the boot window neither completes a transfer nor runs
one. -/
theorem executeFirmwareUpdate_follows_completion (P : Platform) (readValue : UInt16) (mem : Mem) (env : Env)
    (reads : List (Option Request)) :
    let g₀ := (Globals.init mem env).emit icapProbe
    let w := pollWindow P 4 g₀ reads
    ExecPaired (checkFirmwareUpdate P readValue (Globals.init mem env) reads).2.trace ∧
      (∀ n ≤ 4, (pollWindow P n g₀ reads).1.executeUpdate = false) ∧
      (∀ pre post, w.2 = pre ++ post → (doFirmwareUpdate P w.1 pre).executeUpdate = false) ∧
      ∀ e ∈ w.1.trace, e.quiet = true := by
  intro g₀ w
  have hip : g₀.fwUpdateCtxt.bUpdateInProgress = false := rfl
  obtain ⟨hexec, es, htr, hq⟩ := pollWindow_quiet P 4 reads hip
  have hprobe : ∀ e ∈ icapProbe, e.quiet = true := by decide
  have hquiet : ∀ e ∈ w.1.trace, e.quiet = true := by
    rw [htr]
    exact fun e he => (List.mem_append.mp he).elim (hprobe e) (hq e)
  refine ⟨?_, fun n _ => (pollWindow_quiet P n reads hip).1, fun pre _ _ => (doFirmwareUpdate_monitor P pre hexec).1,
    hquiet⟩
  have hw := monitor_quiet hquiet
  simp only [ExecPaired, checkFirmwareUpdate]
  split_ifs
  all_goals first
    | exact hw
    | obtain ⟨-, es', htr', hmon⟩ := doFirmwareUpdate_monitor P w.2 hexec
      rw [htr', monitor_append, hw]
      exact hmon

end RevolverBoot
