import RevolverBoot.Dispatch.Execution

/-!
# RevolverBoot — the event queue against the specification's latch

The specification's event latch (§3, §4.3) holds at most one pending
execution state and an enable flag: an execution arms it with its state when
the queue is enabled, a later arm overwrites an unconsumed one, and a poll
returns the armed state once. The code keeps only the flag `eventValid`; the
state a poll reports is read through `*state` at poll time, which every
execution writes, enabled or not.

So the two part when an execution with the queue disabled follows an armed,
unconsumed event: the latch still holds the armed state, the code reports the
later one, an execution that was never enqueued, where the IDL has the poll
return the next enqueued event. The code does refine the latch in which such
an execution retags a pending event with its own state
(`EventLatch.afterExecutionLatest`).

Both latches are run alongside the code's trace (`EventLatch.replay`): they
see the queue being enabled or disabled, the executions and the polls where
the code meets them. The refinement is carried by `LatchTracks g g'`: what the
code appended to the trace between `g` and `g'`, replayed from the latch the
globals `g` hold (`Globals.latch`), answers every poll as the code did and
ends in the latch `g'` holds. It composes, so each operation is proved once.

## Results

* `nextQueuedEvent_reports_latest_execution` — a run where the code and the
  specification's latch report different states.
* `observe_handled`, `runPendingUpdate_latchTracks` — a handler, and an
  execution, as the latch sees them.
* `doFirmwareUpdate_latchTracks`, `checkFirmwareUpdate_latchTracks` — whole
  loops, from any globals.
* `nextQueuedEvent_refines_latest_latch` — every run from power-on.
* `replay_aligned`, `replay_drained` — the latch answers the code's polls over
  every stretch of a run, and a drained latch answers `NULL_EVENT` until an
  execution.
* `nextQueuedEvent_drained` — every run from power-on: after a poll, the
  polls up to the next execution find the queue empty.
-/

namespace RevolverBoot

/-! ## The latch -/

/-- The event latch of the specification. -/
structure EventLatch where
  enabled : Bool
  pending : Option ExecutionState
  deriving DecidableEq, Repr

namespace EventLatch

/-- Disabled and empty, as at power-on. -/
def init : EventLatch := ⟨false, none⟩

/-- `setEnabled`: leaves a pending event alone. -/
def setEnabled (l : EventLatch) (enabled : Bool) : EventLatch := { l with enabled }

/-- `arm`: overwrites, never queues. -/
def arm (l : EventLatch) (st : ExecutionState) : EventLatch := { l with pending := some st }

/-- `poll`: a pending event is returned once; otherwise the null event. -/
def poll (l : EventLatch) : GenericEvent × EventLatch :=
  match l.pending with
  | some st => (⟨firmwareUpdateEvent, [st.code]⟩, { l with pending := none })
  | none => (⟨nullEvent, []⟩, l)

/-- An execution, as the specification has it: the dispatcher arms the latch
with the execution's state when the queue is enabled. -/
def afterExecution (l : EventLatch) (st : ExecutionState) : EventLatch :=
  if l.enabled then l.arm st else l

/-- An execution, as the code has it: armed when enabled; when disabled, a
pending event now reports this execution's state. -/
def afterExecutionLatest (l : EventLatch) (st : ExecutionState) : EventLatch :=
  if l.enabled then l.arm st else { l with pending := l.pending.map fun _ => st }

/-- What one event of the trace does to the latch, `onExec` standing for what
an execution does: the events it returns to a poll, and the latch after. -/
def observe (onExec : EventLatch → ExecutionState → EventLatch) (l : EventLatch) :
    Event → List GenericEvent × EventLatch
  | .handled (.setEventQueueEnabled _ enabled) _ _ => ([], l.setEnabled enabled)
  | .handled .getNextQueuedEvent _ _ => ([l.poll.1], l.poll.2)
  | .executed _ _ st => ([], onExec l st)
  | _ => ([], l)

/-- The latch run alongside a trace: what it returns to the trace's polls, and
the latch after. -/
def replay (onExec : EventLatch → ExecutionState → EventLatch) : EventLatch → List Event →
    List GenericEvent × EventLatch
  | l, [] => ([], l)
  | l, e :: es =>
    let a := l.observe onExec e
    let b := replay onExec a.2 es
    (a.1 ++ b.1, b.2)

theorem replay_append (onExec : EventLatch → ExecutionState → EventLatch) (l : EventLatch)
    (xs ys : List Event) :
    replay onExec l (xs ++ ys) =
      let a := replay onExec l xs
      let b := replay onExec a.2 ys
      (a.1 ++ b.1, b.2) := by
  induction xs generalizing l with
  | nil => rfl
  | cons e es ih => simp [replay, ih]

end EventLatch

/-- What the code returned to a poll, if the event records one. -/
def Event.polled : Event → List GenericEvent
  | .handled .getNextQueuedEvent _ (.event ev) => [ev]
  | _ => []

/-- The events the code's `get_nextQueuedEvent` calls returned, in order. -/
def polledEvents (trace : List Event) : List GenericEvent := trace.flatMap Event.polled

/-! ## Where the code and the latch part -/

/-- Queue enabled, a corrupt image executed and armed; queue disabled, a good
image executed; then a poll. -/
def latchRun : List (Option Request) :=
  [some ⟨.firmwareUpdate, .setEventQueueEnabled firmwareUpdateEvent true⟩,
    some ⟨.firmwareUpdate, .startFirmwareUpdate "run commit" 1⟩,
    some ⟨.firmwareUpdate, .sendDataPacket [0]⟩,
    some ⟨.firmwareUpdate, .setEventQueueEnabled firmwareUpdateEvent false⟩,
    some ⟨.firmwareUpdate, .startFirmwareUpdate "run commit" 1⟩,
    some ⟨.firmwareUpdate, .sendDataPacket [1]⟩,
    some ⟨.firmwareUpdate, .getNextQueuedEvent⟩]

/-- On `latchRun` from a fallback boot, the poll reports the second,
successful execution, while the specification's latch still holds the
corrupt image it was armed with. -/
theorem nextQueuedEvent_reports_latest_execution :
    polledEvents (checkFirmwareUpdate Platform.sample 0xABCD (Globals.init (fun _ => 0) (fun _ => none))
        latchRun).2.trace = [⟨firmwareUpdateEvent, [ExecutionState.updateSuccess.code]⟩] ∧
      (EventLatch.init.replay EventLatch.afterExecution
        (checkFirmwareUpdate Platform.sample 0xABCD (Globals.init (fun _ => 0) (fun _ => none)) latchRun).2.trace).1 =
        [⟨firmwareUpdateEvent, [ExecutionState.updateCorruptImage.code]⟩] := by
  decide

/-! ## The code's latch -/

/-- The latch the globals hold: enabled as `queueEnabled`; an event is pending
while `eventValid` is set, and it reports `*state`. -/
def Globals.latch (g : Globals) : EventLatch :=
  ⟨g.queueEnabled, if g.eventValid then some g.state else none⟩

/-- Events the latch does not look at. -/
def Event.latchQuiet : Event → Bool
  | .handled (.setEventQueueEnabled ..) _ _ | .handled .getNextQueuedEvent _ _ | .executed .. => false
  | _ => true

theorem observe_of_latchQuiet (onExec : EventLatch → ExecutionState → EventLatch) (l : EventLatch) {e : Event}
    (h : e.latchQuiet = true) : l.observe onExec e = ([], l) ∧ e.polled = [] := by
  cases e
  case handled c s p => cases c <;> simp_all [Event.latchQuiet, EventLatch.observe, Event.polled]
  case executed => simp [Event.latchQuiet] at h
  all_goals exact ⟨rfl, rfl⟩

theorem replay_of_latchQuiet (onExec : EventLatch → ExecutionState → EventLatch) (l : EventLatch) {es : List Event}
    (h : ∀ e ∈ es, e.latchQuiet = true) : EventLatch.replay onExec l es = (polledEvents es, l) := by
  induction es with
  | nil => rfl
  | cons e es ih =>
    obtain ⟨ho, hp⟩ := observe_of_latchQuiet onExec l (h e (List.mem_cons_self ..))
    simp_all [EventLatch.replay, polledEvents]

theorem replay_cons_of_latchQuiet (onExec : EventLatch → ExecutionState → EventLatch) (l : EventLatch)
    (e : Event) (es : List Event) (h : e.latchQuiet = true) :
    EventLatch.replay onExec l (e :: es) = EventLatch.replay onExec l es := by
  simp only [EventLatch.replay, (observe_of_latchQuiet onExec l h).1, List.nil_append]

/-- A handler, as the latch sees its record: enabling or disabling the queue,
a poll answered as the code answers it, and nothing for the other handlers. -/
theorem observe_handled (onExec : EventLatch → ExecutionState → EventLatch) (P : Platform) (g : Globals)
    (c : Call) :
    let r := callHandler P g c
    g.latch.observe onExec (.handled c r.1 r.2.1) = ((Event.handled c r.1 r.2.1).polled, r.2.2.latch) := by
  cases c
  case getNextQueuedEvent =>
    cases hv : g.eventValid <;>
      simp [callHandler, getNextQueuedEvent, hv, Globals.latch, EventLatch.observe, EventLatch.poll, Event.polled]
  case sendDataPacket data =>
    simp only [callHandler, sendDataPacket]
    split
    · rfl
    · split <;> rfl
  all_goals rfl

/-! ## Tracking the latch through the code -/

/-- The code went from `g` to `g'`, and the latch replayed over what it
appended to the trace, from the latch `g` holds, answers the polls as the code
did and ends in the latch `g'` holds. -/
def LatchTracks (g g' : Globals) : Prop :=
  ∃ es, g'.trace = g.trace ++ es ∧
    EventLatch.replay EventLatch.afterExecutionLatest g.latch es = (polledEvents es, g'.latch)

theorem LatchTracks.refl (g : Globals) : LatchTracks g g := ⟨[], by simp, rfl⟩

theorem LatchTracks.trans {g₁ g₂ g₃ : Globals} (h₁ : LatchTracks g₁ g₂) (h₂ : LatchTracks g₂ g₃) :
    LatchTracks g₁ g₃ := by
  obtain ⟨es₁, htr₁, hr₁⟩ := h₁
  obtain ⟨es₂, htr₂, hr₂⟩ := h₂
  exact ⟨es₁ ++ es₂, by rw [htr₂, htr₁, List.append_assoc],
    by simp [EventLatch.replay_append, hr₁, hr₂, polledEvents]⟩

/-- Appending events the latch does not look at, with the latch's fields alone. -/
theorem latchTracks_of_quiet {g g' : Globals} {es : List Event} (htr : g'.trace = g.trace ++ es)
    (hq : ∀ e ∈ es, e.latchQuiet = true) (hl : g'.latch = g.latch) : LatchTracks g g' :=
  ⟨es, htr, by rw [replay_of_latchQuiet _ _ hq, hl]⟩

/-- A step that leaves the trace and the latch's fields alone. -/
theorem latchTracks_of_frame {g g' : Globals} (htr : g'.trace = g.trace) (hl : g'.latch = g.latch) :
    LatchTracks g g' :=
  ⟨[], by simp [htr], by simp [EventLatch.replay, polledEvents, hl]⟩

theorem latchTracks_emit {g : Globals} {es : List Event} (hq : ∀ e ∈ es, e.latchQuiet = true) :
    LatchTracks g (g.emit es) :=
  latchTracks_of_quiet rfl hq rfl

theorem answer_latchTracks (P : Platform) (g : Globals) (status : ErrorCode) (reply : Payload) :
    LatchTracks g (answer P g status reply) :=
  latchTracks_of_frame (by simp) rfl

theorem callHandler_latchTracks (P : Platform) (g : Globals) (c : Call) :
    let r := callHandler P g c
    LatchTracks g (r.2.2.emit [.handled c r.1 r.2.1]) := by
  have ho := observe_handled EventLatch.afterExecutionLatest P g c
  have hc := callHandler_completion P g c
  simp only at ho hc ⊢
  generalize callHandler P g c = r at ho hc ⊢
  have hone : EventLatch.replay EventLatch.afterExecutionLatest g.latch [.handled c r.1 r.2.1] =
      (polledEvents [.handled c r.1 r.2.1], r.2.2.latch) := by
    simp only [EventLatch.replay, ho, polledEvents, List.flatMap_cons, List.flatMap_nil, List.append_nil]
  rcases hc with ⟨htr, -⟩ | ⟨htr, -⟩
  · exact ⟨_, by rw [Globals.emit_trace, htr], hone⟩
  · exact ⟨_, by rw [Globals.emit_trace, htr, List.append_assoc]; rfl,
      (replay_cons_of_latchQuiet _ _ (.sessionComplete r.2.2.fwUpdateCtxt.cmd r.2.2.fwUpdateCtxt.fwImageBase) _
        rfl).trans hone⟩

theorem unmarshal_latchTracks (P : Platform) (req : Request) (g : Globals) :
    LatchTracks g (unmarshal P req g) := by
  rcases unmarshal_eq P req g with ⟨status, -, h⟩ | h <;> rw [h]
  · exact answer_latchTracks P g status .none
  · exact (callHandler_latchTracks P g req.call).trans (answer_latchTracks ..)

theorem reportMalformed_latchTracks (f : Response → Nat) (g : Globals) : LatchTracks g (reportMalformed f g) :=
  latchTracks_of_frame (by simp) rfl

theorem writeResponse_latchTracks (g : Globals) : LatchTracks g (writeResponse g) :=
  latchTracks_emit (fun e he => by rw [List.mem_singleton.mp he]; rfl)

theorem dispatchRequest_latchTracks (P : Platform) (g : Globals) (req : Request) :
    LatchTracks g (dispatchRequest (unmarshal P) P.getPayloadOffsetResp g req) := by
  have hr : LatchTracks g (g.emit [.received req]) := latchTracks_emit (fun e he => by rw [List.mem_singleton.mp he]; rfl)
  simp only [dispatchRequest]
  split <;> exact (hr.trans (by first | exact unmarshal_latchTracks .. | exact reportMalformed_latchTracks ..)).trans
    (writeResponse_latchTracks _)

theorem pollRequest_latchTracks (P : Platform) (g : Globals) (req : Request) :
    LatchTracks g (pollRequest (unmarshal P) P.getPayloadOffsetResp g req) := by
  have hr : LatchTracks g (g.emit [.received req]) := latchTracks_emit (fun e he => by rw [List.mem_singleton.mp he]; rfl)
  simp only [pollRequest]
  split <;> exact (hr.trans (by first | exact unmarshal_latchTracks .. | exact reportMalformed_latchTracks ..)).trans
    (writeResponse_latchTracks _)

/-- Step 4 as the latch sees it: the execution, then the notification the
latch does not look at. -/
theorem runPendingUpdate_latchTracks (P : Platform) (g : Globals) : LatchTracks g (runPendingUpdate P g) := by
  obtain ⟨mem, env, st, hx⟩ := executeFirmwareUpdate_frame P g
  cases hexec : g.executeUpdate
  · simpa [runPendingUpdate, hexec] using LatchTracks.refl g
  · simp only [runPendingUpdate, hexec, if_true, hx]
    cases hq : g.queueEnabled
    · refine ⟨_, rfl, ?_⟩
      cases hv : g.eventValid <;>
        simp [EventLatch.replay, EventLatch.observe, EventLatch.afterExecutionLatest, Globals.latch, polledEvents,
          Event.polled, hq, hv]
    · refine ⟨[.executed g.fwUpdateCtxt.cmd g.fwUpdateCtxt.fwImageBase st, .asyncTriggered], by simp [Globals.emit], ?_⟩
      simp [EventLatch.replay, EventLatch.observe, EventLatch.afterExecutionLatest, EventLatch.arm, Globals.latch,
        Globals.emit, polledEvents, Event.polled, hq]

/-! ## Whole runs -/

theorem pollWindow_latchTracks (P : Platform) (n : Nat) (g : Globals) (reads : List (Option Request)) :
    LatchTracks g (pollWindow P n g reads).1 := by
  induction n generalizing g reads with
  | zero => exact LatchTracks.refl g
  | succ n ih =>
    have ha : LatchTracks g (pollAttempt P g reads.head?.join).1 := by
      cases reads.head?.join with
      | none => exact LatchTracks.refl g
      | some req => exact pollRequest_latchTracks P g req
    simp only [pollWindow]
    split
    · exact ha
    · exact ha.trans (ih _ _)

theorem doFirmwareUpdate_latchTracks (P : Platform) (g : Globals) (reads : List (Option Request)) :
    LatchTracks g (doFirmwareUpdate P g reads) := by
  induction reads generalizing g with
  | nil => exact LatchTracks.refl g
  | cons o reads ih =>
    cases o with
    | none => exact LatchTracks.refl g
    | some req =>
      exact ((dispatchRequest_latchTracks P g req).trans (runPendingUpdate_latchTracks P _)).trans (ih _)

theorem checkFirmwareUpdate_latchTracks (P : Platform) (readValue : UInt16) (g : Globals)
    (reads : List (Option Request)) : LatchTracks g (checkFirmwareUpdate P readValue g reads).2 := by
  have hw := (latchTracks_emit (g := g) (by decide)).trans
    (pollWindow_latchTracks P 4 (g.emit icapProbe) reads)
  simp only [checkFirmwareUpdate]
  split_ifs
  all_goals first | exact hw | exact hw.trans (doFirmwareUpdate_latchTracks ..)

/-- Every run from power-on: the polls return what the latch of
`EventLatch.afterExecutionLatest`, run alongside, returns, and the latch ends
as the globals hold it. -/
theorem nextQueuedEvent_refines_latest_latch (P : Platform) (readValue : UInt16) (mem : Mem) (env : Env)
    (reads : List (Option Request)) :
    let g := (checkFirmwareUpdate P readValue (Globals.init mem env) reads).2
    EventLatch.init.replay EventLatch.afterExecutionLatest g.trace = (polledEvents g.trace, g.latch) := by
  obtain ⟨es, htr, hr⟩ := checkFirmwareUpdate_latchTracks P readValue (Globals.init mem env) reads
  simp only [htr]
  exact hr

/-! ## A drained queue -/

/-- The polls of the event queue. -/
def Event.isPoll : Event → Bool
  | .handled .getNextQueuedEvent _ _ => true
  | _ => false

/-- The executions. -/
def Event.executes : Event → Bool
  | .executed .. => true
  | _ => false

/-- A latch answers every poll with one event, whatever it holds. -/
theorem EventLatch.length_observe (onExec : EventLatch → ExecutionState → EventLatch) (l : EventLatch) (e : Event) :
    (l.observe onExec e).1.length = if e.isPoll then 1 else 0 := by
  cases e
  case handled c s p => cases c <;> rfl
  all_goals rfl

theorem Event.length_polled_le (e : Event) : e.polled.length ≤ if e.isPoll then 1 else 0 := by
  cases e
  case handled c s p =>
    cases c
    case getNextQueuedEvent => cases p <;> simp [Event.polled, Event.isPoll]
    all_goals exact Nat.zero_le _
  all_goals exact Nat.zero_le _

theorem length_polledEvents_le (onExec : EventLatch → ExecutionState → EventLatch) (l : EventLatch)
    (es : List Event) : (polledEvents es).length ≤ (EventLatch.replay onExec l es).1.length := by
  induction es generalizing l with
  | nil => exact le_rfl
  | cons e es ih =>
    show (e.polled ++ polledEvents es).length ≤
      ((l.observe onExec e).1 ++ (EventLatch.replay onExec (l.observe onExec e).2 es).1).length
    have h₁ := e.length_polled_le
    have h₂ := ih (l.observe onExec e).2
    rw [List.length_append, List.length_append, EventLatch.length_observe]
    omega

/-- Where a latch answers the code's polls over a whole trace, it answers them
over every stretch of it, from the latch the stretch before left. -/
theorem replay_aligned {onExec : EventLatch → ExecutionState → EventLatch} {l : EventLatch} {xs ys : List Event}
    (h : (EventLatch.replay onExec l (xs ++ ys)).1 = polledEvents (xs ++ ys)) :
    (EventLatch.replay onExec (EventLatch.replay onExec l xs).2 ys).1 = polledEvents ys := by
  simp only [EventLatch.replay_append, polledEvents, List.flatMap_append] at h
  have hx := length_polledEvents_le onExec l xs
  have hy := length_polledEvents_le onExec (EventLatch.replay onExec l xs).2 ys
  have hlen := congrArg List.length h
  rw [List.length_append, List.length_append] at hlen
  exact (List.append_inj h (by simp only [polledEvents] at hx hy; omega)).2

/-- A poll leaves nothing pending. -/
theorem observe_poll_pending (onExec : EventLatch → ExecutionState → EventLatch) (l : EventLatch) (s : ErrorCode)
    (p : Payload) : (l.observe onExec (.handled .getNextQueuedEvent s p)).2.pending = none := by
  cases h : l.pending <;> simp [EventLatch.observe, EventLatch.poll, h]

/-- With nothing pending, the latch answers every poll `NULL_EVENT` until an
execution arms it. -/
theorem replay_drained {l : EventLatch} (hl : l.pending = none) {es : List Event}
    (hq : ∀ e ∈ es, e.executes = false) :
    ∀ ev ∈ (EventLatch.replay EventLatch.afterExecutionLatest l es).1, ev = ⟨nullEvent, []⟩ := by
  induction es generalizing l with
  | nil => nofun
  | cons e es ih =>
    have hobs : ((l.observe EventLatch.afterExecutionLatest e).1 = [] ∨
        (l.observe EventLatch.afterExecutionLatest e).1 = [⟨nullEvent, []⟩]) ∧
        (l.observe EventLatch.afterExecutionLatest e).2.pending = none := by
      cases e
      case handled c s p =>
        cases c
        case setEventQueueEnabled code enabled => exact ⟨.inl rfl, hl⟩
        case getNextQueuedEvent => simp [EventLatch.observe, EventLatch.poll, hl]
        all_goals exact ⟨.inl rfl, hl⟩
      case executed => cases hq _ (List.mem_cons_self ..)
      all_goals exact ⟨.inl rfl, hl⟩
    intro ev hev
    rcases List.mem_append.mp hev with h | h
    · rcases hobs.1 with h' | h' <;> rw [h'] at h
      · nomatch h
      · exact List.mem_singleton.mp h
    · exact ih hobs.2 (fun e he => hq e (List.mem_cons_of_mem _ he)) ev h

/-- Every run from power-on: once a poll of the event queue has returned,
every later poll up to the next execution returns `NULL_EVENT` with no
payload. -/
theorem nextQueuedEvent_drained (P : Platform) (readValue : UInt16) (mem : Mem) (env : Env)
    (reads : List (Option Request)) (xs ys : List Event) (s : ErrorCode) (p : Payload)
    (htr : (checkFirmwareUpdate P readValue (Globals.init mem env) reads).2.trace =
      xs ++ .handled .getNextQueuedEvent s p :: ys)
    (hq : ∀ e ∈ ys, e.executes = false) :
    ∀ ev ∈ polledEvents ys, ev = ⟨nullEvent, []⟩ := by
  obtain ⟨es, htr', hr⟩ := checkFirmwareUpdate_latchTracks P readValue (Globals.init mem env) reads
  have hes : es = xs ++ ([.handled .getNextQueuedEvent s p] ++ ys) := htr'.symm.trans htr
  rw [hes] at hr
  have hys := replay_aligned (replay_aligned (congrArg Prod.fst hr))
  rw [← hys]
  exact replay_drained (observe_poll_pending EventLatch.afterExecutionLatest _ s p) hq

/-- A host that keeps the board in the bootloader, enables the queue, sends a
one-byte image and polls twice. -/
def drainRun : List (Option Request) :=
  [some ⟨.firmwareUpdate, .remainInBootloader⟩,
    some ⟨.firmwareUpdate, .setEventQueueEnabled firmwareUpdateEvent true⟩,
    some ⟨.firmwareUpdate, .startFirmwareUpdate "run commit" 1⟩,
    some ⟨.firmwareUpdate, .sendDataPacket [1]⟩,
    some ⟨.firmwareUpdate, .getNextQueuedEvent⟩,
    some ⟨.firmwareUpdate, .getNextQueuedEvent⟩]

/-- On `drainRun` the first poll reports the successful execution, and the
second finds the queue drained. -/
theorem nextQueuedEvent_drained_second_poll :
    let tr := (checkFirmwareUpdate Platform.sample 0 (Globals.init (fun _ => 0) (fun _ => none)) drainRun).2.trace
    tr = tr.take 25 ++
        .handled .getNextQueuedEvent .success (.event ⟨firmwareUpdateEvent, [ExecutionState.updateSuccess.code]⟩) ::
          tr.drop 26 ∧
      (∀ e ∈ tr.drop 26, e.executes = false) ∧ ∀ ev ∈ polledEvents (tr.drop 26), ev = ⟨nullEvent, []⟩ := by
  intro tr
  have htr : tr = tr.take 25 ++
      .handled .getNextQueuedEvent .success (.event ⟨firmwareUpdateEvent, [ExecutionState.updateSuccess.code]⟩) ::
        tr.drop 26 := by
    simp only [tr]
    decide
  have hq : ∀ e ∈ tr.drop 26, e.executes = false := by
    simp only [tr]
    decide
  exact ⟨htr, hq, nextQueuedEvent_drained _ _ _ _ _ _ _ _ _ htr hq⟩

end RevolverBoot
