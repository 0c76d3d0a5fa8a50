import RevolverBoot.Session.Spec

/-!
# RevolverBoot — `startFirmwareUpdate` and `sendDataPacket` refine the session

The handlers keep the session in `fwUpdateCtxt` and the staging memory: a
cursor `fwImagePtr`, a 32-bit counter `bytesReceived`, and the bytes `memcpy`
left behind. `SessionRel` reads the spec's `Session` off those globals; every
handler call preserves it and answers what the spec answers, as long as the
counter does not wrap (`Session.fitsRun`).

The staged bytes also sit in memory the shell can write: a `sendCommand` in
the middle of a transfer runs whatever command line the host sent, and nothing
in the file stops it from overwriting the staging buffer. The session results
therefore assume of each command a run carries that it leaves the staging
buffer alone, as far as the run's packets can fill it
(`Platform.KeepsStaging`); the premise is vacuous for a run without commands.

`CtxInv` is what holds without any side condition, in every reachable state:
while a transfer is in progress its counter is within its declared length and
its cursor is the base plus the counter. Beyond it the code has no bounds: the
packet that completes a transfer is copied whole, past the declared length if
it is longer, and a counter that wraps sends the cursor back.

## Results

* `sessionRel_step`, `sessionRel_run` — one call, and a whole run, keep the
  code in step with the spec's session.
* `callHandler_executeUpdate_iff` — only the packet that completes a transfer
  raises `executeUpdate`, and no handler lowers it.
* `session_refinement` — from power-on, every call of every fitting run is
  answered as the spec answers it, and leaves the globals standing for the
  spec's session.
* `sendDataPacket_overruns_length` — a packet longer than what is left of the
  declared length is counted and copied whole.
* `sendDataPacket_writes_within_session` — what does hold of a packet: the
  counter bound in every reachable state, and every byte the packet's `memcpy`
  writes lies between the old and the new count, inside the declared length
  unless the packet completes the transfer.
-/

namespace RevolverBoot

variable (P : Platform)

/-- The globals after a sequence of handler calls. -/
def runCalls (g : Globals) (calls : List Call) : Globals := calls.foldl (fun g c => (callHandler P g c).2.2) g

@[simp] theorem runCalls_nil (g : Globals) : runCalls P g [] = g := rfl

@[simp] theorem runCalls_cons (g : Globals) (c : Call) (cs : List Call) :
    runCalls P g (c :: cs) = runCalls P (callHandler P g c).2.2 cs := rfl

theorem runCalls_concat (g : Globals) (cs : List Call) (c : Call) :
    runCalls P g (cs ++ [c]) = (callHandler P (runCalls P g cs) c).2.2 := by
  simp [runCalls, List.foldl_append]

/-! ## The relation -/

/-- The code's globals stand for the spec's session. -/
def SessionRel (g : Globals) : Session → Prop
  | .idle => g.fwUpdateCtxt.bUpdateInProgress = false
  | .active cmd length image =>
    g.fwUpdateCtxt = ⟨true, length, image.length, P.ddr2Base, (P.ddr2Base + image.length) % 2 ^ 32, cmd⟩ ∧
      readMem g.mem P.ddr2Base image.length = image
  | .done cmd image =>
    g.fwUpdateCtxt.bUpdateInProgress = false ∧ g.executeUpdate = true ∧ g.fwUpdateCtxt.cmd = cmd ∧
      g.fwUpdateCtxt.fwImageBase = P.ddr2Base ∧ g.fwUpdateCtxt.bytesReceived = image.length ∧
      readMem g.mem P.ddr2Base image.length = image

variable {P}

/-- `SessionRel` reads of the memory only the bytes the session has staged. -/
theorem sessionRel_of_readMem {g g' : Globals} {s : Session} (hctx : g'.fwUpdateCtxt = g.fwUpdateCtxt)
    (hmem : readMem g'.mem P.ddr2Base s.imageLength = readMem g.mem P.ddr2Base s.imageLength)
    (hexec : g'.executeUpdate = g.executeUpdate) (h : SessionRel P g s) : SessionRel P g' s := by
  cases s <;> simp_all [SessionRel, Session.imageLength]

theorem sessionRel_congr {g g' : Globals} {s : Session} (hctx : g'.fwUpdateCtxt = g.fwUpdateCtxt)
    (hmem : g'.mem = g.mem) (hexec : g'.executeUpdate = g.executeUpdate) (h : SessionRel P g s) :
    SessionRel P g' s :=
  sessionRel_of_readMem hctx (by rw [hmem]) hexec h

theorem inProgress_of_sessionRel {g : Globals} {s : Session} (h : SessionRel P g s) :
    g.fwUpdateCtxt.bUpdateInProgress = true ↔ ∃ cmd length image, s = .active cmd length image := by
  cases s <;> simp_all [SessionRel]

/-! ## One call -/

theorem sessionRel_startFirmwareUpdate {g : Globals} {s : Session} (cmd : String) (length : UInt32)
    (h : SessionRel P g s) :
    SessionRel P (startFirmwareUpdate P g cmd length).2 (s.step (.startFirmwareUpdate cmd length)) ∧
      s.status (.startFirmwareUpdate cmd length) = some (startFirmwareUpdate P g cmd length).1 := by
  have hb := P.ddr2Base_lt
  refine ⟨by simp [-Nat.reducePow, SessionRel, startFirmwareUpdate, readMem, Nat.mod_eq_of_lt hb], ?_⟩
  have := inProgress_of_sessionRel h
  cases s <;> simp_all [Session.status, startFirmwareUpdate]

theorem sessionRel_sendDataPacket {g : Globals} {s : Session} (data : List UInt8)
    (h : SessionRel P g s) (hfit : s.fits (.sendDataPacket data) = true) :
    SessionRel P (sendDataPacket g data).2 (s.step (.sendDataPacket data)) ∧
      s.status (.sendDataPacket data) = some (sendDataPacket g data).1 := by
  cases s with
  | idle => simp_all [SessionRel, sendDataPacket, Session.step, Session.status]
  | done cmd image => simp_all [SessionRel, sendDataPacket, Session.step, Session.status]
  | active cmd length image =>
    obtain ⟨hctx, hmem⟩ := h
    have hfit' : image.length + data.length < 2 ^ 32 := by simpa [Session.fits] using hfit
    have hcopy := readMem_memcpy g.mem data P.ddr2Base hfit'.le
    rw [hmem] at hcopy
    by_cases hL : length ≤ image.length + data.length
    · simp [-Nat.reducePow, SessionRel, sendDataPacket, Session.step, Session.status, hctx, hL, hcopy,
        Nat.mod_eq_of_lt hfit']
    · have hptr : ((P.ddr2Base + image.length) % 2 ^ 32 + data.length) % 2 ^ 32 =
          (P.ddr2Base + (image.length + data.length)) % 2 ^ 32 := by omega
      simp [-Nat.reducePow, SessionRel, sendDataPacket, Session.step, Session.status, hctx, hL, hcopy,
        hptr, Nat.mod_eq_of_lt hfit']

/-- One handler call keeps the code in step with the spec's session, and answers
a session call as the spec does. -/
theorem sessionRel_step {g : Globals} {s : Session} (c : Call) (h : SessionRel P g s)
    (hfit : s.fits c = true) (hcmd : ∀ cmd, c = .sendCommand cmd → P.KeepsStaging cmd s.imageLength) :
    SessionRel P (callHandler P g c).2.2 (s.step c) ∧
      ∀ e, s.status c = some e → (callHandler P g c).1 = e := by
  cases hc : c.isSession
  · obtain ⟨hstep, hstatus⟩ := Session.step_of_isSession_eq_false hc s
    obtain ⟨hctx, hexec, -, hmem⟩ := callHandler_frame P g hc
    rw [hstep, hstatus]
    refine ⟨sessionRel_of_readMem hctx ?_ hexec h, by simp⟩
    rcases hmem with hmem | ⟨cmd, rfl, hmem⟩
    · rw [hmem]
    · rw [hmem]
      exact hcmd cmd rfl g.mem g.env
  · cases c <;> simp [Call.isSession] at hc
    case startFirmwareUpdate cmd length =>
      obtain ⟨h₁, h₂⟩ := sessionRel_startFirmwareUpdate cmd length h
      exact ⟨h₁, by simp [h₂, callHandler]⟩
    case sendDataPacket data =>
      obtain ⟨h₁, h₂⟩ := sessionRel_sendDataPacket data h hfit
      exact ⟨h₁, by simp [h₂, callHandler]⟩

/-- A handler call raises `executeUpdate` exactly when it completes the
transfer, or finds it raised; no handler lowers it. -/
theorem callHandler_executeUpdate_iff {g : Globals} {s : Session} (c : Call) (h : SessionRel P g s)
    (hfit : s.fits c = true) :
    (callHandler P g c).2.2.executeUpdate = true ↔
      g.executeUpdate = true ∨ ∃ cmd image, s.step c = .done cmd image := by
  have hdone : ∀ cmd image, s = .done cmd image → g.executeUpdate = true := by
    rintro cmd image rfl
    exact h.2.1
  cases hc : c.isSession
  · rw [(callHandler_frame P g hc).2.1, (Session.step_of_isSession_eq_false hc s).1]
    exact ⟨.inl, fun h' => h'.elim id fun ⟨cmd, image, hs⟩ => hdone cmd image hs⟩
  · cases c <;> simp [Call.isSession] at hc
    case startFirmwareUpdate cmd length => simp [callHandler, startFirmwareUpdate]
    case sendDataPacket data =>
      cases s with
      | idle => simp_all [SessionRel, callHandler, sendDataPacket, Session.step]
      | done cmd image => simp_all [SessionRel, callHandler, sendDataPacket, Session.step]
      | active cmd length image =>
        have hfit' : image.length + data.length < 2 ^ 32 := by simpa [Session.fits] using hfit
        by_cases hL : length ≤ image.length + data.length <;>
          simp [-Nat.reducePow, SessionRel, callHandler, sendDataPacket, Session.step, h.1, hL,
            Nat.mod_eq_of_lt hfit']

/-! ## Whole runs -/

theorem sessionRel_run {g : Globals} {s : Session} {calls : List Call} (h : SessionRel P g s)
    (hfit : s.fitsRun calls = true)
    (hshell : ∀ cmd, .sendCommand cmd ∈ calls → P.KeepsStaging cmd (s.imageLength + packetBytes calls)) :
    SessionRel P (runCalls P g calls) (s.run calls) := by
  induction calls generalizing g s with
  | nil => exact h
  | cons c cs ih =>
    simp only [Session.fitsRun, Bool.and_eq_true] at hfit
    have hlen := Session.imageLength_step_le s c
    rw [packetBytes_cons] at hshell
    have hstep := sessionRel_step c h hfit.1 fun cmd hc =>
      (hshell cmd (by rw [hc]; exact List.mem_cons_self ..)).mono (by omega)
    exact ih hstep.1 hfit.2 fun cmd hcmd => (hshell cmd (List.mem_cons_of_mem _ hcmd)).mono (by omega)

theorem sessionRel_init (mem : Mem) (env : Env) : SessionRel P (Globals.init mem env) .idle := rfl

/-- From power-on, over any sequence of handler calls whose transfers stay
below `2 ^ 32` bytes and whose shell commands leave the staging buffer alone,
each call is answered as the spec's session answers it (in particular a start
reports `e_EC_UPDATE_ALREADY_IN_PROGRESS` exactly when a transfer is in
progress), and the globals after it stand for the spec's session: an active
transfer is the cursor at base plus the count of the bytes accepted since its
start, which are in memory from the base on; the first packet to reach the
declared length completes it, clearing `bUpdateInProgress` and raising
`executeUpdate` with the start's command and exactly those bytes staged; no
other call raises `executeUpdate`, and none lowers it. -/
theorem session_refinement (mem : Mem) (env : Env) (calls : List Call) (c : Call)
    (hfit : Session.idle.fitsRun (calls ++ [c]) = true)
    (hshell : ∀ cmd, .sendCommand cmd ∈ calls ++ [c] → P.KeepsStaging cmd (packetBytes (calls ++ [c]))) :
    SessionRel P (runCalls P (Globals.init mem env) (calls ++ [c])) (Session.idle.run (calls ++ [c])) ∧
      (∀ e, (Session.idle.run calls).status c = some e →
        (callHandler P (runCalls P (Globals.init mem env) calls) c).1 = e) ∧
      ((callHandler P (runCalls P (Globals.init mem env) calls) c).2.2.executeUpdate = true ↔
        (runCalls P (Globals.init mem env) calls).executeUpdate = true ∨
          ∃ cmd image, (Session.idle.run calls).step c = .done cmd image) := by
  rw [Session.fitsRun_append] at hfit
  simp only [Bool.and_eq_true, Session.fitsRun, Bool.and_true] at hfit
  have hrel := sessionRel_run (sessionRel_init mem env : SessionRel P _ _) hfit.1 fun cmd hcmd =>
    (hshell cmd (List.mem_append_left _ hcmd)).mono (by simp)
  have hlen : (Session.idle.run calls).imageLength ≤ packetBytes calls := by
    simpa using Session.imageLength_run_le .idle calls
  have hstep := sessionRel_step c hrel hfit.2 fun cmd hc =>
    (hshell cmd (by simp [hc])).mono (by rw [packetBytes_append, packetBytes_cons, packetBytes_nil]; omega)
  rw [runCalls_concat, Session.run_append]
  exact ⟨hstep.1, hstep.2, callHandler_executeUpdate_iff c hrel hfit.2⟩

/-- The scenario of the specification: `start("run commit", 4)` and one 4-byte
packet stage exactly that packet and complete the transfer. -/
theorem session_refinement_commit :
    Session.idle.fitsRun ([.startFirmwareUpdate "run commit" 4] ++ [.sendDataPacket [0xDE, 0xAD, 0xBE, 0xEF]])
        = true ∧
      (∀ cmd, .sendCommand cmd ∈ [Call.startFirmwareUpdate "run commit" 4] ++ [.sendDataPacket [0xDE, 0xAD, 0xBE, 0xEF]] →
        Platform.sample.KeepsStaging cmd
          (packetBytes ([.startFirmwareUpdate "run commit" 4] ++ [.sendDataPacket [0xDE, 0xAD, 0xBE, 0xEF]]))) ∧
      SessionRel Platform.sample
        (runCalls Platform.sample (Globals.init (fun _ => 0) (fun _ => none))
          ([.startFirmwareUpdate "run commit" 4] ++ [.sendDataPacket [0xDE, 0xAD, 0xBE, 0xEF]]))
        (Session.idle.run ([.startFirmwareUpdate "run commit" 4] ++ [.sendDataPacket [0xDE, 0xAD, 0xBE, 0xEF]])) :=
  ⟨by decide, fun _ h => by simp at h,
    (session_refinement (fun _ => 0) (fun _ => none) _ _ (by decide) fun _ h => by simp at h).1⟩

/-! ## What holds without the side condition -/

variable (P) in
/-- The session context in every reachable state: while a transfer is in
progress, its count is within its declared length and its cursor is the base
plus the count. -/
def CtxInv (ctx : FirmwareUpdateCtxt) : Prop :=
  ctx.bUpdateInProgress = true →
    ctx.bytesReceived ≤ ctx.length ∧ ctx.fwImageBase = P.ddr2Base ∧
      ctx.fwImagePtr = (P.ddr2Base + ctx.bytesReceived) % 2 ^ 32

theorem ctxInv_step {g : Globals} (c : Call) (h : CtxInv P g.fwUpdateCtxt) :
    CtxInv P (callHandler P g c).2.2.fwUpdateCtxt := by
  cases hc : c.isSession
  · rwa [(callHandler_frame P g hc).1]
  · cases c <;> simp [Call.isSession] at hc
    case startFirmwareUpdate cmd length =>
      simp [-Nat.reducePow, CtxInv, callHandler, startFirmwareUpdate, Nat.mod_eq_of_lt P.ddr2Base_lt]
    case sendDataPacket data =>
      simp only [CtxInv, callHandler, sendDataPacket] at h ⊢
      split
      · exact h
      · split
        · simp
        · simp_all only [Bool.not_eq_true', Bool.false_eq_true, not_false_eq_true, ge_iff_le,
            not_le, forall_const, true_and, true_implies]
          exact ⟨by omega, by omega⟩

theorem ctxInv_run (mem : Mem) (env : Env) (calls : List Call) :
    CtxInv P (runCalls P (Globals.init mem env) calls).fwUpdateCtxt := by
  suffices ∀ g, CtxInv P g.fwUpdateCtxt → CtxInv P (runCalls P g calls).fwUpdateCtxt from
    this _ (by simp [CtxInv, Globals.init])
  induction calls with
  | nil => exact fun _ h => h
  | cons c cs ih => exact fun g h => ih _ (ctxInv_step c h)

/-- `sendDataPacket` writes memory only inside a transfer in progress, and only
the `data.length` bytes from the cursor on. -/
theorem sendDataPacket_mem_ne {g : Globals} {data : List UInt8} {a : Nat}
    (h : (sendDataPacket g data).2.mem a ≠ g.mem a) :
    g.fwUpdateCtxt.bUpdateInProgress = true ∧ a < 2 ^ 32 ∧
      (a + 2 ^ 32 - g.fwUpdateCtxt.fwImagePtr) % 2 ^ 32 < data.length := by
  simp only [sendDataPacket] at h
  split at h
  · exact absurd rfl h
  · rename_i hprog
    have hcopy : memcpy g.mem g.fwUpdateCtxt.fwImagePtr data a ≠ g.mem a := by split at h <;> exact h
    exact ⟨by simpa using hprog, not_not.mp (mt memcpy_of_not_mem hcopy)⟩

/-- Eight bytes against a declared length of four: all eight are counted, and
the last of them lands past the end of the declared image. -/
theorem sendDataPacket_overruns_length :
    let g := runCalls Platform.sample (Globals.init (fun _ => 0) (fun _ => none))
      [.startFirmwareUpdate "run commit" 4, .sendDataPacket [1, 2, 3, 4, 5, 6, 7, 8]]
    g.fwUpdateCtxt.length < g.fwUpdateCtxt.bytesReceived ∧ g.mem (Platform.sample.ddr2Base + 7) = 8 := by
  decide

/-- In every reachable state a transfer in progress has received at most its
declared length. A packet that does not wrap the 32-bit count never lowers it,
and every byte its `memcpy` writes lies at the image base plus an index between
the old and the new count, inside the declared length unless the packet
completed the transfer. -/
theorem sendDataPacket_writes_within_session (mem : Mem) (env : Env) (calls : List Call) (data : List UInt8) :
    let g := runCalls P (Globals.init mem env) calls
    let g' := (sendDataPacket g data).2
    (g.fwUpdateCtxt.bUpdateInProgress = true → g.fwUpdateCtxt.bytesReceived ≤ g.fwUpdateCtxt.length) ∧
    (g.fwUpdateCtxt.bytesReceived + data.length < 2 ^ 32 →
      g.fwUpdateCtxt.bytesReceived ≤ g'.fwUpdateCtxt.bytesReceived ∧
      ∀ a, g'.mem a ≠ g.mem a → ∃ i, g.fwUpdateCtxt.bytesReceived ≤ i ∧ i < g'.fwUpdateCtxt.bytesReceived ∧
        a = (g.fwUpdateCtxt.fwImageBase + i) % 2 ^ 32 ∧
        (g'.fwUpdateCtxt.bUpdateInProgress = true → i < g.fwUpdateCtxt.length)) := by
  intro g g'
  have hinv : CtxInv P g.fwUpdateCtxt := ctxInv_run mem env calls
  refine ⟨fun hp => (hinv hp).1, fun hwrap => ?_⟩
  cases hp : g.fwUpdateCtxt.bUpdateInProgress
  · have hg' : g' = g := by simp [g', sendDataPacket, hp]
    rw [hg']
    exact ⟨le_rfl, fun a ha => absurd rfl ha⟩
  · obtain ⟨-, hbase, hptr⟩ := hinv hp
    obtain ⟨hb', hip'⟩ := sendDataPacket_fwUpdateCtxt g data hp
    rw [Nat.mod_eq_of_lt hwrap] at hb' hip'
    refine ⟨by rw [hb']; omega, fun a ha => ?_⟩
    obtain ⟨-, ha₁, ha₂⟩ := sendDataPacket_mem_ne ha
    rw [hb', hip', hbase]
    rw [hptr] at ha₂
    exact ⟨g.fwUpdateCtxt.bytesReceived + (a + 2 ^ 32 - (P.ddr2Base + g.fwUpdateCtxt.bytesReceived) % 2 ^ 32) % 2 ^ 32,
      Nat.le_add_right _ _, by omega, by omega, fun _ => by omega⟩

/-- A four-byte transfer in two packets: the second packet's bytes are the
ones from count 2 to count 4. -/
theorem sendDataPacket_writes_within_session_halves :
    let g := runCalls Platform.sample (Globals.init (fun _ => 0) (fun _ => none))
      [.startFirmwareUpdate "run commit" 4, .sendDataPacket [1, 2]]
    let g' := (sendDataPacket g [3, 4]).2
    g.fwUpdateCtxt.bytesReceived + [3, 4].length < 2 ^ 32 ∧
      g.fwUpdateCtxt.bytesReceived ≤ g'.fwUpdateCtxt.bytesReceived ∧
      ∀ a, g'.mem a ≠ g.mem a → ∃ i, g.fwUpdateCtxt.bytesReceived ≤ i ∧ i < g'.fwUpdateCtxt.bytesReceived ∧
        a = (g.fwUpdateCtxt.fwImageBase + i) % 2 ^ 32 ∧
        (g'.fwUpdateCtxt.bUpdateInProgress = true → i < g.fwUpdateCtxt.length) :=
  ⟨by decide, (sendDataPacket_writes_within_session _ _ _ _).2 (by decide)⟩

end RevolverBoot
