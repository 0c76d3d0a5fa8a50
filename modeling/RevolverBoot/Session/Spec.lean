import RevolverBoot.Model.Handlers

/-!
# RevolverBoot — the update session of the specification

The session of §4.1 of the specification as a machine of its own, over whole
values instead of a buffer cursor: a transfer in progress holds its command,
its declared length and the image received so far. A start begins a new
transfer whatever was going on (the prior one is superseded, its bytes
dropped); a packet extends the image, and the first packet that brings the
image to the declared length completes the transfer, which then awaits
execution. A packet outside a transfer is refused.

The spec's image is unbounded; the code counts in 32 bits. `fitsRun` is the
side condition under which the two agree: every packet keeps its session's
image below `2 ^ 32` bytes.

The update service (`serve`) adds the executor: a transfer is executed as soon
as the call that completes it is answered, and the session is idle again.
`serveRun_transfer` computes a whole transfer: a start, then packets whose
total first reaches the declared length at the last one, executed once.
-/

namespace RevolverBoot

/-- The update session of the specification. -/
inductive Session
  | idle
  | active (cmd : String) (length : Nat) (image : List UInt8)
  /-- complete, awaiting execution -/
  | done (cmd : String) (image : List UInt8)
  deriving DecidableEq, Repr

/-- The bytes a call carries as packet data. -/
def Call.dataLength : Call → Nat
  | .sendDataPacket data => data.length
  | _ => 0

/-- The packet data of a sequence of calls, in bytes. -/
def packetBytes (calls : List Call) : Nat := (calls.map Call.dataLength).sum

@[simp] theorem packetBytes_nil : packetBytes [] = 0 := rfl

@[simp] theorem packetBytes_cons (c : Call) (cs : List Call) :
    packetBytes (c :: cs) = c.dataLength + packetBytes cs := by
  simp [packetBytes]

@[simp] theorem packetBytes_append (xs ys : List Call) : packetBytes (xs ++ ys) = packetBytes xs + packetBytes ys := by
  simp [packetBytes]

namespace Session

/-- What a call does to the session. -/
def step : Session → Call → Session
  | _, .startFirmwareUpdate cmd length => .active cmd length.toNat []
  | .active cmd length image, .sendDataPacket data =>
    if length ≤ (image ++ data).length then .done cmd (image ++ data) else .active cmd length (image ++ data)
  | s, _ => s

/-- The result the specification gives a session call. -/
def status : Session → Call → Option ErrorCode
  | .active .., .startFirmwareUpdate .. => some .updateAlreadyInProgress
  | _, .startFirmwareUpdate .. => some .success
  | .active .., .sendDataPacket _ => some .success
  | _, .sendDataPacket _ => some .updateNotInProgress
  | _, _ => none

/-- The session after a sequence of calls. -/
def run (s : Session) (calls : List Call) : Session := calls.foldl step s

/-- The call keeps the image of a transfer in progress below `2 ^ 32` bytes. -/
def fits : Session → Call → Bool
  | .active _ _ image, .sendDataPacket data => decide (image.length + data.length < 2 ^ 32)
  | _, _ => true

/-- Every call of the sequence fits. -/
def fitsRun : Session → List Call → Bool
  | _, [] => true
  | s, c :: cs => s.fits c && fitsRun (s.step c) cs

@[simp] theorem run_nil (s : Session) : s.run [] = s := rfl

@[simp] theorem run_cons (s : Session) (c : Call) (cs : List Call) : s.run (c :: cs) = (s.step c).run cs := rfl

theorem run_append (s : Session) (xs ys : List Call) : s.run (xs ++ ys) = (s.run xs).run ys :=
  List.foldl_append ..

theorem fitsRun_append (s : Session) (xs ys : List Call) :
    s.fitsRun (xs ++ ys) = (s.fitsRun xs && (s.run xs).fitsRun ys) := by
  induction xs generalizing s with
  | nil => simp [fitsRun]
  | cons c cs ih => simp [fitsRun, ih, Bool.and_assoc]

/-- Calls outside the session neither move it nor get a session result. -/
theorem step_of_isSession_eq_false {c : Call} (hc : c.isSession = false) (s : Session) :
    s.step c = s ∧ s.status c = none := by
  cases c <;> cases s <;> simp_all [Call.isSession, step, status]

/-- A start supersedes whatever was in progress: the new transfer starts empty. -/
@[simp] theorem step_start (s : Session) (cmd : String) (length : UInt32) :
    s.step (.startFirmwareUpdate cmd length) = .active cmd length.toNat [] := by
  cases s <;> rfl

/-- Only an idle session stays idle: a call never abandons a transfer. -/
theorem eq_idle_of_step {s : Session} {c : Call} (h : s.step c = .idle) : s = .idle := by
  cases s with
  | idle => rfl
  | active =>
    cases c <;> simp only [step, reduceCtorEq] at h
    split at h <;> cases h
  | done => cases c <;> simp only [step, reduceCtorEq] at h

/-! ## The update service

The dispatcher hands a completed transfer to the executor right after the call
that completed it is answered, and the session is then back to idle: "destroyed
(reset to idle) either when execution finishes or when a new start call
overwrites it". -/

/-- One call to the update service: the session moves, and a transfer the call
completes is executed at once, the session returning to idle. The second
component is what the executor is handed: the transfer's command and image. -/
def serve (s : Session) (c : Call) : Session × List (String × List UInt8) :=
  match s.step c with
  | .done cmd image => (.idle, [(cmd, image)])
  | s' => (s', [])

/-- The service over a sequence of calls: the session it ends in, and the
transfers it executed, in order. -/
def serveRun : Session → List Call → Session × List (String × List UInt8)
  | s, [] => (s, [])
  | s, c :: cs =>
    let r := (s.serve c).1.serveRun cs
    (r.1, (s.serve c).2 ++ r.2)

/-- Every call fits, along the service's run. -/
def serveFits : Session → List Call → Bool
  | _, [] => true
  | s, c :: cs => s.fits c && (s.serve c).1.serveFits cs

@[simp] theorem fits_start (s : Session) (cmd : String) (length : UInt32) :
    s.fits (.startFirmwareUpdate cmd length) = true := by
  cases s <;> rfl

@[simp] theorem serve_start (s : Session) (cmd : String) (length : UInt32) :
    s.serve (.startFirmwareUpdate cmd length) = (active cmd length.toNat [], []) := by
  simp [serve]

theorem serveRun_singleton (s : Session) (c : Call) : s.serveRun [c] = s.serve c := by
  simp [serveRun]

theorem serveRun_append (s : Session) (xs ys : List Call) :
    s.serveRun (xs ++ ys) =
      (((s.serveRun xs).1.serveRun ys).1, (s.serveRun xs).2 ++ ((s.serveRun xs).1.serveRun ys).2) := by
  induction xs generalizing s with
  | nil => simp [serveRun]
  | cons c cs ih => simp [serveRun, ih]

theorem serveFits_append (s : Session) (xs ys : List Call) :
    s.serveFits (xs ++ ys) = (s.serveFits xs && (s.serveRun xs).1.serveFits ys) := by
  induction xs generalizing s with
  | nil => simp [serveFits, serveRun]
  | cons c cs ih => simp [serveFits, serveRun, ih, Bool.and_assoc]

/-- Packets that keep a transfer below its declared length extend its image
and execute nothing. -/
theorem serveRun_packets {cmd : String} {length : Nat} {image : List UInt8} {packets : List (List UInt8)}
    (h : image.length + packets.flatten.length < length) :
    (active cmd length image).serveRun (packets.map .sendDataPacket) = (active cmd length (image ++ packets.flatten), []) := by
  induction packets generalizing image with
  | nil => simp [serveRun]
  | cons data packets ih =>
    simp only [List.flatten_cons, List.length_append] at h
    have hstep : (active cmd length image).serve (.sendDataPacket data) = (active cmd length (image ++ data), []) := by
      simp only [serve, step, List.length_append, if_neg (by omega : ¬length ≤ image.length + data.length)]
    have hrest := @ih (image ++ data) (by simp only [List.length_append]; omega)
    simp only [List.map_cons, serveRun, hstep, hrest, List.nil_append, List.flatten_cons, List.append_assoc]

/-- A start followed by packets whose total first reaches the declared length
at the last one is executed once, on the start's command and the packets end to
end, whatever session it supersedes. -/
theorem serveRun_transfer (s : Session) (cmd : String) (length : UInt32) (packets : List (List UInt8))
    (last : List UInt8) (hbefore : packets.flatten.length < length.toNat)
    (hdone : length.toNat ≤ packets.flatten.length + last.length) :
    s.serveRun (.startFirmwareUpdate cmd length :: (packets ++ [last]).map .sendDataPacket) =
      (.idle, [(cmd, packets.flatten ++ last)]) := by
  have hlast : (active cmd length.toNat packets.flatten).serve (.sendDataPacket last) =
      (.idle, [(cmd, packets.flatten ++ last)]) := by
    simp only [serve, step, List.length_append, if_pos hdone]
  simp only [serveRun, serve_start, List.map_append, serveRun_append,
    serveRun_packets (by simpa using hbefore : ([] : List UInt8).length + packets.flatten.length < length.toNat),
    List.nil_append, List.map_cons, List.map_nil, hlast]
  rfl

/-! ## A budget for the side condition -/

/-- The bytes a session has staged: the image of a transfer in progress, or
of a completed one awaiting execution. -/
def imageLength : Session → Nat
  | .active _ _ image | .done _ image => image.length
  | .idle => 0

@[simp] theorem imageLength_idle : idle.imageLength = 0 := rfl

theorem imageLength_step_le (s : Session) (c : Call) : (s.step c).imageLength ≤ s.imageLength + c.dataLength := by
  cases c <;> cases s <;> simp only [step, Call.dataLength, step_start]
  all_goals first
    | split_ifs <;> simp [imageLength]
    | simp [imageLength]

theorem imageLength_serve_le (s : Session) (c : Call) : (s.serve c).1.imageLength ≤ s.imageLength + c.dataLength := by
  have h := imageLength_step_le s c
  simp only [serve]
  split
  · exact Nat.zero_le _
  · assumption

theorem imageLength_run_le (s : Session) (calls : List Call) :
    (s.run calls).imageLength ≤ s.imageLength + packetBytes calls := by
  induction calls generalizing s with
  | nil => simp
  | cons c cs ih =>
    have := imageLength_step_le s c
    have := ih (s.step c)
    simp only [run_cons, packetBytes_cons]
    omega

/-- A run fits when its packets, with the image already received, stay below
`2 ^ 32` bytes. -/
theorem serveFits_of_packetBytes {s : Session} {calls : List Call}
    (h : s.imageLength + packetBytes calls < 2 ^ 32) : s.serveFits calls = true := by
  induction calls generalizing s with
  | nil => rfl
  | cons c cs ih =>
    rw [packetBytes_cons] at h
    have hstep := imageLength_serve_le s c
    have hfits : s.fits c = true := by
      cases c <;> cases s <;> try rfl
      simp only [imageLength, Call.dataLength] at h
      exact decide_eq_true (by omega)
    simp only [serveFits, hfits, ih (by omega : (s.serve c).1.imageLength + packetBytes cs < 2 ^ 32), Bool.and_self]

end Session

end RevolverBoot
