import RevolverBoot.Boot.Window

/-!
# RevolverBoot — every frame is answered in turn

Both mailbox loops read a frame, hand it on and write one response before
they read again. A frame of a class nobody serves is answered
`e_EC_INVALID_SERVICE_CODE`, never dropped, and neither the unmarshaller nor
a handler touches the mailbox. Over the trace: the mailbox log, the frames
read and the responses written in order, is a sequence of exchanges, each a
frame followed by its response.

`DoFirmwareUpdate` leaves its loop only where a blocking read fails, so it
serves every frame the mailbox delivers up to that read.

## Results

* `dispatchRequest_exchange` — one frame of the update loop.
* `pollWindow_answersInTurn`, `doFirmwareUpdate_answersInTurn` — the two
  loops; the update loop serves every frame up to the first failed read.
* `checkFirmwareUpdate_answers_in_turn` — every run from power-on.
-/

namespace RevolverBoot

/-! ## The mailbox log -/

/-- What a trace records of the mailbox, in order: each frame read (`inl`)
and each response written, with the length it was written with (`inr`). -/
def mailboxLog (trace : List Event) : List (Request ⊕ Response × Nat) :=
  trace.flatMap fun
    | .received req => [.inl req]
    | .sent response length => [.inr (response, length)]
    | _ => []

@[simp] theorem mailboxLog_append (xs ys : List Event) :
    mailboxLog (xs ++ ys) = mailboxLog xs ++ mailboxLog ys :=
  List.flatMap_append ..

/-- Events that neither read a frame nor write a response leave no mark on
the mailbox log. -/
theorem mailboxLog_of_quiet {es : List Event} (hr : receivedRequests es = []) (hs : sentStatuses es = []) :
    mailboxLog es = [] := by
  induction es with
  | nil => rfl
  | cons e es ih =>
    rw [← List.singleton_append, receivedRequests_append, List.append_eq_nil] at hr
    rw [← List.singleton_append, sentStatuses_append, List.append_eq_nil] at hs
    rw [← List.singleton_append, mailboxLog_append, ih hr.2 hs.2, List.append_nil]
    cases e <;> first
      | rfl
      | exact absurd hr.1 (List.cons_ne_nil _ _)
      | exact absurd hs.1 (List.cons_ne_nil _ _)

/-- A mailbox log that read `frames` in order and answered each with one
response before it read the next; no response was written unasked. -/
def Serves (frames : List Request) (log : List (Request ⊕ Response × Nat)) : Prop :=
  ∃ answers : List (Response × Nat), answers.length = frames.length ∧
    log = (frames.zip answers).flatMap fun x => [.inl x.1, .inr x.2]

theorem Serves.nil : Serves [] [] := ⟨[], rfl, rfl⟩

theorem Serves.append {f₁ f₂ : List Request} {l₁ l₂ : List (Request ⊕ Response × Nat)} (h₁ : Serves f₁ l₁)
    (h₂ : Serves f₂ l₂) : Serves (f₁ ++ f₂) (l₁ ++ l₂) := by
  obtain ⟨a₁, hlen₁, rfl⟩ := h₁
  obtain ⟨a₂, hlen₂, rfl⟩ := h₂
  refine ⟨a₁ ++ a₂, by simp [hlen₁, hlen₂], ?_⟩
  rw [List.zip_append hlen₁.symm, List.flatMap_append]

/-- One frame read, handed on and answered. -/
theorem mailboxLog_exchange {req : Request} {es : List Event} (response : Response) (length : Nat)
    (hr : receivedRequests es = []) (hs : sentStatuses es = []) :
    Serves [req] (mailboxLog ([.received req] ++ es ++ [.sent response length])) := by
  rw [mailboxLog_append, mailboxLog_append, mailboxLog_of_quiet hr hs]
  exact ⟨[(response, length)], rfl, rfl⟩

/-! ## Stretches of a run -/

/-- The code went from `g` to `g'` and what it appended to the trace read
`frames` and answered each in turn. -/
def AnswersInTurn (g g' : Globals) (frames : List Request) : Prop :=
  ∃ es, g'.trace = g.trace ++ es ∧ Serves frames (mailboxLog es)

theorem AnswersInTurn.refl (g : Globals) : AnswersInTurn g g [] := ⟨[], by simp, Serves.nil⟩

theorem AnswersInTurn.trans {g₁ g₂ g₃ : Globals} {f₁ f₂ : List Request} (h₁ : AnswersInTurn g₁ g₂ f₁)
    (h₂ : AnswersInTurn g₂ g₃ f₂) : AnswersInTurn g₁ g₃ (f₁ ++ f₂) := by
  obtain ⟨es₁, htr₁, hs₁⟩ := h₁
  obtain ⟨es₂, htr₂, hs₂⟩ := h₂
  exact ⟨es₁ ++ es₂, by rw [htr₂, htr₁, List.append_assoc], by rw [mailboxLog_append]; exact hs₁.append hs₂⟩

/-- A step that appends nothing the mailbox log sees. -/
theorem answersInTurn_of_quiet {g g' : Globals} {es : List Event} (htr : g'.trace = g.trace ++ es)
    (hq : mailboxLog es = []) : AnswersInTurn g g' [] :=
  ⟨es, htr, hq ▸ Serves.nil⟩

/-! ## One frame -/

/-- Steps 2–3 of the update loop read the frame, hand it on and write one
response, whatever its class. -/
theorem dispatchRequest_exchange (P : Platform) (g : Globals) (req : Request) :
    let d := dispatchRequest (unmarshal P) P.getPayloadOffsetResp g req
    ∃ es, d.trace = g.trace ++ ([.received req] ++ es ++ [.sent d.response d.response.length]) ∧
      receivedRequests es = [] ∧ sentStatuses es = [] := by
  obtain ⟨es, htr, hrecv, hsent⟩ := unmarshal_exchanges P req (g.emit [.received req])
  cases hcc : req.classCode
  case other => exact ⟨[], by simp [dispatchRequest, hcc], rfl, rfl⟩
  all_goals exact ⟨es, by simp [dispatchRequest, hcc, htr], hrecv, hsent⟩

/-- Step 4 runs the update and posts its event, away from the mailbox. -/
theorem runPendingUpdate_answersInTurn (P : Platform) (g : Globals) :
    AnswersInTurn g (runPendingUpdate P g) [] := by
  obtain ⟨-, hquiet, hrun⟩ := runPendingUpdate_exec P g
  cases hg : g.executeUpdate
  · exact ⟨[], by rw [hquiet hg, List.append_nil], Serves.nil⟩
  · obtain ⟨st, tail, htail, htr⟩ := hrun hg
    rw [List.append_assoc] at htr
    exact answersInTurn_of_quiet htr (by rcases htail with rfl | rfl <;> rfl)

theorem dispatchIteration_answersInTurn (P : Platform) (g : Globals) (req : Request) :
    AnswersInTurn g (dispatchIteration P g req) [req] := by
  obtain ⟨es, htr, hrecv, hsent⟩ := dispatchRequest_exchange P g req
  exact AnswersInTurn.trans ⟨_, htr, mailboxLog_exchange _ _ hrecv hsent⟩ (runPendingUpdate_answersInTurn P _)

theorem pollAttempt_answersInTurn (P : Platform) (g : Globals) (o : Option Request) :
    AnswersInTurn g (pollAttempt P g o).1 [o].reduceOption := by
  cases o with
  | none => exact AnswersInTurn.refl g
  | some req =>
    obtain ⟨es, htr, hrecv, hsent, -, -⟩ := pollRequest_exchange P g req
    exact ⟨_, htr, mailboxLog_exchange _ _ hrecv hsent⟩

/-! ## Whole runs -/

/-- The window with `n` attempts left reads the frames among the reads it
consumes, and answers each in turn. -/
theorem pollWindow_answersInTurn (P : Platform) (n : Nat) (g : Globals) (reads : List (Option Request)) :
    let w := pollWindow P n g reads
    ∃ k ≤ n, w.2 = reads.drop k ∧ (k = n ∨ reads.length ≤ k ∨ ∃ g₀ o, pollAttempt P g₀ o = (w.1, true)) ∧
      AnswersInTurn g w.1 (reads.take k).reduceOption :=
  pollWindow_rel P (R := fun g g' c => AnswersInTurn g g' c.reduceOption) AnswersInTurn.refl
    (pollAttempt_answersInTurn P)
    (fun g o _ c _ h => by
      have hrun := (pollAttempt_answersInTurn P g o).trans h
      rwa [← List.reduceOption_append] at hrun)
    n g reads

/-- The update loop reads every frame up to the first failed read. -/
theorem doFirmwareUpdate_answersInTurn (P : Platform) (g : Globals) (reads : List (Option Request)) :
    AnswersInTurn g (doFirmwareUpdate P g reads) (reads.takeWhile Option.isSome).reduceOption := by
  induction reads generalizing g with
  | nil => exact AnswersInTurn.refl g
  | cons o reads ih =>
    cases o with
    | none => exact AnswersInTurn.refl g
    | some req => exact (dispatchIteration_answersInTurn P g req).trans (ih _)

/-- Every run from power-on, for every probe value and every mailbox: it reads
the frames among the window's first `k ≤ 4` reads, fewer than four only when
the mailbox runs out or the window's last answer was `e_EC_SUCCESS`, and, once
in update mode, every frame up to the first failed read; it answers each with
one response, written before the next frame is read, and writes no response
unasked. -/
theorem checkFirmwareUpdate_answers_in_turn (P : Platform) (readValue : UInt16) (mem : Mem) (env : Env)
    (reads : List (Option Request)) :
    let w := pollWindow P 4 ((Globals.init mem env).emit icapProbe) reads
    let r := checkFirmwareUpdate P readValue (Globals.init mem env) reads
    ∃ k ≤ 4, (k = 4 ∨ reads.length ≤ k ∨ (sentStatuses w.1.trace).getLast? = some .success) ∧
      Serves ((reads.take k).reduceOption ++
        if r.1 = .update then ((reads.drop k).takeWhile Option.isSome).reduceOption else []) (mailboxLog r.2.trace) := by
  obtain ⟨k, hk, hd, hext, hw⟩ := pollWindow_answersInTurn P 4 ((Globals.init mem env).emit icapProbe) reads
  have hprobe : AnswersInTurn (Globals.init mem env) ((Globals.init mem env).emit icapProbe) [] :=
    answersInTurn_of_quiet rfl rfl
  have hrun := hprobe.trans hw
  have hloop := hrun.trans
    (doFirmwareUpdate_answersInTurn P _ (pollWindow P 4 ((Globals.init mem env).emit icapProbe) reads).2)
  rw [List.nil_append] at hrun hloop
  rw [hd] at hloop
  refine ⟨k, hk, hext.imp_right (Or.imp_right fun ⟨_, _, h⟩ => pollAttempt_breaks P h), ?_⟩
  rcases checkFirmwareUpdate_cases P readValue (Globals.init mem env) reads with ⟨hu, hr⟩ | ⟨hu, hr⟩
  · obtain ⟨es, htr, hs⟩ := hloop
    rw [if_pos hu, hr, hd, htr]
    exact hs
  · obtain ⟨es, htr, hs⟩ := hrun
    rw [if_neg hu, hr, htr, List.append_nil]
    exact hs

end RevolverBoot
