import RevolverBoot.Bridge.Command

/-!
# RevolverBoot — the MTD bridge: chunked transfers

`mtd_bridge_write` and `mtd_bridge_read` move a caller's buffer to or from
the Flash in chunks of at most `MTDBRIDGE_BUFFER_SIZE` bytes, one bridge
command per chunk, through the mailbox RAM. The copies run in 32-bit words,
`(next_len + 3) >> 2` of them per chunk, with `word_ptr` advancing through
the caller's buffer. Both loops stop at the first command that returns
nonzero.

The chunks are stated against the specification's layout (`chunkPlan`), and
what a loop did is a `ChunkRun` of that layout: a prefix of it, each command
but the last answered 0, and the loop's result the last command's status.

Each chunk copies whole words, so a length that is not a multiple of 4 has
its last word reach past the caller's buffer: up to three bytes beyond
`buf[len)` are loaded by `mtd_bridge_write` and stored by `mtd_bridge_read`
(`mtdBridge_word_overrun`). Every access stays below `len` rounded up to a
word (`mtdBridge_bufAccess_lt`).

## Results

* `copyIn_eq`, `copyOut_eq` — the word loops, in closed form.
* `mtdBridgeWriteLoop_spec`, `mtdBridgeReadLoop_spec` — the chunk loops, by
  induction on the bytes left.
* `mtdBridge_chunk_loops` — both loops against the chunk layout, with the
  data each command carries or brings back.
* `mtdBridge_word_overrun` — a one-byte transfer touches four bytes.
* `mtdBridge_register_reads` — a transfer reads each register at most 501
  times per chunk.
* `mtdBridgeWrite_sends_buffer` — a write that returns 0 sent the caller's
  bytes end to end.
-/

namespace RevolverBoot

/-! ## Word transfers -/

/-- One 32-bit transfer between byte maps: the four bytes of `src` from `i`
land in `dst` from `j`. -/
def moveWord (src dst : Nat → UInt8) (i j : Nat) : Nat → UInt8 := fun a =>
  if j ≤ a ∧ a < j + 4 then src (i + (a - j)) else dst a

/-- The bytes of the caller's buffer a word transfer at byte `p` touches. -/
def wordBytes (p : Nat) : List Nat := (List.range 4).map (p + ·)

/-- `for (word_index = 0; word_index < word_len; word_index++) { MTDBRIDGE_WRITE(buf_offset, *word_ptr++);
buf_offset += 4; }` with `n` words left, `word_ptr` at byte `p` of the buffer and
`buf_offset` at byte `q` of the mailbox RAM. -/
def copyIn : BridgeState → (p q n : Nat) → BridgeState
  | s, _, _, 0 => s
  | s, p, q, n + 1 =>
    copyIn { s with ram := moveWord s.buf s.ram p q, bufAccess := s.bufAccess ++ wordBytes p } (p + 4) (q + 4) n

/-- `for (word_index = 0; word_index < word_len; word_index++) { *word_ptr++ = MTDBRIDGE_READ(buf_offset);
buf_offset += 4; }`, likewise. -/
def copyOut : BridgeState → (p q n : Nat) → BridgeState
  | s, _, _, 0 => s
  | s, p, q, n + 1 =>
    copyOut { s with buf := moveWord s.ram s.buf q p, bufAccess := s.bufAccess ++ wordBytes p } (p + 4) (q + 4) n

private theorem map_range_four_mul_succ (p n : Nat) :
    (List.range (4 * (n + 1))).map (p + ·) = wordBytes p ++ (List.range (4 * n)).map (p + 4 + ·) := by
  rw [show 4 * (n + 1) = 4 + 4 * n by omega, List.range_add]
  simp [wordBytes, Function.comp_def, Nat.add_assoc]

/-- `n` words in: the RAM from `q` holds the buffer from `p`, and the buffer's
bytes `[p, p + 4n)` were read. -/
theorem copyIn_eq (s : BridgeState) (p q n : Nat) :
    copyIn s p q n = { s with
      ram := fun a => if q ≤ a ∧ a < q + 4 * n then s.buf (p + (a - q)) else s.ram a
      bufAccess := s.bufAccess ++ (List.range (4 * n)).map (p + ·) } := by
  induction n generalizing s p q with
  | zero =>
    cases s
    simp only [copyIn, BridgeState.mk.injEq, true_and, Nat.mul_zero, List.range_zero, List.map_nil,
      List.append_nil, and_true]
    exact funext fun a => (if_neg (by omega)).symm
  | succ n ih =>
    rw [copyIn, ih, map_range_four_mul_succ, ← List.append_assoc]
    congr 1
    funext a
    simp only [moveWord]
    split_ifs <;> first | rfl | omega | (congr 1; omega)

/-- `n` words out: the buffer from `p` holds the RAM from `q`, and its bytes
`[p, p + 4n)` were written. -/
theorem copyOut_eq (s : BridgeState) (p q n : Nat) :
    copyOut s p q n = { s with
      buf := fun a => if p ≤ a ∧ a < p + 4 * n then s.ram (q + (a - p)) else s.buf a
      bufAccess := s.bufAccess ++ (List.range (4 * n)).map (p + ·) } := by
  induction n generalizing s p q with
  | zero =>
    cases s
    simp only [copyOut, BridgeState.mk.injEq, true_and, Nat.mul_zero, List.range_zero, List.map_nil,
      List.append_nil, and_true]
    exact funext fun a => (if_neg (by omega)).symm
  | succ n ih =>
    rw [copyOut, ih, map_range_four_mul_succ, ← List.append_assoc]
    congr 1
    funext a
    simp only [moveWord]
    split_ifs <;> first | rfl | omega | (congr 1; omega)

/-! ## The chunk loops -/

/-- The loop of `mtd_bridge_write`, at Flash byte `offset` with `lenRem` bytes
left, `word_ptr` at byte `p` of the buffer and `rc` the last status. -/
def mtdBridgeWriteLoop (B : Bridge) (offset lenRem p : Nat) (rc : UInt32) (s : BridgeState) :
    UInt32 × BridgeState :=
  if h : rc = 0 ∧ 0 < lenRem then
    let nextLen := if lenRem > mtdBridgeBufferSize then mtdBridgeBufferSize else lenRem
    let wordLen := (nextLen + 3) >>> 2
    let r := mtdBridgeCmd B (copyIn s p 0 wordLen) offset nextLen mtdBridgeOpcodeWrite
    mtdBridgeWriteLoop B ((offset + nextLen) % 2 ^ 32) (lenRem - nextLen) (p + 4 * wordLen) r.1 r.2
  else (rc, s)
termination_by lenRem
decreasing_by
  simp only [mtdBridgeBufferSize] at *
  split <;> omega

/-- `mtd_bridge_write(flash, offset, len, buf)`, with the buffer in `s.buf`. -/
def mtdBridgeWrite (B : Bridge) (s : BridgeState) (offset : UInt32) (len : Nat) : UInt32 × BridgeState :=
  mtdBridgeWriteLoop B offset.toNat len 0 0 s

/-- The loop of `mtd_bridge_read`; `word_ptr` advances only past a chunk that
was copied out. -/
def mtdBridgeReadLoop (B : Bridge) (offset lenRem p : Nat) (rc : UInt32) (s : BridgeState) :
    UInt32 × BridgeState :=
  if h : rc = 0 ∧ 0 < lenRem then
    let nextLen := if lenRem > mtdBridgeBufferSize then mtdBridgeBufferSize else lenRem
    let r := mtdBridgeCmd B s offset nextLen mtdBridgeOpcodeRead
    let wordLen := (nextLen + 3) >>> 2
    if r.1 = 0 then
      mtdBridgeReadLoop B ((offset + nextLen) % 2 ^ 32) (lenRem - nextLen) (p + 4 * wordLen) r.1
        (copyOut r.2 p 0 wordLen)
    else mtdBridgeReadLoop B ((offset + nextLen) % 2 ^ 32) (lenRem - nextLen) p r.1 r.2
  else (rc, s)
termination_by lenRem
decreasing_by
  all_goals simp only [mtdBridgeBufferSize] at *
  all_goals split <;> omega

/-- `mtd_bridge_read(flash, offset, len, buf)`, into `s.buf`. -/
def mtdBridgeRead (B : Bridge) (s : BridgeState) (offset : UInt32) (len : Nat) : UInt32 × BridgeState :=
  mtdBridgeReadLoop B offset.toNat len 0 0 s

theorem mtdBridgeWriteLoop_of_not {B : Bridge} {offset lenRem p : Nat} {rc : UInt32} {s : BridgeState}
    (h : ¬(rc = 0 ∧ 0 < lenRem)) : mtdBridgeWriteLoop B offset lenRem p rc s = (rc, s) := by
  rw [mtdBridgeWriteLoop, dif_neg h]

theorem mtdBridgeReadLoop_of_not {B : Bridge} {offset lenRem p : Nat} {rc : UInt32} {s : BridgeState}
    (h : ¬(rc = 0 ∧ 0 < lenRem)) : mtdBridgeReadLoop B offset lenRem p rc s = (rc, s) := by
  rw [mtdBridgeReadLoop, dif_neg h]

/-- The size of the next chunk, `min 2048 lenRem`, and its words. -/
private theorem nextLen_eq (lenRem : Nat) :
    (if lenRem > mtdBridgeBufferSize then mtdBridgeBufferSize else lenRem) = min 2048 lenRem ∧
      (min 2048 lenRem + 3) >>> 2 = (min 2048 lenRem + 3) / 4 := by
  refine ⟨?_, Nat.shiftRight_eq_div_pow _ _⟩
  simp only [mtdBridgeBufferSize]
  split <;> omega

@[simp] theorem copyIn_commands (s : BridgeState) (p q n : Nat) : (copyIn s p q n).commands = s.commands := by
  rw [copyIn_eq]

@[simp] theorem copyIn_buf (s : BridgeState) (p q n : Nat) : (copyIn s p q n).buf = s.buf := by
  rw [copyIn_eq]

@[simp] theorem copyOut_commands (s : BridgeState) (p q n : Nat) : (copyOut s p q n).commands = s.commands := by
  rw [copyOut_eq]

theorem copyIn_ram_of_lt (s : BridgeState) (p n a : Nat) (h : a < 4 * n) : (copyIn s p 0 n).ram a = s.buf (p + a) := by
  rw [copyIn_eq]
  exact if_pos ⟨Nat.zero_le a, by omega⟩

theorem copyOut_buf_of_mem (s : BridgeState) (p n a : Nat) (h : p ≤ a ∧ a < p + 4 * n) :
    (copyOut s p 0 n).buf a = s.ram (a - p) := by
  rw [copyOut_eq]
  exact (if_pos h).trans (by rw [Nat.zero_add])

theorem copyOut_buf_of_lt (s : BridgeState) (p n a : Nat) (h : a < p) : (copyOut s p 0 n).buf a = s.buf a := by
  rw [copyOut_eq]
  exact if_neg (by omega)

/-- One chunk of `mtd_bridge_write`: `n` bytes of the buffer from `p` go to the
mailbox RAM in whole words, and one write command carries them. -/
theorem writeChunk_spec (B : Bridge) (s : BridgeState) (offset p n : Nat) :
    let r := mtdBridgeCmd B (copyIn s p 0 ((n + 3) / 4)) offset n mtdBridgeOpcodeWrite
    ∃ c : BridgeCommand, r.2.commands = s.commands ++ [c] ∧ (c.offset, c.len) = (offset, n) ∧
      c.opcode = mtdBridgeOpcodeWrite ∧ c.sent = readBytes s.buf p n ∧ c.rc = r.1 ∧ r.2.buf = s.buf ∧
      r.2.bufAccess = s.bufAccess ++ (List.range (4 * ((n + 3) / 4))).map (p + ·) := by
  refine ⟨⟨offset, n, mtdBridgeOpcodeWrite, readBytes (copyIn s p 0 ((n + 3) / 4)).ram 0 n,
      readBytes (B.serve s.commands.length (copyIn s p 0 ((n + 3) / 4)).ram) 0 n,
      (mtdBridgeCmd B (copyIn s p 0 ((n + 3) / 4)) offset n mtdBridgeOpcodeWrite).1⟩,
    by rw [mtdBridgeCmd_commands, copyIn_commands], rfl, rfl, readBytes_congr fun i hi => ?_, rfl, copyIn_buf ..,
    by simp [copyIn_eq]⟩
  rw [Nat.zero_add]
  exact copyIn_ram_of_lt s p _ _ (by omega)

/-- One command of `mtd_bridge_read`: it brings back the first `n` bytes of
the RAM the bridge served. -/
theorem readChunk_spec (B : Bridge) (s : BridgeState) (offset n : Nat) :
    let r := mtdBridgeCmd B s offset n mtdBridgeOpcodeRead
    ∃ c : BridgeCommand, r.2.commands = s.commands ++ [c] ∧ (c.offset, c.len) = (offset, n) ∧
      c.opcode = mtdBridgeOpcodeRead ∧ c.reply = readBytes r.2.ram 0 n ∧ c.rc = r.1 ∧ r.2.buf = s.buf ∧
      r.2.bufAccess = s.bufAccess :=
  ⟨_, rfl, rfl, rfl, rfl, rfl, rfl, rfl⟩

/-! ## The chunk layout -/

/-- The specification's layout of a transfer of `len` bytes at Flash offset
`offset`: chunk `k` at `offset + 2048 k` modulo `2 ^ 32`, of
`min 2048 (len - 2048 k)` bytes, for each of the `⌈len / 2048⌉` chunks. -/
def chunkPlan (offset len : Nat) : List (Nat × Nat) :=
  (List.range ((len + 2047) / 2048)).map fun k => ((offset + 2048 * k) % 2 ^ 32, min 2048 (len - 2048 * k))

theorem chunkPlan_zero (offset : Nat) : chunkPlan offset 0 = [] := rfl

@[simp] theorem length_chunkPlan (offset len : Nat) : (chunkPlan offset len).length = (len + 2047) / 2048 := by
  rw [chunkPlan, List.length_map, List.length_range]

theorem chunkPlan_cons (offset len : Nat) (h : 0 < len) :
    chunkPlan offset len = (offset % 2 ^ 32, min 2048 len) :: chunkPlan (offset + 2048) (len - 2048) := by
  have hn : (len + 2047) / 2048 = (len - 2048 + 2047) / 2048 + 1 := by omega
  rw [chunkPlan, chunkPlan, hn, List.range_succ_eq_map, List.map_cons, List.map_map]
  refine congrArg₂ List.cons (by rw [Nat.mul_zero, Nat.add_zero, Nat.sub_zero]) ?_
  refine List.map_congr_left fun k _ => ?_
  have h₁ : offset + 2048 * (k + 1) = offset + 2048 + 2048 * k := by omega
  have h₂ : len - 2048 * (k + 1) = len - 2048 - 2048 * k := by omega
  simp only [Function.comp_apply, h₁, h₂]

/-- The layout left after the first chunk, from where the loop goes on. -/
theorem chunkPlan_next (offset len : Nat) :
    chunkPlan ((offset + min 2048 len) % 2 ^ 32) (len - min 2048 len) = chunkPlan (offset + 2048) (len - 2048) := by
  rcases le_or_lt len 2048 with h | h
  · rw [show len - min 2048 len = 0 by omega, show len - 2048 = 0 by omega, chunkPlan_zero, chunkPlan_zero]
  · rw [show min 2048 len = 2048 by omega, chunkPlan, chunkPlan]
    exact List.map_congr_left fun k _ => by rw [Nat.mod_add_mod]

/-- What a chunk loop did against a layout: it issued the layout's first
chunks, in order; every command but the last returned 0; the loop returned
the last command's status (0 when it issued none); and it returned 0 exactly
when it issued every chunk and each returned 0. -/
structure ChunkRun (plan : List (Nat × Nat)) (cmds : List BridgeCommand) (rc : UInt32) : Prop where
  planned : cmds.map (fun c => (c.offset, c.len)) = plan.take cmds.length
  stopped : ∀ c ∈ cmds.dropLast, c.rc = 0
  result : rc = (cmds.getLast?.map BridgeCommand.rc).getD 0
  succeeded : rc = 0 ↔ cmds.length = plan.length ∧ ∀ c ∈ cmds, c.rc = 0

theorem ChunkRun.nil : ChunkRun [] [] 0 := ⟨rfl, by simp, rfl, by simp⟩

theorem ChunkRun.length_le {plan : List (Nat × Nat)} {cmds : List BridgeCommand} {rc : UInt32}
    (h : ChunkRun plan cmds rc) : cmds.length ≤ plan.length := by
  have := congrArg List.length h.planned
  simp only [List.length_map, List.length_take] at this
  omega

/-- A first chunk that failed ends the run. -/
theorem ChunkRun.fail {x : Nat × Nat} {plan : List (Nat × Nat)} {c : BridgeCommand} (hc : (c.offset, c.len) = x)
    (hrc : c.rc ≠ 0) : ChunkRun (x :: plan) [c] c.rc :=
  ⟨by simp [hc], by simp, rfl, by simp [hrc]⟩

/-- A first chunk that succeeded, followed by a run of the rest. -/
theorem ChunkRun.cons {x : Nat × Nat} {plan : List (Nat × Nat)} {cmds : List BridgeCommand} {rc : UInt32}
    {c : BridgeCommand} (hc : (c.offset, c.len) = x) (hrc : c.rc = 0) (h : ChunkRun plan cmds rc) :
    ChunkRun (x :: plan) (c :: cmds) rc where
  planned := by simp [hc, h.planned]
  stopped := by
    cases cmds with
    | nil => simp
    | cons d ds => simpa [hrc] using h.stopped
  result := by
    cases cmds with
    | nil => simpa [hrc] using h.result
    | cons d ds => simpa using h.result
  succeeded := by simp [h.succeeded, hrc]

/-! ## The chunk loops, chunk by chunk -/

/-- The write loop, from a zero status with `lenRem` bytes left at Flash byte
`offset` and `word_ptr` at byte `p`: it runs the layout of the rest, each
command carrying the buffer's bytes of its chunk, so that on a zero return the
commands carried `[p, p + lenRem)` end to end; and it loads buffer bytes only
in `[p, p + lenRem)` rounded up to a word. -/
theorem mtdBridgeWriteLoop_spec (B : Bridge) (lenRem offset p : Nat) (s : BridgeState) (ho : offset < 2 ^ 32) :
    let r := mtdBridgeWriteLoop B offset lenRem p 0 s
    ∃ cmds, r.2.commands = s.commands ++ cmds ∧ ChunkRun (chunkPlan offset lenRem) cmds r.1 ∧
      (∀ k (hk : k < cmds.length), cmds[k].opcode = mtdBridgeOpcodeWrite ∧
        cmds[k].sent = readBytes s.buf (p + 2048 * k) cmds[k].len) ∧
      (r.1 = 0 → (cmds.map BridgeCommand.sent).flatten = readBytes s.buf p lenRem) ∧
      r.2.buf = s.buf ∧
      ∃ acc, r.2.bufAccess = s.bufAccess ++ acc ∧ ∀ a ∈ acc, p ≤ a ∧ a < p + 4 * ((lenRem + 3) / 4) := by
  induction lenRem using Nat.strong_induction_on generalizing offset p s with
  | _ L ih =>
  rcases Nat.eq_zero_or_pos L with rfl | hL
  · rw [mtdBridgeWriteLoop_of_not (by omega)]
    exact ⟨[], by simp, by rw [chunkPlan_zero]; exact ChunkRun.nil, nofun, fun _ => rfl, rfl, [], by simp, nofun⟩
  obtain ⟨hn, hw⟩ := nextLen_eq L
  have hplan := chunkPlan_cons offset L hL
  rw [Nat.mod_eq_of_lt ho] at hplan
  obtain ⟨c, hcmds, hc, hop, hsent, hrc, hbuf, hacc⟩ := writeChunk_spec B s offset p (min 2048 L)
  have hclen : c.len = min 2048 L := (Prod.mk.inj_iff.mp hc).2
  rw [mtdBridgeWriteLoop, dif_pos ⟨rfl, hL⟩]
  simp only [hn, hw]
  generalize mtdBridgeCmd B (copyIn s p 0 ((min 2048 L + 3) / 4)) offset (min 2048 L) mtdBridgeOpcodeWrite = r
    at *
  by_cases h0 : r.1 = 0
  · rw [h0]
    obtain ⟨cmds, hcmds', hrun, hsent', hcat', hbuf', acc, hacc', hbound⟩ := ih (L - min 2048 L) (by omega)
      ((offset + min 2048 L) % 2 ^ 32) (p + 4 * ((min 2048 L + 3) / 4)) r.2 (Nat.mod_lt _ (by norm_num))
    rw [chunkPlan_next] at hrun
    have hlen := hrun.length_le
    rw [length_chunkPlan] at hlen
    refine ⟨c :: cmds, by rw [hcmds', hcmds, List.append_assoc, List.singleton_append], ?_, ?_, fun hz => ?_,
      hbuf'.trans hbuf, _, by rw [hacc', hacc, List.append_assoc], fun a ha => ?_⟩
    · rw [hplan]
      exact ChunkRun.cons hc (hrc.trans h0) hrun
    · intro k hk
      cases k with
      | zero => exact ⟨hop, by simpa [hclen] using hsent⟩
      | succ k =>
        have hk' : k < cmds.length := Nat.lt_of_succ_lt_succ hk
        obtain ⟨h₁, h₂⟩ := hsent' k hk'
        refine ⟨h₁, h₂.trans ?_⟩
        rw [hbuf]
        congr 1
        omega
    · have hsplit := readBytes_add s.buf p (min 2048 L) (L - min 2048 L)
      rw [Nat.add_sub_cancel' (min_le_right ..)] at hsplit
      rw [hsplit, List.map_cons, List.flatten_cons, hsent, hcat' hz, hbuf]
      rcases Nat.eq_zero_or_pos (L - min 2048 L) with hz' | hz'
      · rw [hz']
        rfl
      · rw [show p + 4 * ((min 2048 L + 3) / 4) = p + min 2048 L by omega]
    · rcases List.mem_append.mp ha with ha | ha
      · simp only [List.mem_map, List.mem_range] at ha
        omega
      · have := hbound a ha
        omega
  · rw [mtdBridgeWriteLoop_of_not fun h => h0 h.1]
    refine ⟨[c], hcmds, by rw [hplan, ← hrc]; exact ChunkRun.fail hc (hrc ▸ h0), fun k hk => ?_,
      fun hz => absurd hz h0, hbuf, _, hacc, fun a ha => ?_⟩
    · cases k with
      | zero => exact ⟨hop, by simpa [hclen] using hsent⟩
      | succ k => exact absurd (Nat.lt_of_succ_lt_succ hk) (Nat.not_lt_zero k)
    · simp only [List.mem_map, List.mem_range] at ha
      omega

/-- The read loop, from a zero status with `lenRem` bytes left: it runs the
layout of the rest; each command answered 0 leaves its reply in the buffer at
its chunk's place from `p`; on a zero return the buffer from `p` holds the
replies end to end; nothing below `p` is written, and buffer bytes are stored
only in `[p, p + lenRem)` rounded up to a word. -/
theorem mtdBridgeReadLoop_spec (B : Bridge) (lenRem offset p : Nat) (s : BridgeState) (ho : offset < 2 ^ 32) :
    let r := mtdBridgeReadLoop B offset lenRem p 0 s
    ∃ cmds, r.2.commands = s.commands ++ cmds ∧ ChunkRun (chunkPlan offset lenRem) cmds r.1 ∧
      (∀ k (hk : k < cmds.length), cmds[k].opcode = mtdBridgeOpcodeRead ∧
        (cmds[k].rc = 0 → readBytes r.2.buf (p + 2048 * k) cmds[k].len = cmds[k].reply)) ∧
      (r.1 = 0 → readBytes r.2.buf p lenRem = (cmds.map BridgeCommand.reply).flatten) ∧
      (∀ a < p, r.2.buf a = s.buf a) ∧
      ∃ acc, r.2.bufAccess = s.bufAccess ++ acc ∧ ∀ a ∈ acc, p ≤ a ∧ a < p + 4 * ((lenRem + 3) / 4) := by
  induction lenRem using Nat.strong_induction_on generalizing offset p s with
  | _ L ih =>
  rcases Nat.eq_zero_or_pos L with rfl | hL
  · rw [mtdBridgeReadLoop_of_not (by omega)]
    exact ⟨[], by simp, by rw [chunkPlan_zero]; exact ChunkRun.nil, nofun, fun _ => rfl, fun _ _ => rfl, [],
      by simp, nofun⟩
  obtain ⟨hn, hw⟩ := nextLen_eq L
  have hplan := chunkPlan_cons offset L hL
  rw [Nat.mod_eq_of_lt ho] at hplan
  obtain ⟨c, hcmds, hc, hop, hreply, hrc, hbuf, hacc⟩ := readChunk_spec B s offset (min 2048 L)
  have hclen : c.len = min 2048 L := (Prod.mk.inj_iff.mp hc).2
  rw [mtdBridgeReadLoop, dif_pos ⟨rfl, hL⟩]
  simp only [hn, hw]
  generalize mtdBridgeCmd B s offset (min 2048 L) mtdBridgeOpcodeRead = r at *
  by_cases h0 : r.1 = 0
  · rw [if_pos h0, h0]
    obtain ⟨cmds, hcmds', hrun, hread', hcat', hframe', acc, hacc', hbound⟩ := ih (L - min 2048 L) (by omega)
      ((offset + min 2048 L) % 2 ^ 32) (p + 4 * ((min 2048 L + 3) / 4)) (copyOut r.2 p 0 ((min 2048 L + 3) / 4))
      (Nat.mod_lt _ (by norm_num))
    generalize mtdBridgeReadLoop B ((offset + min 2048 L) % 2 ^ 32) (L - min 2048 L)
      (p + 4 * ((min 2048 L + 3) / 4)) 0 (copyOut r.2 p 0 ((min 2048 L + 3) / 4)) = f at *
    rw [chunkPlan_next] at hrun
    have hlen := hrun.length_le
    rw [length_chunkPlan] at hlen
    have hfirst : readBytes f.2.buf p (min 2048 L) = c.reply := by
      rw [hreply]
      refine readBytes_congr fun i hi => ?_
      rw [hframe' _ (by omega), copyOut_buf_of_mem _ _ _ _ (by omega), Nat.add_sub_cancel_left, Nat.zero_add]
    refine ⟨c :: cmds, by rw [hcmds', copyOut_commands, hcmds, List.append_assoc, List.singleton_append], ?_,
      fun k hk => ?_, fun hz => ?_, fun a ha => ?_, _, by rw [hacc', copyOut_eq, hacc, List.append_assoc],
      fun a ha => ?_⟩
    · rw [hplan]
      exact ChunkRun.cons hc (hrc.trans h0) hrun
    · cases k with
      | zero => exact ⟨hop, fun _ => by simpa [hclen] using hfirst⟩
      | succ k =>
        have hk' : k < cmds.length := Nat.lt_of_succ_lt_succ hk
        obtain ⟨h₁, h₂⟩ := hread' k hk'
        refine ⟨h₁, fun hz => (Eq.trans ?_ (h₂ hz))⟩
        simp only [List.getElem_cons_succ]
        rw [show p + 2048 * (k + 1) = p + 4 * ((min 2048 L + 3) / 4) + 2048 * k by omega]
    · have hsplit := readBytes_add f.2.buf p (min 2048 L) (L - min 2048 L)
      rw [Nat.add_sub_cancel' (min_le_right ..)] at hsplit
      rw [hsplit, hfirst, List.map_cons, List.flatten_cons]
      rcases Nat.eq_zero_or_pos (L - min 2048 L) with hz' | hz'
      · have hnil : cmds = [] := List.eq_nil_of_length_eq_zero (by omega)
        rw [hnil, hz']
        rfl
      · rw [← hcat' hz, show p + min 2048 L = p + 4 * ((min 2048 L + 3) / 4) by omega]
    · rw [hframe' a (by omega), copyOut_buf_of_lt _ _ _ _ ha, hbuf]
    · rcases List.mem_append.mp ha with ha | ha
      · simp only [List.mem_map, List.mem_range] at ha
        omega
      · have := hbound a ha
        omega
  · rw [if_neg h0, mtdBridgeReadLoop_of_not fun h => h0 h.1]
    refine ⟨[c], hcmds, by rw [hplan, ← hrc]; exact ChunkRun.fail hc (hrc ▸ h0), fun k hk => ?_,
      fun hz => absurd hz h0, fun a _ => by rw [hbuf], [], by simp [hacc], nofun⟩
    cases k with
    | zero => exact ⟨hop, fun hz => absurd (hrc ▸ hz) h0⟩
    | succ k => exact absurd (Nat.lt_of_succ_lt_succ hk) (Nat.not_lt_zero k)

/-! ## Register reads -/

/-- The driver went from `s` to `s'` issuing commands, and read each of the
IRQ and status registers at most 501 times per command it issued. -/
def ReadsWithin (s s' : BridgeState) : Prop :=
  s.commands.length ≤ s'.commands.length ∧
    s'.irqReads ≤ s.irqReads + 501 * (s'.commands.length - s.commands.length) ∧
    s'.statusReads ≤ s.statusReads + 501 * (s'.commands.length - s.commands.length)

theorem ReadsWithin.refl (s : BridgeState) : ReadsWithin s s := ⟨le_rfl, by omega, by omega⟩

theorem ReadsWithin.trans {s₁ s₂ s₃ : BridgeState} (h₁ : ReadsWithin s₁ s₂) (h₂ : ReadsWithin s₂ s₃) :
    ReadsWithin s₁ s₃ := by
  obtain ⟨c₁, i₁, t₁⟩ := h₁
  obtain ⟨c₂, i₂, t₂⟩ := h₂
  exact ⟨c₁.trans c₂, by omega, by omega⟩

theorem mtdBridgeCmd_readsWithin (B : Bridge) (s : BridgeState) (offset len opcode : Nat) :
    ReadsWithin s (mtdBridgeCmd B s offset len opcode).2 := by
  obtain ⟨-, hi, -, ht⟩ := mtdBridgeCmd_reads B s offset len opcode
  have hc : (mtdBridgeCmd B s offset len opcode).2.commands.length = s.commands.length + 1 := by simp
  exact ⟨by omega, by omega, by omega⟩

/-- The word copies read no register. -/
theorem copyIn_readsWithin (s : BridgeState) (p q n : Nat) : ReadsWithin s (copyIn s p q n) := by
  rw [copyIn_eq]
  exact ReadsWithin.refl s

theorem copyOut_readsWithin (s : BridgeState) (p q n : Nat) : ReadsWithin s (copyOut s p q n) := by
  rw [copyOut_eq]
  exact ReadsWithin.refl s

theorem mtdBridgeWriteLoop_readsWithin (B : Bridge) (lenRem offset p : Nat) (rc : UInt32) (s : BridgeState) :
    ReadsWithin s (mtdBridgeWriteLoop B offset lenRem p rc s).2 := by
  induction lenRem using Nat.strong_induction_on generalizing offset p rc s with
  | _ L ih =>
  by_cases h : rc = 0 ∧ 0 < L
  · have hL := h.2
    rw [mtdBridgeWriteLoop, dif_pos h]
    simp only [(nextLen_eq L).1]
    exact (copyIn_readsWithin ..).trans ((mtdBridgeCmd_readsWithin ..).trans (ih _ (by omega) ..))
  · rw [mtdBridgeWriteLoop_of_not h]
    exact ReadsWithin.refl s

theorem mtdBridgeReadLoop_readsWithin (B : Bridge) (lenRem offset p : Nat) (rc : UInt32) (s : BridgeState) :
    ReadsWithin s (mtdBridgeReadLoop B offset lenRem p rc s).2 := by
  induction lenRem using Nat.strong_induction_on generalizing offset p rc s with
  | _ L ih =>
  by_cases h : rc = 0 ∧ 0 < L
  · have hL := h.2
    rw [mtdBridgeReadLoop, dif_pos h]
    simp only [(nextLen_eq L).1]
    have hc := mtdBridgeCmd_readsWithin B s offset (min 2048 L) mtdBridgeOpcodeRead
    split
    · exact hc.trans ((copyOut_readsWithin ..).trans (ih _ (by omega) ..))
    · exact hc.trans (ih _ (by omega) ..)
  · rw [mtdBridgeReadLoop_of_not h]
    exact ReadsWithin.refl s

/-! ## Whole transfers -/

/-- Both chunk loops, for every Flash offset, length, buffer and bridge: the
commands are the layout's chunks in order, up to and including the first that
failed, and the loop returns 0 exactly when every chunk was issued and
answered 0; each write command carries its chunk of the buffer; each read
answered 0 leaves its reply at its chunk's place, so that on a zero return the
buffer's first `len` bytes are the replies end to end. -/
theorem mtdBridge_chunk_loops (B : Bridge) (s : BridgeState) (offset : UInt32) (len : Nat) :
    (let r := mtdBridgeWrite B s offset len
     ∃ cmds, r.2.commands = s.commands ++ cmds ∧ ChunkRun (chunkPlan offset.toNat len) cmds r.1 ∧
       ∀ k (hk : k < cmds.length), cmds[k].opcode = mtdBridgeOpcodeWrite ∧
         cmds[k].sent = readBytes s.buf (2048 * k) cmds[k].len) ∧
    (let r := mtdBridgeRead B s offset len
     ∃ cmds, r.2.commands = s.commands ++ cmds ∧ ChunkRun (chunkPlan offset.toNat len) cmds r.1 ∧
       (∀ k (hk : k < cmds.length), cmds[k].opcode = mtdBridgeOpcodeRead ∧
         (cmds[k].rc = 0 → readBytes r.2.buf (2048 * k) cmds[k].len = cmds[k].reply)) ∧
       (r.1 = 0 → readBytes r.2.buf 0 len = (cmds.map BridgeCommand.reply).flatten)) := by
  have ho : offset.toNat < 2 ^ 32 := offset.toNat_lt_size
  obtain ⟨cw, hw₁, hw₂, hw₃, -⟩ := mtdBridgeWriteLoop_spec B len offset.toNat 0 s ho
  obtain ⟨cr, hr₁, hr₂, hr₃, hr₄, -⟩ := mtdBridgeReadLoop_spec B len offset.toNat 0 s ho
  exact ⟨⟨cw, hw₁, hw₂, by simpa using hw₃⟩, cr, hr₁, hr₂, by simpa using hr₃, hr₄⟩

/-- The buffer bytes the word transfers of either loop touch all lie below
`len` rounded up to a word: within the buffer when `len` is a multiple of 4,
at most three bytes past it otherwise. -/
theorem mtdBridge_bufAccess_lt (B : Bridge) (s : BridgeState) (offset : UInt32) (len : Nat) :
    (∃ acc, (mtdBridgeWrite B s offset len).2.bufAccess = s.bufAccess ++ acc ∧ ∀ a ∈ acc, a < 4 * ((len + 3) / 4)) ∧
      ∃ acc, (mtdBridgeRead B s offset len).2.bufAccess = s.bufAccess ++ acc ∧ ∀ a ∈ acc, a < 4 * ((len + 3) / 4) := by
  have ho : offset.toNat < 2 ^ 32 := offset.toNat_lt_size
  obtain ⟨-, -, -, -, -, -, aw, hw, hbw⟩ := mtdBridgeWriteLoop_spec B len offset.toNat 0 s ho
  obtain ⟨-, -, -, -, -, -, ar, hr, hbr⟩ := mtdBridgeReadLoop_spec B len offset.toNat 0 s ho
  exact ⟨⟨aw, hw, fun a ha => by simpa using (hbw a ha).2⟩, ar, hr, fun a ha => by simpa using (hbr a ha).2⟩

/-- A bridge that completes every command at once with status 0 and leaves the
mailbox RAM as it finds it. -/
def readyBridge : Bridge := ⟨fun _ => 1, fun _ => 0, fun _ ram => ram⟩

/-- The driver before a transfer: a mailbox RAM of `0xFF` bytes, a zeroed
buffer, no register read and no command yet. -/
def BridgeState.fresh : BridgeState := ⟨fun _ => 0xFF, fun _ => 0, 0, 0, [], []⟩

/-- A one-byte transfer moves a whole word: both loops touch bytes 1 to 3 of a
one-byte buffer, and the read stores the mailbox RAM's bytes there. -/
theorem mtdBridge_word_overrun :
    (mtdBridgeWrite readyBridge BridgeState.fresh 0 1).2.bufAccess = [0, 1, 2, 3] ∧
      (mtdBridgeRead readyBridge BridgeState.fresh 0 1).2.bufAccess = [0, 1, 2, 3] ∧
      (mtdBridgeRead readyBridge BridgeState.fresh 0 1).2.buf 3 = 0xFF := by
  have hw : mtdBridgeWrite readyBridge BridgeState.fresh 0 1 =
      mtdBridgeWriteLoop readyBridge 1 0 4 (mtdBridgeCmd readyBridge (copyIn BridgeState.fresh 0 0 1) 0 1
        mtdBridgeOpcodeWrite).1 (mtdBridgeCmd readyBridge (copyIn BridgeState.fresh 0 0 1) 0 1 mtdBridgeOpcodeWrite).2 := by
    rw [mtdBridgeWrite, mtdBridgeWriteLoop, dif_pos (by decide)]
    rfl
  have hr : mtdBridgeRead readyBridge BridgeState.fresh 0 1 =
      mtdBridgeReadLoop readyBridge 1 0 4 0
        (copyOut (mtdBridgeCmd readyBridge BridgeState.fresh 0 1 mtdBridgeOpcodeRead).2 0 0 1) := by
    rw [mtdBridgeRead, mtdBridgeReadLoop, dif_pos (by decide)]
    exact if_pos (by decide)
  rw [hw, hr, mtdBridgeWriteLoop_of_not (by decide), mtdBridgeReadLoop_of_not (by decide)]
  decide

/-- Both chunk loops, for every bridge, offset and length: each command reads
the IRQ and the status register at most 501 times, wherever it is issued; a
transfer reads each register at most 501 times per command it issued, and it
issues at most one command per chunk of the layout, so a transfer of `len`
bytes ends after at most `501 * ⌈len / 2048⌉` reads of each register. -/
theorem mtdBridge_register_reads (B : Bridge) (s : BridgeState) (offset : UInt32) (len : Nat) :
    let w := (mtdBridgeWrite B s offset len).2
    let r := (mtdBridgeRead B s offset len).2
    (∀ (s' : BridgeState) (offset' n opcode : Nat),
      (mtdBridgeCmd B s' offset' n opcode).2.irqReads ≤ s'.irqReads + 501 ∧
        (mtdBridgeCmd B s' offset' n opcode).2.statusReads ≤ s'.statusReads + 501) ∧
    ReadsWithin s w ∧ ReadsWithin s r ∧
    w.commands.length ≤ s.commands.length + (len + 2047) / 2048 ∧
    r.commands.length ≤ s.commands.length + (len + 2047) / 2048 ∧
    w.irqReads ≤ s.irqReads + 501 * ((len + 2047) / 2048) ∧
      w.statusReads ≤ s.statusReads + 501 * ((len + 2047) / 2048) ∧
      r.irqReads ≤ s.irqReads + 501 * ((len + 2047) / 2048) ∧
      r.statusReads ≤ s.statusReads + 501 * ((len + 2047) / 2048) := by
  have ho : offset.toNat < 2 ^ 32 := offset.toNat_lt_size
  obtain ⟨cw, hw, hrw, -⟩ := mtdBridgeWriteLoop_spec B len offset.toNat 0 s ho
  obtain ⟨cr, hr, hrr, -⟩ := mtdBridgeReadLoop_spec B len offset.toNat 0 s ho
  have hWw := mtdBridgeWriteLoop_readsWithin B len offset.toNat 0 0 s
  have hWr := mtdBridgeReadLoop_readsWithin B len offset.toNat 0 0 s
  have hlw := hrw.length_le
  have hlr := hrr.length_le
  rw [length_chunkPlan] at hlw hlr
  refine ⟨fun s' offset' n opcode => ⟨(mtdBridgeCmd_reads B s' offset' n opcode).2.1,
    (mtdBridgeCmd_reads B s' offset' n opcode).2.2.2⟩, hWw, hWr, ?_⟩
  obtain ⟨-, hwi, hws⟩ := hWw
  obtain ⟨-, hri, hrs⟩ := hWr
  simp only [mtdBridgeWrite, mtdBridgeRead, hw, hr, List.length_append] at hwi hws hri hrs ⊢
  exact ⟨by omega, by omega, by omega, by omega, by omega, by omega⟩

/-- A write that returns 0 sent exactly the caller's `len` bytes, in order,
across its commands: no byte is lost, repeated or moved. -/
theorem mtdBridgeWrite_sends_buffer (B : Bridge) (s : BridgeState) (offset : UInt32) (len : Nat) :
    let r := mtdBridgeWrite B s offset len
    r.1 = 0 → ((r.2.commands.drop s.commands.length).map BridgeCommand.sent).flatten = readBytes s.buf 0 len := by
  obtain ⟨cmds, hcmds, -, -, hcat, -⟩ := mtdBridgeWriteLoop_spec B len offset.toNat 0 s offset.toNat_lt_size
  intro r hz
  rw [show r = mtdBridgeWriteLoop B offset.toNat len 0 0 s from rfl, hcmds, List.drop_left]
  exact hcat hz

/-- Five bytes through a ready bridge: one command carries all five. -/
theorem mtdBridgeWrite_sends_buffer_five :
    (mtdBridgeWrite readyBridge BridgeState.fresh 0 5).1 = 0 ∧
      (((mtdBridgeWrite readyBridge BridgeState.fresh 0 5).2.commands.drop BridgeState.fresh.commands.length).map
        BridgeCommand.sent).flatten = readBytes BridgeState.fresh.buf 0 5 := by
  have hw : mtdBridgeWrite readyBridge BridgeState.fresh 0 5 =
      mtdBridgeWriteLoop readyBridge 5 0 8 (mtdBridgeCmd readyBridge (copyIn BridgeState.fresh 0 0 2) 0 5
        mtdBridgeOpcodeWrite).1 (mtdBridgeCmd readyBridge (copyIn BridgeState.fresh 0 0 2) 0 5 mtdBridgeOpcodeWrite).2 := by
    rw [mtdBridgeWrite, mtdBridgeWriteLoop, dif_pos (by decide)]
    rfl
  have hz : (mtdBridgeWrite readyBridge BridgeState.fresh 0 5).1 = 0 := by
    rw [hw, mtdBridgeWriteLoop_of_not (by decide)]
    decide
  exact ⟨hz, mtdBridgeWrite_sends_buffer readyBridge BridgeState.fresh 0 5 hz⟩

end RevolverBoot
