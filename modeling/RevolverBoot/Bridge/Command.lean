import Mathlib

/-!
# RevolverBoot — the MTD bridge: one command

The `spi_flash` driver of the MTD bridge reaches the Flash of another
processor through a peripheral with an IRQ register, a command register, a
status register and a 2048-byte mailbox RAM. `mtd_bridge_cmd` clears the
completion flag, writes the Flash offset, the length and the opcode, then
waits in two loops of `MTDBRIDGE_TIMEOUT_WAITS` slices each: for the
completion bit, then while the status says "operation in progress".

The other processor is left open: a `Bridge` gives the successive values the
two registers read and what serving each command does to the mailbox RAM.
Each command is recorded with the part of the mailbox RAM it concerns, as
issued and as served, and with the status the driver returned for it.

## Results

* `waitComplete_spec`, `waitStatus_spec` — the two waits, for every sequence
  of register values.
* `mtdBridgeCmd_reads` — a command reads each register at most 501 times.
* `mtdBridgeCmd_status` — every command returns within its budgets, and
  returns 0 only on an observed completion and a last status of 0.
-/

namespace RevolverBoot

/-! ## Constants -/

/-- `MTDBRIDGE_BUFFER_SIZE`, the size of the mailbox RAM. -/
def mtdBridgeBufferSize : Nat := 2048

/-- `MTDBRIDGE_IRQ_COMPLETE_BIT`. -/
def mtdBridgeIrqCompleteBit : UInt32 := (1 : UInt32) <<< 0

/-- `MTDBRIDGE_SR_OIP`: operation in progress. -/
def mtdBridgeSrOip : UInt32 := 1

/-- `MTDBRIDGE_SR_NORESP`: no response from the bridge. -/
def mtdBridgeSrNoresp : UInt32 := 0x04

/-- `MTDBRIDGE_OPCODE_WRITE`. -/
def mtdBridgeOpcodeWrite : Nat := 0x02

/-- `MTDBRIDGE_OPCODE_READ`. -/
def mtdBridgeOpcodeRead : Nat := 0x03

/-- `MTDBRIDGE_OPCODE_SE`, sector erase. -/
def mtdBridgeOpcodeSe : Nat := 0xD8

/-- `MTDBRIDGE_TIMEOUT_MS`. -/
def mtdBridgeTimeoutMs : Nat := 500

/-- `MTDBRIDGE_TIMEOUT_SLICE`, in milliseconds. -/
def mtdBridgeTimeoutSlice : Nat := 1

/-- `MTDBRIDGE_TIMEOUT_WAITS`: the slices of one wait. -/
def mtdBridgeTimeoutWaits : Nat := (mtdBridgeTimeoutMs + mtdBridgeTimeoutSlice - 1) / mtdBridgeTimeoutSlice

/-! ## The bridge and the driver's state -/

/-- What the other end of the bridge does, as the driver sees it. -/
structure Bridge where
  /-- the successive values read from `MTDBRIDGE_IRQ_REG_ADDR` -/
  irq : Nat → UInt32
  /-- the successive values read from `MTDBRIDGE_STATUS_REG_ADDR` -/
  status : Nat → UInt32
  /-- the mailbox RAM once the bridge has served its `k`-th command, from the
  RAM it was given -/
  serve : Nat → (Nat → UInt8) → (Nat → UInt8)

/-- A command the bridge was given: the offset, length and opcode registers,
the first `len` bytes of the mailbox RAM as issued and as served, and the
status `mtd_bridge_cmd` returned. -/
structure BridgeCommand where
  offset : Nat
  len : Nat
  opcode : Nat
  sent : List UInt8
  reply : List UInt8
  rc : UInt32
  deriving DecidableEq, Repr

/-- The driver's view: the mailbox RAM (by byte offset from
`MTDBRIDGE_MAILBOX_RAM_ADDR`), the caller's buffer (by byte index from `buf`),
the register reads made so far, the commands issued, and the buffer bytes the
word transfers touched, in order. -/
structure BridgeState where
  ram : Nat → UInt8
  buf : Nat → UInt8
  irqReads : Nat
  statusReads : Nat
  commands : List BridgeCommand
  bufAccess : List Nat

/-- The `n` bytes of a byte map from `base` on. -/
def readBytes (m : Nat → UInt8) (base n : Nat) : List UInt8 :=
  (List.range n).map fun i => m (base + i)

@[simp] theorem length_readBytes (m : Nat → UInt8) (base n : Nat) : (readBytes m base n).length = n := by
  simp [readBytes]

theorem readBytes_add (m : Nat → UInt8) (base a b : Nat) :
    readBytes m base (a + b) = readBytes m base a ++ readBytes m (base + a) b := by
  simp [readBytes, List.range_add, Nat.add_assoc]

theorem readBytes_congr {m m' : Nat → UInt8} {base base' n : Nat} (h : ∀ i < n, m (base + i) = m' (base' + i)) :
    readBytes m base n = readBytes m' base' n := by
  simp only [readBytes, List.map_inj_left, List.mem_range]
  exact h

/-! ## `mtd_bridge_cmd` -/

/-- `while ((MTDBRIDGE_READ(IRQ) & COMPLETE) == 0) { if (!timeout--) { rc = NORESP; break; } mdelay(1); }`
with `timeout` left and the next IRQ read numbered `next`: the `rc` it leaves
(`0` once the bit is seen) and the number of the IRQ read after it. -/
def waitComplete (irq : Nat → UInt32) (next : Nat) : (timeout : Nat) → UInt32 × Nat
  | 0 => if irq next &&& mtdBridgeIrqCompleteBit = 0 then (mtdBridgeSrNoresp, next + 1) else (0, next + 1)
  | timeout + 1 =>
    if irq next &&& mtdBridgeIrqCompleteBit = 0 then waitComplete irq (next + 1) timeout else (0, next + 1)

/-- `while ((rc & OIP) != 0) { if (!timeout--) break; mdelay(1); rc = MTDBRIDGE_READ(STATUS); }` with
`timeout` left and the next status read numbered `next`. -/
def waitStatus (status : Nat → UInt32) (next : Nat) (rc : UInt32) : (timeout : Nat) → UInt32 × Nat
  | 0 => (rc, next)
  | timeout + 1 =>
    if rc &&& mtdBridgeSrOip = 0 then (rc, next) else waitStatus status (next + 1) (status next) timeout

/-- `mtd_bridge_cmd(offset, len, opcode)`: issue the command, wait for its
completion, fetch the status, and wait while the operation is in progress. -/
def mtdBridgeCmd (B : Bridge) (s : BridgeState) (offset len opcode : Nat) : UInt32 × BridgeState :=
  let ram := B.serve s.commands.length s.ram
  let (rc, irqReads) := waitComplete B.irq s.irqReads mtdBridgeTimeoutWaits
  let (rc, statusReads) := if rc = 0 then (B.status s.statusReads, s.statusReads + 1) else (rc, s.statusReads)
  let (rc, statusReads) := waitStatus B.status statusReads rc mtdBridgeTimeoutWaits
  (rc, { s with
    ram := ram, irqReads := irqReads, statusReads := statusReads
    commands := s.commands ++ [⟨offset, len, opcode, readBytes s.ram 0 len, readBytes ram 0 len, rc⟩] })

/-- `mtd_bridge_erase(flash, offset, len)`: one sector-erase command. -/
def mtdBridgeErase (B : Bridge) (s : BridgeState) (offset : UInt32) (len : Nat) : UInt32 × BridgeState :=
  mtdBridgeCmd B s offset.toNat len mtdBridgeOpcodeSe

@[simp] theorem mtdBridgeCmd_buf (B : Bridge) (s : BridgeState) (offset len opcode : Nat) :
    (mtdBridgeCmd B s offset len opcode).2.buf = s.buf := rfl

@[simp] theorem mtdBridgeCmd_bufAccess (B : Bridge) (s : BridgeState) (offset len opcode : Nat) :
    (mtdBridgeCmd B s offset len opcode).2.bufAccess = s.bufAccess := rfl

@[simp] theorem mtdBridgeCmd_ram (B : Bridge) (s : BridgeState) (offset len opcode : Nat) :
    (mtdBridgeCmd B s offset len opcode).2.ram = B.serve s.commands.length s.ram := rfl

@[simp] theorem mtdBridgeCmd_commands (B : Bridge) (s : BridgeState) (offset len opcode : Nat) :
    (mtdBridgeCmd B s offset len opcode).2.commands = s.commands ++
      [⟨offset, len, opcode, readBytes s.ram 0 len, readBytes (B.serve s.commands.length s.ram) 0 len,
        (mtdBridgeCmd B s offset len opcode).1⟩] := rfl

/-! ## The waits -/

/-- The completion wait reads the IRQ register between once and `timeout + 1`
times; it ends with `0` on a read showing the bit, or with `NORESP` after all
`timeout + 1` reads, which it does whenever none of them shows the bit. -/
theorem waitComplete_spec (irq : Nat → UInt32) (next timeout : Nat) :
    let r := waitComplete irq next timeout
    next < r.2 ∧ r.2 ≤ next + timeout + 1 ∧
      ((r.1 = 0 ∧ irq (r.2 - 1) &&& mtdBridgeIrqCompleteBit ≠ 0) ∨
        (r.1 = mtdBridgeSrNoresp ∧ r.2 = next + timeout + 1)) ∧
      ((∀ i ≤ timeout, irq (next + i) &&& mtdBridgeIrqCompleteBit = 0) → r.1 = mtdBridgeSrNoresp) := by
  induction timeout generalizing next with
  | zero =>
    simp only [waitComplete]
    split <;> simp_all
  | succ t ih =>
    simp only [waitComplete]
    split
    · obtain ⟨h₁, h₂, h₃, h₄⟩ := ih (next + 1)
      refine ⟨by omega, by omega, by rw [Nat.add_right_comm next 1 t] at h₃; exact h₃, fun h => h₄ fun i hi => ?_⟩
      simpa [Nat.add_right_comm, Nat.add_assoc] using h (i + 1) (by omega)
    · rename_i hbit
      exact ⟨by omega, by omega, .inl ⟨rfl, by simpa using hbit⟩, fun h => absurd (h 0 (by omega)) (by simpa using hbit)⟩

/-- The status wait re-reads at most `timeout` times; it returns the status it
was given when it made no read, the last value read otherwise, and a status
still in progress only once all `timeout` re-reads are spent. -/
theorem waitStatus_spec (status : Nat → UInt32) (next : Nat) (rc : UInt32) (timeout : Nat) :
    let r := waitStatus status next rc timeout
    next ≤ r.2 ∧ r.2 ≤ next + timeout ∧
      ((r.2 = next ∧ r.1 = rc) ∨ (next < r.2 ∧ r.1 = status (r.2 - 1))) ∧
      (r.1 &&& mtdBridgeSrOip ≠ 0 → r.2 = next + timeout) ∧
      (rc &&& mtdBridgeSrOip = 0 → r = (rc, next)) := by
  induction timeout generalizing next rc with
  | zero => simp [waitStatus]
  | succ t ih =>
    simp only [waitStatus]
    split
    · rename_i hoip
      exact ⟨le_rfl, by omega, .inl ⟨rfl, rfl⟩, fun h => absurd hoip h, fun _ => rfl⟩
    · rename_i hoip
      obtain ⟨h₁, h₂, h₃, h₄, -⟩ := ih (next + 1) (status next)
      refine ⟨by omega, by omega, .inr ?_, fun h => by rw [h₄ h]; omega, fun h => absurd h hoip⟩
      rcases h₃ with ⟨h, h'⟩ | ⟨h, h'⟩
      · exact ⟨by omega, by rw [h', h]; rfl⟩
      · exact ⟨by omega, h'⟩

/-! ## What a command returns -/

/-- A command reads each register at least once when the IRQ wait does, and
at most `MTDBRIDGE_TIMEOUT_WAITS + 1` times. -/
theorem mtdBridgeCmd_reads (B : Bridge) (s : BridgeState) (offset len opcode : Nat) :
    let r := (mtdBridgeCmd B s offset len opcode).2
    s.irqReads ≤ r.irqReads ∧ r.irqReads ≤ s.irqReads + 501 ∧
      s.statusReads ≤ r.statusReads ∧ r.statusReads ≤ s.statusReads + 501 := by
  have hw : mtdBridgeTimeoutWaits = 500 := rfl
  obtain ⟨c₁, c₂, -⟩ := waitComplete_spec B.irq s.irqReads mtdBridgeTimeoutWaits
  simp only [mtdBridgeCmd, hw] at c₁ c₂ ⊢
  generalize waitComplete B.irq s.irqReads 500 = c at *
  obtain ⟨rc, irqReads⟩ := c
  dsimp only at *
  split <;> dsimp only
  · obtain ⟨w₁, w₂, -⟩ := waitStatus_spec B.status (s.statusReads + 1) (B.status s.statusReads) 500
    exact ⟨by omega, by omega, by omega, by omega⟩
  · obtain ⟨w₁, w₂, -⟩ := waitStatus_spec B.status s.statusReads rc 500
    exact ⟨by omega, by omega, by omega, by omega⟩

/-- Every command returns, having read each register at most
`MTDBRIDGE_TIMEOUT_WAITS + 1` times. It returns 0 only if the last IRQ read
showed the completion bit and the last status read was 0; a completion that
never shows within the budget gives `MTDBRIDGE_SR_NORESP`; and a status
returned with the operation still in progress is the last one read, after the
whole re-read budget. -/
theorem mtdBridgeCmd_status (B : Bridge) (s : BridgeState) (offset len opcode : Nat) :
    let r := mtdBridgeCmd B s offset len opcode
    r.2.irqReads ≤ s.irqReads + 501 ∧ r.2.statusReads ≤ s.statusReads + 501 ∧
      (r.1 = 0 →
        (s.irqReads < r.2.irqReads ∧ B.irq (r.2.irqReads - 1) &&& mtdBridgeIrqCompleteBit ≠ 0) ∧
          (s.statusReads < r.2.statusReads ∧ B.status (r.2.statusReads - 1) = 0)) ∧
      ((∀ i ≤ 500, B.irq (s.irqReads + i) &&& mtdBridgeIrqCompleteBit = 0) → r.1 = mtdBridgeSrNoresp) ∧
      (r.1 &&& mtdBridgeSrOip ≠ 0 →
        r.2.statusReads = s.statusReads + 501 ∧ r.1 = B.status (r.2.statusReads - 1)) := by
  have hw : mtdBridgeTimeoutWaits = 500 := rfl
  obtain ⟨c₁, c₂, c₃, c₄⟩ := waitComplete_spec B.irq s.irqReads mtdBridgeTimeoutWaits
  simp only [mtdBridgeCmd]
  generalize waitComplete B.irq s.irqReads mtdBridgeTimeoutWaits = c at *
  rw [hw] at c₂ c₃ c₄
  obtain ⟨rc, irqReads⟩ := c
  dsimp only at *
  split
  · rename_i hc
    subst hc
    obtain ⟨w₁, w₂, w₃, w₄, -⟩ := waitStatus_spec B.status (s.statusReads + 1) (B.status s.statusReads) 500
    rw [hw]
    generalize waitStatus B.status (s.statusReads + 1) (B.status s.statusReads) 500 = w at *
    obtain ⟨rc', statusReads⟩ := w
    dsimp only at *
    have hlast : rc' = B.status (statusReads - 1) := by
      rcases w₃ with ⟨h, h'⟩ | ⟨-, h'⟩
      · rw [h', h]; rfl
      · exact h'
    rcases c₃ with ⟨-, hbit⟩ | ⟨hnr, -⟩
    · refine ⟨by omega, by omega, fun h0 => ⟨⟨by omega, hbit⟩, by omega, hlast ▸ h0⟩, fun h => ?_,
        fun h => ⟨by rw [w₄ h], hlast⟩⟩
      exact absurd (c₄ h) (by decide)
    · exact absurd hnr (by decide)
  · rename_i hc
    rcases c₃ with ⟨h0, -⟩ | ⟨hnr, hreads⟩
    · exact absurd h0 hc
    · subst hnr
      rw [hw, (waitStatus_spec B.status s.statusReads mtdBridgeSrNoresp 500).2.2.2.2 rfl]
      dsimp only
      exact ⟨by omega, by omega, fun h => absurd h (by decide), fun _ => rfl, fun h => absurd (by decide) h⟩

end RevolverBoot
