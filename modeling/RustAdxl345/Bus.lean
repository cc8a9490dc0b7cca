import RustAdxl345.Op
import RustAdxl345.Sample
import Mathlib.Logic.Function.Basic

/-!
# The bus: the chip behind the adapter, and the client's transfers

`Bus` is what a call on the device can touch: the chip's register file, the adapter's answers to
the transfers still to come, and the record (`log`) of what the calls did. A transfer takes the
next answer and is recorded (`Bus.pop`); once the answers run out the adapter keeps failing, so
every run is finite and every finite behaviour of the adapter is some list of answers. A
completed transfer reads a register from the register file, except the registers the chip drives
itself (`chipDriven`), whose bytes come with the answer; a completed write is stored.
`I2CClient.readByte`, `writeByte` and `readI2cBlock` are the client methods of
`kernel/i2c/client.rs` that the driver calls; each has one spec lemma.
-/

namespace RustAdxl345

open Op

/-! ### Registers (`constant/mod.rs`) -/

def ADXL345_REG_DEVID : UInt8 := 0x00
def ADXL345_REG_ACT_TAP_STATUS : UInt8 := 0x2B
def ADXL345_REG_BW_RATE : UInt8 := 0x2C
def ADXL345_REG_POWER_CTL : UInt8 := 0x2D
def ADXL345_REG_INT_ENABLE : UInt8 := 0x2E
def ADXL345_REG_INT_MAP : UInt8 := 0x2F
def ADXL345_REG_INT_SOURCE : UInt8 := 0x30
def ADXL345_REG_DATA_FORMAT : UInt8 := 0x31
def ADXL345_REG_DATAX0 : UInt8 := 0x32
def ADXL345_REG_DATAZ1 : UInt8 := 0x37
def ADXL345_REG_FIFO_CTL : UInt8 := 0x38
def ADXL345_REG_FIFO_STATUS : UInt8 := 0x39

/-- The registers the chip drives itself (read-only on the ADXL345): a read of one returns what
the chip put on the bus, not a stored value. -/
def chipDriven (reg : UInt8) : Bool :=
  reg == ADXL345_REG_DEVID || reg == ADXL345_REG_ACT_TAP_STATUS ||
    reg == ADXL345_REG_INT_SOURCE || reg == ADXL345_REG_FIFO_STATUS ||
    (ADXL345_REG_DATAX0 ≤ reg && reg ≤ ADXL345_REG_DATAZ1)

@[simp] theorem chipDriven_intSource : chipDriven ADXL345_REG_INT_SOURCE = true := rfl
@[simp] theorem chipDriven_dataX0 : chipDriven ADXL345_REG_DATAX0 = true := rfl
@[simp] theorem chipDriven_powerCtl : chipDriven ADXL345_REG_POWER_CTL = false := rfl
@[simp] theorem chipDriven_bwRate : chipDriven ADXL345_REG_BW_RATE = false := rfl
@[simp] theorem chipDriven_fifoCtl : chipDriven ADXL345_REG_FIFO_CTL = false := rfl

/-! ### Answers, effects and the bus -/

/-- The adapter's answer to one SMBus transfer. -/
inductive Answer
  /-- The transfer completed; `driven` are the bytes the chip drove for its own registers. -/
  | ok (driven : List UInt8)
  /-- The adapter returned a negative errno. -/
  | fail (e : Error)
  deriving DecidableEq, Repr

/-- What a call did, in order: the device lock taken and dropped, sleeps and transfers, the
writes the chip acknowledged, the samples read and judged, and the bytes copied to user space. -/
inductive Effect
  /-- The device `SpinLock` was taken (its guard is live). -/
  | lock
  /-- The guard was dropped. -/
  | unlock
  /-- `coarse_sleep` for `ms` milliseconds. -/
  | sleep (ms : Nat)
  /-- An SMBus transfer. The I2C core holds the adapter's bus lock, an `rt_mutex`, for it, so the
  caller may sleep. -/
  | transfer
  /-- The chip acknowledged a write of `val` to register `reg`. -/
  | write (reg val : UInt8)
  /-- `read_data` returned this sample. -/
  | sample (s : Adxl345Sample)
  /-- `adxl345_filter_out` judged this sample and stored it as the baseline. -/
  | judge (s : Adxl345Sample)
  /-- These bytes were copied into the user buffer. -/
  | copy (bytes : List UInt8)
  deriving DecidableEq, Repr

namespace Effect

/-- The samples `read_data` returned, in order. -/
def samples (es : List Effect) : List Adxl345Sample :=
  es.filterMap fun | .sample s => some s | _ => none

/-- The samples the filter judged, in order. -/
def judged (es : List Effect) : List Adxl345Sample :=
  es.filterMap fun | .judge s => some s | _ => none

/-- The bytes copied into the user buffer, in order. -/
def copies (es : List Effect) : List UInt8 :=
  es.flatMap fun | .copy b => b | _ => []

/-- The acknowledged writes, as register and value, in order. -/
def writes (es : List Effect) : List (UInt8 × UInt8) :=
  es.filterMap fun | .write r v => some (r, v) | _ => none

@[simp] theorem samples_nil : samples [] = [] := rfl
@[simp] theorem judged_nil : judged [] = [] := rfl
@[simp] theorem copies_nil : copies [] = [] := rfl
@[simp] theorem samples_append (es fs : List Effect) :
    samples (es ++ fs) = samples es ++ samples fs := List.filterMap_append ..
@[simp] theorem judged_append (es fs : List Effect) :
    judged (es ++ fs) = judged es ++ judged fs := List.filterMap_append ..
@[simp] theorem copies_append (es fs : List Effect) :
    copies (es ++ fs) = copies es ++ copies fs := List.flatMap_append ..
@[simp] theorem writes_nil : writes [] = [] := rfl
@[simp] theorem writes_append (es fs : List Effect) :
    writes (es ++ fs) = writes es ++ writes fs := List.filterMap_append ..
@[simp] theorem writes_cons (e : Effect) (es : List Effect) :
    writes (e :: es) = (match e with | .write r v => [(r, v)] | _ => []) ++ writes es := by
  cases e <;> rfl
@[simp] theorem samples_cons (e : Effect) (es : List Effect) :
    samples (e :: es) = (match e with | .sample s => [s] | _ => []) ++ samples es := by
  cases e <;> rfl
@[simp] theorem judged_cons (e : Effect) (es : List Effect) :
    judged (e :: es) = (match e with | .judge s => [s] | _ => []) ++ judged es := by
  cases e <;> rfl
@[simp] theorem copies_cons (e : Effect) (es : List Effect) :
    copies (e :: es) = (match e with | .copy b => b | _ => []) ++ copies es := by
  cases e <;> simp [copies]

/-- An effect that neither takes nor drops the lock, nor sleeps. -/
def quiet : Effect → Bool
  | .lock | .unlock | .sleep _ => false
  | .transfer | .write _ _ | .sample _ | .judge _ | .copy _ => true

end Effect

/-! ### The device lock along a record -/

/-- Whether the device lock is held after `es`, when it was held before them iff `held`. -/
def lockHeld : Bool → List Effect → Bool
  | held, [] => held
  | _, .lock :: es => lockHeld true es
  | _, .unlock :: es => lockHeld false es
  | held, _ :: es => lockHeld held es

/-- Whether some `coarse_sleep` of `es` runs while a guard of the device lock is live. -/
def sleepsUnderLock : Bool → List Effect → Bool
  | _, [] => false
  | _, .lock :: es => sleepsUnderLock true es
  | _, .unlock :: es => sleepsUnderLock false es
  | held, .sleep _ :: es => held || sleepsUnderLock held es
  | held, _ :: es => sleepsUnderLock held es

/-- Whether every transfer of `es` runs while the device lock is held. -/
def transfersLocked : Bool → List Effect → Bool
  | _, [] => true
  | _, .lock :: es => transfersLocked true es
  | _, .unlock :: es => transfersLocked false es
  | held, .transfer :: es => held && transfersLocked held es
  | held, _ :: es => transfersLocked held es

theorem lockHeld_append (xs ys : List Effect) (held : Bool) :
    lockHeld held (xs ++ ys) = lockHeld (lockHeld held xs) ys := by
  induction xs generalizing held with
  | nil => rfl
  | cons e xs ih => cases e <;> simp only [List.cons_append, lockHeld, List.append_eq, ih]

theorem sleepsUnderLock_append (xs ys : List Effect) (held : Bool) :
    sleepsUnderLock held (xs ++ ys) =
      (sleepsUnderLock held xs || sleepsUnderLock (lockHeld held xs) ys) := by
  induction xs generalizing held with
  | nil => rfl
  | cons e xs ih =>
    cases e <;>
      simp only [List.cons_append, sleepsUnderLock, lockHeld, List.append_eq, ih, Bool.or_assoc]

theorem transfersLocked_append (xs ys : List Effect) (held : Bool) :
    transfersLocked held (xs ++ ys) =
      (transfersLocked held xs && transfersLocked (lockHeld held xs) ys) := by
  induction xs generalizing held with
  | nil => rfl
  | cons e xs ih =>
    cases e <;>
      simp only [List.cons_append, transfersLocked, lockHeld, List.append_eq, ih, Bool.and_assoc]

theorem lockHeld_quiet {q : List Effect} (hq : q.all Effect.quiet = true) (held : Bool) :
    lockHeld held q = held ∧ sleepsUnderLock held q = false := by
  induction q with
  | nil => exact ⟨rfl, rfl⟩
  | cons e q ih =>
    rw [List.all_cons, Bool.and_eq_true] at hq
    cases e <;> first | exact ih hq.2 | cases hq.1

theorem transfersLocked_quiet {q : List Effect} (hq : q.all Effect.quiet = true) :
    transfersLocked true q = true := by
  induction q with
  | nil => rfl
  | cons e q ih =>
    rw [List.all_cons, Bool.and_eq_true] at hq
    cases e <;> first | exact ih hq.2 | cases hq.1

/-- A block of quiet effects between taking and dropping the lock leaves it free, sleeps under
it nowhere, and transfers only under it. -/
theorem locked_quiet {q : List Effect} (hq : q.all Effect.quiet = true) (held : Bool) :
    lockHeld held (.lock :: q ++ [.unlock]) = false ∧
      sleepsUnderLock held (.lock :: q ++ [.unlock]) = false ∧
      transfersLocked held (.lock :: q ++ [.unlock]) = true := by
  obtain ⟨hl, hs⟩ := lockHeld_quiet hq true
  simp only [List.cons_append, lockHeld, sleepsUnderLock, transfersLocked, List.append_eq]
  rw [lockHeld_append, sleepsUnderLock_append, transfersLocked_append, hl, hs,
    transfersLocked_quiet hq]
  exact ⟨rfl, rfl, rfl⟩

theorem lockHeld_transfers (held : Bool) (t : Nat) :
    lockHeld held (List.replicate t .transfer) = held ∧
      sleepsUnderLock held (List.replicate t .transfer) = false :=
  lockHeld_quiet (by simp [List.all_replicate, Effect.quiet]) held

@[simp] theorem transfersLocked_transfers (t : Nat) :
    transfersLocked true (List.replicate t .transfer) = true :=
  transfersLocked_quiet (by simp [List.all_replicate, Effect.quiet])

@[simp] theorem Effect.judged_transfers (t : Nat) : judged (List.replicate t .transfer) = [] := by
  induction t <;> simp [List.replicate_succ, *]

@[simp] theorem Effect.copies_transfers (t : Nat) : copies (List.replicate t .transfer) = [] := by
  induction t <;> simp [List.replicate_succ, *]

@[simp] theorem Effect.writes_transfers (t : Nat) : writes (List.replicate t .transfer) = [] := by
  induction t <;> simp [List.replicate_succ, *]

@[simp] theorem Effect.samples_transfers (t : Nat) : samples (List.replicate t .transfer) = [] := by
  induction t <;> simp [List.replicate_succ, *]

/-- The chip's registers, the adapter's pending answers, and the record of the calls. -/
structure Bus where
  regs : UInt8 → UInt8
  answers : List Answer
  log : List Effect

/-- A call on the device. -/
abbrev Dev := Op Bus

namespace Bus

/-- The answer the next transfer gets. -/
def next (b : Bus) : Answer := b.answers.headD (.fail Error.EIO)

/-- The bus after the next transfer: its answer taken, the transfer recorded. -/
def pop (b : Bus) : Bus := { b with answers := b.answers.tail, log := b.log ++ [.transfer] }

/-- The bus after an acknowledged write of `v` to `reg`. -/
def store (b : Bus) (reg v : UInt8) : Bus :=
  { b with regs := Function.update b.regs reg v, log := b.log ++ [.write reg v] }

/-- The bus with `e` recorded. -/
def record (b : Bus) (e : Effect) : Bus := { b with log := b.log ++ [e] }

/-- The bus with the effects `es` recorded. -/
def extend (b : Bus) (es : List Effect) : Bus := { b with log := b.log ++ es }

@[simp] theorem pop_regs (b : Bus) : b.pop.regs = b.regs := rfl
@[simp] theorem pop_log (b : Bus) : b.pop.log = b.log ++ [.transfer] := rfl
@[simp] theorem store_regs (b : Bus) (reg v : UInt8) :
    (b.store reg v).regs = Function.update b.regs reg v := rfl
@[simp] theorem store_log (b : Bus) (reg v : UInt8) :
    (b.store reg v).log = b.log ++ [.write reg v] := rfl
@[simp] theorem record_regs (b : Bus) (e : Effect) : (b.record e).regs = b.regs := rfl
@[simp] theorem record_log (b : Bus) (e : Effect) : (b.record e).log = b.log ++ [e] := rfl
@[simp] theorem record_answers (b : Bus) (e : Effect) : (b.record e).answers = b.answers := rfl
@[simp] theorem extend_regs (b : Bus) (es : List Effect) : (b.extend es).regs = b.regs := rfl
@[simp] theorem extend_log (b : Bus) (es : List Effect) : (b.extend es).log = b.log ++ es := rfl
@[simp] theorem extend_answers (b : Bus) (es : List Effect) : (b.extend es).answers = b.answers :=
  rfl
@[simp] theorem extend_nil (b : Bus) : b.extend [] = b := by simp [extend]
@[simp] theorem record_next (b : Bus) (e : Effect) : (b.record e).next = b.next := rfl
@[simp] theorem extend_next (b : Bus) (es : List Effect) : (b.extend es).next = b.next := rfl

end Bus

/-- One SMBus transfer: the adapter's next answer. -/
def transfer : Dev Answer := fun b => .ok b.next b.pop

/-- Record an effect. -/
def emit (e : Effect) : Dev Unit := modify (·.record e)

/-- `SpinLock::lock` on the device: its guard is live from here. -/
def lock : Dev Unit := emit .lock

/-- The guard is dropped (end of its scope, `drop(adxl)`, or an early `return`). -/
def unlock : Dev Unit := emit .unlock

/-- `coarse_sleep(Duration::from_millis(ms))`. -/
def coarseSleep (ms : Nat) : Dev Unit := emit (.sleep ms)

/-- A block that holds the device lock: the guard is dropped however the block returns. -/
def guarded {α : Type} (x : Dev α) : Dev α := bracket lock unlock x

@[simp] theorem run_transfer (b : Bus) : transfer b = .ok b.next b.pop := rfl
@[simp] theorem run_emit (e : Effect) (b : Bus) : emit e b = .ok () (b.record e) := rfl

theorem guarded_eq_ok {α : Type} {x : Dev α} {b b' : Bus} {a : α} :
    guarded x b = .ok a b' ↔
      ∃ b₁, x (b.record .lock) = .ok a b₁ ∧ b' = b₁.record .unlock := by
  rcases hx : x (b.record .lock) with ⟨a', b₁⟩ | ⟨e' | m, b₁⟩ <;>
    simp [guarded, bracket, lock, unlock, run_attempt, hx, eq_comm, and_assoc]

/-! ### The client (`kernel/i2c/client.rs`) -/

namespace I2CClient

/-- `read_byte`: the SMBus "read byte" protocol with a command. -/
def readByte (command : UInt8) : Dev UInt8 := do
  match ← transfer with
  | .fail e => throwErr e
  | .ok driven =>
    if chipDriven command then pure (driven.headD 0) else return (← get).regs command

/-- `write_byte`: the SMBus "write byte" protocol with a command. -/
def writeByte (command value : UInt8) : Dev Unit := do
  match ← transfer with
  | .fail e => throwErr e
  | .ok _ => modify (·.store command value)

/-- `read_i2c_block`: asks for `len` bytes from `command` on. The result is the bytes stored in
the caller's buffer, whose number `read_i2c_block` returns: those the chip drove for a block of
its own registers (at most `len`), else `len` bytes of the register file. -/
def readI2cBlock (command len : UInt8) : Dev (List UInt8) := do
  if len > 32 then throwErr .EINVAL
  match ← transfer with
  | .fail e => throwErr e
  | .ok driven =>
    if chipDriven command then pure (driven.take len.toNat) else do
      let b ← get
      pure ((List.range len.toNat).map fun i => b.regs (command + UInt8.ofNat i))

theorem readByte_spec (command : UInt8) (b : Bus) : readByte command b =
    match b.next with
    | .fail e => .error (.err e) b.pop
    | .ok driven => .ok (if chipDriven command then driven.headD 0 else b.regs command) b.pop := by
  simp only [readByte, run_bind, run_transfer]
  cases b.next with
  | fail e => rfl
  | ok driven => cases chipDriven command <;> rfl

theorem writeByte_spec (command value : UInt8) (b : Bus) : writeByte command value b =
    match b.next with
    | .fail e => .error (.err e) b.pop
    | .ok _ => .ok () (b.pop.store command value) := by
  simp only [writeByte, run_bind, run_transfer]
  cases b.next <;> rfl

theorem readByte_bind {α : Type} (command : UInt8) (k : UInt8 → Dev α) (b : Bus) :
    (readByte command >>= k) b =
      match b.next with
      | .fail e => .error (.err e) b.pop
      | .ok driven => k (if chipDriven command then driven.headD 0 else b.regs command) b.pop := by
  rw [run_bind, readByte_spec]
  cases b.next <;> rfl

theorem writeByte_bind {α : Type} (command value : UInt8) (k : Unit → Dev α) (b : Bus) :
    (writeByte command value >>= k) b =
      match b.next with
      | .fail e => .error (.err e) b.pop
      | .ok _ => k () (b.pop.store command value) := by
  rw [run_bind, writeByte_spec]
  cases b.next <;> rfl

theorem readI2cBlock_spec (command len : UInt8) (b : Bus) : readI2cBlock command len b =
    if len > 32 then .error (.err .EINVAL) b else
    match b.next with
    | .fail e => .error (.err e) b.pop
    | .ok driven => .ok (if chipDriven command then driven.take len.toNat else
        (List.range len.toNat).map fun i => b.regs (command + UInt8.ofNat i)) b.pop := by
  by_cases h : len > 32
  · simp only [readI2cBlock, h, if_true, run_bind, run_throwErr]
  · simp only [readI2cBlock, h, if_false, run_bind, run_pure, run_transfer]
    cases b.next with
    | fail e => rfl
    | ok driven => cases chipDriven command <;> rfl

end I2CClient

end RustAdxl345
