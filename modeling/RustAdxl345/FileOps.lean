import RustAdxl345.Utility
import RustAdxl345.Filter

/-!
# The character device (`Adxl345FileOps`, `fileops.rs`)

`open` refuses write access and enables measurement through `adxl345_device_init_at_open`
(`openInit`), then resets the filter baseline (`openReset`); `release` disables measurement.
`read` holds the device lock for the whole call: it computes how many records fit (`items`),
polls `data_ready` until a sample is ready (`pollReady`), then runs `for _ in 0..items`
(`fillLoop`), each round a sample from `read_data` (`readSample`) and the rest of the round
(`fillRound`): the filter, the copy of a kept record, and `data_ready`, which can end the loop
early. Each call first finds the device through `DEVICE_PTR`, and panics if it is empty
(`devicePtrExpect`). Each piece has one spec lemma.
-/

namespace RustAdxl345

open Op Adxl345

/-! ### File flags (`asm-generic/fcntl.h`) -/

def O_ACCMODE : UInt32 := 0o3
def O_WRONLY : UInt32 := 0o1
def O_RDWR : UInt32 := 0o2
def O_NONBLOCK : UInt32 := 0o4000

/-- The user buffer `read` fills (`UserSlicePtrWriter`): `len` bytes are still free, and
`copy_to_user` faults past the first `mapped` of them. -/
structure IoBufferWriter where
  len : Nat
  mapped : Nat
  deriving DecidableEq, Repr

/-- `IoBufferWriter::write(&v)` for an `i16`: copy its two bytes into the user buffer. -/
def IoBufferWriter.write (w : IoBufferWriter) (v : BitVec 16) : Kern IoBufferWriter := do
  let data := Adxl345Sample.leBytes v
  if data.length > w.len then throwErr .EFAULT
  if data.length > w.mapped then throwErr .EFAULT
  dev (emit (.copy data))
  pure ⟨w.len - data.length, w.mapped - data.length⟩

/-- `DEVICE_PTR.as_ref().expect("Driver not initialized")`. -/
def devicePtrExpect : Kern Unit := do
  if !(← get).devicePtr then abort "Driver not initialized"

/-! ### `open`, `release`, `read` -/

namespace Adxl345FileOps

/-- `open` up to the return of `adxl345_device_init_at_open`: write access is refused, and
measurement is enabled, the lock dropped before the wake-up sleep. -/
def openInit (flags : UInt32) : Kern Unit := do
  let accessMode := flags &&& O_ACCMODE
  if accessMode = O_WRONLY ∨ accessMode = O_RDWR then throwErr .EPERM
  devicePtrExpect
  match ← attempt (dev adxl345DeviceInitAtOpen) with
  | .error _ => throwErr Error.EIO
  | .ok () => pure ()

/-- The rest of `open`: `mutex_init!` on `ADXL345_LAST_SAMPLE`, then the baseline reset under
its guard. `file.set_nonseekable()` is not under `src/`; it is taken to succeed. -/
def openReset : Kern Unit := setLastSample ⟨0, 0, 0⟩

/-- `open`. -/
def «open» (flags : UInt32) : Kern Unit := do
  openInit flags
  openReset

/-- `release`. -/
def release : Kern Unit := do
  devicePtrExpect
  dev adxl345DeviceCleanAtRelease

/-- The readiness loop of `read` with at most `fuel` rounds. -/
def waitReady (nonblock : Bool) : Nat → Dev Unit
  | 0 => throwErr Error.EIO
  | fuel + 1 => do
    match ← attempt dataReady with
    | .ok ready =>
      if ready > 0 then pure ()
      else if nonblock then throwErr .EAGAIN
      else do
        coarseSleep 10
        waitReady nonblock fuel
    | .error _ => throwErr Error.EIO

/-- `loop { match adxl.data_ready() { .. } }`. Each round takes one answer of the adapter, which
fails once its answers run out, so `answers.length + 1` rounds always reach an exit (at zero fuel
the next `data_ready` would fail, hence `EIO` there). -/
def pollReady (nonblock : Bool) : Dev Unit := do
  waitReady nonblock ((← get).answers.length + 1)

/-- `let acc = match adxl.read_data() { .. }`: the sample, or `EIO`. -/
def readSample : Kern Adxl345Sample := do
  match ← attempt (dev readData) with
  | .ok sample => pure sample
  | .error _ => throwErr Error.EIO

/-- A round of the fill loop once `read_data` returned `acc`: the filter, and for a kept sample
its three copies and `data_ready`. `next` is the rest of the loop, from the writer and count the
round leaves; `stop` is the `break`. -/
def fillRound {α : Type} (next : IoBufferWriter → Nat → Kern α) (stop : Nat → Kern α)
    (writer : IoBufferWriter) (count : Nat) (acc : Adxl345Sample) : Kern α := do
  if ← adxl345FilterOut acc then next writer count
  else do
    let writer ← writer.write acc.x
    let writer ← writer.write acc.y
    let writer ← writer.write acc.z
    let count := count + 6
    match ← attempt (dev dataReady) with
    | .ok ready => if ready = 0 then stop count else next writer count
    | .error _ => throwErr Error.EIO

/-- `for _ in 0..items { .. }` with `n` rounds left and `count` bytes written so far. -/
def fillLoop (writer : IoBufferWriter) : Nat → Nat → Kern Nat
  | 0, count => pure count
  | n + 1, count => do
    let acc ← readSample
    fillRound (fun writer count => fillLoop writer n count) pure writer count acc

/-- `read`: the device lock is held for the whole call. -/
def read (flags : UInt32) (writer : IoBufferWriter) : Kern Nat := do
  devicePtrExpect
  bracket (dev lock) (dev unlock) do
    let items := writer.len / 6
    if items = 0 then throwErr .EINVAL
    dev (pollReady (flags &&& O_NONBLOCK ≠ 0))
    fillLoop writer items 0

end Adxl345FileOps

/-- `adxl345_chardev_add`: `Registration::new_pinned(..)?`, then
`register::<Adxl345FileOps>().expect("Registration failed")`. -/
def adxl345ChardevAdd : Kern Unit := do
  match (← get).chrdev with
  | .newPinnedFails e => throwErr e
  | .registerFails _ => abort "Registration failed"
  | .ok => modify fun s => { s with registered := true }

end RustAdxl345

namespace RustAdxl345

open Op Adxl345 Adxl345FileOps

/-! ### Spec lemmas -/

theorem devicePtrExpect_spec (s : Sys) : devicePtrExpect s =
    if s.devicePtr then .ok () s else .error (.panic "Driver not initialized") s := by
  cases h : s.devicePtr <;> simp [devicePtrExpect, h]

/-- `IoBufferWriter::write` of an `i16`: `EFAULT` where fewer than two bytes are free or mapped,
otherwise one copy of its two bytes. -/
theorem IoBufferWriter.write_spec (w : IoBufferWriter) (v : BitVec 16) (s : Sys) :
    w.write v s = if 2 > w.len ∨ 2 > w.mapped then .error (.err Error.EFAULT) s else
      .ok ⟨w.len - 2, w.mapped - 2⟩
        { s with bus := s.bus.record (.copy (Adxl345Sample.leBytes v)) } := by
  by_cases h₁ : 2 > w.len <;> by_cases h₂ : 2 > w.mapped <;>
    simp [IoBufferWriter.write, h₁, h₂, dev]

/-- The copies of a record: its three axes, two bytes each. -/
def copyEffects (acc : Adxl345Sample) : List Effect :=
  [.copy (Adxl345Sample.leBytes acc.x), .copy (Adxl345Sample.leBytes acc.y),
    .copy (Adxl345Sample.leBytes acc.z)]

@[simp] theorem copies_copyEffects (acc : Adxl345Sample) :
    Effect.copies (copyEffects acc) = acc.bytes := by
  simp [copyEffects, Adxl345Sample.bytes]

/-- A kept record's three copies: all of them where six bytes are free and mapped; otherwise
`EFAULT`, after the copies that fit. -/
theorem copyRecord_spec {α : Type} (w : IoBufferWriter) (acc : Adxl345Sample)
    (k : IoBufferWriter → Kern α) (s : Sys) :
    (do let w ← w.write acc.x; let w ← w.write acc.y; let w ← w.write acc.z; k w) s =
      if 6 ≤ w.len ∧ 6 ≤ w.mapped then
        k ⟨w.len - 6, w.mapped - 6⟩ { s with bus := s.bus.extend (copyEffects acc) }
      else .error (.err Error.EFAULT)
        { s with bus := s.bus.extend ((copyEffects acc).take (min w.len w.mapped / 2)) } := by
  simp only [run_bind, IoBufferWriter.write_spec]
  by_cases h₁ : 2 > w.len ∨ 2 > w.mapped
  · have h0 : min w.len w.mapped / 2 = 0 := by omega
    simp [h₁, h0, show ¬(6 ≤ w.len ∧ 6 ≤ w.mapped) by omega]
  by_cases h₂ : 2 > w.len - 2 ∨ 2 > w.mapped - 2
  · have h0 : min w.len w.mapped / 2 = 1 := by omega
    simp [h₁, h₂, h0, show ¬(6 ≤ w.len ∧ 6 ≤ w.mapped) by omega, copyEffects, Bus.extend,
      Bus.record]
  by_cases h₃ : 2 > w.len - 2 - 2 ∨ 2 > w.mapped - 2 - 2
  · have h0 : min w.len w.mapped / 2 = 2 := by omega
    simp [h₁, h₂, h₃, h0, show ¬(6 ≤ w.len ∧ 6 ≤ w.mapped) by omega, copyEffects,
      Bus.extend, Bus.record]
  simp [h₁, h₂, h₃, show 6 ≤ w.len ∧ 6 ≤ w.mapped by omega,
    show ¬(w.len - 4 < 2 ∨ w.mapped - 4 < 2) by omega, Nat.sub_sub, copyEffects, Bus.extend,
    Bus.record]

theorem openInit_spec (flags : UInt32) (s : Sys) : openInit flags s =
    if flags &&& O_ACCMODE = O_WRONLY ∨ flags &&& O_ACCMODE = O_RDWR then .error (.err .EPERM) s
    else if s.devicePtr = false then .error (.panic "Driver not initialized") s
    else match adxl345DeviceInitAtOpen s.bus with
      | .ok () b => .ok () { s with bus := b }
      | .error (.err _) b => .error (.err Error.EIO) { s with bus := b }
      | .error (.panic m) b => .error (.panic m) { s with bus := b } := by
  unfold openInit
  by_cases hm : flags &&& O_ACCMODE = O_WRONLY ∨ flags &&& O_ACCMODE = O_RDWR
  · simp [hm]
  cases hp : s.devicePtr
  · simp [hm, devicePtrExpect_spec, hp]
  rcases hi : adxl345DeviceInitAtOpen s.bus with ⟨⟨⟩, b⟩ | ⟨e | m, b⟩ <;>
    simp [hm, devicePtrExpect_spec, hp, run_attempt, dev, hi]

theorem openReset_eq (s : Sys) : openReset s = .ok () { s with lastSample := ⟨0, 0, 0⟩ } := rfl

theorem open_eq (flags : UInt32) :
    Adxl345FileOps.open flags = openInit flags >>= fun _ => openReset :=
  rfl

theorem release_spec (s : Sys) : release s =
    if s.devicePtr then dev adxl345DeviceCleanAtRelease s
    else .error (.panic "Driver not initialized") s := by
  cases hp : s.devicePtr <;> simp [release, devicePtrExpect_spec, hp]

/-- The first part of `open` where it returned: it changed only the bus, left the lock free,
slept under it nowhere, transferred only under it, and took, judged and copied no sample. Where
it returned `Ok` it set bit 3 of `POWER_CTL`, its one write; where it failed it wrote nothing. -/
theorem openInit_returned {flags : UInt32} {s s' : Sys} {r : Except Error Unit}
    (h : attempt (openInit flags) s = .ok r s') :
    s' = { s with bus := s'.bus } ∧ s'.bus.log = s.bus.log ++ s'.effectsSince s ∧
      Effect.samples (s'.effectsSince s) = [] ∧ Effect.judged (s'.effectsSince s) = [] ∧
      Effect.copies (s'.effectsSince s) = [] ∧
      lockHeld false (s'.effectsSince s) = false ∧
      sleepsUnderLock false (s'.effectsSince s) = false ∧
      transfersLocked false (s'.effectsSince s) = true ∧
      (r = .ok () → s'.bus.regs = updatedPowerCtl (· ||| (1 : UInt8) <<< 3) s.bus.regs ∧
        Effect.writes (s'.effectsSince s) = [(ADXL345_REG_POWER_CTL,
          s.bus.regs ADXL345_REG_POWER_CTL ||| (1 : UInt8) <<< 3)]) ∧
      (r ≠ .ok () → s'.bus.regs = s.bus.regs ∧ Effect.writes (s'.effectsSince s) = []) := by
  rw [run_attempt, openInit_spec] at h
  split_ifs at h
  · cases h
    simp [Sys.effectsSince, lockHeld, sleepsUnderLock, transfersLocked]
  rcases adxl345DeviceInitAtOpen_cases s.bus with
      ⟨b, hb, hr, hl⟩ | ⟨e, b, k, hb, hr, hl⟩ <;>
    rw [hb] at h <;> cases h
  · simp [Sys.effectsSince, hl, hr, powerCtlWrite, lockHeld, sleepsUnderLock, transfersLocked]
  · obtain ⟨hl₁, hs₁, ht₁⟩ := locked_quiet (q := List.replicate k .transfer)
      (by simp [List.all_replicate, Effect.quiet]) false
    simp only [Sys.effectsSince, hl, hr, List.length_append, List.drop_left, true_and, and_true,
      List.append_assoc, List.cons_append] at hl₁ hs₁ ht₁ ⊢
    simp [hl₁, hs₁, ht₁]

theorem openInit_panic {flags : UInt32} {s s' : Sys} {msg : String}
    (h : openInit flags s = .error (.panic msg) s') :
    msg = "Driver not initialized" ∧ s' = s := by
  rw [openInit_spec] at h
  split_ifs at h
  · cases h
  · cases h; exact ⟨rfl, rfl⟩
  rcases adxl345DeviceInitAtOpen_cases s.bus with ⟨b, hb, -⟩ | ⟨e, b, k, hb, -⟩ <;>
    rw [hb] at h <;> cases h

/-- A whole `open` is its first part, then the baseline reset where that part returned `Ok`. -/
theorem open_returned {flags : UInt32} {s s' : Sys} {r : Except Error Unit}
    (h : attempt (Adxl345FileOps.open flags) s = .ok r s') :
    ∃ s₁, attempt (openInit flags) s = .ok r s₁ ∧
      (r = .ok () ∧ s' = { s₁ with lastSample := ⟨0, 0, 0⟩ } ∨
        r ≠ .ok () ∧ s' = s₁) := by
  rw [open_eq] at h
  rcases attempt_bind_eq_ok h with ⟨⟨⟩, s₁, h₁, h₂⟩ | ⟨e, h₁, rfl⟩
  · rw [run_attempt, openReset_eq] at h₂
    cases h₂
    exact ⟨s₁, attempt_of_ok h₁, .inl ⟨rfl, rfl⟩⟩
  · exact ⟨s', attempt_of_err h₁, .inr ⟨nofun, rfl⟩⟩

theorem open_panic {flags : UInt32} {s s' : Sys} {msg : String}
    (h : Adxl345FileOps.open flags s = .error (.panic msg) s') :
    msg = "Driver not initialized" ∧ s' = s := by
  rw [open_eq] at h
  rcases bind_eq_error.mp h with h₁ | ⟨_, s₁, -, h₂⟩
  · exact openInit_panic h₁
  · cases h₂

/-- `release` where it returned: it changed only the bus, left the lock free, slept under it
nowhere, transferred only under it, and cleared bit 3 of `POWER_CTL` where the chip
acknowledged, its one write. -/
theorem release_returned {s s' : Sys} {r : Except Error Unit} (h : attempt release s = .ok r s') :
    s' = { s with bus := s'.bus } ∧ s'.bus.log = s.bus.log ++ s'.effectsSince s ∧
      Effect.samples (s'.effectsSince s) = [] ∧ Effect.judged (s'.effectsSince s) = [] ∧
      Effect.copies (s'.effectsSince s) = [] ∧
      lockHeld false (s'.effectsSince s) = false ∧
      sleepsUnderLock false (s'.effectsSince s) = false ∧
      transfersLocked false (s'.effectsSince s) = true ∧
      ((s'.bus.regs = updatedPowerCtl (· &&& ~~~((1 : UInt8) <<< 3)) s.bus.regs ∧
          Effect.writes (s'.effectsSince s) = [(ADXL345_REG_POWER_CTL,
            s.bus.regs ADXL345_REG_POWER_CTL &&& ~~~((1 : UInt8) <<< 3))]) ∨
        (s'.bus.regs = s.bus.regs ∧ Effect.writes (s'.effectsSince s) = [])) := by
  rw [run_attempt, release_spec] at h
  split_ifs at h
  · obtain ⟨b, hb, hcase⟩ := adxl345DeviceCleanAtRelease_cases s.bus
    rw [dev_ok hb] at h
    cases h
    rcases hcase with ⟨hr, hl⟩ | ⟨k, hr, hl⟩
    · simp [Sys.effectsSince, hl, hr, powerCtlWrite, lockHeld, sleepsUnderLock, transfersLocked]
    · obtain ⟨hl₁, hs₁, ht₁⟩ := locked_quiet (q := List.replicate k .transfer)
        (by simp [List.all_replicate, Effect.quiet]) false
      simp only [Sys.effectsSince, hl, hr, List.length_append, List.drop_left, true_and,
        List.append_assoc, List.cons_append] at hl₁ hs₁ ht₁ ⊢
      simp [hl₁, hs₁, ht₁]

theorem release_panic {s s' : Sys} {msg : String} (h : release s = .error (.panic msg) s') :
    msg = "Driver not initialized" ∧ s' = s := by
  rw [release_spec] at h
  split_ifs at h
  · obtain ⟨b, hb, -⟩ := adxl345DeviceCleanAtRelease_cases s.bus
    rw [dev_ok hb] at h
    cases h
  · cases h; exact ⟨rfl, rfl⟩

theorem readSample_spec (s : Sys) : readSample s =
    match s.bus.next with
    | .fail _ => .error (.err Error.EIO) { s with bus := s.bus.pop }
    | .ok driven =>
      if 6 ≤ driven.length then
        .ok (Adxl345Sample.decode (driven.take 6))
          { s with bus := s.bus.pop.record (.sample (Adxl345Sample.decode (driven.take 6))) }
      else .error (.err Error.EIO) { s with bus := s.bus.pop } := by
  simp only [readSample, run_bind, run_attempt, dev, readData_spec]
  cases s.bus.next with
  | fail e => rfl
  | ok driven => by_cases h : 6 ≤ driven.length <;> simp [h]

/-- A round after `read_data`: the filter's verdict, or its panic; a dropped sample goes on to
`next` at once; a kept one is copied, `EFAULT` where the buffer has no room or is not mapped, and
`data_ready` then stops the loop, goes on, or fails with `EIO`. -/
theorem fillRound_spec {α : Type} (next : IoBufferWriter → Nat → Kern α)
    (stop : Nat → Kern α) (w : IoBufferWriter) (count : Nat) (acc : Adxl345Sample) (s : Sys) :
    fillRound next stop w count acc s =
      match filterVerdict s.lastSample acc with
      | .error msg => .error (.panic msg) s
      | .ok drop =>
        if drop then next w count { s with lastSample := acc, bus := s.bus.record (.judge acc) }
        else if 6 ≤ w.len ∧ 6 ≤ w.mapped then
          match s.bus.next with
          | .fail _ => .error (.err Error.EIO)
              { s with
                lastSample := acc
                bus := ((s.bus.record (.judge acc)).extend (copyEffects acc)).pop }
          | .ok d =>
            if d.headD 0 &&& 0x80 ≠ 0 then next ⟨w.len - 6, w.mapped - 6⟩ (count + 6)
              { s with
                lastSample := acc
                bus := ((s.bus.record (.judge acc)).extend (copyEffects acc)).pop }
            else stop (count + 6)
              { s with
                lastSample := acc
                bus := ((s.bus.record (.judge acc)).extend (copyEffects acc)).pop }
        else .error (.err Error.EFAULT)
          { s with
            lastSample := acc
            bus := (s.bus.record (.judge acc)).extend
              ((copyEffects acc).take (min w.len w.mapped / 2)) } := by
  simp only [fillRound, run_bind, adxl345FilterOut_spec]
  rcases hv : filterVerdict s.lastSample acc with msg | drop
  · rfl
  cases drop
  · simp only [Bool.false_eq_true, if_false]
    rw [copyRecord_spec]
    split
    · simp only [run_bind, run_attempt, dev, dataReady_spec, Bus.extend_next, Bus.record_next]
      cases s.bus.next with
      | fail e => rfl
      | ok d =>
        by_cases hd : d.headD 0 &&& 0x80 = 0 <;>
          simp only [hd, ne_eq, ite_true, ite_false, not_false_eq_true, not_true_eq_false]
        rfl
    · rfl
  · rfl

/-- The record of `k` rounds of a blocking poll that found no sample ready: a transfer and a
10 ms sleep each. -/
def stallLog (k : Nat) : List Effect := (List.replicate k [Effect.transfer, .sleep 10]).flatten

@[simp] theorem stallLog_zero : stallLog 0 = [] := rfl

theorem stallLog_succ (k : Nat) : stallLog (k + 1) = [.transfer, .sleep 10] ++ stallLog k := by
  simp [stallLog, List.replicate_succ]

@[simp] theorem lockHeld_stallLog (held : Bool) (k : Nat) : lockHeld held (stallLog k) = held := by
  induction k with
  | zero => rfl
  | succ k ih => rw [stallLog_succ, lockHeld_append]; exact ih

@[simp] theorem transfersLocked_stallLog (k : Nat) : transfersLocked true (stallLog k) = true := by
  induction k with
  | zero => rfl
  | succ k ih => rw [stallLog_succ, transfersLocked_append]; exact ih

theorem sleepsUnderLock_stallLog (held : Bool) (k : Nat) :
    sleepsUnderLock held (stallLog k) = (held && decide (0 < k)) := by
  induction k with
  | zero => simp [sleepsUnderLock]
  | succ k ih =>
    rw [stallLog_succ, sleepsUnderLock_append]
    cases held
    · exact ih
    · simp [sleepsUnderLock]

@[simp] theorem judged_stallLog (k : Nat) : Effect.judged (stallLog k) = [] := by
  induction k <;> simp [stallLog_succ, *]

@[simp] theorem copies_stallLog (k : Nat) : Effect.copies (stallLog k) = [] := by
  induction k <;> simp [stallLog_succ, *]

@[simp] theorem writes_stallLog (k : Nat) : Effect.writes (stallLog k) = [] := by
  induction k <;> simp [stallLog_succ, *]

@[simp] theorem samples_stallLog (k : Nat) : Effect.samples (stallLog k) = [] := by
  induction k <;> simp [stallLog_succ, *]

/-- The readiness loop writes no register; it records a transfer and a 10 ms sleep for each round
of a blocking poll that found no sample ready, and then at most one transfer more. It never
panics, and fails with `EIO`, or with `EAGAIN` in non-blocking mode. -/
theorem waitReady_final (nonblock : Bool) : ∀ (fuel : Nat) (b : Bus),
    (final (waitReady nonblock fuel b)).regs = b.regs ∧
      (∃ k t, (final (waitReady nonblock fuel b)).log =
          b.log ++ stallLog k ++ List.replicate t .transfer ∧ (nonblock = true → k = 0)) ∧
      ∀ f b', waitReady nonblock fuel b = .error f b' →
        f = .err Error.EIO ∨ (f = .err Error.EAGAIN ∧ nonblock = true)
  | 0, b =>
    ⟨rfl, ⟨0, 0, by simp [waitReady], fun _ => rfl⟩,
      fun _ _ h => by cases h; exact .inl rfl⟩
  | fuel + 1, b => by
    rw [waitReady]
    simp only [run_bind, run_attempt, dataReady_spec]
    rcases b.next with d | e
    · by_cases hready : (if d.headD 0 &&& 0x80 ≠ 0 then (1 : UInt8) else 0) > 0
      · simp only [hready, if_true, run_pure, final_ok]
        exact ⟨rfl, ⟨0, 1, by simp, fun _ => rfl⟩, fun _ _ h => by cases h⟩
      cases nonblock
      · obtain ⟨hr', ⟨k, t, hk, -⟩, he⟩ :=
          waitReady_final false fuel (b.pop.record (.sleep 10))
        simp only [hready, if_false, Bool.false_eq_true, coarseSleep, run_bind, run_emit]
        exact ⟨by simp [hr'], ⟨k + 1, t, by simp [hk, stallLog_succ], nofun⟩,
          by simpa using he⟩
      · simp only [hready, if_false, if_true, run_throwErr, final_error]
        exact ⟨rfl, ⟨0, 1, by simp, fun _ => rfl⟩,
          fun _ _ h => by cases h; exact .inr ⟨rfl, trivial⟩⟩
    · exact ⟨rfl, ⟨0, 1, by simp, fun _ => rfl⟩, fun _ _ h => by cases h; exact .inl rfl⟩

/-- More rounds change nothing once there is one more round than the adapter has answers: each
round takes an answer, and a round without one fails. -/
theorem waitReady_fuel (nonblock : Bool) : ∀ (n k : Nat) (b : Bus),
    b.answers.length < n → waitReady nonblock (n + k) b = waitReady nonblock n b
  | 0, _, _, h => absurd h (Nat.not_lt_zero _)
  | n + 1, k, b, h => by
    rw [Nat.add_right_comm, waitReady, waitReady]
    simp only [run_bind, run_attempt, dataReady_spec]
    rcases hb : b.answers with _ | ⟨a, rest⟩
    · simp [Bus.next, hb]
    · have hn : (b.pop.record (.sleep 10)).answers.length < n := by
        simp only [Bus.record, Bus.pop, hb, List.tail_cons, List.length_cons] at h ⊢
        omega
      cases b.next with
      | fail e => rfl
      | ok driven =>
        simp only
        split
        · rfl
        · cases nonblock
          · simpa [coarseSleep] using waitReady_fuel false n k _ hn
          · rfl

theorem pollReady_final (nonblock : Bool) (b : Bus) :
    (final (pollReady nonblock b)).regs = b.regs ∧
      (∃ k t, (final (pollReady nonblock b)).log =
          b.log ++ stallLog k ++ List.replicate t .transfer ∧ (nonblock = true → k = 0)) ∧
      ∀ f b', pollReady nonblock b = .error f b' →
        f = .err Error.EIO ∨ (f = .err Error.EAGAIN ∧ nonblock = true) :=
  waitReady_final nonblock _ b

/-! ### A blocking poll waits

`read`'s readiness loop has no timeout: in blocking mode a status with no sample ready costs one
transfer and a 10 ms sleep, and nothing else, so the loop goes on until a status says a sample is
ready or the adapter fails (`pollReady_sleeps_through_not_ready`). -/

/-- A blocking poll that reads a status with no sample ready sleeps 10 ms and polls again. -/
theorem pollReady_stall {b : Bus} {d : List UInt8} {rest : List Answer}
    (hb : b.answers = .ok d :: rest) (hd : d.headD 0 &&& 0x80 = 0) :
    pollReady false b = pollReady false (b.pop.record (.sleep 10)) := by
  show waitReady false (b.answers.length + 1) b =
    waitReady false ((b.pop.record (.sleep 10)).answers.length + 1) (b.pop.record (.sleep 10))
  have hlen : b.answers.length + 1 = ((b.pop.record (.sleep 10)).answers.length + 1) + 1 := by
    simp [Bus.pop, Bus.record, hb]
  rw [hlen, waitReady]
  simp only [run_bind, run_attempt, dataReady_spec, Bus.next, hb, List.headD_cons, hd, ne_eq,
    not_true_eq_false, ite_false]
  rw [if_neg (by decide)]
  rfl

/-- **A blocking poll sleeps through every status with no sample ready.** Before the first
status that has one, each costs a transfer and a 10 ms sleep and nothing else: the poll then goes
on as from the answers after them. -/
theorem pollReady_sleeps_through_not_ready : ∀ (stalls : List (List UInt8)) (b : Bus)
    (rest : List Answer), (∀ d ∈ stalls, d.headD 0 &&& 0x80 = 0) →
    b.answers = stalls.map Answer.ok ++ rest →
    pollReady false b = pollReady false
      { b with answers := rest, log := b.log ++ stallLog stalls.length }
  | [], b, rest, _, hb => by
    simp only [List.map_nil, List.nil_append] at hb
    simp [← hb]
  | d :: stalls, b, rest, hs, hb => by
    rw [pollReady_stall hb (hs d (List.mem_cons_self _ _)),
      pollReady_sleeps_through_not_ready stalls _ rest (fun d h => hs d (List.mem_cons_of_mem _ h))
        (by simp [Bus.pop, Bus.record, hb])]
    simp [Bus.pop, Bus.record, stallLog_succ]

/-- One status with no sample ready, then a ready one: the poll sleeps once. -/
theorem pollReady_one_stall : (∀ d ∈ [[(0 : UInt8)]], d.headD 0 &&& 0x80 = 0) ∧
    pollReady false ⟨fun _ => 0, [.ok [0], .ok [0x80]], []⟩ =
      pollReady false ⟨fun _ => 0, [.ok [0x80]], [.transfer, .sleep 10]⟩ :=
  ⟨by decide, pollReady_sleeps_through_not_ready [[0]] ⟨fun _ => 0, [.ok [0], .ok [0x80]], []⟩
    [.ok [0x80]] (by decide) rfl⟩

end RustAdxl345
