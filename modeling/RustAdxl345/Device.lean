import RustAdxl345.Bus
import Mathlib.Tactic.FinCases

/-!
# The register protocol (`Adxl345`, `structures/mod.rs`)

The methods of `Adxl345` are short command sequences on the client: `data_ready` reads the
interrupt source, `enable_measure` and `disable_measure` read `POWER_CTL` and write it back with
bit 3 (Measure) set or cleared, `set_default_config` runs the eight transfers of the default
configuration and stops at the first failure, and `read_data` reads the six axis bytes and
decodes them. Each has a spec lemma that says what it returns and what it leaves on the bus.

`measureOn` is bit 3 of `POWER_CTL`; `SameOutsideMeasure` says two values of `POWER_CTL` differ at
most in that bit. `Configured r₀ r` is what a successful `set_default_config` leaves in the
register file `r`, from the file `r₀` it started on.
-/

namespace RustAdxl345

open Op

/-! ### Bit 3 of `POWER_CTL` -/

/-- Bit 3 (Measure) of a `POWER_CTL` value. -/
def measureOn (powerCtl : UInt8) : Bool := powerCtl.toBitVec.getLsbD 3

/-- Two `POWER_CTL` values agree on every bit but bit 3. -/
def SameOutsideMeasure (a b : UInt8) : Prop :=
  a &&& ~~~((1 : UInt8) <<< 3) = b &&& ~~~((1 : UInt8) <<< 3)

theorem measureOn_set (v : UInt8) : measureOn (v ||| (1 : UInt8) <<< 3) = true := by
  show (v.toBitVec ||| 8#8).getLsbD 3 = true
  simp [Nat.testBit]

theorem sameOutsideMeasure_set (v : UInt8) : SameOutsideMeasure (v ||| (1 : UInt8) <<< 3) v := by
  apply UInt8.eq_of_toBitVec_eq
  show (v.toBitVec ||| 8#8) &&& ~~~8#8 = v.toBitVec &&& ~~~8#8
  ext i
  simp only [BitVec.getLsbD_and, BitVec.getLsbD_or, BitVec.getLsbD_not, BitVec.getLsbD_ofNat]
  fin_cases i <;> simp [Nat.testBit]

theorem and_and_self (v m : UInt8) : (v &&& m) &&& m = v &&& m := by
  apply UInt8.eq_of_toBitVec_eq
  show (v.toBitVec &&& m.toBitVec) &&& m.toBitVec = v.toBitVec &&& m.toBitVec
  rw [BitVec.and_assoc, BitVec.and_self]

theorem sameOutsideMeasure_clear (v : UInt8) :
    SameOutsideMeasure (v &&& ~~~((1 : UInt8) <<< 3)) v :=
  and_and_self v _

theorem and_ff (v : UInt8) : v &&& 0xFF = v := by
  apply UInt8.eq_of_toBitVec_eq
  show v.toBitVec &&& BitVec.allOnes 8 = v.toBitVec
  exact BitVec.and_allOnes

/-! ### The methods -/

namespace Adxl345

/-- `read_register`. -/
def readRegister (regName : UInt8) : Dev UInt8 := I2CClient.readByte regName

/-- `write_register`. -/
def writeRegister (regName value : UInt8) : Dev Unit := I2CClient.writeByte regName value

/-- `data_ready`: `1` when bit 7 (DATA_READY) of the interrupt source is set, else `0`. -/
def dataReady : Dev UInt8 := do
  let ret ← readRegister ADXL345_REG_INT_SOURCE
  pure (if ret &&& 0x80 ≠ 0 then 1 else 0)

/-- `read_register(POWER_CTL)`, then `write_register(POWER_CTL, f(ret))`: the body of
`enable_measure` and of `disable_measure`. -/
def updatePowerCtl (f : UInt8 → UInt8) : Dev Unit := do
  let ret ← readRegister ADXL345_REG_POWER_CTL
  writeRegister ADXL345_REG_POWER_CTL (f ret)

/-- `enable_measure`: set bit 3 of `POWER_CTL`. -/
def enableMeasure : Dev Unit := updatePowerCtl (· ||| (1 : UInt8) <<< 3)

/-- `disable_measure`: clear bit 3 of `POWER_CTL`. -/
def disableMeasure : Dev Unit := updatePowerCtl (· &&& ~~~((1 : UInt8) <<< 3))

/-- `set_default_config`: standby, interrupts off, low-power bit of `BW_RATE` cleared, full
resolution, interrupts routed to INT1, FIFO bypassed. -/
def setDefaultConfig : Dev Unit := do
  writeRegister ADXL345_REG_POWER_CTL 0x00
  writeRegister ADXL345_REG_INT_ENABLE 0x00
  let value ← readRegister ADXL345_REG_BW_RATE
  writeRegister ADXL345_REG_BW_RATE ((value &&& (0xFF : UInt8)) &&& ~~~((1 : UInt8) <<< 4))
  writeRegister ADXL345_REG_DATA_FORMAT 0x0B
  writeRegister ADXL345_REG_INT_MAP 0x00
  let value ← readRegister ADXL345_REG_FIFO_CTL
  writeRegister ADXL345_REG_FIFO_CTL ((value &&& (0xFF : UInt8)) &&& ~~~((3 : UInt8) <<< 6))

/-- `read_data`: six bytes from `DATAX0` on, decoded; a short read is `EINVAL`. -/
def readData : Dev Adxl345Sample := do
  let data ← I2CClient.readI2cBlock ADXL345_REG_DATAX0 6
  if data.length = 6 then
    let sample := Adxl345Sample.decode data
    emit (.sample sample)
    pure sample
  else throwErr .EINVAL

/-! ### Spec lemmas -/

theorem dataReady_spec (b : Bus) : dataReady b =
    match b.next with
    | .fail e => .error (.err e) b.pop
    | .ok driven => .ok (if driven.headD 0 &&& 0x80 ≠ 0 then 1 else 0) b.pop := by
  simp only [dataReady, readRegister, run_bind, I2CClient.readByte_spec]
  cases b.next <;> rfl

theorem updatePowerCtl_spec (f : UInt8 → UInt8) (b : Bus) : updatePowerCtl f b =
    match b.next, b.pop.next with
    | .fail e, _ => .error (.err e) b.pop
    | .ok _, .fail e => .error (.err e) b.pop.pop
    | .ok _, .ok _ => .ok () (b.pop.pop.store ADXL345_REG_POWER_CTL
        (f (b.regs ADXL345_REG_POWER_CTL))) := by
  simp only [updatePowerCtl, readRegister, writeRegister, run_bind, I2CClient.readByte_spec,
    I2CClient.writeByte_spec]
  rcases h1 : b.next with d | e <;> rcases h2 : b.pop.next with d' | e' <;> simp [h1, h2]

theorem readData_spec (b : Bus) : readData b =
    match b.next with
    | .fail e => .error (.err e) b.pop
    | .ok driven =>
      if 6 ≤ driven.length then
        .ok (Adxl345Sample.decode (driven.take 6))
          (b.pop.record (.sample (Adxl345Sample.decode (driven.take 6))))
      else .error (.err .EINVAL) b.pop := by
  simp only [readData, run_bind, I2CClient.readI2cBlock_spec]
  cases b.next with
  | fail e => rfl
  | ok driven =>
    have h6 : (6 : UInt8).toNat = 6 := rfl
    have hlen : (driven.take 6).length = 6 ↔ 6 ≤ driven.length := by
      rw [List.length_take]
      omega
    simp only [chipDriven_dataX0, if_true, h6]
    by_cases h : 6 ≤ driven.length
    · simp [h, hlen.mpr h]
    · simp [h, mt hlen.mp h]

theorem readData_cases (b : Bus) :
    (∃ s, readData b = .ok s (b.pop.record (.sample s))) ∨
      ∃ e, readData b = .error (.err e) b.pop := by
  rw [readData_spec]
  split
  · exact .inr ⟨_, rfl⟩
  · split
    · exact .inl ⟨_, rfl⟩
    · exact .inr ⟨_, rfl⟩

end Adxl345

end RustAdxl345

namespace RustAdxl345

open Op

/-- What a successful `set_default_config` leaves in the register file `r`, from the file `r₀`
it started on: the registers it writes hold their default values, and `BW_RATE` and `FIFO_CTL`
keep their other bits with the low-power bit and the FIFO mode bits cleared. -/
structure Configured (r₀ r : UInt8 → UInt8) : Prop where
  dataFormat : r ADXL345_REG_DATA_FORMAT = 0x0B
  intEnable : r ADXL345_REG_INT_ENABLE = 0x00
  intMap : r ADXL345_REG_INT_MAP = 0x00
  bwRate : r ADXL345_REG_BW_RATE = r₀ ADXL345_REG_BW_RATE &&& ~~~((1 : UInt8) <<< 4)
  fifoCtl : r ADXL345_REG_FIFO_CTL = r₀ ADXL345_REG_FIFO_CTL &&& ~~~((3 : UInt8) <<< 6)

namespace Adxl345

theorem writeRegister_ok {reg v : UInt8} {b b' : Bus} (h : writeRegister reg v b = .ok () b') :
    b' = b.pop.store reg v := by
  rw [writeRegister, I2CClient.writeByte_spec] at h
  split at h <;> cases h
  rfl

theorem writeRegister_cases (reg v : UInt8) (b : Bus) :
    writeRegister reg v b = .ok () (b.pop.store reg v) ∨
      ∃ e, writeRegister reg v b = .error (.err e) b.pop := by
  rw [writeRegister, I2CClient.writeByte_spec]
  cases b.next
  · exact .inl rfl
  · exact .inr ⟨_, rfl⟩

theorem ok_of_write_bind {α : Type} {reg v : UInt8} {k : Unit → Dev α} {b b' : Bus} {a : α}
    (h : (writeRegister reg v >>= k) b = .ok a b') : k () (b.pop.store reg v) = .ok a b' := by
  obtain ⟨_, b₁, h₁, h⟩ := bind_eq_ok.mp h
  rwa [← writeRegister_ok h₁]

theorem ok_of_read_bind {α : Type} {reg : UInt8} {k : UInt8 → Dev α} {b b' : Bus} {a : α}
    (h : (readRegister reg >>= k) b = .ok a b') (hreg : chipDriven reg = false) :
    k (b.regs reg) b.pop = .ok a b' := by
  obtain ⟨v, b₁, h₁, h⟩ := bind_eq_ok.mp h
  rw [readRegister, I2CClient.readByte_spec] at h₁
  split at h₁ <;> cases h₁
  simpa [hreg] using h

theorem setDefaultConfig_ok {b b' : Bus} (h : setDefaultConfig b = .ok () b') :
    Configured b.regs b'.regs ∧ b'.regs ADXL345_REG_POWER_CTL = 0 := by
  unfold setDefaultConfig at h
  have h := ok_of_read_bind (ok_of_write_bind (ok_of_write_bind h)) chipDriven_bwRate
  have h := ok_of_read_bind (ok_of_write_bind (ok_of_write_bind (ok_of_write_bind h)))
    chipDriven_fifoCtl
  obtain rfl := writeRegister_ok h
  refine ⟨⟨?_, ?_, ?_, ?_, ?_⟩, ?_⟩ <;> simp +decide [Function.update_apply, and_ff]

/-- `set_default_config`, whatever the adapter answers, records only transfers and acknowledged
writes, and fails only with an `Err`. -/
theorem setDefaultConfig_final (b : Bus) :
    (∃ q, (final (setDefaultConfig b)).log = b.log ++ q ∧ q.all Effect.quiet = true) ∧
      ∀ f b', setDefaultConfig b = .error f b' → ∃ e, f = .err e := by
  simp only [setDefaultConfig, readRegister, writeRegister, I2CClient.readByte_bind,
    I2CClient.writeByte_bind, I2CClient.writeByte_spec]
  repeat' split
  all_goals simp only [final_ok, final_error, Bus.pop_log, Bus.store_log, List.append_assoc,
    List.singleton_append, List.cons_append, List.nil_append, List.append_cancel_left_eq,
    exists_eq_left', List.all_cons, List.all_nil, Effect.quiet, Bool.and_true, Bool.true_and,
    true_and, and_true, EStateM.Result.error.injEq, reduceCtorEq, false_implies, implies_true,
    and_imp, forall_eq', forall_apply_eq_imp_iff, exists_eq', Fault.err.injEq]

end Adxl345

end RustAdxl345
