import RustAdxl345.Device

/-!
# Device set-up and clean-up (`utility.rs`)

`adxl345_device_init` runs at probe: under the device lock the default configuration and
`enable_measure`, then (lock dropped) the wake-up sleep, then under the lock a verification
`read_data` and `disable_measure`. `adxl345_device_clean` runs at remove. At open,
`adxl345_device_init_at_open` enables measurement and drops the lock before its sleep; at release,
`adxl345_device_clean_at_release` disables it and ignores the result.

The `*_cases` lemmas say everything each call can do to the register file and the record: a
successful enable sets bit 3 of `POWER_CTL`, a failed one changes no register.
-/

namespace RustAdxl345

open Op Adxl345

/-- `adxl345_device_init`. -/
def adxl345DeviceInit : Dev Unit := do
  guarded do
    setDefaultConfig
    enableMeasure
  coarseSleep 2
  guarded do
    let _ ← readData
    disableMeasure

/-- `adxl345_device_clean`: interrupts off, standby. -/
def adxl345DeviceClean : Dev Unit :=
  guarded do
    writeRegister ADXL345_REG_INT_ENABLE 0x00
    writeRegister ADXL345_REG_POWER_CTL 0x00

/-- `adxl345_device_init_at_open`: the lock is dropped before the wake-up sleep. -/
def adxl345DeviceInitAtOpen : Dev Unit := do
  lock
  let ret ← attempt enableMeasure
  unlock
  match ret with
  | .ok () => coarseSleep 2
  | .error _ => pure ()
  ofExcept ret

/-- `adxl345_device_clean_at_release`: the result of `disable_measure` is ignored. -/
def adxl345DeviceCleanAtRelease : Dev Unit := do
  lock
  let _ ← attempt disableMeasure
  unlock

/-! ### What `enable_measure` and `disable_measure` can do -/

/-- The register file with `POWER_CTL` rewritten to `f` of its value. -/
def updatedPowerCtl (f : UInt8 → UInt8) (regs : UInt8 → UInt8) : UInt8 → UInt8 :=
  Function.update regs ADXL345_REG_POWER_CTL (f (regs ADXL345_REG_POWER_CTL))

/-- The effects of a successful `updatePowerCtl f` on the file `regs`: two transfers and the
write. -/
def powerCtlWrite (f : UInt8 → UInt8) (regs : UInt8 → UInt8) : List Effect :=
  [.transfer, .transfer, .write ADXL345_REG_POWER_CTL (f (regs ADXL345_REG_POWER_CTL))]

/-- `updatePowerCtl f` writes `f` of `POWER_CTL` back, or fails after one or two transfers with
the file unchanged. -/
theorem updatePowerCtl_cases (f : UInt8 → UInt8) (b : Bus) :
    (∃ b', updatePowerCtl f b = .ok () b' ∧ b'.regs = updatedPowerCtl f b.regs ∧
      b'.log = b.log ++ powerCtlWrite f b.regs) ∨
    (∃ e b' k, updatePowerCtl f b = .error (.err e) b' ∧ b'.regs = b.regs ∧
      b'.log = b.log ++ List.replicate k .transfer) := by
  rw [updatePowerCtl_spec]
  rcases b.next with d | e <;> rcases b.pop.next with d' | e'
  · exact .inl ⟨_, rfl, rfl, by simp [powerCtlWrite]⟩
  · exact .inr ⟨e', _, 2, rfl, rfl, by simp⟩
  · exact .inr ⟨e, _, 1, rfl, rfl, by simp⟩
  · exact .inr ⟨e, _, 1, rfl, rfl, by simp⟩

theorem updatePowerCtl_ok {f : UInt8 → UInt8} {b b' : Bus} (h : updatePowerCtl f b = .ok () b') :
    b'.regs = updatedPowerCtl f b.regs := by
  rcases updatePowerCtl_cases f b with ⟨b₁, h₁, hr, -⟩ | ⟨e, b₁, k, h₁, -⟩ <;>
    rw [h] at h₁ <;> cases h₁
  exact hr

end RustAdxl345

namespace RustAdxl345

open Op Adxl345

theorem adxl345DeviceInitAtOpen_cases (b : Bus) :
    (∃ b', adxl345DeviceInitAtOpen b = .ok () b' ∧
      b'.regs = updatedPowerCtl (· ||| (1 : UInt8) <<< 3) b.regs ∧
      b'.log = b.log ++ .lock :: powerCtlWrite (· ||| (1 : UInt8) <<< 3) b.regs ++
        [.unlock, .sleep 2]) ∨
    (∃ e b' k, adxl345DeviceInitAtOpen b = .error (.err e) b' ∧ b'.regs = b.regs ∧
      b'.log = b.log ++ .lock :: List.replicate k .transfer ++ [.unlock]) := by
  rcases updatePowerCtl_cases (· ||| (1 : UInt8) <<< 3) (b.record .lock) with
    ⟨b₁, h, hr, hl⟩ | ⟨e, b₁, k, h, hr, hl⟩
  · exact .inl ⟨(b₁.record .unlock).record (.sleep 2), by simp [adxl345DeviceInitAtOpen,
      enableMeasure, lock, unlock, coarseSleep, attempt_of_ok h], by simp [hr, updatedPowerCtl],
      by simp [hl]⟩
  · exact .inr ⟨e, b₁.record .unlock, k, by simp [adxl345DeviceInitAtOpen, enableMeasure, lock,
      unlock, attempt_of_err h], by simp [hr], by simp [hl]⟩

theorem adxl345DeviceCleanAtRelease_cases (b : Bus) :
    ∃ b', adxl345DeviceCleanAtRelease b = .ok () b' ∧
      ((b'.regs = updatedPowerCtl (· &&& ~~~((1 : UInt8) <<< 3)) b.regs ∧
        b'.log = b.log ++ .lock :: powerCtlWrite (· &&& ~~~((1 : UInt8) <<< 3)) b.regs ++
          [.unlock]) ∨
       (∃ k, b'.regs = b.regs ∧
          b'.log = b.log ++ .lock :: List.replicate k .transfer ++ [.unlock])) := by
  rcases updatePowerCtl_cases (· &&& ~~~((1 : UInt8) <<< 3)) (b.record .lock) with
    ⟨b₁, h, hr, hl⟩ | ⟨e, b₁, k, h, hr, hl⟩
  · exact ⟨b₁.record .unlock,
      by simp [adxl345DeviceCleanAtRelease, disableMeasure, lock, unlock, attempt_of_ok h],
      .inl ⟨by simp [hr, updatedPowerCtl], by simp [hl]⟩⟩
  · exact ⟨b₁.record .unlock,
      by simp [adxl345DeviceCleanAtRelease, disableMeasure, lock, unlock, attempt_of_err h],
      .inr ⟨k, by simp [hr], by simp [hl]⟩⟩

end RustAdxl345

namespace RustAdxl345

open Op Adxl345

/-! ### The lock on every answer of the adapter -/

/-- **`adxl345_device_init` drops the lock before it sleeps.** Whatever the adapter answers, its
transfers run under the lock, the wake-up sleep with the lock free, it leaves the lock free, and
it fails only with an `Err`. -/
theorem adxl345DeviceInit_final (b : Bus) :
    (∃ es, (final (adxl345DeviceInit b)).log = b.log ++ es ∧ lockHeld false es = false ∧
      sleepsUnderLock false es = false ∧ transfersLocked false es = true) ∧
      ∀ f b', adxl345DeviceInit b = .error f b' → ∃ e, f = .err e := by
  obtain ⟨⟨q, hq, hquiet⟩, herr⟩ := setDefaultConfig_final (b.record .lock)
  obtain ⟨hl₁, hs₁⟩ := lockHeld_quiet hquiet true
  have ht₁ := transfersLocked_quiet hquiet
  -- the outcomes: the set-up, `enable_measure`, the verification read or `disable_measure`
  -- fails, or all succeed
  rcases h₁ : setDefaultConfig (b.record .lock) with ⟨⟨⟩, b₁⟩ | ⟨f, b₁⟩ <;>
    simp only [h₁, final_ok, final_error, Bus.record_log, List.append_assoc,
      List.singleton_append] at hq
  on_goal 2 => obtain ⟨e, rfl⟩ := herr _ _ h₁
  rcases updatePowerCtl_cases (· ||| (1 : UInt8) <<< 3) b₁ with
    ⟨b₂, h₂, -, hl₂⟩ | ⟨e, b₂, k, h₂, -, hl₂⟩
  rcases readData_cases (((b₂.record .unlock).record (.sleep 2)).record .lock) with
    ⟨s, h₃⟩ | ⟨e, h₃⟩
  rcases updatePowerCtl_cases (· &&& ~~~((1 : UInt8) <<< 3))
    ((((b₂.record .unlock).record (.sleep 2)).record .lock).pop.record (.sample s)) with
    ⟨b₄, h₄, -, hl₄⟩ | ⟨e, b₄, k', h₄, -, hl₄⟩
  all_goals simp [*, adxl345DeviceInit, guarded, bracket, lock, unlock, coarseSleep,
    enableMeasure, disableMeasure, run_attempt, lockHeld_append, sleepsUnderLock_append,
    transfersLocked_append, powerCtlWrite, lockHeld, sleepsUnderLock, transfersLocked,
    lockHeld_transfers]

/-- `adxl345_device_clean` makes its two writes under the lock, leaves it free, and fails only
with an `Err`. -/
theorem adxl345DeviceClean_final (b : Bus) :
    (∃ es, (final (adxl345DeviceClean b)).log = b.log ++ es ∧ lockHeld false es = false ∧
      sleepsUnderLock false es = false ∧ transfersLocked false es = true) ∧
      ∀ f b', adxl345DeviceClean b = .error f b' → ∃ e, f = .err e := by
  rcases writeRegister_cases ADXL345_REG_INT_ENABLE 0 (b.record .lock) with h₁ | ⟨e, h₁⟩
  rcases writeRegister_cases ADXL345_REG_POWER_CTL 0
    (((b.record .lock).pop).store ADXL345_REG_INT_ENABLE 0) with h₂ | ⟨e, h₂⟩
  all_goals simp [*, adxl345DeviceClean, guarded, bracket, lock, unlock, run_attempt, lockHeld,
    sleepsUnderLock, transfersLocked]

/-! ### Probe's set-up configures the chip -/

theorem Configured.update_powerCtl {r₀ r : UInt8 → UInt8} (h : Configured r₀ r) (v : UInt8) :
    Configured r₀ (Function.update r ADXL345_REG_POWER_CTL v) := by
  obtain ⟨h₁, h₂, h₃, h₄, h₅⟩ := h
  constructor <;> rwa [Function.update_noteq (by decide)]

theorem Configured.update_intEnable {r₀ r : UInt8 → UInt8} (h : Configured r₀ r) :
    Configured r₀ (Function.update r ADXL345_REG_INT_ENABLE 0) := by
  obtain ⟨h₁, h₂, h₃, h₄, h₅⟩ := h
  refine ⟨?_, by simp, ?_, ?_, ?_⟩ <;> rwa [Function.update_noteq (by decide)]

theorem readData_ok {b b' : Bus} {s : Adxl345Sample} (h : readData b = .ok s b') :
    b'.regs = b.regs ∧ b'.log = b.log ++ [.transfer, .sample s] := by
  rcases readData_cases b with ⟨s', h'⟩ | ⟨e, h'⟩ <;> rw [h'] at h <;> cases h
  simp

/-- A successful `adxl345_device_init` leaves the chip configured (and in standby). -/
theorem adxl345DeviceInit_ok {b b' : Bus} (h : adxl345DeviceInit b = .ok () b') :
    Configured b.regs b'.regs := by
  obtain ⟨_, b₁, h₁, h⟩ := bind_eq_ok.mp h
  obtain ⟨_, b₂, h₂, h₃⟩ := bind_eq_ok.mp h
  obtain ⟨c₁, hc₁, rfl⟩ := guarded_eq_ok.mp h₁
  obtain ⟨_, c₂, hsd, hen⟩ := bind_eq_ok.mp hc₁
  obtain ⟨c₃, hc₃, rfl⟩ := guarded_eq_ok.mp h₃
  obtain ⟨_, c₄, hrd, hdis⟩ := bind_eq_ok.mp hc₃
  cases h₂
  have hcfg : Configured b.regs c₁.regs := by
    rw [updatePowerCtl_ok hen]; exact (setDefaultConfig_ok hsd).1.update_powerCtl _
  show Configured b.regs c₃.regs
  rw [updatePowerCtl_ok hdis, updatedPowerCtl, (readData_ok hrd).1]
  exact hcfg.update_powerCtl _

end RustAdxl345
