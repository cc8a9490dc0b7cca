import RustAdxl345.Core

/-!
# The bus callbacks (`I2CDriverVtable`, `kernel/i2c/driver.rs`)

The bus core calls the driver through C callbacks. Each finds the `Adxl345Driver` through the
client's `clientdata` pointer (`get_driver_instance`), which the module's `init` set, and runs
the driver's method; a null pointer gives `EINVAL`. `remove_callback` runs `remove` and then
frees `clientdata`; nothing sets it again.

All six callbacks have one shape, `withDriverInstance`: a handler when the pointer is set, and a
value built from the error when it is not. `probeCallback` returns `0` exactly when `probe`
returns, since `probe` never returns `Err` (`probeCallback_eq`).
-/

namespace RustAdxl345

open Op

namespace I2CDriverVtable

/-- `get_driver_instance`: `EINVAL` when `clientdata` is null. -/
def getDriverInstance : Kern Unit := do
  if !(← get).clientdata then throwErr .EINVAL

/-- `client.free_clientdata()`: the pointer becomes null. -/
def freeClientdata : Kern Unit := modify fun s => { s with clientdata := false }

/-- A callback: `handler` on the driver found in `clientdata`, or `onNull err` when
`get_driver_instance` fails with `err`. -/
def withDriverInstance {α : Type} (handler : Kern α) (onNull : Error → α) : Kern α := do
  match ← attempt getDriverInstance with
  | .ok () => handler
  | .error err => pure (onNull err)

/-- `probe_callback`: `0`, or the errno of `probe`'s error. -/
def probeCallback : Kern Int :=
  withDriverInstance
    (do
      match ← attempt Adxl345Driver.probe with
      | .ok () => pure 0
      | .error e => pure e.errno)
    Error.errno

/-- `remove_callback`: `remove`, then `free_clientdata`. -/
def removeCallback : Kern Unit :=
  withDriverInstance
    (do
      Adxl345Driver.remove
      freeClientdata)
    fun _ => ()

/-- `shutdown_callback`, with the default `shutdown`, which only logs. -/
def shutdownCallback : Kern Unit := withDriverInstance (pure ()) fun _ => ()

/-- `alert_callback`, with the default `alert`, which only logs. -/
def alertCallback : Kern Unit := withDriverInstance (pure ()) fun _ => ()

/-- `command_callback`, with the default `command`, which returns `Ok(())`. -/
def commandCallback : Kern Int := withDriverInstance (pure 0) Error.errno

/-- `detect_callback`, with the default `detect`, which returns `Ok(())`. -/
def detectCallback : Kern Int := withDriverInstance (pure 0) Error.errno

theorem getDriverInstance_eq (s : Sys) :
    getDriverInstance s = if s.clientdata then .ok () s else .error (.err .EINVAL) s := by
  cases h : s.clientdata <;> simp [getDriverInstance, h]

theorem withDriverInstance_eq {α : Type} (handler : Kern α) (onNull : Error → α) (s : Sys) :
    withDriverInstance handler onNull s =
      if s.clientdata then handler s else .ok (onNull .EINVAL) s := by
  cases h : s.clientdata <;> simp [withDriverInstance, run_attempt, getDriverInstance_eq, h]

theorem withDriverInstance_pure {α : Type} (a : α) (onNull : Error → α) (s : Sys) :
    withDriverInstance (pure a) onNull s = .ok (if s.clientdata then a else onNull .EINVAL) s := by
  rw [withDriverInstance_eq]
  split <;> rfl

/-- `probe_callback` is `probe` followed by `0`: the error branch is dead. -/
theorem probeCallback_eq : probeCallback =
    withDriverInstance (do Adxl345Driver.probe; pure 0) Error.errno := by
  funext s
  simp only [probeCallback, withDriverInstance_eq]
  split
  · simp only [run_bind, run_attempt]
    rcases h : Adxl345Driver.probe s with ⟨⟨⟩, s'⟩ | ⟨e | m, s'⟩
    · rfl
    · exact absurd h (Adxl345Driver.probe_ne_err s s' e)
    · rfl
  · rfl

end I2CDriverVtable

end RustAdxl345
