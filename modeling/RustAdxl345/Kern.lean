import RustAdxl345.Bus

/-!
# The driver's globals

`Sys` is the machine as the driver's functions see it: the bus, the two statics of
`fileops.rs` (`DEVICE_PTR`, `ADXL345_LAST_SAMPLE`), whether a character-device `Registration`
is alive, the client's `clientdata` slot, and how the kernel answers a character-device
registration. A `Kern` computation runs on `Sys`; `dev` runs a call on the device, which can
touch only the bus (`dev_ok`, `dev_error`).
-/

namespace RustAdxl345

open Op

/-- How the kernel answers the character-device registration of `adxl345_chardev_add`. -/
inductive ChrdevAnswer
  | ok
  /-- `Registration::new_pinned` returns `Err(e)`. -/
  | newPinnedFails (e : Error)
  /-- `register::<Adxl345FileOps>()` returns `Err(e)`. -/
  | registerFails (e : Error)
  deriving DecidableEq, Repr

/-- The machine as the driver's functions see it. -/
structure Sys where
  bus : Bus
  /-- `DEVICE_PTR` is `Some` (of the one device `Arc`). -/
  devicePtr : Bool
  /-- `ADXL345_LAST_SAMPLE`, the filter's baseline. -/
  lastSample : Adxl345Sample
  /-- A `Registration` of the character device is alive: the node is reachable. -/
  registered : Bool
  /-- The client's `clientdata` points at the `Adxl345Driver`. -/
  clientdata : Bool
  chrdev : ChrdevAnswer

/-- A kernel call of the driver. -/
abbrev Kern := Op Sys

/-- A call on the device, from a kernel call. -/
def dev {α : Type} (x : Dev α) : Kern α := fun s =>
  match x s.bus with
  | .ok a b => .ok a { s with bus := b }
  | .error e b => .error e { s with bus := b }

theorem dev_ok {α : Type} {x : Dev α} {s : Sys} {a : α} {b : Bus} (h : x s.bus = .ok a b) :
    dev x s = .ok a { s with bus := b } := by
  simp [dev, h]

theorem dev_error {α : Type} {x : Dev α} {s : Sys} {e : Fault} {b : Bus}
    (h : x s.bus = .error e b) : dev x s = .error e { s with bus := b } := by
  simp [dev, h]

theorem error_of_dev {α : Type} {x : Dev α} {s s' : Sys} {f : Fault} (h : dev x s = .error f s') :
    x s.bus = .error f s'.bus := by
  rcases hx : x s.bus with ⟨a, b⟩ | ⟨f', b⟩ <;> simp only [dev, hx, reduceCtorEq] at h
  cases h
  rfl

/-- The effects recorded on the way from `s` to `s'`. -/
def Sys.effectsSince (s' s : Sys) : List Effect := s'.bus.log.drop s.bus.log.length

@[simp] theorem Sys.effectsSince_self (s : Sys) : s.effectsSince s = [] := by
  simp [Sys.effectsSince]

theorem Sys.effectsSince_of_log {s s' : Sys} {es : List Effect} (h : s'.bus.log = s.bus.log ++ es) :
    s'.effectsSince s = es := by
  simp [Sys.effectsSince, h]

theorem Sys.effectsSince_trans {s₁ s₂ s₃ : Sys}
    (h₁ : s₂.bus.log = s₁.bus.log ++ s₂.effectsSince s₁)
    (h₂ : s₃.bus.log = s₂.bus.log ++ s₃.effectsSince s₂) :
    s₃.effectsSince s₁ = s₂.effectsSince s₁ ++ s₃.effectsSince s₂ :=
  Sys.effectsSince_of_log (by rw [h₂, h₁, List.append_assoc])

@[simp] theorem final_dev {α : Type} (x : Dev α) (s : Sys) :
    final (dev x s) = { s with bus := final (x s.bus) } := by
  unfold dev; cases x s.bus <;> rfl

end RustAdxl345
