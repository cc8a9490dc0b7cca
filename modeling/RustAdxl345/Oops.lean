import RustAdxl345.System
import RustAdxl345.Read

/-!
# Every oops of the driver

A Rust panic in the driver oopses the kernel. Each call of the driver says where it can panic:
the chip's methods never do, on any answer of the adapter (`adxl345DeviceInit_final`,
`adxl345DeviceClean_final`); `open`, `release` and the first part of `read` panic only at
`expect("Driver not initialized")` (`open_panic`, `release_panic`, `readEnter_panic`), the later
parts of `read` only at the filter's overflow checks (`readOn_panic`), and the steps of `probe` and
`remove` only at `probe`'s `expect`s and at `register`'s (`Stage.run_panic`). A step runs one of
these calls (`step_exec`), so it oopses only with a message that its code names (`step_oops`).
-/

namespace RustAdxl345

open Op Adxl345 Adxl345FileOps

/-- The messages a step of a callback can panic with: those of its `expect`s and of the
`expect` of `register` that `adxl345_chardev_add` runs. -/
def Stage.panics : Stage → List String
  | .probeInit => ["Failed Device initialization"]
  | .probeRegister => ["Registration failed", "Failed during chard dev registration"]
  | .probeStore | .probePublish | .removeClean | .removeUnregister | .removeUnpublish
  | .removeFree => []

/-- The messages a step can oops with. -/
def Action.panics : Action → List String
  | .resume st => st.panics
  | .open _ | .openStart _ | .readStart _ _ _ | .release _ => ["Driver not initialized"]
  | .read _ _ _ => ["Driver not initialized", "attempt to subtract with overflow",
      "attempt to negate with overflow"]
  | .readContinue _ => ["attempt to subtract with overflow", "attempt to negate with overflow"]
  | .probe | .remove | .bus _ | .openFinish _ => []

theorem Stage.run_panic {st : Stage} {s s' : Sys} {msg : String}
    (h : st.run s = .error (.panic msg) s') : msg ∈ st.panics := by
  cases st with
  | probeInit =>
    rcases expect_panic h with rfl | hp
    · exact List.mem_singleton_self _
    · obtain ⟨e, he⟩ := (adxl345DeviceInit_final s.bus).2 _ _ (error_of_dev hp)
      cases he
  | probeRegister =>
    rcases expect_panic h with rfl | hp
    · simp [Stage.panics]
    · rcases hc : s.chrdev with _ | e | e <;> simp [adxl345ChardevAdd, hc] at hp
      simp [Stage.panics, ← hp.1]
  | removeClean =>
    rcases hx : adxl345DeviceClean s.bus with ⟨⟨⟩, b⟩ | ⟨f, b⟩
    · simp [Stage.run, Adxl345Driver.removeClean, run_attempt, dev, hx] at h
    · obtain ⟨e, rfl⟩ := (adxl345DeviceClean_final s.bus).2 _ _ hx
      simp [Stage.run, Adxl345Driver.removeClean, run_attempt, dev, hx] at h
  | probeStore => cases (Adxl345Driver.probeStore_eq s).symm.trans h
  | removeUnregister => cases (Adxl345Driver.removeUnregister_eq s).symm.trans h
  | probePublish | removeUnpublish | removeFree => cases h

/-- **Every oops is one the code names.** A step that oopses does so with a message of its
action: that of an `expect` its code runs, of `register`'s `expect`, or of an overflow check of
the filter. `probe`, `remove`, the other bus callbacks, the baseline reset and the last steps of
the callbacks never oops, whatever the adapter answers. -/
theorem step_oops {m : Machine} {a : Action} {msg : String} {es : List Effect}
    (h : step m a = some (.oops msg es)) : msg ∈ a.panics := by
  suffices hP : a.callSatisfies
      (fun _ x => ∀ s', x m.sys = .error (.panic msg) s' → msg ∈ a.panics) m by
    obtain ⟨α, x, k, hn, hx⟩ := step_exec h hP
    obtain ⟨s, hs⟩ := Machine.exec_eq_oops hn.symm
    exact hx s hs
  cases a <;> dsimp only [Action.callSatisfies, Action.panics]
  case probe | remove =>
    intro s' h
    rw [I2CDriverVtable.getDriverInstance_eq] at h
    split at h <;> cases h
  case bus e =>
    intro s' h
    obtain ⟨r, hr⟩ := e.callback_eq m.sys
    cases hr.symm.trans h
  case resume st => exact fun s' h => Stage.run_panic h
  case «open» => exact fun s' h => by simp [(open_panic h).1]
  case openStart => exact fun s' h => by simp [(openInit_panic h).1]
  case openFinish => exact fun s' h => by cases (openReset_eq m.sys).symm.trans h
  case read => exact fun s' h => by rcases (read_panic h).1 with rfl | rfl | rfl <;> simp
  case readStart => exact fun s' h => by simp [(readEnter_panic h).1]
  case readContinue =>
    intro p _ s' h
    rcases filterVerdict_error (readOn_panic h).1 with rfl | rfl <;> simp
  case release => exact fun s' h => by simp [(release_panic h).1]

set_option smartUnfolding false in
/-- The read that overflows in the filter oopses with one of the messages of `read`. -/
theorem overflow_oops_of_read :
    ∃ m h es, Reach (boot (fun _ => 0)
        (openedAnswers [.ok [0x80], .ok [0, 0xE0, 0, 0, 0, 0]]) .ok) m h ∧
      step m (.read 0 0 ⟨6, 6⟩) = some (.oops "attempt to negate with overflow" es) ∧
      "attempt to negate with overflow" ∈ Action.panics (.read 0 0 ⟨6, 6⟩) := by
  obtain ⟨m, h, es, hr, hs⟩ := @reach_of_oopsAfter
    (boot (fun _ => 0) (openedAnswers [.ok [0x80], .ok [0, 0xE0, 0, 0, 0, 0]]) .ok) openedRun
    (.read 0 0 ⟨6, 6⟩) "attempt to negate with overflow" (by decide)
  exact ⟨m, h, es, hr, hs, step_oops hs⟩

end RustAdxl345
