import RustAdxl345.System
import RustAdxl345.Read

/-!
# The device lock: transfers and sleeps

Each call of the driver says, on every answer of the adapter and however it ends, what it did with
the device lock (`adxl345DeviceInit_final`, `openInit_returned`, `readEnter_ok`, `readOn_ok`, ...
and the `_panic` lemmas). A step runs one such call (`step_exec`), so every step transfers only
under the lock and only a blocking read sleeps under it (`step_locking`), as soon as its poll
finds no sample ready (`read_sleeps_under_lock`). Each transfer also takes the adapter's
`rt_mutex` and may sleep there, inside the spinlock's guard.
-/

namespace RustAdxl345

open Op Adxl345 Adxl345FileOps

/-- The later parts of a `read` run with the device lock held. -/
def Action.holdsLock : Action → Bool
  | .readContinue _ => true
  | _ => false

/-- A `read`, or its first part, in blocking mode. -/
def Action.blockingRead : Action → Bool
  | .read _ flags _ | .readStart _ flags _ => flags &&& O_NONBLOCK == 0
  | _ => false

/-- A step of a callback transfers only under the lock and sleeps under it nowhere. -/
theorem Stage.run_locking (st : Stage) (s : Sys) :
    transfersLocked false ((final (st.run s)).effectsSince s) = true ∧
      sleepsUnderLock false ((final (st.run s)).effectsSince s) = false := by
  have hb := Stage.final_run_bus st s
  have hd : ∀ es, (final (st.run s)).bus.log = s.bus.log ++ es → lockHeld false es = false ∧
      sleepsUnderLock false es = false ∧ transfersLocked false es = true →
      transfersLocked false ((final (st.run s)).effectsSince s) = true ∧
        sleepsUnderLock false ((final (st.run s)).effectsSince s) = false :=
    fun es hl ⟨_, hs, ht⟩ => by rw [Sys.effectsSince_of_log hl]; exact ⟨ht, hs⟩
  cases st
  case probeInit =>
    obtain ⟨⟨es, hl, h⟩, -⟩ := adxl345DeviceInit_final s.bus
    exact hd es (by rw [hb, hl]) h
  case removeClean =>
    obtain ⟨⟨es, hl, h⟩, -⟩ := adxl345DeviceClean_final s.bus
    exact hd es (by rw [hb, hl]) h
  case probeStore | removeUnregister => exact hd [.lock, .unlock] (by simp [hb]) ⟨rfl, rfl, rfl⟩
  all_goals exact hd [] (by simp [hb]) ⟨rfl, rfl, rfl⟩

/-- **Every step transfers only under the device lock, and only a blocking read sleeps under
it.** Whatever the adapter answers and however the step ends, each transfer of its call runs
inside a guard of the `SpinLock`, and a `coarse_sleep` inside one is the poll of a `read` in
blocking mode. -/
theorem step_locking {m : Machine} {a : Action} {n : Next} (h : step m a = some n) :
    transfersLocked a.holdsLock n.effects = true ∧
      (sleepsUnderLock a.holdsLock n.effects = true → a.blockingRead = true) := by
  suffices hP : a.callSatisfies (fun _ x =>
      transfersLocked a.holdsLock ((final (x m.sys)).effectsSince m.sys) = true ∧
        (sleepsUnderLock a.holdsLock ((final (x m.sys)).effectsSince m.sys) = true →
          a.blockingRead = true)) m by
    obtain ⟨α, x, k, rfl, hx⟩ := step_exec h hP
    rw [Machine.exec_effects]
    exact hx
  cases a <;> dsimp only [Action.callSatisfies, Action.holdsLock]
  case probe | remove =>
    rw [I2CDriverVtable.getDriverInstance_eq]
    split <;> simp [transfersLocked, sleepsUnderLock]
  case bus e =>
    obtain ⟨r, hr⟩ := e.callback_eq m.sys
    simp [hr, transfersLocked, sleepsUnderLock]
  case resume st =>
    obtain ⟨ht, hs⟩ := Stage.run_locking st m.sys
    exact ⟨ht, by simp [Action.holdsLock, hs]⟩
  case «open» flags =>
    refine final_of_cases (fun r s' h => ?_) (fun msg s' h => ?_)
    · obtain ⟨s₁, h₁, hs⟩ := open_returned h
      obtain ⟨-, -, -, -, -, -, hsl, ht, -⟩ := openInit_returned h₁
      have he : s'.effectsSince m.sys = s₁.effectsSince m.sys := by
        rcases hs with ⟨-, rfl⟩ | ⟨-, rfl⟩ <;> rfl
      exact ⟨by rw [he]; exact ht, by simp [Action.holdsLock, he, hsl]⟩
    · obtain ⟨-, rfl⟩ := open_panic h
      simp [transfersLocked, sleepsUnderLock]
  case openStart flags =>
    refine final_of_cases (fun r s' h => ?_) (fun msg s' h => ?_)
    · obtain ⟨-, -, -, -, -, -, hsl, ht, -⟩ := openInit_returned h
      exact ⟨ht, by simp [Action.holdsLock, hsl]⟩
    · obtain ⟨-, rfl⟩ := openInit_panic h
      simp [transfersLocked, sleepsUnderLock]
  case openFinish fd =>
    simp [openReset_eq, Sys.effectsSince, transfersLocked, sleepsUnderLock]
  case read fd flags w =>
    refine final_of_cases (fun r s' h => ?_) (fun msg s' h => ?_)
    · have hr := read_returned h
      exact ⟨hr.transfers, fun hs => by simpa [Action.blockingRead] using hr.sleeps hs⟩
    · obtain ⟨-, ht, hs⟩ := read_panic h
      exact ⟨ht, fun hs' => by simpa [Action.blockingRead] using hs hs'⟩
  case readStart fd flags w =>
    refine final_of_cases (fun r s' h => ?_) (fun msg s' h => ?_)
    · obtain ⟨-, -, -, -, -, -, ht, hs, -⟩ := readEnter_ok h
      exact ⟨ht, fun hs' => by simpa [Action.blockingRead] using hs hs'⟩
    · obtain ⟨-, rfl⟩ := readEnter_panic h
      simp [transfersLocked, sleepsUnderLock]
  case readContinue fd =>
    intro p _
    refine final_of_cases (fun r s' h => ?_) (fun msg s' h => ?_)
    · obtain ⟨-, -, -, -, hs, ht, -⟩ := readOn_ok h
      exact ⟨ht, by simp [Action.holdsLock, hs]⟩
    · obtain ⟨-, rfl⟩ := readOn_panic h
      simp [transfersLocked, sleepsUnderLock]
  case release fd =>
    refine final_of_cases (fun r s' h => ?_) (fun msg s' h => ?_)
    · obtain ⟨-, -, -, -, -, -, hsl, ht, -⟩ := release_returned h
      exact ⟨ht, by simp [Action.holdsLock, hsl]⟩
    · obtain ⟨-, rfl⟩ := release_panic h
      simp [transfersLocked, sleepsUnderLock]

set_option smartUnfolding false in
/-- The read of `read_sleeps_under_lock` transfers under the lock and is a blocking one. -/
theorem sleeper_is_blocking_read :
    ∃ m r es m', step m (.read 0 0 ⟨6, 6⟩) = some (.ok r es m') ∧
      transfersLocked false es = true ∧ sleepsUnderLock false es = true ∧
      Action.blockingRead (.read 0 0 ⟨6, 6⟩) = true := by
  obtain ⟨m, -, r, es, m', -, hs, hsl⟩ := @reach_of_returnsAfter
    (boot (fun _ => 0)
      (openedAnswers [.ok [0], .ok [0x80], .ok [0x64, 0, 0, 0, 0, 0], .ok [0]]) .ok)
    openedRun (.read 0 0 ⟨6, 6⟩) (sleepsUnderLock false) (by decide)
  exact ⟨m, r, es, m', hs, (step_locking hs).1, hsl, (step_locking hs).2 hsl⟩

set_option smartUnfolding false in
/-- **A blocking read sleeps under the lock.** After `probe` and an `open`, a blocking read
whose first `data_ready` finds no sample sleeps 10 ms inside the guard of the device lock, and
then returns a record. -/
theorem read_sleeps_under_lock :
    ∃ m h r es m', Reach (boot (fun _ => 0)
        (openedAnswers [.ok [0], .ok [0x80], .ok [0x64, 0, 0, 0, 0, 0], .ok [0]]) .ok) m h ∧
      step m (.read 0 0 ⟨6, 6⟩) = some (.ok r es m') ∧ sleepsUnderLock false es = true :=
  @reach_of_returnsAfter _ openedRun _ _ (by decide)

end RustAdxl345
