import RustAdxl345.Lifecycle

/-!
# Binding the device again after `remove`

The module's `init` points the client's `clientdata` at the driver once; `remove_callback` ends
with `free_clientdata`, and nothing sets the pointer again. So `clientdata` is set exactly while
no `remove_callback` has run to its end (`clientdata_reach`), and after one the device is never
bound again: no callback is under way, and each `probe` fails in `get_driver_instance` with
`EINVAL` before it reaches the driver (`unbound_after_remove`): the run `probe`, `remove`,
`probe` ends in `EINVAL` (`probe_fails_after_bindUnbind`).
-/

namespace RustAdxl345

open Op I2CDriverVtable

/-- Whether the history holds a `remove_callback` that ran to its end, where it frees
`clientdata`. -/
def removeCompleted (h : List Event) : Bool :=
  h.any fun e => e.action == .resume .removeFree

@[simp] theorem removeCompleted_nil : removeCompleted [] = false := rfl

@[simp] theorem removeCompleted_append_event (h : List Event) (e : Event) :
    removeCompleted (h ++ [e]) = (removeCompleted h || e.action == .resume .removeFree) := by
  simp [removeCompleted]

/-- Only the last step of `remove_callback` touches `clientdata`, and it clears it. -/
theorem step_clientdata {m m' : Machine} {a : Action} {r : Reply} {es : List Effect}
    (h : step m a = some (.ok r es m')) :
    m'.sys.clientdata = (m.sys.clientdata && !(a == .resume .removeFree)) := by
  cases ha : a.isCallback
  · rw [(step_frame h ha).clientdata]
    cases a <;> simp [Action.isCallback, beq_iff_eq] at ha ⊢
  cases a with
  | probe =>
    obtain ⟨-, -, -, ⟨-, -, rfl⟩ | ⟨-, -, rfl⟩⟩ := step_probe h <;> simp
  | remove =>
    obtain ⟨-, -, -, -, ⟨-, rfl⟩ | ⟨-, rfl⟩⟩ := step_remove h <;> simp
  | resume st =>
    obtain ⟨-, hrun, -, -⟩ := step_resume h
    obtain ⟨-, -, hcd, -, -⟩ := Stage.run_ok hrun
    cases st <;> simp [hcd]
  | _ => cases ha

/-- **`clientdata` is set until `remove_callback` completes.** -/
theorem clientdata_reach {regs : UInt8 → UInt8} {answers : List Answer} {chrdev : ChrdevAnswer}
    {m : Machine} {h : List Event} (hr : Reach (boot regs answers chrdev) m h) :
    m.sys.clientdata = !removeCompleted h := by
  induction hr with
  | refl => rfl
  | step _ hs ih => rw [step_clientdata hs, ih, removeCompleted_append_event, Bool.not_or]

/-- `probe` with its four steps, then `remove` with its four. -/
def bindUnbindRun : List Action :=
  [.probe, .resume .probeInit, .resume .probeRegister, .resume .probeStore, .resume .probePublish,
    .remove, .resume .removeClean, .resume .removeUnregister, .resume .removeUnpublish,
    .resume .removeFree]

set_option smartUnfolding false in
/-- After `probe` and `remove`, `clientdata` is empty. -/
theorem clientdata_after_bindUnbind :
    ∃ m h, Reach (boot (fun _ => 0) (openedAnswers []) .ok) m h ∧ removeCompleted h = true ∧
      m.sys.clientdata = !removeCompleted h := by
  obtain ⟨m, h, hr, hrm⟩ :=
    @reach_of_holdsAfter (boot (fun _ => 0) (openedAnswers []) .ok) bindUnbindRun
      (fun _ h => removeCompleted h) (by decide)
  exact ⟨m, h, hr, hrm, clientdata_reach hr⟩

/-- After a completed `remove`, a `probe` fails with `EINVAL` and changes nothing. -/
theorem step_probe_of_cleared {m : Machine} {n : Next} (hcd : m.sys.clientdata = false)
    (h : step m .probe = some n) : n = .ok (.ret Error.EINVAL.errno) [] m := by
  simp only [step, Action.takesLock, Bool.and_false, Bool.false_eq_true, if_false,
    Machine.call] at h
  split at h
  · rw [← Option.some.inj h]
    simp [Machine.exec, run_attempt, getDriverInstance_eq, hcd, Sys.effectsSince]
  · cases h

/-- The state after a completed `remove`: `clientdata` empty, no callback under way, unbound. -/
def Removed (m : Machine) : Prop :=
  m.sys.clientdata = false ∧ m.stage = none ∧ m.bound = false

theorem removed_step {m m' : Machine} {a : Action} {r : Reply} {es : List Effect}
    (hm : Removed m) (h : step m a = some (.ok r es m')) : Removed m' := by
  obtain ⟨hcd, hst, hb⟩ := hm
  have hcd' : m'.sys.clientdata = false := by rw [step_clientdata h, hcd, Bool.false_and]
  cases ha : a.isCallback
  · have hf := step_frame h ha
    exact ⟨hcd', hf.stage ▸ hst, hf.bound ▸ hb⟩
  cases a with
  | probe =>
    have hn := step_probe_of_cleared hcd h
    simp only [Next.ok.injEq] at hn
    obtain ⟨-, -, rfl⟩ := hn
    exact ⟨hcd', hst, hb⟩
  | remove => obtain ⟨-, hb', -⟩ := step_remove h; simp [hb] at hb'
  | resume st => obtain ⟨hst', -⟩ := step_resume h; simp [hst] at hst'
  | _ => cases ha

/-- The last step of `remove_callback` leaves the machine `Removed`. -/
theorem removed_of_removeFree {m m' : Machine} {r : Reply} {es : List Effect}
    (h : step m (.resume .removeFree) = some (.ok r es m')) : Removed m' := by
  obtain ⟨-, hrun, -, hm⟩ := step_resume h
  obtain ⟨-, -, hcd, -, -⟩ := Stage.run_ok hrun
  rw [hm]
  exact ⟨hcd, rfl, rfl⟩

theorem removed_reach {regs : UInt8 → UInt8} {answers : List Answer} {chrdev : ChrdevAnswer}
    {m : Machine} {h : List Event} (hr : Reach (boot regs answers chrdev) m h)
    (hrm : removeCompleted h = true) : Removed m := by
  induction hr with
  | refl => cases hrm
  | @step m₁ m₂ h₁ a r es _ hs ih =>
    rw [removeCompleted_append_event, Bool.or_eq_true] at hrm
    rcases hrm with hrm | ha
    · exact removed_step (ih hrm) hs
    · obtain rfl := eq_of_beq ha
      exact removed_of_removeFree hs

/-- **After `remove`, the device cannot be bound again.** Once a `remove_callback` has run to
its end, `clientdata` stays empty, no callback is ever under way again and the device stays
unbound; every `probe` the bus core delivers returns `EINVAL` (`-22`) from
`get_driver_instance`, with no effect. -/
theorem unbound_after_remove {regs : UInt8 → UInt8} {answers : List Answer}
    {chrdev : ChrdevAnswer} {m : Machine} {h : List Event}
    (hr : Reach (boot regs answers chrdev) m h) (hrm : removeCompleted h = true) :
    m.sys.clientdata = false ∧ m.stage = none ∧ m.bound = false ∧
      ∀ n, step m .probe = some n → ∃ m', n = .ok (.ret (-22)) [] m' := by
  obtain ⟨hcd, hst, hb⟩ := removed_reach hr hrm
  exact ⟨hcd, hst, hb, fun n hs => ⟨_, step_probe_of_cleared hcd hs⟩⟩

set_option smartUnfolding false in
/-- After `probe` and `remove` the device is unbound. -/
theorem unbound_after_bindUnbind :
    ∃ m h, Reach (boot (fun _ => 0) (openedAnswers []) .ok) m h ∧ removeCompleted h = true ∧
      m.bound = false := by
  obtain ⟨m, h, hr, hrm⟩ :=
    @reach_of_holdsAfter (boot (fun _ => 0) (openedAnswers []) .ok) bindUnbindRun
      (fun _ h => removeCompleted h) (by decide)
  exact ⟨m, h, hr, hrm, (unbound_after_remove hr hrm).2.2.1⟩

set_option smartUnfolding false in
/-- **A second `probe` fails.** After `probe` and `remove`, the bus core's next `probe` returns
`EINVAL` instead of reaching the driver. -/
theorem probe_fails_after_bindUnbind :
    ∃ m h es m', Reach (boot (fun _ => 0) (openedAnswers []) .ok) m h ∧
      step m .probe = some (.ok (.ret (-22)) es m') :=
  @reach_of_replyAfter _ bindUnbindRun _ _ (by decide)

end RustAdxl345
