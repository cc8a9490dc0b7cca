import RustAdxl345.System
import RustAdxl345.Read

/-!
# The node, `DEVICE_PTR` and the callbacks

The character node is registered by the second step of `probe` and `DEVICE_PTR` is published by
its last; `remove` unregisters the node two steps before it empties `DEVICE_PTR`. In every
reachable state both are functions of the callback under way and of whether the device is bound
(`nodeRegistered`, `devicePublished`, `reach_lifecycle`): the file operations and the other bus
events, which run between any two steps, touch neither (`step_frame`).

So the node is registered while `DEVICE_PTR` is empty during the last two steps of `probe`, and a
file opened before `remove` stays open after it: an `open` in the first window, and a `read` or
`release` in the second, find `DEVICE_PTR` empty and panic (`devicePtr_expect_reachable`).
-/

namespace RustAdxl345

open Op Adxl345FileOps

/-- Whether the node is registered when the callback under way is at `stage`. -/
def nodeRegistered : Option Stage → Bool → Bool
  | none, bound => bound
  | some .probeStore, _ | some .probePublish, _ => true
  | some .removeClean, _ | some .removeUnregister, _ => true
  | some _, _ => false

/-- Whether `DEVICE_PTR` is set when the callback under way is at `stage`. -/
def devicePublished : Option Stage → Bool → Bool
  | none, bound => bound
  | some .removeClean, _ | some .removeUnregister, _ | some .removeUnpublish, _ => true
  | some _, _ => false

/-- The registration, `DEVICE_PTR` and `clientdata` as the callbacks left them. -/
structure Lifecycle (m : Machine) : Prop where
  registered : m.sys.registered = nodeRegistered m.stage m.bound
  devicePtr : m.sys.devicePtr = devicePublished m.stage m.bound
  /-- A callback is under way, or the device is bound, only while `clientdata` is set. -/
  clientdata : m.stage.isSome = true ∨ m.bound = true → m.sys.clientdata = true

/-- The steps of the bus callbacks `probe` and `remove`. -/
def Action.isCallback : Action → Bool
  | .probe | .remove | .resume _ => true
  | _ => false

/-- What a step that is not a callback's leaves as it was. -/
structure DriverFrame (m m' : Machine) : Prop where
  registered : m'.sys.registered = m.sys.registered
  devicePtr : m'.sys.devicePtr = m.sys.devicePtr
  clientdata : m'.sys.clientdata = m.sys.clientdata
  stage : m'.stage = m.stage
  bound : m'.bound = m.bound

/-! ### The file operations and the other bus events -/

theorem DriverFrame.of_call {m m' : Machine} {fs : List FileState}
    (hm : m' = { m with sys := m'.sys, files := fs }) (hs : m'.sys.registered = m.sys.registered)
    (hd : m'.sys.devicePtr = m.sys.devicePtr) (hc : m'.sys.clientdata = m.sys.clientdata) :
    DriverFrame m m' :=
  ⟨hs, hd, hc, by rw [hm], by rw [hm]⟩

theorem DriverFrame.of_read {m m' : Machine} {fs : List FileState} {es : List Effect}
    (hm : m' = { m with sys := m'.sys, files := fs }) (f : ReadFrame m.sys m'.sys es) :
    DriverFrame m m' :=
  .of_call hm f.registered f.devicePtr f.clientdata

theorem DriverFrame.of_bus {m m' : Machine} {fs : List FileState}
    (hm : m' = { m with sys := m'.sys, files := fs })
    (hs : m'.sys = { m.sys with bus := m'.sys.bus }) :
    DriverFrame m m' :=
  .of_call hm (by rw [hs]) (by rw [hs]) (by rw [hs])

theorem DriverFrame.of_pauseRead {m m' : Machine} {fd : Nat} {res : Except Error (ReadAt ⊕ Nat)}
    {r : Reply} {es : List Effect} (hm : pauseRead fd res { m with sys := m'.sys } = (r, m'))
    (f : ReadFrame m.sys m'.sys es) : DriverFrame m m' := by
  obtain ⟨fl, hfl⟩ := pauseRead_machine fd res { m with sys := m'.sys }
  rw [hm] at hfl
  exact .of_read hfl f

/-- **A step that is not a callback's touches neither the node nor `DEVICE_PTR`**, nor
`clientdata`, the callback under way or the binding. -/
theorem step_frame {m m' : Machine} {a : Action} {r : Reply} {es : List Effect}
    (h : step m a = some (.ok r es m')) (ha : a.isCallback = false) : DriverFrame m m' := by
  cases a with
  | probe | remove | resume _ => cases ha
  | bus e =>
    obtain ⟨-, -, rfl⟩ := step_bus h
    exact ⟨rfl, rfl, rfl, rfl, rfl⟩
  | «open» flags =>
    obtain ⟨-, -, res, hres, hcase⟩ := step_open h
    obtain ⟨s₁, h₁, hs⟩ := open_returned hres
    obtain ⟨hs₁, -⟩ := openInit_returned h₁
    have hm : ∃ fs, m' = { m with sys := m'.sys, files := fs } := by
      rcases hcase with ⟨-, -, hm⟩ | ⟨-, -, -, hm⟩
      exacts [⟨_, hm⟩, ⟨_, hm⟩]
    obtain ⟨fs, hm⟩ := hm
    rcases hs with ⟨-, hs⟩ | ⟨-, hs⟩ <;> rw [hs₁] at hs <;>
      exact .of_call hm (by rw [hs]) (by rw [hs]) (by rw [hs])
  | openStart flags =>
    obtain ⟨-, -, -, res, hres, hcase⟩ := step_openStart h
    obtain ⟨hs, -⟩ := openInit_returned hres
    rcases hcase with ⟨-, -, hm⟩ | ⟨-, -, -, hm⟩
    exacts [.of_bus hm hs, .of_bus hm hs]
  | openFinish fd =>
    obtain ⟨-, -, -, rfl⟩ := step_openFinish h
    exact ⟨rfl, rfl, rfl, rfl, rfl⟩
  | read fd flags w =>
    obtain ⟨-, -, -, hm, res, hres, -⟩ := step_read h
    exact .of_read hm (read_returned hres).frame
  | readStart fd flags w =>
    obtain ⟨-, -, -, res, hres, hm⟩ := step_readStart h
    exact .of_pauseRead hm (readEnter_ok hres).2.1
  | readContinue fd =>
    obtain ⟨p, -, -, res, hres, hm⟩ := step_readContinue h
    exact .of_pauseRead hm (readOn_ok hres).1
  | release fd =>
    obtain ⟨-, -, -, -, hm, res, hres⟩ := step_release h
    exact .of_bus hm (release_returned hres).1

/-! ### The invariant -/

theorem lifecycle_boot (regs : UInt8 → UInt8) (answers : List Answer) (chrdev : ChrdevAnswer) :
    Lifecycle (boot regs answers chrdev) :=
  ⟨rfl, rfl, by simp [boot]⟩

theorem DriverFrame.lifecycle {m m' : Machine} (hf : DriverFrame m m') (hi : Lifecycle m) :
    Lifecycle m' where
  registered := by rw [hf.registered, hf.stage, hf.bound, hi.registered]
  devicePtr := by rw [hf.devicePtr, hf.stage, hf.bound, hi.devicePtr]
  clientdata h := by
    rw [hf.clientdata]
    exact hi.clientdata (by rwa [hf.stage, hf.bound] at h)

theorem lifecycle_step {m m' : Machine} {a : Action} {r : Reply} {es : List Effect}
    (hi : Lifecycle m) (h : step m a = some (.ok r es m')) : Lifecycle m' := by
  have ⟨hreg, hdp, hcd⟩ := hi
  cases ha : a.isCallback
  · exact (step_frame h ha).lifecycle hi
  cases a with
  | probe =>
    obtain ⟨hs, hb, -, ⟨hc, -, rfl⟩ | ⟨-, -, rfl⟩⟩ := step_probe h
    · exact ⟨by simpa [hs, hb, nodeRegistered] using hreg,
        by simpa [hs, hb, devicePublished] using hdp, fun _ => hc⟩
    · exact hi
  | remove =>
    obtain ⟨hs, hb, -, -, ⟨hc, rfl⟩ | ⟨hc, -⟩⟩ := step_remove h
    · exact ⟨by simpa [hs, hb, nodeRegistered] using hreg,
        by simpa [hs, hb, devicePublished] using hdp, fun _ => hc⟩
    · cases (hcd (.inr hb)).symm.trans hc
  | resume st =>
    obtain ⟨hst, hrun, -, hm⟩ := step_resume h
    obtain ⟨hreg', hdp', hcd', -, -⟩ := Stage.run_ok hrun
    have hc := hcd (.inl (by simp [hst]))
    rw [hst] at hreg hdp
    rw [hm]
    clear hm h
    refine ⟨?_, ?_, ?_⟩ <;> cases st <;>
      simp [Stage.next, Stage.ofProbe, nodeRegistered, devicePublished, hreg', hdp', hcd', hreg,
        hdp, hc]
  | _ => cases ha

/-- **Where the node and `DEVICE_PTR` stand.** In every reachable state the registration of the
node and `DEVICE_PTR` are the functions `nodeRegistered` and `devicePublished` of the callback
under way and of the binding, and `clientdata` is set while a callback runs or the device is
bound. -/
theorem reach_lifecycle {regs : UInt8 → UInt8} {answers : List Answer} {chrdev : ChrdevAnswer}
    {m : Machine} {h : List Event} (hr : Reach (boot regs answers chrdev) m h) : Lifecycle m := by
  induction hr with
  | refl => exact lifecycle_boot regs answers chrdev
  | step _ hs ih => exact lifecycle_step ih hs

set_option smartUnfolding false in
/-- After `probe` and an `open`, the node is registered and `DEVICE_PTR` set, as the device is
bound. -/
theorem lifecycle_after_opened :
    ∃ m h, Reach (boot (fun _ => 0) (openedAnswers []) .ok) m h ∧ m.bound = true ∧
      Lifecycle m := by
  obtain ⟨m, h, hr, hb⟩ := @reach_of_holdsAfter (boot (fun _ => 0) (openedAnswers []) .ok)
    openedRun (fun m _ => m.bound) (by decide)
  exact ⟨m, h, hr, hb, reach_lifecycle hr⟩

/-! ### Panics on an empty `DEVICE_PTR` -/

set_option smartUnfolding false in
/-- **The node is reachable while `DEVICE_PTR` is empty.** An `open` after the registration step
of `probe` and before its last step, and a `release` of a file opened before `remove`, reach
`expect("Driver not initialized")`. -/
theorem devicePtr_expect_reachable :
    (∃ m h es, Reach (boot (fun _ => 0) (openedAnswers []) .ok) m h ∧
      step m (.open 0) = some (.oops "Driver not initialized" es)) ∧
    (∃ m h es, Reach (boot (fun _ => 0) (openedAnswers []) .ok) m h ∧
      step m (.release 0) = some (.oops "Driver not initialized" es)) :=
  ⟨@reach_of_oopsAfter _ [.probe, .resume .probeInit, .resume .probeRegister] _ _ (by decide),
    @reach_of_oopsAfter _ (openedRun ++ [.remove, .resume .removeClean, .resume .removeUnregister,
      .resume .removeUnpublish, .resume .removeFree]) _ _ (by decide)⟩

end RustAdxl345
