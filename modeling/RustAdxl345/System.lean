import RustAdxl345.Binding
import RustAdxl345.ReadParts

/-!
# The driver in the running kernel

`Machine` is the system the driver lives in: its globals and the chip (`Sys`), the open files, the
bus callback under way and whether the device is bound. `step` runs one `Action`: a bus event, the
next step of a `probe` or `remove` (`Stage`), or a file operation or one of its parts (`open` is
cut where `adxl345_device_init_at_open` returns, `read` between its rounds, and a file in a
`read` holds the device lock). A step ends with a `Reply` and the `Effect`s of its call, or with a
panic (`Next.oops`). `Reach start m h` says that `m` is reached from `start` by steps that
returned, recorded in `h`. The adapter's answers are fixed at `boot`.
-/

namespace RustAdxl345

open Op I2CDriverVtable Adxl345FileOps

/-- The step a bus callback takes next. -/
inductive Stage
  | probeInit | probeRegister | probeStore | probePublish
  | removeClean | removeUnregister | removeUnpublish | removeFree
  deriving DecidableEq, Repr

namespace Stage

/-- What the step runs. -/
def run : Stage → Kern Unit
  | probeInit => Adxl345Driver.probeInit
  | probeRegister => Adxl345Driver.probeRegister
  | probeStore => Adxl345Driver.probeStore
  | probePublish => Adxl345Driver.probePublish
  | removeClean => Adxl345Driver.removeClean
  | removeUnregister => Adxl345Driver.removeUnregister
  | removeUnpublish => Adxl345Driver.removeUnpublish
  | removeFree => freeClientdata

/-- The step after it, if the callback goes on. -/
def next : Stage → Option Stage
  | probeInit => some probeRegister
  | probeRegister => some probeStore
  | probeStore => some probePublish
  | removeClean => some removeUnregister
  | removeUnregister => some removeUnpublish
  | removeUnpublish => some removeFree
  | probePublish | removeFree => none

/-- A step of `probe_callback` (otherwise of `remove_callback`). -/
def ofProbe : Stage → Bool
  | probeInit | probeRegister | probeStore | probePublish => true
  | removeClean | removeUnregister | removeUnpublish | removeFree => false

/-- The steps that take the device lock. -/
def takesLock : Stage → Bool
  | probeInit | probeStore | removeClean | removeUnregister => true
  | probeRegister | probePublish | removeUnpublish | removeFree => false

end Stage

/-- The bus events other than `probe` and `remove`. -/
inductive BusEvent
  | shutdown | alert | command | detect
  deriving DecidableEq, Repr

/-- What a callback or a file operation gives back. -/
inductive Reply
  /-- A callback's C return value. -/
  | ret (r : Int)
  /-- A callback, or a step of one or of a file operation, with nothing to return. -/
  | done
  /-- A file operation returned `Ok(n)`; a successful `open` gives `0`. -/
  | ok (n : Nat)
  /-- A file operation returned `Err(e)`. -/
  | err (e : Error)
  deriving DecidableEq, Repr

/-- The reply of a file operation with result `r`. -/
def Reply.ofResult : Except Error Nat → Reply
  | .ok n => .ok n
  | .error e => .err e

/-- The callback of a bus event, with its return value as a reply. -/
def BusEvent.callback : BusEvent → Kern Reply
  | .shutdown => do shutdownCallback; pure .done
  | .alert => do alertCallback; pure .done
  | .command => .ret <$> commandCallback
  | .detect => .ret <$> detectCallback

/-- Where an opened file stands. -/
inductive FileState
  /-- Its `open` has enabled measurement and not yet reset the baseline. -/
  | opening
  /-- Open, with no call under way. -/
  | idle
  /-- A `read` of it is paused at `p`, holding the device lock. -/
  | reading (p : ReadAt)
  /-- Released. -/
  | closed
  deriving DecidableEq, Repr

def FileState.isReading : FileState → Bool
  | .reading _ => true
  | _ => false

/-- What the environment does next. -/
inductive Action
  /-- The bus core calls `probe_callback` for the unbound device. -/
  | probe
  /-- The bus core calls `remove_callback` for the bound device. -/
  | remove
  /-- The bus core calls another callback. -/
  | bus (e : BusEvent)
  /-- The callback under way takes its step `st`. -/
  | resume (st : Stage)
  /-- A process opens the character node, with no other step during the call. -/
  | «open» (flags : UInt32)
  /-- A process opens the node: the call up to the return of `adxl345_device_init_at_open`. -/
  | openStart (flags : UInt32)
  /-- The rest of the `open` of the file `fd`: the baseline reset. -/
  | openFinish (fd : Nat)
  /-- A process reads the file `fd` into a buffer, with no other step during the call. -/
  | read (fd : Nat) (flags : UInt32) (writer : IoBufferWriter)
  /-- A process reads the file `fd`: the call up to its first `read_data`. -/
  | readStart (fd : Nat) (flags : UInt32) (writer : IoBufferWriter)
  /-- The read of the file `fd` goes on to its next `read_data`, or returns. -/
  | readContinue (fd : Nat)
  /-- A process closes the file `fd`. -/
  | release (fd : Nat)
  deriving DecidableEq, Repr

/-- Whether the action's call reaches `device.lock()` from the state `s`. -/
def Action.takesLock (s : Sys) : Action → Bool
  | .open flags | .openStart flags =>
    s.devicePtr && !decide (flags &&& O_ACCMODE = O_WRONLY ∨ flags &&& O_ACCMODE = O_RDWR)
  | .read _ _ _ | .readStart _ _ _ | .release _ => s.devicePtr
  | .resume st => st.takesLock
  | .probe | .remove | .bus _ | .openFinish _ | .readContinue _ => false

/-- The system. -/
structure Machine where
  sys : Sys
  /-- `files[fd]` is where the file `fd` stands, in the order the files were opened. -/
  files : List FileState
  /-- The bus callback under way, at the step it takes next. -/
  stage : Option Stage
  /-- The bus core counts the device as bound to the driver. -/
  bound : Bool

/-- A paused `read` holds the device lock. -/
def Machine.locked (m : Machine) : Bool := m.files.any FileState.isReading

/-- A step that returned: the action, its reply and the effects of its call. -/
structure Event where
  action : Action
  reply : Reply
  effects : List Effect
  deriving DecidableEq, Repr

/-- How a step ends. -/
inductive Next
  | ok (reply : Reply) (effects : List Effect) (m : Machine)
  /-- A panic with its message: the kernel oopses. -/
  | oops (msg : String) (effects : List Effect)

/-- Runs the call `x`: a panic ends the run; otherwise `k` turns the call's result into the
reply and the machine after it. -/
def Machine.exec {α : Type} (m : Machine) (x : Kern α)
    (k : Except Error α → Machine → Reply × Machine) : Next :=
  match attempt x m.sys with
  | .ok res s =>
    match k res { m with sys := s } with
    | (r, m') => .ok r (s.effectsSince m.sys) m'
  | .error (.panic msg) s => .oops msg (s.effectsSince m.sys)
  | .error (.err _) s => .oops "" (s.effectsSince m.sys)

/-- Where the file `fd` stands after a part of its `read` returned `r`. -/
def pauseRead (fd : Nat) : Except Error (ReadAt ⊕ Nat) → Machine → Reply × Machine
  | .ok (.inl p), m => (.done, { m with files := m.files.set fd (.reading p) })
  | .ok (.inr n), m => (.ok n, { m with files := m.files.set fd .idle })
  | .error e, m => (.err e, { m with files := m.files.set fd .idle })

theorem pauseRead_machine (fd : Nat) (res : Except Error (ReadAt ⊕ Nat)) (m : Machine) :
    ∃ f, (pauseRead fd res m).2 = { m with files := m.files.set fd f } := by
  rcases res with e | p | c
  exacts [⟨_, rfl⟩, ⟨_, rfl⟩, ⟨_, rfl⟩]

/-- The step of an action whose call does not wait for the lock. -/
def Machine.call (m : Machine) : Action → Option Next
  | .probe =>
    if m.stage = none ∧ m.bound = false then
      some <| m.exec getDriverInstance fun
        | .ok (), m' => (.done, { m' with stage := some .probeInit })
        | .error e, m' => (.ret e.errno, m')
    else none
  | .remove =>
    if m.stage = none ∧ m.bound = true then
      some <| m.exec getDriverInstance fun
        | .ok (), m' => (.done, { m' with stage := some .removeClean })
        | .error _, m' => (.done, { m' with bound := false })
    else none
  | .bus e =>
    if m.stage = none then
      some <| m.exec e.callback fun
        | .ok r, m' => (r, m')
        | .error err, m' => (.ret err.errno, m')
    else none
  | .resume st =>
    if m.stage = some st then
      some <| m.exec st.run fun r m' =>
        match r, st.next with
        | .ok (), some st' => (.done, { m' with stage := some st' })
        | .ok (), none =>
          (if st.ofProbe then .ret 0 else .done, { m' with stage := none, bound := st.ofProbe })
        | .error e, _ => (.ret e.errno, { m' with stage := none })
    else none
  | .open flags =>
    if m.sys.registered then
      some <| m.exec (Adxl345FileOps.open flags) fun
        | .ok (), m' => (.ok 0, { m' with files := m'.files ++ [.idle] })
        | .error e, m' => (.err e, m')
    else none
  | .openStart flags =>
    if m.sys.registered then
      some <| m.exec (openInit flags) fun
        | .ok (), m' => (.done, { m' with files := m'.files ++ [.opening] })
        | .error e, m' => (.err e, m')
    else none
  | .openFinish fd =>
    if m.files[fd]? = some .opening then
      some <| m.exec openReset fun _ m' => (.ok 0, { m' with files := m'.files.set fd .idle })
    else none
  | .read fd flags writer =>
    if m.files[fd]? = some .idle then
      some <| m.exec (Adxl345FileOps.read flags writer) fun r m' => (.ofResult r, m')
    else none
  | .readStart fd flags writer =>
    if m.files[fd]? = some .idle then some <| m.exec (readEnter flags writer) (pauseRead fd)
    else none
  | .readContinue fd =>
    match m.files[fd]? with
    | some (.reading p) => some <| m.exec (readOn p) (pauseRead fd)
    | _ => none
  | .release fd =>
    if m.files[fd]? = some .idle then
      some <| m.exec Adxl345FileOps.release fun _ m' =>
        (.done, { m' with files := m'.files.set fd .closed })
    else none

/-- One step of the system, or `none` where the environment cannot take the action: a call that
would take the device lock while a paused read holds it waits. -/
def step (m : Machine) (a : Action) : Option Next :=
  if m.locked && a.takesLock m.sys then none else m.call a

/-- The system after the module's `init`: `clientdata` points at the driver, nothing is
registered or published, no file is open and the baseline is the static's `(0, 0, 0)`. -/
def boot (regs : UInt8 → UInt8) (answers : List Answer) (chrdev : ChrdevAnswer) : Machine :=
  ⟨⟨⟨regs, answers, []⟩, false, ⟨0, 0, 0⟩, false, true, chrdev⟩, [], none, false⟩

/-- `m` is reached from `start` by steps that returned, with history `h`. -/
inductive Reach (start : Machine) : Machine → List Event → Prop
  | refl : Reach start start []
  | step {m m' : Machine} {h : List Event} {a : Action} {r : Reply} {es : List Effect} :
      Reach start m h → step m a = some (.ok r es m') → Reach start m' (h ++ [⟨a, r, es⟩])

theorem Reach.trans {start m m' : Machine} {h h' : List Event} (hr : Reach start m h)
    (hr' : Reach m m' h') : Reach start m' (h ++ h') := by
  induction hr' with
  | refl => simpa using hr
  | step _ hs ih => simpa [List.append_assoc] using ih.step hs

/-! ### Taking a step apart -/

@[simp] theorem Sys.effectsSince_extend (s : Sys) (es : List Effect) :
    Sys.effectsSince { s with bus := s.bus.extend es } s = es := by
  simp [Sys.effectsSince]

theorem step_eq_some {m : Machine} {a : Action} {n : Next} :
    step m a = some n ↔
      (m.locked = false ∨ a.takesLock m.sys = false) ∧ m.call a = some n := by
  unfold step
  cases m.locked <;> cases a.takesLock m.sys <;> simp

theorem Machine.exec_eq_ok {α : Type} {m m' : Machine} {x : Kern α}
    {k : Except Error α → Machine → Reply × Machine} {r : Reply} {es : List Effect} :
    m.exec x k = .ok r es m' ↔
      ∃ res s, attempt x m.sys = .ok res s ∧ k res { m with sys := s } = (r, m') ∧
        es = s.effectsSince m.sys := by
  unfold Machine.exec
  rcases hx : attempt x m.sys with ⟨res, s⟩ | ⟨e | msg, s⟩
  · rcases hk : k res { m with sys := s } with ⟨r', m''⟩
    constructor
    · intro h
      simp only [Next.ok.injEq] at h
      obtain ⟨rfl, rfl, rfl⟩ := h
      exact ⟨res, s, rfl, by rw [hk], rfl⟩
    · rintro ⟨_, _, h, hk', rfl⟩
      cases h
      rw [hk] at hk'
      cases hk'
      simp [hk]
  all_goals simp

theorem step_probe {m m' : Machine} {r : Reply} {es : List Effect}
    (h : step m .probe = some (.ok r es m')) :
    m.stage = none ∧ m.bound = false ∧ es = [] ∧
      (m.sys.clientdata = true ∧ r = .done ∧ m' = { m with stage := some .probeInit } ∨
        m.sys.clientdata = false ∧ r = .ret Error.EINVAL.errno ∧ m' = m) := by
  obtain ⟨-, h⟩ := step_eq_some.mp h
  simp only [Machine.call] at h
  split at h
  · next hc =>
    obtain ⟨res, s, hx, hk, rfl⟩ := Machine.exec_eq_ok.mp (Option.some.inj h)
    rw [run_attempt, getDriverInstance_eq] at hx
    cases hcd : m.sys.clientdata <;> simp only [hcd, Bool.false_eq_true, if_true, if_false,
      EStateM.Result.ok.injEq] at hx <;> obtain ⟨rfl, rfl⟩ := hx <;>
      simp only [Prod.mk.injEq] at hk <;> obtain ⟨rfl, rfl⟩ := hk
    · exact ⟨hc.1, hc.2, by simp [Sys.effectsSince], .inr ⟨rfl, rfl, rfl⟩⟩
    · exact ⟨hc.1, hc.2, by simp [Sys.effectsSince], .inl ⟨rfl, rfl, rfl⟩⟩
  · cases h

theorem step_remove {m m' : Machine} {r : Reply} {es : List Effect}
    (h : step m .remove = some (.ok r es m')) :
    m.stage = none ∧ m.bound = true ∧ es = [] ∧ r = .done ∧
      (m.sys.clientdata = true ∧ m' = { m with stage := some .removeClean } ∨
        m.sys.clientdata = false ∧ m' = { m with bound := false }) := by
  obtain ⟨-, h⟩ := step_eq_some.mp h
  simp only [Machine.call] at h
  split at h
  · next hc =>
    obtain ⟨res, s, hx, hk, rfl⟩ := Machine.exec_eq_ok.mp (Option.some.inj h)
    rw [run_attempt, getDriverInstance_eq] at hx
    cases hcd : m.sys.clientdata <;> simp only [hcd, Bool.false_eq_true, if_true, if_false,
      EStateM.Result.ok.injEq] at hx <;> obtain ⟨rfl, rfl⟩ := hx <;>
      simp only [Prod.mk.injEq] at hk <;> obtain ⟨rfl, rfl⟩ := hk
    · exact ⟨hc.1, hc.2, by simp [Sys.effectsSince], rfl, .inr ⟨rfl, rfl⟩⟩
    · exact ⟨hc.1, hc.2, by simp [Sys.effectsSince], rfl, .inl ⟨rfl, rfl⟩⟩
  · cases h

theorem BusEvent.callback_eq (e : BusEvent) (s : Sys) : ∃ r, e.callback s = .ok r s := by
  cases e <;>
    simp only [BusEvent.callback, shutdownCallback, alertCallback, commandCallback, detectCallback,
      run_bind, run_map, run_pure, withDriverInstance_pure, EStateM.Result.ok.injEq, and_true,
      exists_eq']

theorem step_bus {m m' : Machine} {e : BusEvent} {r : Reply} {es : List Effect}
    (h : step m (.bus e) = some (.ok r es m')) : m.stage = none ∧ es = [] ∧ m' = m := by
  obtain ⟨-, h⟩ := step_eq_some.mp h
  simp only [Machine.call] at h
  split at h
  · next hc =>
    obtain ⟨res, s, hx, hk, rfl⟩ := Machine.exec_eq_ok.mp (Option.some.inj h)
    obtain ⟨r', hr'⟩ := e.callback_eq m.sys
    rw [attempt_of_ok hr', EStateM.Result.ok.injEq] at hx
    obtain ⟨rfl, rfl⟩ := hx
    simp only [Prod.mk.injEq] at hk
    obtain ⟨rfl, rfl⟩ := hk
    exact ⟨hc, by simp [Sys.effectsSince], rfl⟩
  · cases h

theorem Stage.run_ne_err (st : Stage) (s s' : Sys) (e : Error) :
    st.run s ≠ .error (.err e) s' := by
  intro h
  cases st with
  | probeInit => obtain ⟨⟨m, hm⟩, -⟩ := expect_eq_error h; cases hm
  | probeRegister => obtain ⟨⟨m, hm⟩, -⟩ := expect_eq_error h; cases hm
  | removeClean =>
    rcases hc : dev adxl345DeviceClean s with ⟨a, b⟩ | ⟨e' | m, b⟩ <;>
      simp [Stage.run, Adxl345Driver.removeClean, run_attempt, hc] at h
  | _ => cases h

/-- What a step of a callback does to the registration, `DEVICE_PTR` and `clientdata`; the rest
of the machine it touches is the bus. -/
theorem Stage.run_ok {st : Stage} {s s' : Sys} (h : st.run s = .ok () s') :
    s'.registered =
        (match st with
          | .probeRegister => true | .removeUnregister => false | _ => s.registered) ∧
      s'.devicePtr =
        (match st with | .probePublish => true | .removeUnpublish => false | _ => s.devicePtr) ∧
      s'.clientdata = (match st with | .removeFree => false | _ => s.clientdata) ∧
      s'.lastSample = s.lastSample ∧ s'.chrdev = s.chrdev := by
  cases st with
  | probeInit => obtain ⟨b, -, rfl⟩ := Adxl345Driver.probeInit_ok h; simp
  | probeRegister => obtain ⟨-, rfl⟩ := Adxl345Driver.probeRegister_ok h; simp
  | probeStore => cases (Adxl345Driver.probeStore_eq s).symm.trans h; simp
  | removeClean => obtain rfl := Adxl345Driver.removeClean_ok h; simp
  | removeUnregister => cases (Adxl345Driver.removeUnregister_eq s).symm.trans h; simp
  | probePublish | removeUnpublish | removeFree => cases h; simp

/-- What a step of a callback does to the bus, however it ends: the chip's set-up or clean-up, the
lock taken and dropped around the `Registration`, or nothing. -/
theorem Stage.final_run_bus (st : Stage) (s : Sys) :
    (final (st.run s)).bus = match st with
      | .probeInit => final (adxl345DeviceInit s.bus)
      | .removeClean => final (adxl345DeviceClean s.bus)
      | .probeStore | .removeUnregister => (s.bus.record .lock).record .unlock
      | _ => s.bus := by
  cases st with
  | probeInit => simp [Stage.run, Adxl345Driver.probeInit]
  | probeRegister =>
    rcases hc : s.chrdev with _ | e | e <;>
      simp [Stage.run, Adxl345Driver.probeRegister, adxl345ChardevAdd, hc]
  | probeStore => rw [Stage.run, Adxl345Driver.probeStore_eq]; rfl
  | removeClean =>
    rcases hx : adxl345DeviceClean s.bus with ⟨⟨⟩, b⟩ | ⟨e | m, b⟩ <;>
      simp [Stage.run, Adxl345Driver.removeClean, run_attempt, dev, hx]
  | removeUnregister => rw [Stage.run, Adxl345Driver.removeUnregister_eq]; rfl
  | probePublish | removeUnpublish | removeFree => rfl

theorem step_resume {m m' : Machine} {st : Stage} {r : Reply} {es : List Effect}
    (h : step m (.resume st) = some (.ok r es m')) :
    m.stage = some st ∧ st.run m.sys = .ok () m'.sys ∧ es = m'.sys.effectsSince m.sys ∧
      m' = { m with
        sys := m'.sys
        stage := st.next
        bound := match st.next with | none => st.ofProbe | some _ => m.bound } := by
  obtain ⟨-, h⟩ := step_eq_some.mp h
  simp only [Machine.call] at h
  split at h
  · next hc =>
    obtain ⟨res, s, hx, hk, rfl⟩ := Machine.exec_eq_ok.mp (Option.some.inj h)
    rcases attempt_eq_ok.mp hx with ⟨⟨⟩, rfl, hrun⟩ | ⟨e, rfl, hrun⟩
    · refine ⟨hc, ?_⟩
      rcases hn : st.next with _ | st' <;> simp only [hn, Prod.mk.injEq] at hk <;>
        obtain ⟨rfl, rfl⟩ := hk <;> exact ⟨hrun, rfl, rfl⟩
    · exact absurd hrun (st.run_ne_err _ _ e)
  · cases h

/-- A file operation's step: the machine after it differs from the one before in its globals and
its files only. -/
theorem step_open {m m' : Machine} {flags : UInt32} {r : Reply} {es : List Effect}
    (h : step m (.open flags) = some (.ok r es m')) :
    m.sys.registered = true ∧ es = m'.sys.effectsSince m.sys ∧
      ∃ res, attempt (Adxl345FileOps.open flags) m.sys = .ok res m'.sys ∧
        (res = .ok () ∧ r = .ok 0 ∧
            m' = { m with sys := m'.sys, files := m.files ++ [.idle] } ∨
          ∃ e, res = .error e ∧ r = .err e ∧ m' = { m with sys := m'.sys }) := by
  obtain ⟨-, h⟩ := step_eq_some.mp h
  simp only [Machine.call] at h
  split at h
  · next hreg =>
    obtain ⟨res, s, hx, hk, rfl⟩ := Machine.exec_eq_ok.mp (Option.some.inj h)
    refine ⟨hreg, ?_⟩
    rcases res with e | ⟨⟩ <;> simp only [Prod.mk.injEq] at hk <;> obtain ⟨rfl, rfl⟩ := hk
    · exact ⟨rfl, _, hx, .inr ⟨e, rfl, rfl, rfl⟩⟩
    · exact ⟨rfl, _, hx, .inl ⟨rfl, rfl, rfl⟩⟩
  · cases h

theorem step_openStart {m m' : Machine} {flags : UInt32} {r : Reply} {es : List Effect}
    (h : step m (.openStart flags) = some (.ok r es m')) :
    (m.locked = false ∨ (Action.openStart flags).takesLock m.sys = false) ∧
      m.sys.registered = true ∧ es = m'.sys.effectsSince m.sys ∧
      ∃ res, attempt (openInit flags) m.sys = .ok res m'.sys ∧
        (res = .ok () ∧ r = .done ∧
            m' = { m with sys := m'.sys, files := m.files ++ [.opening] } ∨
          ∃ e, res = .error e ∧ r = .err e ∧ m' = { m with sys := m'.sys }) := by
  obtain ⟨hg, h⟩ := step_eq_some.mp h
  simp only [Machine.call] at h
  split at h
  · next hreg =>
    obtain ⟨res, s, hx, hk, rfl⟩ := Machine.exec_eq_ok.mp (Option.some.inj h)
    refine ⟨hg, hreg, ?_⟩
    rcases res with e | ⟨⟩ <;> simp only [Prod.mk.injEq] at hk <;> obtain ⟨rfl, rfl⟩ := hk
    · exact ⟨rfl, _, hx, .inr ⟨e, rfl, rfl, rfl⟩⟩
    · exact ⟨rfl, _, hx, .inl ⟨rfl, rfl, rfl⟩⟩
  · cases h

theorem step_openFinish {m m' : Machine} {fd : Nat} {r : Reply} {es : List Effect}
    (h : step m (.openFinish fd) = some (.ok r es m')) :
    m.files[fd]? = some .opening ∧ es = [] ∧ r = .ok 0 ∧
      m' = { m with
        sys := { m.sys with lastSample := ⟨0, 0, 0⟩ }
        files := m.files.set fd .idle } := by
  obtain ⟨-, h⟩ := step_eq_some.mp h
  simp only [Machine.call] at h
  split at h
  · next hc =>
    obtain ⟨res, s, hx, hk, rfl⟩ := Machine.exec_eq_ok.mp (Option.some.inj h)
    rw [attempt_of_ok (openReset_eq m.sys), EStateM.Result.ok.injEq] at hx
    obtain ⟨rfl, rfl⟩ := hx
    simp only [Prod.mk.injEq] at hk
    obtain ⟨rfl, rfl⟩ := hk
    exact ⟨hc, by simp [Sys.effectsSince], rfl, rfl⟩
  · cases h

theorem step_read {m m' : Machine} {fd : Nat} {flags : UInt32} {w : IoBufferWriter} {r : Reply}
    {es : List Effect} (h : step m (.read fd flags w) = some (.ok r es m')) :
    (m.locked = false ∨ m.sys.devicePtr = false) ∧ m.files[fd]? = some .idle ∧
      es = m'.sys.effectsSince m.sys ∧ m' = { m with sys := m'.sys } ∧
      ∃ res, attempt (Adxl345FileOps.read flags w) m.sys = .ok res m'.sys ∧
        r = .ofResult res := by
  obtain ⟨hg, h⟩ := step_eq_some.mp h
  simp only [Machine.call] at h
  split at h
  · next hc =>
    obtain ⟨res, s, hx, hk, rfl⟩ := Machine.exec_eq_ok.mp (Option.some.inj h)
    simp only [Prod.mk.injEq] at hk
    obtain ⟨rfl, rfl⟩ := hk
    exact ⟨hg, hc, rfl, rfl, res, hx, rfl⟩
  · cases h

theorem step_readStart {m m' : Machine} {fd : Nat} {flags : UInt32} {w : IoBufferWriter}
    {r : Reply} {es : List Effect} (h : step m (.readStart fd flags w) = some (.ok r es m')) :
    (m.locked = false ∨ m.sys.devicePtr = false) ∧ m.files[fd]? = some .idle ∧
      es = m'.sys.effectsSince m.sys ∧
      ∃ res, attempt (readEnter flags w) m.sys = .ok res m'.sys ∧
        pauseRead fd res { m with sys := m'.sys } = (r, m') := by
  obtain ⟨hg, h⟩ := step_eq_some.mp h
  simp only [Machine.call] at h
  split at h
  · next hc =>
    obtain ⟨res, s, hx, hk, rfl⟩ := Machine.exec_eq_ok.mp (Option.some.inj h)
    have hs : m'.sys = s := by
      rcases res with e | p | c <;> simp only [pauseRead, Prod.mk.injEq] at hk <;> rw [← hk.2]
    subst hs
    exact ⟨hg, hc, rfl, res, hx, hk⟩
  · cases h

theorem step_readContinue {m m' : Machine} {fd : Nat} {r : Reply} {es : List Effect}
    (h : step m (.readContinue fd) = some (.ok r es m')) :
    ∃ p, m.files[fd]? = some (.reading p) ∧ es = m'.sys.effectsSince m.sys ∧
      ∃ res, attempt (readOn p) m.sys = .ok res m'.sys ∧
        pauseRead fd res { m with sys := m'.sys } = (r, m') := by
  obtain ⟨-, h⟩ := step_eq_some.mp h
  simp only [Machine.call] at h
  split at h
  · next p hc =>
    obtain ⟨res, s, hx, hk, rfl⟩ := Machine.exec_eq_ok.mp (Option.some.inj h)
    have hs : m'.sys = s := by
      rcases res with e | p | c <;> simp only [pauseRead, Prod.mk.injEq] at hk <;> rw [← hk.2]
    subst hs
    exact ⟨p, hc, rfl, res, hx, hk⟩
  · cases h

theorem step_release {m m' : Machine} {fd : Nat} {r : Reply} {es : List Effect}
    (h : step m (.release fd) = some (.ok r es m')) :
    (m.locked = false ∨ m.sys.devicePtr = false) ∧ m.files[fd]? = some .idle ∧
      es = m'.sys.effectsSince m.sys ∧ r = .done ∧
      m' = { m with sys := m'.sys, files := m.files.set fd .closed } ∧
      ∃ res, attempt Adxl345FileOps.release m.sys = .ok res m'.sys := by
  obtain ⟨hg, h⟩ := step_eq_some.mp h
  simp only [Machine.call] at h
  split at h
  · next hc =>
    obtain ⟨res, s, hx, hk, rfl⟩ := Machine.exec_eq_ok.mp (Option.some.inj h)
    simp only [Prod.mk.injEq] at hk
    obtain ⟨rfl, rfl⟩ := hk
    exact ⟨hg, hc, rfl, rfl, rfl, res, hx⟩
  · cases h

/-! ### A step runs its action's call -/

/-- The record of a step, however it ends. -/
def Next.effects : Next → List Effect
  | .ok _ es _ | .oops _ es => es

/-- `P` holds of the call that the action `a` runs from `m`. -/
def Action.callSatisfies (P : (α : Type) → Kern α → Prop) (m : Machine) : Action → Prop
  | .probe | .remove => P _ getDriverInstance
  | .bus e => P _ e.callback
  | .resume st => P _ st.run
  | .open flags => P _ (Adxl345FileOps.open flags)
  | .openStart flags => P _ (openInit flags)
  | .openFinish _ => P _ openReset
  | .read _ flags w => P _ (Adxl345FileOps.read flags w)
  | .readStart _ flags w => P _ (readEnter flags w)
  | .readContinue fd => ∀ p, m.files[fd]? = some (.reading p) → P _ (readOn p)
  | .release _ => P _ Adxl345FileOps.release

/-- **A step is its action's call, run by `Machine.exec`.** -/
theorem step_exec {P : (α : Type) → Kern α → Prop} {m : Machine} {a : Action} {n : Next}
    (h : step m a = some n) (hP : a.callSatisfies P m) :
    ∃ α, ∃ x : Kern α, ∃ k, n = m.exec x k ∧ P α x := by
  obtain ⟨-, h⟩ := step_eq_some.mp h
  cases a <;> simp only [Machine.call] at h <;> split at h <;> cases h
  all_goals first
    | exact ⟨_, _, _, rfl, hP⟩
    | exact ⟨_, _, _, rfl, hP _ ‹_›⟩

theorem Machine.exec_effects {α : Type} (m : Machine) (x : Kern α)
    (k : Except Error α → Machine → Reply × Machine) :
    (m.exec x k).effects = (final (x m.sys)).effectsSince m.sys := by
  rw [← final_attempt]
  unfold Machine.exec
  rcases attempt x m.sys with ⟨a, s⟩ | ⟨e | msg, s⟩ <;> rfl

theorem Machine.exec_eq_oops {α : Type} {m : Machine} {x : Kern α}
    {k : Except Error α → Machine → Reply × Machine} {msg : String} {es : List Effect}
    (h : m.exec x k = .oops msg es) : ∃ s, x m.sys = .error (.panic msg) s := by
  unfold Machine.exec at h
  rcases hx : attempt x m.sys with ⟨a, s⟩ | ⟨e | msg', s⟩ <;> simp only [hx] at h
  · cases h
  · obtain ⟨_, hm, -⟩ := attempt_eq_error hx
    cases hm
  · cases h
    obtain ⟨_, hm, hs⟩ := attempt_eq_error hx
    cases hm
    exact ⟨s, hs⟩

/-! ### Runs -/

/-- Runs the actions one after the other, from the machine `m` with history `h`, while each is
enabled and returns: the machine reached and the history, or `none`. -/
def runActions : Machine → List Event → List Action → Option (Machine × List Event)
  | m, h, [] => some (m, h)
  | m, h, a :: as =>
    match step m a with
    | some (.ok r es m') => runActions m' (h ++ [⟨a, r, es⟩]) as
    | _ => none

theorem reach_runActions {start : Machine} :
    ∀ {as : List Action} {m m' : Machine} {h h' : List Event},
      Reach start m h → runActions m h as = some (m', h') → Reach start m' h'
  | [], m, m', h, h', hr, hrun => by
    simp only [runActions, Option.some.injEq, Prod.mk.injEq] at hrun
    obtain ⟨rfl, rfl⟩ := hrun
    exact hr
  | a :: as, m, m', h, h', hr, hrun => by
    simp only [runActions] at hrun
    split at hrun
    · next r es m₁ hs => exact reach_runActions (hr.step hs) hrun
    · cases hrun

/-- Whether `p` holds of the machine and the history that the run `as` reaches from `start`. -/
def holdsAfter (start : Machine) (as : List Action) (p : Machine → List Event → Bool) : Bool :=
  match runActions start [] as with
  | some (m, h) => p m h
  | none => false

theorem reach_of_holdsAfter {start : Machine} {as : List Action}
    {p : Machine → List Event → Bool}
    (hp : holdsAfter start as p = true) : ∃ m h, Reach start m h ∧ p m h = true := by
  unfold holdsAfter at hp
  split at hp
  · next m h hrun => exact ⟨m, h, reach_runActions Reach.refl hrun, hp⟩
  · cases hp

/-- The reply of `a` after the run `as` from `start`, if `a` returns there. -/
def replyAfter (start : Machine) (as : List Action) (a : Action) : Option Reply :=
  match runActions start [] as with
  | some (m, _) =>
    match step m a with
    | some (.ok r _ _) => some r
    | _ => none
  | none => none

theorem reach_of_replyAfter {start : Machine} {as : List Action} {a : Action} {r : Reply}
    (h : replyAfter start as a = some r) :
    ∃ m hist es m', Reach start m hist ∧ step m a = some (.ok r es m') := by
  unfold replyAfter at h
  split at h
  · next m hist hrun =>
    split at h
    · next r' es m' hs =>
      cases h
      exact ⟨m, hist, es, m', reach_runActions Reach.refl hrun, hs⟩
    · cases h
  · cases h

/-- The panic message of `a` after the run `as` from `start`, if `a` panics there. -/
def oopsAfter (start : Machine) (as : List Action) (a : Action) : Option String :=
  match runActions start [] as with
  | some (m, _) =>
    match step m a with
    | some (.oops msg _) => some msg
    | _ => none
  | none => none

theorem reach_of_oopsAfter {start : Machine} {as : List Action} {a : Action} {msg : String}
    (h : oopsAfter start as a = some msg) :
    ∃ m hist es, Reach start m hist ∧ step m a = some (.oops msg es) := by
  unfold oopsAfter at h
  split at h
  · next m hist hrun =>
    split at h
    · next msg' es hs =>
      cases h
      exact ⟨m, hist, es, reach_runActions Reach.refl hrun, hs⟩
    · cases h
  · cases h

/-- Whether `a` returns after the run `as` from `start`, with effects that satisfy `p`. -/
def returnsAfter (start : Machine) (as : List Action) (a : Action) (p : List Effect → Bool) :
    Bool :=
  match runActions start [] as with
  | some (m, _) =>
    match step m a with
    | some (.ok _ es _) => p es
    | _ => false
  | none => false

theorem reach_of_returnsAfter {start : Machine} {as : List Action} {a : Action}
    {p : List Effect → Bool} (h : returnsAfter start as a p = true) :
    ∃ m hist r es m', Reach start m hist ∧ step m a = some (.ok r es m') ∧ p es = true := by
  unfold returnsAfter at h
  split at h
  · next m hist hrun =>
    split at h
    · next r es m' hs => exact ⟨m, hist, r, es, m', reach_runActions Reach.refl hrun, hs, h⟩
    · cases h
  · cases h

/-! ### Runs that bind the device and open the node

The chip answers the ten transfers of the set-up and `enable_measure`, the verification read and
the two transfers of `disable_measure` in `probe`, and the two of `enable_measure` in `open`;
`tail` is what it answers after them. -/

/-- The adapter's answers for a bind, an open and then `tail`. -/
def openedAnswers (tail : List Answer) : List Answer :=
  List.replicate 10 (.ok []) ++ [.ok [0, 0, 0, 0, 0, 0]] ++ List.replicate 4 (.ok []) ++ tail

/-- A complete `probe`, then an `open` of the node for reading. -/
def openedRun : List Action :=
  [.probe, .resume .probeInit, .resume .probeRegister, .resume .probeStore, .resume .probePublish,
    .open 0]

end RustAdxl345
