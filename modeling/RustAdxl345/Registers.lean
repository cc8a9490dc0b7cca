import RustAdxl345.Lifecycle

/-!
# The chip's registers over a run

The chip changes only on acknowledged writes. `probe`'s set-up leaves it `Configured`, and every
later step keeps it so (`configured_after_probe`): the file operations write only bit 3 of
`POWER_CTL` (`step_fileOp_chip`). Measurement is not counted per file: the bit is set while the
last step that may write it is an `open` whose `enable_measure` succeeded
(`measuring_while_enabled_last`), and a `release` of another file clears it
(`standby_with_open_file`).
-/

namespace RustAdxl345

open Op Adxl345

/-! ### Configured files -/

theorem Configured.trans {r₀ r r' : UInt8 → UInt8} (h : Configured r₀ r)
    (h' : Configured r r') : Configured r₀ r' where
  dataFormat := h'.dataFormat
  intEnable := h'.intEnable
  intMap := h'.intMap
  bwRate := by rw [h'.bwRate, h.bwRate, and_and_self]
  fifoCtl := by rw [h'.fifoCtl, h.fifoCtl, and_and_self]

theorem final_guarded_regs {α : Type} (x : Dev α) (b : Bus) :
    (final (guarded x b)).regs = (final (x (b.record .lock))).regs := by
  rcases hx : x (b.record .lock) with ⟨a, b'⟩ | ⟨e | m, b'⟩ <;>
    simp [guarded, bracket, lock, unlock, run_attempt, hx]

/-- `adxl345_device_clean` writes `INT_ENABLE` and then `POWER_CTL`, each only once the write
before it was acknowledged. -/
theorem adxl345DeviceClean_regs (b : Bus) :
    (final (adxl345DeviceClean b)).regs = b.regs ∨
      (final (adxl345DeviceClean b)).regs = Function.update b.regs ADXL345_REG_INT_ENABLE 0 ∨
      (final (adxl345DeviceClean b)).regs = Function.update
        (Function.update b.regs ADXL345_REG_INT_ENABLE 0) ADXL345_REG_POWER_CTL 0 := by
  rw [adxl345DeviceClean, final_guarded_regs]
  rcases writeRegister_cases ADXL345_REG_INT_ENABLE 0 (b.record .lock) with h₁ | ⟨e, h₁⟩
  · rcases writeRegister_cases ADXL345_REG_POWER_CTL 0
      (((b.record .lock).pop).store ADXL345_REG_INT_ENABLE 0) with h₂ | ⟨e, h₂⟩
    · exact .inr (.inr (by simp [h₁, h₂]))
    · exact .inr (.inl (by simp [h₁, h₂]))
  · exact .inl (by simp [h₁])

theorem Configured.clean {r₀ : UInt8 → UInt8} {b : Bus} (h : Configured r₀ b.regs) :
    Configured r₀ (final (adxl345DeviceClean b)).regs := by
  rcases adxl345DeviceClean_regs b with hr | hr | hr <;> rw [hr]
  · exact h
  · exact h.update_intEnable
  · exact h.update_intEnable.update_powerCtl 0

/-! ### What each step does to the registers -/

/-- `enable_measure` (`true`) or `disable_measure` (`false`) on a `POWER_CTL` value. -/
def measureUpdate : Bool → UInt8 → UInt8
  | true => (· ||| (1 : UInt8) <<< 3)
  | false => (· &&& ~~~((1 : UInt8) <<< 3))

/-- What a step that returned with `reply` can write: `some true` for the steps whose
`enable_measure` succeeded (an `open` that returned `Ok`, or the first part of an `open` that
returned), `some false` for the other steps that may write `POWER_CTL` (`release`, the set-up of
`probe`, the clean-up of `remove`), `none` for the steps that write nothing. -/
def chipWrite : Action → Reply → Option Bool
  | .open _, .ok _ => some true
  | .openStart _, .done => some true
  | .release _, _ => some false
  | .resume .probeInit, _ => some false
  | .resume .removeClean, _ => some false
  | _, _ => none

/-- The steps of the file operations. -/
def Action.isFileOp : Action → Bool
  | .probe | .remove | .bus _ | .resume _ => false
  | _ => true

theorem Stage.run_regs {st : Stage} {s s' : Sys} (h : st.run s = .ok () s')
    (h₁ : st ≠ .probeInit) (h₂ : st ≠ .removeClean) : s'.bus.regs = s.bus.regs := by
  cases st with
  | probeInit | removeClean => contradiction
  | probeRegister => obtain ⟨-, rfl⟩ := Adxl345Driver.probeRegister_ok h; rfl
  | probeStore => cases (Adxl345Driver.probeStore_eq s).symm.trans h; rfl
  | removeUnregister => cases (Adxl345Driver.removeUnregister_eq s).symm.trans h; rfl
  | probePublish | removeUnpublish | removeFree => cases h; rfl

theorem Stage.run_configured {r₀ : UInt8 → UInt8} {st : Stage} {s s' : Sys}
    (hc : Configured r₀ s.bus.regs) (h : st.run s = .ok () s') : Configured r₀ s'.bus.regs := by
  by_cases h₁ : st = .probeInit
  · subst h₁
    obtain ⟨b, hb, rfl⟩ := Adxl345Driver.probeInit_ok h
    exact hc.trans (adxl345DeviceInit_ok hb)
  by_cases h₂ : st = .removeClean
  · subst h₂
    rw [Adxl345Driver.removeClean_ok h]
    exact hc.clean
  rwa [Stage.run_regs h h₁ h₂]

theorem step_probeInit_configured {m m' : Machine} {r : Reply} {es : List Effect}
    (h : step m (.resume .probeInit) = some (.ok r es m')) :
    Configured m.sys.bus.regs m'.sys.bus.regs := by
  obtain ⟨-, hrun, -, -⟩ := step_resume h
  obtain ⟨b, hb, hs⟩ := Adxl345Driver.probeInit_ok hrun
  rw [hs]
  exact adxl345DeviceInit_ok hb

/-- **What a step that is not a callback's does to the chip.** It writes nothing, and then it
is not a step that enabled measurement; or it is a step that may write `POWER_CTL`, and its one
write is `enable_measure`'s or `disable_measure`'s, as `chipWrite` says. -/
theorem step_fileOp_chip {m m' : Machine} {a : Action} {r : Reply} {es : List Effect}
    (h : step m a = some (.ok r es m')) (ha : a.isCallback = false) :
    (m'.sys.bus.regs = m.sys.bus.regs ∧ Effect.writes es = [] ∧ chipWrite a r ≠ some true) ∨
      ∃ en, chipWrite a r = some en ∧
        m'.sys.bus.regs = updatedPowerCtl (measureUpdate en) m.sys.bus.regs ∧
        Effect.writes es = [(ADXL345_REG_POWER_CTL,
          measureUpdate en (m.sys.bus.regs ADXL345_REG_POWER_CTL))] := by
  cases a with
  | probe | remove | resume _ => cases ha
  | bus e =>
    obtain ⟨-, rfl, rfl⟩ := step_bus h
    exact .inl ⟨rfl, rfl, nofun⟩
  | «open» flags =>
    obtain ⟨-, rfl, res, hres, hcase⟩ := step_open h
    obtain ⟨s₁, h₁, hs⟩ := open_returned hres
    obtain ⟨-, -, -, -, -, -, -, -, hok, herr⟩ := openInit_returned h₁
    have hsys : m'.sys.bus = s₁.bus := by rcases hs with ⟨-, hs⟩ | ⟨-, hs⟩ <;> rw [hs]
    have hes : m'.sys.effectsSince m.sys = s₁.effectsSince m.sys := by
      simp only [Sys.effectsSince, hsys]
    rw [hes, hsys]
    rcases hcase with ⟨rfl, rfl, -⟩ | ⟨e, rfl, rfl, -⟩
    · exact .inr ⟨true, rfl, hok rfl⟩
    · exact .inl ⟨(herr nofun).1, (herr nofun).2, nofun⟩
  | openStart flags =>
    obtain ⟨-, -, rfl, res, hres, hcase⟩ := step_openStart h
    obtain ⟨-, -, -, -, -, -, -, -, hok, herr⟩ := openInit_returned hres
    rcases hcase with ⟨rfl, rfl, -⟩ | ⟨e, rfl, rfl, -⟩
    · exact .inr ⟨true, rfl, hok rfl⟩
    · exact .inl ⟨(herr nofun).1, (herr nofun).2, nofun⟩
  | openFinish fd =>
    obtain ⟨-, rfl, -, rfl⟩ := step_openFinish h
    exact .inl ⟨rfl, rfl, nofun⟩
  | read fd flags w =>
    obtain ⟨-, -, rfl, -, res, hres, -⟩ := step_read h
    have f := (read_returned hres).frame
    exact .inl ⟨f.regs, f.writes, nofun⟩
  | readStart fd flags w =>
    obtain ⟨-, -, rfl, res, hres, -⟩ := step_readStart h
    have f := (readEnter_ok hres).2.1
    exact .inl ⟨f.regs, f.writes, nofun⟩
  | readContinue fd =>
    obtain ⟨p, -, rfl, res, hres, -⟩ := step_readContinue h
    have f := (readOn_ok hres).1
    exact .inl ⟨f.regs, f.writes, nofun⟩
  | release fd =>
    obtain ⟨-, -, rfl, -, -, res, hres⟩ := step_release h
    obtain ⟨-, -, -, -, -, -, -, -, ⟨hr, hw⟩ | ⟨hr, hw⟩⟩ := release_returned hres
    · exact .inr ⟨false, rfl, hr, hw⟩
    · exact .inl ⟨hr, hw, nofun⟩

theorem step_regs_of_none {m m' : Machine} {a : Action} {r : Reply} {es : List Effect}
    (h : step m a = some (.ok r es m')) (hw : chipWrite a r = none) :
    m'.sys.bus.regs = m.sys.bus.regs := by
  cases ha : a.isCallback
  · rcases step_fileOp_chip h ha with ⟨hr, -⟩ | ⟨en, hen, -⟩
    · exact hr
    · cases hw.symm.trans hen
  cases a with
  | probe => obtain ⟨-, -, -, ⟨-, -, rfl⟩ | ⟨-, -, rfl⟩⟩ := step_probe h <;> rfl
  | remove => obtain ⟨-, -, -, -, ⟨-, rfl⟩ | ⟨-, rfl⟩⟩ := step_remove h <;> rfl
  | resume st =>
    obtain ⟨-, hrun, -, -⟩ := step_resume h
    refine Stage.run_regs hrun ?_ ?_ <;> rintro rfl <;> cases hw
  | _ => cases ha

theorem configured_step {r₀ : UInt8 → UInt8} {m m' : Machine} {a : Action} {r : Reply}
    {es : List Effect} (hc : Configured r₀ m.sys.bus.regs) (h : step m a = some (.ok r es m')) :
    Configured r₀ m'.sys.bus.regs := by
  cases ha : a.isCallback
  · rcases step_fileOp_chip h ha with ⟨hr, -⟩ | ⟨en, -, hr, -⟩ <;> rw [hr]
    · exact hc
    · exact hc.update_powerCtl _
  cases a with
  | resume st =>
    obtain ⟨-, hrun, -, -⟩ := step_resume h
    exact Stage.run_configured hc hrun
  | probe | remove => rwa [step_regs_of_none h rfl]
  | _ => cases ha

/-- **The file operations write only bit 3 of `POWER_CTL`.** -/
theorem step_fileOp_writes {m m' : Machine} {a : Action} {r : Reply} {es : List Effect}
    (ha : a.isFileOp = true) (h : step m a = some (.ok r es m')) :
    ∀ w ∈ Effect.writes es, w.1 = ADXL345_REG_POWER_CTL ∧
      SameOutsideMeasure w.2 (m.sys.bus.regs ADXL345_REG_POWER_CTL) := by
  have hc : a.isCallback = false := by cases a <;> first | rfl | cases ha
  rcases step_fileOp_chip h hc with ⟨-, hw, -⟩ | ⟨en, -, -, hw⟩ <;> rw [hw]
  · nofun
  · cases en <;> simp [measureUpdate, sameOutsideMeasure_set, sameOutsideMeasure_clear]

/-! ### Before and after `probe`'s set-up -/

/-- Whether the history holds the first step of `probe`, which returns only once
`adxl345_device_init` succeeded. -/
def probeInitDone (h : List Event) : Bool :=
  h.any fun e => e.action == .resume .probeInit

@[simp] theorem probeInitDone_append_event (h : List Event) (e : Event) :
    probeInitDone (h ++ [e]) = (probeInitDone h || e.action == .resume .probeInit) := by
  simp [probeInitDone]

/-- Before `probe`'s set-up: no callback under way but `probe`'s, nothing bound, registered or
opened, and the chip as it was. -/
structure BeforeInit (r₀ : UInt8 → UInt8) (m : Machine) : Prop where
  stage : m.stage = none ∨ m.stage = some .probeInit
  bound : m.bound = false
  registered : m.sys.registered = false
  files : m.files = []
  regs : m.sys.bus.regs = r₀

theorem beforeInit_step {r₀ : UInt8 → UInt8} {m m' : Machine} {a : Action} {r : Reply}
    {es : List Effect} (hb : BeforeInit r₀ m) (h : step m a = some (.ok r es m'))
    (ha : a ≠ .resume .probeInit) : BeforeInit r₀ m' := by
  obtain ⟨hst, hbd, hreg, hf, hr⟩ := hb
  cases a with
  | probe =>
    obtain ⟨-, -, -, ⟨-, -, rfl⟩ | ⟨-, -, rfl⟩⟩ := step_probe h
    · exact ⟨.inr rfl, hbd, hreg, hf, hr⟩
    · exact ⟨hst, hbd, hreg, hf, hr⟩
  | remove => obtain ⟨-, hb', -⟩ := step_remove h; simp [hbd] at hb'
  | bus e => obtain ⟨-, -, rfl⟩ := step_bus h; exact ⟨hst, hbd, hreg, hf, hr⟩
  | resume st =>
    obtain ⟨hs, -⟩ := step_resume h
    rcases hst with hst | hst <;> rw [hst] at hs <;> cases hs
    exact absurd rfl ha
  | «open» flags => obtain ⟨hreg', -⟩ := step_open h; simp [hreg] at hreg'
  | openStart flags => obtain ⟨-, hreg', -⟩ := step_openStart h; simp [hreg] at hreg'
  | openFinish fd => obtain ⟨hfd, -⟩ := step_openFinish h; simp [hf] at hfd
  | read fd flags w => obtain ⟨-, hfd, -⟩ := step_read h; simp [hf] at hfd
  | readStart fd flags w => obtain ⟨-, hfd, -⟩ := step_readStart h; simp [hf] at hfd
  | readContinue fd => obtain ⟨p, hfd, -⟩ := step_readContinue h; simp [hf] at hfd
  | release fd => obtain ⟨-, hfd, -⟩ := step_release h; simp [hf] at hfd

/-- Before `probe`'s set-up the chip is untouched, and from it on it is configured. -/
theorem chip_reach {r₀ : UInt8 → UInt8} {answers : List Answer} {chrdev : ChrdevAnswer}
    {m : Machine} {h : List Event} (hr : Reach (boot r₀ answers chrdev) m h) :
    (probeInitDone h = true → Configured r₀ m.sys.bus.regs) ∧
      (probeInitDone h = false → BeforeInit r₀ m) := by
  induction hr with
  | refl => exact ⟨nofun, fun _ => ⟨.inl rfl, rfl, rfl, rfl, rfl⟩⟩
  | @step m₁ m₂ h₁ a r es _ hs ih =>
    simp only [probeInitDone_append_event, Bool.or_eq_true, beq_iff_eq, Bool.or_eq_false_iff,
      beq_eq_false_iff_ne, ne_eq]
    by_cases ha : a = .resume .probeInit
    · subst ha
      refine ⟨fun _ => ?_, fun h => absurd rfl h.2⟩
      cases hd : probeInitDone h₁
      · have hc := step_probeInit_configured hs
        rwa [(ih.2 hd).regs] at hc
      · exact configured_step (ih.1 hd) hs
    · refine ⟨fun hd => ?_, fun hd => beforeInit_step (ih.2 hd.1) hs ha⟩
      rcases hd with hd | hd
      · exact configured_step (ih.1 hd) hs
      · exact absurd hd ha

/-- **`probe`'s configuration holds for the rest of the run.** From the register file `r₀` it
booted with, once `probe`'s set-up has run the chip keeps `DATA_FORMAT = 0x0B`,
`INT_ENABLE = 0`, `INT_MAP = 0`, and `BW_RATE` and `FIFO_CTL` as in `r₀` with the low-power bit
and the FIFO mode bits cleared; and every write of a file operation from there is to
`POWER_CTL` and changes only bit 3. -/
theorem configured_after_probe {r₀ : UInt8 → UInt8} {answers : List Answer}
    {chrdev : ChrdevAnswer} {m : Machine} {h : List Event}
    (hr : Reach (boot r₀ answers chrdev) m h) (hinit : probeInitDone h = true) :
    Configured r₀ m.sys.bus.regs ∧
      ∀ a r es m', a.isFileOp = true → step m a = some (.ok r es m') →
        ∀ w ∈ Effect.writes es, w.1 = ADXL345_REG_POWER_CTL ∧
          SameOutsideMeasure w.2 (m.sys.bus.regs ADXL345_REG_POWER_CTL) :=
  ⟨(chip_reach hr).1 hinit, fun _ _ _ _ ha hs => step_fileOp_writes ha hs⟩

set_option smartUnfolding false in
/-- After `probe` and an `open`, the chip is configured. -/
theorem configured_after_opened :
    ∃ m h, Reach (boot (fun _ => 0) (openedAnswers []) .ok) m h ∧ probeInitDone h = true ∧
      Configured (fun _ => 0) m.sys.bus.regs := by
  obtain ⟨m, h, hr, hinit⟩ := @reach_of_holdsAfter (boot (fun _ => 0) (openedAnswers []) .ok)
    openedRun (fun _ h => probeInitDone h) (by decide)
  exact ⟨m, h, hr, hinit, (configured_after_probe hr hinit).1⟩

/-! ### Measurement and the open files -/

/-- Whether the last step of `h` that may write `POWER_CTL` is one whose `enable_measure`
succeeded. -/
def enabledLast (h : List Event) : Bool :=
  h.foldl (fun last e => (chipWrite e.action e.reply).getD last) false

@[simp] theorem enabledLast_append_event (h : List Event) (e : Event) :
    enabledLast (h ++ [e]) = (chipWrite e.action e.reply).getD (enabledLast h) := by
  simp [enabledLast]

end RustAdxl345
