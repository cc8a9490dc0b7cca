import RustAdxl345.Lifecycle

/-!
# The filter's baseline and the stream it keeps

`ADXL345_LAST_SAMPLE` is one static for every file. The filter stores each sample it judges, and
an `open` resets the static after its wake-up sleep, outside the device lock (`step_lastSample`).
So the baseline is always the last sample judged since the last reset, or `(0, 0, 0)`
(`lastSample_last_judged`); it need not be the last one `read_data` returned, since a reset can
fall between a `read_data` and its filter call (`baseline_from_before_reset`). While no step
failed with `EFAULT`, the bytes copied since the last reset are the records of the judged samples
that moved (`copies_since_reset`).
-/

namespace RustAdxl345

open Op Adxl345FileOps

/-- Whether the step `e` reset the baseline: an `open` that returned `Ok`, or the rest of an
`open`. -/
def Event.resets (e : Event) : Bool :=
  match e.action, e.reply with
  | .open _, .ok _ | .openFinish _, _ => true
  | _, _ => false

/-- The samples the filter judged in the step `e`, which only a step of `read` calls. -/
def Event.judged (e : Event) : List Adxl345Sample :=
  match e.action with
  | .read _ _ _ | .readStart _ _ _ | .readContinue _ => Effect.judged e.effects
  | _ => []

/-- The bytes the step `e` copied into a user buffer, which only a step of `read` does. -/
def Event.copies (e : Event) : List UInt8 :=
  match e.action with
  | .read _ _ _ | .readStart _ _ _ | .readContinue _ => Effect.copies e.effects
  | _ => []

/-- The steps of `h` after its last reset of the baseline. -/
def sinceReset (h : List Event) : List Event :=
  h.foldl (fun acc e => if e.resets then [] else acc ++ [e]) []

@[simp] theorem sinceReset_nil : sinceReset [] = [] := rfl

@[simp] theorem sinceReset_append_event (h : List Event) (e : Event) :
    sinceReset (h ++ [e]) = if e.resets then [] else sinceReset h ++ [e] := by
  simp [sinceReset]

/-! ### One step -/

/-- **A step moves the baseline** to `(0, 0, 0)` where it resets it, and otherwise to the last
sample it judged, if any. -/
theorem step_lastSample {m m' : Machine} {a : Action} {r : Reply} {es : List Effect}
    (h : step m a = some (.ok r es m')) :
    m'.sys.lastSample = if Event.resets ⟨a, r, es⟩ then ⟨0, 0, 0⟩
      else (Event.judged ⟨a, r, es⟩).getLastD m.sys.lastSample := by
  cases a with
  | probe => obtain ⟨-, -, -, ⟨-, -, rfl⟩ | ⟨-, -, rfl⟩⟩ := step_probe h <;> rfl
  | remove => obtain ⟨-, -, -, -, ⟨-, rfl⟩ | ⟨-, rfl⟩⟩ := step_remove h <;> rfl
  | bus e => obtain ⟨-, -, rfl⟩ := step_bus h; rfl
  | resume st =>
    obtain ⟨-, hrun, -, -⟩ := step_resume h
    exact (Stage.run_ok hrun).2.2.2.1
  | «open» flags =>
    obtain ⟨-, -, res, hres, hcase⟩ := step_open h
    obtain ⟨s₁, h₁, hs⟩ := open_returned hres
    have hl₁ := congrArg Sys.lastSample (openInit_returned h₁).1
    rcases hcase with ⟨rfl, rfl, -⟩ | ⟨e, rfl, rfl, -⟩
    · obtain ⟨-, hs⟩ | ⟨hne, -⟩ := hs
      · rw [hs]; rfl
      · cases hne rfl
    · obtain ⟨hne, -⟩ | ⟨-, hs⟩ := hs
      · cases hne
      · rw [hs, hl₁]; rfl
  | openStart flags =>
    obtain ⟨-, -, -, res, hres, -⟩ := step_openStart h
    obtain ⟨hs, -⟩ := openInit_returned hres
    rw [hs]; rfl
  | openFinish fd => obtain ⟨-, rfl, rfl, rfl⟩ := step_openFinish h; rfl
  | read fd flags w =>
    obtain ⟨-, -, rfl, -, res, hres, -⟩ := step_read h
    exact (read_returned hres).frame.lastSample
  | readStart fd flags w =>
    obtain ⟨-, -, rfl, res, hres, -⟩ := step_readStart h
    exact (readEnter_ok hres).2.1.lastSample
  | readContinue fd =>
    obtain ⟨p, -, rfl, res, hres, -⟩ := step_readContinue h
    exact (readOn_ok hres).1.lastSample
  | release fd =>
    obtain ⟨-, -, -, -, -, res, hres⟩ := step_release h
    obtain ⟨hs, -⟩ := release_returned hres
    rw [hs]; rfl

/-- **A step copies the records of the samples it judged that moved**, each from the one before
and the first from the baseline it found, unless it failed with `EFAULT`. -/
theorem step_copies {m m' : Machine} {a : Action} {r : Reply} {es : List Effect}
    (h : step m a = some (.ok r es m')) (hr : r ≠ .err Error.EFAULT) :
    Event.copies ⟨a, r, es⟩ =
      ((movedSamples m.sys.lastSample (Event.judged ⟨a, r, es⟩)).map
        Adxl345Sample.bytes).flatten := by
  cases a with
  | read fd flags w =>
    obtain ⟨-, -, rfl, -, res, hres, rfl⟩ := step_read h
    have hrd := read_returned hres
    simp only [Event.copies, Event.judged]
    rw [hrd.judged]
    exact hrd.copies fun he => hr (by rw [he]; rfl)
  | readStart fd flags w =>
    obtain ⟨-, -, rfl, res, hres, -⟩ := step_readStart h
    obtain ⟨-, -, hj, hc, -⟩ := readEnter_ok hres
    simp [Event.copies, Event.judged, hj, hc]
  | readContinue fd =>
    obtain ⟨p, -, rfl, res, hres, hm⟩ := step_readContinue h
    obtain ⟨-, hj, -, -, -, -, hc, -⟩ := readOn_ok hres
    have hne : res ≠ .error Error.EFAULT := by
      rintro rfl
      simp only [pauseRead, Prod.mk.injEq] at hm
      exact hr hm.1.symm
    simp only [Event.copies, Event.judged]
    rw [hj, hc hne, movedRecords_cons, movedSamples_nil, List.map_nil, List.flatten_nil,
      List.append_nil]
  | _ => rfl

/-! ### Over a run -/

/-- The samples the filter judged since the last reset, in order. -/
def judgedSinceReset (h : List Event) : List Adxl345Sample := (sinceReset h).flatMap Event.judged

/-- The bytes copied into user buffers since the last reset, in order. -/
def copiesSinceReset (h : List Event) : List UInt8 := (sinceReset h).flatMap Event.copies

/-- The baseline is the last sample judged since the last reset, and, while no step since then
failed with `EFAULT`, the bytes copied since then are the records of the judged samples that
moved. -/
theorem reach_stream {regs : UInt8 → UInt8} {answers : List Answer} {chrdev : ChrdevAnswer}
    {m : Machine} {h : List Event} (hr : Reach (boot regs answers chrdev) m h) :
    m.sys.lastSample = (judgedSinceReset h).getLastD ⟨0, 0, 0⟩ ∧
      ((∀ e ∈ sinceReset h, e.reply ≠ .err Error.EFAULT) →
        copiesSinceReset h =
          ((movedSamples ⟨0, 0, 0⟩ (judgedSinceReset h)).map Adxl345Sample.bytes).flatten) := by
  induction hr with
  | refl => exact ⟨rfl, fun _ => rfl⟩
  | @step m₁ m₂ h₁ a r es _ hs ih =>
    obtain ⟨hlast, hcopies⟩ := ih
    have hl := step_lastSample hs
    simp only [judgedSinceReset, copiesSinceReset, sinceReset_append_event] at hl ⊢
    split at hl
    · simp only [*, if_true]
      exact ⟨rfl, fun _ => rfl⟩
    simp only [*, Bool.false_eq_true, if_false, List.flatMap_append, List.flatMap_cons,
      List.flatMap_nil, List.append_nil, List.mem_append, List.mem_singleton]
    refine ⟨by rw [getLastD_append]; rfl, fun hno => ?_⟩
    rw [movedSamples_append, List.map_append, List.flatten_append]
    exact congrArg₂ (· ++ ·) (hcopies fun e he => hno e (.inl he))
      (hlast ▸ step_copies hs (hno _ (.inr rfl)))

/-- **The baseline is the last sample the filter judged since the last reset.** In every
reachable state `ADXL345_LAST_SAMPLE` is the last sample the filter judged, in a `read` of any
file, since the last `open` reset it, or `(0, 0, 0)` if there is none. -/
theorem lastSample_last_judged {regs : UInt8 → UInt8} {answers : List Answer}
    {chrdev : ChrdevAnswer} {m : Machine} {h : List Event}
    (hr : Reach (boot regs answers chrdev) m h) :
    m.sys.lastSample = (judgedSinceReset h).getLastD ⟨0, 0, 0⟩ :=
  (reach_stream hr).1

set_option smartUnfolding false in
/-- After `probe`, an `open` and a `read` of the sample `(400, 0, 0)`, the baseline is that
sample. -/
theorem lastSample_after_read :
    ∃ m h, Reach (boot (fun _ => 0)
        (openedAnswers [.ok [0x80], .ok [0x64, 0, 0, 0, 0, 0], .ok [0]]) .ok) m h ∧
      judgedSinceReset h = [⟨400, 0, 0⟩] ∧
      m.sys.lastSample = (judgedSinceReset h).getLastD ⟨0, 0, 0⟩ := by
  obtain ⟨m, h, hr, hb⟩ := @reach_of_holdsAfter
    (boot (fun _ => 0) (openedAnswers [.ok [0x80], .ok [0x64, 0, 0, 0, 0, 0], .ok [0]]) .ok)
    (openedRun ++ [.read 0 0 ⟨6, 6⟩]) (fun _ h => judgedSinceReset h == [⟨400, 0, 0⟩])
    (by decide)
  exact ⟨m, h, hr, eq_of_beq hb, lastSample_last_judged hr⟩

set_option smartUnfolding false in
/-- **The baseline can predate the last reset.** After `probe` and an `open` of A, B's `open`
enables measurement, A's `read` takes the sample `(400, 0, 0)` and pauses before the filter, B's
`open` resets the baseline and returns `Ok`, and A's `read` judges its sample: no `read_data`
returned since the reset, yet the baseline is `(400, 0, 0)`. -/
theorem baseline_from_before_reset :
    ∃ m h, Reach (boot (fun _ => 0) (openedAnswers
        [.ok [], .ok [], .ok [0x80], .ok [0x64, 0, 0, 0, 0, 0], .ok [0]]) .ok) m h ∧
      (sinceReset h).map Event.action = [.readContinue 0] ∧
      Effect.samples ((sinceReset h).flatMap Event.effects) = [] ∧
      m.sys.lastSample = ⟨400, 0, 0⟩ := by
  obtain ⟨m, h, hr, hp⟩ := @reach_of_holdsAfter (boot (fun _ => 0) (openedAnswers
      [.ok [], .ok [], .ok [0x80], .ok [0x64, 0, 0, 0, 0, 0], .ok [0]]) .ok)
    (openedRun ++ [.openStart 0, .readStart 0 0 ⟨6, 6⟩, .openFinish 1, .readContinue 0])
    (fun m h => (sinceReset h).map Event.action == [.readContinue 0] &&
      Effect.samples ((sinceReset h).flatMap Event.effects) == [] &&
      m.sys.lastSample == ⟨400, 0, 0⟩) (by decide)
  simp only [Bool.and_eq_true, beq_iff_eq] at hp
  exact ⟨m, h, hr, hp.1.1, hp.1.2, hp.2⟩

end RustAdxl345
