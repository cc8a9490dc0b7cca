import RustAdxl345.System

/-!
# The filter's `i16` arithmetic

Where every difference of two axes stays within `-32767 ..= 32767`, the filter's checked `i16`
arithmetic does not overflow and computes exactly `moved` (`filterVerdict_of_inRange`). A sample
can hold `-32768` on an axis, though: against the baseline `(0, 0, 0)` its `abs` overflows and the
read panics (`read_panics_on_overflow`).
-/

namespace RustAdxl345

open Op

/-- Each difference of two axes is an `i16` whose `abs` is one too. -/
def InRange (last new : Adxl345Sample) : Prop :=
  (new.x.toInt - last.x.toInt).natAbs ≤ 32767 ∧
    (new.y.toInt - last.y.toInt).natAbs ≤ 32767 ∧
    (new.z.toInt - last.z.toInt).natAbs ≤ 32767

theorem absDiffOf_of_inRange {a b : BitVec 16} (h : (a.toInt - b.toInt).natAbs ≤ 32767) :
    ∃ v, absDiffOf a b = .ok v := by
  have hr : -32768 ≤ a.toInt - b.toInt ∧ a.toInt - b.toInt ≤ 32767 := by omega
  have hm : (a - b).toInt ≠ -32768 := by
    rw [BitVec.toInt_sub, bmod_of_i16 hr.1 hr.2]
    omega
  simp only [absDiffOf, i16Sub, if_pos hr, i16Abs, if_neg hm, Except.ok.injEq, exists_eq']

/-- **Within range the filter computes `moved`.** -/
theorem filterVerdict_of_inRange {last new : Adxl345Sample} (h : InRange last new) :
    filterVerdict last new = .ok !(moved last new) := by
  obtain ⟨vx, hx⟩ := absDiffOf_of_inRange h.1
  obtain ⟨vy, hy⟩ := absDiffOf_of_inRange h.2.1
  obtain ⟨vz, hz⟩ := absDiffOf_of_inRange h.2.2
  obtain ⟨keep, hk⟩ : ∃ keep, filterVerdict last new = .ok keep := by
    simp only [filterVerdict, hx, hy, hz]
    split_ifs <;> exact ⟨_, rfl⟩
  rw [hk, filterVerdict_eq_ok hk]

/-- A sample 100 units off the baseline on x is kept. -/
theorem filterVerdict_keeps_far_sample :
    InRange ⟨0, 0, 0⟩ ⟨100, 0, 0⟩ ∧
      filterVerdict ⟨0, 0, 0⟩ ⟨100, 0, 0⟩ = .ok !(moved ⟨0, 0, 0⟩ ⟨100, 0, 0⟩) :=
  ⟨⟨by decide, by decide, by decide⟩,
    filterVerdict_of_inRange ⟨by decide, by decide, by decide⟩⟩

/-! ### A reachable overflow -/

set_option smartUnfolding false in
/-- **A read that panics in the filter.** After `probe` and an `open`, a blocking read whose
sample arrives as `0x00, 0xE0, 0, 0, 0, 0` decodes x to `-32768`; against the baseline
`(0, 0, 0)` the difference is `-32768` and its `abs` overflows. -/
theorem read_panics_on_overflow :
    ∃ m h es, Reach (boot (fun _ => 0)
        (openedAnswers [.ok [0x80], .ok [0, 0xE0, 0, 0, 0, 0]]) .ok) m h ∧
      step m (.read 0 0 ⟨6, 6⟩) = some (.oops "attempt to negate with overflow" es) :=
  @reach_of_oopsAfter _ openedRun _ _ (by decide)

end RustAdxl345
