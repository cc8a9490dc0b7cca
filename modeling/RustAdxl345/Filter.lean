import RustAdxl345.Kern

/-!
# The noise filter (`adxl345_filter_out`, `fileops.rs`)

The filter compares a new sample with the baseline `ADXL345_LAST_SAMPLE` axis by axis, in `i16`
arithmetic under the kernel's overflow checks (`i16Sub` and `i16Abs` are `none` where Rust
panics), keeps it if some axis moved by more than `ADXL345_FILTER`, and on every return path
stores it as the baseline. `filterVerdict` is the same computation as a pure function
(`adxl345FilterOut_spec`). Whenever it answers, it answers `!moved`, the comparison over the
integers (`filterVerdict_eq_ok`); `movedSamples` is the stream it keeps from a run of samples.
-/

namespace RustAdxl345

open Op

/-- `ADXL345_FILTER`: the smallest change on an axis that keeps a sample. -/
def ADXL345_FILTER : BitVec 16 := 50

/-- `a - b` on `i16`; `none` where it overflows ("attempt to subtract with overflow"). -/
def i16Sub (a b : BitVec 16) : Option (BitVec 16) :=
  if -32768 ≤ a.toInt - b.toInt ∧ a.toInt - b.toInt ≤ 32767 then some (a - b) else none

/-- `a.abs()` on `i16`; `none` at `i16::MIN` ("attempt to negate with overflow"). -/
def i16Abs (a : BitVec 16) : Option (BitVec 16) :=
  if a.toInt = -32768 then none else some (if a.toInt < 0 then -a else a)

/-- An `i16` operation under overflow checks: its value, or the panic. -/
def checked (r : Option (BitVec 16)) (msg : String) : Kern (BitVec 16) :=
  match r with
  | some v => pure v
  | none => abort msg

/-- `(a - b).abs()`. -/
def absDiff (a b : BitVec 16) : Kern (BitVec 16) := do
  let d ← checked (i16Sub a b) "attempt to subtract with overflow"
  checked (i16Abs d) "attempt to negate with overflow"

/-- A store to `ADXL345_LAST_SAMPLE`. -/
def setLastSample (s : Adxl345Sample) : Kern Unit := modify fun g => { g with lastSample := s }

/-- `*last_sample = *new_sample`: the sample the filter judged becomes the baseline. -/
def storeSample (s : Adxl345Sample) : Kern Unit :=
  modify fun g => { g with lastSample := s, bus := g.bus.record (.judge s) }

/-- `adxl345_filter_out`. -/
def adxl345FilterOut (newSample : Adxl345Sample) : Kern Bool := do
  let lastSample := (← get).lastSample
  let diffX ← absDiff newSample.x lastSample.x
  if ADXL345_FILTER.slt diffX then
    storeSample newSample
    pure false
  else
  let diffY ← absDiff newSample.y lastSample.y
  if ADXL345_FILTER.slt diffY then
    storeSample newSample
    pure false
  else
  let diffZ ← absDiff newSample.z lastSample.z
  if ADXL345_FILTER.slt diffZ then
    storeSample newSample
    pure false
  else
  storeSample newSample
  pure true

/-! ### The filter as a function -/

/-- `(a - b).abs()` as a value: the result, or the panic message. -/
def absDiffOf (a b : BitVec 16) : Except String (BitVec 16) :=
  match i16Sub a b with
  | none => .error "attempt to subtract with overflow"
  | some d =>
    match i16Abs d with
    | none => .error "attempt to negate with overflow"
    | some v => .ok v

/-- What `adxl345_filter_out` answers for `new` against the baseline `last`, or its panic. -/
def filterVerdict (last new : Adxl345Sample) : Except String Bool :=
  match absDiffOf new.x last.x with
  | .error m => .error m
  | .ok diffX =>
    if ADXL345_FILTER.slt diffX then .ok false else
    match absDiffOf new.y last.y with
    | .error m => .error m
    | .ok diffY =>
      if ADXL345_FILTER.slt diffY then .ok false else
      match absDiffOf new.z last.z with
      | .error m => .error m
      | .ok diffZ => .ok !ADXL345_FILTER.slt diffZ

theorem absDiff_spec (a b : BitVec 16) (s : Sys) : absDiff a b s =
    match absDiffOf a b with
    | .ok v => .ok v s
    | .error m => .error (.panic m) s := by
  simp only [absDiff, absDiffOf]
  rcases i16Sub a b with _ | d
  · rfl
  · rcases h : i16Abs d with _ | v <;> simp [checked, h]

/-- The filter's only effects are the new baseline and the record of its judgement. -/
theorem adxl345FilterOut_spec (newSample : Adxl345Sample) (s : Sys) :
    adxl345FilterOut newSample s =
      match filterVerdict s.lastSample newSample with
      | .ok v => .ok v { s with lastSample := newSample, bus := s.bus.record (.judge newSample) }
      | .error m => .error (.panic m) s := by
  simp only [adxl345FilterOut, filterVerdict, run_bind, run_get, absDiff_spec]
  rcases absDiffOf newSample.x s.lastSample.x with m | dx
  · rfl
  by_cases hx : ADXL345_FILTER.slt dx
  · simp [hx, storeSample]
  simp only [hx, Bool.false_eq_true, ↓reduceIte, run_bind, absDiff_spec]
  rcases absDiffOf newSample.y s.lastSample.y with m | dy
  · rfl
  by_cases hy : ADXL345_FILTER.slt dy
  · simp [hy, storeSample]
  simp only [hy, Bool.false_eq_true, ↓reduceIte, run_bind, absDiff_spec]
  rcases absDiffOf newSample.z s.lastSample.z with m | dz
  · rfl
  by_cases hz : ADXL345_FILTER.slt dz <;> simp [hz, storeSample]

/-! ### The verdict over the integers -/

/-- The filter's comparison over the integers: the sample moved by more than `ADXL345_FILTER`
on some axis. -/
def moved (last new : Adxl345Sample) : Bool :=
  50 < (new.x.toInt - last.x.toInt).natAbs || 50 < (new.y.toInt - last.y.toInt).natAbs ||
    50 < (new.z.toInt - last.z.toInt).natAbs

theorem bmod_of_i16 {d : Int} (h₁ : -32768 ≤ d) (h₂ : d ≤ 32767) : d.bmod (2 ^ 16) = d := by
  simp only [Int.bmod, Nat.reducePow, Nat.cast_ofNat, Nat.reduceAdd, Nat.reduceDiv]
  split <;> omega

theorem i16Sub_eq_some {a b d : BitVec 16} (h : i16Sub a b = some d) :
    d.toInt = a.toInt - b.toInt := by
  unfold i16Sub at h
  split at h
  · next hr =>
    cases h
    rw [BitVec.toInt_sub, bmod_of_i16 hr.1 hr.2]
  · cases h

theorem i16Abs_eq_some {d v : BitVec 16} (h : i16Abs d = some v) : v.toInt = d.toInt.natAbs := by
  unfold i16Abs at h
  split at h
  · cases h
  · next hm =>
    cases h
    split
    · rw [BitVec.toInt_neg_of_ne_intMin fun e => hm (by rw [e]; rfl)]
      omega
    · omega

theorem absDiffOf_eq_ok {a b v : BitVec 16} (h : absDiffOf a b = .ok v) :
    v.toInt = (a.toInt - b.toInt).natAbs := by
  unfold absDiffOf at h
  rcases hs : i16Sub a b with _ | d <;> simp only [hs, reduceCtorEq] at h
  rcases ha : i16Abs d with _ | w <;> simp only [ha, reduceCtorEq, Except.ok.injEq] at h
  rw [← h, i16Abs_eq_some ha, i16Sub_eq_some hs]

theorem slt_filter (v : BitVec 16) : ADXL345_FILTER.slt v = decide (50 < v.toInt) := rfl

theorem slt_absDiffOf {a b v : BitVec 16} (h : absDiffOf a b = .ok v) :
    ADXL345_FILTER.slt v = decide (50 < (a.toInt - b.toInt).natAbs) := by
  rw [slt_filter, absDiffOf_eq_ok h]
  exact decide_eq_decide.mpr (by omega)

/-- **Whenever the filter answers, it answers `!moved`**: an overflow in its `i16` arithmetic
panics, it never gives a wrong verdict. -/
theorem filterVerdict_eq_ok {last new : Adxl345Sample} {keep : Bool}
    (h : filterVerdict last new = .ok keep) : keep = !moved last new := by
  unfold filterVerdict at h
  split at h
  · cases h
  next dx hx =>
  rw [slt_absDiffOf hx] at h
  split at h
  · next px => cases h; simp [moved, of_decide_eq_true px]
  next px =>
  split at h
  · cases h
  next dy hy =>
  rw [slt_absDiffOf hy] at h
  split at h
  · next py => cases h; simp [moved, of_decide_eq_true py]
  next py =>
  split at h
  · cases h
  next dz hz =>
  cases h
  simp [moved, slt_absDiffOf hz, px, py]

theorem absDiffOf_error {a b : BitVec 16} {msg : String} (h : absDiffOf a b = .error msg) :
    msg = "attempt to subtract with overflow" ∨ msg = "attempt to negate with overflow" := by
  unfold absDiffOf at h
  split at h
  · exact .inl (Except.error.inj h).symm
  split at h
  · exact .inr (Except.error.inj h).symm
  · cases h

theorem filterVerdict_error {last new : Adxl345Sample} {msg : String}
    (h : filterVerdict last new = .error msg) :
    msg = "attempt to subtract with overflow" ∨ msg = "attempt to negate with overflow" := by
  unfold filterVerdict at h
  repeat' split at h
  all_goals cases h
  all_goals exact absDiffOf_error ‹_›

/-! ### The stream the filter keeps -/

/-- The samples of `S` that moved from the one before them, the first judged from `last`. -/
def movedSamples : Adxl345Sample → List Adxl345Sample → List Adxl345Sample
  | _, [] => []
  | last, s :: S => if moved last s then s :: movedSamples s S else movedSamples s S

@[simp] theorem movedSamples_nil (last : Adxl345Sample) : movedSamples last [] = [] := rfl

theorem movedSamples_cons (last s : Adxl345Sample) (S : List Adxl345Sample) :
    movedSamples last (s :: S) = (if moved last s then [s] else []) ++ movedSamples s S := by
  rw [movedSamples]
  split <;> rfl

theorem movedSamples_append (last : Adxl345Sample) : ∀ S T : List Adxl345Sample,
    movedSamples last (S ++ T) = movedSamples last S ++ movedSamples (S.getLastD last) T
  | [], _ => rfl
  | s :: S, T => by
    rw [List.cons_append, movedSamples_cons, movedSamples_cons, movedSamples_append s S T,
      List.getLastD_cons, List.append_assoc]

theorem length_movedSamples_le (last : Adxl345Sample) :
    ∀ S, (movedSamples last S).length ≤ S.length
  | [] => le_rfl
  | s :: S => by
    have ih := length_movedSamples_le s S
    rw [movedSamples_cons]
    split <;> simp <;> omega

end RustAdxl345
