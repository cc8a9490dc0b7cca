import Mathlib.Logic.Basic

/-!
# Results, panics and the monad of the model

A call of the driver returns `Ok`, returns `Err` with an errno, or panics, which oopses the
kernel. `Op σ` is `EStateM Fault σ`: it keeps the state it reached also on a failure, since a
transfer that fails does not undo the ones before it. `attempt` is the `Result` the Rust code
matches on (a panic goes through), `expect` is `Result::expect`; `bind_eq_ok` and `bind_eq_error`
take a sequence apart, so that a caller cites each callee's spec lemma.
-/

namespace RustAdxl345

/-- A kernel error, as the negative errno `to_kernel_errno` returns. -/
structure Error where
  errno : Int
  deriving DecidableEq, Repr

namespace Error

def EPERM : Error := ⟨-1⟩
def EIO : Error := ⟨-5⟩
def EAGAIN : Error := ⟨-11⟩
def EFAULT : Error := ⟨-14⟩
def EINVAL : Error := ⟨-22⟩

end Error

/-- How a call can end other than with a value. -/
inductive Fault
  /-- `Err(e)`, passed up by `?` or by an explicit `return Err(e)`. -/
  | err (e : Error)
  /-- A panic with its message: the kernel oopses and the run is over. -/
  | panic (msg : String)
  deriving DecidableEq, Repr

/-- A computation on the state `σ`. -/
abbrev Op (σ α : Type) := EStateM Fault σ α

namespace Op

variable {σ α β : Type}

/-- `return Err(e)`. -/
def throwErr (e : Error) : Op σ α := throw (.err e)

/-- A Rust panic. -/
def abort (msg : String) : Op σ α := throw (.panic msg)

/-- The `Result` of a call, as a value the caller matches on. -/
def attempt (x : Op σ α) : Op σ (Except Error α) := fun s =>
  match x s with
  | .ok a s' => .ok (.ok a) s'
  | .error (.err e) s' => .ok (.error e) s'
  | .error (.panic m) s' => .error (.panic m) s'

/-- `?` on a `Result` value. -/
def ofExcept : Except Error α → Op σ α
  | .ok a => pure a
  | .error e => throwErr e

/-- `x` inside a scope that `enter` opens and `leave` closes however `x` returns: the shape of
a lock guard that Rust drops at the end of its block or at an early `return`. A panic skips
`leave`: the kernel does not unwind. -/
def bracket (enter leave : Op σ Unit) (x : Op σ α) : Op σ α := do
  enter
  let r ← attempt x
  leave
  ofExcept r

/-- `Result::expect`: the value, or a panic with `msg`. -/
def expect (x : Op σ α) (msg : String) : Op σ α := do
  match ← attempt x with
  | .ok a => pure a
  | .error _ => abort msg

/-- The state a call ends in, whether it returns a value or fails. -/
def final : EStateM.Result Fault σ α → σ
  | .ok _ s => s
  | .error _ s => s

/-! ### Running a computation -/

@[simp] theorem run_pure (a : α) (s : σ) : (pure a : Op σ α) s = .ok a s := rfl

@[simp] theorem run_bind (x : Op σ α) (f : α → Op σ β) (s : σ) :
    (x >>= f) s = match x s with
      | .ok a s' => f a s'
      | .error e s' => .error e s' := by
  show EStateM.bind x f s = _
  unfold EStateM.bind
  cases x s <;> rfl

@[simp] theorem run_map (f : α → β) (x : Op σ α) (s : σ) :
    (f <$> x) s = match x s with
      | .ok a s' => .ok (f a) s'
      | .error e s' => .error e s' := by
  show EStateM.map f x s = _
  unfold EStateM.map
  cases x s <;> rfl

@[simp] theorem run_get (s : σ) : (get : Op σ σ) s = .ok s s := rfl

@[simp] theorem run_modify (f : σ → σ) (s : σ) : (modify f : Op σ Unit) s = .ok () (f s) :=
  rfl

@[simp] theorem run_throwErr (e : Error) (s : σ) : (throwErr e : Op σ α) s = .error (.err e) s :=
  rfl

@[simp] theorem run_abort (msg : String) (s : σ) :
    (abort msg : Op σ α) s = .error (.panic msg) s :=
  rfl

@[simp] theorem run_ofExcept_ok (a : α) (s : σ) : (ofExcept (.ok a) : Op σ α) s = .ok a s := rfl

@[simp] theorem run_ofExcept_error (e : Error) (s : σ) :
    (ofExcept (.error e) : Op σ α) s = .error (.err e) s := rfl

theorem run_attempt (x : Op σ α) (s : σ) : attempt x s = match x s with
    | .ok a s' => .ok (.ok a) s'
    | .error (.err e) s' => .ok (.error e) s'
    | .error (.panic m) s' => .error (.panic m) s' := rfl

@[simp] theorem final_ok (a : α) (s : σ) : final (.ok a s : EStateM.Result Fault σ α) = s := rfl

@[simp] theorem final_error (e : Fault) (s : σ) :
    final (.error e s : EStateM.Result Fault σ α) = s := rfl

theorem attempt_of_ok {x : Op σ α} {s s' : σ} {a : α} (h : x s = .ok a s') :
    attempt x s = .ok (.ok a) s' := by
  simp [run_attempt, h]

theorem attempt_of_err {x : Op σ α} {s s' : σ} {e : Error} (h : x s = .error (.err e) s') :
    attempt x s = .ok (.error e) s' := by
  simp [run_attempt, h]

/-! ### Taking a sequence apart -/

theorem bind_eq_ok {x : Op σ α} {f : α → Op σ β} {s s'' : σ} {b : β} :
    (x >>= f) s = .ok b s'' ↔ ∃ a s', x s = .ok a s' ∧ f a s' = .ok b s'' := by
  simp only [run_bind]
  split <;> simp_all [and_assoc]

theorem bind_eq_error {x : Op σ α} {f : α → Op σ β} {s s'' : σ} {e : Fault} :
    (x >>= f) s = .error e s'' ↔
      x s = .error e s'' ∨ ∃ a s', x s = .ok a s' ∧ f a s' = .error e s'' := by
  simp only [run_bind]
  split <;> simp_all [and_assoc]

theorem expect_eq_ok {x : Op σ α} {msg : String} {s s' : σ} {a : α} :
    expect x msg s = .ok a s' ↔ x s = .ok a s' := by
  rcases h : x s with ⟨a', s₁⟩ | ⟨e | m, s₁⟩ <;> simp [expect, run_attempt, h]

theorem expect_eq_error {x : Op σ α} {msg : String} {s s' : σ} {f : Fault}
    (h : expect x msg s = .error f s') : (∃ m, f = .panic m) ∧ s' = final (x s) := by
  rcases hx : x s with ⟨a', s₁⟩ | ⟨e | m, s₁⟩ <;>
    simp [expect, run_attempt, hx, eq_comm] at h ⊢ <;> simp [h]

theorem expect_panic {x : Op σ α} {msg m : String} {s s' : σ}
    (h : expect x msg s = .error (.panic m) s') : m = msg ∨ x s = .error (.panic m) s' := by
  rcases hx : x s with ⟨a', s₁⟩ | ⟨e | m', s₁⟩ <;> simp [expect, run_attempt, hx] at h
  · exact .inl h.1.symm
  · exact .inr (by rw [h.1, h.2])

@[simp] theorem final_expect (x : Op σ α) (msg : String) (s : σ) :
    final (expect x msg s) = final (x s) := by
  rcases hx : x s with ⟨a, s₁⟩ | ⟨e | m, s₁⟩ <;> simp [expect, run_attempt, hx]

@[simp] theorem final_attempt (x : Op σ α) (s : σ) : final (attempt x s) = final (x s) := by
  rcases hx : x s with ⟨a, s₁⟩ | ⟨e | m, s₁⟩ <;> simp [run_attempt, hx]

/-- What holds where a call ends, however it ends: where it returned a `Result`, and where it
panicked. -/
@[elab_as_elim] theorem final_of_cases {x : Op σ α} {s : σ} {P : σ → Prop}
    (hok : ∀ r s', attempt x s = .ok r s' → P s')
    (hpanic : ∀ msg s', x s = .error (.panic msg) s' → P s') : P (final (x s)) := by
  rcases hx : x s with ⟨a, s₁⟩ | ⟨e | m, s₁⟩
  · exact hok _ _ (attempt_of_ok hx)
  · exact hok _ _ (attempt_of_err hx)
  · exact hpanic _ _ hx

theorem attempt_eq_ok {x : Op σ α} {s s' : σ} {r : Except Error α} :
    attempt x s = .ok r s' ↔
      (∃ a, r = .ok a ∧ x s = .ok a s') ∨
        (∃ e, r = .error e ∧ x s = .error (.err e) s') := by
  simp only [run_attempt]
  split
  · constructor
    · rintro ⟨⟩; simp_all
    · rintro (⟨a, rfl, h⟩ | ⟨e, rfl, h⟩) <;> simp_all
  · constructor
    · rintro ⟨⟩; simp_all
    · rintro (⟨a, rfl, h⟩ | ⟨e, rfl, h⟩) <;> simp_all
  · constructor
    · rintro ⟨⟩
    · rintro (⟨a, rfl, h⟩ | ⟨e, rfl, h⟩) <;> simp_all

theorem attempt_eq_error {x : Op σ α} {s s' : σ} {f : Fault} (h : attempt x s = .error f s') :
    ∃ msg, f = .panic msg ∧ x s = .error (.panic msg) s' := by
  rcases hx : x s with ⟨a, s₁⟩ | ⟨e | msg, s₁⟩ <;> rw [run_attempt, hx] at h <;> cases h
  exact ⟨msg, rfl, rfl⟩

theorem attempt_bind_eq_ok {x : Op σ α} {f : α → Op σ β} {s s' : σ} {r : Except Error β}
    (h : attempt (x >>= f) s = .ok r s') :
    (∃ a s₁, x s = .ok a s₁ ∧ attempt (f a) s₁ = .ok r s') ∨
      ∃ e, x s = .error (.err e) s' ∧ r = .error e := by
  rw [run_attempt, run_bind] at h
  rcases hx : x s with ⟨a, s₁⟩ | ⟨e | m, s₁⟩ <;> simp only [hx] at h
  · exact .inl ⟨a, s₁, rfl, by rw [run_attempt]; exact h⟩
  · cases h; exact .inr ⟨e, rfl, rfl⟩
  · cases h

end Op

end RustAdxl345
