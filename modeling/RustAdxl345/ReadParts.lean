import RustAdxl345.FileOps

/-!
# `read` in steps

Other calls can run while a `read` holds the device lock, between a `read_data` and the filter
call that judges its sample. The system model (`System`) therefore runs `read` in parts:
`readEnter` takes the lock and runs up to the first `read_data`, and each `readOn` judges the
sample taken last, copies it if it is kept, and takes the next one. A part that ends the call
drops the lock (`holdLock`). One after the other, the parts are `read` (`read_eq_parts`).
-/

namespace RustAdxl345

open Op Adxl345 Adxl345FileOps

/-- A `read` between two of its steps: it holds the device lock, `read_data` has returned `acc`,
and `n` rounds of the fill loop are left after this one. -/
structure ReadAt where
  writer : IoBufferWriter
  n : Nat
  count : Nat
  acc : Adxl345Sample
  deriving DecidableEq, Repr

namespace Adxl345FileOps

/-- The head of a round of the fill loop: `read_data`, or the end of the loop. -/
def sampleRound (writer : IoBufferWriter) : Nat → Nat → Kern (ReadAt ⊕ Nat)
  | 0, count => pure (.inr count)
  | n + 1, count => do
    let acc ← readSample
    pure (.inl ⟨writer, n, count, acc⟩)

/-- The rest of the round at `p`, up to the next `read_data`. -/
def judgeRound (p : ReadAt) : Kern (ReadAt ⊕ Nat) :=
  fillRound (fun writer count => sampleRound writer p.n count) (fun count => pure (.inr count))
    p.writer p.count p.acc

/-- A part of `read` under the lock the call holds; the lock is dropped where the call ends. -/
def holdLock (x : Kern (ReadAt ⊕ Nat)) : Kern (ReadAt ⊕ Nat) := do
  match ← attempt x with
  | .ok (.inl p) => pure (.inl p)
  | r => do
    dev unlock
    ofExcept r

/-- The locked part of `read` up to its first `read_data`: the room check and the poll. -/
def readBegin (flags : UInt32) (writer : IoBufferWriter) : Kern (ReadAt ⊕ Nat) := do
  let items := writer.len / 6
  if items = 0 then throwErr .EINVAL
  dev (pollReady (flags &&& O_NONBLOCK ≠ 0))
  sampleRound writer items 0

/-- The first step of `read`. -/
def readEnter (flags : UInt32) (writer : IoBufferWriter) : Kern (ReadAt ⊕ Nat) := do
  devicePtrExpect
  dev lock
  holdLock (readBegin flags writer)

/-- A later step of `read`. -/
def readOn (p : ReadAt) : Kern (ReadAt ⊕ Nat) := holdLock (judgeRound p)

/-- The fill loop from where a round stands, with at most `fuel` rounds. -/
def fillFrom : Nat → ReadAt ⊕ Nat → Kern Nat
  | _, .inr count => pure count
  | 0, .inl p => pure p.count
  | fuel + 1, .inl p => judgeRound p >>= fillFrom fuel

/-- The later steps of `read`, with at most `fuel` of them; the fuel a call needs is its number
of rounds (`read_eq_parts`). -/
def readFrom : Nat → ReadAt ⊕ Nat → Kern Nat
  | _, .inr count => pure count
  | 0, .inl p => do
    dev unlock
    pure p.count
  | fuel + 1, .inl p => readOn p >>= readFrom fuel

end Adxl345FileOps

/-! ### Spec lemmas -/

theorem sampleRound_succ (w : IoBufferWriter) (n count : Nat) (s : Sys) :
    sampleRound w (n + 1) count s = match readSample s with
      | .ok acc s' => .ok (.inl ⟨w, n, count, acc⟩) s'
      | .error e s' => .error e s' := by
  rw [sampleRound.eq_2, run_bind]
  rcases readSample s with ⟨a, s'⟩ | ⟨e, s'⟩ <;> rfl

theorem holdLock_spec (x : Kern (ReadAt ⊕ Nat)) (s : Sys) : holdLock x s = match x s with
    | .ok (.inl p) s' => .ok (.inl p) s'
    | .ok (.inr c) s' => .ok (.inr c) { s' with bus := s'.bus.record .unlock }
    | .error (.err e) s' => .error (.err e) { s' with bus := s'.bus.record .unlock }
    | .error (.panic m) s' => .error (.panic m) s' := by
  simp only [holdLock, run_bind, run_attempt]
  rcases x s with ⟨p | c, s'⟩ | ⟨e | m, s'⟩ <;> rfl

theorem readEnter_spec (flags : UInt32) (w : IoBufferWriter) (s : Sys) : readEnter flags w s =
    if s.devicePtr then holdLock (readBegin flags w) { s with bus := s.bus.record .lock }
    else .error (.panic "Driver not initialized") s := by
  cases hp : s.devicePtr <;> simp [readEnter, devicePtrExpect_spec, hp, dev, lock]

theorem readBegin_spec (flags : UInt32) (w : IoBufferWriter) (s : Sys) : readBegin flags w s =
    if w.len / 6 = 0 then .error (.err .EINVAL) s
    else match pollReady (flags &&& O_NONBLOCK ≠ 0) s.bus with
      | .ok () b => sampleRound w (w.len / 6) 0 { s with bus := b }
      | .error e b => .error e { s with bus := b } := by
  by_cases hi : w.len / 6 = 0
  · simp [readBegin, hi]
  · simp only [readBegin, hi, if_false, run_bind, run_pure, dev]
    rcases pollReady (flags &&& O_NONBLOCK ≠ 0) s.bus with ⟨⟨⟩, b⟩ | ⟨e, b⟩ <;> rfl

theorem sampleRound_inl {w : IoBufferWriter} {n count : Nat} {s s' : Sys} {p : ReadAt}
    (h : sampleRound w n count s = .ok (.inl p) s') : p.n + 1 = n := by
  cases n with
  | zero => cases h
  | succ n =>
    rw [sampleRound_succ] at h
    split at h <;> cases h
    rfl

theorem judgeRound_inl {p p' : ReadAt} {s s' : Sys} (h : judgeRound p s = .ok (.inl p') s') :
    p'.n + 1 = p.n := by
  rw [judgeRound, fillRound_spec] at h
  repeat' split at h
  all_goals first | cases h | exact sampleRound_inl h

/-- Whether a part's result ends the call, which then drops the lock. -/
def endsCall : Except Error (ReadAt ⊕ Nat) → Bool
  | .ok (.inl _) => false
  | _ => true

/-- The sample a part took last, which the next part judges. -/
def pendingSample : Except Error (ReadAt ⊕ Nat) → List Adxl345Sample
  | .ok (.inl p) => [p.acc]
  | _ => []

theorem getLastD_append {α : Type} (l₁ l₂ : List α) (d : α) :
    (l₁ ++ l₂).getLastD d = l₂.getLastD (l₁.getLastD d) := by
  induction l₁ generalizing d with
  | nil => rfl
  | cons a l₁ ih => simp only [List.cons_append, List.getLastD_cons, ih]

/-- A stretch of a `read` from `s` to `s'` that recorded `es`: it changed only the bus, where it
took answers and recorded `es`, which write no register, and the baseline, which ends as the last
sample the stretch judged. -/
@[mk_iff]
structure ReadFrame (s s' : Sys) (es : List Effect) : Prop where
  regs : s'.bus.regs = s.bus.regs
  log : s'.bus.log = s.bus.log ++ es
  lastSample : s'.lastSample = (Effect.judged es).getLastD s.lastSample
  devicePtr : s'.devicePtr = s.devicePtr
  registered : s'.registered = s.registered
  clientdata : s'.clientdata = s.clientdata
  chrdev : s'.chrdev = s.chrdev
  writes : Effect.writes es = []

theorem ReadFrame.trans {s₁ s₂ s₃ : Sys} {es₁ es₂ : List Effect}
    (h₁ : ReadFrame s₁ s₂ es₁) (h₂ : ReadFrame s₂ s₃ es₂) :
    ReadFrame s₁ s₃ (es₁ ++ es₂) where
  regs := h₂.regs.trans h₁.regs
  log := by rw [h₂.log, h₁.log, List.append_assoc]
  lastSample := by rw [h₂.lastSample, h₁.lastSample, Effect.judged_append, getLastD_append]
  devicePtr := h₂.devicePtr.trans h₁.devicePtr
  registered := h₂.registered.trans h₁.registered
  clientdata := h₂.clientdata.trans h₁.clientdata
  chrdev := h₂.chrdev.trans h₁.chrdev
  writes := by rw [Effect.writes_append, h₁.writes, h₂.writes]; rfl

/-- **The first step of `read`.** It runs only with `DEVICE_PTR` set and changes nothing but the
bus: it takes the lock and holds it unless the call ends, makes every transfer under it, sleeps
under it only in a blocking poll, and judges, copies and writes nothing. Unless the call ends,
its one sample is left for the next step, with one round fewer than `len / 6` to go; it fails
with `EINVAL` only for a buffer with no room for a record, with `EAGAIN` only in non-blocking
mode, and otherwise with `EIO`. -/
theorem readEnter_ok {flags : UInt32} {w : IoBufferWriter} {s s' : Sys}
    {res : Except Error (ReadAt ⊕ Nat)} (h : attempt (readEnter flags w) s = .ok res s') :
    s.devicePtr = true ∧ ReadFrame s s' (s'.effectsSince s) ∧
      Effect.judged (s'.effectsSince s) = [] ∧ Effect.copies (s'.effectsSince s) = [] ∧
      Effect.samples (s'.effectsSince s) = pendingSample res ∧
      lockHeld false (s'.effectsSince s) = !endsCall res ∧
      transfersLocked false (s'.effectsSince s) = true ∧
      (sleepsUnderLock false (s'.effectsSince s) = true → flags &&& O_NONBLOCK = 0) ∧
      (∀ x, res = .ok x →
        ∃ p, x = .inl p ∧ p.n + 1 = w.len / 6 ∧ p.count = 0 ∧ p.writer = w) ∧
      (∀ e, res = .error e → (e = Error.EINVAL ∧ w.len < 6) ∨
        (e = Error.EAGAIN ∧ flags &&& O_NONBLOCK ≠ 0) ∨ e = Error.EIO) := by
  rw [run_attempt, readEnter_spec] at h
  cases hp : s.devicePtr <;> simp only [hp, if_true, if_false, Bool.false_eq_true] at h
  · cases h
  rw [holdLock_spec, readBegin_spec] at h
  refine ⟨rfl, ?_⟩
  by_cases hi : w.len / 6 = 0
  · simp only [hi, if_true] at h
    cases h
    have hl : w.len < 6 := by omega
    simp [readFrame_iff, Sys.effectsSince, endsCall, pendingSample, lockHeld, sleepsUnderLock,
      transfersLocked, Bus.record, hl, hp]
  simp only [hi, if_false] at h
  obtain ⟨hr, ⟨k, t, hlog, hk⟩, he⟩ :=
    pollReady_final (flags &&& O_NONBLOCK ≠ 0) (s.bus.record .lock)
  have hsl : ∀ es, sleepsUnderLock true (stallLog k ++ (List.replicate t .transfer ++ es)) =
      (decide (0 < k) || sleepsUnderLock true es) := fun es => by
    simp [sleepsUnderLock_append, sleepsUnderLock_stallLog, lockHeld_transfers]
  have hsleep : 0 < k → flags &&& O_NONBLOCK = 0 := fun hk0 => by
    by_contra hnb
    exact absurd (hk (by simpa using hnb)) (by omega)
  rcases hpoll : pollReady (flags &&& O_NONBLOCK ≠ 0) (s.bus.record .lock) with
      ⟨⟨⟩, b⟩ | ⟨f, b⟩ <;>
    simp only [hpoll, final_ok, final_error, Bus.record_regs, Bus.record_log] at h hr hlog he
  · obtain ⟨n, hn⟩ : ∃ n, w.len / 6 = n + 1 := ⟨w.len / 6 - 1, by omega⟩
    rw [hn, sampleRound_succ, readSample_spec] at h
    rcases hnext : b.next with d | e <;> simp only [hnext] at h <;> (try split_ifs at h) <;>
      cases h <;>
      simp [readFrame_iff, Sys.effectsSince, endsCall, pendingSample, lockHeld_append, lockHeld,
        transfersLocked_append, transfersLocked, Bus.record, Bus.pop, hr, hlog, hsl,
        sleepsUnderLock, lockHeld_transfers, hn, hp] <;>
      exact hsleep
  · rcases he f b rfl with rfl | ⟨rfl, hnb⟩ <;> cases h <;>
      simp [readFrame_iff, Sys.effectsSince, endsCall, pendingSample, lockHeld_append, lockHeld,
        transfersLocked_append, transfersLocked, Bus.record, hr, hlog, hsl, sleepsUnderLock,
        lockHeld_transfers, hp] <;>
      first | exact hsleep | exact ⟨hsleep, .inr (.inl (by simpa using hnb))⟩

/-- **A later step of `read`.** It changes nothing but the bus and the baseline: the sample taken
last is judged and becomes the baseline, its record is copied if the filter kept it (unless the
buffer faults), and the step takes the next sample under the lock, with one round fewer to go,
or ends the call and drops the lock. The count goes up by the bytes copied. Every transfer runs
under the lock, nothing sleeps or writes, and the step fails only with `EIO`, or with `EFAULT`
where fewer than six bytes are free or mapped. -/
theorem readOn_ok {p : ReadAt} {s s' : Sys} {res : Except Error (ReadAt ⊕ Nat)}
    (h : attempt (readOn p) s = .ok res s') :
    ReadFrame s s' (s'.effectsSince s) ∧ Effect.judged (s'.effectsSince s) = [p.acc] ∧
      Effect.samples (s'.effectsSince s) = pendingSample res ∧
      lockHeld true (s'.effectsSince s) = !endsCall res ∧
      sleepsUnderLock true (s'.effectsSince s) = false ∧
      transfersLocked true (s'.effectsSince s) = true ∧
      (res ≠ .error Error.EFAULT →
        Effect.copies (s'.effectsSince s) =
          if moved s.lastSample p.acc then p.acc.bytes else []) ∧
      (∀ x, res = .ok x → match x with
        | .inl p' => p'.n + 1 = p.n ∧
            p'.count = p.count + (Effect.copies (s'.effectsSince s)).length ∧
            p'.writer = ⟨p.writer.len - (Effect.copies (s'.effectsSince s)).length,
              p.writer.mapped - (Effect.copies (s'.effectsSince s)).length⟩
        | .inr c => c = p.count + (Effect.copies (s'.effectsSince s)).length) ∧
      (∀ e, res = .error e → e = Error.EIO ∨
        (e = Error.EFAULT ∧ (p.writer.len < 6 ∨ p.writer.mapped < 6))) := by
  obtain ⟨w, n, count, acc⟩ := p
  rw [run_attempt, readOn, holdLock_spec, judgeRound, fillRound_spec] at h
  dsimp only at h
  rcases hv : filterVerdict s.lastSample acc with msg | drop
  · simp [hv] at h
  have hm := filterVerdict_eq_ok hv
  cases hmv : moved s.lastSample acc <;> rw [hmv] at hm <;> subst hm <;>
    simp only [hv, Bool.not_false, Bool.not_true, if_true, Bool.false_eq_true, if_false] at h
  · -- dropped: the next sample, or the end of the call
    rcases n with _ | n
    · simp only [sampleRound, run_pure] at h
      cases h
      simp [readFrame_iff, Sys.effectsSince, endsCall, pendingSample, lockHeld, sleepsUnderLock,
        transfersLocked, Bus.record, hmv]
    rw [sampleRound_succ, readSample_spec] at h
    rcases hn : s.bus.next with d | e <;> simp only [Bus.record_next, hn] at h <;>
      (try split_ifs at h) <;> cases h <;>
      simp [readFrame_iff, Sys.effectsSince, endsCall, pendingSample, lockHeld, sleepsUnderLock,
        transfersLocked, Bus.record, Bus.pop, hmv]
  -- kept: the copies, then `data_ready`
  by_cases hroom : 6 ≤ w.len ∧ 6 ≤ w.mapped
  · simp only [hroom, and_self, if_true, Bus.extend_next, Bus.record_next] at h
    rcases hn : s.bus.next with d | e <;> simp only [hn] at h
    · by_cases hd : d.headD 0 &&& 0x80 = 0
      · simp only [hd, ne_eq, not_true_eq_false, if_false] at h
        cases h
        simp [readFrame_iff, Sys.effectsSince, endsCall, pendingSample, lockHeld,
          sleepsUnderLock, transfersLocked, Bus.record, Bus.pop, Bus.extend, hmv, copyEffects,
          Adxl345Sample.bytes]
      simp only [hd, ne_eq, not_false_eq_true, if_true] at h
      rcases n with _ | n
      · simp only [sampleRound, run_pure] at h
        cases h
        simp [readFrame_iff, Sys.effectsSince, endsCall, pendingSample, lockHeld,
          sleepsUnderLock, transfersLocked, Bus.record, Bus.pop, Bus.extend, hmv, copyEffects,
          Adxl345Sample.bytes]
      rw [sampleRound_succ, readSample_spec] at h
      rcases hn2 : s.bus.pop.next with d2 | e2 <;>
        simp only [Bus.next, Bus.pop, Bus.record, Bus.extend] at hn2 h <;> simp only [hn2] at h <;>
        (try split_ifs at h) <;> cases h <;>
        simp [readFrame_iff, Sys.effectsSince, endsCall, pendingSample, lockHeld,
          sleepsUnderLock, transfersLocked, Bus.record, Bus.pop, Bus.extend, hmv, copyEffects,
          Adxl345Sample.bytes]
    · cases h
      simp [readFrame_iff, Sys.effectsSince, endsCall, pendingSample, lockHeld, sleepsUnderLock,
        transfersLocked, Bus.record, Bus.pop, Bus.extend, hmv, copyEffects, Adxl345Sample.bytes]
  -- no room: `EFAULT` after the copies that fit
  simp only [hroom, if_false] at h
  cases h
  have hfault : w.len < 6 ∨ w.mapped < 6 := by omega
  have hk : min w.len w.mapped / 2 = 0 ∨ min w.len w.mapped / 2 = 1 ∨
      min w.len w.mapped / 2 = 2 := by omega
  rcases hk with hk | hk | hk <;>
    simp [hk, hfault, readFrame_iff, Sys.effectsSince, endsCall, pendingSample, lockHeld,
      sleepsUnderLock, transfersLocked, Bus.record, Bus.extend, copyEffects]

/-- The first step panics only where `DEVICE_PTR` is empty, before it changed anything. -/
theorem readEnter_panic {flags : UInt32} {w : IoBufferWriter} {s s' : Sys} {msg : String}
    (h : readEnter flags w s = .error (.panic msg) s') :
    msg = "Driver not initialized" ∧ s' = s := by
  rw [readEnter_spec] at h
  cases hp : s.devicePtr <;> simp only [hp, if_true, if_false, Bool.false_eq_true] at h
  · cases h; exact ⟨rfl, rfl⟩
  rw [holdLock_spec, readBegin_spec] at h
  by_cases hi : w.len / 6 = 0 <;> simp only [hi, if_true, if_false] at h
  · cases h
  obtain ⟨-, -, he⟩ := pollReady_final (flags &&& O_NONBLOCK ≠ 0) (s.bus.record .lock)
  rcases hpoll : pollReady (flags &&& O_NONBLOCK ≠ 0) (s.bus.record .lock) with
      ⟨⟨⟩, b⟩ | ⟨f, b⟩ <;>
    simp only [hpoll] at h
  · obtain ⟨n, hn⟩ : ∃ n, w.len / 6 = n + 1 := ⟨w.len / 6 - 1, by omega⟩
    rw [hn, sampleRound_succ, readSample_spec] at h
    rcases hnext : b.next with d | e <;> simp only [hnext] at h <;> (try split_ifs at h) <;> cases h
  · rcases he f b hpoll with rfl | ⟨rfl, -⟩ <;> cases h

theorem holdLock_panic {x : Kern (ReadAt ⊕ Nat)} {s s' : Sys} {msg : String}
    (h : holdLock x s = .error (.panic msg) s') : x s = .error (.panic msg) s' := by
  rw [holdLock_spec] at h
  rcases hx : x s with ⟨p | c, t⟩ | ⟨e | m, t⟩ <;> rw [hx] at h <;> cases h
  rfl

theorem sampleRound_ne_panic (w : IoBufferWriter) (n count : Nat) (s s' : Sys) (msg : String) :
    sampleRound w n count s ≠ .error (.panic msg) s' := by
  intro hs
  cases n with
  | zero => cases hs
  | succ n =>
    rw [sampleRound_succ, readSample_spec] at hs
    rcases hn : s.bus.next with d | e <;> simp only [hn] at hs <;> (try split_ifs at hs) <;>
      cases hs

/-- A later step panics only in the filter, before it changed anything. -/
theorem readOn_panic {p : ReadAt} {s s' : Sys} {msg : String}
    (h : readOn p s = .error (.panic msg) s') :
    filterVerdict s.lastSample p.acc = .error msg ∧ s' = s := by
  have h := holdLock_panic h
  rw [judgeRound, fillRound_spec] at h
  rcases hv : filterVerdict s.lastSample p.acc with msg' | drop <;> simp only [hv] at h
  · cases h; exact ⟨rfl, rfl⟩
  exfalso
  cases drop <;> simp only [Bool.false_eq_true, if_true, if_false] at h
  · split_ifs at h
    · rcases hn : s.bus.next with d | e <;> simp only [hn] at h
      · split_ifs at h
        · exact sampleRound_ne_panic _ _ _ _ _ _ h
        · cases h
      · cases h
    · cases h
  · exact sampleRound_ne_panic _ _ _ _ _ _ h

/-! ### The parts, one after the other, are `read` -/

theorem fillRound_bind {α β : Type} (next : IoBufferWriter → Nat → Kern α)
    (stop : Nat → Kern α) (f : α → Kern β) (w : IoBufferWriter) (count : Nat)
    (acc : Adxl345Sample) :
    fillRound next stop w count acc >>= f =
      fillRound (fun w c => next w c >>= f) (fun c => stop c >>= f) w count acc := by
  funext s
  rw [run_bind, fillRound_spec, fillRound_spec]
  repeat' split
  all_goals simp_all

theorem fillLoop_eq (w : IoBufferWriter) : ∀ n count,
    fillLoop w n count = sampleRound w n count >>= fillFrom n
  | 0, count => rfl
  | n + 1, count => by
    have ih : ∀ w c, sampleRound w n c >>= fillFrom n = fillLoop w n c :=
      fun w c => (fillLoop_eq w n c).symm
    simp only [fillLoop, sampleRound.eq_2, bind_assoc, pure_bind, fillFrom.eq_1, fillFrom.eq_3,
      judgeRound, fillRound_bind, ih]

/-- With fuel for each round `x` leaves, running the fill loop after `x` under the lock is
`x` as a part followed by the later parts. -/
theorem holdLock_readFrom : ∀ (fuel : Nat) (x : Kern (ReadAt ⊕ Nat)),
    (∀ s p s', x s = .ok (.inl p) s' → p.n < fuel) →
    (attempt (x >>= fillFrom fuel) >>= fun r => dev unlock >>= fun _ => ofExcept r) =
      holdLock x >>= readFrom fuel
  | fuel, x, hx => by
    funext s
    simp only [run_bind, run_attempt, holdLock_spec]
    rcases hxs : x s with ⟨p | c, s'⟩ | ⟨e | m, s'⟩
    · cases fuel with
      | zero => exact absurd (hx s p s' hxs) (Nat.not_lt_zero _)
      | succ fuel =>
        have ih := congrFun (holdLock_readFrom fuel (judgeRound p) fun _ p' _ h' =>
          Nat.lt_of_succ_le (by have := judgeRound_inl h'; have := hx s p s' hxs; omega)) s'
        simp only [run_bind, run_attempt] at ih
        simpa only [fillFrom, readFrom, readOn, run_bind] using ih
    · simp [fillFrom, readFrom, dev, unlock]
    · simp [dev, unlock]
    · rfl

/-- **`read` is its parts, one after the other**: `readEnter`, then `readOn` until the call
returns, one step for each round of the fill loop. -/
theorem read_eq_parts (flags : UInt32) (w : IoBufferWriter) :
    Adxl345FileOps.read flags w = readEnter flags w >>= readFrom (w.len / 6) := by
  have hbegin : (do
      if w.len / 6 = 0 then throwErr .EINVAL
      dev (pollReady (flags &&& O_NONBLOCK ≠ 0))
      fillLoop w (w.len / 6) 0 : Kern Nat) = readBegin flags w >>= fillFrom (w.len / 6) := by
    by_cases hi : w.len / 6 = 0 <;>
      simp only [readBegin, hi, if_true, if_false, fillLoop_eq, bind_assoc]
  have hbound : ∀ s p s', readBegin flags w s = .ok (.inl p) s' → p.n < w.len / 6 := by
    intro s p s' h
    rw [readBegin_spec] at h
    split at h
    · cases h
    split at h
    · have := sampleRound_inl h; omega
    · cases h
  simp only [Adxl345FileOps.read, bracket, readEnter, bind_assoc, hbegin,
    holdLock_readFrom _ _ hbound]

end RustAdxl345
