import RustAdxl345.Device

/-!
# Block reads into the caller's buffer

`I2CClient::read_block` and `read_i2c_block` (`kernel/i2c/client.rs`) pass a `&mut [u8]` to the
SMBus core, which copies the block it read to `buf.as_mut_ptr()`. `Slice` is the buffer as C sees
it and `Host` the bus with the stores C code made. The guards compare the buffer, or the length
asked for, with 32 and never with each other, so a call keeps its stores in `buf` exactly when
`32 ≤ buf.len()` for `read_block`, and when `len > 32` or `len ≤ buf.len()` for
`read_i2c_block` (`blockReads_storesWithin_iff`); `read_data`'s call, six bytes into a six-byte
array, stays in it.
-/

namespace RustAdxl345

open Op

/-- `EPROTO`: the chip sent a block count the SMBus core refuses. -/
def Error.EPROTO : Error := ⟨-71⟩

/-- `I2C_SMBUS_BLOCK_MAX`: the longest block an SMBus transfer carries. -/
def I2C_SMBUS_BLOCK_MAX : Nat := 32

/-! ### Buffers and the stores of a copy -/

/-- A byte slice `&mut [u8]` as C code sees it: `as_mut_ptr()` and `len()`. -/
structure Slice where
  ptr : Nat
  len : Nat
  deriving DecidableEq, Repr

/-- Address `a` is one of the slice's bytes. -/
def Slice.owns (buf : Slice) (a : Nat) : Prop := buf.ptr ≤ a ∧ a < buf.ptr + buf.len

instance (buf : Slice) (a : Nat) : Decidable (buf.owns a) :=
  inferInstanceAs (Decidable (_ ∧ _))

/-- `memcpy(dst, src, src.len())`, as the stores it makes: address and byte, in order. -/
def memcpy : Nat → List UInt8 → List (Nat × UInt8)
  | _, [] => []
  | dst, v :: src => (dst, v) :: memcpy (dst + 1) src

@[simp] theorem memcpy_nil (dst : Nat) : memcpy dst [] = [] := rfl

@[simp] theorem memcpy_cons (dst : Nat) (v : UInt8) (src : List UInt8) :
    memcpy dst (v :: src) = (dst, v) :: memcpy (dst + 1) src := rfl

theorem memcpy_addresses : ∀ (dst : Nat) (src : List UInt8),
    (memcpy dst src).map Prod.fst = List.range' dst src.length
  | _, [] => rfl
  | dst, _ :: src => congrArg (dst :: ·) (memcpy_addresses (dst + 1) src)

/-- A copy to `buf.as_mut_ptr()` stays in `buf` exactly when it is no longer than `buf`. -/
theorem memcpy_owned_iff (buf : Slice) (src : List UInt8) :
    (∀ p ∈ memcpy buf.ptr src, buf.owns p.1) ↔ src.length ≤ buf.len := by
  rw [← List.forall_mem_map (f := Prod.fst) (P := buf.owns), memcpy_addresses]
  simp only [List.mem_range'_1, Slice.owns]
  constructor
  · intro h
    by_contra hlong
    have := h (buf.ptr + src.length - 1) (by omega)
    omega
  · intro h a ha
    omega

/-! ### The host: the bus, and the memory C code stores to -/

/-- The bus, and the stores C code made to memory, in order. -/
structure Host where
  bus : Bus
  stores : List (Nat × UInt8)

namespace Host

/-- A call on the device, from code that also stores to memory. -/
def onBus {α : Type} (x : Dev α) : Op Host α := fun h =>
  match x h.bus with
  | .ok a b => .ok a { h with bus := b }
  | .error e b => .error e { h with bus := b }

/-- `memcpy(dst, src, src.len())`. -/
def copyTo (dst : Nat) (src : List UInt8) : Op Host Unit :=
  modify fun h => { h with stores := h.stores ++ memcpy dst src }

@[simp] theorem run_onBus_transfer (h : Host) :
    onBus transfer h = .ok h.bus.next { h with bus := h.bus.pop } := rfl

@[simp] theorem run_copyTo (dst : Nat) (src : List UInt8) (h : Host) :
    copyTo dst src h = .ok () { h with stores := h.stores ++ memcpy dst src } := rfl

/-! ### The SMBus core's block reads -/

/-- `data.block` after an SMBus block read from `command`: the count the chip sent first, and
that many bytes after it. The wire carries what the chip drove for its own registers, else the
register file from `command` on. -/
def blockData (regs : UInt8 → UInt8) (command : UInt8) (driven : List UInt8) :
    Nat × List UInt8 :=
  let wire (i : Nat) : UInt8 :=
    if chipDriven command then driven.getD i 0 else regs (command + UInt8.ofNat i)
  ((wire 0).toNat, (List.range (wire 0).toNat).map fun i => wire (i + 1))

@[simp] theorem blockData_length (regs : UInt8 → UInt8) (command : UInt8) (driven : List UInt8) :
    (blockData regs command driven).2.length = (blockData regs command driven).1 := by
  simp [blockData]

/-- `i2c_smbus_read_block_data(client, command, values)`: the SMBus "block read". The core
refuses a count over `I2C_SMBUS_BLOCK_MAX` (`EPROTO`), else copies the block to `values` and
returns the count. -/
def i2cSmbusReadBlockData (command : UInt8) (values : Nat) : Op Host Nat := do
  match ← onBus transfer with
  | .fail e => throwErr e
  | .ok driven =>
    let data := blockData (← get).bus.regs command driven
    if data.1 > I2C_SMBUS_BLOCK_MAX then throwErr .EPROTO
    copyTo values data.2
    pure data.1

/-- `i2c_smbus_read_i2c_block_data(client, command, length, values)`: the I2C "block read" of
`length` bytes from `command` on, cut to `I2C_SMBUS_BLOCK_MAX`. It copies to `values` the bytes
the chip drove for its own registers (at most `length`), else the register file's, and returns
how many it copied. -/
def i2cSmbusReadI2cBlockData (command length : UInt8) (values : Nat) : Op Host Nat := do
  let length := min length.toNat I2C_SMBUS_BLOCK_MAX
  match ← onBus transfer with
  | .fail e => throwErr e
  | .ok driven =>
    let regs := (← get).bus.regs
    let block := if chipDriven command then driven.take length else
      (List.range length).map fun i => regs (command + UInt8.ofNat i)
    copyTo values block
    pure block.length

/-! ### The client's block reads (`kernel/i2c/client.rs`) -/

namespace I2CClient

/-- `read_block`: the SMBus "block read" with a command, into `buf`; returns the count. -/
def readBlock (command : UInt8) (buf : Slice) : Op Host Nat := do
  if buf.len > 32 then throwErr .EINVAL
  i2cSmbusReadBlockData command buf.ptr

/-- `read_i2c_block`: the I2C "block read" of `len` bytes from `command` on, into `buf`;
returns how many bytes were read. -/
def readI2cBlock (command len : UInt8) (buf : Slice) : Op Host Nat := do
  if len > 32 then throwErr .EINVAL
  i2cSmbusReadI2cBlockData command len buf.ptr

end I2CClient

theorem readBlock_spec (command : UInt8) (buf : Slice) (h : Host) :
    I2CClient.readBlock command buf h =
      if buf.len > 32 then .error (.err .EINVAL) h else
      match h.bus.next with
      | .fail e => .error (.err e) { h with bus := h.bus.pop }
      | .ok driven =>
        if (blockData h.bus.regs command driven).1 > I2C_SMBUS_BLOCK_MAX then
          .error (.err .EPROTO) { h with bus := h.bus.pop }
        else .ok (blockData h.bus.regs command driven).1
          ⟨h.bus.pop, h.stores ++ memcpy buf.ptr (blockData h.bus.regs command driven).2⟩ := by
  by_cases hl : buf.len > 32
  · simp only [I2CClient.readBlock, hl, if_true, run_bind, run_throwErr]
  · simp only [I2CClient.readBlock, i2cSmbusReadBlockData, hl, if_false, run_bind, run_pure,
      run_onBus_transfer]
    cases h.bus.next with
    | fail e => rfl
    | ok driven =>
      simp only [run_bind, run_get, Bus.pop_regs]
      split <;> simp only [*, if_true, if_false, run_bind, run_throwErr, run_pure, run_copyTo]

/-- The buffer-level `read_i2c_block` is the client method `read_data` calls, followed by the
copy of what it read to `buf`. -/
theorem readI2cBlock_eq (command len : UInt8) (buf : Slice) (h : Host) :
    I2CClient.readI2cBlock command len buf h =
      match RustAdxl345.I2CClient.readI2cBlock command len h.bus with
      | .ok bytes b => .ok bytes.length ⟨b, h.stores ++ memcpy buf.ptr bytes⟩
      | .error e b => .error e { h with bus := b } := by
  rw [RustAdxl345.I2CClient.readI2cBlock_spec]
  by_cases hl : len > 32
  · simp only [I2CClient.readI2cBlock, hl, if_true, run_bind, run_throwErr]
  · have hmin : min len.toNat I2C_SMBUS_BLOCK_MAX = len.toNat :=
      min_eq_left (Nat.not_lt.mp hl)
    simp only [I2CClient.readI2cBlock, i2cSmbusReadI2cBlockData, hl, if_false, hmin, run_bind,
      run_pure, run_onBus_transfer]
    cases h.bus.next with
    | fail e => rfl
    | ok driven => cases chipDriven command <;> rfl

end Host

theorem I2CClient.readI2cBlock_length {command len : UInt8} {b b' : Bus} {bytes : List UInt8}
    (h : I2CClient.readI2cBlock command len b = .ok bytes b') : bytes.length ≤ len.toNat := by
  rw [I2CClient.readI2cBlock_spec] at h
  split at h
  · cases h
  split at h
  · cases h
  · cases h
    split <;> simp

theorem I2CClient.readI2cBlock_full (command len : UInt8) (hlen : len.toNat ≤ 32) :
    ∃ bytes b',
      I2CClient.readI2cBlock command len ⟨fun _ => 0, [.ok (List.replicate 32 0)], []⟩ =
        .ok bytes b' ∧ bytes.length = len.toNat := by
  rw [I2CClient.readI2cBlock_spec, if_neg (show ¬ len > 32 from Nat.not_lt.mpr hlen)]
  refine ⟨_, _, rfl, ?_⟩
  split <;> simp [hlen]

/-! ### Where a block read stores -/

section Stores

variable {α : Type}

/-- Every store a run of `x` adds, from any state, lands in `buf`. -/
def StoresWithin (buf : Slice) (x : Op Host α) : Prop :=
  ∀ h, ∃ new, (final (x h)).stores = h.stores ++ new ∧ ∀ p ∈ new, buf.owns p.1

theorem StoresWithin.of_copy {buf : Slice} {x : Op Host α}
    (hx : ∀ h, (final (x h)).stores = h.stores ∨
      ∃ src, src.length ≤ buf.len ∧ (final (x h)).stores = h.stores ++ memcpy buf.ptr src) :
    StoresWithin buf x := fun h => by
  rcases hx h with e | ⟨src, hl, e⟩
  · exact ⟨[], by rw [e, List.append_nil], by simp⟩
  · exact ⟨_, e, (memcpy_owned_iff buf src).mpr hl⟩

theorem StoresWithin.copy_le {buf : Slice} {x : Op Host α} (hs : StoresWithin buf x) (h : Host)
    (src : List UInt8) (hx : (final (x h)).stores = h.stores ++ memcpy buf.ptr src) :
    src.length ≤ buf.len := by
  obtain ⟨new, hnew, hin⟩ := hs h
  rw [hx, List.append_cancel_left_eq] at hnew
  exact (memcpy_owned_iff buf src).mp (hnew ▸ hin)

end Stores

/-- `read_block` keeps its stores in `buf` exactly when `buf` has room for the longest block:
the count comes from the chip, and a count of 32 passes the core's check. -/
theorem storesWithin_readBlock_iff (command : UInt8) (buf : Slice) :
    StoresWithin buf (Host.I2CClient.readBlock command buf) ↔ 32 ≤ buf.len := by
  constructor
  · intro hs
    by_contra hshort
    -- a chip, or a register file, whose count byte is 32
    have h32 : (Host.blockData (fun _ => 32) command [32]).1 = 32 := by simp [Host.blockData]
    have hcopy := hs.copy_le ⟨⟨fun _ => 32, [.ok [32]], []⟩, []⟩
      (Host.blockData (fun _ => 32) command [32]).2 (by
        rw [Host.readBlock_spec, if_neg (by omega)]
        simp [Bus.next, h32, I2C_SMBUS_BLOCK_MAX])
    rw [Host.blockData_length, h32] at hcopy
    omega
  · intro hl
    refine StoresWithin.of_copy fun h => ?_
    rw [Host.readBlock_spec]
    split
    · exact .inl rfl
    split
    · exact .inl rfl
    split
    · exact .inl rfl
    · next hc =>
      refine .inr ⟨_, ?_, rfl⟩
      rw [Host.blockData_length]
      simp only [I2C_SMBUS_BLOCK_MAX, gt_iff_lt, not_lt] at hc
      omega

/-- `read_i2c_block` keeps its stores in `buf` exactly when it refuses the length, or the
length fits in `buf`. -/
theorem storesWithin_readI2cBlock_iff (command len : UInt8) (buf : Slice) :
    StoresWithin buf (Host.I2CClient.readI2cBlock command len buf) ↔
      32 < len.toNat ∨ len.toNat ≤ buf.len := by
  constructor
  · intro hs
    by_contra hbad
    push_neg at hbad
    -- a chip that drives every byte asked for
    obtain ⟨bytes, b', hr, hlen⟩ := I2CClient.readI2cBlock_full command len hbad.1
    have hcopy := hs.copy_le ⟨⟨fun _ => 0, [.ok (List.replicate 32 0)], []⟩, []⟩ bytes (by
      rw [Host.readI2cBlock_eq, hr]
      rfl)
    omega
  · intro hok
    refine StoresWithin.of_copy fun h => ?_
    rw [Host.readI2cBlock_eq]
    rcases hr : I2CClient.readI2cBlock command len h.bus with ⟨bytes, b⟩ | ⟨e, b⟩
    · have hlen := I2CClient.readI2cBlock_length hr
      have hin : len.toNat ≤ 32 := Nat.not_lt.mp fun hl => by
        rw [I2CClient.readI2cBlock_spec, if_pos (show len > 32 from hl)] at hr
        cases hr
      exact .inr ⟨bytes, by omega, rfl⟩
    · exact .inl rfl

/-- **The block reads' guards do not keep the copy in the buffer.** `read_block` refuses a
buffer longer than 32 bytes and `read_i2c_block` a length over 32, but neither compares what the
core copies with the buffer: a call of `read_block` keeps its stores in `buf` exactly when
`buf.len() ≥ 32`, and a call of `read_i2c_block` exactly when `len > 32` or
`len ≤ buf.len()`. -/
theorem blockReads_storesWithin_iff :
    (∀ command buf,
      StoresWithin buf (Host.I2CClient.readBlock command buf) ↔ 32 ≤ buf.len) ∧
    (∀ command len buf, StoresWithin buf (Host.I2CClient.readI2cBlock command len buf) ↔
      32 < len.toNat ∨ len.toNat ≤ buf.len) :=
  ⟨storesWithin_readBlock_iff, storesWithin_readI2cBlock_iff⟩

/-- Thirty-two bytes asked for into a six-byte buffer at 0: the last lands at 31. -/
example : (31, 0) ∈ (final (Host.I2CClient.readI2cBlock ADXL345_REG_DATAX0 32 ⟨0, 6⟩
    ⟨⟨fun _ => 0, [.ok (List.replicate 32 0)], []⟩, []⟩)).stores := by
  decide

end RustAdxl345
