import Mathlib.Data.BitVec

/-!
# Samples and their bytes

`Adxl345Sample` is the `#[repr(C)]` record of three `i16` that `read` hands to user space; an
`i16` is a `BitVec 16` read as signed (`toInt`). `read_data` decodes each axis from a
little-endian register pair and shifts it left by 2 (`decodeAxis`, `decode`). `read` copies the
three fields with `IoBufferWriter::write`, each as its two bytes in memory, little end first
(`leBytes`), so a record is six bytes (`Adxl345Sample.bytes`), which user space reads back as the
same record whatever follows them (`ofBytes_bytes_append`).
-/

namespace RustAdxl345

/-- A sample: acceleration on the three axes. -/
structure Adxl345Sample where
  x : BitVec 16
  y : BitVec 16
  z : BitVec 16
  deriving DecidableEq, Repr

namespace Adxl345Sample

/-- `Adxl345Sample::new(x, y, z)`. -/
def new (x y z : BitVec 16) : Adxl345Sample := ⟨x, y, z⟩

/-- `i16::from_le_bytes([lo, hi])`. -/
def fromLeBytes (lo hi : UInt8) : BitVec 16 := BitVec.ofNat 16 (lo.toNat + 256 * hi.toNat)

/-- One axis as `read_data` decodes it: `i16::from_le_bytes([lo, hi]) << 2`, where `<<` on an
`i16` drops the bits shifted out. -/
def decodeAxis (lo hi : UInt8) : BitVec 16 := fromLeBytes lo hi <<< 2

/-- The sample `read_data` builds from the six bytes it read (`data[0..6]`). -/
def decode (data : List UInt8) : Adxl345Sample :=
  ⟨decodeAxis (data.getD 0 0) (data.getD 1 0), decodeAxis (data.getD 2 0) (data.getD 3 0),
    decodeAxis (data.getD 4 0) (data.getD 5 0)⟩

/-- The bytes of an `i16` in memory, little end first: what `IoBufferWriter::write` copies. -/
def leBytes (v : BitVec 16) : List UInt8 :=
  [UInt8.ofNat (v.toNat % 256), UInt8.ofNat (v.toNat / 256)]

/-- The six bytes of a record: `x`, `y`, `z` in field order. -/
def bytes (s : Adxl345Sample) : List UInt8 := leBytes s.x ++ leBytes s.y ++ leBytes s.z

/-- The record user space reads from six bytes of its buffer. -/
def ofBytes (b : List UInt8) : Adxl345Sample :=
  ⟨fromLeBytes (b.getD 0 0) (b.getD 1 0), fromLeBytes (b.getD 2 0) (b.getD 3 0),
    fromLeBytes (b.getD 4 0) (b.getD 5 0)⟩

@[simp] theorem length_leBytes (v : BitVec 16) : (leBytes v).length = 2 := rfl

@[simp] theorem length_bytes (s : Adxl345Sample) : s.bytes.length = 6 := rfl

theorem fromLeBytes_leBytes (v : BitVec 16) :
    fromLeBytes (UInt8.ofNat (v.toNat % 256)) (UInt8.ofNat (v.toNat / 256)) = v := by
  apply BitVec.eq_of_toNat_eq
  have hv := v.isLt
  simp only [fromLeBytes, BitVec.toNat_ofNat, UInt8.toNat, UInt8.ofNat, Fin.ofNat, Nat.reducePow]
  omega

theorem ofBytes_bytes_append (s : Adxl345Sample) (rest : List UInt8) :
    ofBytes (s.bytes ++ rest) = s := by
  simp only [ofBytes, bytes, leBytes, List.cons_append, List.nil_append, List.getD_cons_zero,
    List.getD_cons_succ, fromLeBytes_leBytes]

end Adxl345Sample

end RustAdxl345
