/-!
# Byte strings and big-endian numbers

Every number that this library puts on a wire is written most significant byte first.
`BigEndian.encode` writes a number in a fixed count of bytes, `BigEndian.decode` reads one back.

A record of fixed widths is the numbers one after the other: `Fields.join` writes it,
`Fields.split` cuts it up again.

    n < capacity w → decode (encode w n) = n            (BigEndian.decode_encode)
    encode bs.length (decode bs) = bs                   (BigEndian.encode_decode)
    Fits fs → split (widths fs) (join fs) = values fs   (Fields.split_join)
    bs.length = size ws → join (zip ws (split ws bs)) = bs   (Fields.join_split)
-/

-- powers of numbers are the core library's, whatever a module imports
attribute [default_instance 10000] instPowNat

namespace RdmaLink

/-- A byte string, first byte first. -/
abbrev Bytes := List UInt8

namespace BigEndian

/-- The `width` low-order bytes of a number, most significant first. -/
def encode : (width : Nat) → Nat → Bytes
  | 0, _ => []
  | width + 1, n => encode width (n / 256) ++ [UInt8.ofNat n]

/-- The number that a byte string writes, most significant byte first. -/
def decode (bytes : Bytes) : Nat :=
  bytes.foldl (fun n b => n * 256 + b.toNat) 0

/-- How many numbers a byte string of `width` bytes can write. -/
def capacity : (width : Nat) → Nat
  | 0 => 1
  | width + 1 => capacity width * 256

theorem capacity_le {narrow wide : Nat} (h : narrow ≤ wide) : capacity narrow ≤ capacity wide := by
  induction h with
  | refl => exact Nat.le_refl _
  | step _ ih => exact Nat.le_trans ih (Nat.le_mul_of_pos_right _ (by decide))

@[simp] theorem length_encode (width n : Nat) : (encode width n).length = width := by
  induction width generalizing n with
  | zero => rfl
  | succ width ih => simp [encode, ih]

@[simp] theorem decode_nil : decode [] = 0 := rfl

@[simp] theorem decode_append_singleton (bytes : Bytes) (b : UInt8) :
    decode (bytes ++ [b]) = decode bytes * 256 + b.toNat := by
  simp [decode]

/-- Reading what was written gives the number back, if it fits. -/
theorem decode_encode {width n : Nat} (h : n < capacity width) :
    decode (encode width n) = n := by
  induction width generalizing n with
  | zero =>
    have hn : n = 0 := Nat.lt_one_iff.1 h
    simp [encode, hn]
  | succ width ih =>
    have hq : n / 256 < capacity width := by
      rw [capacity] at h; exact Nat.div_lt_of_lt_mul (by omega)
    simp only [encode, decode_append_singleton, ih hq, UInt8.toNat_ofNat']
    omega

/-- Every byte string is the written form of the number that it reads as. -/
theorem encode_decode (bytes : Bytes) : encode bytes.length (decode bytes) = bytes := by
  rcases List.eq_nil_or_concat bytes with rfl | ⟨front, b, rfl⟩
  · rfl
  · have ih := encode_decode front
    have hb := b.toNat_lt
    have hq : (decode front * 256 + b.toNat) / 256 = decode front := by omega
    simp only [List.concat_eq_append, List.length_append, List.length_cons, List.length_nil,
      Nat.zero_add, encode, decode_append_singleton, hq, ih, List.append_cancel_left_eq,
      List.cons.injEq, and_true]
    apply UInt8.toNat_inj.1
    rw [UInt8.toNat_ofNat']
    omega
termination_by bytes.length
decreasing_by simp_all

/-- A byte string reads as a number that its length can write. -/
theorem decode_lt (bytes : Bytes) : decode bytes < capacity bytes.length := by
  rcases List.eq_nil_or_concat bytes with rfl | ⟨front, b, rfl⟩
  · decide
  · have ih := decode_lt front
    have hb := b.toNat_lt
    simp only [List.concat_eq_append, decode_append_singleton, List.length_append,
      List.length_cons, List.length_nil, Nat.zero_add, capacity]
    omega
termination_by bytes.length
decreasing_by simp_all

end BigEndian

/-! ## Records of fixed widths -/

namespace Fields

/-- The written form of a list of fields, each a width in bytes and a number. -/
def join : List (Nat × Nat) → Bytes
  | [] => []
  | (width, n) :: rest => BigEndian.encode width n ++ join rest

/-- The numbers that stand one after the other in a byte string, in the given widths. -/
def split : List Nat → Bytes → List Nat
  | [], _ => []
  | width :: rest, bytes =>
    BigEndian.decode (bytes.take width) :: split rest (bytes.drop width)

/-- The bytes that fields of some widths take. -/
def size : List Nat → Nat
  | [] => 0
  | width :: rest => width + size rest

@[simp] theorem length_join (fields : List (Nat × Nat)) :
    (join fields).length = size (fields.map Prod.fst) := by
  induction fields with
  | nil => rfl
  | cons field rest ih => simp [join, size, ih]

/-- What was written is read back, whatever follows it, if every number fits its width. -/
theorem split_join (fields : List (Nat × Nat)) (rest : Bytes)
    (h : ∀ f ∈ fields, f.2 < BigEndian.capacity f.1) :
    split (fields.map Prod.fst) (join fields ++ rest) = fields.map Prod.snd := by
  induction fields with
  | nil => rfl
  | cons field more ih =>
    obtain ⟨width, n⟩ := field
    have hn : n < BigEndian.capacity width := h (width, n) (by simp)
    have hl := BigEndian.length_encode width n
    simp only [List.map_cons, split, join, List.append_assoc]
    rw [List.take_left' hl, List.drop_left' hl, BigEndian.decode_encode hn,
      ih fun f hf => h f (by simp [hf])]

/-- A byte string of the right length is the written form of the numbers that it holds. -/
theorem join_split (widths : List Nat) (bytes : Bytes) (h : bytes.length = size widths) :
    join (widths.zip (split widths bytes)) = bytes := by
  induction widths generalizing bytes with
  | nil => simpa [join, split] using (List.length_eq_zero_iff.1 (by simpa [size] using h)).symm
  | cons width rest ih =>
    simp only [size] at h
    have ht : (bytes.take width).length = width := by simp; omega
    have := BigEndian.encode_decode (bytes.take width)
    rw [ht] at this
    simp only [split, List.zip_cons_cons, join, this]
    rw [ih _ (by simp; omega), List.take_append_drop]

@[simp] theorem length_split (widths : List Nat) (bytes : Bytes) :
    (split widths bytes).length = widths.length := by
  induction widths generalizing bytes with
  | nil => rfl
  | cons width rest ih => simp [split, ih]

end Fields

end RdmaLink
