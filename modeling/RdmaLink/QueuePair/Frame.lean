import RdmaLink.Bytes
import RdmaLink.System.IoError

/-!
# Frames of the data path

Every message between two queue pairs is a header of 32 bytes, and for writes and answered reads
a payload after it.

    0      1       2         4          8         16       24       28      32
    opcode status  reserved  immediate  sequence  address  key      length

Reading a header gives back every one of its bytes, the reserved ones included.

    Header.ofBytes? bytes = some h → h.toBytes = bytes     (Header.toBytes_of_ofBytes?)
    Header.ofBytes? h.toBytes = some h                     (Header.ofBytes?_toBytes)
-/

namespace RdmaLink

namespace Opcode

/-- Greeting: the sequence carries the sender's number, the immediate the receiver's. -/
def hello : UInt8 := 1
def write : UInt8 := 2
def writeWithImmediate : UInt8 := 3
def readRequest : UInt8 := 4
def readResponse : UInt8 := 5
/-- Answer to a write; the status tells the outcome. -/
def acknowledgement : UInt8 := 6

end Opcode

/-- A frame header. -/
structure Header where
  opcode : UInt8
  status : UInt8
  reserved : UInt16
  immediate : UInt32
  sequence : UInt64
  address : UInt64
  key : UInt32
  length : UInt32
deriving DecidableEq, Repr, Inhabited

namespace Header

/-- Bytes of a header. -/
def size : Nat := 32

/-- A header of a kind with zero in every other field. -/
def ofOpcode (opcode : UInt8) : Header := ⟨opcode, 0, 0, 0, 0, 0, 0, 0⟩

def hello (own peer : UInt32) : Header :=
  { ofOpcode Opcode.hello with sequence := own.toUInt64, immediate := peer }

def write (sequence address : UInt64) (key length : UInt32) (immediate : Option UInt32) : Header :=
  { ofOpcode (if immediate.isSome then Opcode.writeWithImmediate else Opcode.write) with
    sequence := sequence, address := address, key := key, length := length
    immediate := immediate.getD 0 }

def readRequest (sequence address : UInt64) (key length : UInt32) : Header :=
  { ofOpcode Opcode.readRequest with
    sequence := sequence, address := address, key := key, length := length }

def readResponse (sequence : UInt64) (status : UInt8) (length : UInt32) : Header :=
  { ofOpcode Opcode.readResponse with sequence := sequence, status := status, length := length }

def acknowledgement (sequence : UInt64) (status : UInt8) : Header :=
  { ofOpcode Opcode.acknowledgement with sequence := sequence, status := status }

/-! ## Bytes -/

/-- The widths of the fields, in order. -/
def widths : List Nat := [1, 1, 2, 4, 8, 8, 4, 4]

/-- The fields in the order in which they are written. -/
def values (h : Header) : List Nat :=
  [h.opcode.toNat, h.status.toNat, h.reserved.toNat, h.immediate.toNat, h.sequence.toNat,
    h.address.toNat, h.key.toNat, h.length.toNat]

/-- The header of a list of fields. -/
def ofValues? : List Nat → Option Header
  | [opcode, status, reserved, immediate, sequence, address, key, length] =>
    some
      { opcode := UInt8.ofNat opcode
        status := UInt8.ofNat status
        reserved := UInt16.ofNat reserved
        immediate := UInt32.ofNat immediate
        sequence := UInt64.ofNat sequence
        address := UInt64.ofNat address
        key := UInt32.ofNat key
        length := UInt32.ofNat length }
  | _ => none

/-- The 32 bytes of a header. -/
def toBytes (h : Header) : Bytes := Fields.join (widths.zip h.values)

/-- The header that 32 bytes write. -/
def ofBytes? (bytes : Bytes) : Option Header :=
  if bytes.length = size then ofValues? (Fields.split widths bytes) else none

/-- Reads the header at the front of a stream of bytes; what follows it is left. -/
def read (bytes : Bytes) : Except IoError (Header × Bytes) :=
  match ofBytes? (bytes.take size) with
  | some h => .ok (h, bytes.drop size)
  | none => .error .unexpectedEnd

/-! ## Lemmas -/

@[simp] theorem length_toBytes (h : Header) : h.toBytes.length = size := by
  simp [toBytes, widths, values, size, Fields.size]

theorem ofValues?_values (h : Header) : ofValues? h.values = some h := by
  simp [ofValues?, values]

theorem split_toBytes (h : Header) (rest : Bytes) :
    Fields.split widths (h.toBytes ++ rest) = h.values := by
  have := Fields.split_join (widths.zip h.values) rest (by
    have h1 := h.opcode.toNat_lt
    have h2 := h.status.toNat_lt
    have h3 := h.reserved.toNat_lt
    have h4 := h.immediate.toNat_lt
    have h5 := h.sequence.toNat_lt
    have h6 := h.address.toNat_lt
    have h7 := h.key.toNat_lt
    have h8 := h.length.toNat_lt
    simp [widths, values, BigEndian.capacity]
    omega)
  simpa [widths, values, toBytes] using this

/-- A written header reads back. -/
theorem ofBytes?_toBytes (h : Header) : ofBytes? h.toBytes = some h := by
  have := split_toBytes h []
  simp only [List.append_nil] at this
  simp [ofBytes?, this, ofValues?_values]

/-- Reading a header keeps all of its bytes. -/
theorem toBytes_of_ofBytes? {bytes : Bytes} {h : Header} (read : ofBytes? bytes = some h) :
    h.toBytes = bytes := by
  unfold ofBytes? at read
  split at read
  next hl =>
    have hs := Fields.join_split widths bytes (by simpa [widths, size, Fields.size] using hl)
    rw [← hs, toBytes]
    congr 2
    simp only [widths, Fields.split] at read ⊢
    simp only [ofValues?, Option.some.injEq] at read
    subst read
    have lt (k w : Nat) : BigEndian.decode ((bytes.drop k).take w) < BigEndian.capacity w :=
      Nat.lt_of_lt_of_le (BigEndian.decode_lt _)
        (BigEndian.capacity_le (List.length_take_le w _))
    have l0 := lt 0 1; have l1 := lt 1 1; have l2 := lt 2 2; have l3 := lt 4 4
    have l4 := lt 8 8; have l5 := lt 16 8; have l6 := lt 24 4; have l7 := lt 28 4
    simp only [List.drop_zero, BigEndian.capacity, Nat.reduceMul] at l0 l1 l2 l3 l4 l5 l6 l7
    simp only [values, List.drop_drop, Nat.reduceAdd, UInt8.toNat_ofNat', UInt16.toNat_ofNat',
      UInt32.toNat_ofNat', UInt64.toNat_ofNat', Nat.reducePow]
    simp only [Nat.mod_eq_of_lt l0, Nat.mod_eq_of_lt l1, Nat.mod_eq_of_lt l2, Nat.mod_eq_of_lt l3,
      Nat.mod_eq_of_lt l4, Nat.mod_eq_of_lt l5, Nat.mod_eq_of_lt l6, Nat.mod_eq_of_lt l7]
  next => simp at read

end Header

/-- A frame as a queue pair sends it: a header and the payload after it. -/
structure Frame where
  header : Header
  payload : Bytes
deriving DecidableEq, Repr, Inhabited

/-- The bytes of a frame. -/
def Frame.toBytes (frame : Frame) : Bytes := frame.header.toBytes ++ frame.payload

end RdmaLink
