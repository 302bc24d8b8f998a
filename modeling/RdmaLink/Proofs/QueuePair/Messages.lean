import RdmaLink.Proofs.QueuePair.Arrival

/-!
# Messages

What one queue pair says to another is said in a header.  A header is read from its 32 bytes
whatever they are, and is written as the same bytes again:

    Header.read bytes = .ok (h, rest) ↔ bytes = h.toBytes ++ rest        (Header.read_eq_ok_iff)
    Header.read bytes = .error e ↔ bytes.length < size ∧ e = .unexpectedEnd
                                                                      (Header.read_eq_error_iff)

The header of a message tells which message it is: the opcode tells the kind, and with the kind
which of the fields are meant.  The others are zero.

    Message.ofHeader? message.header = some message                 (Message.ofHeader?_header)
    message.header = message.fields                                   (Message.header_eq_fields)
-/

namespace RdmaLink

namespace Header

variable {bytes rest : Bytes} {h : Header} {e : IoError}

/-! ## Reading headers -/

/-- A header is read from the front of a byte string if and only if its bytes stand there. -/
theorem read_eq_ok_iff : read bytes = .ok (h, rest) ↔ bytes = h.toBytes ++ rest := by
  constructor
  · intro found
    unfold read at found
    split at found
    · next front =>
      cases found
      rw [toBytes_of_ofBytes? front, List.take_append_drop]
    · cases found
  · rintro rfl
    have width := h.length_toBytes
    rw [read, List.take_left' width, List.drop_left' width, ofBytes?_toBytes]

/-- Nothing but a missing byte keeps a header from being read. -/
theorem read_eq_error_iff : read bytes = .error e ↔ bytes.length < size ∧ e = .unexpectedEnd := by
  rcases Nat.lt_or_ge bytes.length size with short | long
  · have missing : ofBytes? (bytes.take size) = none :=
      if_neg (by rw [List.length_take]; omega)
    rw [read, missing, Except.error.injEq]
    exact ⟨fun same => ⟨short, same.symm⟩, fun both => both.2.symm⟩
  · obtain ⟨h, front⟩ := ofBytes?_isSome _ (List.length_take_of_le long)
    rw [read, front]
    exact ⟨nofun, fun both => absurd both.1 (Nat.not_lt.mpr long)⟩

end Header

/-! ## Messages and their headers -/

/-- What a queue pair can say, with the numbers that go with it. -/
inductive Message where
  | hello (own peer : UInt32)
  | write (sequence address : UInt64) (key length : UInt32) (immediate : Option UInt32)
  | readRequest (sequence address : UInt64) (key length : UInt32)
  | readResponse (sequence : UInt64) (status : UInt8) (length : UInt32)
  | acknowledgement (sequence : UInt64) (status : UInt8)
deriving DecidableEq, Repr, Inhabited

namespace Message

/-- The header that a message is sent with. -/
def header : Message → Header
  | .hello own peer => Header.hello own peer
  | .write sequence address key length immediate =>
    Header.write sequence address key length immediate
  | .readRequest sequence address key length => Header.readRequest sequence address key length
  | .readResponse sequence status length => Header.readResponse sequence status length
  | .acknowledgement sequence status => Header.acknowledgement sequence status

/-- What stands in each field, in the order in which they are sent: opcode, status, reserved bytes,
immediate, sequence, address, key and length. -/
def fields : Message → Header
  | .hello own peer => ⟨1, 0, 0, peer, own.toUInt64, 0, 0, 0⟩
  | .write sequence address key length none => ⟨2, 0, 0, 0, sequence, address, key, length⟩
  | .write sequence address key length (some immediate) =>
    ⟨3, 0, 0, immediate, sequence, address, key, length⟩
  | .readRequest sequence address key length => ⟨4, 0, 0, 0, sequence, address, key, length⟩
  | .readResponse sequence status length => ⟨5, status, 0, 0, sequence, 0, 0, length⟩
  | .acknowledgement sequence status => ⟨6, status, 0, 0, sequence, 0, 0, 0⟩

/-- The message that a header is sent with, if its opcode is that of a message. -/
def ofHeader? (h : Header) : Option Message :=
  if h.opcode = Opcode.hello then some (.hello h.sequence.toUInt32 h.immediate)
  else if h.opcode = Opcode.write then some (.write h.sequence h.address h.key h.length none)
  else if h.opcode = Opcode.writeWithImmediate then
    some (.write h.sequence h.address h.key h.length (some h.immediate))
  else if h.opcode = Opcode.readRequest then
    some (.readRequest h.sequence h.address h.key h.length)
  else if h.opcode = Opcode.readResponse then some (.readResponse h.sequence h.status h.length)
  else if h.opcode = Opcode.acknowledgement then some (.acknowledgement h.sequence h.status)
  else none

theorem header_eq_fields (message : Message) : message.header = message.fields := by
  cases message with
  | write sequence address key length immediate => cases immediate <;> rfl
  | _ => rfl

/-- No two messages have one header: a write without an immediate is not one whose immediate is
zero. -/
theorem ofHeader?_header (message : Message) : ofHeader? message.header = some message := by
  rw [header_eq_fields]
  cases message with
  | hello own peer =>
    have number : own.toUInt64.toUInt32 = own := UInt32.toUInt32_toUInt64 own
    exact congrArg (fun number => some (hello number peer)) number
  | write sequence address key length immediate => cases immediate <;> rfl
  | _ => rfl

theorem header_injective {message other : Message} (same : message.header = other.header) :
    message = other := by
  have told := ofHeader?_header message
  rw [same, ofHeader?_header other] at told
  exact (Option.some.inj told).symm

/-- The codec of headers is exact.  Any 32 bytes are read as a header that is written as these bytes
again, and what follows them is left; fewer bytes are too few, and nothing else is a failure.  A
message that was sent with a payload is read back with its opcode, its numbers in their fields and
zero in all others, and the payload is left.  Different messages have different bytes. -/
theorem header_codec_exact :
    (∀ front rest : Bytes, front.length = 32 →
      ∃ h, Header.read (front ++ rest) = .ok (h, rest) ∧ h.toBytes = front) ∧
    (∀ (bytes : Bytes) (e : IoError),
      Header.read bytes = .error e ↔ bytes.length < 32 ∧ e = .unexpectedEnd) ∧
    (∀ (message : Message) (payload : Bytes),
      Header.read (Frame.toBytes ⟨message.header, payload⟩) = .ok (message.fields, payload)) ∧
    (∀ message other : Message, message ≠ other →
      message.header.toBytes ≠ other.header.toBytes) := by
  refine ⟨fun front rest long => ?_, fun bytes e => Header.read_eq_error_iff,
    fun message payload => ?_, fun message other apart same => apart ?_⟩
  · cases found : Header.read (front ++ rest) with
    | error e =>
      have few := (Header.read_eq_error_iff.mp found).1
      rw [List.length_append, long] at few
      exact absurd few (Nat.not_lt.mpr (Nat.le_add_right _ _))
    | ok pair =>
      obtain ⟨h, left⟩ := pair
      -- both splits of the byte string are behind its first 32 bytes
      have split := Header.read_eq_ok_iff.mp found
      obtain ⟨bytes, rfl⟩ := List.append_inj split (long.trans h.length_toBytes.symm)
      exact ⟨h, rfl, bytes.symm⟩
  · rw [header_eq_fields]
    exact Header.read_eq_ok_iff.mpr rfl
  · have headers := Header.ofBytes?_toBytes message.header
    rw [same, Header.ofBytes?_toBytes] at headers
    exact header_injective (Option.some.inj headers).symm

end Message

end RdmaLink
