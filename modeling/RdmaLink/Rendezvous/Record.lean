import RdmaLink.Hexadecimal
import RdmaLink.Memory.RemoteRegion
import RdmaLink.QueuePair.Address
import RdmaLink.Rendezvous.Transport
import RdmaLink.System.IoError

/-!
# Rendezvous records

Before two queue pairs can be linked, each side tells the other how to reach it and its region.
A record has 64 bytes; the seven reserved ones are written as zero and not looked at.

    0       "RDV1"            16  gid               52  IPv4
    4       transport         32  region address    56  port
    5       reserved          40  region length     58  reserved
    6       lid               48  key
    8, 12   number, psn

    ofBytes r.toBytes = .ok r                        (Record.ofBytes_toBytes)
-/

namespace RdmaLink

/-- What one side tells the other when they meet. -/
structure Record where
  transport : Transport
  queuePair : QueuePairAddress
  region : RemoteRegion
  /-- The sender's end of the stream. -/
  ip : Ipv4
  port : UInt16
deriving DecidableEq, Repr, Inhabited

/-- Why a byte string is no record. -/
inductive RecordFault where
  | length (actual : Nat)
  | magic (found : Bytes)
  | transport (code : UInt8)
deriving DecidableEq, Repr, Inhabited

namespace Record

/-- Bytes of a record. -/
def size : Nat := 64

/-- The bytes that open a record: `RDV1`. -/
def magic : Bytes := [0x52, 0x44, 0x56, 0x31]

/-- The widths of the fields, in order. -/
def widths : List Nat := [4, 1, 1, 2, 4, 4, 16, 8, 8, 4, 4, 2, 6]

/-- The fields in the order in which they are written. -/
def values (r : Record) : List Nat :=
  [BigEndian.decode magic, r.transport.code.toNat, 0, r.queuePair.lid.toNat,
    r.queuePair.number.toNat, r.queuePair.psn.toNat, r.queuePair.gid.word.toNat,
    r.region.address.toNat, r.region.length.toNat, r.region.key.toNat, r.ip.word.toNat,
    r.port.toNat, 0]

/-- The 64 bytes of a record. -/
def toBytes (r : Record) : Bytes := Fields.join (widths.zip r.values)

/-- The record that a byte string writes. -/
def ofBytes (bytes : Bytes) : Except RecordFault Record :=
  if bytes.length ≠ size then .error (.length bytes.length)
  else
    match Fields.split widths bytes with
    | [opening, code, _, lid, number, psn, gid, address, length, key, ip, port, _] =>
      if opening ≠ BigEndian.decode magic then .error (.magic (bytes.take 4))
      else
        match Transport.ofCode? (UInt8.ofNat code) with
        | none => .error (.transport (UInt8.ofNat code))
        | some transport =>
          .ok
            { transport := transport
              queuePair :=
                { number := UInt32.ofNat number
                  psn := UInt32.ofNat psn
                  lid := UInt16.ofNat lid
                  gid := ⟨BitVec.ofNat 128 gid⟩ }
              region :=
                { address := UInt64.ofNat address
                  length := UInt64.ofNat length
                  key := UInt32.ofNat key }
              ip := ⟨UInt32.ofNat ip⟩
              port := UInt16.ofNat port }
    | _ => .error (.length bytes.length)

end Record

/-- The complaint about a byte string that is no record. -/
def RecordFault.message : RecordFault → String
  | .length actual =>
    "record is " ++ toString actual ++ " bytes, expected " ++ toString Record.size
  | .magic found => "bad magic " ++ Hexadecimal.listing found
  | .transport code => "unknown transport kind " ++ toString code.toNat

namespace Record

/-! ## Records on a stream -/

/-- A body behind its length in two bytes. -/
def framed (body : Bytes) : Bytes := BigEndian.encode 2 body.length ++ body

/-- Reads a body behind its length in two bytes and gives what follows; the body is not
interpreted. -/
def readFramed (bytes : Bytes) : Except IoError (Bytes × Bytes) :=
  if bytes.length < 2 then .error .unexpectedEnd
  else
    let length := BigEndian.decode (bytes.take 2)
    let rest := bytes.drop 2
    if rest.length < length then .error .unexpectedEnd
    else .ok (rest.take length, rest.drop length)

/-- Reads at most `most` bodies, up to the first failure, and gives what follows.  A read that
fails has used the stream up. -/
def readAll : (most : Nat) → Bytes → List (Except IoError Bytes) × Bytes
  | 0, rest => ([], rest)
  | most + 1, bytes =>
    match readFramed bytes with
    | .error e => ([.error e], [])
    | .ok (body, rest) =>
      let (bodies, left) := readAll most rest
      (.ok body :: bodies, left)

/-! ## Lemmas -/

@[simp] theorem length_toBytes (r : Record) : r.toBytes.length = size := by
  simp [toBytes, widths, values, size, Fields.size]

theorem split_toBytes (r : Record) : Fields.split widths r.toBytes = r.values := by
  have := Fields.split_join (widths.zip r.values) [] (by
    have h1 := r.transport.code.toNat_lt
    have h2 := r.queuePair.lid.toNat_lt
    have h3 := r.queuePair.number.toNat_lt
    have h4 := r.queuePair.psn.toNat_lt
    have h5 := r.queuePair.gid.word.isLt
    have h6 := r.region.address.toNat_lt
    have h7 := r.region.length.toNat_lt
    have h8 := r.region.key.toNat_lt
    have h9 := r.ip.word.toNat_lt
    have h10 := r.port.toNat_lt
    have hm : BigEndian.decode magic = 0x52445631 := by decide
    simp [widths, values, BigEndian.capacity, hm]
    omega)
  simpa [widths, values, toBytes] using this

/-- A written record reads back. -/
theorem ofBytes_toBytes (r : Record) : ofBytes r.toBytes = .ok r := by
  simp [ofBytes, split_toBytes, values]

end Record

end RdmaLink
