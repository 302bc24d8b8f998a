import RdmaLink.Bytes
import RdmaLink.Address.Number

/-!
# IPv4 addresses

An address is one 32-bit word; its text is the four bytes in decimal, most significant first.
-/

namespace RdmaLink

/-- An IPv4 address as its 32-bit word. -/
structure Ipv4 where
  word : UInt32
deriving DecidableEq, Repr, Inhabited

namespace Ipv4

/-- The four bytes, most significant first. -/
def octets (ip : Ipv4) : Bytes := BigEndian.encode 4 ip.word.toNat

/-- The address of four bytes. -/
def ofOctets (bytes : Bytes) : Ipv4 := ⟨UInt32.ofNat (BigEndian.decode bytes)⟩

def unspecified : Ipv4 := ⟨0⟩
def loopback : Ipv4 := ofOctets [127, 0, 0, 1]

/-- Dotted decimal text. -/
def text (ip : Ipv4) : String :=
  ".".intercalate (ip.octets.map fun b => toString b.toNat)

/-- The dotted address at the front of a text and what follows it. -/
def read? (text : List Char) : Option (Ipv4 × List Char) := do
  let (a, rest) ← Address.NumberForm.octet.read? text
  let (b, rest) ← Address.NumberForm.octet.read? (← Address.expect? '.' rest)
  let (c, rest) ← Address.NumberForm.octet.read? (← Address.expect? '.' rest)
  let (d, rest) ← Address.NumberForm.octet.read? (← Address.expect? '.' rest)
  return (ofOctets [UInt8.ofNat a, UInt8.ofNat b, UInt8.ofNat c, UInt8.ofNat d], rest)

/-- The address that a whole text writes. -/
def parse? (text : String) : Option Ipv4 :=
  match read? text.toList with
  | some (ip, []) => some ip
  | _ => none

end Ipv4

end RdmaLink
