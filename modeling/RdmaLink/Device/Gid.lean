import RdmaLink.Address.Ipv6

/-!
# Global port identifiers

A port is identified by 128 bits that read as an IPv6 address.  An identifier that carries an
IPv4 address names the interface to dial; the all-zero IPv4 address names none.
-/

namespace RdmaLink

/-- A 128-bit global identifier. -/
structure Gid where
  word : BitVec 128
deriving DecidableEq, Repr, Inhabited

namespace Gid

/-- The identifier as an address. -/
def toIpv6 (gid : Gid) : Ipv6 := ⟨gid.word⟩

/-- The sixteen bytes, most significant first. -/
def octets (gid : Gid) : Bytes := BigEndian.encode 16 gid.word.toNat

/-- The identifier of sixteen bytes. -/
def ofOctets (bytes : Bytes) : Gid := ⟨BitVec.ofNat 128 (BigEndian.decode bytes)⟩

/-- The identifier that carries an IPv4 address. -/
def ofIpv4 (ip : Ipv4) : Gid := ⟨(Ipv6.ofIpv4 ip).word⟩

/-- The IPv4 address that an identifier carries, unless it is the unspecified one. -/
def toIpv4? (gid : Gid) : Option Ipv4 :=
  gid.toIpv6.toIpv4?.filter (· != Ipv4.unspecified)

def text (gid : Gid) : String := gid.toIpv6.text

/-- The text of an identifier with its kind. -/
def described (gid : Gid) : String := "Gid(" ++ gid.text ++ ")"

end Gid

end RdmaLink
