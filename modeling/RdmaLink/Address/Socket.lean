import RdmaLink.Address.Ipv6

/-!
# Socket addresses

An IP address with a port.  An IPv6 address stands in brackets and may name a scope.
-/

namespace RdmaLink

/-- An IPv4 or IPv6 address. -/
inductive IpAddress where
  | v4 (ip : Ipv4)
  | v6 (ip : Ipv6)
deriving DecidableEq, Repr, Inhabited

def IpAddress.text : IpAddress → String
  | .v4 ip => ip.text
  | .v6 ip => ip.text

/-- Where a listener is bound or a peer is dialed. -/
inductive SocketAddress where
  | v4 (ip : Ipv4) (port : UInt16)
  | v6 (ip : Ipv6) (port : UInt16) (scope : UInt32)
deriving DecidableEq, Repr, Inhabited

namespace SocketAddress

def port : SocketAddress → UInt16
  | .v4 _ port => port
  | .v6 _ port _ => port

/-- The same address with another port. -/
def withPort (address : SocketAddress) (port : UInt16) : SocketAddress :=
  match address with
  | .v4 ip _ => .v4 ip port
  | .v6 ip _ scope => .v6 ip port scope

def ip : SocketAddress → IpAddress
  | .v4 ip _ => .v4 ip
  | .v6 ip _ _ => .v6 ip

/-- An IP address with a port and no scope. -/
def ofIp (ip : IpAddress) (port : UInt16) : SocketAddress :=
  match ip with
  | .v4 ip => .v4 ip port
  | .v6 ip => .v6 ip port 0

/-- Text of a socket address, as in `10.0.0.1:80`, `[::1]:80` and `[fe80::1%3]:80`. -/
def text : SocketAddress → String
  | .v4 ip port => ip.text ++ ":" ++ toString port.toNat
  | .v6 ip port scope =>
    let inside := if scope = 0 then ip.text else ip.text ++ "%" ++ toString scope.toNat
    "[" ++ inside ++ "]:" ++ toString port.toNat

/-- The port that must end a text. -/
def portAtEnd? (text : List Char) : Option UInt16 := do
  match Address.NumberForm.port.read? (← Address.expect? ':' text) with
  | some (port, []) => some (UInt16.ofNat port)
  | _ => none

/-- The scope in front of the closing bracket, zero if none is named, and what follows. -/
def scopeAt (text : List Char) : Nat × List Char :=
  match (Address.expect? '%' text).bind Address.NumberForm.scope.read? with
  | some found => found
  | none => (0, text)

/-- The socket address that a whole text writes. -/
def parseChars? (text : List Char) : Option SocketAddress :=
  (do let (ip, rest) ← Ipv4.read? text
      return .v4 ip (← portAtEnd? rest))
  <|>
  (do let (ip, rest) ← Ipv6.read? (← Address.expect? '[' text)
      let (scope, rest) := scopeAt rest
      return .v6 ip (← portAtEnd? (← Address.expect? ']' rest)) (UInt32.ofNat scope))

/-- The socket address that a whole text writes. -/
def parse? (text : String) : Option SocketAddress := parseChars? text.toList

/-- What is reported of a text that writes no socket address. -/
def syntaxComplaint : String := "invalid socket address syntax"

end SocketAddress

end RdmaLink
