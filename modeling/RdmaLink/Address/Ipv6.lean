import RdmaLink.Hexadecimal
import RdmaLink.Address.Ipv4

/-!
# IPv6 addresses

An address is one 128-bit word.  Its text is eight groups in hexadecimal; the first of the
longest runs of two or more zero groups is left out and marked `::`, and an address that carries
an IPv4 address shows it dotted, as in `::ffff:10.0.0.1`.
-/

namespace RdmaLink

/-- An IPv6 address as its 128-bit word. -/
structure Ipv6 where
  word : BitVec 128
deriving DecidableEq, Repr, Inhabited

namespace Ipv6

/-- The eight 16-bit groups, most significant first. -/
def groups (ip : Ipv6) : List Nat :=
  Fields.split (List.replicate 8 2) (BigEndian.encode 16 ip.word.toNat)

/-- The address of eight groups. -/
def ofGroups (groups : List Nat) : Ipv6 :=
  ⟨BitVec.ofNat 128 (groups.foldl (fun n g => n * 65536 + g) 0)⟩

/-- The address that carries an IPv4 address, `::ffff:a.b.c.d`. -/
def ofIpv4 (ip : Ipv4) : Ipv6 := ⟨BitVec.ofNat 128 (0xffff * 2 ^ 32 + ip.word.toNat)⟩

/-- The IPv4 address that an address carries. -/
def toIpv4? (ip : Ipv6) : Option Ipv4 :=
  if ip.word.toNat / 2 ^ 32 = 0xffff then some ⟨UInt32.ofNat ip.word.toNat⟩ else none

/-! ## Text -/

/-- Length of the run of zero groups at the front. -/
def zeroRun (groups : List Nat) : Nat := (groups.takeWhile (· == 0)).length

/-- Start and length of the first of the longest runs of zero groups. -/
def longestZeroRun (groups : List Nat) : Nat × Nat :=
  (List.range groups.length).foldl (fun best start =>
    let length := zeroRun (groups.drop start)
    if best.2 < length then (start, length) else best) (0, 0)

/-- Groups in hexadecimal with colons between them. -/
def joined (groups : List Nat) : String := ":".intercalate (groups.map Hexadecimal.digits)

/-- An address as text. -/
def text (ip : Ipv6) : String :=
  match ip.toIpv4? with
  | some v4 => "::ffff:" ++ v4.text
  | none =>
    let (start, length) := longestZeroRun ip.groups
    if 1 < length then
      joined (ip.groups.take start) ++ "::" ++ joined (ip.groups.drop (start + length))
    else joined ip.groups

/-! ## Reading -/

/-- What was read of a run of groups: the groups, whether a dotted address ended it, and what
follows. -/
structure GroupRun where
  groups : List Nat
  dotted : Bool
  rest : List Char

/-- What follows the colon that parts a group from the one before it. -/
def afterColon? (first : Bool) (text : List Char) : Option (List Char) :=
  if first then some text else Address.expect? ':' text

/-- Up to `room` groups; where two or more places are left, a dotted IPv4 address may fill the
last two. -/
def readGroups (first : Bool) : (room : Nat) → List Char → GroupRun
  | 0, text => ⟨[], false, text⟩
  | room + 1, text =>
    match if 0 < room then (afterColon? first text).bind Ipv4.read? else none with
    | some (v4, rest) => ⟨[v4.word.toNat / 65536, v4.word.toNat % 65536], true, rest⟩
    | none =>
      match (afterColon? first text).bind Address.NumberForm.group.read? with
      | some (g, rest) =>
        let more := readGroups false room rest
        { more with groups := g :: more.groups }
      | none => ⟨[], false, text⟩

/-- The address at the front of a text and what follows it. -/
def read? (text : List Char) : Option (Ipv6 × List Char) :=
  let head := readGroups true 8 text
  if head.groups.length = 8 then some (ofGroups head.groups, head.rest)
  else if head.dotted then none
  else do
    let rest ← Address.expect? ':' (← Address.expect? ':' head.rest)
    let tail := readGroups true (8 - (head.groups.length + 1)) rest
    let zeros := List.replicate (8 - head.groups.length - tail.groups.length) 0
    return (ofGroups (head.groups ++ zeros ++ tail.groups), tail.rest)

end Ipv6

end RdmaLink
