import RdmaLink.Bytes

/-!
# UTF-8 with gaps

Bytes that come from elsewhere need not be UTF-8.  `Utf8.text` reads them all the same: what is a
character stays one, and the longest piece that only begins a character becomes a replacement
mark.  Every byte is read once, in order.
-/

namespace RdmaLink.Utf8

/-- What the first byte of a character asks for: the count of bytes after it, and the least and
the greatest second byte. -/
def expected? (first : UInt8) : Option (Nat × UInt8 × UInt8) :=
  if first < 0x80 then some (0, 0x80, 0xbf)
  else if first < 0xc2 then none
  else if first < 0xe0 then some (1, 0x80, 0xbf)
  else if first = 0xe0 then some (2, 0xa0, 0xbf)
  else if first = 0xed then some (2, 0x80, 0x9f)
  else if first < 0xf0 then some (2, 0x80, 0xbf)
  else if first = 0xf0 then some (3, 0x90, 0xbf)
  else if first < 0xf4 then some (3, 0x80, 0xbf)
  else if first = 0xf4 then some (3, 0x80, 0x8f)
  else none

/-- The bytes that carry a character on, as far as they go. -/
def carried (more : Nat) (least greatest : UInt8) : Bytes → Bytes
  | [] => []
  | second :: rest =>
    if more = 0 ∨ second < least ∨ greatest < second then []
    else second :: (rest.take (more - 1)).takeWhile fun b => 0x80 ≤ b ∧ b ≤ 0xbf

/-- The character of a first byte and all bytes that carry it on. -/
def assemble (first : UInt8) (tail : Bytes) : Char :=
  let lead := if tail.isEmpty then first.toNat else first.toNat % Nat.pow 2 (6 - tail.length)
  Char.ofNat (tail.foldl (fun n b => n * 64 + b.toNat % 64) lead)

/-- The mark for bytes that are no character. -/
def replacement : Char := '\ufffd'

/-- The characters of a byte string, with a mark in the place of each gap. -/
def characters : Bytes → List Char
  | [] => []
  | first :: rest =>
    match expected? first with
    | none => replacement :: characters rest
    | some (more, least, greatest) =>
      let tail := carried more least greatest rest
      let c := if tail.length = more then assemble first tail else replacement
      c :: characters (rest.drop tail.length)
termination_by bytes => bytes.length
decreasing_by all_goals simp only [List.length_cons, List.length_drop]; omega

/-- A byte string as text, whatever it holds. -/
def text (bytes : Bytes) : String := String.ofList (characters bytes)

end RdmaLink.Utf8
