import RdmaLink.Hexadecimal

/-!
# Numbers inside addresses

The parts of an address are unsigned numbers that stand directly before something else, so a
reader takes the longest run of digits and gives back what follows.  Each part bounds its value,
and some bound the count of digits and refuse a leading zero.
-/

namespace RdmaLink.Address

/-- The value of a digit in a base up to sixteen. -/
def digitValue? (base : Nat) (c : Char) : Option Nat :=
  (Hexadecimal.value? c).filter (· < base)

/-- How a number inside an address is written. -/
structure NumberForm where
  base : Nat
  /-- The greatest count of digits, if there is one. -/
  maxDigits : Option Nat
  /-- Whether a number of several digits may start with zero. -/
  leadingZeros : Bool
  /-- The number must stay below this. -/
  bound : Nat

/-- A part of an IPv4 address: up to three digits, no leading zero, below 256. -/
def NumberForm.octet : NumberForm := ⟨10, some 3, false, 256⟩

/-- A group of an IPv6 address: up to four hexadecimal digits. -/
def NumberForm.group : NumberForm := ⟨16, some 4, true, 65536⟩

/-- A port: decimal, below 65536, leading zeros allowed. -/
def NumberForm.port : NumberForm := ⟨10, none, true, 65536⟩

/-- A scope: decimal, below 2 ^ 32, leading zeros allowed. -/
def NumberForm.scope : NumberForm := ⟨10, none, true, 4294967296⟩

/-- The number at the front of a text and what follows it. -/
def NumberForm.read? (form : NumberForm) (text : List Char) : Option (Nat × List Char) :=
  let digits := text.takeWhile fun c => (digitValue? form.base c).isSome
  let value := digits.foldl (fun n c => n * form.base + (digitValue? form.base c).getD 0) 0
  let zeroLed := digits.length > 1 && digits.head? == some '0'
  let tooLong := match form.maxDigits with
    | some most => digits.length > most
    | none => false
  if digits.isEmpty || tooLong || (zeroLed && !form.leadingZeros) || form.bound ≤ value then none
  else some (value, text.drop digits.length)

/-- What follows a wanted character at the front of a text. -/
def expect? (wanted : Char) : List Char → Option (List Char)
  | c :: rest => if c = wanted then some rest else none
  | [] => none

end RdmaLink.Address
