/-!
# Hexadecimal text

Lower-case hexadecimal, as keys, addresses and IPv6 groups are printed, and the forms of a byte
string with two digits a byte.  Digits of either case are read.
-/

namespace RdmaLink.Hexadecimal

/-- The lower-case hexadecimal digits of a number, without leading zeros. -/
def digits (n : Nat) : String := String.ofList (Nat.toDigits 16 n)

/-- A number in hexadecimal behind the mark `0x`. -/
def marked (n : Nat) : String := "0x" ++ digits n

/-- A byte as exactly two digits. -/
def ofByte (b : UInt8) : String :=
  if b < 16 then "0" ++ digits b.toNat else digits b.toNat

/-- A byte string without anything between its bytes. -/
def ofBytes (bytes : List UInt8) : String := String.join (bytes.map ofByte)

/-- The value of a digit; letters of either case count from ten. -/
def value? (c : Char) : Option Nat :=
  if c.isDigit then some (c.toNat - '0'.toNat)
  else if 'a' ≤ c ∧ c ≤ 'f' then some (c.toNat - 'a'.toNat + 10)
  else if 'A' ≤ c ∧ c ≤ 'F' then some (c.toNat - 'A'.toNat + 10)
  else none

/-- The bytes that a run of digits writes, two digits a byte. -/
def bytes? : List Char → Option (List UInt8)
  | [] => some []
  | [_] => none
  | high :: low :: rest => do
    let high ← value? high
    let low ← value? low
    return UInt8.ofNat (high * 16 + low) :: (← bytes? rest)

/-- A byte string as a bracketed list of two-digit bytes, as in `[52, 44]`. -/
def listing (bytes : List UInt8) : String :=
  "[" ++ ", ".intercalate (bytes.map ofByte) ++ "]"

end RdmaLink.Hexadecimal
