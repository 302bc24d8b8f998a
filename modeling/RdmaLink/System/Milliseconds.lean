/-!
# Spans of time

Time limits are whole milliseconds.  `Milliseconds.text` prints one in the largest unit that
gives a whole part: seconds from one second on, with the fraction's trailing zeros left out.

A wait computes the moment at which it ends before it begins.  The clock counts `2 ^ 63` seconds, so
a span that leads past its last moment ends the caller; no span of fewer than `2 ^ 64` milliseconds
comes near that.
-/

namespace RdmaLink

/-- A span of time in whole milliseconds. -/
structure Milliseconds where
  count : Nat
deriving DecidableEq, Repr, Inhabited

namespace Milliseconds

/-- The fraction of a second that `n` thousandths make, without trailing zeros. -/
def fraction (n : Nat) : String :=
  if n % 1000 = 0 then ""
  else if n % 100 = 0 then "." ++ toString (n / 100)
  else if n % 10 = 0 then "." ++ padded 2 (n / 10)
  else "." ++ padded 3 n
where
  /-- A number with zeros in front up to a width. -/
  padded (width n : Nat) : String :=
    let digits := toString n
    "".pushn '0' (width - digits.length) ++ digits

/-- A span as text: `0ns`, `15ms`, `1s`, `1.5s`. -/
def text (span : Milliseconds) : String :=
  if span.count = 0 then "0ns"
  else if span.count < 1000 then toString span.count ++ "ms"
  else toString (span.count / 1000) ++ fraction (span.count % 1000) ++ "s"

/-- The clock has no name for the end of a span that begins when it has run for `uptime`
nanoseconds. -/
def outlasts (span : Milliseconds) (uptime : Nat) : Bool :=
  2 ^ 63 * 10 ^ 9 ≤ uptime + span.count * 10 ^ 6

/-- What a caller is told that asks for such a span. -/
def outlastsMessage : String := "overflow when adding duration to instant"

end Milliseconds

end RdmaLink
