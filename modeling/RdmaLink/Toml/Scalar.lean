import RdmaLink.Toml.Value

/-!
# Numbers, dates and booleans

A value without quotes or brackets is one run of characters, which is read as a boolean, an
integer, a float, or a date or time.
-/

namespace RdmaLink.Toml

/-! ## Digits -/

/-- The value of a digit in a base up to sixteen. -/
def digit? (base : Nat) (c : Char) : Option Nat :=
  let value :=
    if c.isDigit then some (c.toNat - '0'.toNat)
    else if 'a' ≤ c ∧ c ≤ 'f' then some (c.toNat - 'a'.toNat + 10)
    else if 'A' ≤ c ∧ c ≤ 'F' then some (c.toNat - 'A'.toNat + 10)
    else none
  value.filter (· < base)

/-- The digits of a run in which every underscore stands between two digits. -/
def digits? (base : Nat) (text : List Char) : Option (List Nat) :=
  let rec go (afterDigit : Bool) : List Char → Option (List Nat)
    | [] => if afterDigit then some [] else none
    | c :: rest =>
      if c = '_' then
        if afterDigit then go false rest else none
      else
        match digit? base c with
        | some d => (go true rest).map (d :: ·)
        | none => none
  go false text

/-- The number that digits write in a base. -/
def numberOf (base : Nat) (digits : List Nat) : Nat := digits.foldl (fun n d => n * base + d) 0

/-- A decimal number without leading zeros. -/
def decimal? (text : List Char) : Option Nat :=
  match digits? 10 text with
  | some [d] => some d
  | some (0 :: _) => none
  | some digits => some (numberOf 10 digits)
  | none => none

/-- The sign at the front of a text and what follows it. -/
def signed (text : List Char) : Bool × List Char :=
  match text with
  | '-' :: rest => (true, rest)
  | '+' :: rest => (false, rest)
  | _ => (false, text)

/-! ## Integers -/

/-- An integer: decimal with an optional sign, or a base mark and digits of that base. -/
def integer? (text : List Char) : Option Int :=
  match text with
  | '0' :: 'x' :: rest => (digits? 16 rest).map fun ds => Int.ofNat (numberOf 16 ds)
  | '0' :: 'o' :: rest => (digits? 8 rest).map fun ds => Int.ofNat (numberOf 8 ds)
  | '0' :: 'b' :: rest => (digits? 2 rest).map fun ds => Int.ofNat (numberOf 2 ds)
  | _ =>
    let (negative, rest) := signed text
    (decimal? rest).map fun n => if negative then -Int.ofNat n else Int.ofNat n

/-! ## Floats -/

/-- Whether `mantissa * 10 ^ exponent` rounds to a finite double: it lies below the middle
between the greatest double and `2 ^ 1024`. -/
def finiteDouble (mantissa : Nat) (exponent : Int) : Bool :=
  let places := (Nat.toDigits 10 mantissa).length
  if mantissa = 0 ∨ Int.ofNat places + exponent < 300 then true
  else if 320 < Int.ofNat places + exponent then false
  else
    let bound := 2 ^ 1024 - 2 ^ 970
    if 0 ≤ exponent then decide (mantissa * Nat.pow 10 exponent.toNat < bound)
    else decide (mantissa < bound * Nat.pow 10 (-exponent).toNat)

/-- The exponent behind `e`: digits with an optional sign. -/
def exponent? (text : List Char) : Option Int :=
  let (negative, rest) := signed text
  (digits? 10 rest).map fun ds =>
    if negative then -Int.ofNat (numberOf 10 ds) else Int.ofNat (numberOf 10 ds)

/-- Splits a text at the first character of a kind. -/
def cutAt (stop : Char → Bool) (text : List Char) : List Char × Option (List Char) :=
  let front := text.takeWhile fun c => !stop c
  match text.drop front.length with
  | [] => (front, none)
  | _ :: rest => (front, some rest)

/-- A float: a whole part, then a fraction or an exponent or both; or `inf` or `nan`. -/
def float? (text : List Char) : Option Value :=
  let rest := (signed text).2
  if rest = ['i', 'n', 'f'] ∨ rest = ['n', 'a', 'n'] then some (.float true)
  else
    let (base, power) := cutAt (fun c => c = 'e' ∨ c = 'E') rest
    let (whole, fraction) := cutAt (· = '.') base
    let exponent := match power with
      | some p => exponent? p
      | none => some 0
    let places := match fraction with
      | some f => digits? 10 f
      | none => some []
    if power.isNone ∧ fraction.isNone then none
    else
      match decimal? whole, places, exponent with
      | some w, some ds, some e =>
        some (.float (finiteDouble (w * Nat.pow 10 ds.length + numberOf 10 ds) (e - ds.length)))
      | _, _, _ => none

/-! ## Dates and times -/

/-- A number of exactly `count` digits at the front of a text. -/
def fixed? (count : Nat) (text : List Char) : Option (Nat × List Char) :=
  let front := text.take count
  if front.length = count ∧ front.all Char.isDigit then
    some (front.foldl (fun n c => n * 10 + (c.toNat - '0'.toNat)) 0, text.drop count)
  else none

/-- What follows a wanted character. -/
def after? (wanted : Char → Bool) : List Char → Option (List Char)
  | c :: rest => if wanted c then some rest else none
  | [] => none

/-- Days of a month. -/
def daysIn (year month : Nat) : Nat :=
  if month = 2 then
    if (year % 4 = 0 ∧ year % 100 ≠ 0) ∨ year % 400 = 0 then 29 else 28
  else if month = 4 ∨ month = 6 ∨ month = 9 ∨ month = 11 then 30
  else 31

/-- What follows a date `year-month-day`. -/
def date? (text : List Char) : Option (List Char) := do
  let (year, rest) ← fixed? 4 text
  let (month, rest) ← fixed? 2 (← after? (· = '-') rest)
  let (day, rest) ← fixed? 2 (← after? (· = '-') rest)
  if 1 ≤ month ∧ month ≤ 12 ∧ 1 ≤ day ∧ day ≤ daysIn year month then some rest else none

/-- What follows a time `hour:minute`, with seconds and a fraction of them if there are any. -/
def time? (text : List Char) : Option (List Char) := do
  let (hour, rest) ← fixed? 2 text
  let (minute, rest) ← fixed? 2 (← after? (· = ':') rest)
  if 23 < hour ∨ 59 < minute then none
  else
    match rest with
    | ':' :: more =>
      let (second, rest) ← fixed? 2 more
      if 60 < second then none
      else
        match rest with
        | '.' :: more =>
          let fraction := more.takeWhile Char.isDigit
          if fraction.isEmpty then none else some (more.drop fraction.length)
        | _ => some rest
    | _ => some rest

/-- Whether a whole text is an offset from universal time, or nothing. -/
def isOffset (text : List Char) : Bool :=
  match text with
  | [] => true
  | ['Z'] | ['z'] => true
  | sign :: rest =>
    (sign = '+' ∨ sign = '-') &&
    match fixed? 2 rest with
    | some (hour, ':' :: more) =>
      match fixed? 2 more with
      | some (minute, []) => hour ≤ 23 && minute ≤ 59
      | _ => false
    | _ => false

/-- Whether a whole text is a date, a time, or both with an optional offset. -/
def isDatetime (text : List Char) : Bool :=
  match date? text with
  | some [] => true
  | some (mark :: rest) =>
    (mark = 'T' ∨ mark = 't' ∨ mark = ' ') &&
      match time? rest with
      | some offset => isOffset offset
      | none => false
  | none => time? text == some []

/-! ## All together -/

/-- The value that a run of characters without quotes writes. -/
def scalar? (text : List Char) : Option Value :=
  if text = "true".toList then some (.boolean true)
  else if text = "false".toList then some (.boolean false)
  else
    match integer? text with
    | some n => some (.integer n)
    | none =>
      match float? text with
      | some value => some value
      | none => if isDatetime text then some (.datetime (String.ofList text)) else none

end RdmaLink.Toml
