import RdmaLink.Toml.Scalar

/-!
# Quoted texts

A text stands in double quotes, with escapes, or in single quotes, as it is; in three quotes of a
kind it may have several lines.  `quote` writes a text in double quotes.
-/

namespace RdmaLink.Toml

/-- Whether a character may stand in a text or a comment as it is: a tab, or no control
character. -/
def isPlain (c : Char) : Bool := c = '\t' || (0x20 ≤ c.toNat && c.toNat ≠ 0x7f)

/-- What follows a line break. -/
def newline? : List Char → Option (List Char)
  | '\n' :: rest => some rest
  | '\r' :: '\n' :: rest => some rest
  | _ => none

/-- A scalar value in exactly `count` hexadecimal digits, and what follows. -/
def codePoint? (count : Nat) (text : List Char) : Option (Char × List Char) :=
  let front := text.take count
  match front.mapM (digit? 16) with
  | some digits =>
    let n := numberOf 16 digits
    if front.length = count ∧ n.isValidChar then some (Char.ofNat n, text.drop count) else none
  | none => none

/-- The character that an escape stands for, behind its backslash, and what follows. -/
def escape? : List Char → Option (Char × List Char)
  | 'b' :: rest => some ('\x08', rest)
  | 't' :: rest => some ('\t', rest)
  | 'n' :: rest => some ('\n', rest)
  | 'f' :: rest => some ('\x0c', rest)
  | 'r' :: rest => some ('\r', rest)
  | 'e' :: rest => some ('\x1b', rest)
  | '"' :: rest => some ('"', rest)
  | '\\' :: rest => some ('\\', rest)
  | 'x' :: rest => codePoint? 2 rest
  | 'u' :: rest => codePoint? 4 rest
  | 'U' :: rest => codePoint? 8 rest
  | _ => none

/-- A text in double quotes, behind the opening quote. -/
def basic? (fuel : Nat) (text : List Char) : Option (List Char × List Char) :=
  match fuel, text with
  | fuel + 1, c :: rest =>
    if c = '"' then some ([], rest)
    else if c = '\\' then
      match escape? rest with
      | some (e, rest) => (basic? fuel rest).map fun (cs, rest) => (e :: cs, rest)
      | none => none
    else if isPlain c then (basic? fuel rest).map fun (cs, rest) => (c :: cs, rest)
    else none
  | _, _ => none

/-- A text in single quotes, behind the opening quote. -/
def literal? : List Char → Option (List Char × List Char)
  | [] => none
  | c :: rest =>
    if c = '\'' then some ([], rest)
    else if isPlain c then (literal? rest).map fun (cs, rest) => (c :: cs, rest)
    else none

/-- How a run of quotes goes on: fewer than three are text; of more, three end the text and up
to two in front of them belong to it. -/
def closing? (quote : Char) (text : List Char) : Option (List Char × List Char) :=
  let run := (text.takeWhile (· = quote)).length
  if run < 3 then none
  else
    let kept := min (run - 3) 2
    some (List.replicate kept quote, text.drop (kept + 3))

/-- What follows a backslash at the end of a line: the line breaks and blanks after it are left
out. -/
def continuation? (text : List Char) : Option (List Char) :=
  (newline? (text.dropWhile fun c => c = ' ' || c = '\t')).map fun rest =>
    skip rest.length rest
where
  /-- Leaves out blanks and line breaks. -/
  skip : Nat → List Char → List Char
    | 0, text => text
    | fuel + 1, text =>
      match text with
      | ' ' :: rest | '\t' :: rest => skip fuel rest
      | _ =>
        match newline? text with
        | some rest => skip fuel rest
        | none => text

/-- A text of several lines, behind the opening quotes and the line break after them. -/
def lines? (quote : Char) (escapes : Bool) (fuel : Nat) (text : List Char) :
    Option (List Char × List Char) :=
  match fuel, text with
  | fuel + 1, c :: rest =>
    if c = quote then
      match closing? quote text with
      | some found => some found
      | none => (lines? quote escapes fuel rest).map fun (cs, rest) => (c :: cs, rest)
    else if escapes && c = '\\' then
      match continuation? rest with
      | some rest => lines? quote escapes fuel rest
      | none =>
        match escape? rest with
        | some (e, rest) => (lines? quote escapes fuel rest).map fun (cs, rest) => (e :: cs, rest)
        | none => none
    else if c = '\r' then
      match newline? text with
      | some rest =>
        (lines? quote escapes fuel rest).map fun (cs, rest) => ('\r' :: '\n' :: cs, rest)
      | none => none
    else if c = '\n' || isPlain c then
      (lines? quote escapes fuel rest).map fun (cs, rest) => (c :: cs, rest)
    else none
  | _, _ => none

/-- The text without a line break at its front. -/
def withoutNewline (text : List Char) : List Char := (newline? text).getD text

/-- A quoted text of one line, and what follows it. -/
def quotedLine? (text : List Char) : Option (String × List Char) :=
  match text with
  | '"' :: rest => (basic? text.length rest).map fun (cs, rest) => (String.ofList cs, rest)
  | '\'' :: rest => (literal? rest).map fun (cs, rest) => (String.ofList cs, rest)
  | _ => none

/-- A quoted text of any kind, and what follows it. -/
def quoted? (text : List Char) : Option (String × List Char) :=
  let found := match text with
    | '"' :: '"' :: '"' :: rest => lines? '"' true text.length (withoutNewline rest)
    | '\'' :: '\'' :: '\'' :: rest => lines? '\'' false text.length (withoutNewline rest)
    | '"' :: rest => basic? text.length rest
    | '\'' :: rest => literal? rest
    | _ => none
  found.map fun (cs, rest) => (String.ofList cs, rest)

/-- A character as it is written between double quotes. -/
def escaped (c : Char) : List Char :=
  if c = '"' then ['\\', '"']
  else if c = '\\' then ['\\', '\\']
  else if isPlain c then [c]
  else
    let digits := Nat.toDigits 16 c.toNat
    '\\' :: 'u' :: List.replicate (4 - digits.length) '0' ++ digits

/-- A text in double quotes. -/
def quote (text : String) : String :=
  String.ofList ('"' :: text.toList.flatMap escaped ++ ['"'])

end RdmaLink.Toml
