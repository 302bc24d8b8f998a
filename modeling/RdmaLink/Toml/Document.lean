import RdmaLink.Toml.Quoted
import RdmaLink.Toml.Tables

/-!
# TOML documents

A document is read line by line: a header opens a table, a key with a value adds to the table
that was opened last.  Arrays and tables in braces may spread over lines, hold comments and end
in a comma.

Each reader gives what it read and the text after it.  Where a reader calls itself on the rest of
a text, its first argument bounds the calls; a multiple of the length of the text is enough.
-/

namespace RdmaLink.Toml

/-- Brackets and braces may be nested this deep. -/
def maxDepth : Nat := 80

/-! ## Blanks and comments -/

/-- What follows blanks within a line. -/
def skipSpace (text : List Char) : List Char := text.dropWhile fun c => c = ' ' || c = '\t'

/-- What follows a comment, up to the line break. -/
def comment? (text : List Char) : Option (List Char) :=
  let rest := text.dropWhile isPlain
  if rest.isEmpty ∨ (newline? rest).isSome then some rest else none

/-- What follows the end of a line, with a comment if there is one. -/
def endOfLine? (text : List Char) : Option (List Char) :=
  let rest := match skipSpace text with
    | '#' :: rest => comment? rest
    | rest => some rest
  match rest with
  | some [] => some []
  | some rest => newline? rest
  | none => none

/-- What follows blanks, line breaks and comments. -/
def skipLines? : Nat → List Char → Option (List Char)
  | 0, text => some text
  | fuel + 1, text =>
    let text := skipSpace text
    match newline? text with
    | some rest => skipLines? fuel rest
    | none =>
      match text with
      | '#' :: rest => (comment? rest).bind (skipLines? fuel)
      | _ => some text

/-! ## Keys -/

/-- Whether a character may stand in a key without quotes. -/
def isBare (c : Char) : Bool := c.isAlphanum || c = '_' || c = '-'

/-- One part of a key. -/
def keyPart? (text : List Char) : Option (String × List Char) :=
  let bare := text.takeWhile isBare
  if bare.isEmpty then quotedLine? text
  else some (String.ofList bare, text.drop bare.length)

/-- A key: parts with dots between them, the last one apart. -/
def key? : Nat → List Char → Option (List String × String × List Char)
  | 0, _ => none
  | fuel + 1, text =>
    match keyPart? text with
    | none => none
    | some (part, rest) =>
      match skipSpace rest with
      | '.' :: more =>
        (key? fuel (skipSpace more)).map fun (path, last, rest) => (part :: path, last, rest)
      | _ => some ([], part, rest)

/-- A key and the equals sign after it, with the blanks around both. -/
def keyEquals? (text : List Char) : Option (List String × String × List Char) :=
  match key? text.length text with
  | some (path, last, rest) =>
    match skipSpace rest with
    | '=' :: rest => some (path, last, skipSpace rest)
    | _ => none
  | none => none

/-! ## Values -/

/-- Whether a character ends a value without quotes. -/
def endsScalar (c : Char) : Bool := ",]\x7d#= \t\n\r[\x7b\"'".contains c

/-- A value without quotes.  A date and a time may have one blank between them. -/
def bareValue? (text : List Char) : Option (Value × List Char) :=
  let front := text.takeWhile fun c => !endsScalar c
  let rest := text.drop front.length
  match date? front, rest with
  | some [], ' ' :: more =>
    let time := more.takeWhile fun c => !endsScalar c
    if (time.head?.map Char.isDigit).getD false then
      (scalar? (front ++ ' ' :: time)).map fun v => (v, more.drop time.length)
    else (scalar? front).map fun v => (v, rest)
  | _, _ => (scalar? front).map fun v => (v, rest)

mutual

/-- A value of any kind; `depth` brackets may still be opened. -/
def value? (fuel depth : Nat) (text : List Char) : Option (Value × List Char) :=
  match fuel with
  | 0 => none
  | fuel + 1 =>
    match text with
    | '[' :: rest =>
      if depth = 0 then none
      else (items? fuel (depth - 1) rest).map fun (vs, rest) => (.array .inline vs, rest)
    | '{' :: rest =>
      if depth = 0 then none
      else (pairs? fuel (depth - 1) [] rest).map fun (es, rest) => (.table .inline es, rest)
    | '"' :: _ | '\'' :: _ => (quoted? text).map fun (s, rest) => (.string s, rest)
    | _ => bareValue? text

/-- The items of an array, behind its bracket or a comma. -/
def items? (fuel depth : Nat) (text : List Char) : Option (List Value × List Char) :=
  match fuel with
  | 0 => none
  | fuel + 1 =>
    match skipLines? text.length text with
    | none => none
    | some (']' :: rest) => some ([], rest)
    | some text =>
      match value? fuel depth text with
      | none => none
      | some (value, rest) =>
        match skipLines? rest.length rest with
        | some (',' :: rest) =>
          (items? fuel depth rest).map fun (vs, rest) => (value :: vs, rest)
        | some (']' :: rest) => some ([value], rest)
        | _ => none

/-- The keys and values of a table in braces, behind its brace or a comma. -/
def pairs? (fuel depth : Nat) (entries : Entries) (text : List Char) :
    Option (Entries × List Char) :=
  match fuel with
  | 0 => none
  | fuel + 1 =>
    match skipLines? text.length text with
    | none => none
    | some ('}' :: rest) => some (entries, rest)
    | some text =>
      match keyEquals? text with
      | none => none
      | some (path, key, rest) =>
        match value? fuel depth rest with
        | none => none
        | some (value, rest) =>
          match assign path key value .inline entries with
          | none => none
          | some (_, entries) =>
            match skipLines? rest.length rest with
            | some (',' :: rest) => pairs? fuel depth entries rest
            | some ('}' :: rest) => some (entries, rest)
            | _ => none

end

/-! ## Lines -/

/-- The path of a header, behind its opening brackets, and what follows the closing ones. -/
def header? (closing : List Char) (text : List Char) :
    Option (List String × String × List Char) :=
  match key? text.length (skipSpace text) with
  | some (path, last, rest) =>
    let rest := skipSpace rest
    if rest.take closing.length = closing then
      (endOfLine? (rest.drop closing.length)).map fun rest => (path, last, rest)
    else none
  | none => none

/-- Reads the lines of a document.  `header` is the path of the table that was opened last. -/
def readLines? : Nat → (header : List String) → Entries → List Char → Option Entries
  | 0, _, _, _ => none
  | fuel + 1, header, document, text =>
    let text := skipSpace text
    match text with
    | [] => some document
    | '[' :: '[' :: rest =>
      match header? [']', ']'] rest with
      | none => none
      | some (path, key, rest) =>
        (openElement path key document).bind fun document =>
          readLines? fuel (path ++ [key]) document rest
    | '[' :: rest =>
      match header? [']'] rest with
      | none => none
      | some (path, key, rest) =>
        (openTable path key document).bind fun document =>
          readLines? fuel (path ++ [key]) document rest
    | '#' :: _ | '\n' :: _ | '\r' :: _ =>
      (endOfLine? text).bind (readLines? fuel header document)
    | _ =>
      match keyEquals? text with
      | none => none
      | some (path, key, rest) =>
        match value? (2 * rest.length + 2) maxDepth rest with
        | none => none
        | some (value, rest) =>
          match endOfLine? rest with
          | none => none
          | some rest =>
            (assignBelow header path key value document).bind fun document =>
              readLines? fuel header document rest

/-- The table that a whole document writes; a byte order mark in front is left out. -/
def parse? (text : String) : Option Entries :=
  let text := match text.toList with
    | '\ufeff' :: rest => rest
    | text => text
  readLines? (text.length + 1) [] [] text

end RdmaLink.Toml
