import RdmaLink.Toml.Value

/-!
# Building tables

Each line of a document adds to a table that is found by a path of keys.  A path leads through
tables, makes those that are missing, and enters an array of tables at its last element.  Values
and tables in braces are closed to later lines; a key is given once.
-/

namespace RdmaLink.Toml

/-- The entry of a key. -/
def Entries.find? (entries : Entries) (key : String) : Option Value := entries.lookup key

/-- The entries with a value in the place of a key's, or after all others. -/
def Entries.set (entries : Entries) (key : String) (value : Value) : Entries :=
  if (entries.lookup key).isSome then
    entries.map fun entry => if entry.1 == key then (key, value) else entry
  else entries ++ [(key, value)]

/-- Changes the table at the end of a path, which starts at a table.  `dotted` tells whether the
path is the front of a dotted key or of a header; `change` gets the origin and the entries of the
table that was reached. -/
def changeAt (dotted : Bool) (change : TableOrigin → Entries → Option (TableOrigin × Entries)) :
    List String → TableOrigin → Entries → Option (TableOrigin × Entries)
  | [], origin, entries => change origin entries
  | key :: path, origin, entries =>
    match entries.find? key with
    | none =>
      let made := if dotted then TableOrigin.dotted else TableOrigin.implied
      (changeAt dotted change path made []).map fun (o, es) =>
        (origin, entries.set key (.table o es))
    | some (.table found inner) =>
      if found = .inline ∨ (dotted ∧ found = .header) then none
      else
        (changeAt dotted change path found inner).map fun (o, es) =>
          (origin, entries.set key (.table o es))
    | some (.array .headers items) =>
      match items.getLast? with
      | some (.table found inner) =>
        (changeAt dotted change path found inner).map fun (o, es) =>
          (origin, entries.set key (.array .headers (items.dropLast ++ [.table o es])))
      | _ => none
    | some _ => none

/-- Gives a key a value below a table; the keys in front of the last one lead through tables that
were made by dotted keys only. -/
def assign (path : List String) (key : String) (value : Value) (origin : TableOrigin)
    (entries : Entries) : Option (TableOrigin × Entries) :=
  changeAt true (fun origin entries =>
    if (origin == .dotted) == path.isEmpty then none
    else if (entries.find? key).isSome then none
    else some (origin, entries.set key value)) path origin entries

/-- Opens the table of a header: a fresh one, or one that was only implied so far. -/
def openTable (path : List String) (key : String) (document : Entries) : Option Entries :=
  (changeAt false (fun origin entries =>
    match entries.find? key with
    | none => some (origin, entries.set key (.table .header []))
    | some (.table .implied inner) => some (origin, entries.set key (.table .header inner))
    | some _ => none) path .header document).map Prod.snd

/-- Opens a further element of an array of tables. -/
def openElement (path : List String) (key : String) (document : Entries) : Option Entries :=
  (changeAt false (fun origin entries =>
    match entries.find? key with
    | none => some (origin, entries.set key (.array .headers [.table .header []]))
    | some (.array .headers items) =>
      some (origin, entries.set key (.array .headers (items ++ [.table .header []])))
    | some _ => none) path .header document).map Prod.snd

/-- Gives a key a value below the table of the last header. -/
def assignBelow (header path : List String) (key : String) (value : Value) (document : Entries) :
    Option Entries :=
  (changeAt false (assign path key value) header .header document).map Prod.snd

end RdmaLink.Toml
