/-!
# TOML values

A TOML document is a table of values by key.  A table remembers how it was written, because that
decides whether a later line may add to it.
-/

namespace RdmaLink.Toml

/-- How a table came to be. -/
inductive TableOrigin where
  /-- The document itself, a `[header]`, or an element of an array of tables. -/
  | header
  /-- Named on the way to a `[header]` further down. -/
  | implied
  /-- Named in front of a dot in a key. -/
  | dotted
  /-- Written in braces. -/
  | inline
deriving DecidableEq, Repr, Inhabited

/-- How an array came to be. -/
inductive ArrayOrigin where
  /-- Written in brackets. -/
  | inline
  /-- Built of `[[headers]]`. -/
  | headers
deriving DecidableEq, Repr, Inhabited

/-- A TOML value. -/
inductive Value where
  | string (text : String)
  | integer (n : Int)
  | boolean (b : Bool)
  /-- A float: whether it is finite in double precision or written as an infinity or NaN. -/
  | float (representable : Bool)
  | datetime (text : String)
  | array (origin : ArrayOrigin) (items : List Value)
  | table (origin : TableOrigin) (entries : List (String × Value))
deriving Repr, Inhabited

/-- The entries of a table, first written first. -/
abbrev Entries := List (String × Value)

end RdmaLink.Toml
