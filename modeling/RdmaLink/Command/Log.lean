import RdmaLink.Config.Basic
import RdmaLink.Hexadecimal

/-!
# Log lines

A log line has a level, a message and further fields.  It is written if its level is at least as
grave as the one that is asked for.
-/

namespace RdmaLink.Command

/-- The value of a field. -/
inductive LogValue where
  | text (value : String)
  | number (value : Nat)
deriving DecidableEq, Repr, Inhabited

structure LogLine where
  level : LogLevel
  message : String
  fields : List (String × LogValue)
deriving DecidableEq, Repr, Inhabited

namespace LogLine

def info (message : String) (fields : List (String × LogValue)) : LogLine :=
  ⟨.info, message, fields⟩

def warn (message : String) (fields : List (String × LogValue)) : LogLine :=
  ⟨.warn, message, fields⟩

def error (message : String) : LogLine := ⟨.error, message, []⟩

/-- Whether a line is written where `least` is asked for. -/
def passes (least : LogLevel) (line : LogLine) : Bool := decide (least.rank ≤ line.level.rank)

end LogLine

/-- The name of a level in a log line. -/
def levelName : LogLevel → String
  | .trace => "TRACE"
  | .debug => "DEBUG"
  | .info => "INFO"
  | .warn => "WARN"
  | .error => "ERROR"

/-- A line as text. -/
def LogLine.plain (line : LogLine) : String :=
  let shown := line.fields.map fun (key, value) =>
    match value with
    | .text text => " " ++ key ++ "=" ++ text
    | .number n => " " ++ key ++ "=" ++ toString n
  levelName line.level ++ " rdma_endpoint: " ++ line.message ++ String.join shown

/-- The four hexadecimal digits of a control character. -/
def controlEscape (c : Char) : String :=
  "\\u00" ++ Hexadecimal.ofByte (UInt8.ofNat c.toNat)

/-- A text as a JSON string. -/
def jsonText (text : String) : String :=
  let shown := text.toList.map fun c =>
    if c = '"' then "\\\""
    else if c = '\\' then "\\\\"
    else if c = '\n' then "\\n"
    else if c = '\r' then "\\r"
    else if c = '\t' then "\\t"
    else if c.toNat < 0x20 then controlEscape c
    else String.singleton c
  "\"" ++ String.join shown ++ "\""

/-- The value of a field as JSON. -/
def LogValue.json : LogValue → String
  | .text value => jsonText value
  | .number n => toString n

/-- A line as a JSON object. -/
def LogLine.json (line : LogLine) : String :=
  let fields := ("message", LogValue.text line.message) :: line.fields
  let shown := fields.map fun (key, value) => jsonText key ++ ":" ++ value.json
  "\x7b\"level\":\"" ++ levelName line.level ++ "\",\"fields\":\x7b" ++ ",".intercalate shown ++
    "\x7d,\"target\":\"rdma_endpoint\"\x7d"

end RdmaLink.Command
