import RdmaLink.Config.Basic
import RdmaLink.System.IoError
import RdmaLink.Toml.Document

/-!
# Reading configurations

A section is a table whose keys are the names of its fields.  The transport section knows four
further names for fields and refuses every other key; elsewhere a key that names no field is
passed over.  A field is given once, under one of its names, and a field that is not given has
its default.  Instead of a table a section may be an array with the values in the order of the
fields.
-/

namespace RdmaLink.Config

open RdmaLink.Toml

/-! ## Values of fields -/

/-- A text. -/
def text? : Value → Option String
  | .string s => some s
  | _ => none

def boolean? : Value → Option Bool
  | .boolean b => some b
  | _ => none

/-- A whole number below a bound. -/
def number? (bound : Nat) : Value → Option Nat
  | .integer n => if 0 ≤ n ∧ n < bound then some n.toNat else none
  | _ => none

/-- Whether a table or an array holds nothing. -/
def isEmptyValue : Value → Bool
  | .table _ [] => true
  | .array _ [] => true
  | _ => false

/-- A log level: its word, or the word as the one key of a table, with nothing under it. -/
def logLevel? : Value → Option LogLevel
  | .string s => LogLevel.ofWord? s
  | .table _ [(word, value)] => if isEmptyValue value then LogLevel.ofWord? word else none
  | _ => none

mutual

/-- Whether a value that no field wants can be passed over: its numbers must be representable. -/
def passes : Value → Bool
  | .integer n => decide (-(2 ^ 127 : Int) ≤ n) && decide (n < 2 ^ 128)
  | .float representable => representable
  | .array _ items => passesAll items
  | .table _ entries => passesEntries entries
  | _ => true

def passesAll : List Value → Bool
  | [] => true
  | value :: rest => passes value && passesAll rest

def passesEntries : List (String × Value) → Bool
  | [] => true
  | (_, value) :: rest => passes value && passesEntries rest

end

/-! ## The transport section -/

/-- The fields of the transport section, in order. -/
inductive RdmaField where
  | device
  | port
  | gidIndex
  | regionSize
  | useRdma
  | infoPath
  | readyPath
  | handshakeTimeout
  | readyTimeout
  | readyPoll
  | depth
deriving DecidableEq, Repr, Inhabited

namespace RdmaField

def all : List RdmaField :=
  [.device, .port, .gidIndex, .regionSize, .useRdma, .infoPath, .readyPath, .handshakeTimeout,
    .readyTimeout, .readyPoll, .depth]

/-- The key of a field. -/
def name : RdmaField → String
  | .device => "device"
  | .port => "port"
  | .gidIndex => "sgid_index"
  | .regionSize => "shm_size"
  | .useRdma => "connect_using_rdma"
  | .infoPath => "listen_info_file_path"
  | .readyPath => "listen_ready_file_path"
  | .handshakeTimeout => "handshake_timeout_ms"
  | .readyTimeout => "ready_timeout_ms"
  | .readyPoll => "ready_poll_interval_ms"
  | .depth => "cq_depth"

/-- The further key of a field. -/
def alias? : RdmaField → Option String
  | .device => some "ib_devname"
  | .port => some "ib_port"
  | .gidIndex => some "ib_sgid_idx"
  | .useRdma => some "ib_connect"
  | _ => none

/-- The field that a key names. -/
def ofKey? (key : String) : Option RdmaField :=
  all.find? fun field => field.name == key || field.alias? == some key

/-- The section with a field set to a value, if the value is of the field's type and range. -/
def set? (field : RdmaField) (value : Value) (config : RdmaConfig) : Option RdmaConfig :=
  match field with
  | .device => (text? value).map fun s => { config with device := s }
  | .port => (number? 256 value).map fun n => { config with port := UInt8.ofNat n }
  | .gidIndex => (number? 256 value).map fun n => { config with gidIndex := UInt8.ofNat n }
  | .regionSize => (number? (2 ^ 64) value).map fun n => { config with regionSize := n }
  | .useRdma => (boolean? value).map fun b => { config with useRdma := b }
  | .infoPath => (text? value).map fun s => { config with infoPath := some s }
  | .readyPath => (text? value).map fun s => { config with readyPath := some s }
  | .handshakeTimeout =>
    (number? (2 ^ 64) value).map fun n => { config with handshakeTimeout := n }
  | .readyTimeout => (number? (2 ^ 64) value).map fun n => { config with readyTimeout := n }
  | .readyPoll => (number? (2 ^ 64) value).map fun n => { config with readyPoll := n }
  | .depth => (number? (2 ^ 64) value).map fun n => { config with depth := n }

end RdmaField

/-- Reads fields by key; `given` are those that were set already. -/
def rdmaFields? (given : List RdmaField) (config : RdmaConfig) : Entries → Option RdmaConfig
  | [] => some config
  | (key, value) :: rest =>
    match RdmaField.ofKey? key with
    | none => none
    | some field =>
      if field ∈ given then none
      else (field.set? value config).bind fun config => rdmaFields? (field :: given) config rest

/-- Reads values in the order of the fields. -/
def rdmaItems? (config : RdmaConfig) : List RdmaField → List Value → Option RdmaConfig
  | field :: fields, value :: rest =>
    (field.set? value config).bind fun config => rdmaItems? config fields rest
  | _, _ => some config

/-- The transport section that a table writes. -/
def rdmaOfTable? (entries : Entries) : Option RdmaConfig :=
  rdmaFields? [] RdmaConfig.default entries

def rdma? : Value → Option RdmaConfig
  | .table _ entries => rdmaOfTable? entries
  | .array _ items => rdmaItems? RdmaConfig.default RdmaField.all items
  | _ => none

/-! ## The shared section -/

/-- Whether every entry that names none of `keys` can be passed over. -/
def othersPass (keys : List String) (entries : Entries) : Bool :=
  entries.all fun entry => keys.contains entry.1 || passes entry.2

/-- The shared section that a table writes; only the log level has a default. -/
def sharedOfTable? (entries : Entries) : Option SharedConfig :=
  if othersPass ["log_level", "service_name"] entries then
    let level := match entries.lookup "log_level" with
      | some value => logLevel? value
      | none => some .info
    match level, (entries.lookup "service_name").bind text? with
    | some level, some name => some ⟨level, name⟩
    | _, _ => none
  else none

def shared? : Value → Option SharedConfig
  | .table _ entries => sharedOfTable? entries
  | .array _ (level :: name :: _) =>
    match logLevel? level, text? name with
    | some level, some name => some ⟨level, name⟩
    | _, _ => none
  | _ => none

/-! ## The whole file -/

/-- The configuration that a document writes. -/
def endpointOfTable? (entries : Entries) : Option EndpointConfig :=
  if othersPass ["shared", "rdma"] entries then
    let rdma := match entries.lookup "rdma" with
      | some value => rdma? value
      | none => some RdmaConfig.default
    match (entries.lookup "shared").bind shared?, rdma with
    | some shared, some rdma => some ⟨shared, rdma⟩
    | _, _ => none
  else none

/-- What is told of a document that is no configuration. -/
def complaint : String := "not a configuration"

/-- Loads what `read?` finds in the document at the end of a read; a missing file has its own
error. -/
def load {α : Type} (read? : Entries → Option α) (content : Except IoError String) :
    Except ConfigError α :=
  match content with
  | .error (.os errno) =>
    if errno = Errno.noEntry then .error .fileNotFound
    else .error (.unreadable (IoError.os errno).message)
  | .error e => .error (.unreadable e.message)
  | .ok text =>
    match (Toml.parse? text).bind read? with
    | some config => .ok config
    | none => .error (.unreadable complaint)

end RdmaLink.Config
