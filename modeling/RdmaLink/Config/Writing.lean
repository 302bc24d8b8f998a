import RdmaLink.Config.Reading

/-!
# Writing configurations

A configuration is written as a document with a table for each section, the fields in order.  A
field that has no value is left out.
-/

namespace RdmaLink.Config

open RdmaLink.Toml

/-- The value that a configuration gives to a field, if it gives one. -/
def RdmaField.value? (config : RdmaConfig) (field : RdmaField) : Option Value :=
  match field with
  | .device => some (.string config.device)
  | .port => some (.integer config.port.toNat)
  | .gidIndex => some (.integer config.gidIndex.toNat)
  | .regionSize => some (.integer config.regionSize)
  | .useRdma => some (.boolean config.useRdma)
  | .infoPath => config.infoPath.map .string
  | .readyPath => config.readyPath.map .string
  | .handshakeTimeout => some (.integer config.handshakeTimeout)
  | .readyTimeout => some (.integer config.readyTimeout)
  | .readyPoll => some (.integer config.readyPoll)
  | .depth => some (.integer config.depth)

/-- What is written for a value of a field; the other kinds of values are not used. -/
def written : Value → String
  | .string text => quote text
  | .integer n => toString n
  | .boolean b => if b then "true" else "false"
  | _ => ""

/-- The line of a field, empty if the field has no value. -/
def RdmaField.line (config : RdmaConfig) (field : RdmaField) : String :=
  match field.value? config with
  | some value => field.name ++ " = " ++ written value ++ "\n"
  | none => ""

/-- The transport section as a table of a document. -/
def renderRdma (config : RdmaConfig) : String :=
  "[rdma]\n" ++ String.join (RdmaField.all.map (RdmaField.line config))

/-- The shared section as a table of a document. -/
def renderShared (config : SharedConfig) : String :=
  "[shared]\nlog_level = " ++ quote config.logLevel.word ++ "\nservice_name = " ++
    quote config.serviceName ++ "\n"

/-- A configuration as a document. -/
def render (config : EndpointConfig) : String :=
  renderShared config.shared ++ "\n" ++ renderRdma config.rdma

/-- The configuration that a document writes. -/
def parse? (text : String) : Option EndpointConfig := (Toml.parse? text).bind endpointOfTable?

end RdmaLink.Config
