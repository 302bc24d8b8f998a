import RdmaLink.Config.Error
import RdmaLink.System.Milliseconds

/-!
# Configurations

The configuration of an endpoint has two sections: what every service has, and the parameters of
the transport.  A section is valid if its values do; of several faults the first one in the order
of the checks is reported.
-/

namespace RdmaLink

/-- How much is logged. -/
inductive LogLevel where
  | trace
  | debug
  | info
  | warn
  | error
deriving DecidableEq, Repr, Inhabited

namespace LogLevel

/-- The word that selects a level. -/
def word : LogLevel → String
  | .trace => "trace"
  | .debug => "debug"
  | .info => "info"
  | .warn => "warn"
  | .error => "error"

def all : List LogLevel := [.trace, .debug, .info, .warn, .error]

/-- The level that a word selects. -/
def ofWord? (word : String) : Option LogLevel := all.find? fun level => level.word == word

/-- How grave a level is. -/
def rank : LogLevel → Nat
  | .trace => 0
  | .debug => 1
  | .info => 2
  | .warn => 3
  | .error => 4

theorem ofWord?_word (level : LogLevel) : ofWord? level.word = some level := by
  cases level <;> decide

end LogLevel

/-- The section that every service has. -/
structure SharedConfig where
  logLevel : LogLevel
  serviceName : String
deriving DecidableEq, Repr, Inhabited

/-- The parameters of the transport.  Times are in milliseconds. -/
structure RdmaConfig where
  device : String
  /-- The port of the device, counted from one. -/
  port : UInt8
  gidIndex : UInt8
  /-- Bytes of the region. -/
  regionSize : Nat
  /-- Whether the data path gets a link of its own. -/
  useRdma : Bool
  /-- Where a listener's address is published. -/
  infoPath : Option String
  /-- Where a listener marks that it is ready. -/
  readyPath : Option String
  handshakeTimeout : Nat
  readyTimeout : Nat
  readyPoll : Nat
  /-- Depth of each completion queue. -/
  depth : Nat
deriving DecidableEq, Repr, Inhabited

/-- A whole configuration. -/
structure EndpointConfig where
  shared : SharedConfig
  rdma : RdmaConfig
deriving DecidableEq, Repr, Inhabited

namespace SharedConfig

def validate (config : SharedConfig) : Except ConfigError Unit :=
  if config.serviceName = "" then .error (.invalid .emptyServiceName) else .ok ()

end SharedConfig

namespace RdmaConfig

/-- The values that hold where nothing is given. -/
def default : RdmaConfig :=
  { device := "soft"
    port := 1
    gidIndex := 0
    regionSize := 4096
    useRdma := true
    infoPath := none
    readyPath := none
    handshakeTimeout := 5000
    readyTimeout := 10000
    readyPoll := 10
    depth := 256 }

def validate (config : RdmaConfig) : Except ConfigError Unit :=
  if config.device = "" then .error (.invalid .emptyDevice)
  else if config.port = 0 then .error (.invalid .portZero)
  else if config.regionSize = 0 ∨ Region.maxSize < config.regionSize then
    .error (.invalid (.regionSize config.regionSize))
  else if config.handshakeTimeout = 0 ∨ config.readyTimeout = 0 ∨ config.readyPoll = 0 then
    .error (.invalid .zeroTime)
  else if config.depth = 0 then .error (.invalid .zeroDepth)
  else .ok ()

/-- The time limit of a handshake. -/
def handshakeLimit (config : RdmaConfig) : Milliseconds := ⟨config.handshakeTimeout⟩

end RdmaConfig

namespace EndpointConfig

/-- The configuration of a service with default parameters. -/
def ofService (name : String) : EndpointConfig := ⟨⟨.info, name⟩, RdmaConfig.default⟩

def validate (config : EndpointConfig) : Except ConfigError Unit :=
  match config.shared.validate with
  | .error e => .error e
  | .ok () => config.rdma.validate

end EndpointConfig

end RdmaLink
