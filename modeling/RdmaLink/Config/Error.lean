import RdmaLink.Memory.Region

/-!
# Configuration errors

A configuration file is missing, cannot be read as one, or holds values that do not do.
-/

namespace RdmaLink

/-- What is wrong with the values of a configuration. -/
inductive ConfigFault where
  | emptyServiceName
  | emptyDevice
  | portZero
  | regionSize (size : Nat)
  | zeroTime
  | zeroDepth
  /-- Any other fault, in its own words. -/
  | other (text : String)
deriving DecidableEq, Repr, Inhabited

def ConfigFault.message : ConfigFault → String
  | .emptyServiceName => "service_name cannot be empty"
  | .emptyDevice => "device cannot be empty"
  | .portZero => "port numbers start at 1"
  | .regionSize size =>
    "shm_size " ++ toString size ++ " outside 1..=" ++ toString Region.maxSize
  | .zeroTime => "timeouts must be non-zero"
  | .zeroDepth => "cq_depth must be non-zero"
  | .other text => text

/-- Why there is no usable configuration. -/
inductive ConfigError where
  | fileNotFound
  | unreadable (reason : String)
  | invalid (fault : ConfigFault)
deriving DecidableEq, Repr, Inhabited

/-- The kind that an error is of. -/
def ConfigError.kind : ConfigError → String
  | .fileNotFound => "FileNotFound"
  | .unreadable _ => "ParseError"
  | .invalid _ => "ValidationError"

def ConfigError.message : ConfigError → String
  | .fileNotFound => "Configuration file not found"
  | .unreadable reason => "Failed to parse configuration: " ++ reason
  | .invalid fault => "Configuration validation failed: " ++ fault.message

end RdmaLink
