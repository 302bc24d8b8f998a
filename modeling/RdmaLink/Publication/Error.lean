import RdmaLink.Address.Socket
import RdmaLink.System.IoError
import RdmaLink.System.Milliseconds

/-!
# Errors of a publication

Why a listener's address could not be published, awaited or withdrawn.
-/

namespace RdmaLink

/-- Why a call on a publication failed. -/
inductive PublicationError where
  | io (cause : IoError)
  /-- The file at a path holds no socket address. -/
  | noAddress (path : String)
  /-- Nothing was published in time. -/
  | notReady (waited : Nat)
  /-- The clock cannot name the end of the wait, which ends its caller. -/
  | noDeadline
deriving DecidableEq, Repr, Inhabited

end RdmaLink
