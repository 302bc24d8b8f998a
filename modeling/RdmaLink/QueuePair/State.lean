/-!
# States of a queue pair

    reset → init → readyToReceive → readyToSend

Every state may lead to `error`.  No call leads out of it, but a queue pair whose link fails while
it is being made ready to send reads `readyToSend` again when that call is done.
-/

namespace RdmaLink

/-- Where a queue pair stands. -/
inductive QueuePairState where
  | reset
  /-- Receives may be posted. -/
  | init
  /-- The peer is known and linked. -/
  | readyToReceive
  | readyToSend
  | error
deriving DecidableEq, Repr, Inhabited

def QueuePairState.all : List QueuePairState :=
  [.reset, .init, .readyToReceive, .readyToSend, .error]

def QueuePairState.name : QueuePairState → String
  | .reset => "Reset"
  | .init => "Init"
  | .readyToReceive => "Rtr"
  | .readyToSend => "Rts"
  | .error => "Error"

end RdmaLink
