import RdmaLink.Command.Listening

/-!
# The command `connect`

The command dials a listener and writes blocks into its region, one after the other: it fills its
own region with the low byte of the block's number, posts a write with the number as immediate,
and waits for its completion before it goes on.
-/

namespace RdmaLink.Command

/-- Why a transfer failed. -/
inductive TransferFault where
  | endpoint (cause : EndpointError)
  /-- A request of the connection ended badly. -/
  | request (connection : Nat) (completion : Completion)
deriving DecidableEq, Repr, Inhabited

def TransferFault.message : TransferFault → String
  | .endpoint cause => cause.message
  | .request connection completion =>
    (Source.connection connection).text ++ ": wr " ++ toString completion.request.toNat ++
      " failed with " ++ completion.status.name

/-- What comes of the wait for a completion. -/
inductive Wait where
  | completed
  | interrupted
  | failed (fault : TransferFault)
  /-- Nothing more happens that could end the wait. -/
  | waiting

/-- A transfer: the endpoint and what is still to happen. -/
structure Transfer where
  endpoint : Endpoint
  ticks : List Tick

/-- How a transfer has ended: all blocks were written, or it was interrupted, or it failed, or it
goes on. -/
inductive TransferEnd where
  | finished (interrupted : Bool)
  | failed (fault : TransferFault)
  | waiting

namespace Transfer

/-- The events of one look up to the one that ends the wait for a request, if one does. -/
def verdict (connection : Nat) (request : UInt64) : List Event → Option Wait
  | [] => none
  | .completed _ completion :: rest =>
    if completion.request = request then some .completed else verdict connection request rest
  | .failed _ completion :: _ => some (.failed (.request connection completion))
  | .incoming _ :: rest => verdict connection request rest

/-- Waits for the completion of a request. -/
def await (connection : Nat) (request : UInt64) (endpoint : Endpoint) :
    List Tick → Wait × Transfer
  | [] => (.waiting, ⟨endpoint, []⟩)
  | tick :: later =>
    if tick.interrupted then (.interrupted, ⟨endpoint, later⟩)
    else
      let (events, endpoint) := endpoint.look tick.moment
      match verdict connection request events with
      | some wait => (wait, ⟨endpoint, later⟩)
      | none => await connection request endpoint later

/-- The endpoint with its region filled from the start, as far as asked. -/
def filled (endpoint : Endpoint) (size : Nat) (value : UInt8) : Except EndpointError Endpoint :=
  match endpoint.memory.region? endpoint.region with
  | none => .error (.outOfBounds ⟨0, size, 0⟩)
  | some region =>
    match region.fill 0 size value with
    | .error range => .error (.outOfBounds range)
    | .ok region => .ok { endpoint with memory := endpoint.memory.put endpoint.region region }

/-- Fills the region for a block and posts the write of it. -/
def postBlock (endpoint : Endpoint) (connection size : Nat) (block : UInt32) :
    Except EndpointError Unit × Endpoint :=
  match filled endpoint size (UInt8.ofNat block.toNat) with
  | .error e => (.error e, endpoint)
  | .ok endpoint =>
    endpoint.post connection (.writeWithImmediate block) block.toUInt64 0 size 0

/-- Writes blocks in order.  A tick passes before each of them. -/
def writeBlocks (connection size : Nat) : List UInt32 → Transfer → TransferEnd × Transfer
  | [], transfer => (.finished false, transfer)
  | block :: rest, transfer =>
    match transfer.ticks with
    | [] => (.waiting, transfer)
    | tick :: later =>
      if tick.interrupted then (.finished true, { transfer with ticks := later })
      else
        match postBlock (transfer.endpoint.arrive tick.moment) connection size block with
        | (.error e, endpoint) => (.failed (.endpoint e), ⟨endpoint, later⟩)
        | (.ok (), endpoint) =>
          match await connection block.toUInt64 endpoint later with
          | (.completed, transfer) => writeBlocks connection size rest transfer
          | (.interrupted, transfer) => (.finished true, transfer)
          | (.failed fault, transfer) => (.failed fault, transfer)
          | (.waiting, transfer) => (.waiting, transfer)

/-- The numbers of the blocks of a transfer. -/
def blocks (count : UInt32) : List UInt32 := (List.range count.toNat).map UInt32.ofNat

/-- The line of a transfer that has come to its end. -/
def completeLine (writes : UInt32) (size elapsed : Nat) : LogLine :=
  LogLine.info "Transfer complete"
    [("writes", .number writes.toNat),
      ("bytes", .number (writes.toUInt64 * UInt64.ofNat size).toNat),
      ("elapsed_ms", .number elapsed)]

end Transfer

end RdmaLink.Command
