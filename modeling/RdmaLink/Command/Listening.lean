import RdmaLink.Command.Log
import RdmaLink.Endpoint.Events

/-!
# The command `listen`

The command binds a listener, takes in the peers that come, keeps receives posted for each of
them, and reports every write with immediate that a receive was consumed by.  The first peer that
fails ends it.

What happens while the command runs is a list of ticks: between two looks at the endpoint bytes
arrive, peers come, or the command is interrupted.
-/

namespace RdmaLink.Command

/-- What happens up to the next look at the endpoint. -/
structure Tick where
  /-- Whether the command was asked to stop. -/
  interrupted : Bool
  moment : Moment
  /-- What comes of taking in a peer. -/
  admission : Endpoint.AcceptConditions

/-- Receives that are kept posted for each peer. -/
def receiveDepth : Nat := 16

/-- The line of an interrupt. -/
def interruptLine : LogLine := LogLine.info "Received shutdown signal" []

/-- The command between two ticks. -/
structure Service where
  endpoint : Endpoint
  board : Board
  /-- The number of the next receive. -/
  nextReceive : Nat
  /-- The lines written so far. -/
  log : List LogLine

/-- The command after a step: it goes on, or it has ended with a result. -/
inductive Progress where
  | running (service : Service)
  | ended (service : Service) (result : Except EndpointError Unit)

namespace Service

def logged (service : Service) (line : LogLine) : Service :=
  { service with log := service.log ++ [line] }

/-- The line of a write that a peer has made. -/
def writeLine (connection : Nat) (completion : Completion) : LogLine :=
  let immediate := match completion.immediate with
    | some n => "Some(" ++ toString n.toNat ++ ")"
    | none => "None"
  LogLine.info "Write received"
    [("connection", .text (Source.connection connection).text), ("imm", .text immediate),
      ("bytes", .number completion.length.toNat)]

/-- The line of a peer that has failed. -/
def failureLine (connection : Nat) (completion : Completion) : LogLine :=
  LogLine.warn "Peer connection failed"
    [("connection", .text (Source.connection connection).text),
      ("status", .text completion.status.name)]

/-- Posts a receive for a connection, under the next number. -/
def postReceive (service : Service) (connection : Nat) : Progress :=
  match service.endpoint.postReceive connection (UInt64.ofNat service.nextReceive) with
  | (.error e, endpoint) => .ended { service with endpoint := endpoint } (.error e)
  | (.ok (), endpoint) =>
    .running { service with endpoint := endpoint, nextReceive := service.nextReceive + 1 }

/-- Posts a receive for each of the connections, up to the one that is refused. -/
def postReceives (service : Service) : List Nat → Progress
  | [] => .running service
  | connection :: due =>
    match service.postReceive connection with
    | .running service => service.postReceives due
    | ended => ended

/-- Handles one event up to the receives that it asks for.  They are given as the connections that
they are for. -/
def answer (admission : Endpoint.AcceptConditions) (service : Service) :
    Event → Progress × List Nat
  | .incoming listener =>
    let outcome := (service.endpoint.accept listener admission service.board).outcome
    let service := { service with endpoint := outcome.endpoint, board := outcome.board }
    match outcome.result with
    | .error e => (.ended service (.error e), [])
    | .ok connection => (.running service, List.replicate receiveDepth connection)
  | .completed connection completion =>
    if completion.operation = .receiveWithImmediate then
      (.running (service.logged (writeLine connection completion)), [connection])
    else (.running service, [])
  | .failed connection completion =>
    let service := service.logged (failureLine connection completion)
    match service.endpoint.close connection with
    | (.error e, endpoint) => (.ended { service with endpoint := endpoint } (.error e), [])
    | (.ok (), endpoint) => (.ended { service with endpoint := endpoint } (.ok ()), [])

/-- Handles one event. -/
def handle (admission : Endpoint.AcceptConditions) (service : Service) (event : Event) : Progress :=
  match service.answer admission event with
  | (.running service, due) => service.postReceives due
  | (ended, _) => ended

/-- Handles the events of one look in order, up to the one that ends the command. -/
def handleAll (admission : Endpoint.AcceptConditions) (service : Service) :
    List Event → Progress
  | [] => .running service
  | event :: rest =>
    match service.handle admission event with
    | .running service => service.handleAll admission rest
    | ended => ended

/-- One tick: an interrupt ends the command, else the endpoint is looked at. -/
def step (service : Service) (tick : Tick) : Progress :=
  if tick.interrupted then .ended (service.logged interruptLine) (.ok ())
  else
    let (events, endpoint) := service.endpoint.look tick.moment
    { service with endpoint := endpoint }.handleAll tick.admission events

/-- Runs through ticks; after the last one the command is still running if nothing ended it. -/
def run (service : Service) : List Tick → Progress
  | [] => .running service
  | tick :: later =>
    match service.step tick with
    | .running service => service.run later
    | ended => ended

/-- Binds the listener. -/
def start (endpoint : Endpoint) (board : Board) (log : List LogLine) (address : SocketAddress)
    (binding : Endpoint.BindConditions) : Progress :=
  let outcome := endpoint.bind address binding board
  let service : Service := ⟨outcome.endpoint, outcome.board, 0, log⟩
  match outcome.result with
  | .error e => .ended service (.error e)
  | .ok _ => .running service

end Service

end RdmaLink.Command
