import RdmaLink.Command.Help
import RdmaLink.Command.Sending
import RdmaLink.Config.Reading

/-!
# Running the program

A command line is read, the configuration loaded and checked, and the command run in its
surroundings: the files, the network and the ticks that pass.  The report holds everything that
can be seen of the run: the lines of either output, the log and the exit status.
-/

namespace RdmaLink.Command

/-- What a run finds around it. -/
structure Surroundings where
  /-- What a read of the file at a path gives. -/
  content : String → Except IoError String
  registry : DeviceRegistry
  space : RegionSpace
  lot : RegionLot
  /-- Why there is no multiplexer, if that is so. -/
  muxFault : Option Errno
  board : Board
  binding : SocketAddress → Endpoint.BindConditions
  dialing : SocketAddress → Endpoint.ConnectConditions
  ticks : List Tick
  /-- Which steps of the last withdrawal fail. -/
  faults : Nat → Option FileFault
  /-- How long a transfer takes, in milliseconds. -/
  elapsed : Nat

/-- What can be seen of a run. -/
structure Report where
  /-- Lines of the standard output that are no log lines. -/
  lines : List String
  /-- Lines of the error output. -/
  complaints : List String
  log : List LogLine
  /-- The exit status; none while the command is still running. -/
  status : Option Nat
  board : Board

/-- The configuration of a run, checked. -/
def configuration (options : Options) (content : String → Except IoError String) :
    Except ConfigError EndpointConfig :=
  let loaded := match options.config with
    | some path => Config.load Config.endpointOfTable? (content path)
    | none => .ok (EndpointConfig.ofService options.service)
  match loaded with
  | .error e => .error e
  | .ok config =>
    let config :=
      if options.socket then { config with rdma := { config.rdma with useRdma := false } }
      else config
    match config.validate with
    | .error e => .error e
    | .ok () => .ok config

/-- A command that has come to its result, or is still running. -/
structure Outcome where
  result : Option (Except TransferFault Unit)
  endpoint : Endpoint
  board : Board
  log : List LogLine

/-- Runs the command `listen`. -/
def listen (endpoint : Endpoint) (address : SocketAddress) (surroundings : Surroundings) :
    Outcome :=
  let started := Service.start endpoint surroundings.board [] address (surroundings.binding address)
  let progress := match started with
    | .running service => service.run surroundings.ticks
    | ended => ended
  match progress with
  | .running service => ⟨none, service.endpoint, service.board, service.log⟩
  | .ended service result =>
    ⟨some (result.mapError TransferFault.endpoint), service.endpoint, service.board, service.log⟩

/-- Runs the command `connect`. -/
def connect (endpoint : Endpoint) (address : SocketAddress) (writes : UInt32) (size : Nat)
    (surroundings : Surroundings) : Outcome :=
  let dialed := (endpoint.connect address (surroundings.dialing address) surroundings.board).outcome
  match dialed.result with
  | .error e => ⟨some (.error (.endpoint e)), dialed.endpoint, dialed.board, []⟩
  | .ok connection =>
    let (ending, transfer) :=
      Transfer.writeBlocks connection size (Transfer.blocks writes)
        ⟨dialed.endpoint, surroundings.ticks⟩
    let complete := Transfer.completeLine writes size surroundings.elapsed
    match ending with
    | .waiting => ⟨none, transfer.endpoint, dialed.board, []⟩
    | .failed fault => ⟨some (.error fault), transfer.endpoint, dialed.board, []⟩
    | .finished interrupted =>
      ⟨some (.ok ()), transfer.endpoint, dialed.board,
        if interrupted then [interruptLine, complete] else [complete]⟩

/-- The line of a failed run. -/
def failureLine (fault : TransferFault) : LogLine :=
  LogLine.error ("Endpoint failed: " ++ fault.message)

/-- Shuts the endpoint down after a command and reports. -/
def conclude (opening : LogLine) (outcome : Outcome) (faults : Nat → Option FileFault) : Report :=
  let log := opening :: outcome.log
  match outcome.result with
  | none => ⟨[], [], log, none, outcome.board⟩
  | some result =>
    let down := outcome.endpoint.shutdown faults outcome.board
    match down.result with
    | .error e => ⟨[], [], log ++ [failureLine (.endpoint e)], some 1, down.board⟩
    | .ok () =>
      let log := log ++ [LogLine.info "RDMA endpoint shutdown complete" []]
      match result with
      | .ok () => ⟨[], [], log, some 0, down.board⟩
      | .error fault => ⟨[], [], log ++ [failureLine fault], some 1, down.board⟩

/-- Runs the command of a task. -/
def command (endpoint : Endpoint) (task : Task) (surroundings : Surroundings) : Outcome :=
  match task with
  | .listen address => listen endpoint address surroundings
  | .connect address writes size => connect endpoint address writes size surroundings
  | .devices => ⟨some (.ok ()), endpoint, surroundings.board, []⟩

/-- Runs a task with a configuration.  The list of devices needs no endpoint. -/
def runTask (config : EndpointConfig) (task : Task) (surroundings : Surroundings) : Report :=
  if task = .devices then
    ⟨surroundings.registry.names, [], [], some 0, surroundings.board⟩
  else
    let opening := LogLine.info
      ("RDMA endpoint v" ++ release ++ " starting as " ++ config.shared.serviceName) []
    let publication := Publication.files config.rdma.infoPath config.rdma.readyPath
    match (Endpoint.create config surroundings.registry publication surroundings.lot
        surroundings.muxFault surroundings.space).1 with
    | .error e =>
      ⟨[], [], [opening, failureLine (.endpoint e)], some 1, surroundings.board⟩
    | .ok endpoint => conclude opening (command endpoint task surroundings) surroundings.faults

/-- The least grave level that is logged. -/
def logLevel (options : Options) (config : EndpointConfig) : LogLevel :=
  if options.verbose then .debug else config.shared.logLevel

/-- Runs the program with its arguments. -/
def run (arguments : List String) (surroundings : Surroundings) : Report :=
  match read arguments with
  | .error halt => ⟨halt.lines, halt.complaints, [], some halt.status, surroundings.board⟩
  | .ok (options, task) =>
    match configuration options surroundings.content with
    | .error e =>
      ⟨[], ["configuration error: " ++ e.message], [], some 2, surroundings.board⟩
    | .ok config =>
      let report := runTask config task surroundings
      { report with log := report.log.filter (LogLine.passes (logLevel options config)) }

end RdmaLink.Command
