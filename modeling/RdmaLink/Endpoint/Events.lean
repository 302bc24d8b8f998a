import RdmaLink.Endpoint.Basic

/-!
# Events of an endpoint

An endpoint waits for its listeners and connections together.  When the wait ends, every source
that it gave gives its events: a listener one event, a connection one for each of its completions.
-/

namespace RdmaLink

/-- Something that happened at an endpoint. -/
inductive Event where
  /-- A peer waits on a listener. -/
  | incoming (listener : Nat)
  /-- A request ended well. -/
  | completed (connection : Nat) (completion : Completion)
  /-- A request failed, and the connection with it. -/
  | failed (connection : Nat) (completion : Completion)
deriving DecidableEq, Repr, Inhabited

/-- What a wait is told by the system: on which listeners a peer waits, and in which order the
ready descriptors come. -/
structure Glance where
  waitingOn : Nat → Bool
  order : ReadyOrder Descriptor

/-- A glance that is given descriptors in the order in which they were registered. -/
def Glance.ofPeers (waitingOn : Nat → Bool) : Glance := ⟨waitingOn, .registration⟩

/-- What the world looks like when an endpoint looks up: what has arrived on which links, and what
its wait is told. -/
structure Moment where
  /-- Connection, bytes, and whether the link ends after them. -/
  arrivals : List (Nat × Bytes × Bool)
  glance : Glance

namespace Event

/-- The event of a completion. -/
def ofCompletion (connection : Nat) (completion : Completion) : Event :=
  if completion.succeeded then .completed connection completion
  else .failed connection completion

end Event

namespace Endpoint

/-- Whether a descriptor is ready. -/
def isReady (endpoint : Endpoint) (waitingOn : Nat → Bool) : Descriptor → Bool
  | .listener id => waitingOn id
  | .completions id =>
    match endpoint.connection? id with
    | some connection => connection.completions.isReadable
    | none => false

/-- The sources that a wait gives. -/
def fired (endpoint : Endpoint) (glance : Glance) : List Source :=
  endpoint.mux.wait (endpoint.isReady glance.waitingOn) glance.order

/-- The events of one source. -/
def eventsOf (endpoint : Endpoint) : Source → List Event × Endpoint
  | .listener id =>
    if (endpoint.listener? id).isSome then ([.incoming id], endpoint) else ([], endpoint)
  | .connection id =>
    match endpoint.connection? id with
    | none => ([], endpoint)
    | some connection =>
      let (completions, session) := (endpoint.sessionOf connection).drain
      (completions.map (Event.ofCompletion id), endpoint.withSession session)

/-- The events of sources that were found ready. -/
def collect (endpoint : Endpoint) : List Source → List Event × Endpoint
  | [] => ([], endpoint)
  | source :: rest =>
    let (events, endpoint) := endpoint.eventsOf source
    let (more, endpoint) := endpoint.collect rest
    (events ++ more, endpoint)

/-- The endpoint after what has arrived by a moment. -/
def arrive (endpoint : Endpoint) (moment : Moment) : Endpoint :=
  moment.arrivals.foldl (fun endpoint (id, bytes, ended) => endpoint.deliver id bytes ended)
    endpoint

/-- One wait: what has arrived is handled, and the ready sources give their events. -/
def look (endpoint : Endpoint) (moment : Moment) : List Event × Endpoint :=
  let arrived := endpoint.arrive moment
  arrived.collect (arrived.fired moment.glance)

/-- Waits through moments until there are events.  When no moment is left, a wait with a time
limit gives none, and one without is still waiting. -/
def poll (limited : Bool) (endpoint : Endpoint) : List Moment → Option (List Event) × Endpoint
  | [] => (if limited then some [] else none, endpoint)
  | moment :: later =>
    match endpoint.look moment with
    | ([], endpoint) => endpoint.poll limited later
    | (events, endpoint) => (some events, endpoint)

end Endpoint

end RdmaLink
