import RdmaLink.Endpoint.Events
import RdmaLink.Proofs.Endpoint.Holdings

/-!
# An endpoint at work

A stand is an endpoint with the board that it publishes on and that nobody else writes to.  Every
call of a program is an event, and so is what arrives on a link; what the system and the peers
make of a call is part of the event, so that a run may take every way that there is.

    (stand.run (a ++ b)) = (stand.run a).run b                       (Stand.run_append)

An endpoint starts with empty tables (`Endpoint.opened`, `Endpoint.created`).  Posting, receiving
and polling only move sessions on, so what such a move preserves, they preserve
(`Endpoint.poll_preserves` and its like; `Endpoint.poll_keeps` for sessions that give nothing
back).
-/

namespace RdmaLink

/-- Something that is done with an endpoint. -/
inductive EndpointEvent where
  | bind (address : SocketAddress) (conditions : Endpoint.BindConditions)
  | accept (listener : Nat) (conditions : Endpoint.AcceptConditions)
  | listen (address : SocketAddress) (binding : Endpoint.BindConditions)
      (conditions : Endpoint.AcceptConditions)
  | connect (address : SocketAddress) (conditions : Endpoint.ConnectConditions)
  | post (connection : Nat) (operation : SendOperation) (request : UInt64)
      (offset length peerOffset : Nat)
  | postReceive (connection : Nat) (request : UInt64)
  /-- Bytes arrive on the link of a connection, which ends after them if `ended`. -/
  | deliver (connection : Nat) (bytes : Bytes) (ended : Bool)
  | poll (limited : Bool) (moments : List Moment)
  | close (connection : Nat)
  | shutdown (faults : Nat → Option FileFault)

/-- An endpoint and the board that it publishes on. -/
structure Stand where
  endpoint : Endpoint
  board : Board

namespace Stand

/-- The stand that an operation leaves. -/
def ofOutcome {α : Type} (outcome : Endpoint.Outcome α) : Stand :=
  ⟨outcome.endpoint, outcome.board⟩

def step (stand : Stand) : EndpointEvent → Stand
  | .bind address conditions => ofOutcome (stand.endpoint.bind address conditions stand.board)
  | .accept listener conditions =>
    ofOutcome (stand.endpoint.accept listener conditions stand.board).outcome
  | .listen address binding conditions =>
    ofOutcome (stand.endpoint.listen address binding conditions stand.board).outcome
  | .connect address conditions =>
    ofOutcome (stand.endpoint.connect address conditions stand.board).outcome
  | .post connection operation request offset length peerOffset =>
    { stand with
      endpoint := (stand.endpoint.post connection operation request offset length peerOffset).2 }
  | .postReceive connection request =>
    { stand with endpoint := (stand.endpoint.postReceive connection request).2 }
  | .deliver connection bytes ended =>
    { stand with endpoint := stand.endpoint.deliver connection bytes ended }
  | .poll limited moments =>
    { stand with endpoint := (stand.endpoint.poll limited moments).2 }
  | .close connection => { stand with endpoint := (stand.endpoint.close connection).2 }
  | .shutdown faults => ofOutcome (stand.endpoint.shutdown faults stand.board)

def run (stand : Stand) (events : List EndpointEvent) : Stand := events.foldl step stand

theorem run_append (stand : Stand) (a b : List EndpointEvent) :
    stand.run (a ++ b) = (stand.run a).run b := List.foldl_append

theorem run_concat (stand : Stand) (events : List EndpointEvent) (event : EndpointEvent) :
    stand.run (events ++ [event]) = (stand.run events).step event := by
  rw [run_append]; rfl

/-- What holds at the start and is kept by every event holds after every run. -/
theorem run_induction {P : Stand → Prop} {stand : Stand} (base : P stand)
    (keep : ∀ s event, P s → P (s.step event)) (events : List EndpointEvent) :
    P (stand.run events) := by
  induction events generalizing stand with
  | nil => exact base
  | cons event rest ih => exact ih (keep stand event base)

end Stand

namespace Endpoint

/-- The endpoint with which nothing was done yet. -/
def opened (config : EndpointConfig) (device : Device) (publication : Publication)
    (region : Region) : Endpoint :=
  { config := config
    device := device
    fallback := if device.profile.attachesStreams then none else some Device.soft
    memory := (Memory.empty.add region).2
    region := (Memory.empty.add region).1
    publication := publication
    mux := Multiplexer.empty
    listeners := []
    connections := []
    nextListener := 1
    nextConnection := 1 }

/-- What is created is an endpoint over the device that was opened. -/
theorem created {config : EndpointConfig} {registry : DeviceRegistry}
    {publication : Publication} {lot : RegionLot} {fault : Option Errno} {space : RegionSpace}
    {endpoint : Endpoint}
    (h : (create config registry publication lot fault space).1 = .ok endpoint) :
    ∃ device region, registry.open? config.rdma.device = .ok device ∧
      endpoint = opened config device publication region := by
  unfold create at h
  split at h
  · cases h
  · split at h
    · cases h
    · next device hd =>
      split at h
      · cases h
      · split at h
        · cases h
        · next region _ _ =>
          split at h
          · cases h
          · cases h
            exact ⟨device, region, hd, rfl⟩

/-! ## Working -/

section Working

variable {P : Endpoint → Prop} {R : Session → Session → Prop} {e : Endpoint}
  (preserve : ∀ (e : Endpoint) (id : Nat) (connection : Connection) (after : Session), P e →
    e.connection? id = some connection → R (e.sessionOf connection) after →
    P (e.withSession after))

include preserve

theorem onSession_preserves {α : Type} {operation : Session → Except EndpointError α × Session}
    (works : ∀ s : Session, R s (operation s).2) (h : P e) (id : Nat) :
    P (e.onSession id operation).2 := by
  unfold onSession
  split
  · exact h
  · next connection found => exact preserve e id connection _ h found (works _)

theorem deliver_preserves (delivers : ∀ s bytes ended, R s (Session.deliver s bytes ended))
    (h : P e) (id : Nat) (bytes : Bytes) (ended : Bool) : P (e.deliver id bytes ended) := by
  unfold deliver
  split
  · exact h
  · next connection found => exact preserve e id connection _ h found (delivers _ bytes ended)

theorem eventsOf_preserves (drains : ∀ s, R s (Session.drain s).2) (h : P e) (source : Source) :
    P (e.eventsOf source).2 := by
  cases source with
  | listener id => simp only [eventsOf]; split <;> exact h
  | connection id =>
    simp only [eventsOf]
    split
    · exact h
    · next connection found => exact preserve e id connection _ h found (drains _)

theorem collect_preserves (drains : ∀ s, R s (Session.drain s).2) (h : P e)
    (sources : List Source) : P (e.collect sources).2 := by
  induction sources generalizing e with
  | nil => exact h
  | cons source rest ih => exact ih (eventsOf_preserves preserve drains h source)

theorem arrive_preserves (delivers : ∀ s bytes ended, R s (Session.deliver s bytes ended))
    (h : P e) (moment : Moment) : P (e.arrive moment) := by
  unfold arrive
  induction moment.arrivals generalizing e with
  | nil => exact h
  | cons arrival rest ih => exact ih (deliver_preserves preserve delivers h _ _ _)

theorem poll_preserves (delivers : ∀ s bytes ended, R s (Session.deliver s bytes ended))
    (drains : ∀ s, R s (Session.drain s).2) (h : P e) (limited : Bool) (moments : List Moment) :
    P (e.poll limited moments).2 := by
  induction moments generalizing e with
  | nil => exact h
  | cons moment later ih =>
    have looked : P (e.look moment).2 :=
      collect_preserves preserve drains (arrive_preserves preserve delivers h moment) _
    unfold poll
    split
    · next after found => rw [found] at looked; exact ih looked
    · next found => rw [found] at looked; exact looked

end Working

section Steadily

variable {P : Endpoint → Prop} {e : Endpoint}
  (keep : ∀ (e : Endpoint) (id : Nat) (connection : Connection) (after : Session), P e →
    e.connection? id = some connection → (e.sessionOf connection).Steady after →
    P (e.withSession after))

include keep

theorem onSession_keeps {α : Type} {operation : Session → Except EndpointError α × Session}
    (steady : ∀ s : Session, s.Steady (operation s).2) (h : P e) (id : Nat) :
    P (e.onSession id operation).2 :=
  onSession_preserves keep steady h id

theorem deliver_keeps (h : P e) (id : Nat) (bytes : Bytes) (ended : Bool) :
    P (e.deliver id bytes ended) :=
  deliver_preserves keep Session.steady_deliver h id bytes ended

theorem eventsOf_keeps (h : P e) (source : Source) : P (e.eventsOf source).2 :=
  eventsOf_preserves keep Session.steady_drain h source

theorem arrive_keeps (h : P e) (moment : Moment) : P (e.arrive moment) :=
  arrive_preserves keep Session.steady_deliver h moment

theorem poll_keeps (h : P e) (limited : Bool) (moments : List Moment) :
    P (e.poll limited moments).2 :=
  poll_preserves keep Session.steady_deliver Session.steady_drain h limited moments

end Steadily

/-! ## Shutting down -/

/-- A shutdown closes every open connection, forgets every listener and withdraws what is
published. -/
theorem shutdown_eq (e : Endpoint) (faults : Nat → Option FileFault) (board : Board) :
    ∃ closed, closed = e.openIds.foldl (fun endpoint id => (endpoint.close id).2) e ∧
      (e.shutdown faults board).endpoint =
        { closed with
          mux := closed.listeners.foldl
            (fun mux entry => mux.deregister (.listener entry.1) (.listener entry.1)) closed.mux
          listeners := [] } ∧
      (e.shutdown faults board).board = (closed.publication.withdraw faults board).2 := by
  have unwatching (entries : List (Nat × SocketAddress)) (start : Endpoint) :
      entries.foldl (fun endpoint entry =>
        endpoint.unwatch (.listener entry.1) (.listener entry.1)) start =
          { start with
            mux := entries.foldl
              (fun mux entry => mux.deregister (.listener entry.1) (.listener entry.1))
              start.mux } := by
    induction entries generalizing start with
    | nil => rfl
    | cons entry rest ih => exact ih (start.unwatch (.listener entry.1) (.listener entry.1))
  unfold shutdown
  dsimp only
  generalize e.openIds.foldl _ e = closed
  rw [unwatching]
  refine ⟨closed, rfl, ?_⟩
  split
  · next h => exact ⟨rfl, (congrArg Prod.snd h).symm⟩
  · next h => exact ⟨rfl, (congrArg Prod.snd h).symm⟩

end Endpoint

end RdmaLink
