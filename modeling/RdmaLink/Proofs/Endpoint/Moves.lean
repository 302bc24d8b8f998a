import RdmaLink.Proofs.Connection.Runs
import RdmaLink.Proofs.Endpoint.Resources

/-!
# Moves of an endpoint

Every call of a program, and everything that arrives, is for an endpoint a row of moves.  There are
three: the listeners and what is watched change; a connection of the table works or is closed; or
there is an attempt to bring one up.

    stand.endpoint.Moves (stand.step event).endpoint                          (Stand.moves_step)

So what holds of an endpoint at the start and is kept by the three moves holds after every run
(`Stand.moves_induction`).
-/

namespace RdmaLink

/-- The events that a connection in the table of an endpoint sees. -/
inductive ConnectionEvent.InTable : ConnectionEvent → Prop
  | post (operation : SendOperation) (request : UInt64) (offset length peerOffset : Nat) :
      InTable (.post operation request offset length peerOffset)
  | postReceive (request : UInt64) : InTable (.postReceive request)
  | deliver (bytes : Bytes) (ended : Bool) : InTable (.deliver bytes ended)
  | drain : InTable .drain
  | close : InTable .close

/-- A connection in a table takes nothing from its device, and gives back only when it is closed. -/
theorem ConnectionEvent.InTable.steady {event : ConnectionEvent} (own : event.InTable)
    (s : Session) : s.Steady (s.step event) ∨ event = .close := by
  cases own with
  | post operation request offset length peerOffset => exact Or.inl (s.steady_post _ _ _ _ _)
  | postReceive request => exact Or.inl (s.steady_postReceive request)
  | deliver bytes ended => exact Or.inl (s.steady_deliver bytes ended)
  | drain => exact Or.inl s.steady_drain
  | close => exact Or.inr rfl

namespace Endpoint

inductive Move (e : Endpoint) : Endpoint → Prop
  | listening (mux : Multiplexer Descriptor) (listeners : List (Nat × SocketAddress))
      (nextListener : Nat) :
      Move e { e with mux := mux, listeners := listeners, nextListener := nextListener }
  | working {id : Nat} {connection : Connection} {event : ConnectionEvent}
      (found : e.connection? id = some connection) (own : event.InTable) :
      Move e (e.withSession ((e.sessionOf connection).step event))
  | attempted {result : Except EndpointError Nat} {t : Endpoint} (attempt : e.Attempted result t) :
      Move e t

/-- Any number of moves, one after the other. -/
inductive Moves (e : Endpoint) : Endpoint → Prop
  | refl : Moves e e
  | step {t u : Endpoint} (earlier : Moves e t) (last : Move t u) : Moves e u

variable {e t u : Endpoint}

theorem Move.moves (h : e.Move t) : e.Moves t := .step .refl h

theorem Moves.trans (h : e.Moves t) (h' : t.Moves u) : e.Moves u := by
  induction h' with
  | refl => exact h
  | step _ last ih => exact .step ih last

/-! ## Listeners -/

theorem moves_bind (e : Endpoint) (address : SocketAddress) (conditions : BindConditions)
    (board : Board) : e.Moves (e.bind address conditions board).endpoint := by
  unfold bind
  split
  · exact .refl
  · dsimp only
    split
    · exact (Move.listening _ _ _).moves
    · next watching watched =>
      obtain ⟨mux, -, rfl⟩ := watch_eq_ok watched
      split
      · exact (Move.listening _ _ _).moves
      · exact (Move.listening _ _ _).moves

theorem moves_accept (e : Endpoint) (listener : Nat) (conditions : AcceptConditions)
    (board : Board) : e.Moves (e.accept listener conditions board).outcome.endpoint := by
  rcases e.accept_paths listener conditions board with
    ⟨fault, refused⟩ | ⟨address, attempt, hattempt, taken⟩
  · rw [refused]
    exact .refl
  · rw [taken, hattempt]
    exact (Move.listening _ _ _).moves.step (.attempted (attempted_acceptOn _ address conditions))

theorem moves_listen (e : Endpoint) (address : SocketAddress) (binding : BindConditions)
    (conditions : AcceptConditions) (board : Board) :
    e.Moves (e.listen address binding conditions board).outcome.endpoint := by
  have bound := e.moves_bind address binding board
  unfold listen
  dsimp only
  split
  · exact bound
  · exact bound.trans (moves_accept _ _ _ _)

/-! ## Connections -/

section Working

variable (e)

/-- A session that an event of its connection has led on. -/
def Led (s after : Session) : Prop :=
  ∃ event : ConnectionEvent, event.InTable ∧ after = s.step event

theorem Moves.led (start t : Endpoint) (id : Nat) (connection : Connection) (after : Session)
    (earlier : start.Moves t) (found : t.connection? id = some connection)
    (led : Led (t.sessionOf connection) after) : start.Moves (t.withSession after) := by
  obtain ⟨event, own, rfl⟩ := led
  exact earlier.step (.working found own)

theorem moves_post (id : Nat) (operation : SendOperation) (request : UInt64)
    (offset length peerOffset : Nat) :
    e.Moves (e.post id operation request offset length peerOffset).2 :=
  onSession_preserves (Moves.led e)
    (fun _ => ⟨_, .post operation request offset length peerOffset, rfl⟩) .refl id

theorem moves_postReceive (id : Nat) (request : UInt64) :
    e.Moves (e.postReceive id request).2 :=
  onSession_preserves (Moves.led e) (fun _ => ⟨_, .postReceive request, rfl⟩) .refl id

theorem moves_deliver (id : Nat) (bytes : Bytes) (ended : Bool) :
    e.Moves (e.deliver id bytes ended) :=
  deliver_preserves (Moves.led e) (fun _ bytes ended => ⟨_, .deliver bytes ended, rfl⟩) .refl
    id bytes ended

theorem moves_poll (limited : Bool) (moments : List Moment) :
    e.Moves (e.poll limited moments).2 :=
  poll_preserves (Moves.led e) (fun _ bytes ended => ⟨_, .deliver bytes ended, rfl⟩)
    (fun _ => ⟨_, .drain, rfl⟩) .refl limited moments

theorem moves_close (id : Nat) : e.Moves (e.close id).2 := by
  have closed : e.Moves (e.onSession id Session.close).2 :=
    onSession_preserves (Moves.led e) (fun _ => ⟨_, .close, rfl⟩) .refl id
  unfold close
  split
  · next h => rw [h] at closed; exact closed
  · next after h => rw [h] at closed; exact closed.step (.listening _ _ _)

end Working

theorem moves_shutdown (e : Endpoint) (faults : Nat → Option FileFault) (board : Board) :
    e.Moves (e.shutdown faults board).endpoint := by
  have closing (ids : List Nat) (start : Endpoint) :
      start.Moves (ids.foldl (fun endpoint id => (endpoint.close id).2) start) := by
    induction ids generalizing start with
    | nil => exact .refl
    | cons id rest ih => exact (start.moves_close id).trans (ih _)
  obtain ⟨closed, hclosed, he, -⟩ := e.shutdown_eq faults board
  have moved := closing e.openIds e
  rw [← hclosed] at moved
  rw [he]
  exact moved.step (.listening _ _ _)

/-! ## Books -/

/-- What holds of the books of an endpoint is kept by its moves. -/
theorem Move.kept (h : e.Move t) (kept : e.books.Kept) : t.books.Kept := by
  cases h with
  | listening mux listeners nextListener => exact kept
  | @working id connection event found own =>
    rcases own.steady (e.sessionOf connection) with steady | rfl
    · rw [books_steady kept.sound found steady]
      exact kept
    · rcases closing_cases kept.sound found with
        ⟨registration, -, -, released⟩ | ⟨-, refused, same⟩
      · exact kept.released released
      · rw [show (e.sessionOf connection).step .close = (e.sessionOf connection).close.2 from rfl,
          refused, same]
        exact kept
  | @attempted result t attempt =>
    have tried := tried_attempted kept.sound.alone kept.sound.yields attempt
    cases result with
    | error fault => exact kept.missed tried.2
    | ok id => exact kept.gained tried.2

end Endpoint

namespace Stand

theorem moves_step (stand : Stand) (event : EndpointEvent) :
    stand.endpoint.Moves (stand.step event).endpoint := by
  cases event with
  | bind address conditions => exact Endpoint.moves_bind _ _ _ _
  | accept listener conditions => exact Endpoint.moves_accept _ _ _ _
  | listen address binding conditions => exact Endpoint.moves_listen _ _ _ _ _
  | connect address conditions =>
    exact (Endpoint.Move.attempted (Endpoint.attempted_connect _ _ _ _)).moves
  | post connection operation request offset length peerOffset =>
    exact Endpoint.moves_post _ _ _ _ _ _ _
  | postReceive connection request => exact Endpoint.moves_postReceive _ _ _
  | deliver connection bytes ended => exact Endpoint.moves_deliver _ _ _ _
  | poll limited moments => exact Endpoint.moves_poll _ _ _
  | close connection => exact Endpoint.moves_close _ _
  | shutdown faults => exact Endpoint.moves_shutdown _ _ _

/-- What holds of an endpoint at the start and is kept by every move holds after every run. -/
theorem moves_induction {P : Endpoint → Prop} {stand : Stand} (base : P stand.endpoint)
    (keep : ∀ e t : Endpoint, P e → e.Move t → P t) (events : List EndpointEvent) :
    P (stand.run events).endpoint := by
  refine run_induction (P := fun s => P s.endpoint) base (fun s event h => ?_) events
  have moves := s.moves_step event
  generalize (s.step event).endpoint = after at moves
  induction moves with
  | refl => exact h
  | step _ last ih => exact keep _ _ ih last

end Stand

end RdmaLink
