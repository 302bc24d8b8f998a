import RdmaLink.Proofs.Connection.Loss
import RdmaLink.Proofs.Endpoint.Watching

/-!
# The queues of an endpoint

Only a poll takes completions out of the queues.  Every other call, and what happens to the
connections meanwhile, leaves each queue as it is or pushes completions on it, and a connection
that is installed comes with a queue from which nothing was taken.

    e.Extends t → ∃ kept, t.queued id = e.queued id ++ kept        (Endpoint.Extends.queued)
    event.isPoll = false → s.endpoint.Extends (s.step event).endpoint   (Stand.extends_step)
-/

namespace RdmaLink

/-- Whether an event is a poll. -/
def EndpointEvent.isPoll : EndpointEvent → Bool
  | .poll _ _ => true
  | _ => false

namespace CompletionQueue

/-- What becomes of the queue under a number while nothing is taken from it. -/
inductive Becomes : Option CompletionQueue → Option CompletionQueue → Prop
  | absent : Becomes none none
  | made {depth : Nat} {r : CompletionQueue} (grown : Grows (ofDepth depth) r) :
      Becomes none (some r)
  | grown {q r : CompletionQueue} (grown : Grows q r) : Becomes (some q) (some r)

namespace Becomes

theorem refl (q : Option CompletionQueue) : Becomes q q := by
  cases q with
  | none => exact .absent
  | some q => exact .grown (.refl q)

theorem trans {q r t : Option CompletionQueue} (h : Becomes q r) (h' : Becomes r t) :
    Becomes q t := by
  cases h with
  | absent => exact h'
  | made first =>
    cases h' with
    | grown later => exact .made (first.trans later)
  | grown first =>
    cases h' with
    | grown later => exact .grown (first.trans later)

end Becomes

end CompletionQueue

namespace Endpoint

open CompletionQueue (Becomes)

/-- The queue of a connection. -/
def queue? (e : Endpoint) (id : Nat) : Option CompletionQueue :=
  (e.connection? id).map Connection.completions

/-- The completions that the queue of a connection holds, oldest first. -/
def queued (e : Endpoint) (id : Nat) : List Completion :=
  ((e.queue? id).map CompletionQueue.toList).getD []

theorem queue?_of_found {e : Endpoint} {id : Nat} {connection : Connection}
    (found : e.connection? id = some connection) : e.queue? id = some connection.completions := by
  rw [queue?, found]; rfl

theorem queued_of_found {e : Endpoint} {id : Nat} {connection : Connection}
    (found : e.connection? id = some connection) :
    e.queued id = connection.completions.toList := by
  rw [queued, queue?_of_found found]; rfl

/-- From one endpoint to the other nothing is taken out of a queue. -/
def Extends (e t : Endpoint) : Prop := ∀ id, Becomes (e.queue? id) (t.queue? id)

namespace Extends

variable {e t u : Endpoint}

theorem refl (e : Endpoint) : e.Extends e := fun _ => .refl _

theorem trans (h : e.Extends t) (h' : t.Extends u) : e.Extends u := fun id => (h id).trans (h' id)

theorem of_connections (same : t.connections = e.connections) : e.Extends t := by
  intro id
  rw [show t.queue? id = e.queue? id by unfold queue? connection?; rw [same]]
  exact .refl _

/-- A queue keeps what it holds, in its order, and what is added stands behind it. -/
theorem queued (h : e.Extends t) (id : Nat) : ∃ kept, t.queued id = e.queued id ++ kept := by
  unfold Endpoint.queued
  have becomes := h id
  generalize e.queue? id = q at becomes
  generalize t.queue? id = r at becomes
  cases becomes with
  | absent => exact ⟨[], rfl⟩
  | @made _ r _ => exact ⟨r.toList, rfl⟩
  | grown grown =>
    obtain ⟨reports, grown⟩ := grown
    obtain ⟨kept, held, -⟩ := CompletionQueue.toList_foldl_push grown
    exact ⟨kept, held⟩

/-- A connection stays. -/
theorem found (h : e.Extends t) {id : Nat} {connection : Connection}
    (found : e.connection? id = some connection) : ∃ after, t.connection? id = some after := by
  have becomes := h id
  rw [queue?_of_found found] at becomes
  cases hq : t.queue? id with
  | none => rw [hq] at becomes; cases becomes
  | some q =>
    obtain ⟨after, present, -⟩ := Option.map_eq_some_iff.mp hq
    exact ⟨after, present⟩

/-- The signals stay right. -/
theorem signalled (h : e.Extends t) (right : ∀ id q, e.queue? id = some q → q.Signalled) (id : Nat)
    {r : CompletionQueue} (present : t.queue? id = some r) : r.Signalled := by
  have becomes := h id
  rw [present] at becomes
  cases hq : e.queue? id with
  | none =>
    rw [hq] at becomes
    cases becomes with
    | made grown => exact (CompletionQueue.signalled_ofDepth _).grows grown
  | some q =>
    rw [hq] at becomes
    cases becomes with
    | grown grown => exact (right id q hq).grows grown

end Extends

/-! ## Connections that are up -/

section Working

variable {e : Endpoint} {id : Nat} {connection : Connection}

/-- What replaces a connection is looked up in its place. -/
theorem connection?_withConnection (e : Endpoint) (connection : Connection) (id : Nat) :
    (e.withConnection connection).connection? id =
      (e.connection? id).map fun old => if id = connection.id then connection else old := by
  unfold connection? withConnection
  dsimp only
  induction e.connections with
  | nil => rfl
  | cons entry rest ih =>
    obtain ⟨key, old⟩ := entry
    rw [List.map_cons]
    by_cases same : id = key
    · subst same
      by_cases its : id = connection.id
      · simp [its]
      · simp [its]
    · have apart : (id == key) = false := beq_eq_false_iff_ne.mpr same
      split
      · simpa only [List.lookup_cons, apart] using ih
      · simpa only [List.lookup_cons, apart] using ih

theorem connection?_afterSession (e : Endpoint) (session : Session) (id : Nat) :
    (e.afterSession session).connection? id = e.connection? id := by
  unfold connection?
  rw [connections_afterSession]

theorem found_withConnection (found : e.connection? id = some connection) {after : Connection}
    (number : after.id = id) : (e.withConnection after).connection? id = some after := by
  rw [connection?_withConnection, found, Option.map_some, if_pos number.symm]

theorem connection?_withConnection_of_ne {after : Connection} (apart : id ≠ after.id) :
    (e.withConnection after).connection? id = e.connection? id := by
  rw [connection?_withConnection]
  simp only [apart, if_false, Option.map_id']

theorem queue?_withConnection_of_ne {after : Connection} (apart : id ≠ after.id) :
    (e.withConnection after).queue? id = e.queue? id := by
  rw [queue?, connection?_withConnection_of_ne apart]
  rfl

/-- A connection is replaced by one on whose queue completions were pushed. -/
theorem extends_withConnection (found : e.connection? id = some connection) {after : Connection}
    (number : after.id = id) (grown : connection.completions.Grows after.completions) :
    e.Extends (e.withConnection after) := by
  intro other
  by_cases its : other = id
  · subst its
    rw [queue?_of_found found, queue?_of_found (found_withConnection found number)]
    exact .grown grown
  · rw [queue?_withConnection_of_ne (by rw [number]; exact its)]
    exact .refl _

/-- An event of a connection takes nothing out of the queues, if it is not a drain. -/
theorem extends_withSession (tidy : e.roster.Tidy) (found : e.connection? id = some connection)
    (event : ConnectionEvent) (other : event ≠ .drain) :
    e.Extends (e.withSession ((e.sessionOf connection).step event)) := by
  have listed := connections_afterSession e ((e.sessionOf connection).step event)
  have number := (Session.id_step (e.sessionOf connection) event).trans
    (number_of_found tidy found)
  refine (Extends.of_connections listed).trans (extends_withConnection ?_ number
    (Session.grows_step (e.sessionOf connection) other))
  rw [connection?_afterSession]
  exact found

theorem extends_onSession {α : Type} {operation : Session → Except EndpointError α × Session}
    (tidy : e.roster.Tidy) (id : Nat) (event : ConnectionEvent) (other : event ≠ .drain)
    (steps : ∀ s, (operation s).2 = s.step event) : e.Extends (e.onSession id operation).2 := by
  unfold onSession
  split
  · exact .refl e
  · next connection found =>
    dsimp only
    rw [steps]
    exact extends_withSession tidy found event other

theorem extends_deliver (tidy : e.roster.Tidy) (id : Nat) (bytes : Bytes) (ended : Bool) :
    e.Extends (e.deliver id bytes ended) := by
  unfold deliver
  split
  · exact .refl e
  · next connection found =>
    exact extends_withSession tidy found (.deliver bytes ended) nofun

theorem extends_close (tidy : e.roster.Tidy) (id : Nat) : e.Extends (e.close id).2 := by
  have closed : e.Extends (e.onSession id Session.close).2 :=
    extends_onSession tidy id .close nofun fun _ => rfl
  unfold close
  split
  · next h => rw [h] at closed; exact closed
  · next after h => rw [h] at closed; exact closed.trans (.of_connections rfl)

theorem extends_shutdown (tidy : e.roster.Tidy) (faults : Nat → Option FileFault)
    (board : Board) : e.Extends (e.shutdown faults board).endpoint := by
  have closing (ids : List Nat) (start : Endpoint) (tidy : start.roster.Tidy) :
      start.Extends (ids.foldl (fun endpoint id => (endpoint.close id).2) start) := by
    induction ids generalizing start with
    | nil => exact .refl _
    | cons id rest ih =>
      exact (extends_close tidy id).trans (ih _ (tidy.shifts (shifts_close tidy id)))
  obtain ⟨closed, hclosed, he, -⟩ := e.shutdown_eq faults board
  have extended := closing e.openIds e tidy
  rw [← hclosed] at extended
  rw [he]
  exact extended.trans (.of_connections rfl)

end Working

/-! ## Attempts to bring a connection up -/

theorem extends_attempted {e t : Endpoint} {result : Except EndpointError Nat}
    (h : e.Attempted result t) : e.Extends t := by
  cases h with
  | nothing fault => exact .refl e
  | unopened fault spends => exact .of_connections (connections_withCarrier _ _ _)
  | @givenUp transport session after record fault opens reached =>
    exact .of_connections ((connections_afterSession _ after.release).trans
      (connections_afterSession e.counted session))
  | @installed transport session after record mux opens reached watched =>
    have grown : (CompletionQueue.ofDepth (e.settings transport).depth).Grows
        after.connection.completions := by
      rcases reached with rfl | ⟨exchange, conditions, rfl⟩
      · rw [opens.completions]; exact .refl _
      · rw [Session.completions_activate, opens.completions]; exact .refl _
    intro id
    unfold queue? connection?
    rw [List.lookup_append]
    cases e.connections.lookup id with
    | some connection => exact .refl _
    | none =>
      rw [Option.none_or, List.lookup_cons]
      split
      · exact .made grown
      · exact .absent

theorem extends_accept (e : Endpoint) (listener : Nat) (conditions : AcceptConditions)
    (board : Board) : e.Extends (e.accept listener conditions board).outcome.endpoint := by
  rcases e.accept_paths listener conditions board with
    ⟨fault, refused⟩ | ⟨address, attempt, hattempt, taken⟩
  · rw [refused]
    exact .refl e
  · rw [taken, hattempt]
    have first : e.Extends (e.withoutListener listener) := .of_connections rfl
    exact first.trans (extends_attempted (attempted_acceptOn _ address conditions))

theorem extends_bind (e : Endpoint) (address : SocketAddress) (conditions : BindConditions)
    (board : Board) : e.Extends (e.bind address conditions board).endpoint :=
  .of_connections (books_bind e address conditions board).2

theorem extends_listen (e : Endpoint) (address : SocketAddress) (binding : BindConditions)
    (conditions : AcceptConditions) (board : Board) :
    e.Extends (e.listen address binding conditions board).outcome.endpoint := by
  have bound := extends_bind e address binding board
  unfold listen
  dsimp only
  split
  · exact bound
  · exact bound.trans (extends_accept _ _ conditions _)

end Endpoint

/-- No call takes a completion out of a queue, except for a poll. -/
theorem Stand.extends_step {stand : Stand} (tidy : stand.endpoint.roster.Tidy)
    {event : EndpointEvent} (other : event.isPoll = false) :
    stand.endpoint.Extends (stand.step event).endpoint := by
  cases event with
  | bind address conditions => exact Endpoint.extends_bind _ _ _ _
  | accept listener conditions => exact Endpoint.extends_accept _ _ _ _
  | listen address binding conditions => exact Endpoint.extends_listen _ _ _ _ _
  | connect address conditions =>
    exact Endpoint.extends_attempted (stand.endpoint.attempted_connect _ _ _)
  | post connection operation request offset length peerOffset =>
    exact Endpoint.extends_onSession tidy _ (.post operation request offset length peerOffset) nofun
      fun _ => rfl
  | postReceive connection request =>
    exact Endpoint.extends_onSession tidy _ (.postReceive request) nofun fun _ => rfl
  | deliver connection bytes ended => exact Endpoint.extends_deliver tidy _ _ _
  | poll limited moments => cases other
  | close connection => exact Endpoint.extends_close tidy _
  | shutdown faults => exact Endpoint.extends_shutdown tidy _ _

end RdmaLink
