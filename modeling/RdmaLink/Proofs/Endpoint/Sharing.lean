import Mathlib.Logic.Function.Basic
import RdmaLink.Proofs.Endpoint.Publication
import RdmaLink.Proofs.Peers.Basic

/-!
# Two endpoints on one board

Two endpoints may publish on one board, in the same files or in the same slot: one listens, and the
other one waits there until it is ready.  They take turns in any order, and each may go away.

An endpoint with no listener is a bystander.  As long as it is not asked to bind one and is not shut
down, the board and the other endpoint are what they would be if it did nothing:

    (start.run turns).board = (start.run (turns.filter (·.side == side.other))).board
                                                            (Neighbours.bystander_changes_nothing)

Its shutdown withdraws whatever is published, though, and so does not ask whose listener it is
(`Neighbours.bystander_withdraws_other`).
-/

namespace RdmaLink

/-- The event neither binds a listener nor shuts the endpoint down. -/
def EndpointEvent.passive : EndpointEvent → Bool
  | .bind .. | .listen .. | .shutdown .. => false
  | _ => true

/-- Two endpoints that publish on one board; one that went away is missing. -/
structure Neighbours where
  endpoint : Side → Option Endpoint
  board : Board

/-- One of the two endpoints is used, or goes away. -/
inductive NeighbourTurn where
  | work (side : Side) (event : EndpointEvent)
  | leave (side : Side) (faults : Nat → Option FileFault)

namespace NeighbourTurn

def side : NeighbourTurn → Side
  | .work side _ => side
  | .leave side _ => side

/-- Neither is a listener bound nor an endpoint shut down; it may go away. -/
def passive : NeighbourTurn → Bool
  | .work _ event => event.passive
  | .leave _ _ => true

/-- What a turn makes of the endpoint that takes it, and of the board. -/
def apply (turn : NeighbourTurn) (endpoint : Endpoint) (board : Board) :
    Option Endpoint × Board :=
  match turn with
  | .work _ event =>
    let after := Stand.step ⟨endpoint, board⟩ event
    (some after.endpoint, after.board)
  | .leave _ faults => (none, endpoint.abandon faults board)

end NeighbourTurn

namespace Neighbours

def step (pair : Neighbours) (turn : NeighbourTurn) : Neighbours :=
  match pair.endpoint turn.side with
  | none => pair
  | some endpoint =>
    let (after, board) := turn.apply endpoint pair.board
    ⟨Function.update pair.endpoint turn.side after, board⟩

def run (pair : Neighbours) (turns : List NeighbourTurn) : Neighbours := turns.foldl step pair

end Neighbours

/-! ## One turn -/

/-- What is neither bound nor shut down leaves the board as it is, and the listeners too, as long as
there are none. -/
theorem Stand.step_passive (stand : Stand) (unbound : stand.endpoint.listeners = [])
    {event : EndpointEvent} (passive : event.passive = true) :
    (stand.step event).board = stand.board ∧
      (stand.step event).endpoint.front = stand.endpoint.front := by
  cases event with
  | bind address conditions => cases passive
  | listen address binding conditions => cases passive
  | shutdown faults => cases passive
  | accept listener conditions =>
    have unknown : stand.endpoint.listener? listener = none := by
      rw [Endpoint.listener?, unbound]
      rfl
    simp only [Stand.step, Endpoint.accept, unknown]
    exact ⟨rfl, rfl⟩
  | connect address conditions =>
    simp only [Stand.step, Stand.ofOutcome]
    exact ⟨Endpoint.board_connect _ _ _ _,
      Endpoint.front_attempted (Endpoint.attempted_connect _ _ _ _)⟩
  | post connection operation request offset length peerOffset =>
    exact ⟨rfl, Endpoint.front_onSession _ _ _⟩
  | postReceive connection request => exact ⟨rfl, Endpoint.front_onSession _ _ _⟩
  | deliver connection bytes ended =>
    exact ⟨rfl, Endpoint.deliver_keeps (Endpoint.front_keeps _) rfl _ _ _⟩
  | poll limited moments => exact ⟨rfl, Endpoint.poll_keeps (Endpoint.front_keeps _) rfl _ _⟩
  | close connection => exact ⟨rfl, Endpoint.front_close _ _⟩

/-- A passive turn of an endpoint without listeners leaves the board as it is, and what peers look
for on the endpoint if it stays. -/
theorem NeighbourTurn.apply_passive {turn : NeighbourTurn} (passive : turn.passive = true)
    {endpoint : Endpoint} (unbound : endpoint.listeners = []) (board : Board) :
    (turn.apply endpoint board).2 = board ∧
      ∀ after, (turn.apply endpoint board).1 = some after → after.front = endpoint.front := by
  cases turn with
  | work _ event =>
    obtain ⟨same, front⟩ := Stand.step_passive ⟨endpoint, board⟩ unbound passive
    refine ⟨same, ?_⟩
    rintro after ⟨⟩
    exact front
  | leave _ faults =>
    have silent : endpoint.abandon faults board = board := by
      simp only [Endpoint.abandon, unbound, List.isEmpty_nil, if_true]
    refine ⟨silent, fun after stays => ?_⟩
    cases stays

/-- A shutdown leaves on the board what a withdrawal leaves there. -/
theorem Endpoint.board_shutdown (e : Endpoint) (faults : Nat → Option FileFault) (board : Board) :
    (e.shutdown faults board).board = (e.publication.withdraw faults board).2 := by
  obtain ⟨closed, hclosed, -, hboard⟩ := e.shutdown_eq faults board
  have same : closed.front = e.front := by rw [hclosed]; exact front_closed _ _
  rw [hboard, show closed.publication = e.publication from congrArg Front.publication same]

namespace Neighbours

variable {side : Side} {publication : Publication} {pair alone : Neighbours}

theorem board_step {endpoint : Endpoint} {turn : NeighbourTurn}
    (found : pair.endpoint turn.side = some endpoint) :
    (pair.step turn).board = (turn.apply endpoint pair.board).2 := by
  rw [step, found]

theorem endpoint_step {endpoint : Endpoint} {turn : NeighbourTurn}
    (found : pair.endpoint turn.side = some endpoint) :
    (pair.step turn).endpoint turn.side = (turn.apply endpoint pair.board).1 := by
  rw [step, found]
  exact Function.update_self ..

theorem endpoint_step_other {turn : NeighbourTurn} (other : turn.side ≠ side) :
    (pair.step turn).endpoint side = pair.endpoint side := by
  rw [step]
  split
  · rfl
  · exact Function.update_of_ne other.symm _ _

theorem step_missing {turn : NeighbourTurn} (missing : pair.endpoint turn.side = none) :
    pair.step turn = pair := by
  rw [step, missing]

/-- The board and the endpoint on the other side are the same, whatever has been done on this side,
whose endpoint has no listener or has gone away. -/
structure Alike (side : Side) (publication : Publication) (pair alone : Neighbours) : Prop where
  board : pair.board = alone.board
  other : pair.endpoint side.other = alone.endpoint side.other
  bystands : ∀ endpoint, pair.endpoint side = some endpoint →
    endpoint.listeners = [] ∧ endpoint.publication = publication

/-- A turn of the bystander is not noticed. -/
theorem Alike.own (alike : Alike side publication pair alone) {turn : NeighbourTurn}
    (here : turn.side = side) (passive : turn.passive = true) :
    Alike side publication (pair.step turn) alone := by
  subst here
  cases found : pair.endpoint turn.side with
  | none =>
    rw [step_missing found]
    exact alike
  | some endpoint =>
    obtain ⟨unbound, published⟩ := alike.bystands endpoint found
    obtain ⟨board, front⟩ := NeighbourTurn.apply_passive passive unbound pair.board
    refine ⟨?_, ?_, fun after stays => ?_⟩
    · rw [board_step found, board]
      exact alike.board
    · rw [endpoint_step_other (Side.other_ne turn.side).symm]
      exact alike.other
    · rw [endpoint_step found] at stays
      have kept := front after stays
      exact ⟨(congrArg Endpoint.Front.listeners kept).trans unbound,
        (congrArg Endpoint.Front.publication kept).trans published⟩

/-- The other endpoint's turn goes as if the bystander had done nothing. -/
theorem Alike.others (alike : Alike side publication pair alone) {turn : NeighbourTurn}
    (there : turn.side = side.other) :
    Alike side publication (pair.step turn) (alone.step turn) := by
  have same : alone.endpoint turn.side = pair.endpoint turn.side := by
    rw [there, alike.other]
  cases found : pair.endpoint turn.side with
  | none =>
    rw [step_missing found, step_missing (same.trans found)]
    exact alike
  | some endpoint =>
    refine ⟨?_, ?_, fun after stays => ?_⟩
    · rw [board_step found, board_step (same.trans found), alike.board]
    · rw [← there, endpoint_step found, endpoint_step (same.trans found), alike.board]
    · rw [endpoint_step_other (there ▸ Side.other_ne side)] at stays
      exact alike.bystands after stays

/-! ## Whole runs -/

theorem Alike.run (alike : Alike side publication pair alone) (turns : List NeighbourTurn)
    (passive : ∀ turn ∈ turns, turn.side = side → turn.passive = true) :
    Alike side publication (pair.run turns)
      (alone.run (turns.filter fun turn => turn.side == side.other)) := by
  induction turns generalizing pair alone with
  | nil => exact alike
  | cons turn rest ih =>
    have later : ∀ turn ∈ rest, turn.side = side → turn.passive = true :=
      fun turn listed => passive turn (List.mem_cons_of_mem _ listed)
    by_cases there : turn.side = side.other
    · rw [List.filter_cons_of_pos (by simpa using there)]
      exact ih (alike.others there) later
    · rw [List.filter_cons_of_neg (by simpa using there)]
      have here : turn.side = side := by
        revert there
        cases turn.side <;> cases side <;> simp [Side.other]
      exact ih (alike.own here (passive turn List.mem_cons_self here)) later

/-- What an endpoint without listeners does is not noticed by the other one.  In every run in which
it binds no listener and is not shut down, the board and the other endpoint are what the other's own
turns make of them, whatever fails and whether or not the bystander goes away; so what the other one
has published stays as it is.  A shutdown of the bystander alone has to do with the board: it leaves
there what a withdrawal leaves, whoever has published it. -/
theorem bystander_changes_nothing (side : Side) (start : Neighbours) (bystander : Endpoint)
    (present : start.endpoint side = some bystander) (unbound : bystander.listeners = [])
    (turns : List NeighbourTurn)
    (passive : ∀ turn ∈ turns, turn.side = side → turn.passive = true) :
    let after := start.run turns
    let without := start.run (turns.filter fun turn => turn.side == side.other)
    after.board = without.board ∧
    after.endpoint side.other = without.endpoint side.other ∧
    ∀ endpoint, after.endpoint side = some endpoint → endpoint.listeners = [] ∧
      ∀ faults, (after.step (.work side (.shutdown faults))).board =
        (bystander.publication.withdraw faults without.board).2 := by
  intro after without
  have begun : Alike side bystander.publication start start := by
    refine ⟨rfl, rfl, fun endpoint same => ?_⟩
    rw [present] at same
    cases same
    exact ⟨unbound, rfl⟩
  have alike : Alike side bystander.publication after without := begun.run turns passive
  refine ⟨alike.board, alike.other, fun endpoint found => ?_⟩
  obtain ⟨none, published⟩ := alike.bystands endpoint found
  refine ⟨none, fun faults => ?_⟩
  have shut : (after.step (.work side (.shutdown faults))).board =
      (endpoint.shutdown faults after.board).board := board_step found
  rw [shut, endpoint.board_shutdown, published, alike.board]

/-- A connector waits for a listener, calls in vain and goes away, while the listener binds; its
address stays published. -/
theorem caller_leaves_publication :
    let region : Region := ⟨"shared", 4096, 16, fun _ => 0, by decide⟩
    let config := EndpointConfig.ofService "shared"
    let endpoint := Endpoint.opened config Device.soft .memory region
    let address : SocketAddress := .v4 Ipv4.loopback 4001
    let start : Neighbours := ⟨fun _ => some endpoint, ⟨⟨[]⟩, none⟩⟩
    let call : EndpointEvent :=
      .connect address ⟨0, none, .error .unexpectedEnd, ⟨[], ⟨1, 0, .ok 40000⟩⟩,
        ⟨fun _ => .error .unexpectedEnd, none, 0⟩, none⟩
    let bind : NeighbourTurn :=
      .work .left (.bind address ⟨.ok address, none, Publication.noFaults⟩)
    let turns : List NeighbourTurn :=
      [.work .right call, bind, .work .right call, .work .right (.close 1),
        .leave .right Publication.noFaults]
    start.endpoint .right = some endpoint ∧ endpoint.listeners = [] ∧
      (∀ turn ∈ turns, turn.side = .right → turn.passive = true) ∧
      (start.run turns).board.slot = some address := by
  intro region config endpoint address start call bind turns
  have passive : ∀ turn ∈ turns, turn.side = .right → turn.passive = true := by
    intro turn listed right
    simp only [turns, List.mem_cons, List.not_mem_nil, or_false] at listed
    rcases listed with rfl | rfl | rfl | rfl | rfl
    all_goals first | rfl | cases right
  have same := (bystander_changes_nothing .right start endpoint rfl rfl turns passive).1
  have others : (turns.filter fun turn => turn.side == Side.right.other) = [bind] := rfl
  refine ⟨rfl, rfl, passive, ?_⟩
  rw [same, others]
  rfl

/-- One endpoint listens; the other one, which has no listener, is shut down, and the listener that
is still bound is no longer published. -/
theorem bystander_withdraws_other :
    let region : Region := ⟨"shared", 4096, 16, fun _ => 0, by decide⟩
    let config := EndpointConfig.ofService "shared"
    let endpoint := Endpoint.opened config Device.soft .memory region
    let address : SocketAddress := .v4 Ipv4.loopback 4001
    let start : Neighbours := ⟨fun _ => some endpoint, ⟨⟨[]⟩, none⟩⟩
    let listening := start.step
      (.work .left (.bind address ⟨.ok address, none, Publication.noFaults⟩))
    let after := listening.step (.work .right (.shutdown Publication.noFaults))
    listening.board.slot = some address ∧
      (listening.endpoint .right).map Endpoint.listeners = some [] ∧
      (after.endpoint .left).map Endpoint.listeners = some [(1, address)] ∧
      after.board.slot = none := by
  exact ⟨rfl, rfl, rfl, rfl⟩

end Neighbours

end RdmaLink
