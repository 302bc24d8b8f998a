import Mathlib.Data.List.Nodup
import RdmaLink.Proofs.Endpoint.Books
import RdmaLink.Proofs.Endpoint.Roster

/-!
# Tables and multiplexer

What every operation of an endpoint does to its roster, over whatever device and with whatever
outcome, and what follows: the multiplexer watches exactly the listeners and the open connections
of the tables, each under its own token, and no number is given out twice.

    e.roster.Tidy → e.roster.Hands (s.handed event) (s.step event).endpoint.roster
                                                                       (Stand.hands_step)
    e.roster.Tidy → e.roster.Hands (s.handedOut events) (s.run events).endpoint.roster
                                                                       (Stand.hands_run)
-/

namespace RdmaLink

namespace Roster

/-- What comes of an attempt to bring a connection up: numbers are spent, or a connection is
installed under the next one. -/
def Admits (r : Roster) (result : Except EndpointError Nat) (t : Roster) : Prop :=
  match result with
  | .error _ => r.Spent t
  | .ok id => id = r.nextConnection ∧ r.Installed t

theorem Spent.refl (r : Roster) : r.Spent r :=
  ⟨r.nextListener, r.nextConnection, Nat.le_refl _, Nat.le_refl _, rfl⟩

/-- The number of the next connection is spent. -/
def counted (r : Roster) : Roster := { r with nextConnection := r.nextConnection + 1 }

theorem spent_counted (r : Roster) : r.Spent r.counted :=
  ⟨r.nextListener, r.nextConnection + 1, Nat.le_refl _, Nat.le_succ _, rfl⟩

theorem Admits.shifts {r t : Roster} {result : Except EndpointError Nat} (h : r.Admits result t) :
    Shifts r t := by
  cases result with
  | error _ => exact (Shift.spend h).shifts
  | ok _ => exact (Shift.install h.2).shifts

end Roster

namespace Endpoint

open Roster (Tidy Shift Shifts)

@[simp] theorem roster_withCarrier (e : Endpoint) (transport : Transport) (device : Device) :
    (e.withCarrier transport device).roster = e.roster := by
  unfold withCarrier
  split <;> rfl

@[simp] theorem roster_afterSession (e : Endpoint) (session : Session) :
    (e.afterSession session).roster = e.roster :=
  roster_withCarrier e session.connection.transport session.device

/-! ## Binding -/

/-- The address that a bind comes to publish, if it comes that far. -/
def BindConditions.toPublish (conditions : BindConditions) : Option SocketAddress :=
  match conditions.watchFault with
  | none => conditions.bound.toOption
  | some _ => none

/-- The paths through a bind.  It fails with nothing to publish; or publishing fails, and the
listener is watched no more; or the listener is bound under the next number. -/
theorem bind_paths {e : Endpoint} (tidy : e.roster.Tidy) (address : SocketAddress)
    (conditions : BindConditions) (board : Board) :
    (∃ fault next, conditions.toPublish = none ∧ e.nextListener ≤ next ∧
      e.bind address conditions board = ⟨.error fault, { e with nextListener := next }, board⟩) ∨
    (∃ bound cause after, conditions.toPublish = some bound ∧
      e.publication.publish conditions.faults bound board = (.error cause, after) ∧
      e.bind address conditions board =
        ⟨.error (.ofPublication cause), { e with nextListener := e.nextListener + 1 }, after⟩) ∨
    (∃ bound mux after, conditions.toPublish = some bound ∧
      e.mux.register (.listener e.nextListener) (.listener e.nextListener) = .ok mux ∧
      e.publication.publish conditions.faults bound board = (.ok (), after) ∧
      e.bind address conditions board =
        ⟨.ok e.nextListener,
          { e with
            listeners := e.listeners ++ [(e.nextListener, bound)]
            nextListener := e.nextListener + 1
            mux := mux },
          after⟩) := by
  obtain ⟨mux, registered, restored⟩ : ∃ mux,
      e.mux.register (.listener e.nextListener) (.listener e.nextListener) = .ok mux ∧
      mux.deregister (.listener e.nextListener) (.listener e.nextListener) = e.mux :=
    have registered := Multiplexer.register_of_fresh tidy.matched tidy.fresh_listener
    ⟨_, registered,
      Multiplexer.deregister_register tidy.matched tidy.fresh_listener registered⟩
  unfold bind BindConditions.toPublish
  cases conditions.bound with
  | error cause =>
    refine Or.inl ⟨_, e.nextListener, ?_, Nat.le_refl _, rfl⟩
    cases conditions.watchFault <;> rfl
  | ok bound =>
    dsimp only
    unfold watch
    cases conditions.watchFault with
    | some errno => exact Or.inl ⟨_, e.nextListener + 1, rfl, Nat.le_succ _, rfl⟩
    | none =>
      refine Or.inr ?_
      dsimp only
      rw [registered]
      dsimp only
      split
      · next cause after published =>
        refine Or.inl ⟨bound, cause, after, rfl, published, ?_⟩
        simp only [unwatch, restored]
      · next after published => exact Or.inr ⟨bound, mux, after, rfl, rfl, published, rfl⟩

theorem shifts_bind {e : Endpoint} (tidy : e.roster.Tidy) (address : SocketAddress)
    (conditions : BindConditions) (board : Board) :
    Shifts e.roster (e.bind address conditions board).endpoint.roster ∧
      ∀ id, (e.bind address conditions board).result = .ok id → id = e.nextListener ∧
        (e.bind address conditions board).endpoint.nextListener = e.nextListener + 1 := by
  have spent (next : Nat) (forward : e.nextListener ≤ next) :
      Shifts e.roster ({ e with nextListener := next } : Endpoint).roster :=
    (Shift.spend ⟨next, e.nextConnection, forward, Nat.le_refl _, rfl⟩).shifts
  rcases bind_paths tidy address conditions board with ⟨fault, next, -, forward, h⟩ |
    ⟨bound, cause, after, -, -, h⟩ | ⟨bound, mux, after, -, registered, -, h⟩
  · rw [h]
    exact ⟨spent next forward, nofun⟩
  · rw [h]
    exact ⟨spent _ (Nat.le_succ _), nofun⟩
  · rw [h]
    refine ⟨?_, fun id same => ⟨(Except.ok.inj same).symm, rfl⟩⟩
    have shift := (Shift.bind (r := e.roster) registered).shifts
    have listed : ({ e with
        listeners := e.listeners ++ [(e.nextListener, bound)]
        nextListener := e.nextListener + 1
        mux := mux } : Endpoint).roster = { e.roster with
          listeners := e.roster.listeners ++ [e.nextListener]
          nextListener := e.nextListener + 1
          mux := mux } := by
      simp only [roster, List.map_append, List.map_singleton]
    rw [listed]
    exact shift

/-! ## Attempts to bring a connection up -/

section Attempts

theorem roster_withoutListener (e : Endpoint) (listener : Nat) :
    (e.withoutListener listener).roster =
      { e.roster with
        listeners := e.roster.listeners.filter (· != listener)
        mux := e.roster.mux.deregister (.listener listener) (.listener listener) } := by
  simp only [withoutListener, roster, unwatch, List.filter_map]
  rfl

theorem admits_attempted {e t : Endpoint} {result : Except EndpointError Nat}
    (h : e.Attempted result t) : e.roster.Admits result t.roster := by
  cases h with
  | nothing fault => exact .refl _
  | unopened fault spends =>
    rw [roster_withCarrier]
    exact e.roster.spent_counted
  | givenUp fault opens reached =>
    rw [roster_afterSession, roster_afterSession]
    exact e.roster.spent_counted
  | @installed transport session after record mux opens reached watched =>
    obtain ⟨registration, -, -, holding⟩ := opens.charged_after reached
    have numbers := roster_afterSession { e.counted.afterSession session with mux := mux } after
    have before := roster_afterSession e.counted session
    refine ⟨rfl, mux, after.connection.holding, watched, ?_, ?_, ?_⟩
    · exact congrArg Holding.connection holding
    · exact congrArg Holding.isOpen holding
    · simp only [roster, Roster.mk.injEq, List.map_append, List.map_singleton] at numbers before ⊢
      obtain ⟨listeners, -, nextListener, nextConnection, watching⟩ := numbers
      exact ⟨listeners.trans before.1, trivial, nextListener.trans before.2.2.1,
        nextConnection.trans before.2.2.2.1, watching⟩

/-- What an attempt that succeeds hands out is the next number. -/
theorem next_of_admits {r t : Roster} {result : Except EndpointError Nat} (h : r.Admits result t)
    {id : Nat} (ok : result = .ok id) : id = r.nextConnection ∧ t.nextConnection = id + 1 := by
  subst ok
  obtain ⟨number, mux, holding, -, -, -, rfl⟩ := h
  exact ⟨number, congrArg (· + 1) number.symm⟩

theorem shifts_accept (e : Endpoint) (listener : Nat) (conditions : AcceptConditions)
    (board : Board) :
    Shifts e.roster (e.accept listener conditions board).outcome.endpoint.roster ∧
      ∀ id, (e.accept listener conditions board).outcome.result = .ok id →
        id = e.nextConnection ∧
        (e.accept listener conditions board).outcome.endpoint.nextConnection = id + 1 := by
  rcases e.accept_paths listener conditions board with
    ⟨fault, refused⟩ | ⟨address, attempt, hattempt, taken⟩
  · rw [refused]
    exact ⟨.refl _, nofun⟩
  · rw [taken, hattempt]
    have admits := admits_attempted
      (attempted_acceptOn (e.withoutListener listener) address conditions)
    have first : Shifts e.roster (e.withoutListener listener).roster := by
      rw [roster_withoutListener]
      exact (Shift.take listener).shifts
    exact ⟨first.trans admits.shifts, fun id ok => next_of_admits admits ok⟩

end Attempts

/-! ## Connections that are up -/

section Working

variable {e : Endpoint} {id : Nat} {connection : Connection}

theorem numbered_of_tidy (tidy : e.roster.Tidy) : (e.connections.map Prod.fst).Nodup := by
  have := tidy.numbered
  simp only [roster, List.map_map] at this
  exact this

theorem listed_of_found (found : e.connection? id = some connection) :
    (id, connection.holding) ∈ e.roster.connections :=
  List.mem_map.mpr ⟨(id, connection), mem_of_found found, rfl⟩

theorem number_of_found (tidy : e.roster.Tidy) (found : e.connection? id = some connection) :
    connection.id = id :=
  tidy.named _ (listed_of_found found)

/-- What a session of a connection does to the roster. -/
theorem roster_withSession (tidy : e.roster.Tidy) (found : e.connection? id = some connection)
    {after : Session} (number : after.connection.id = id) :
    ∃ former later, e.roster.connections = former ++ (id, connection.holding) :: later ∧
      (e.withSession after).roster =
        { e.roster with connections := former ++ (id, after.connection.holding) :: later } := by
  have moved := roster_afterSession e after
  obtain ⟨former, later, split, replaced⟩ :=
    withSession_split (numbered_of_tidy tidy) found number
  refine ⟨former.map fun entry => (entry.1, entry.2.holding),
    later.map fun entry => (entry.1, entry.2.holding), ?_, ?_⟩
  · simp only [roster, split, List.map_append, List.map_cons]
  · simp only [roster, Roster.mk.injEq] at moved
    obtain ⟨hl, -, hnl, hnc, hm⟩ := moved
    have listeners : (e.withSession after).listeners.map Prod.fst = e.listeners.map Prod.fst := hl
    have nextListener : (e.withSession after).nextListener = e.nextListener := hnl
    have nextConnection : (e.withSession after).nextConnection = e.nextConnection := hnc
    have mux : (e.withSession after).mux = e.mux := hm
    simp only [roster, listeners, nextListener, nextConnection, mux, replaced, List.map_append,
      List.map_cons]

/-- A roster is kept by all that only moves sessions on. -/
theorem roster_keeps {r : Roster} (tidy : r.Tidy) (e : Endpoint) (id : Nat)
    (connection : Connection) (after : Session) (same : e.roster = r)
    (found : e.connection? id = some connection)
    (steady : (e.sessionOf connection).Steady after) : (e.withSession after).roster = r := by
  have tidy' : e.roster.Tidy := by rw [same]; exact tidy
  have holding : after.connection.holding = connection.holding := steady.holding
  have number : after.connection.id = id :=
    (congrArg Holding.connection holding).trans (number_of_found tidy' found)
  obtain ⟨former, later, before, moved⟩ := roster_withSession tidy' found number
  rw [moved, holding, ← before]
  exact same

/-! ## Closing -/

/-- An open connection is closed, and its completions are watched no more; anything else is left
as it is. -/
theorem close_shift (tidy : e.roster.Tidy) (id : Nat) :
    ((e.close id).2.roster = e.roster ∧ ¬ e.roster.Lists (.connection id)) ∨
    ∃ before holding after, e.roster.connections = before ++ (id, holding) :: after ∧
      holding.isOpen = true ∧ (e.close id).2.roster =
        { e.roster with
          connections := before ++ (id, ⟨id, none, false, false⟩) :: after
          mux := e.roster.mux.deregister (.completions id) (.connection id) } := by
  cases found : e.connection? id with
  | none =>
    have same : (e.close id).2 = e := by
      unfold close onSession
      rw [found]
    refine Or.inl ⟨by rw [same], ?_⟩
    rintro ⟨holding, listed, -⟩
    obtain ⟨entry, member, hentry⟩ := List.mem_map.mp listed
    have other := List.lookup_eq_none_iff.mp found entry member
    rw [show entry.1 = id from congrArg Prod.fst hentry, bne_self_eq_false] at other
    cases other
  | some connection =>
    have number := number_of_found tidy found
    by_cases shut : connection.state = .closed
    · have closed : connection.holding.isOpen = false := Connection.not_isOpen_iff.mpr shut
      have refused := Session.close_closed (s := e.sessionOf connection) closed
      have same : (e.close id).2 = e.withSession (e.sessionOf connection) := by
        unfold close onSession
        rw [found]
        dsimp only
        rw [refused]
      refine Or.inl ⟨by rw [same]; exact roster_keeps tidy e id connection _ rfl found (.refl _),
        ?_⟩
      rintro ⟨holding, listed, alive⟩
      have unique := List.inj_on_of_nodup_map tidy.numbered listed (listed_of_found found) rfl
      rw [(Prod.mk.inj unique).2, closed] at alive
      cases alive
    · have closes := Session.close_of_open (s := e.sessionOf connection) shut
      generalize hclosed : (e.sessionOf connection).release.withConnection _ = closed at closes
      have given : closed.connection.holding = ⟨id, none, false, false⟩ := by
        rw [← hclosed, ← number]; rfl
      obtain ⟨former, later, before, moved⟩ :=
        roster_withSession tidy found (congrArg Holding.connection given)
      have unwatched : (e.close id).2 =
          (e.withSession closed).unwatch (.completions id) (.connection id) := by
        unfold close onSession
        rw [found]
        dsimp only
        rw [closes]
      refine Or.inr ⟨former, connection.holding, later, before, Connection.isOpen_iff.mpr shut, ?_⟩
      have mux : (e.withSession closed).mux = e.roster.mux := congrArg Roster.mux moved
      rw [unwatched, ← given]
      simp only [roster, unwatch, Roster.mk.injEq] at moved ⊢
      exact ⟨moved.1, moved.2.1, moved.2.2.1, moved.2.2.2.1, by rw [mux]; rfl⟩

theorem shifts_close (tidy : e.roster.Tidy) (id : Nat) :
    Shifts e.roster (e.close id).2.roster := by
  rcases close_shift tidy id with ⟨same, -⟩ | ⟨before, holding, after, listed, alive, h⟩
  · rw [same]; exact .refl _
  · rw [h]; exact (Shift.close listed alive).shifts

/-- After a close a connection is not listed any more, and the rest is. -/
theorem lists_close (tidy : e.roster.Tidy) (id : Nat) (source : Source) :
    (e.close id).2.roster.Lists source ↔ e.roster.Lists source ∧ source ≠ .connection id := by
  have tidy' := tidy.shifts (shifts_close tidy id)
  rcases close_shift tidy id with ⟨same, absent⟩ | ⟨before, holding, after, listed, alive, h⟩
  · rw [same]
    exact ⟨fun lists => ⟨lists, fun is => absent (is ▸ lists)⟩, And.left⟩
  · rw [← tidy'.registered, ← tidy.registered, h]
    exact Multiplexer.mem_deregister (.connection id)

/-- Closing connections one after the other. -/
theorem closing {start : Endpoint} (tidy : start.roster.Tidy) (ids : List Nat) :
    let closed := ids.foldl (fun endpoint id => (endpoint.close id).2) start
    Shifts start.roster closed.roster ∧
      ∀ source, closed.roster.Lists source ↔
        start.roster.Lists source ∧ ∀ id ∈ ids, source ≠ .connection id := by
  induction ids generalizing start with
  | nil => exact ⟨.refl _, fun source => ⟨fun lists => ⟨lists, nofun⟩, And.left⟩⟩
  | cons id rest ih =>
    have first := shifts_close tidy id
    obtain ⟨shifts, lists⟩ := ih (tidy.shifts first)
    refine ⟨first.trans shifts, fun source => (lists source).trans ?_⟩
    rw [lists_close tidy, and_assoc, List.forall_mem_cons]

/-! ## Shutting down -/

/-- Taking listeners one after the other. -/
theorem taking (r : Roster) (ids : List Nat) :
    Shifts r
      { r with
        listeners := r.listeners.filter fun id => !ids.contains id
        mux := ids.foldl (fun mux id => mux.deregister (.listener id) (.listener id)) r.mux } := by
  induction ids generalizing r with
  | nil =>
    have whole : r.listeners.filter (fun id => !([] : List Nat).contains id) = r.listeners :=
      List.filter_eq_self.mpr fun _ _ => rfl
    rw [whole]
    exact .refl r
  | cons id rest ih =>
    refine (Shift.take id).shifts.trans ?_
    have later := ih { r with
      listeners := r.listeners.filter (· != id)
      mux := r.mux.deregister (.listener id) (.listener id) }
    have both : (r.listeners.filter (· != id)).filter (fun other => !rest.contains other) =
        r.listeners.filter fun other => !(id :: rest).contains other := by
      rw [List.filter_filter]
      refine List.filter_congr fun other _ => ?_
      rw [List.contains_cons, Bool.not_or, Bool.and_comm]
      rfl
    simp only [both] at later
    exact later

theorem mem_openIds (e : Endpoint) (id : Nat) :
    id ∈ e.openIds ↔ e.roster.Lists (.connection id) := by
  simp only [openIds, Roster.Lists, roster, List.mem_map, List.mem_filter]
  constructor
  · rintro ⟨entry, ⟨member, alive⟩, rfl⟩
    exact ⟨entry.2.holding, ⟨entry, member, rfl⟩, alive⟩
  · rintro ⟨holding, ⟨entry, member, same⟩, alive⟩
    obtain ⟨rfl, rfl⟩ := Prod.mk.inj same
    exact ⟨entry, ⟨member, alive⟩, rfl⟩

/-- A shutdown leaves nothing to be watched, whether or not the withdrawal fails. -/
theorem shifts_shutdown (tidy : e.roster.Tidy) (faults : Nat → Option FileFault) (board : Board) :
    let after := (e.shutdown faults board).endpoint
    Shifts e.roster after.roster ∧ after.listeners = [] ∧
      ∀ source, ¬ after.roster.Lists source := by
  obtain ⟨closed, hclosed, he, -⟩ := e.shutdown_eq faults board
  obtain ⟨shifts, lists⟩ := closing tidy e.openIds
  rw [← hclosed] at shifts lists
  have taken := taking closed.roster closed.roster.listeners
  have none : closed.roster.listeners.filter
      (fun id => !closed.roster.listeners.contains id) = [] :=
    List.filter_eq_nil_iff.mpr fun id listed => by simp [listed]
  have unwatched : closed.roster.listeners.foldl
      (fun mux id => mux.deregister (.listener id) (.listener id)) closed.roster.mux =
      closed.listeners.foldl
        (fun mux entry => mux.deregister (.listener entry.1) (.listener entry.1)) closed.mux :=
    List.foldl_map
  rw [none, unwatched] at taken
  rw [he]
  refine ⟨shifts.trans taken, rfl, fun source listed => ?_⟩
  cases source with
  | listener id => cases listed
  | connection id =>
    obtain ⟨before, others⟩ := (lists (.connection id)).mp listed
    exact others id ((mem_openIds e id).mpr before) rfl

end Working

end Endpoint

/-! ## One event -/

namespace Roster

/-- A number that was given to a source of its kind, or passed over. -/
def Past (r : Roster) : Source → Prop
  | .listener id => id < r.nextListener
  | .connection id => id < r.nextConnection

/-- Steps that hand out sources, each under a number that was not used before. -/
structure Hands (r : Roster) (sources : List Source) (t : Roster) : Prop where
  shifts : Shifts r t
  distinct : sources.Nodup
  fresh : ∀ source ∈ sources, ¬ r.Past source ∧ t.Past source

theorem Shifts.past {r t : Roster} (h : Shifts r t) {source : Source} (past : r.Past source) :
    t.Past source := by
  obtain ⟨listeners, connections⟩ := h.numbers
  cases source with
  | listener id => exact Nat.lt_of_lt_of_le past listeners
  | connection id => exact Nat.lt_of_lt_of_le past connections

theorem Shifts.hands {r t : Roster} (h : Shifts r t) : Hands r [] t :=
  ⟨h, List.nodup_nil, nofun⟩

theorem Hands.trans {r s t : Roster} {a b : List Source} (h : Hands r a s) (h' : Hands s b t) :
    Hands r (a ++ b) t := by
  refine ⟨h.shifts.trans h'.shifts, List.nodup_append.mpr ⟨h.distinct, h'.distinct, ?_⟩, ?_⟩
  · rintro first earlier second later rfl
    exact (h'.fresh first later).1 (h.fresh first earlier).2
  · intro source member
    rcases List.mem_append.mp member with earlier | later
    · exact ⟨(h.fresh source earlier).1, h'.shifts.past (h.fresh source earlier).2⟩
    · exact ⟨fun past => (h'.fresh source later).1 (h.shifts.past past), (h'.fresh source later).2⟩

/-- What a call hands out if it succeeds. -/
theorem Shifts.hands_result {r t : Roster} (h : Shifts r t) {result : Except EndpointError Nat}
    {source : Nat → Source} (next : ∀ id, result = .ok id →
      ¬ r.Past (source id) ∧ t.Past (source id)) :
    Hands r (result.toOption.toList.map source) t := by
  cases result with
  | error _ => exact h.hands
  | ok id =>
    refine ⟨h, List.nodup_singleton _, fun other member => ?_⟩
    rw [List.mem_singleton.mp member]
    exact next id rfl

end Roster

namespace Stand

/-- The sources that an event hands out: the number that a call gives back, and that of the
listener that is bound on the way. -/
def handed (stand : Stand) : EndpointEvent → List Source
  | .bind address conditions =>
    (stand.endpoint.bind address conditions stand.board).result.toOption.toList.map .listener
  | .accept listener conditions =>
    (stand.endpoint.accept listener conditions
      stand.board).outcome.result.toOption.toList.map .connection
  | .listen address binding conditions =>
    (stand.endpoint.bind address binding stand.board).result.toOption.toList.map .listener ++
    (stand.endpoint.listen address binding conditions
      stand.board).outcome.result.toOption.toList.map .connection
  | .connect address conditions =>
    (stand.endpoint.connect address conditions
      stand.board).outcome.result.toOption.toList.map .connection
  | _ => []

/-- The sources that a run hands out, in order. -/
def handedOut (stand : Stand) : List EndpointEvent → List Source
  | [] => []
  | event :: rest => stand.handed event ++ (stand.step event).handedOut rest

open Roster (Tidy Shift Shifts Hands)

theorem hands_bind {e : Endpoint} (tidy : e.roster.Tidy) (address : SocketAddress)
    (conditions : Endpoint.BindConditions) (board : Board) :
    Hands e.roster ((e.bind address conditions board).result.toOption.toList.map .listener)
      (e.bind address conditions board).endpoint.roster := by
  obtain ⟨shifts, next⟩ := Endpoint.shifts_bind tidy address conditions board
  refine shifts.hands_result fun id ok => ?_
  obtain ⟨rfl, counted⟩ := next id ok
  exact ⟨Nat.lt_irrefl _, by
    show e.nextListener < (e.bind address conditions board).endpoint.nextListener
    rw [counted]; exact Nat.lt_succ_self _⟩

theorem hands_accept (e : Endpoint) (listener : Nat) (conditions : Endpoint.AcceptConditions)
    (board : Board) :
    Hands e.roster
      ((e.accept listener conditions board).outcome.result.toOption.toList.map .connection)
      (e.accept listener conditions board).outcome.endpoint.roster := by
  obtain ⟨shifts, next⟩ := Endpoint.shifts_accept e listener conditions board
  refine shifts.hands_result fun id ok => ?_
  obtain ⟨rfl, counted⟩ := next id ok
  exact ⟨Nat.lt_irrefl _, by
    show e.nextConnection < (e.accept listener conditions board).outcome.endpoint.nextConnection
    rw [counted]; exact Nat.lt_succ_self _⟩

/-- What an event does to the roster, and what it hands out. -/
theorem hands_step {stand : Stand} (tidy : stand.endpoint.roster.Tidy) (event : EndpointEvent) :
    Hands stand.endpoint.roster (stand.handed event) (stand.step event).endpoint.roster := by
  have same {t : Endpoint} (h : t.roster = stand.endpoint.roster) :
      Hands stand.endpoint.roster [] t.roster := by rw [h]; exact (Shifts.refl _).hands
  cases event with
  | bind address conditions => exact hands_bind tidy _ _ _
  | accept listener conditions => exact hands_accept _ _ _ _
  | listen address binding conditions =>
    have bound := hands_bind tidy address binding stand.board
    simp only [handed, step, Endpoint.listen]
    generalize stand.endpoint.bind address binding stand.board = outcome at bound ⊢
    obtain ⟨result, after, board⟩ := outcome
    cases result with
    | error fault => exact bound
    | ok listener => exact bound.trans (hands_accept after listener conditions board)
  | connect address conditions =>
    have admits := Endpoint.admits_attempted
      (stand.endpoint.attempted_connect address conditions stand.board)
    refine admits.shifts.hands_result fun id ok => ?_
    obtain ⟨rfl, counted⟩ := Endpoint.next_of_admits admits ok
    exact ⟨Nat.lt_irrefl _, by
      show _ < (stand.endpoint.connect address conditions
        stand.board).outcome.endpoint.roster.nextConnection
      rw [counted]; exact Nat.lt_succ_self _⟩
  | post connection operation request offset length peerOffset =>
    exact same (Endpoint.onSession_keeps (Endpoint.roster_keeps tidy)
      (fun s => s.steady_post _ _ _ _ _) rfl _)
  | postReceive connection request =>
    exact same (Endpoint.onSession_keeps (Endpoint.roster_keeps tidy)
      (fun s => s.steady_postReceive _) rfl _)
  | deliver connection bytes ended =>
    exact same (Endpoint.deliver_keeps (Endpoint.roster_keeps tidy) rfl _ _ _)
  | poll limited moments =>
    exact same (Endpoint.poll_keeps (Endpoint.roster_keeps tidy) rfl _ _)
  | close connection => exact (Endpoint.shifts_close tidy _).hands
  | shutdown faults => exact (Endpoint.shifts_shutdown tidy _ _).1.hands

/-! ## Runs -/

theorem hands_run {stand : Stand} (tidy : stand.endpoint.roster.Tidy)
    (events : List EndpointEvent) :
    Hands stand.endpoint.roster (stand.handedOut events) (stand.run events).endpoint.roster := by
  induction events generalizing stand with
  | nil => exact (Shifts.refl _).hands
  | cons event rest ih =>
    have first := hands_step tidy event
    exact first.trans (ih (tidy.shifts first.shifts))

theorem tidy_run {stand : Stand} (tidy : stand.endpoint.roster.Tidy) (events : List EndpointEvent) :
    (stand.run events).endpoint.roster.Tidy :=
  tidy.shifts (hands_run tidy events).shifts

theorem tidy_opened (config : EndpointConfig) (device : Device) (publication : Publication)
    (region : Region) : (Endpoint.opened config device publication region).roster.Tidy :=
  { matched := ⟨rfl, List.nodup_nil⟩
    registered := by
      rintro (id | id)
      · exact ⟨nofun, nofun⟩
      · exact ⟨nofun, fun ⟨_, listed, _⟩ => nomatch listed⟩
    listeners := nofun
    connections := nofun
    named := nofun
    numbered := List.nodup_nil }

/-- The tables and the multiplexer of an endpoint agree, whatever was done with it and whatever
came of it: the listeners and the open connections are registered and nothing else is, what is
watched are their descriptors, each under the token of its source, and no number is handed out
twice.  After a shutdown nothing is left to be watched, whether or not the withdrawal fails. -/
theorem tables_and_multiplexer_agree (config : EndpointConfig) (device : Device)
    (publication : Publication) (region : Region) (board : Board) (events : List EndpointEvent) :
    let start : Stand := ⟨Endpoint.opened config device publication region, board⟩
    let e := (start.run events).endpoint
    (∀ id, .listener id ∈ e.mux.registered ↔ ∃ address, (id, address) ∈ e.listeners) ∧
    (∀ id, .connection id ∈ e.mux.registered ↔
      ∃ connection, (id, connection) ∈ e.connections ∧ connection.state ≠ .closed) ∧
    e.mux.registered.Nodup ∧
    e.mux.watched = e.mux.registered.map (fun source => (source.descriptor, source.token)) ∧
    (e.nextListener ≤ Source.tagUnit → e.nextConnection ≤ Source.tagUnit →
      ∀ source ∈ e.mux.registered, Source.ofToken? source.token = some source) ∧
    (∀ entry ∈ e.listeners, entry.1 < e.nextListener) ∧
    (∀ entry ∈ e.connections, entry.1 < e.nextConnection) ∧
    (start.handedOut events).Nodup ∧
    ∀ faults last, let after := (e.shutdown faults last).endpoint
      after.listeners = [] ∧ (∀ entry ∈ after.connections, entry.2.state = .closed) ∧
      after.mux.registered = [] ∧ after.mux.watched = [] := by
  intro start e
  have begun : start.endpoint.roster.Tidy := tidy_opened config device publication region
  have tidy : e.roster.Tidy := tidy_run begun events
  have listeners (id : Nat) : Source.listener id ∈ e.mux.registered ↔
      ∃ address, (id, address) ∈ e.listeners := by
    refine (tidy.registered (.listener id)).trans (List.mem_map.trans ⟨?_, ?_⟩)
    · rintro ⟨entry, listed, rfl⟩
      exact ⟨entry.2, listed⟩
    · rintro ⟨address, listed⟩
      exact ⟨(id, address), listed, rfl⟩
  have connections (id : Nat) : Source.connection id ∈ e.mux.registered ↔
      ∃ connection, (id, connection) ∈ e.connections ∧ connection.state ≠ .closed := by
    refine (tidy.registered (.connection id)).trans ⟨?_, ?_⟩
    · rintro ⟨holding, listed, alive⟩
      obtain ⟨entry, member, same⟩ := List.mem_map.mp listed
      obtain ⟨rfl, rfl⟩ := Prod.mk.inj same
      exact ⟨entry.2, member, Connection.isOpen_iff.mp alive⟩
    · rintro ⟨connection, member, alive⟩
      exact ⟨connection.holding, List.mem_map_of_mem member, Connection.isOpen_iff.mpr alive⟩
  have below (entry : Nat × Connection) (listed : entry ∈ e.connections) :
      entry.1 < e.nextConnection :=
    tidy.connections (entry.1, entry.2.holding) (List.mem_map_of_mem listed)
  refine ⟨listeners, connections, tidy.matched.distinct, tidy.matched.watched,
    fun few fewer source registered => Source.ofToken?_token ?_,
    fun entry listed => tidy.listeners entry.1 (List.mem_map_of_mem listed), below,
    (hands_run begun events).distinct, fun faults last => ?_⟩
  · cases source with
    | listener id =>
      obtain ⟨address, listed⟩ := (listeners id).mp registered
      exact Nat.lt_of_lt_of_le (tidy.listeners id (List.mem_map_of_mem listed)) few
    | connection id =>
      obtain ⟨connection, listed, -⟩ := (connections id).mp registered
      exact Nat.lt_of_lt_of_le (below _ listed) fewer
  · obtain ⟨shifts, none, unlisted⟩ := Endpoint.shifts_shutdown tidy faults last
    have tidy' := tidy.shifts shifts
    have unregistered : (e.shutdown faults last).endpoint.mux.registered = [] :=
      List.eq_nil_iff_forall_not_mem.mpr fun source registered =>
        unlisted source ((tidy'.registered source).mp registered)
    refine ⟨none, fun entry listed => ?_, unregistered, ?_⟩
    · refine Connection.not_isOpen_iff.mp (Bool.eq_false_iff.mpr fun alive => ?_)
      exact unlisted (.connection entry.1) ⟨entry.2.holding, List.mem_map_of_mem listed, alive⟩
    · have watched := tidy'.matched.watched
      simp only [Endpoint.roster, unregistered, List.map_nil] at watched
      exact watched

end Stand

end RdmaLink
