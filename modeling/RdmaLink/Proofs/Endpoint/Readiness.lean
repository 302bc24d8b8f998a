import RdmaLink.Proofs.Endpoint.Polling

/-!
# What a wait finds ready

While the numbers of an endpoint fit their tokens, a wait gives registered sources that are ready,
each of them once, and as many of them as its buffer holds.  A connection that is ready has
completions in its queue.

    (e.fired glance).Nodup                                          (Endpoint.nodup_fired)
    e.fired glance ⊆ e.ready glance.waitingOn                       (Endpoint.mem_fired)
    (e.fired glance).length = min (e.ready glance.waitingOn).length bufferSize
                                                                    (Endpoint.length_fired)

Nothing of this changes while the sources give their events: what happens meanwhile only adds to
the queues (`Endpoint.Bears`), and the turn of a connection replaces that connection alone
(`Endpoint.Replaced`).
-/

namespace RdmaLink

/-- A number is looked up exactly if it is listed. -/
theorem isSome_lookup_iff {β : Type} {entries : List (Nat × β)} {id : Nat} :
    (entries.lookup id).isSome = true ↔ ∃ entry ∈ entries, entry.1 = id := by
  constructor
  · intro present
    obtain ⟨b, found⟩ := Option.isSome_iff_exists.mp present
    obtain ⟨former, later, rfl, -⟩ := List.lookup_eq_some_iff.mp found
    exact ⟨(id, b), List.mem_append_right _ List.mem_cons_self, rfl⟩
  · rintro ⟨entry, member, rfl⟩
    cases found : entries.lookup entry.1 with
    | some b => rfl
    | none =>
      have other := List.lookup_eq_none_iff.mp found entry member
      rw [bne_self_eq_false] at other
      cases other

/-! ## Waiting -/

/-- The numbers that were given out fit the tokens of their sources. -/
def Roster.Fits (r : Roster) : Prop :=
  r.nextListener ≤ Source.tagUnit ∧ r.nextConnection ≤ Source.tagUnit

namespace Endpoint

variable {e : Endpoint}

/-- A registered source comes back from its token. -/
theorem ofToken?_of_registered (tidy : e.roster.Tidy) (fits : e.roster.Fits) {source : Source}
    (registered : source ∈ e.mux.registered) : Source.ofToken? source.token = some source := by
  refine Source.ofToken?_token ?_
  have lists := (tidy.registered source).mp registered
  cases source with
  | listener id => exact Nat.lt_of_lt_of_le (tidy.listeners id lists) fits.1
  | connection id =>
    obtain ⟨holding, listed, -⟩ := lists
    exact Nat.lt_of_lt_of_le (tidy.connections _ listed) fits.2

/-- The registered sources that are ready, in the order in which they were registered. -/
def ready (e : Endpoint) (waitingOn : Nat → Bool) : List Source :=
  e.mux.registered.filter fun source => e.isReady waitingOn source.descriptor

section Fired

variable (tidy : e.roster.Tidy) (fits : e.roster.Fits) (glance : Glance)

include tidy fits

/-- A wait gives the sources that are ready in some arrangement, as many as the buffer holds. -/
theorem fired_eq : ∃ arranged : List Source, arranged.Perm (e.ready glance.waitingOn) ∧
    e.fired glance = arranged.take Multiplexer.bufferSize := by
  let found := e.mux.watched.filter fun entry => e.isReady glance.waitingOn entry.1
  let entries := glance.order.arrange found
  have perm : entries.Perm found := glance.order.perm _
  have watched : found = (e.ready glance.waitingOn).map Multiplexer.entry := by
    have matched : e.mux.watched = e.mux.registered.map Multiplexer.entry := tidy.matched.watched
    show List.filter _ e.mux.watched = _
    rw [matched, List.filter_map]
    rfl
  have named (source : Source) (member : source ∈ e.ready glance.waitingOn) :
      Source.ofToken? source.token = some source :=
    ofToken?_of_registered tidy fits (List.mem_of_mem_filter member)
  -- every entry is read back as a source, so reading entries and taking some of them commute
  have read (entry : Descriptor × UInt64) (member : entry ∈ entries) :
      ∃ source, Source.ofToken? entry.2 = some source := by
    rw [perm.mem_iff, watched] at member
    obtain ⟨source, listed, rfl⟩ := List.mem_map.mp member
    exact ⟨source, named source listed⟩
  refine ⟨entries.filterMap fun entry => Source.ofToken? entry.2, ?_, ?_⟩
  · refine (perm.filterMap _).trans (List.Perm.of_eq ?_)
    rw [watched, List.filterMap_map]
    exact (List.filterMap_congr named).trans List.filterMap_some
  · have whole (part : List (Descriptor × UInt64)) (inside : ∀ entry ∈ part, entry ∈ entries) :
        part.filterMap (fun entry => Source.ofToken? entry.2) =
          part.map fun entry => (Source.ofToken? entry.2).getD default := by
      rw [← List.filterMap_eq_map]
      refine List.filterMap_congr fun entry member => ?_
      obtain ⟨source, same⟩ := read entry (inside entry member)
      rw [Function.comp_apply, same]
      rfl
    rw [whole entries fun _ member => member, ← List.map_take]
    exact whole _ fun _ member => List.mem_of_mem_take member

theorem nodup_fired : (e.fired glance).Nodup := by
  obtain ⟨arranged, perm, fired⟩ := fired_eq tidy fits glance
  rw [fired]
  exact (perm.nodup_iff.mpr (tidy.matched.distinct.filter _)).sublist (List.take_sublist _ _)

theorem mem_fired {source : Source} (fired : source ∈ e.fired glance) :
    source ∈ e.ready glance.waitingOn := by
  obtain ⟨arranged, perm, taken⟩ := fired_eq tidy fits glance
  rw [taken] at fired
  exact perm.mem_iff.mp (List.mem_of_mem_take fired)

theorem length_fired :
    (e.fired glance).length = min (e.ready glance.waitingOn).length Multiplexer.bufferSize := by
  obtain ⟨arranged, perm, fired⟩ := fired_eq tidy fits glance
  rw [fired, List.length_take, perm.length_eq, Nat.min_comm]

/-- If the buffer holds all that is ready, all of it is given. -/
theorem mem_fired_of_fit
    (fit : (e.ready glance.waitingOn).length ≤ Multiplexer.bufferSize) {source : Source} :
    source ∈ e.fired glance ↔ source ∈ e.ready glance.waitingOn := by
  obtain ⟨arranged, perm, fired⟩ := fired_eq tidy fits glance
  rw [fired, List.take_of_length_le (by rw [perm.length_eq]; exact fit), perm.mem_iff]

/-- A wait that gives nothing has found nothing ready. -/
theorem quiet_of_fired (nothing : e.fired glance = []) {source : Source}
    (registered : source ∈ e.mux.registered) :
    e.isReady glance.waitingOn source.descriptor = false := by
  have none : (e.ready glance.waitingOn).length = 0 := by
    have length := length_fired tidy fits glance
    rw [nothing, List.length_nil, Multiplexer.bufferSize] at length
    omega
  have listed := List.eq_nil_of_length_eq_zero none
  exact Bool.eq_false_iff.mpr (List.filter_eq_nil_iff.mp listed source registered)

end Fired

/-! ## Moving on while events are gathered -/

/-- A connection has failed and was not closed. -/
def HasFailed (e : Endpoint) (id : Nat) : Prop :=
  ∃ connection, e.connection? id = some connection ∧ connection.state = .error

/-- What may happen to an endpoint while it gathers events: its tables stay, nothing is taken out
of its queues, and what has failed stays so. -/
structure Bears (e t : Endpoint) : Prop where
  roster : t.roster = e.roster
  extended : e.Extends t
  failed : ∀ id, e.HasFailed id → t.HasFailed id

section Connections

variable {id : Nat} {connection after : Connection}

theorem open_of_registered (tidy : e.roster.Tidy)
    (registered : .connection id ∈ e.mux.registered) :
    ∃ connection, e.connection? id = some connection ∧ connection.state ≠ .closed := by
  obtain ⟨holding, listed, alive⟩ := (tidy.registered (.connection id)).mp registered
  obtain ⟨entry, member, same⟩ := List.mem_map.mp listed
  have present : (e.connection? id).isSome = true :=
    isSome_lookup_iff.mpr ⟨entry, member, congrArg Prod.fst same⟩
  obtain ⟨connection, found⟩ := Option.isSome_iff_exists.mp present
  have unique := List.inj_on_of_nodup_map tidy.numbered listed (listed_of_found found) rfl
  rw [(Prod.mk.inj unique).2] at alive
  exact ⟨connection, found, Connection.isOpen_iff.mp alive⟩

theorem listener_registered_iff (tidy : e.roster.Tidy) :
    .listener id ∈ e.mux.registered ↔ (e.listener? id).isSome = true :=
  (tidy.registered (.listener id)).trans (List.mem_map.trans isSome_lookup_iff.symm)

theorem roster_withConnection (tidy : e.roster.Tidy) (found : e.connection? id = some connection)
    (fixed : after.holding = connection.holding ∧ after.transport = connection.transport) :
    (e.withConnection after).roster = e.roster := by
  have kept := roster_keeps tidy e id connection _ rfl found
    (Session.steady_withConnection (e.sessionOf connection) fixed.1)
  rwa [withSession_of_connection fixed.2] at kept

theorem hasFailed_withConnection (found : e.connection? id = some connection)
    (number : after.id = id) (stays : connection.state = .error → after.state = .error)
    {other : Nat} (failed : e.HasFailed other) : (e.withConnection after).HasFailed other := by
  by_cases its : other = id
  · subst its
    obtain ⟨same, found', error⟩ := failed
    rw [found] at found'
    cases found'
    exact ⟨after, found_withConnection found number, stays error⟩
  · obtain ⟨old, found', error⟩ := failed
    refine ⟨old, ?_, error⟩
    rw [connection?_withConnection_of_ne (by rw [number]; exact its)]
    exact found'

theorem bears_deliver (tidy : e.roster.Tidy) (id : Nat) (bytes : Bytes) (ended : Bool) :
    e.Bears (e.deliver id bytes ended) := by
  refine ⟨deliver_keeps (roster_keeps tidy) rfl _ _ _, extends_deliver tidy _ _ _, ?_⟩
  intro other failed
  unfold deliver
  split
  · exact failed
  · next connection found =>
    have found' : (e.afterSession ((e.sessionOf connection).deliver bytes ended)).connection? id =
        some connection := (connection?_afterSession _ _ _).trans found
    have number := (Session.id_step (e.sessionOf connection) (.deliver bytes ended)).trans
      (number_of_found tidy found)
    refine hasFailed_withConnection found' number (fun error => ?_) ?_
    · exact Session.failed_run (s := e.sessionOf connection) error [.deliver bytes ended]
    · obtain ⟨old, present, error⟩ := failed
      exact ⟨old, (connection?_afterSession _ _ _).trans present, error⟩

theorem bears_report (tidy : e.roster.Tidy) (id : Nat) (completion : Completion) :
    e.Bears (e.report id completion) := by
  unfold report
  split
  · exact ⟨rfl, .refl e, fun _ failed => failed⟩
  · next connection found =>
    have number := number_of_found tidy found
    refine ⟨roster_withConnection tidy found ⟨rfl, rfl⟩,
      extends_withConnection found number (.push _ _), fun other failed => ?_⟩
    refine hasFailed_withConnection found (by exact number) ?_ failed
    exact fun error => error

end Connections

/-! ## Queues of connections that are replaced -/

/-- Every signal is raised exactly while its queue holds something. -/
def Signalled (e : Endpoint) : Prop := ∀ id q, e.queue? id = some q → q.Signalled

section Queues

variable {id : Nat} {connection after : Connection}

theorem queued_of_ready (signalled : e.Signalled) {waitingOn : Nat → Bool}
    (ready : e.isReady waitingOn (.completions id) = true) : e.queued id ≠ [] := by
  unfold isReady at ready
  cases found : e.connection? id with
  | none => simp only [found] at ready; cases ready
  | some connection =>
    simp only [found] at ready
    rw [queued_of_found found]
    intro empty
    have held := (signalled id _ (queue?_of_found found)).mp ready
    rw [CompletionQueue.size, ← Array.length_toList, show connection.completions.entries.toList = []
      from empty] at held
    cases held

/-- A connection was replaced by one that holds the same, and is the same to its carrier. -/
structure Replaced (e : Endpoint) (id : Nat) (after : Connection) (t : Endpoint) : Prop where
  roster : t.roster = e.roster
  signalled : e.Signalled → t.Signalled
  queued : ∀ other, t.queued other =
    if other = id then after.completions.toList else e.queued other
  failed : ∀ other, e.HasFailed other → t.HasFailed other
  found : t.connection? id = some after
  others : ∀ other, other ≠ id → t.connection? other = e.connection? other

theorem Replaced.queue? {t : Endpoint} (replaced : e.Replaced id after t) (other : Nat) :
    t.queue? other = if other = id then some after.completions else e.queue? other := by
  split
  · next its => rw [its, queue?_of_found replaced.found]
  · next apart => rw [Endpoint.queue?, replaced.others other apart, Endpoint.queue?]

theorem replaced_withConnection (tidy : e.roster.Tidy) (found : e.connection? id = some connection)
    (fixed : after.holding = connection.holding ∧ after.transport = connection.transport)
    (signalled : connection.completions.Signalled → after.completions.Signalled)
    (stays : connection.state = .error → after.state = .error) :
    e.Replaced id after (e.withConnection after) := by
  have number : after.id = id :=
    (congrArg Holding.connection fixed.1).trans (number_of_found tidy found)
  refine ⟨roster_withConnection tidy found fixed, fun right other q present => ?_, fun other => ?_,
    fun other => hasFailed_withConnection found number stays, found_withConnection found number,
    fun other apart => connection?_withConnection_of_ne (by rw [number]; exact apart)⟩
  · by_cases its : other = id
    · subst its
      rw [queue?_of_found (found_withConnection found number)] at present
      cases present
      exact signalled (right other _ (queue?_of_found found))
    · rw [queue?_withConnection_of_ne (by rw [number]; exact its)] at present
      exact right other q present
  · split
    · next its =>
      subst its
      exact queued_of_found (found_withConnection found number)
    · next its =>
      unfold queued
      rw [queue?_withConnection_of_ne (by rw [number]; exact its)]

end Queues

end Endpoint

end RdmaLink
