import RdmaLink.Proofs.Endpoint.Delivery

/-!
# What one poll tells

A poll that comes back with events tells all that was pending at the sources its last wait gave:
a peer for each listener, and for each connection every completion that its queue held, with one
more failure if the queue had dropped something.  A wait gives registered sources that are ready,
all of them if its buffer holds them, and else as many as it holds, whichever these are.

    ready.length ≤ Multiplexer.bufferSize → (source ∈ batch ↔ source ∈ ready)
-/

namespace RdmaLink

namespace Endpoint

/-- What a drain of a connection would give now. -/
def pending (e : Endpoint) (id : Nat) : List Completion :=
  match e.connection? id with
  | none => []
  | some connection =>
    connection.completions.toList ++
      if connection.completions.fault then [Session.lossReport connection] else []

variable {e : Endpoint} {id : Nat}

theorem pending_congr {t : Endpoint} (same : t.connection? id = e.connection? id) :
    t.pending id = e.pending id := by
  unfold pending
  rw [same]

/-! ## The events of one source -/

/-- A connection gives what is pending at it, and the others stay as they are. -/
theorem eventsOf_pending (tidy : e.roster.Tidy) (id : Nat) :
    (e.eventsOf (.connection id)).1 = (e.pending id).map (Event.ofCompletion id) ∧
      (∀ other, other ≠ id →
        (e.eventsOf (.connection id)).2.connection? other = e.connection? other) ∧
      (e.Signalled → (e.eventsOf (.connection id)).2.Signalled) := by
  cases found : e.connection? id with
  | none =>
    have nothing : e.eventsOf (.connection id) = ([], e) := by simp only [eventsOf, found]
    rw [nothing, pending, found]
    exact ⟨rfl, fun _ _ => rfl, fun right => right⟩
  | some connection =>
    have number := Connection.id_settled connection.emptied connection.completions.drain.1
    have queue := Connection.completions_settled connection.emptied connection.completions.drain.1
    have drained := CompletionQueue.drain_eq connection.completions
    have replaced := replaced_withConnection tidy found
      (Connection.fixed_settled connection.emptied connection.completions.drain.1)
      (fun right => by rw [queue]; exact right.drained)
      (fun failed => Connection.failed_settled
        (show connection.emptied.state = .error from failed) connection.completions.drain.1)
    have reports : (connection.emptied.drained connection.completions.drain.1).reports =
        e.pending id := by
      have fault : connection.emptied.completions.fault = connection.completions.fault := by
        show connection.completions.drain.2.fault = _
        rw [drained]
      rw [Connection.reports_drained, fault, pending, found, drained]
      dsimp only
      split
      · rfl
      · exact (List.append_nil _).symm
    rw [eventsOf_connection found, withConnection_withConnection number.symm, ← reports]
    exact ⟨rfl, replaced.others, replaced.signalled⟩

theorem signalled_eventsOf (tidy : e.roster.Tidy) (signalled : e.Signalled) (source : Source) :
    (e.eventsOf source).2.Signalled := by
  cases source with
  | listener id => simp only [eventsOf]; split <;> exact signalled
  | connection id => exact (eventsOf_pending tidy id).2.2 signalled

/-! ## The events of one look -/

/-- Registered sources, each of them once, give their peers and what is pending at them. -/
theorem collect_pending (tidy : e.roster.Tidy) {sources : List Source} (distinct : sources.Nodup)
    (registered : ∀ source ∈ sources, source ∈ e.mux.registered) (id : Nat) :
    (.incoming id ∈ (e.collect sources).1 ↔ .listener id ∈ sources) ∧
      (e.collect sources).1.filterMap (Event.completion? id) =
        if .connection id ∈ sources then e.pending id else [] := by
  induction sources generalizing e with
  | nil => exact ⟨⟨nofun, nofun⟩, rfl⟩
  | cons source rest ih =>
    obtain ⟨apart, distinct⟩ := List.nodup_cons.mp distinct
    have same := roster_eventsOf tidy source
    have mux : (e.eventsOf source).2.mux = e.mux := congrArg Roster.mux same
    obtain ⟨peers, completions⟩ := ih (by rw [same]; exact tidy) distinct fun other member => by
      rw [mux]; exact registered other (List.mem_cons_of_mem _ member)
    simp only [collect, List.mem_append, List.filterMap_append, peers, completions,
      List.mem_cons]
    cases source with
    | listener l =>
      have listed := (listener_registered_iff tidy).mp (registered _ List.mem_cons_self)
      have given : e.eventsOf (.listener l) = ([.incoming l], e) := by
        simp only [eventsOf, listed, if_true]
      rw [given]
      simp [Event.completion?]
    | connection c =>
      obtain ⟨given, others, -⟩ := eventsOf_pending tidy c
      rw [given, Event.completions_of_reports]
      have silent : .incoming id ∉ (e.pending c).map (Event.ofCompletion c) := by
        intro member
        obtain ⟨report, -, impossible⟩ := List.mem_map.mp member
        unfold Event.ofCompletion at impossible
        split at impossible <;> cases impossible
      refine ⟨by simp [silent], ?_⟩
      by_cases its : id = c
      · subst its
        simp [apart]
      · simp only [its, if_false, List.nil_append, Source.connection.injEq, false_or]
        rw [pending_congr (others id its)]

theorem signalled_collect (tidy : e.roster.Tidy) (signalled : e.Signalled)
    (sources : List Source) : (e.collect sources).2.Signalled := by
  induction sources generalizing e with
  | nil => exact signalled
  | cons source rest ih =>
    have tidy' : (e.eventsOf source).2.roster.Tidy := by rw [roster_eventsOf tidy]; exact tidy
    exact ih tidy' (signalled_eventsOf tidy signalled source)

theorem signalled_arrive (tidy : e.roster.Tidy) (signalled : e.Signalled) (moment : Moment) :
    (e.arrive moment).Signalled := by
  unfold arrive
  induction moment.arrivals generalizing e with
  | nil => exact signalled
  | cons arrival rest ih =>
    have bears := bears_deliver tidy arrival.1 arrival.2.1 arrival.2.2
    exact ih (by rw [bears.roster]; exact tidy) fun id _ present =>
      bears.extended.signalled signalled id present

/-! ## The last look of a poll -/

/-- A poll that comes back with events has taken them in one look, and all the looks before it
have left only what had arrived. -/
theorem poll_found (tidy : e.roster.Tidy) (signalled : e.Signalled) {limited : Bool}
    {moments : List Moment} {events : List Event}
    (back : (e.poll limited moments).1 = some events) (found : events ≠ []) :
    ∃ earlier moment later, moments = earlier ++ moment :: later ∧
      let now := (earlier ++ [moment]).foldl arrive e
      now.roster = e.roster ∧ now.Signalled ∧
        (now.collect (now.fired moment.glance)).1 = events := by
  induction moments generalizing e with
  | nil =>
    unfold poll at back
    split at back
    · exact absurd (Option.some.inj back).symm found
    · cases back
  | cons moment later ih =>
    have same := roster_arrive tidy moment
    have right := signalled_arrive tidy signalled moment
    by_cases nothing : (e.look moment).1 = []
    · rw [poll_of_nothing tidy nothing] at back
      obtain ⟨earlier, last, rest, rfl, kept, signalled, told⟩ :=
        ih (by rw [same]; exact tidy) right back
      exact ⟨moment :: earlier, last, rest, rfl, kept.trans same, signalled, told⟩
    · rw [poll_of_events nothing] at back
      exact ⟨[], moment, later, rfl, same, right, Option.some.inj back⟩

theorem signalled_poll (tidy : e.roster.Tidy) (signalled : e.Signalled) (limited : Bool)
    (moments : List Moment) : (e.poll limited moments).2.Signalled := by
  induction moments generalizing e with
  | nil => exact signalled
  | cons moment later ih =>
    have tidy' : (e.arrive moment).roster.Tidy := by rw [roster_arrive tidy]; exact tidy
    have right := signalled_arrive tidy signalled moment
    by_cases nothing : (e.look moment).1 = []
    · rw [poll_of_nothing tidy nothing]
      exact ih tidy' right
    · rw [poll_of_events nothing]
      exact signalled_collect tidy' right _

end Endpoint

namespace Stand

/-- In every run the signals are raised exactly while the queues hold something. -/
theorem signalled_run (stand : Stand) (tidy : stand.endpoint.roster.Tidy)
    (signalled : stand.endpoint.Signalled) (calls : List EndpointEvent) :
    (stand.run calls).endpoint.roster.Tidy ∧ (stand.run calls).endpoint.Signalled := by
  refine run_induction (P := fun s => s.endpoint.roster.Tidy ∧ s.endpoint.Signalled)
    ⟨tidy, signalled⟩ (fun s event h => ⟨h.1.shifts (hands_step h.1 event).shifts, ?_⟩) calls
  cases polls : event.isPoll with
  | false => exact fun id _ present => (extends_step h.1 polls).signalled h.2 id present
  | true =>
    cases event with
    | poll limited moments => exact Endpoint.signalled_poll h.1 h.2 limited moments
    | _ => cases polls

/-- The sources that are ready are the listeners at which a peer waits, and the open connections
whose queues hold something. -/
theorem mem_ready {e : Endpoint} (tidy : e.roster.Tidy) (signalled : e.Signalled)
    (waitingOn : Nat → Bool) (id : Nat) :
    (.listener id ∈ e.ready waitingOn ↔ (e.listener? id).isSome = true ∧ waitingOn id = true) ∧
    (.connection id ∈ e.ready waitingOn ↔ ∃ connection, e.connection? id = some connection ∧
      connection.state ≠ .closed ∧ connection.completions.toList ≠ []) := by
  constructor
  · exact List.mem_filter.trans (and_congr_left' (Endpoint.listener_registered_iff tidy))
  · refine List.mem_filter.trans ⟨?_, ?_⟩
    · rintro ⟨registered, ready⟩
      obtain ⟨connection, found, alive⟩ := Endpoint.open_of_registered tidy registered
      have held := Endpoint.queued_of_ready signalled ready
      rw [Endpoint.queued_of_found found] at held
      exact ⟨connection, found, alive, held⟩
    · rintro ⟨connection, found, alive, held⟩
      refine ⟨(tidy.registered (.connection id)).mpr
        ⟨_, Endpoint.listed_of_found found, Connection.isOpen_iff.mpr alive⟩, ?_⟩
      show e.isReady waitingOn (.completions id) = true
      simp only [Endpoint.isReady, found]
      exact (signalled id _ (Endpoint.queue?_of_found found)).mpr (List.length_pos_of_ne_nil held)

/-- What one poll tells.  Let a poll of an endpoint, whatever was done with it before, come back
with events; `now` is the endpoint when the last wait ended, and `ready` are the listeners at which
a peer waits then and the open connections whose queues hold something.  The poll tells of those of
them that the system gave, which are as many as the buffer of the wait holds: a peer for each
listener, and for each connection all that is pending at it, in order.  It tells nothing of the
others; there are none if the buffer holds all that is ready. -/
theorem poll_tells_ready_batch (config : EndpointConfig) (device : Device)
    (publication : Publication) (region : Region) (board : Board) (calls : List EndpointEvent)
    (limited : Bool) (moments : List Moment) (events : List Event) (found : events ≠ []) :
    let e :=
      ((⟨Endpoint.opened config device publication region, board⟩ : Stand).run calls).endpoint
    (e.poll limited moments).1 = some events → e.roster.Fits →
    ∃ earlier moment later, moments = earlier ++ moment :: later ∧
      let now := (earlier ++ [moment]).foldl Endpoint.arrive e
      let ready := now.ready moment.glance.waitingOn
      let batch := now.fired moment.glance
      (∀ id, .listener id ∈ ready ↔
        (now.listener? id).isSome = true ∧ moment.glance.waitingOn id = true) ∧
      (∀ id, .connection id ∈ ready ↔ ∃ connection, now.connection? id = some connection ∧
        connection.state ≠ .closed ∧ connection.completions.toList ≠ []) ∧
      batch.Nodup ∧ (∀ source ∈ batch, source ∈ ready) ∧
      batch.length = min ready.length Multiplexer.bufferSize ∧
      (ready.length ≤ Multiplexer.bufferSize → ∀ source, source ∈ batch ↔ source ∈ ready) ∧
      (∀ id, .incoming id ∈ events ↔ .listener id ∈ batch) ∧
      (∀ id connection, now.connection? id = some connection →
        events.filterMap (Event.completion? id) =
          if .connection id ∈ batch then
            connection.completions.toList ++
              if connection.completions.fault then [Session.lossReport connection] else []
          else []) := by
  intro e back fits
  have begun : (Endpoint.opened config device publication region).Signalled := fun _ _ absent => by
    cases absent
  obtain ⟨tidy, signalled⟩ :=
    signalled_run ⟨Endpoint.opened config device publication region, board⟩
      (tidy_opened config device publication region) begun calls
  obtain ⟨earlier, moment, later, split, same, right, told⟩ :=
    Endpoint.poll_found tidy signalled back found
  refine ⟨earlier, moment, later, split, ?_⟩
  intro now ready batch
  have tidy' : now.roster.Tidy := by rw [same]; exact tidy
  have fits' : now.roster.Fits := by rw [same]; exact fits
  have distinct : batch.Nodup := Endpoint.nodup_fired tidy' fits' moment.glance
  have inside (source : Source) (fired : source ∈ batch) : source ∈ ready :=
    Endpoint.mem_fired tidy' fits' moment.glance fired
  have pending := Endpoint.collect_pending tidy' distinct fun source fired =>
    (List.mem_filter.mp (inside source fired)).1
  rw [told] at pending
  refine ⟨fun id => (mem_ready tidy' right moment.glance.waitingOn id).1,
    fun id => (mem_ready tidy' right moment.glance.waitingOn id).2, distinct, inside,
    Endpoint.length_fired tidy' fits' moment.glance,
    fun fit _ => Endpoint.mem_fired_of_fit tidy' fits' moment.glance fit,
    fun id => (pending id).1, fun id connection present => ?_⟩
  rw [(pending id).2, Endpoint.pending, present]

theorem crowd_fits : (4096 : UInt64).toNat + 16 < UInt64.size := by decide

/-- An endpoint that has bound so many listeners. -/
def crowd (count : Nat) : Stand :=
  run ⟨Endpoint.opened (EndpointConfig.ofService "crowd") Device.soft .memory
      ⟨"crowd", 4096, 16, fun _ => 0, crowd_fits⟩, ⟨⟨[]⟩, none⟩⟩
    (List.replicate count
      (.bind (.v4 Ipv4.loopback 0) ⟨.ok (.v4 Ipv4.loopback 4000), none, Publication.noFaults⟩))

/-- A peer waits on every listener, and the system gives the descriptors as they were registered. -/
def knocking : Moment := ⟨[], .ofPeers fun _ => true⟩

theorem poll_crowd : ((crowd 65).endpoint.poll true [knocking]).1 =
    some ((List.range 64).map fun n => .incoming (n + 1)) := by
  decide +kernel

/-- Sixty-four listeners of a crowd are told. -/
theorem crowd_is_told :
    let e := (crowd 65).endpoint
    ∃ events earlier moment later, (e.poll true [knocking]).1 = some events ∧
      [knocking] = earlier ++ moment :: later ∧
      ∀ id, .incoming id ∈ events ↔
        .listener id ∈ ((earlier ++ [moment]).foldl Endpoint.arrive e).fired moment.glance := by
  intro e
  have fits : e.roster.Fits := ⟨by decide +kernel, by decide +kernel⟩
  obtain ⟨earlier, moment, later, split, -, -, -, -, -, -, peers, -⟩ :=
    poll_tells_ready_batch (EndpointConfig.ofService "crowd") Device.soft .memory
      ⟨"crowd", 4096, 16, fun _ => 0, crowd_fits⟩ ⟨⟨[]⟩, none⟩ _ true [knocking] _
      (by decide) poll_crowd fits
  exact ⟨_, earlier, moment, later, poll_crowd, split, peers⟩

/-- Of sixty-five listeners with a peer that waits, one poll leaves out one. -/
theorem crowd_is_cut_off :
    .listener 65 ∈ (crowd 65).endpoint.ready knocking.glance.waitingOn ∧
    ∃ events, ((crowd 65).endpoint.poll true [knocking]).1 = some events ∧ events ≠ [] ∧
      .incoming 65 ∉ events :=
  ⟨by decide +kernel, _, poll_crowd, by decide, by decide⟩

end Stand

end RdmaLink
