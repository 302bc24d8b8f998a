import RdmaLink.Proofs.Endpoint.Runs

/-!
# The roster of an endpoint

The roster is what the tables of an endpoint and its multiplexer have to agree on: the numbers of
the listeners, what every connection holds, the numbers that come next, and the multiplexer.
Whatever is done with an endpoint over whatever device changes the roster in a few kinds of steps
(`Roster.Shift`): a number is spent, a listener is bound or taken, a connection is installed or
closed.

    r.Tidy → r.Shift t → t.Tidy                                        (Roster.Tidy.shift)

A roster is tidy if exactly its listeners and its open connections are registered, each under its
own token.
-/

namespace RdmaLink

/-- The descriptor that is watched for a source. -/
def Source.descriptor : Source → Descriptor
  | .listener id => .listener id
  | .connection id => .completions id

theorem Source.descriptor_injective {a b : Source} (h : a.descriptor = b.descriptor) : a = b := by
  cases a <;> cases b <;> cases h <;> rfl

namespace Multiplexer

/-- What is watched for a source. -/
def entry (source : Source) : Descriptor × UInt64 := (source.descriptor, source.token)

/-- The watched descriptors are those of the registered sources, each under the token of its
source. -/
structure Matched (mux : Multiplexer Descriptor) : Prop where
  watched : mux.watched = mux.registered.map entry
  distinct : mux.registered.Nodup

variable {mux after : Multiplexer Descriptor} {source : Source}

/-- A source that is not registered is added to both sets. -/
theorem register_of_fresh (matched : mux.Matched) (fresh : source ∉ mux.registered) :
    mux.register source.descriptor source =
      .ok ⟨mux.registered ++ [source], mux.watched ++ [entry source]⟩ := by
  have free : mux.watches source.descriptor = false := by
    rw [watches, matched.watched, List.any_map, List.any_eq_false]
    intro other registered same
    have same : other.descriptor = source.descriptor := by simpa [entry] using same
    exact fresh (Source.descriptor_injective same ▸ registered)
  have unknown : mux.isRegistered source = false := by simpa [isRegistered] using fresh
  rw [register, free, unknown]
  rfl

theorem Matched.register (matched : mux.Matched) (fresh : source ∉ mux.registered)
    (h : mux.register source.descriptor source = .ok after) :
    after.Matched ∧ after.registered = mux.registered ++ [source] := by
  rw [register_of_fresh matched fresh] at h
  cases h
  refine ⟨⟨?_, ?_⟩, rfl⟩
  · rw [matched.watched, List.map_append, List.map_singleton]
  · refine List.nodup_append.mpr ⟨matched.distinct, List.pairwise_singleton _ _, ?_⟩
    intro a ha b hb same
    rw [List.mem_singleton.mp hb] at same
    exact fresh (same ▸ ha)

theorem Matched.deregister (matched : mux.Matched) (source : Source) :
    (mux.deregister source.descriptor source).Matched := by
  refine ⟨?_, matched.distinct.filter _⟩
  simp only [Multiplexer.deregister, matched.watched, List.filter_map]
  congr 1
  refine List.filter_congr fun other _ => ?_
  by_cases same : other = source
  · rw [same]; simp [entry]
  · have apart : other.descriptor ≠ source.descriptor :=
      fun h => same (Source.descriptor_injective h)
    simp only [Function.comp_apply, entry]
    rw [bne_iff_ne.mpr apart, bne_iff_ne.mpr same]

theorem mem_deregister (source : Source) {other : Source} :
    other ∈ (mux.deregister source.descriptor source).registered ↔
      other ∈ mux.registered ∧ other ≠ source := by
  simp [Multiplexer.deregister]

/-- What was registered and is deregistered again leaves no trace. -/
theorem deregister_register (matched : mux.Matched) (fresh : source ∉ mux.registered)
    (h : mux.register source.descriptor source = .ok after) :
    after.deregister source.descriptor source = mux := by
  rw [register_of_fresh matched fresh] at h
  cases h
  have sources : (mux.registered ++ [source]).filter (· != source) = mux.registered := by
    rw [List.filter_append, List.filter_eq_self.mpr fun other registered => ?_]
    · simp
    · exact bne_iff_ne.mpr fun same => fresh (same ▸ registered)
  have descriptors : (mux.watched ++ [entry source]).filter
      (fun watched => watched.1 != source.descriptor) = mux.watched := by
    rw [List.filter_append, List.filter_eq_self.mpr fun watched mem => ?_]
    · simp [entry]
    · rw [matched.watched] at mem
      obtain ⟨other, registered, rfl⟩ := List.mem_map.mp mem
      exact bne_iff_ne.mpr fun same => fresh (Source.descriptor_injective same ▸ registered)
  rw [Multiplexer.deregister, sources, descriptors]

end Multiplexer

/-! ## Rosters -/

/-- The tables of an endpoint by number, and its multiplexer. -/
structure Roster where
  listeners : List Nat
  connections : List (Nat × Holding)
  nextListener : Nat
  nextConnection : Nat
  mux : Multiplexer Descriptor

def Endpoint.roster (endpoint : Endpoint) : Roster :=
  { listeners := endpoint.listeners.map Prod.fst
    connections := endpoint.connections.map fun entry => (entry.1, entry.2.holding)
    nextListener := endpoint.nextListener
    nextConnection := endpoint.nextConnection
    mux := endpoint.mux }

namespace Roster

/-- Whether a source stands in its table, a connection as an open one. -/
def Lists (r : Roster) : Source → Prop
  | .listener id => id ∈ r.listeners
  | .connection id => ∃ holding, (id, holding) ∈ r.connections ∧ holding.isOpen = true

/-- Numbers are spent, and nothing comes of it. -/
def Spent (r t : Roster) : Prop :=
  ∃ listener connection, r.nextListener ≤ listener ∧ r.nextConnection ≤ connection ∧
    t = { r with nextListener := listener, nextConnection := connection }

/-- A connection is installed under the next number. -/
def Installed (r t : Roster) : Prop :=
  ∃ mux holding, r.mux.register (.completions r.nextConnection) (.connection r.nextConnection) =
      .ok mux ∧
    holding.connection = r.nextConnection ∧ holding.isOpen = true ∧
    t = { r with
      connections := r.connections ++ [(r.nextConnection, holding)]
      nextConnection := r.nextConnection + 1
      mux := mux }

/-- One step, as far as the roster shows it. -/
inductive Shift : Roster → Roster → Prop
  | spend {r t : Roster} (spent : r.Spent t) : Shift r t
  /-- A listener is bound under the next number. -/
  | bind {r : Roster} {mux : Multiplexer Descriptor}
      (watched : r.mux.register (.listener r.nextListener) (.listener r.nextListener) = .ok mux) :
      Shift r
        { r with
          listeners := r.listeners ++ [r.nextListener]
          nextListener := r.nextListener + 1
          mux := mux }
  /-- A listener is taken. -/
  | take {r : Roster} (id : Nat) :
      Shift r
        { r with
          listeners := r.listeners.filter (· != id)
          mux := r.mux.deregister (.listener id) (.listener id) }
  | install {r t : Roster} (installed : r.Installed t) : Shift r t
  /-- An open connection is closed; it keeps its place. -/
  | close {r : Roster} {id : Nat} {holding : Holding} {before after : List (Nat × Holding)}
      (listed : r.connections = before ++ (id, holding) :: after) (alive : holding.isOpen = true) :
      Shift r
        { r with
          connections := before ++ (id, ⟨id, none, false, false⟩) :: after
          mux := r.mux.deregister (.completions id) (.connection id) }

/-- Any number of steps one after the other. -/
inductive Shifts : Roster → Roster → Prop
  | refl (r : Roster) : Shifts r r
  | step {r s t : Roster} (earlier : Shifts r s) (last : Shift s t) : Shifts r t

theorem Shift.shifts {r t : Roster} (h : Shift r t) : Shifts r t := .step (.refl r) h

theorem Shifts.trans {r s t : Roster} (h : Shifts r s) (h' : Shifts s t) : Shifts r t := by
  induction h' with
  | refl => exact h
  | step _ last ih => exact .step ih last

/-- Exactly the listeners and the open connections are registered, and all numbers are below the
next ones. -/
structure Tidy (r : Roster) : Prop where
  matched : r.mux.Matched
  registered : ∀ source, source ∈ r.mux.registered ↔ r.Lists source
  listeners : ∀ id ∈ r.listeners, id < r.nextListener
  connections : ∀ entry ∈ r.connections, entry.1 < r.nextConnection
  named : ∀ entry ∈ r.connections, entry.2.connection = entry.1
  numbered : (r.connections.map Prod.fst).Nodup

namespace Tidy

variable {r t : Roster}

theorem fresh_listener (tidy : r.Tidy) : Source.listener r.nextListener ∉ r.mux.registered :=
  fun registered =>
    Nat.lt_irrefl _ (tidy.listeners _ ((tidy.registered (.listener _)).mp registered))

theorem fresh_connection (tidy : r.Tidy) :
    Source.connection r.nextConnection ∉ r.mux.registered := by
  intro registered
  obtain ⟨holding, listed, -⟩ := (tidy.registered (.connection _)).mp registered
  exact Nat.lt_irrefl _ (tidy.connections _ listed)

theorem spent (tidy : r.Tidy) (h : r.Spent t) : t.Tidy := by
  obtain ⟨listener, connection, hl, hc, rfl⟩ := h
  exact
    { matched := tidy.matched
      registered := tidy.registered
      listeners := fun id listed => Nat.lt_of_lt_of_le (tidy.listeners id listed) hl
      connections := fun entry listed => Nat.lt_of_lt_of_le (tidy.connections entry listed) hc
      named := tidy.named
      numbered := tidy.numbered }

theorem bound (tidy : r.Tidy) {mux : Multiplexer Descriptor}
    (watched : r.mux.register (.listener r.nextListener) (.listener r.nextListener) = .ok mux) :
    Tidy { r with
      listeners := r.listeners ++ [r.nextListener]
      nextListener := r.nextListener + 1
      mux := mux } := by
  obtain ⟨matched, sources⟩ := tidy.matched.register tidy.fresh_listener watched
  refine ⟨matched, fun source => ?_, fun id listed => ?_, tidy.connections, tidy.named,
    tidy.numbered⟩
  · rw [sources, List.mem_append, List.mem_singleton, tidy.registered]
    cases source with
    | listener id => simp [Lists]
    | connection id => simp [Lists]
  · rcases List.mem_append.mp listed with old | new
    · exact Nat.lt_succ_of_lt (tidy.listeners id old)
    · rw [List.mem_singleton.mp new]
      exact Nat.lt_succ_self _

theorem taken (tidy : r.Tidy) (id : Nat) :
    Tidy { r with
      listeners := r.listeners.filter (· != id)
      mux := r.mux.deregister (.listener id) (.listener id) } := by
  refine ⟨tidy.matched.deregister (.listener id), fun source => ?_, fun other listed => ?_,
    tidy.connections, tidy.named, tidy.numbered⟩
  · refine (Multiplexer.mem_deregister (.listener id)).trans ?_
    rw [tidy.registered]
    cases source with
    | listener other => simp [Lists]
    | connection other => simp [Lists]
  · exact tidy.listeners other (List.mem_filter.mp listed).1

theorem installed (tidy : r.Tidy) (h : r.Installed t) : t.Tidy := by
  obtain ⟨mux, holding, watched, name, alive, rfl⟩ := h
  obtain ⟨matched, sources⟩ := tidy.matched.register tidy.fresh_connection watched
  have cases (entry : Nat × Holding)
      (listed : entry ∈ r.connections ++ [(r.nextConnection, holding)]) :
      entry ∈ r.connections ∨ entry = (r.nextConnection, holding) :=
    (List.mem_append.mp listed).imp_right List.mem_singleton.mp
  refine ⟨matched, fun source => ?_, tidy.listeners, fun entry listed => ?_,
    fun entry listed => ?_, ?_⟩
  · rw [sources, List.mem_append, List.mem_singleton, tidy.registered]
    cases source with
    | listener id => simp [Lists]
    | connection id =>
      simp only [Lists, List.mem_append, List.mem_singleton, Source.connection.injEq]
      constructor
      · rintro (⟨held, listed, isOpen⟩ | rfl)
        · exact ⟨held, Or.inl listed, isOpen⟩
        · exact ⟨holding, Or.inr rfl, alive⟩
      · rintro ⟨held, listed | same, isOpen⟩
        · exact Or.inl ⟨held, listed, isOpen⟩
        · exact Or.inr (congrArg Prod.fst same)
  · rcases cases entry listed with old | rfl
    · exact Nat.lt_succ_of_lt (tidy.connections entry old)
    · exact Nat.lt_succ_self _
  · rcases cases entry listed with old | rfl
    · exact tidy.named entry old
    · exact name
  · rw [List.map_append, List.map_singleton, List.nodup_append]
    refine ⟨tidy.numbered, List.pairwise_singleton _ _, fun a ha b hb same => ?_⟩
    obtain ⟨entry, listed, rfl⟩ := List.mem_map.mp ha
    rw [List.mem_singleton.mp hb] at same
    exact Nat.ne_of_lt (tidy.connections entry listed) same

theorem closed (tidy : r.Tidy) {id : Nat} {holding : Holding} {before after : List (Nat × Holding)}
    (listed : r.connections = before ++ (id, holding) :: after) :
    Tidy { r with
      connections := before ++ (id, ⟨id, none, false, false⟩) :: after
      mux := r.mux.deregister (.completions id) (.connection id) } := by
  have numbered := tidy.numbered
  rw [listed, List.map_append, List.map_cons] at numbered
  have others (entry : Nat × Holding)
      (h : entry ∈ before ++ (id, ⟨id, none, false, false⟩) :: after) :
      entry = (id, ⟨id, none, false, false⟩) ∨ entry ∈ before ++ after := by
    simp only [List.mem_append, List.mem_cons] at h ⊢
    rcases h with h | h | h
    · exact Or.inr (Or.inl h)
    · exact Or.inl h
    · exact Or.inr (Or.inr h)
  have kept : ∀ entry ∈ before ++ after, entry ∈ r.connections ∧ entry.1 ≠ id := by
    intro entry h
    rw [List.nodup_append, List.nodup_cons] at numbered
    obtain ⟨-, ⟨unique, -⟩, apart⟩ := numbered
    rw [listed]
    rcases List.mem_append.mp h with h | h
    · exact ⟨List.mem_append_left _ h, apart _ (List.mem_map_of_mem h) _ (List.mem_cons_self ..)⟩
    · exact ⟨List.mem_append_right _ (List.mem_cons_of_mem _ h),
        fun same => unique (List.mem_map.mpr ⟨entry, h, same⟩)⟩
  refine ⟨tidy.matched.deregister (.connection id), fun source => ?_, tidy.listeners,
    fun entry h => ?_, fun entry h => ?_, ?_⟩
  · refine (Multiplexer.mem_deregister (.connection id)).trans ?_
    rw [tidy.registered]
    cases source with
    | listener other => simp [Lists]
    | connection other =>
      simp only [Lists, ne_eq, Source.connection.injEq]
      constructor
      · rintro ⟨⟨held, mem, isOpen⟩, apart⟩
        refine ⟨held, ?_, isOpen⟩
        rw [listed] at mem
        simp only [List.mem_append, List.mem_cons, Prod.mk.injEq] at mem ⊢
        rcases mem with mem | ⟨same, -⟩ | mem
        · exact Or.inl mem
        · exact absurd same apart
        · exact Or.inr (Or.inr mem)
      · rintro ⟨held, mem, isOpen⟩
        rcases others _ mem with same | mem
        · rw [(Prod.mk.inj same).2] at isOpen
          cases isOpen
        · obtain ⟨mem, apart⟩ := kept _ mem
          exact ⟨⟨held, mem, isOpen⟩, apart⟩
  · rcases others entry h with rfl | h
    · exact tidy.connections (id, holding) (by rw [listed]; simp)
    · exact tidy.connections entry (kept entry h).1
  · rcases others entry h with rfl | h
    · rfl
    · exact tidy.named entry (kept entry h).1
  · rw [List.map_append, List.map_cons]
    exact numbered

theorem shift (tidy : r.Tidy) (h : Shift r t) : t.Tidy := by
  cases h with
  | spend spent => exact tidy.spent spent
  | bind watched => exact tidy.bound watched
  | take id => exact tidy.taken id
  | install installed => exact tidy.installed installed
  | close listed _ => exact tidy.closed listed

theorem shifts (tidy : r.Tidy) (h : Shifts r t) : t.Tidy := by
  induction h with
  | refl => exact tidy
  | step _ last ih => exact ih.shift last

end Tidy

/-! ## Numbers only go up -/

theorem Shift.numbers {r t : Roster} (h : Shift r t) :
    r.nextListener ≤ t.nextListener ∧ r.nextConnection ≤ t.nextConnection := by
  cases h with
  | spend spent =>
    obtain ⟨listener, connection, hl, hc, rfl⟩ := spent
    exact ⟨hl, hc⟩
  | bind _ => exact ⟨Nat.le_succ _, Nat.le_refl _⟩
  | take _ => exact ⟨Nat.le_refl _, Nat.le_refl _⟩
  | install installed =>
    obtain ⟨_, _, -, -, -, rfl⟩ := installed
    exact ⟨Nat.le_refl _, Nat.le_succ _⟩
  | close _ _ => exact ⟨Nat.le_refl _, Nat.le_refl _⟩

theorem Shifts.numbers {r t : Roster} (h : Shifts r t) :
    r.nextListener ≤ t.nextListener ∧ r.nextConnection ≤ t.nextConnection := by
  induction h with
  | refl => exact ⟨Nat.le_refl _, Nat.le_refl _⟩
  | step _ last ih =>
    exact ⟨Nat.le_trans ih.1 last.numbers.1, Nat.le_trans ih.2 last.numbers.2⟩

end Roster

end RdmaLink
