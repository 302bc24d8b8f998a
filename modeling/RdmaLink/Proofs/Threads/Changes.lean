import RdmaLink.Proofs.Threads.Passes

/-!
# Steps that change the books

A call enters a send or a receive, takes a send back whose frame the link has not taken, and
reports what it has in hand.  A frame ends a send or consumes a receive.  A failure sets the state
in one step and flushes what waits in a later one.
-/

namespace RdmaLink

namespace Threads

/-! ## Steps that change the books -/

section Books

variable {t : Threads}

/-- Where the owner changes what waits, the state and the link stay. -/
theorem steady_goesOn {s : Station} {action : Action}
    (state : s.queuePair.state = t.station.queuePair.state)
    (linked : s.queuePair.link = t.station.queuePair.link)
    (destroyed : s.queuePair.destroyed = t.station.queuePair.destroyed)
    (flushes : action.flushes = t.action.flushes) (other : action ≠ .starting) :
    Steady t (t.goesOn s action) := by
  refine ⟨state, congrArg Option.isSome linked, ?_, id, ?_, fun starting => absurd starting other⟩
  · rw [← destroyed]; exact id
  · simp only [flushesDue, goesOn, flushes]

/-- Where the owner goes on and the state stays, only what waits matters. -/
theorem Sound.goesOn (sound : t.Sound) {s : Station} {action : Action}
    (state : s.queuePair.state = t.station.queuePair.state)
    (linked : s.queuePair.link = t.station.queuePair.link) (ready : t.action ≠ .starting)
    (plain : action.plain = true)
    (numbered : s.queuePair.work.Numbered s.queuePair.nextSequence) (apart : s.Apart) :
    (t.goesOn s action).Sound := by
  have other : action ≠ .starting := fun starting => by rw [starting] at plain; cases plain
  refine sound_of_plain plain numbered apart ?_ fun young =>
    sound.absent (young.of_state state other) ready
  intro early
  rw [← sound.unlinked (by rw [← state]; exact early), ← linked]
  rfl

/-- A send that is numbered comes to those that wait. -/
theorem passes_enter (sound : t.Sound) {draft : Draft} (entering : t.action = .entering draft) :
    Passes t t.station.completions [.send draft.pending.request draft.pending.operation] [] 0 0
      (t.goesOn (t.station.enter draft) (.launching draft)) := by
  obtain ⟨below, isSend, sink⟩ := sound.drafted draft entering
  have numbered := sound.numbered
  rw [Threads.limit, entering] at numbered
  have kept : (t.goesOn (t.station.enter draft) (.launching draft)).Sound :=
    sound.goesOn rfl rfl (by rw [entering]; simp) rfl
      ((numbered.posted isSend sink).mono below) sound.apart
  have steady : Steady t (t.goesOn (t.station.enter draft) (.launching draft)) :=
    steady_goesOn rfl rfl rfl (by rw [entering]; rfl) (by rintro ⟨⟩)
  have longer : (t.goesOn (t.station.enter draft) (.launching draft)).waiting = t.waiting + 1 := by
    simp only [waiting, Threads.goesOn, Station.enter, Station.withWork, List.length_append,
      List.length_singleton]
    omega
  have before : t.owed = t.station.queuePair.work.sends := by
    rw [owed, entering]
    exact List.append_nil _
  have after : (t.goesOn (t.station.enter draft) (.launching draft)).owed =
      t.station.queuePair.work.sends ++
        [(draft.pending.request, draft.pending.operation)] := by
    simp [owed, Threads.goesOn, Station.enter, Station.withWork, Work.sends, Action.carried]
  refine steady.passes kept rfl ?_ ?_ (List.forall_mem_nil _) ?_ (Or.inl ?_) (Or.inl ?_) ?_
  · rw [before, after, List.filterMap_nil, List.append_nil]
    exact List.perm_append_comm
  · rw [awaited, entering]
    exact List.Perm.of_eq (List.append_nil _).symm
  · rw [longer, entering]
    rfl
  · rw [due, due, longer, entering]
    exact Nat.le_refl _
  · rw [longer, entering]
    exact Nat.le_refl _
  · intro accepted order
    rw [List.filterMap_append]
    exact order.trans (List.append_nil _ ▸ List.suffix_rfl)

/-- A send whose frame the link has not taken is taken out of those that wait. -/
theorem passes_withdraw (sound : t.Sound) {sequence : Nat} {send : PendingSend}
    (withdrawing : t.action = .withdrawing sequence)
    (posted : t.station.queuePair.work.send? sequence = some send) :
    Passes t t.station.completions [] [] 0 0
      (t.goesOn (t.station.withWork (t.station.queuePair.work.withoutSend sequence))
        (.reporting send)) := by
  generalize after : t.goesOn (t.station.withWork (t.station.queuePair.work.withoutSend sequence))
    (.reporting send) = t'
  obtain ⟨isSend, perm, shorter⟩ := sound.numbered.taken posted
  have plain : t.action.plain = true := by rw [withdrawing]; rfl
  have kept : t'.Sound := by
    rw [← after]
    have numbered := sound.numbered.mono sound.limit_le
    refine ⟨numbered.sublist List.filter_sublist, by rintro _ ⟨⟩, ?_, sound.apart, by rintro ⟨⟩,
      by rintro ⟨⟩, sound.unlinked, fun young other =>
        sound.absent (young.of_state rfl other) (by rw [withdrawing]; simp)⟩
    intro other same
    cases same
    exact isSend
  have steady : Steady t t' :=
    after ▸ steady_goesOn rfl rfl rfl (by rw [withdrawing]; rfl) (by rintro ⟨⟩)
  have waiting : t'.waiting + 1 = t.waiting := by
    rw [← after]
    simp only [Threads.waiting, Threads.goesOn, Station.withWork, ← shorter, Work.withoutSend]
    omega
  have before : t.owed = t.station.queuePair.work.sends := by
    rw [owed, withdrawing]
    exact List.append_nil _
  refine steady.passes kept (by rw [← after]; rfl) ?_ ?_ (List.forall_mem_nil _) ?_ (Or.inl ?_)
    (Or.inl ?_) ?_
  · rw [before, ← after]
    exact perm.trans (List.Perm.of_eq (List.append_nil _).symm)
  · rw [awaited, withdrawing, ← after]
    exact List.Perm.of_eq (List.append_nil _).symm
  · rw [← waiting, withdrawing, ← after]
    rfl
  · rw [due, due, ← waiting, withdrawing, ← after]
    exact Nat.le_refl _
  · rw [← waiting, withdrawing, ← after]
    exact Nat.le_succ _
  · intro accepted order
    rw [List.append_nil, ← after]
    exact order

/-- A completion in hand is reported. -/
theorem passes_report (sound : t.Sound) {request : Request} {completion : Completion}
    {action : Action} (carried : t.action.carried = [request]) (reserves : t.action.reserves = 1)
    (flushes : action.flushes = t.action.flushes) (ready : t.action ≠ .starting)
    (next : action.carried = [] ∧ action.reserves = 0 ∧ action.entries = 0)
    (plain : action.plain = true) (kinds : completion.Owed)
    (sends : request.asSend? = completion.asSend?)
    (receives : request.asReceive? = completion.asReceive?) :
    Passes t t.station.completions [] [completion] 0 0
      (t.goesOn { t.station with completions := t.station.completions.push completion }
        action) := by
  have kept : (t.goesOn { t.station with completions := t.station.completions.push completion }
      action).Sound :=
    sound.goesOn rfl rfl ready plain (sound.numbered.mono sound.limit_le) sound.apart
  have steady : Steady t (t.goesOn
      { t.station with completions := t.station.completions.push completion } action) :=
    steady_goesOn rfl rfl rfl flushes fun starting => by rw [starting] at plain; cases plain
  refine steady.passes kept rfl ?_ ?_ ?_ ?_ (Or.inl ?_) (Or.inl ?_) ?_
  · rw [owed, owed, carried]
    simp [Threads.goesOn, next.1, sends, List.filterMap_cons]
  · rw [awaited, awaited, carried]
    simp [Threads.goesOn, next.1, receives, List.filterMap_cons]
  · intro c listed
    rw [List.mem_singleton.mp listed]
    exact kinds
  · rw [carried]
    simp [Threads.goesOn, next.1, Threads.waiting]
  · rw [due, due, reserves]
    simp [Threads.goesOn, next.2.1, Threads.waiting]
  · simp [Threads.goesOn, next.2.2, Threads.waiting]
  · intro accepted order
    rw [List.append_nil]
    exact order

/-- A receive that finds no held write waits, and its post returns. -/
theorem passes_await (sound : t.Sound) {request : UInt64} (meeting : t.action = .meeting request)
    (nobody : t.station.queuePair.work.held = []) :
    Passes t t.station.completions [.receive request] [] 0 0
      (t.returns (.ok ()) (t.station.withWork { t.station.queuePair.work with
        receives := t.station.queuePair.work.receives ++ [request] })) := by
  generalize after : t.returns (.ok ()) (t.station.withWork { t.station.queuePair.work with
    receives := t.station.queuePair.work.receives ++ [request] }) = t'
  have ready : t.action ≠ .starting := by rw [meeting]; simp
  have kept : t'.Sound := by
    rw [← after]
    refine sound_of_plain rfl ?_ (Or.inr nobody) sound.unlinked fun young =>
      sound.absent (young.of_state rfl (by rintro ⟨⟩)) ready
    exact (sound.numbered.mono sound.limit_le).sublist (List.Sublist.refl _)
  have steady : Steady t t' := by
    rw [← after]
    exact ⟨rfl, rfl, id, id, by simp only [flushesDue, meeting, Threads.returns, Action.flushes],
      by rintro ⟨⟩⟩
  have waiting : t'.waiting = t.waiting + 1 := by
    rw [← after]
    simp only [Threads.waiting, Threads.returns, Station.withWork, List.length_append,
      List.length_singleton]
    omega
  have before : t.awaited = t.station.queuePair.work.receives := by
    rw [awaited, meeting]
    exact List.append_nil _
  refine steady.passes kept (by rw [← after]; rfl) ?_ ?_ (List.forall_mem_nil _) ?_ (Or.inl ?_)
    (Or.inl ?_) ?_
  · rw [owed, meeting, ← after]
    exact List.Perm.of_eq (List.append_nil _).symm
  · rw [before, ← after]
    simp only [awaited, Threads.returns, Station.withWork, Action.carried, List.filterMap_nil,
      List.append_nil]
    exact (List.perm_append_singleton _ _).symm
  · rw [waiting, meeting, ← after]
    rfl
  · rw [due, due, waiting, meeting, ← after]
    exact Nat.le_refl _
  · rw [waiting, meeting, ← after]
    exact Nat.le_refl _
  · intro accepted order
    obtain ⟨earlier, split⟩ := order
    refine ⟨earlier, ?_⟩
    rw [← after, List.filterMap_append, ← split]
    exact (List.append_assoc _ _ _).symm

/-- A receive takes the write that was held first. -/
theorem passes_meet (sound : t.Sound) {request : UInt64} (meeting : t.action = .meeting request)
    {held : HeldImmediate} {later : List HeldImmediate}
    (oldest : t.station.queuePair.work.held = held :: later) :
    Passes t t.station.completions [.receive request] [] 0 0
      (t.goesOn (t.station.withWork { t.station.queuePair.work with held := later })
        (.met request held)) := by
  generalize after : t.goesOn (t.station.withWork { t.station.queuePair.work with held := later })
    (.met request held) = t'
  have nobody : t.station.queuePair.work.receives = [] :=
    sound.apart.resolve_right (by rw [oldest]; nofun)
  have kept : t'.Sound := by
    rw [← after]
    exact sound.goesOn rfl rfl (by rw [meeting]; nofun) rfl
      ((sound.numbered.mono sound.limit_le).sublist (List.Sublist.refl _)) (Or.inl nobody)
  have steady : Steady t t' := after ▸ steady_goesOn rfl rfl rfl (by rw [meeting]; rfl) nofun
  have waiting : t'.waiting = t.waiting := by rw [← after]; rfl
  refine steady.passes kept (by rw [← after]; rfl) ?_ ?_ nofun ?_ (Or.inl ?_) (Or.inl ?_) ?_
  · rw [owed, meeting, ← after]
    exact List.Perm.of_eq (List.append_nil _).symm
  · rw [awaited, awaited, meeting, ← after]
    simp [Threads.goesOn, Station.withWork, Action.carried, Request.asReceive?, nobody]
  · rw [waiting, meeting, ← after]
    rfl
  · rw [due, due, waiting, meeting, ← after]
    exact Nat.le_refl _
  · rw [waiting, meeting, ← after]
    exact Nat.le_succ _
  · intro accepted _
    rw [← after]
    show t.station.queuePair.work.receives <:+ _
    rw [nobody]
    exact List.nil_suffix

/-! ### The receive thread -/

theorem steady_receives {s : Station} {reception : Reception}
    (state : s.queuePair.state = t.station.queuePair.state)
    (linked : s.queuePair.link = t.station.queuePair.link)
    (destroyed : s.queuePair.destroyed = t.station.queuePair.destroyed)
    (flushes : reception.flushes = t.reception.flushes) (onward : t.reception.past = false) :
    Steady t (t.receives s reception) := by
  refine ⟨state, congrArg Option.isSome linked, ?_, ?_, ?_, ?_⟩
  · rw [← destroyed]; exact id
  · rw [onward]; exact nofun
  · simp only [flushesDue, Threads.receives, flushes]
  · exact fun starting => Or.inr (Or.inr (Or.inr starting))

/-- A frame ends a send. -/
theorem passes_conclude (sound : t.Sound) {s : Station} {reception : Reception} {sequence : Nat}
    {completed : Option Completion} (ends : t.station.Ends sequence completed s)
    (flushes : reception.flushes = t.reception.flushes)
    (onward : t.reception.past = false) (present : t.reception ≠ .absent) :
    Passes t t.station.completions [] completed.toList 0 0 (t.receives s reception) := by
  cases completed with
  | none =>
    obtain ⟨queuePair, completions⟩ := ends.idle rfl
    have alike : t.station.Alike s := by
      refine ⟨?_, ?_, completions, Nat.le_of_eq (by rw [queuePair]), ?_, ?_⟩ <;> rw [queuePair]
    exact passes_receiving sound alike rfl flushes (fun past => by rw [onward] at past; cases past)
      fun absent => absurd absent present
  | some completion =>
    obtain ⟨send, status, posted, rfl, queuePair, completions⟩ := ends.done _ rfl
    obtain ⟨isSend, perm, shorter⟩ := sound.numbered.taken posted
    obtain ⟨asSend, asReceive, real⟩ := Station.report_of_send isSend t.station send.request status
      (if status = .success then send.length else 0) none
    generalize after : t.receives s reception = t'
    have kept : t'.Sound := by
      rw [← after]
      refine sound.of_same_action rfl ?_ ?_ ?_ ?_ ?_ ?_ fun absent => absurd absent present
      all_goals simp only [Threads.receives, queuePair, Station.Apart]
      · exact Nat.le_refl _
      · exact List.filter_sublist
      · exact sound.apart
    have steady : Steady t t' := by
      rw [← after]
      refine steady_receives ?_ ?_ ?_ flushes onward <;> rw [queuePair]
    have waiting : t'.waiting + 1 = t.waiting := by
      rw [← after]
      simp only [Threads.waiting, Threads.receives, queuePair, ← shorter, Work.withoutSend]
      omega
    have action : t'.action = t.action := by rw [← after]; rfl
    have owes : t.station.outcomeOf send status = t.station.report send.request send.operation
      status (if status = .success then send.length else 0) none := rfl
    refine steady.passes kept ?_ ?_ ?_ ?_ ?_ (Or.inl ?_) (Or.inl ?_) ?_
    · rw [← after]; exact completions
    · have sends : t'.station.queuePair.work.sends =
          (t.station.queuePair.work.withoutSend sequence).sends := by
        rw [← after]
        simp only [Threads.receives, queuePair]
      rw [owed, owed, action, sends, owes, Option.toList_some, List.filterMap_cons, asSend]
      refine (perm.append_right _).trans ?_
      simp only [List.filterMap_nil, List.append_assoc]
      exact List.perm_append_comm.append_left _
    · have receives : t'.station.queuePair.work.receives = t.station.queuePair.work.receives := by
        rw [← after]
        simp only [Threads.receives, queuePair, Work.withoutSend]
      rw [awaited, awaited, action, receives, owes, Option.toList_some, List.filterMap_cons,
        asReceive]
      exact List.Perm.of_eq (List.append_nil _).symm
    · intro c listed
      rw [List.mem_singleton.mp listed]
      exact ⟨Or.inl (by rw [owes, asSend]; rfl), real⟩
    · rw [← waiting, action]
      simp only [Option.toList_some, List.length_singleton, List.length_nil]
      omega
    · rw [due, due, ← waiting, action]
      simp only [Option.toList_some, List.length_singleton]
      omega
    · rw [← waiting, action]
      omega
    · intro accepted order
      rw [List.append_nil, ← after]
      simp only [Threads.receives, queuePair]
      exact order

/-- A write with an immediate consumes the receive that has waited longest. -/
theorem passes_consume (sound : t.Sound) {header : Header}
    (claiming : t.reception = .claiming header) {request : UInt64} {later : List UInt64}
    (waits : t.station.queuePair.work.receives = request :: later) {reception : Reception}
    (flushes : reception.flushes = 0) :
    Passes t t.station.completions []
      [t.station.report request .receiveWithImmediate .success header.length
        (some header.immediate)] 0 0
      (t.receives ((t.station.withWork { t.station.queuePair.work with receives := later }).complete
        request .receiveWithImmediate .success header.length (some header.immediate))
        reception) := by
  obtain ⟨asSend, asReceive, real⟩ :=
    t.station.report_of_consumed request header.length (some header.immediate)
  generalize after : t.receives ((t.station.withWork { t.station.queuePair.work with
    receives := later }).complete request .receiveWithImmediate .success header.length
      (some header.immediate)) reception = t'
  have action : t'.action = t.action := by rw [← after]; rfl
  have idle : t.station.queuePair.work.held = [] :=
    sound.apart.resolve_left (by rw [waits]; nofun)
  have kept : t'.Sound := by
    rw [← after]
    exact sound.of_same_action rfl rfl rfl (Nat.le_refl _) rfl (List.Sublist.refl _) (Or.inr idle)
      fun absent => by rw [claiming] at absent; cases absent
  have steady : Steady t t' := by
    rw [← after]
    exact steady_receives rfl rfl rfl (by rw [flushes, claiming]; rfl) (by rw [claiming]; rfl)
  have waiting : t'.waiting + 1 = t.waiting := by
    rw [← after, Threads.waiting, Threads.waiting, waits]
    rfl
  refine steady.passes kept (by rw [← after]; rfl) ?_ ?_ ?_ ?_ (Or.inl ?_) (Or.inl ?_) ?_
  · rw [owed, owed, action, List.filterMap_cons, asSend, ← after]
    exact List.Perm.of_eq (List.append_nil _).symm
  · have receives : t'.station.queuePair.work.receives = later := by rw [← after]; rfl
    rw [awaited, awaited, action, receives, waits, List.filterMap_cons, asReceive]
    exact (List.perm_append_singleton _ _).symm
  · intro c listed
    rw [List.mem_singleton.mp listed]
    exact ⟨Or.inr (by rw [asReceive]; rfl), real⟩
  · rw [← waiting, action]
    simp only [List.length_singleton, List.length_nil]
    omega
  · rw [due, due, ← waiting, action]
    simp only [List.length_singleton]
    omega
  · rw [← waiting, action]
    omega
  · intro accepted order
    rw [List.append_nil, ← after]
    rw [waits] at order
    exact (List.suffix_cons request later).trans order

/-- A write that finds no receive is held. -/
theorem passes_hold (sound : t.Sound) {header : Header} (claiming : t.reception = .claiming header)
    (nobody : t.station.queuePair.work.receives = []) (held : List HeldImmediate)
    {reception : Reception} (flushes : reception.flushes = 0) :
    Passes t t.station.completions [] [] 0 0
      (t.receives (t.station.withWork { t.station.queuePair.work with held := held })
        reception) := by
  have kept : (t.receives (t.station.withWork { t.station.queuePair.work with held := held })
      reception).Sound :=
    sound.of_same_action rfl rfl rfl (Nat.le_refl _) rfl (List.Sublist.refl _) (Or.inl nobody)
      fun absent => by rw [claiming] at absent; cases absent
  have steady : Steady t (t.receives (t.station.withWork { t.station.queuePair.work with
      held := held }) reception) :=
    steady_receives rfl rfl rfl (by rw [flushes, claiming]; rfl) (by rw [claiming]; rfl)
  refine steady.passes kept rfl ?_ ?_ nofun rfl (Or.inl (Nat.le_refl _)) (Or.inl (Nat.le_refl _)) ?_
  · exact List.Perm.of_eq (List.append_nil _).symm
  · exact List.Perm.of_eq (List.append_nil _).symm
  · intro accepted order
    rw [List.append_nil]
    exact order

/-! ### Failing -/

/-- The state is set, and a flush is due. -/
theorem passes_mark {t' : Threads} (kept : t'.Sound) (station : t'.station = t.station.marked)
    (alive : t.station.queuePair.state ≠ .error) (carried : t'.action.carried = t.action.carried)
    (reserves : t'.action.reserves = t.action.reserves)
    (flushes : t'.flushesDue = t.flushesDue + 1) (starting : t'.action = .starting → t.Young)
    (past : t.reception.past = true → t'.reception.past = true) :
    Passes t t.station.completions [] [] 0 0 t' := by
  have waiting : t'.waiting = t.waiting := by rw [waiting, waiting, station]; rfl
  have before : t.failures = 0 := if_neg alive
  have after : t'.failures = 1 := by rw [failures, station]; rfl
  refine ⟨kept, by rw [station]; rfl, ?_, ?_, ?_, Or.inl (List.forall_mem_nil _), Or.inl ?_, ?_, ?_,
    ?_, ?_, ?_⟩
  · rw [owed, owed, station, carried]
    exact List.Perm.of_eq (List.append_nil _).symm
  · rw [awaited, awaited, station, carried]
    exact List.Perm.of_eq (List.append_nil _).symm
  · rw [waiting, carried]
    rfl
  · rw [due, due, waiting, reserves]
    exact Nat.le_refl _
  · rw [flushes, before, after]
    simp
  · rw [Nat.zero_add]
    refine youth_le fun young => ?_
    have failed : t'.station.queuePair.state = .error := by rw [station]; rfl
    rw [Young, failed] at young
    rcases young with young | young | young | young
    · cases young
    · cases young
    · cases young
    · exact starting young
  · rw [Nat.zero_add]
    exact onward_le past
  · intro settled
    have due := settled.flushed
    omega
  · intro accepted order
    rw [List.append_nil, station]
    exact order

/-- What waits is flushed, or the loss of the link is reported. -/
theorem passes_flush {t' : Threads} (sound : t.Sound) (kept : t'.Sound)
    (station : t'.station = t.station.flush) (carried : t'.action.carried = t.action.carried)
    (reserves : t'.action.reserves = t.action.reserves)
    (flushes : t'.flushesDue + 1 = t.flushesDue) (young : t'.Young → t.Young) {overtaken : Nat}
    (taken : t.waiting = 0 → t.action.reserves ≤ overtaken)
    (onward : overtaken + t'.onward ≤ t.onward) :
    Passes t t.station.completions [] t.station.lastReports 0 overtaken t' := by
  have sends := t.station.flushReports_sends sound.numbered.sends
  have receives := t.station.flushReports_receives sound.numbered.sends
  have length : t.station.flushReports.length = t.waiting := t.station.flushReports_length
  have failures : t'.failures = t.failures := by rw [failures, failures, station]; rfl
  have emptied : t'.waiting = 0 := by rw [waiting, station]; rfl
  have owed' : t'.owed = t.action.carried.filterMap Request.asSend? := by
    rw [owed, station, carried]; rfl
  have awaited' : t'.awaited = t.action.carried.filterMap Request.asReceive? := by
    rw [awaited, station, carried]; rfl
  have settled : t'.Settled → t'.waiting = 0 ∨
      (t.Settled ∧ t'.waiting + t'.action.entries ≤ t.waiting + t.action.entries) :=
    fun _ => Or.inl emptied
  have order (accepted : List Request) :
      t.station.queuePair.work.receives <:+ accepted.filterMap Request.asReceive? →
        t'.station.queuePair.work.receives <:+
          (accepted ++ []).filterMap Request.asReceive? := by
    rw [station]
    exact fun _ => List.nil_suffix
  have youth : 0 + t'.youth ≤ t.youth := by rw [Nat.zero_add]; exact youth_le young
  by_cases idle : t.station.flushReports = []
  · have none : t.waiting = 0 := by rw [← length, idle]; rfl
    have last : t.station.lastReports = [t.station.lossReport] := if_pos (by rw [idle]; rfl)
    obtain ⟨asSend, asReceive, loss⟩ := t.station.lossReport_counts
    rw [idle] at sends receives
    rw [last]
    refine ⟨kept, by rw [station, Station.flush, last], ?_, ?_, ?_,
      Or.inr ⟨_, rfl, loss, asSend, asReceive, none, ?_⟩, Or.inl ?_, ?_, youth, onward, settled,
      order⟩
    · rw [owed', owed, ← sends, List.filterMap_cons, asSend]
      exact List.Perm.of_eq (List.append_nil _).symm
    · rw [awaited', awaited, ← receives, List.filterMap_cons, asReceive]
      exact List.Perm.of_eq (List.append_nil _).symm
    · rw [emptied, none, carried, List.countP_singleton, loss]
      rfl
    · rw [due, emptied, reserves, Nat.zero_add]
      exact taken none
    · rw [due, due, emptied, none, reserves, List.countP_singleton, loss]
      exact Nat.le_refl _
    · rw [failures, List.countP_singleton, loss, if_pos rfl]
      omega
  · have last : t.station.lastReports = t.station.flushReports :=
      if_neg (by rw [List.isEmpty_iff]; exact idle)
    have kinds : ∀ c ∈ t.station.flushReports, c.Owed := by
      intro c listed
      rcases List.mem_append.mp listed with listed | listed
      · obtain ⟨entry, waits, rfl⟩ := List.mem_map.mp listed
        obtain ⟨asSend, -, real⟩ := Station.report_of_send (sound.numbered.sends entry waits)
          t.station entry.2.request .flushed 0 none
        exact ⟨Or.inl (by rw [asSend]; rfl), real⟩
      · obtain ⟨request, -, rfl⟩ := List.mem_map.mp listed
        obtain ⟨-, asReceive, real⟩ := t.station.report_of_flushed request
        exact ⟨Or.inr (by rw [asReceive]; rfl), real⟩
    obtain ⟨none, all⟩ := countP_isLoss_of_owed kinds
    rw [last]
    refine ⟨kept, by rw [station, Station.flush, last], ?_, ?_, ?_, Or.inl kinds, Or.inl ?_, ?_,
      youth, onward, settled, order⟩
    · rw [owed', owed, sends, List.filterMap_nil, List.nil_append]
      exact List.perm_append_comm
    · rw [awaited', awaited, receives, List.filterMap_nil, List.nil_append]
      exact List.perm_append_comm
    · rw [emptied, carried, all, length, List.length_nil]
      omega
    · rw [due, due, emptied, reserves, all, length]
      omega
    · rw [failures, none]
      omega

/-! ### The state -/

/-- A step that changes nothing but the state, and lets nobody wait for a flush. -/
theorem passes_state {t' : Threads} {revived : Nat} (kept : t'.Sound)
    (work : t'.station.queuePair.work = t.station.queuePair.work)
    (completions : t'.station.completions = t.station.completions)
    (action : t.action.carried = [] ∧ t.action.reserves = 0)
    (idle : t'.action = .idle) (flushes : t'.flushesDue = t.flushesDue)
    (past : t'.reception = t.reception)
    (failures : t.failures ≤ t'.failures + revived) (youth : revived + t'.youth ≤ t.youth)
    (settled : ¬ t'.Settled) : Passes t t.station.completions [] [] revived 0 t' := by
  have waiting : t'.waiting = t.waiting := by rw [waiting, waiting, work]
  have empty : t'.action.carried = [] := by rw [idle]; rfl
  refine ⟨kept, completions, ?_, ?_, ?_, Or.inl (List.forall_mem_nil _), Or.inl ?_, ?_, youth, ?_,
    fun now => absurd now settled, ?_⟩
  · simp [owed, work, action.1, empty]
  · simp [awaited, work, action.1, empty]
  · rw [waiting, action.1, idle]
    rfl
  · rw [due, due, waiting, action.2, idle]
    exact Nat.le_refl _
  · rw [flushes, List.countP_nil]
    omega
  · rw [Nat.zero_add]
    exact onward_le (by rw [past]; exact id)
  · intro accepted order
    rw [List.append_nil, work]
    exact order

/-- Sends may be posted from now on, also if the queue pair has failed meanwhile. -/
theorem passes_ready (sound : t.Sound) (starting : t.action = .starting) :
    Passes t t.station.completions [] [] (if t.action = .starting ∧ t.Failed then 1 else 0) 0
      (t.returns (.ok ()) { t.station with queuePair := t.station.queuePair.setReady }) := by
  have young : t.youth = 1 := if_pos (Or.inr (Or.inr (Or.inr starting)))
  have grown : (t.returns (.ok ())
      { t.station with queuePair := t.station.queuePair.setReady }).youth = 0 := by
    refine if_neg ?_
    rintro (h | h | h | h) <;> cases h
  refine passes_state ?_ rfl rfl (by rw [starting]; exact ⟨rfl, rfl⟩) rfl ?_ rfl ?_ ?_ ?_
  · refine sound_of_plain rfl (sound.numbered.mono sound.limit_le) sound.apart ?_ ?_
    · rintro (h | h) <;> cases h
    · rintro (h | h | h | h) <;> cases h
  · simp only [flushesDue, starting, Threads.returns, Action.flushes]
  · unfold Threads.failures
    by_cases failed : t.station.queuePair.state = .error
    · have revived : t.action = .starting ∧ t.Failed := ⟨starting, failed⟩
      rw [if_pos failed, if_pos revived]
      exact Nat.le_add_left _ _
    · rw [if_neg failed]
      exact Nat.zero_le _
  · rw [young, grown]
    split <;> decide
  · intro settled
    cases settled.failed

/-- The end of a queue pair that is destroyed. -/
theorem passes_retire (sound : t.Sound) (joining : t.action = .joining) :
    Passes t t.station.completions [] [] 0 0
      (t.returns (.ok ()) { t.station with queuePair := t.station.queuePair.retire }) := by
  have destroyed := sound.closing joining
  have grown : (t.returns (.ok ())
      { t.station with queuePair := t.station.queuePair.retire }).youth = 0 := by
    refine if_neg ?_
    rintro (h | h | h | h) <;> cases h
  refine passes_state ?_ rfl rfl (by rw [joining]; exact ⟨rfl, rfl⟩) rfl ?_ rfl ?_ ?_ ?_
  · refine sound_of_plain rfl (sound.numbered.mono sound.limit_le) sound.apart ?_ ?_
    · rintro (h | h) <;> cases h
    · rintro (h | h | h | h) <;> cases h
  · simp only [flushesDue, joining, Threads.returns, Action.flushes]
  · have failed : (t.returns (.ok ())
        { t.station with queuePair := t.station.queuePair.retire }).failures = 1 := if_pos rfl
    rw [failed, Threads.failures]
    split <;> decide
  · rw [grown]
    exact Nat.zero_le _
  · intro settled
    have present := settled.present
    rw [show (t.returns (.ok ()) { t.station with queuePair := t.station.queuePair.retire
      }).station.queuePair.destroyed = t.station.queuePair.destroyed from rfl, destroyed] at present
    cases present

end Books

end Threads

end RdmaLink
