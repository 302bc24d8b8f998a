import RdmaLink.Proofs.Threads.Ledger

/-!
# What a step may do to the books

Everything that is shown of the books of two threads follows from what one step does to them
(`Threads.Passes`).  Most steps leave the books alone; a few enter a request, take one out of those
that wait, report it, or flush them all.

    sends entered + sends owed before = sends owed after + sends reported           (Passes.owed)
    places due after + requests reported ≤ places due before                        (Passes.due)
    losses reported + flushes due after + failures before
      ≤ flushes due before + failures after                                        (Passes.losses)

The last two have one exception each: a post that finds room takes a place, and a queue pair that is
made ready to send after it has failed may fail again.
-/

namespace RdmaLink

/-- A completion that is owed to a request. -/
def Completion.Owed (completion : Completion) : Prop :=
  (completion.asSend?.isSome ∨ completion.asReceive?.isSome) ∧ completion.isLoss = false

/-- A send that is taken out of those that wait is one less of them. -/
theorem Work.Numbered.taken {next sequence : Nat} {work : Work} {send : PendingSend}
    (h : work.Numbered next) (posted : work.send? sequence = some send) :
    send.operation.isSend = true ∧
      work.sends.Perm ((work.withoutSend sequence).sends ++ [(send.request, send.operation)]) ∧
      (work.withoutSend sequence).outstanding.length + 1 = work.outstanding.length := by
  obtain ⟨before, after, old, new⟩ := h.split posted
  refine ⟨h.sends (sequence, send) (by rw [old]; simp), ?_, ?_⟩
  · rw [Work.sends, Work.sends, old, new, List.map_append, List.map_append, List.map_cons]
    exact List.perm_middle.trans (List.perm_append_singleton _ _).symm
  · rw [old, new]
    simp only [List.length_append, List.length_cons]
    omega

namespace Threads

/-- What holds in every state that the threads come to. -/
structure Sound (t : Threads) : Prop where
  numbered : t.station.queuePair.work.Numbered t.limit
  drafted : ∀ draft, t.action = .entering draft →
    draft.sequence < t.station.queuePair.nextSequence ∧ draft.pending.operation.isSend = true ∧
      (draft.pending.sink.isSome = true → draft.pending.operation = .read)
  lost : ∀ send, t.action = .reporting send → send.operation.isSend = true
  apart : t.station.Apart
  closing : t.action = .joining → t.station.queuePair.destroyed = true
  starting : t.action = .starting →
    t.station.queuePair.state = .readyToReceive ∨ t.Failed
  unlinked : t.station.queuePair.state = .reset ∨ t.station.queuePair.state = .init →
    t.station.queuePair.link = none
  absent : t.Young → t.action ≠ .starting → t.reception = .absent

/-- One if the queue pair has failed. -/
def failures (t : Threads) : Nat := if t.station.queuePair.state = .error then 1 else 0

/-- One if the queue pair has not been made ready to send yet. -/
def youth (t : Threads) : Nat := if t.Young then 1 else 0

/-- One if the receive thread may still report something. -/
def onward (t : Threads) : Nat := if t.reception.past then 0 else 1

/-- What a step does to the books: the queue from which it takes completions, the requests that it
enters, the completions that it reports, and whether it lets sends be posted after a failure or
takes a place that was spoken for. -/
structure Passes (t : Threads) (queue : CompletionQueue) (entered : List Request)
    (told : List Completion) (revived overtaken : Nat) (t' : Threads) : Prop where
  sound : t'.Sound
  pushed : t'.station.completions = told.foldl CompletionQueue.push queue
  owed : (entered.filterMap Request.asSend? ++ t.owed).Perm
    (t'.owed ++ told.filterMap Completion.asSend?)
  awaited : (entered.filterMap Request.asReceive? ++ t.awaited).Perm
    (t'.awaited ++ told.filterMap Completion.asReceive?)
  count : t'.waiting + t'.action.carried.length + told.countP (fun c => !c.isLoss) =
    t.waiting + t.action.carried.length + entered.length
  kinds : (∀ c ∈ told, c.Owed) ∨
    (∃ c, told = [c] ∧ c.isLoss = true ∧ c.asSend? = none ∧ c.asReceive? = none ∧
      t.waiting = 0 ∧ t'.due ≤ overtaken)
  due : t'.due + told.countP (fun c => !c.isLoss) ≤ t.due ∨
    (t.station.load < t.station.completions.depth ∧ told = [] ∧ t'.due ≤ t.waiting + 1)
  losses : told.countP Completion.isLoss + t'.flushesDue + t.failures ≤
    t.flushesDue + t'.failures + revived
  youth : revived + t'.youth ≤ t.youth
  onward : overtaken + t'.onward ≤ t.onward
  settled : t'.Settled → t'.waiting = 0 ∨
    (t.Settled ∧ t'.waiting + t'.action.entries ≤ t.waiting + t.action.entries)
  order : ∀ accepted : List Request,
    t.station.queuePair.work.receives <:+ accepted.filterMap Request.asReceive? →
    t'.station.queuePair.work.receives <:+ (accepted ++ entered).filterMap Request.asReceive?

/-! ## Steps that keep the state -/

section Steady

variable {t t' : Threads}

theorem youth_le (young : t'.Young → t.Young) : t'.youth ≤ t.youth := by
  unfold youth
  split
  · next now => exact Nat.le_of_eq (if_pos (young now)).symm
  · exact Nat.zero_le _

theorem onward_le (past : t.reception.past = true → t'.reception.past = true) :
    t'.onward ≤ t.onward := by
  unfold onward
  split
  · exact Nat.zero_le _
  · next going => exact Nat.le_of_eq (if_neg fun gone => going (past gone)).symm

theorem countP_isLoss_of_owed {told : List Completion} (kinds : ∀ c ∈ told, c.Owed) :
    told.countP Completion.isLoss = 0 ∧ told.countP (fun c => !c.isLoss) = told.length := by
  constructor
  · refine List.countP_eq_zero.mpr fun c listed => ?_
    rw [(kinds c listed).2]
    exact Bool.false_ne_true
  · refine List.countP_eq_length.mpr fun c listed => ?_
    rw [(kinds c listed).2]
    rfl

/-- A step that neither fails the queue pair nor flushes it, nor makes it ready to send. -/
structure Steady (t t' : Threads) : Prop where
  state : t'.station.queuePair.state = t.station.queuePair.state
  linked : t'.station.queuePair.link.isSome = t.station.queuePair.link.isSome
  present : t'.station.queuePair.destroyed = false → t.station.queuePair.destroyed = false
  past : t.reception.past = true → t'.reception.past = true
  flushes : t'.flushesDue = t.flushesDue
  starting : t'.action = .starting → t.Young

theorem Steady.young (steady : Steady t t') (young : t'.Young) : t.Young := by
  by_cases starting : t'.action = .starting
  · exact steady.starting starting
  · exact young.of_state steady.state starting

theorem Steady.passes (steady : Steady t t') {queue : CompletionQueue} {entered : List Request}
    {told : List Completion} (kept : t'.Sound)
    (pushed : t'.station.completions = told.foldl CompletionQueue.push queue)
    (owed : (entered.filterMap Request.asSend? ++ t.owed).Perm
      (t'.owed ++ told.filterMap Completion.asSend?))
    (awaited : (entered.filterMap Request.asReceive? ++ t.awaited).Perm
      (t'.awaited ++ told.filterMap Completion.asReceive?))
    (kinds : ∀ c ∈ told, c.Owed)
    (count : t'.waiting + t'.action.carried.length + told.length =
      t.waiting + t.action.carried.length + entered.length)
    (due : t'.due + told.length ≤ t.due ∨
      (t.station.load < t.station.completions.depth ∧ told = [] ∧ t'.due ≤ t.waiting + 1))
    (entries : t'.waiting + t'.action.entries ≤ t.waiting + t.action.entries ∨ ¬ t.Failed)
    (order : ∀ accepted : List Request,
      t.station.queuePair.work.receives <:+ accepted.filterMap Request.asReceive? →
      t'.station.queuePair.work.receives <:+
        (accepted ++ entered).filterMap Request.asReceive?) :
    Passes t queue entered told 0 0 t' := by
  obtain ⟨none, all⟩ := countP_isLoss_of_owed kinds
  have failures : t'.failures = t.failures := by simp only [Threads.failures, steady.state]
  refine ⟨kept, pushed, owed, awaited, ?_, Or.inl kinds, ?_, ?_, ?_, ?_, ?_, order⟩
  · rw [all]; exact count
  · rw [all]; exact due
  · rw [none, steady.flushes, failures, Nat.zero_add]; exact Nat.le_refl _
  · rw [Nat.zero_add]; exact youth_le steady.young
  · rw [Nat.zero_add]; exact onward_le steady.past
  · rintro ⟨failed, linked, present, flushed⟩
    have before : t.Failed := steady.state.symm.trans failed
    refine Or.inr ⟨⟨before, ?_, steady.present present, ?_⟩, ?_⟩
    · rw [← steady.linked]; exact linked
    · rw [← steady.flushes]; exact flushed
    · exact entries.resolve_right fun alive => alive before

/-- A step that leaves the books alone; a post may take a place that it finds free. -/
theorem Steady.passes_quiet (steady : Steady t t') (kept : t'.Sound)
    (work : t'.station.queuePair.work = t.station.queuePair.work)
    (completions : t'.station.completions = t.station.completions)
    (carried : t'.action.carried = t.action.carried)
    (reserves : t'.action.reserves ≤ t.action.reserves ∨
      t.station.load < t.station.completions.depth)
    (entries : t'.action.entries ≤ t.action.entries ∨ ¬ t.Failed) :
    Passes t t.station.completions [] [] 0 0 t' := by
  have waiting : t'.waiting = t.waiting := by rw [waiting, waiting, work]
  refine steady.passes kept completions ?_ ?_ nofun ?_ ?_ ?_ ?_
  · simp [owed, work, carried]
  · simp [awaited, work, carried]
  · simp [waiting, carried]
  · refine reserves.imp (fun less => ?_) (fun room => ⟨room, rfl, ?_⟩)
    · simp only [due, waiting, List.length_nil]
      omega
    · rw [due, waiting]
      exact Nat.add_le_add_left t'.action.reserves_le _
  · refine entries.imp_left fun fewer => ?_
    rw [waiting]
    omega
  · intro accepted order
    rw [work, List.append_nil]
    exact order

end Steady

/-! ## What stays sound -/

section Sound

variable {t t' : Threads}

theorem Sound.limit_le (sound : t.Sound) : t.limit ≤ t.station.queuePair.nextSequence := by
  unfold limit
  split
  · next draft entering => exact Nat.le_of_lt (sound.drafted draft entering).1
  · exact Nat.le_refl _

theorem Sound.unlinked_of_alike (sound : t.Sound) (alike : t.station.Alike t'.station)
    (early : t'.station.queuePair.state = .reset ∨ t'.station.queuePair.state = .init) :
    t'.station.queuePair.link = none := by
  have before := sound.unlinked (by rw [← alike.state]; exact early)
  have linked := alike.linked
  rw [before] at linked
  exact Option.not_isSome_iff_eq_none.mp (by rw [linked]; decide)

/-- Where a call has nothing of its own to keep true, only the station matters. -/
theorem sound_of_plain (plain : t.action.plain = true)
    (numbered : t.station.queuePair.work.Numbered t.station.queuePair.nextSequence)
    (apart : t.station.Apart)
    (unlinked : t.station.queuePair.state = .reset ∨ t.station.queuePair.state = .init →
      t.station.queuePair.link = none)
    (absent : t.Young → t.reception = .absent) : t.Sound := by
  have other {action : Action} (special : action.plain = false) : t.action ≠ action := by
    rintro rfl
    rw [plain] at special
    cases special
  have limit : t.limit = t.station.queuePair.nextSequence := by
    unfold Threads.limit
    split
    · next draft entering => exact absurd entering (other rfl)
    · rfl
  refine ⟨?_, ?_, ?_, apart, ?_, ?_, unlinked, fun young _ => absent young⟩
  · rw [limit]
    exact numbered
  · intro draft entering
    exact absurd entering (other rfl)
  · intro send reporting
    exact absurd reporting (other rfl)
  · intro joining
    exact absurd joining (other rfl)
  · intro starting
    exact absurd starting (other rfl)

theorem Sound.of_alike (sound : t.Sound) (alike : t.station.Alike t'.station)
    (reception : t'.reception = t.reception) (ready : t.action ≠ .starting)
    (plain : t'.action.plain = true) : t'.Sound := by
  refine sound_of_plain plain ?_ ?_ (sound.unlinked_of_alike alike) ?_
  · rw [alike.work]
    exact sound.numbered.mono (Nat.le_trans sound.limit_le alike.numbering)
  · rw [Station.Apart, alike.work]
    exact sound.apart
  · intro young
    rw [reception]
    have other : t'.action ≠ .starting := fun starting => by rw [starting] at plain; cases plain
    exact sound.absent (young.of_state alike.state other) ready

/-- The receive thread changes nothing that the call in progress has to keep true, if it leaves the
sends in their order. -/
theorem Sound.of_same_action (sound : t.Sound) (action : t'.action = t.action)
    (state : t'.station.queuePair.state = t.station.queuePair.state)
    (destroyed : t'.station.queuePair.destroyed = t.station.queuePair.destroyed)
    (numbering : t.station.queuePair.nextSequence ≤ t'.station.queuePair.nextSequence)
    (linked : t'.station.queuePair.link.isSome = t.station.queuePair.link.isSome)
    (fewer : t'.station.queuePair.work.outstanding.Sublist t.station.queuePair.work.outstanding)
    (apart : t'.station.Apart) (absent : t.reception = .absent → t'.reception = .absent) :
    t'.Sound := by
  have later : t.limit ≤ t'.limit := by
    unfold limit
    rw [action]
    split
    · exact Nat.le_refl _
    · exact numbering
  constructor
  · exact (sound.numbered.mono later).sublist fewer
  · intro draft entering
    obtain ⟨below, rest⟩ := sound.drafted draft (action.symm.trans entering)
    exact ⟨Nat.lt_of_lt_of_le below numbering, rest⟩
  · intro send reporting
    exact sound.lost send (action.symm.trans reporting)
  · exact apart
  · intro joining
    exact destroyed.trans (sound.closing (action.symm.trans joining))
  · intro starting
    rw [Failed, state]
    exact sound.starting (action.symm.trans starting)
  · intro early
    rw [state] at early
    rw [sound.unlinked early] at linked
    exact Option.not_isSome_iff_eq_none.mp (by rw [linked]; decide)
  · intro young other
    exact absent (sound.absent (young.of_state state other) (action ▸ other))

end Sound

/-! ## Steps that leave the books alone -/

section Quiet

variable {t t' : Threads}

/-- The receive thread goes on and leaves the books alone. -/
theorem passes_receiving (sound : t.Sound) (alike : t.station.Alike t'.station)
    (action : t'.action = t.action) (flushes : t'.reception.flushes = t.reception.flushes)
    (past : t.reception.past = true → t'.reception.past = true)
    (absent : t.reception = .absent → t'.reception = .absent) :
    Passes t t.station.completions [] [] 0 0 t' := by
  have kept : t'.Sound := by
    refine sound.of_same_action action alike.state alike.destroyed alike.numbering alike.linked
      ?_ ?_ absent
    · rw [alike.work]
    · rw [Station.Apart, alike.work]; exact sound.apart
  have steady : Steady t t' := by
    refine ⟨alike.state, alike.linked, ?_, past, ?_, ?_⟩
    · rw [alike.destroyed]; exact id
    · rw [flushesDue, flushesDue, action, flushes]
    · rw [action]; exact fun starting => Or.inr (Or.inr (Or.inr starting))
  refine steady.passes_quiet kept alike.work alike.completions ?_ (Or.inl ?_) (Or.inl ?_)
  · rw [action]
  · exact Nat.le_of_eq (congrArg Action.reserves action)
  · exact Nat.le_of_eq (congrArg Action.entries action)

/-- The call in progress goes on, or returns, and leaves the books alone. -/
theorem passes_calling (sound : t.Sound) (alike : t.station.Alike t'.station)
    (reception : t'.reception = t.reception) (ready : t.action ≠ .starting)
    (plain : t'.action.plain = true) (carried : t'.action.carried = t.action.carried)
    (flushes : t'.action.flushes = t.action.flushes)
    (reserves : t'.action.reserves ≤ t.action.reserves ∨
      t.station.load < t.station.completions.depth)
    (entries : t'.action.entries ≤ t.action.entries ∨ ¬ t.Failed) :
    Passes t t.station.completions [] [] 0 0 t' := by
  have steady : Steady t t' := by
    refine ⟨alike.state, alike.linked, ?_, ?_, ?_, ?_⟩
    · rw [alike.destroyed]; exact id
    · rw [reception]; exact id
    · rw [flushesDue, flushesDue, reception, flushes]
    · intro starting
      rw [starting] at plain
      cases plain
  exact steady.passes_quiet (sound.of_alike alike reception ready plain) alike.work
    alike.completions carried reserves entries

end Quiet

end Threads

end RdmaLink
