import RdmaLink.Proofs.Connection.Runs

/-!
# Connections that come up

What an activation that succeeds leaves behind, to the last field: both records, the lifecycle at
its ready state, and the queue pair that was there before with its rights and the link that it
came up over.

    (s.activate exchange conditions).result = .ok () →
      s.activate exchange conditions = ⟨.ok (), s.activated q link exchange, some link⟩
                                                                     (Session.activate_eq_ok)
-/

namespace RdmaLink

namespace QueuePair

/-- A queue pair that is ready to send over a link. -/
def running (q : QueuePair) (link : Stream) : QueuePair :=
  { q with
    attached := none
    state := .readyToSend
    link := some link
    intake := some (.header []) }

end QueuePair

namespace Session

variable {s : Session} {conditions : LinkConditions}

/-- The session after its connection has come up to the ready state with a queue pair. -/
def ready (s : Session) (queuePair : QueuePair) : Session :=
  s.withConnection
    { s.connection with
      lifecycle := ⟨.queuePairReady, s.connection.role⟩
      queuePair := some queuePair }

/-- The session after an activation: its queue pair runs over a link, and it has the records of
an exchange. -/
def activated (s : Session) (q : QueuePair) (link : Stream) (exchange : Exchange) : Session :=
  (s.withConnection
    { s.connection with
      ownRecord := some exchange.own
      peerRecord := some exchange.peer }).ready ({ q with access := Access.all }.running link)

theorem link_eq_ok {q : QueuePair} {peer : Record}
    (h : (s.link q peer conditions).result = .ok ()) :
    ∃ link, s.link q peer conditions = ⟨.ok (), s.ready (q.running link), some link⟩ := by
  unfold link at h ⊢
  split at h
  · cases h
  · next initialized hinitialized =>
    obtain ⟨_, -, rfl⟩ := Connection.apply_eq_ok hinitialized
    dsimp only at h ⊢
    split at h
    · cases h
    · split at h
      · cases h
      · next linked =>
        obtain ⟨link, attempt⟩ := QueuePair.toReadyToReceive_eq_ok linked
        rw [attempt] at h ⊢
        dsimp only at h ⊢
        split at h
        · cases h
        · split at h
          · cases h
          · next ready started =>
            obtain ⟨-, -, rfl⟩ := QueuePair.toReadyToSend_eq_ok started
            split at h
            · cases h
            · next active hactive =>
              obtain ⟨state, hstate, rfl⟩ := Connection.apply_eq_ok hactive
              cases Lifecycle.next?_queuePairActivated hstate
              exact ⟨link, rfl⟩

theorem bringUp_eq_ok {exchange : Exchange} (h : (s.bringUp exchange conditions).result = .ok ()) :
    ∃ q link, s.connection.queuePair = some q ∧
      s.bringUp exchange conditions =
        ⟨.ok (), s.ready ({ q with access := Access.all }.running link), some link⟩ := by
  unfold bringUp at h ⊢
  split at h
  · cases h
  · next q present =>
    refine ⟨q, ?_⟩
    split at h
    · cases h
    · split at h
      · cases h
      · next initialized hinit =>
        obtain ⟨-, rfl⟩ := QueuePair.toInit_eq_ok hinit
        dsimp only at h ⊢
        split at h
        · obtain ⟨link, linked⟩ := link_eq_ok h
          exact ⟨link, present, linked⟩
        · split at h
          · cases h
          · split at h
            · cases h
            · next attached hattach =>
              obtain ⟨-, rfl⟩ := QueuePair.attach_eq_ok hattach
              obtain ⟨link, linked⟩ := link_eq_ok h
              exact ⟨link, present, linked⟩

/-- An activation that succeeds leaves the connection with its queue pair and both records, and
the rest of the session as it was. -/
theorem activate_eq_ok {exchange : Exchange}
    (h : (s.activate exchange conditions).result = .ok ()) :
    ∃ q link, s.connection.queuePair = some q ∧
      s.activate exchange conditions =
        ⟨.ok (), s.activated q link exchange, some link⟩ := by
  unfold activate at h ⊢
  split at h
  · cases h
  · next informed happly =>
    obtain ⟨_, -, rfl⟩ := Connection.apply_eq_ok happly
    dsimp only at h ⊢
    split at h
    · next done =>
      obtain ⟨q, link, present, raised⟩ := bringUp_eq_ok done
      rw [raised]
      exact ⟨q, link, present, rfl⟩
    · cases h

end Session

end RdmaLink
