import RdmaLink.Proofs.Endpoint.Publication
import RdmaLink.Proofs.Publication.Agreement

/-!
# What an endpoint publishes in files

Two files that can be used are as faithful as a slot while no step on them fails.  So what holds of
an endpoint with a slot holds of one with files, told by what a connector reads of them.

    after.endpoint.listeners = [] → files.isReady after.board = false
    after.endpoint.listeners ≠ [] →
      files.current after.board = .ok (the address of the latest listener)
                                                            (Stand.files_name_latest_listener)
-/

namespace RdmaLink

namespace Publication

/-- Two files show what can be read of them, while no step fails. -/
theorem faithful_files {info ready : String} (apart : Apart info ready) :
    Faithful (.files (some info) (some ready))
      (fun board shown => Displays info ready board.tree shown) noFaults where
  publish address displays := displays.publish apart address
  withdraw displays := by
    obtain ⟨after, done, gone⟩ := displays.withdraw apart
    rw [done]
    exact gone

end Publication

namespace Stand

/-- In every run of an endpoint that alone publishes in two files, and of whose steps on them none
fails, nothing is ready when no listener is bound, and otherwise the files name the listener that
was bound latest: that listener is bound to the address, or it was taken before an older one. -/
theorem files_name_latest_listener (config : EndpointConfig) (device : Device) (region : Region)
    {info ready : String} (apart : Publication.Apart info ready) {board : Board}
    (free : ∀ path ∈ Publication.places info ready,
      board.tree.blocked path = none ∧ board.tree.node? path = none)
    (events : List EndpointEvent)
    (smooth : ∀ event ∈ events, ∀ faults ∈ event.publicationFaults,
      faults = Publication.noFaults) :
    let files := Publication.files (some info) (some ready)
    let start : Stand := ⟨Endpoint.opened config device files region, board⟩
    let after := start.run events
    (after.endpoint.listeners = [] → files.isReady after.board = false) ∧
    (after.endpoint.listeners ≠ [] → ∃ id address, start.latest none events = some (id, address) ∧
      (files.isReady after.board = true ∧ files.current after.board = .ok (some address)) ∧
      (∀ entry ∈ after.endpoint.listeners, entry.1 ≤ id) ∧
      (after.endpoint.listener? id = some address ∨ after.endpoint.listener? id = none)) := by
  intro files start after
  have begun : Tells files (fun board => Publication.Displays info ready board.tree) start none :=
    ⟨none, Publication.displays_of_free free, Announced.nobody none 1⟩
  have told : Tells _ _ after (start.latest none events) :=
    begun.run events fun event he faults hf =>
      smooth event he faults hf ▸ Publication.faithful_files apart
  refine ⟨fun none => ?_, fun left => ?_⟩
  · obtain ⟨shown, displays, announced⟩ := told
    obtain rfl := announced.withdrawn none
    exact displays.marked
  · obtain ⟨id, address, hlast, displays, rest⟩ := told.latest left
    exact ⟨id, address, hlast,
      ⟨displays.marked, Publication.current_of_line ready (displays.line address rfl)⟩, rest⟩

end Stand

end RdmaLink
