import Mathlib.Data.List.Basic

/-!
# What goes on since an event

What the events of a trace begin and end goes on after the trace if it was begun by an event and no
later one ended it.

    Since begins ends (trace ++ [event]) ↔
      begins event ∨ (Since begins ends trace ∧ ¬ ends event)                    (since_concat)
-/

namespace RdmaLink

variable {Event : Type} {begins ends : Event → Prop} {trace : List Event} {event : Event}

/-- It was begun, and was not ended after that. -/
def Since (begins ends : Event → Prop) (trace : List Event) : Prop :=
  ∃ earlier event later, trace = earlier ++ event :: later ∧ begins event ∧
    ∀ other ∈ later, ¬ ends other

theorem not_since_nil : ¬ Since begins ends [] := by
  rintro ⟨earlier, event, later, split, -⟩
  cases earlier <;> cases split

/-- Where a trace is parted, it is parted behind its last event or before that. -/
theorem parts_concat {earlier later : List Event} {first : Event}
    (split : trace ++ [event] = earlier ++ first :: later) :
    (earlier = trace ∧ first = event ∧ later = []) ∨
      ∃ between, later = between ++ [event] ∧ trace = earlier ++ first :: between := by
  rcases List.eq_nil_or_concat later with rfl | ⟨between, last, rfl⟩
  · obtain ⟨rfl, same⟩ := List.append_inj' split rfl
    exact Or.inl ⟨rfl, (List.singleton_inj.mp same).symm, rfl⟩
  · rw [List.concat_eq_append, ← List.cons_append, ← List.append_assoc] at split
    obtain ⟨rfl, same⟩ := List.append_inj' split rfl
    rw [List.singleton_inj.mp same, List.concat_eq_append]
    exact Or.inr ⟨between, rfl, rfl⟩

theorem since_concat :
    Since begins ends (trace ++ [event]) ↔
      begins event ∨ (Since begins ends trace ∧ ¬ ends event) := by
  constructor
  · rintro ⟨earlier, first, later, split, begun, unended⟩
    rcases parts_concat split with ⟨-, rfl, -⟩ | ⟨between, rfl, before⟩
    · exact Or.inl begun
    · exact Or.inr ⟨⟨earlier, first, between, before, begun, fun other listed =>
        unended other (List.mem_append_left _ listed)⟩, unended event (by simp)⟩
  · rintro (begun | ⟨⟨earlier, first, later, rfl, begun, unended⟩, goesOn⟩)
    · exact ⟨trace, event, [], rfl, begun, nofun⟩
    · refine ⟨earlier, first, later ++ [event], by simp, begun, fun other listed => ?_⟩
      rcases List.mem_append.mp listed with before | last
      · exact unended other before
      · rw [List.mem_singleton.mp last]
        exact goesOn

end RdmaLink
