/-!
# Tables by name

A table holds objects under names, in the order in which the names came up.

    (table.put name a).lookup name = some a             (Table.lookup_put)
    (table.erase name).lookup name = none               (Table.lookup_erase)
    other ≠ name → (table.erase name).lookup other = table.lookup other
                                                        (Table.lookup_erase_of_ne)
-/

namespace RdmaLink

/-- Objects by name. -/
abbrev Table (α : Type) := List (String × α)

namespace Table

variable {α : Type}

/-- Puts an object under a name, in the place of the one that has it. -/
def put (name : String) (a : α) : Table α → Table α
  | [] => [(name, a)]
  | entry :: rest => if name = entry.1 then (name, a) :: rest else entry :: put name a rest

/-- Takes a name out. -/
def erase (name : String) (table : Table α) : Table α := table.filter fun entry => entry.1 != name

theorem lookup_put (name : String) (a : α) (table : Table α) :
    (put name a table).lookup name = some a := by
  induction table with
  | nil => simp [put]
  | cons entry rest ih =>
    obtain ⟨key, b⟩ := entry
    rw [put]
    split
    · simp
    · next h => simpa [List.lookup_cons, beq_eq_false_iff_ne.2 h] using ih

theorem lookup_erase (name : String) (table : Table α) :
    (erase name table).lookup name = none := by
  induction table with
  | nil => rfl
  | cons entry rest ih =>
    obtain ⟨key, b⟩ := entry
    by_cases h : key = name
    · simpa [erase, h] using ih
    · simpa [erase, h, List.lookup_cons, beq_eq_false_iff_ne.2 (Ne.symm h)] using ih

theorem lookup_erase_of_ne {name other : String} (h : other ≠ name) (table : Table α) :
    (erase name table).lookup other = List.lookup other table := by
  induction table with
  | nil => rfl
  | cons entry rest ih =>
    obtain ⟨key, b⟩ := entry
    by_cases same : key = name
    · have apart : (other == key) = false := beq_eq_false_iff_ne.2 (same ▸ h)
      simp only [List.lookup_cons, apart]
      simpa [erase, same] using ih
    · simp only [erase, List.filter, bne_iff_ne.2 same, List.lookup_cons]
      rw [← ih]
      rfl

end Table

end RdmaLink
