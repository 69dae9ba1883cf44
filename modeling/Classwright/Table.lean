/-!
# Table — entries in the order of their first appearance

A table pairs keys with values. A second value for a key takes the place of the first, so the order
of the keys is the order in which they first came.

* `Table.find?`, `Table.contains`: looking a key up.
* `Table.insert`: a value for a key.
* `Table.find?_insert`: the last value wins, and no other key notices.
* `Table.find?_foldl_insert`: so it does among many.
-/

namespace Classwright

/-- Keys with values, each key once. -/
abbrev Table (κ α : Type) := List (κ × α)

namespace Table

variable {κ α : Type} [DecidableEq κ]

/-- The value of a key. -/
def find? (key : κ) : Table κ α → Option α
  | [] => none
  | (k, v) :: rest => if k = key then some v else find? key rest

/-- Has the key a value? -/
def contains (table : Table κ α) (key : κ) : Bool := (find? key table).isSome

/-- The table with this value for the key: in the key's place if it has one, at the end
otherwise. -/
def insert (key : κ) (value : α) : Table κ α → Table κ α
  | [] => [(key, value)]
  | (k, v) :: rest => if k = key then (k, value) :: rest else (k, v) :: insert key value rest

@[simp] theorem find?_nil (key : κ) : find? key ([] : Table κ α) = none := rfl

theorem find?_insert (table : Table κ α) (key other : κ) (value : α) :
    find? other (insert key value table) = if key = other then some value else find? other table := by
  induction table with
  | nil => simp [insert, find?]
  | cons entry rest ih =>
      obtain ⟨k, v⟩ := entry
      by_cases hk : k = key
      · by_cases ho : key = other <;> simp [insert, find?, hk, ho]
      · by_cases ho : k = other
        · subst ho
          simp [insert, find?, hk, Ne.symm hk]
        · simp [insert, find?, hk, ho, ih]

theorem contains_insert (table : Table κ α) (key other : κ) (value : α) :
    contains (insert key value table) other = (key = other || contains table other) := by
  rw [contains, find?_insert]
  by_cases h : key = other <;> simp [h, contains]

theorem find?_append (first second : Table κ α) (key : κ) :
    find? key (first ++ second) = (find? key first).or (find? key second) := by
  induction first with
  | nil => rfl
  | cons entry rest ih =>
      by_cases h : entry.1 = key
      · simp [find?, h]
      · simp [find?, h, ih]

/-- Of several values for a key the last one counts. -/
theorem find?_foldl_insert (entries : List (κ × α)) (table : Table κ α) (key : κ) :
    find? key (entries.foldl (fun table entry => insert entry.1 entry.2 table) table)
      = (find? key entries.reverse).or (find? key table) := by
  induction entries generalizing table with
  | nil => rfl
  | cons entry rest ih =>
      rw [List.foldl_cons, ih, find?_insert, List.reverse_cons, find?_append, Option.or_assoc]
      by_cases h : entry.1 = key <;> simp [find?, h]

end Table

end Classwright
