import Classwright.Proofs.Class.Lines

/-!
# Class — classes that can be written

All that a class needs to be written is that it says something wherever a comment is due.

* `Class.Described`: every description and every free comment of a class says something.
* `Table.find?_of_mem`, `Table.find?_of_perm`: looking up in a table with each key once.
* `Class.fileLines_eq_ok_iff`: exactly these classes have lines.
* `Class.render_eq_ok_iff`: exactly these classes are rendered.
-/

namespace Classwright

open Writing

/-- Every description and every free comment of a class says something. -/
structure Class.Described (c : Class) : Prop where
  description : c.description.isBlank = false
  superdocs : ∀ superdoc ∈ c.superdocs, superdoc.isBlank = false
  constants : ∀ constant ∈ c.constants, constant.description.isBlank = false
  properties : ∀ property ∈ c.properties, property.description.isBlank = false
  members : ∀ v, ∀ member ∈ c.members v, member.text.isBlank = false

theorem Table.mem_of_find? {κ α : Type} [DecidableEq κ] {table : Table κ α} {key : κ} {value : α}
    (h : table.find? key = some value) : (key, value) ∈ table := by
  induction table with
  | nil => cases h
  | cons entry rest ih =>
      obtain ⟨k, v⟩ := entry
      unfold Table.find? at h
      split at h
      next he =>
        cases h
        rw [he]
        exact List.mem_cons_self
      next => exact List.mem_cons_of_mem _ (ih h)

theorem Table.find?_of_mem {κ α : Type} [DecidableEq κ] {table : Table κ α} {entry : κ × α}
    (distinct : (table.map Prod.fst).Nodup) (h : entry ∈ table) :
    table.find? entry.1 = some entry.2 := by
  induction table with
  | nil => cases h
  | cons other rest ih =>
      rw [List.map_cons, List.nodup_cons] at distinct
      unfold Table.find?
      rcases List.mem_cons.mp h with rfl | h
      · exact if_pos rfl
      · have ne : other.1 ≠ entry.1 := fun he => distinct.1 (he ▸ List.mem_map_of_mem h)
        exact (if_neg ne).trans (ih distinct.2 h)

/-- In a table with each key once the order of the entries does not matter. -/
theorem Table.find?_of_perm {κ α : Type} [DecidableEq κ] {table other : Table κ α}
    (distinct : (table.map Prod.fst).Nodup) (order : other.Perm table) (key : κ) :
    other.find? key = table.find? key := by
  have still : (other.map Prod.fst).Nodup := (order.map Prod.fst).nodup_iff.mpr distinct
  refine Option.ext fun value => ⟨fun h => ?_, fun h => ?_⟩
  · exact Table.find?_of_mem distinct (order.subset (Table.mem_of_find? h))
  · exact Table.find?_of_mem still (order.symm.subset (Table.mem_of_find? h))

namespace Class

open Comment (Tag docblock docblock_eq_ok_iff)

theorem exists_of_mem_members {c : Class} {v : Visibility} {member : Member}
    (h : member ∈ c.members v) : ∃ found, (v, found) ∈ c.methods ∧ member ∈ found := by
  unfold members at h
  cases hf : c.methods.find? v with
  | none =>
      rw [hf] at h
      cases h
  | some found =>
      rw [hf] at h
      exact ⟨found, Table.mem_of_find? hf, h⟩

theorem headingLines_eq_ok_iff {description : Text} {tags : List Tag} :
    (∃ lines, headingLines description tags = .ok lines) ↔ description.isBlank = false :=
  docblock_eq_ok_iff.trans (and_iff_left (Int.le_refl 0))

variable {c : Class}

theorem headerLines_eq_ok_iff : (∃ lines, c.headerLines = .ok lines) ↔
    c.description.isBlank = false ∧ ∀ superdoc ∈ c.superdocs, superdoc.isBlank = false := by
  simp only [headerLines, exists_inOrder_eq_ok, exists_allInOrder_eq_ok, exists_map_eq_ok,
    headingLines_eq_ok_iff, List.forall_mem_map, exists_ok, true_and]
  exact and_comm

theorem level_scope : 0 ≤ c.scope.level := by
  change 0 ≤ memberLevel
  decide

theorem accessorBlock_ok : ∃ lines, c.accessorBlock = .ok lines := by
  unfold accessorBlock
  split
  · simp only [exists_inOrder_eq_ok, exists_allInOrder_eq_ok, List.forall_mem_map, exists_ok,
      true_and, and_true]
    exact fun property _ => Scope.accessorLines_of_level property level_scope
  · exact exists_ok _

theorem fieldLines_eq_ok_iff : (∃ lines, c.fieldLines = .ok lines) ↔
    (∀ constant ∈ c.constants, constant.description.isBlank = false) ∧
    ∀ property ∈ c.properties, property.description.isBlank = false := by
  simp only [fieldLines, exists_inOrder_eq_ok, exists_allInOrder_eq_ok, List.forall_mem_map,
    Scope.constantLines_eq_ok_iff, Scope.propertyLines_eq_ok_iff, accessorBlock_ok, level_scope,
    and_true]

theorem groupLines_eq_ok_iff {v : Visibility} : (∃ lines, c.groupLines v = .ok lines) ↔
    ∀ member ∈ c.members v, member.text.isBlank = false := by
  unfold groupLines
  split
  · simp only [exists_inOrder_eq_ok, exists_allInOrder_eq_ok, List.forall_mem_map,
      Scope.memberLines_eq_ok_iff, level_scope, exists_ok, and_true, true_and]
  next h => simp [Decidable.not_not.mp h]

/-- A class has lines exactly when it is described. -/
theorem fileLines_eq_ok_iff : (∃ lines, c.fileLines = .ok lines) ↔ c.Described := by
  simp only [fileLines, innerLines, exists_map_eq_ok, exists_inOrder_eq_ok, exists_allInOrder_eq_ok,
    headerLines_eq_ok_iff, fieldLines_eq_ok_iff, List.forall_mem_map, groupLines_eq_ok_iff,
    exists_ok, true_and]
  constructor
  · rintro ⟨⟨description, superdocs⟩, ⟨constants, properties⟩, members⟩
    exact ⟨description, superdocs, constants, properties, fun v => members v v.mem_all⟩
  · rintro ⟨description, superdocs, constants, properties, members⟩
    exact ⟨⟨description, superdocs⟩, ⟨constants, properties⟩, fun v _ => members v⟩

/-- A class is rendered exactly when it is described. -/
theorem render_eq_ok_iff : (∃ lines, c.render = .ok lines) ↔ c.Described := by
  rw [← fileLines_eq_ok_iff, render, text_eq]
  cases c.fileLines with
  | error error => constructor <;> rintro ⟨lines, h⟩ <;> cases h
  | ok lines => exact ⟨fun _ => ⟨lines, rfl⟩, fun _ => ⟨_, rfl⟩⟩

end Class

end Classwright
