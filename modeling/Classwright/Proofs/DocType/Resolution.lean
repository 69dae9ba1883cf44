import Classwright.DocType
import Classwright.Proofs.Text.Word

/-!
# DocType — types written out

A type in documentation is a union.  Each member is a name, maybe with a question mark in front,
maybe with array suffixes behind, and with white space around.  The grammar is given here on its
own, by members from which a type is composed, and so is the table of imports, by the last use
statement that claims a name.

* `lastSegment`, `claimant`, `fullName`: the full name of a plain name among use statements.
* `Imports.find?_ofUses`, `Imports.qualify_ofUses`: the imports hold what the last claimant says.
* `arrays`, `Bare`, `stripArrays_arrays`: array suffixes, and how they are found again.
* `Member`, `Member.written`, `Member.full`: a member, how code writes it, and how it is written
  out.
* `Imports.resolve_union`: a union is written out member by member.
-/

namespace Classwright.DocType

open Text

/-! ### Short names -/

/-- The end of a name that holds no backslash. -/
def lastSegment (name : Text) : Text := (name.reverse.takeWhile (· != '\\')).reverse

theorem shortName_of_plain {name : Text} (h : '\\' ∉ name) : shortName name = name := by
  rw [shortName, split_of_not_mem h]
  rfl

theorem shortName_append_cons (front : Text) {name : Text} (h : '\\' ∉ name) :
    shortName (front ++ '\\' :: name) = name := by
  rw [shortName, split_append_cons front name rfl, split_of_not_mem h, List.getLastD_concat]

theorem not_mem_lastSegment (name : Text) : '\\' ∉ lastSegment name := fun h =>
  absurd (List.all_eq_true.mp List.all_takeWhile _ (List.mem_reverse.mp h)) (by decide)

theorem shortName_eq_lastSegment (name : Text) : shortName name = lastSegment name := by
  have plain := not_mem_lastSegment name
  have whole : name = (name.reverse.dropWhile (· != '\\')).reverse ++ lastSegment name := by
    rw [lastSegment, ← List.reverse_append, List.takeWhile_append_dropWhile, List.reverse_reverse]
  cases front : name.reverse.dropWhile (· != '\\') with
  | nil =>
      rw [front, List.reverse_nil, List.nil_append] at whole
      rw [← whole] at plain ⊢
      exact shortName_of_plain plain
  | cons c rest =>
      have first := blank_of_head?_dropWhile (p := (· != '\\')) (by rw [front, List.head?_cons])
      rw [front, List.reverse_cons, List.append_assoc, List.singleton_append,
        show c = '\\' by simpa using first] at whole
      conv => lhs; rw [whole]
      exact shortName_append_cons _ plain

/-! ### Imports -/

/-- The name that use statements import under a short name: of the names they import, the last one
that ends in it. -/
def claimant (uses : List Text) (short : Text) : Option Text :=
  ((uses.map imported).filter fun full => full ≠ [] ∧ lastSegment full = short).getLast?

/-- A later claim takes the place of an earlier one. -/
theorem claimant_cons (use : Text) (uses : List Text) (short : Text) :
    claimant (use :: uses) short = (claimant uses short).or (claimant [use] short) := by
  rw [claimant, ← List.singleton_append, List.map_append, List.filter_append, List.getLast?_append]
  rfl

/-- A name written out as use statements have it. -/
def fullName (uses : List Text) (name : Text) : Text :=
  if name.head? = some '\\' then name
  else match claimant uses name with
    | some full => '\\' :: full
    | none => if isBuiltin name then name else '\\' :: name

namespace Imports

/-- One more use statement claims the last segment of what it imports. -/
theorem find?_addUse (imports : Imports) (use short : Text) :
    (imports.addUse use).find? short = (claimant [use] short).or (imports.find? short) := by
  rw [addUse, claimant, List.map_singleton]
  by_cases empty : imported use = []
  · simp [empty]
  · rw [if_neg empty, Table.find?_insert, shortName_eq_lastSegment]
    by_cases claims : lastSegment (imported use) = short
    · simp [empty, claims]
    · simp [claims]

theorem find?_foldl_addUse (imports : Imports) (uses : List Text) (short : Text) :
    (uses.foldl addUse imports).find? short = (claimant uses short).or (imports.find? short) := by
  induction uses generalizing imports with
  | nil => rfl
  | cons use uses ih =>
      rw [List.foldl_cons, ih, find?_addUse, claimant_cons use uses, Option.or_assoc]

/-- The imports of use statements hold the last claimant of a short name. -/
theorem find?_ofUses (uses : List Text) (short : Text) :
    (ofUses uses).find? short = claimant uses short := by
  rw [ofUses, find?_foldl_addUse]
  exact Option.or_none

theorem qualify_ofUses (uses : List Text) {name : Text} (named : name ≠ []) :
    (ofUses uses).qualify name = fullName uses name := by
  obtain ⟨c, cs, rfl⟩ := List.exists_cons_of_ne_nil named
  unfold fullName
  rw [← find?_ofUses]
  by_cases rooted : c = '\\'
  · rw [rooted]
    rfl
  · have cut : (c :: cs).head? ≠ some '\\' := by simpa using rooted
    have plain : ∀ tail, c :: cs = '\\' :: tail → False := fun tail h => rooted (List.cons.inj h).1
    exact (qualify.eq_3 _ _ named plain).trans (if_neg cut).symm

end Imports

/-! ### Array suffixes -/

/-- A number of array suffixes. -/
def arrays (k : Nat) : Text := (List.replicate k ("[]" : Text)).flatten

theorem arraySuffix_eq (k : Nat) : Imports.arraySuffix k = arrays k := by
  induction k with
  | zero => rfl
  | succ k ih =>
      rw [Imports.arraySuffix, ih]
      rfl

theorem subset_arrays (k : Nat) : arrays k ⊆ ("[]" : Text) := by
  intro c hc
  obtain ⟨suffix, hs, hc⟩ := List.mem_flatten.mp hc
  rwa [List.eq_of_mem_replicate hs] at hc

/-- The name does not end in an array suffix. -/
def Bare (base : Text) : Prop := ¬ ("[]" : Text) <:+ base

instance (base : Text) : Decidable (Bare base) := inferInstanceAs (Decidable (¬ _ <:+ base))

/-- Behind a name that ends in none all array suffixes are found. -/
theorem stripArrays_arrays {base : Text} (bare : Bare base) (k : Nat) :
    Imports.stripArrays (base ++ arrays k).reverse = (k, base.reverse) := by
  induction k with
  | zero =>
      rw [arrays, List.replicate_zero, List.flatten_nil, List.append_nil]
      refine Imports.stripArrays.eq_2 _ fun rest h => bare ⟨rest.reverse, ?_⟩
      rw [← List.reverse_reverse base, h, List.reverse_cons, List.reverse_cons, List.append_assoc]
      rfl
  | succ k ih =>
      have last : (base ++ arrays (k + 1)).reverse = ']' :: '[' :: (base ++ arrays k).reverse := by
        simp [arrays, List.replicate_succ']
      rw [last, Imports.stripArrays, ih]

/-! ### Members -/

/-- A member of a type: a name, maybe nullable, maybe an array, with white space around. -/
structure Member where
  before : Text
  nullable : Bool
  base : Text
  depth : Nat
  behind : Text
  front : isBlank before = true
  back : isBlank behind = true
  named : base ≠ []
  plain : ∀ c ∈ base, c ∉ ("|?[]" : Text) ∧ blank c = false

namespace Member

/-- Whether a base is plain is seen character by character. -/
theorem plain_of_all {base : Text}
    (h : base.all (fun c => !("|?[]" : Text).contains c && !blank c) = true) :
    ∀ c ∈ base, c ∉ ("|?[]" : Text) ∧ blank c = false := by
  simpa using h

/-- What code writes between the white space. -/
def core (m : Member) : Text := onlyIf m.nullable "?" ++ (m.base ++ arrays m.depth)

/-- The member as code writes it. -/
def written (m : Member) : Text := m.before ++ (m.core ++ m.behind)

/-- The member as it is written out. -/
def full (uses : List Text) (m : Member) : Text :=
  fullName uses m.base ++ (arrays m.depth ++ onlyIf m.nullable "|null")

variable (m : Member)

theorem not_mem_base {c : Char} (h : c ∈ ("|?[]" : Text)) : c ∉ m.base := fun hc =>
  (m.plain c hc).1 h

/-- Neither a blank nor a bar stands between the white space. -/
theorem mem_core {c : Char} (h : c ∈ m.core) : blank c = false ∧ c ≠ '|' := by
  have signs : ∀ c ∈ ("?[]" : Text), blank c = false ∧ c ≠ '|' := by
    have solid : blank '?' = false ∧ blank '[' = false ∧ blank ']' = false := by decide
    simp [solid]
  rcases List.mem_append.mp h with h | h
  · cases nullable : m.nullable with
    | true =>
        rw [nullable] at h
        rw [List.mem_singleton.mp h]
        exact signs '?' List.mem_cons_self
    | false =>
        rw [nullable] at h
        cases h
  · rcases List.mem_append.mp h with h | h
    · exact ⟨(m.plain c h).2, fun he => m.not_mem_base (by decide) (he ▸ h)⟩
    · exact signs c (List.mem_cons_of_mem _ (subset_arrays m.depth h))

theorem trim_written : trim m.written = m.core := by
  have starts : trimStart m.core = m.core :=
    trimStart_of_head? fun c hc => (m.mem_core (List.mem_of_head? hc)).1
  have ends : trimEnd m.core = m.core :=
    trimEnd_of_getLast? fun c hc => (m.mem_core (List.mem_of_getLast? hc)).1
  have said : isBlank m.core = false := isBlank_of_trimEnd (by simp [core, m.named]) ends
  rw [trim, written, trimStart_append_blanks (isBlank_eq_true_iff.mp m.front),
    trimStart_append_of_said _ said, starts, trimEnd_append_blanks (isBlank_eq_true_iff.mp m.back),
    ends]

theorem bar_not_mem_written : '|' ∉ m.written := by
  have bare {blanks : Text} (h : isBlank blanks = true) : '|' ∉ blanks := fun hc =>
    absurd (isBlank_eq_true_iff.mp h _ hc) (by decide)
  rw [written, List.mem_append, List.mem_append]
  rintro (h | h | h)
  · exact bare m.front h
  · exact (m.mem_core h).2 rfl
  · exact bare m.back h

end Member

namespace Imports

/-- A name in front of array suffixes is resolved on its own. -/
theorem resolveArray_arrays (imports : Imports) {base : Text} (bare : Bare base) (k : Nat) :
    imports.resolveArray (base ++ arrays k) = imports.qualify base ++ arrays k := by
  rw [resolveArray, stripArrays_arrays bare, List.reverse_reverse, arraySuffix_eq]

theorem resolveMember_of_marked (imports : Imports) {member base : Text}
    (h : trim member = '?' :: base) :
    imports.resolveMember member = imports.resolveArray base ++ "|null" := by
  rw [resolveMember, h]
  rfl

theorem resolveMember_of_unmarked (imports : Imports) {member : Text}
    (h : (trim member).head? ≠ some '?') :
    imports.resolveMember member = imports.resolveArray (trim member) := by
  rw [resolveMember]
  split
  · rename_i base marked
    exact absurd (by rw [marked]; rfl) h
  · rfl

theorem resolveMember_written (uses : List Text) (m : Member) :
    (ofUses uses).resolveMember m.written = m.full uses := by
  have bare : Bare m.base := fun h =>
    m.not_mem_base (c := ']') (by decide) (h.subset (by decide))
  have mark : '?' ∉ m.base := m.not_mem_base (by decide)
  have left := resolveArray_arrays (ofUses uses) bare m.depth
  rw [qualify_ofUses uses m.named] at left
  have core := m.trim_written
  rw [Member.core] at core
  rw [Member.full]
  cases nullable : m.nullable with
  | true =>
      rw [nullable] at core
      change trim m.written = '?' :: (m.base ++ arrays m.depth) at core
      rw [resolveMember_of_marked _ core, left, List.append_assoc]
      rfl
  | false =>
      rw [nullable] at core
      change trim m.written = m.base ++ arrays m.depth at core
      obtain ⟨c, cs, hb⟩ := List.exists_cons_of_ne_nil m.named
      have unmarked : (trim m.written).head? ≠ some '?' := by
        rw [core, hb]
        intro h
        exact mark (hb ▸ Option.some.inj h ▸ List.mem_cons_self)
      rw [resolveMember_of_unmarked _ unmarked, core, left]
      exact congrArg _ (List.append_nil _).symm

/-- **A type is written out member by member.**  Each name in it is the one that the use
statements give it, and stands in front of its array suffixes; a question mark in front of it
becomes a member `null` behind. -/
theorem resolve_union (uses : List Text) (members : List Member) :
    (ofUses uses).resolve (join "|" (members.map Member.written))
      = join "|" (members.map (Member.full uses)) := by
  cases members with
  | nil => rfl
  | cons m ms =>
      have cut : split (· == '|') (join "|" ((m :: ms).map Member.written))
          = (m :: ms).map Member.written := by
        refine split_join (by simp) ?_
        exact List.forall_mem_map.mpr fun m _ => m.bar_not_mem_written
      rw [resolve, cut, List.map_map]
      congr 1
      exact List.map_congr_left fun m _ => resolveMember_written uses m

/-- Two use statements that claim one name. -/
def rivalUses : List Text := ["App\\Model\\Foo", " \\Lib\\Foo "]

/-- A nullable array of what they import, a type of the language, and a name that nothing
imports. -/
def mixedMembers : List Member :=
  [{ before := " ", nullable := true, base := "Foo", depth := 2, behind := " ",
      front := by decide, back := by decide, named := by decide,
      plain := Member.plain_of_all (by decide) },
    { before := [], nullable := false, base := "int", depth := 0, behind := [],
      front := by decide, back := by decide, named := by decide,
      plain := Member.plain_of_all (by decide) },
    { before := " ", nullable := false, base := "Bar", depth := 0, behind := [],
      front := by decide, back := by decide, named := by decide,
      plain := Member.plain_of_all (by decide) }]

/-- The later import of a name counts, an imported array may be nullable, and a name of the
language itself stays. -/
theorem mixed_members_are_written_out :
    join "|" (mixedMembers.map Member.written) = " ?Foo[][] |int| Bar" ∧
      (ofUses rivalUses).resolve " ?Foo[][] |int| Bar" = "\\Lib\\Foo[][]|null|int|\\Bar" := by
  have written : join "|" (mixedMembers.map Member.written) = " ?Foo[][] |int| Bar" := by
    decide +kernel
  have full : join "|" (mixedMembers.map (Member.full rivalUses))
      = "\\Lib\\Foo[][]|null|int|\\Bar" := by decide +kernel
  have resolved := resolve_union rivalUses mixedMembers
  rw [written, full] at resolved
  exact ⟨written, resolved⟩

end Imports

end Classwright.DocType

