import Classwright.Proofs.DocType.Resolution

/-!
# DocType — a type that is written out stays as it is

Whatever stands in a type, writing it out leaves members of one form: a name in front of array
suffixes, and the name is empty, begins with a backslash or is a type of the language itself that
no import claims.  Writing out such a member changes nothing, so writing out a whole type twice is
the same as once.  Two kinds of imports would break this: one whose full name holds a bar, and one
that claims `null`, which is the member that a question mark becomes.

* `not_mem_of_isBuiltin`: which characters a type of the language itself cannot hold.
* `Imports.Clear`: imports of neither kind; `Imports.clear_ofUses`: those of use statements.
* `Imports.Final`: a plain name that is written out; `Imports.final_qualify`: every name once it is;
  `Imports.qualify_induction`: what else carries over to it.
* `Imports.Settled`: a member that is written out; `Imports.settled_resolveMember`: every member.
* `Imports.resolve_settles`: a whole type.
-/

namespace Classwright.DocType

open Text

/-! ### Types of the language itself -/

/-- A character with no other small form is found again in small letters. -/
theorem mem_toLowerAfter {c : Char} (caseless : smallForm c = [c]) (plain : c ≠ 'Σ')
    {before t : Text} (h : c ∈ t) : c ∈ toLowerAfter before t := by
  induction t generalizing before with
  | nil => cases h
  | cons d ds ih =>
      rw [toLowerAfter, List.mem_append]
      rcases List.mem_cons.mp h with rfl | h
      · left
        rw [if_neg plain, caseless]
        exact List.mem_singleton_self c
      · exact .inr (ih h)

/-- A character with no other small form that is in none of the types of the language is in none of
their spellings. -/
theorem not_mem_of_isBuiltin {c : Char} (caseless : smallForm c = [c]) (plain : c ≠ 'Σ')
    (foreign : ∀ type ∈ builtins, c ∉ type) {name : Text} (h : isBuiltin name = true) :
    c ∉ name := by
  intro hc
  exact foreign _ (List.contains_iff_mem.mp h) (mem_toLowerAfter caseless plain hc)

/-- The code points of the blanks. -/
def blankCodes : List Nat := blankRanges.flatMap fun r => List.range' r.1 (r.2 + 1 - r.1)

theorem toNat_mem_blankCodes {c : Char} (h : blank c = true) : c.toNat ∈ blankCodes := by
  obtain ⟨r, hr, inside⟩ := List.any_eq_true.mp h
  rw [Bool.and_eq_true, decide_eq_true_eq, decide_eq_true_eq] at inside
  refine List.mem_flatMap.mpr ⟨r, hr, List.mem_range'_1.mpr ?_⟩
  omega

/-- Blanks have no case. -/
theorem smallForm_of_blank {c : Char} (h : blank c = true) : smallForm c = [c] := by
  have none : ∀ n ∈ blankCodes,
      lowerExpansions.lookup n = none ∧ CaseRun.find? lowerRuns n = none := by
    decide +kernel
  obtain ⟨expansion, run⟩ := none _ (toNat_mem_blankCodes h)
  rw [smallForm, caseForm, expansion, run]
  rfl

theorem blank_of_isBuiltin {name : Text} (h : isBuiltin name = true) :
    ∀ c ∈ name, blank c = false := by
  have foreign : ∀ type ∈ builtins, ∀ c ∈ type, blank c = false := by
    have letters : builtins.all (List.all · (!blank ·)) = true := by decide
    simpa only [List.all_eq_true, Bool.not_eq_true'] using letters
  intro c hc
  cases hb : blank c with
  | false => rfl
  | true =>
      have plain : c ≠ 'Σ' := by
        rintro rfl
        revert hb
        decide
      refine absurd hc (not_mem_of_isBuiltin (smallForm_of_blank hb) plain (fun type ht he => ?_) h)
      rw [foreign type ht c he] at hb
      cases hb

theorem mark_not_mem_of_isBuiltin {name : Text} (h : isBuiltin name = true) : '?' ∉ name :=
  not_mem_of_isBuiltin (by decide +kernel) (by decide) (by decide) h

/-! ### The end of a name -/

theorem lastSegment_cons (name : Text) : lastSegment ('\\' :: name) = lastSegment name := by
  rw [← shortName_eq_lastSegment, ← shortName_eq_lastSegment, shortName, split,
    if_pos (beq_self_eq_true '\\'), List.getLastD_cons]
  rfl

/-- Backslashes in front do not change the end of a name. -/
theorem lastSegment_imported (use : Text) :
    lastSegment (imported use) = lastSegment (trim use) := by
  rw [imported]
  induction trim use with
  | nil => rfl
  | cons c cs ih =>
      by_cases hc : (c == '\\') = true
      · rw [List.dropWhile_cons, if_pos hc, ih, beq_iff_eq.mp hc, lastSegment_cons]
      · rw [List.dropWhile_cons, if_neg hc]

/-- An end without backslashes is an end of the last segment. -/
theorem suffix_lastSegment {t name : Text} (plain : '\\' ∉ t) (h : t <:+ name) :
    t <:+ lastSegment name := by
  obtain ⟨front, rfl⟩ := h
  refine ⟨(front.reverse.takeWhile (· != '\\')).reverse, ?_⟩
  rw [lastSegment, List.reverse_append, List.takeWhile_append_of_pos, List.reverse_append,
    List.reverse_reverse]
  intro c hc
  exact bne_iff_ne.mpr fun same => plain (same ▸ List.mem_reverse.mp hc)

theorem mem_arrays {k : Nat} {c : Char} (h : c ∈ arrays k) : c = '[' ∨ c = ']' := by
  simpa using subset_arrays k h

/-- Every text is a bare name in front of array suffixes. -/
theorem exists_arrays (t : Text) : ∃ base k, t = base ++ arrays k ∧ Bare base := by
  obtain ⟨r, rfl⟩ : ∃ r : Text, t = r.reverse := ⟨t.reverse, t.reverse_reverse.symm⟩
  fun_induction Imports.stripArrays r with
  | case1 rest further ih =>
      obtain ⟨base, k, whole, bare⟩ := ih
      refine ⟨base, k + 1, ?_, bare⟩
      simp [whole, arrays, List.replicate_succ']
  | case2 base last =>
      refine ⟨base.reverse, 0, (List.append_nil _).symm, ?_⟩
      rintro ⟨front, h⟩
      refine last front.reverse ?_
      rw [← List.reverse_reverse base, ← h, List.reverse_append]
      rfl

namespace Imports

/-! ### Imports that keep apart -/

/-- Every full name stands under its own end, holds no bar and ends in no blank, and none stands
under `null`. -/
structure Clear (imports : Imports) : Prop where
  claimed : ∀ {short full}, imports.find? short = some full → lastSegment full = short
  barless : ∀ {short full}, imports.find? short = some full → '|' ∉ full
  trimmed : ∀ {short full}, imports.find? short = some full → trimEnd full = full
  null : imports.find? ("null" : Text) = none

theorem exists_of_find?_ofUses {uses : List Text} {short full : Text}
    (h : (ofUses uses).find? short = some full) :
    ∃ use ∈ uses, imported use = full ∧ lastSegment full = short := by
  rw [find?_ofUses] at h
  obtain ⟨listed, claims⟩ := List.mem_filter.mp (List.mem_of_getLast? h)
  obtain ⟨use, hu, rfl⟩ := List.mem_map.mp listed
  exact ⟨use, hu, rfl, (of_decide_eq_true claims).2⟩

theorem clear_ofUses {uses : List Text}
    (h : ∀ use ∈ uses, '|' ∉ use ∧ lastSegment (trim use) ≠ ("null" : Text)) :
    Clear (ofUses uses) := by
  constructor
  case claimed =>
    intro short full found
    obtain ⟨use, -, -, claimed⟩ := exists_of_find?_ofUses found
    exact claimed
  case barless =>
    intro short full found
    obtain ⟨use, hu, rfl, -⟩ := exists_of_find?_ofUses found
    intro bar
    have trimmed := (List.dropWhile_sublist _).subset bar
    exact (h use hu).1 ((List.dropWhile_sublist _).subset (trimEnd_subset _ trimmed))
  case trimmed =>
    intro short full found
    obtain ⟨use, -, rfl, -⟩ := exists_of_find?_ofUses found
    refine trimEnd_of_append (t := (trim use).takeWhile (· == '\\')) ?_
    rw [imported, List.takeWhile_append_dropWhile]
    exact trimEnd_trimEnd _
  case null =>
    cases found : (ofUses uses).find? ("null" : Text) with
    | none => rfl
    | some full =>
        obtain ⟨use, hu, rfl, claimed⟩ := exists_of_find?_ofUses found
        rw [lastSegment_imported] at claimed
        exact absurd claimed (h use hu).2

/-! ### Plain names -/

/-- A plain name that is written out: empty, behind a backslash, or a type of the language itself
that no import claims. -/
inductive Final (imports : Imports) : Text → Prop
  | empty : Final imports []
  | rooted (rest : Text) : Final imports ('\\' :: rest)
  | builtin {name : Text} (known : isBuiltin name = true) (free : imports.find? name = none) :
      Final imports name

/-- A name is written out as it stands, or something with a backslash in front is: what an import
says, or the name. -/
theorem qualify_cases (imports : Imports) (name : Text) :
    (Final imports name ∧ imports.qualify name = name) ∨
    (∃ full, imports.find? name = some full ∧ imports.qualify name = '\\' :: full) ∨
    imports.qualify name = '\\' :: name := by
  fun_cases qualify imports name with
  | case1 => exact .inl ⟨.empty, rfl⟩
  | case2 rest => exact .inl ⟨.rooted rest, rfl⟩
  | case3 _ full found => exact .inr (.inl ⟨full, found, by rw [found]⟩)
  | case4 _ free known => exact .inl ⟨.builtin known free, by rw [free, if_pos known]⟩
  | case5 _ free unknown => exact .inr (.inr (by rw [free, if_neg unknown]))

/-- What holds of a name and of what an import says for it, and also behind a backslash, holds of
the name that is written out. -/
theorem qualify_induction {P : Text → Prop} {imports : Imports} {name : Text} (plain : P name)
    (found : ∀ {full}, imports.find? name = some full → P full)
    (behind : ∀ {t}, P t → P ('\\' :: t)) : P (imports.qualify name) := by
  rcases qualify_cases imports name with ⟨-, same⟩ | ⟨full, listed, rooted⟩ | rooted
  · rwa [same]
  · rw [rooted]
    exact behind (found listed)
  · rw [rooted]
    exact behind plain

theorem final_qualify (imports : Imports) (name : Text) : Final imports (imports.qualify name) := by
  rcases qualify_cases imports name with ⟨final, same⟩ | ⟨full, -, rooted⟩ | rooted
  · rwa [same]
  · rw [rooted]
    exact .rooted full
  · rw [rooted]
    exact .rooted name

variable {imports : Imports}

/-- What is written out stays. -/
theorem qualify_of_final {name : Text} (h : Final imports name) : imports.qualify name = name := by
  cases h with
  | empty => rfl
  | rooted rest => rfl
  | builtin known free =>
      rw [qualify.eq_def, free]
      split
      · rfl
      · rfl
      · exact if_pos known

/-- What is written out begins with neither a blank nor a question mark. -/
theorem Final.first {name : Text} (h : Final imports name) {c : Char} (hc : name.head? = some c) :
    blank c = false ∧ c ≠ '?' := by
  cases h with
  | empty => cases hc
  | rooted rest =>
      cases hc
      decide
  | builtin known free =>
      have inside := List.mem_of_head? hc
      refine ⟨blank_of_isBuiltin known c inside, ?_⟩
      rintro rfl
      exact mark_not_mem_of_isBuiltin known inside

section Clear

variable (clear : Clear imports)

include clear in
theorem bar_not_mem_qualify {name : Text} (h : '|' ∉ name) : '|' ∉ imports.qualify name :=
  qualify_induction h clear.barless (by simp)

include clear in
theorem trimEnd_qualify {name : Text} (h : trimEnd name = name) :
    trimEnd (imports.qualify name) = imports.qualify name := by
  refine qualify_induction (P := fun t => trimEnd t = t) h clear.trimmed fun {t} ht => ?_
  refine trimEnd_of_getLast? fun c hc => ?_
  rw [List.getLast?_cons] at hc
  cases last : t.getLast? with
  | none =>
      rw [last] at hc
      cases hc
      decide
  | some d =>
      rw [last] at hc
      cases hc
      rw [← ht] at last
      exact blank_of_getLast?_trimEnd last

include clear in
theorem bare_qualify {name : Text} (h : Bare name) : Bare (imports.qualify name) := by
  refine qualify_induction h (fun found suffix => h ?_) fun bare suffix => ?_
  · rw [← clear.claimed found]
    exact suffix_lastSegment (by decide) suffix
  · rcases List.suffix_cons_iff.mp suffix with same | suffix
    · cases same
    · exact bare suffix

/-! ### Members -/

/-- A member that is written out: a final name in front of array suffixes. -/
structure Settled (imports : Imports) (member : Text) : Prop where
  barless : '|' ∉ member
  trimmed : trimEnd member = member
  written : ∃ name k, member = name ++ arrays k ∧ Bare name ∧ Final imports name

theorem Settled.first {member : Text} (h : Settled imports member) {c : Char}
    (hc : member.head? = some c) : blank c = false ∧ c ≠ '?' := by
  obtain ⟨name, k, rfl, -, final⟩ := h.written
  cases name with
  | nil => rcases mem_arrays (List.mem_of_head? hc) with rfl | rfl <;> decide
  | cons d ds => exact final.first hc

/-- A member that is written out stays. -/
theorem resolveMember_of_settled {member : Text} (h : Settled imports member) :
    imports.resolveMember member = member := by
  have whole : trim member = member := by
    rw [trim, trimStart_of_head? fun c hc => (h.first hc).1, h.trimmed]
  have unmarked : (trim member).head? ≠ some '?' := by
    rw [whole]
    exact fun hc => (h.first hc).2 rfl
  rw [resolveMember_of_unmarked imports unmarked, whole]
  obtain ⟨name, k, rfl, bare, final⟩ := h.written
  rw [resolveArray_arrays imports bare, qualify_of_final final]

include clear in
theorem settled_null : Settled imports "null" where
  barless := by decide
  trimmed := by decide
  written := ⟨"null", 0, rfl, by decide, .builtin (by decide +kernel) clear.null⟩

include clear in
theorem settled_resolveArray {base : Text} (barless : '|' ∉ base) (trimmed : trimEnd base = base) :
    Settled imports (imports.resolveArray base) := by
  obtain ⟨name, k, rfl, bare⟩ := exists_arrays base
  rw [resolveArray_arrays imports bare]
  constructor
  case barless =>
    rw [List.mem_append, not_or] at barless ⊢
    exact ⟨bar_not_mem_qualify clear barless.1, barless.2⟩
  case trimmed =>
    cases k with
    | zero =>
        rw [arrays, List.replicate_zero, List.flatten_nil, List.append_nil] at trimmed ⊢
        exact trimEnd_qualify clear trimmed
    | succ k =>
        have said : isBlank (arrays (k + 1)) = false := rfl
        rw [trimEnd_append_of_said _ said, trimEnd_of_getLast? fun c hc => ?_]
        rcases mem_arrays (List.mem_of_getLast? hc) with rfl | rfl <;> decide
  case written => exact ⟨_, k, rfl, bare_qualify clear bare, final_qualify imports name⟩

include clear in
/-- Whatever a member is, what it becomes is one member that is written out, or two. -/
theorem settled_resolveMember {member : Text} (barless : '|' ∉ member) :
    ∀ piece ∈ split (· == '|') (imports.resolveMember member), Settled imports piece := by
  have bar : '|' ∉ trim member := fun h =>
    barless ((List.dropWhile_sublist _).subset (trimEnd_subset _ h))
  have last : trimEnd (trim member) = trim member := trimEnd_trimEnd _
  by_cases marked : (trim member).head? = some '?'
  · obtain ⟨base, whole⟩ := List.head?_eq_some_iff.mp marked
    rw [whole] at bar last
    have settled := settled_resolveArray clear (not_or.mp (mt List.mem_cons.mpr bar)).2
      (trimEnd_of_append (t := ['?']) last)
    have pieces : split (· == '|') (imports.resolveMember member)
        = [imports.resolveArray base, "null"] := by
      rw [resolveMember_of_marked imports whole]
      refine (split_append_cons (c := '|') _ "null" rfl).trans ?_
      rw [split_of_not_mem settled.barless]
      rfl
    rw [pieces]
    exact List.forall_mem_cons.mpr
      ⟨settled, List.forall_mem_singleton.mpr (settled_null clear)⟩
  · have settled := settled_resolveArray clear bar last
    rw [resolveMember_of_unmarked imports marked, split_of_not_mem settled.barless]
    exact List.forall_mem_singleton.mpr settled

include clear in
/-- The members of a type that is written out are those that its members become. -/
theorem settled_of_mem_resolve {type : Text} :
    ∀ member ∈ split (· == '|') (imports.resolve type), Settled imports member := by
  intro member hm
  have ne : (split (· == '|') type).map imports.resolveMember ≠ [] := by
    simp [split_ne_nil]
  have cut : split (· == '|') (imports.resolve type) = _ := split_join_eq_flatMap ne
  rw [cut, List.flatMap_map] at hm
  obtain ⟨piece, hp, hm⟩ := List.mem_flatMap.mp hm
  exact settled_resolveMember clear (not_mem_of_mem_split hp) member hm

end Clear

/-- **A type that is written out stays.**  If no use statement holds a bar or claims `null`, then
writing out any text twice is the same as once, and each of its members is then a name in front of
array suffixes that is empty, begins with a backslash or is a type of the language itself. -/
theorem resolve_settles (uses : List Text)
    (clear : ∀ use ∈ uses, '|' ∉ use ∧ lastSegment (trim use) ≠ ("null" : Text)) (type : Text) :
    let resolved := (ofUses uses).resolve type
    (ofUses uses).resolve resolved = resolved ∧
      ∀ member ∈ split (· == '|') resolved,
        ∃ name k, member = name ++ arrays k ∧ Bare name ∧
          (name = [] ∨ name.head? = some '\\' ∨ isBuiltin name = true) := by
  intro resolved
  have settled : ∀ member ∈ split (· == '|') resolved, Settled (ofUses uses) member :=
    settled_of_mem_resolve (clear_ofUses clear)
  constructor
  · have members : (split (· == '|') resolved).map (ofUses uses).resolveMember
        = split (· == '|') resolved :=
      (List.map_congr_left fun member hm => resolveMember_of_settled (settled member hm)).trans
        (List.map_id _)
    rw [resolve, members]
    exact join_split '|' resolved
  · intro member hm
    obtain ⟨name, k, whole, bare, final⟩ := (settled member hm).written
    refine ⟨name, k, whole, bare, ?_⟩
    cases final with
    | empty => exact .inl rfl
    | rooted rest => exact .inr (.inl rfl)
    | builtin known => exact .inr (.inr known)

/-- Two imports that stay clear of bars and of `null`, though one of them begins with a backslash
and the other claims a name with brackets. -/
def strangeUses : List Text := [" \\App\\null\\Foo ", "Lib\\x[]"]

/-- Empty members, doubled question marks, blanks in odd places and stray brackets settle, too. -/
theorem odd_members_settle :
    (∀ use ∈ strangeUses, '|' ∉ use ∧ lastSegment (trim use) ≠ ("null" : Text)) ∧
      (ofUses strangeUses).resolve "?? Foo[]|| ?Foo [] |INT[][]|?|[|x[]|?Foo"
        = "\\? Foo[]|null||\\Foo []|null|INT[][]||null|\\[|\\x[]|\\App\\null\\Foo|null" ∧
      let resolved : Text :=
        "\\? Foo[]|null||\\Foo []|null|INT[][]||null|\\[|\\x[]|\\App\\null\\Foo|null"
      (ofUses strangeUses).resolve resolved = resolved ∧
        ∀ member ∈ split (· == '|') resolved,
          ∃ name k, member = name ++ arrays k ∧ Bare name ∧
            (name = [] ∨ name.head? = some '\\' ∨ isBuiltin name = true) := by
  have clear : ∀ use ∈ strangeUses, '|' ∉ use ∧ lastSegment (trim use) ≠ ("null" : Text) := by
    decide
  have once : (ofUses strangeUses).resolve "?? Foo[]|| ?Foo [] |INT[][]|?|[|x[]|?Foo"
      = "\\? Foo[]|null||\\Foo []|null|INT[][]||null|\\[|\\x[]|\\App\\null\\Foo|null" := by
    decide +kernel
  have settles := resolve_settles strangeUses clear "?? Foo[]|| ?Foo [] |INT[][]|?|[|x[]|?Foo"
  rw [once] at settles
  exact ⟨clear, once, settles⟩

end Imports

end Classwright.DocType
