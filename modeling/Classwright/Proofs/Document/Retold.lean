import Classwright.Proofs.Class.Described
import Classwright.Proofs.Document.Project
import Classwright.Proofs.Document.Told
import Classwright.Proofs.Macro.Expansion

/-!
# Document — every text is read once

To read a document is to read it verbatim and to retell what it tells: each free text and each piece
of code is read once, from what stands in the document, and nothing else is read.  So what a macro
puts into a text is not read again, and a name or a type that looks like a call stays as it is.

* `Retells`: to read an element is to read it verbatim and to retell what it tells.
* `Retells.mapM`: then so it is with many elements.
* `members_eq_mapM`: the members of a group are those that its children declare.
* `describedClass_retells`: classes are retold.
* `described_of_project`: what is read says whatever it has to say.
* `project_retells`: documents are retold.
-/

namespace Classwright.Document

open Outcome Xml Macro

variable {α : Type} {read : Reading (Except Error)}

/-- To read an element is to read it verbatim, which gives what it tells, and to retell that; what
comes of it says what it has to say. -/
def Retells (reads plain : Element → Except Error α) (told : Element → α)
    (again : α → Except Error α) (said : α → Prop) : Prop :=
  ∀ e a, reads e = .ok a ↔ plain e = .ok (told e) ∧ again (told e) = .ok a ∧ said a

theorem Retells.mapM {reads plain : Element → Except Error α} {told : Element → α}
    {again : α → Except Error α} {said : α → Prop} (h : Retells reads plain told again said)
    {es : List Element} {as : List α} :
    es.mapM reads = .ok as ↔
      es.mapM plain = .ok (es.map told) ∧ (es.map told).mapM again = .ok as ∧ ∀ a ∈ as, said a := by
  rw [mapM_eq_ok_iff, mapM_eq_ok_iff, mapM_eq_ok_iff]
  induction es generalizing as with
  | nil =>
      rw [List.map_nil, List.forall₂_nil_left_iff]
      exact ⟨by rintro rfl; simp, fun h => List.forall₂_nil_left_iff.mp h.2.1⟩
  | cons e es ih =>
      rw [List.map_cons, List.forall₂_cons_left_iff, List.forall₂_cons, List.forall₂_cons_left_iff]
      constructor
      · rintro ⟨a, rest, ha, hrest, rfl⟩
        obtain ⟨here, once, said⟩ := (h e a).mp ha
        obtain ⟨others, each, all⟩ := ih.mp hrest
        exact ⟨⟨here, others⟩, ⟨a, rest, once, each, rfl⟩, List.forall_mem_cons.mpr ⟨said, all⟩⟩
      · rintro ⟨⟨here, others⟩, ⟨a, rest, once, each, rfl⟩, all⟩
        obtain ⟨said, all⟩ := List.forall_mem_cons.mp all
        exact ⟨a, rest, (h e a).mpr ⟨here, once, said⟩, ih.mpr ⟨others, each, all⟩, rfl⟩

/-- The member that a child of a group declares. -/
def member (read : Reading (Except Error)) (v : Visibility) (e : Element) : Except Error Member :=
  if e.tag = "method" then do return .method (← method read v e)
  else do return .comment (← requiredText read e)

/-! ### Attributes -/

theorem required_eq_ok_iff {e : Element} {key value : Text} :
    required e key = .ok value ↔ required e key = .ok (e.value key) ∧ e.value key = value := by
  unfold required
  split
  · simp
  next h => simp

theorem flag_eq_ok_iff {e : Element} {key : Text} {default said : Bool} :
    flag e key default = .ok said ↔
      flag e key default = .ok (toldFlag e key default) ∧ toldFlag e key default = said := by
  unfold toldFlag
  cases flag e key default <;> simp

theorem required_retells (key : Text) :
    Retells (required · key) (required · key) (·.value key) .ok fun _ => True := by
  intro e value
  simp only [and_true, Except.ok.injEq]
  exact required_eq_ok_iff

theorem mapM_required_eq_ok_iff {es : List Element} {key : Text} {values : List Text} :
    es.mapM (required · key) = .ok values ↔
      es.mapM (required · key) = .ok (es.map (·.value key)) ∧ es.map (·.value key) = values := by
  have same : (es.map (·.value key)).mapM (Except.ok : Text → Except Error Text) = .ok values ↔
      es.map (·.value key) = values := by
    rw [mapM_eq_ok_iff]
    simp only [Except.ok.injEq, List.forall₂_eq_eq_eq]
  rw [(required_retells key).mapM, same]
  exact and_congr_right fun _ => and_iff_left fun _ _ => trivial

/-! ### Texts -/

/-- A text that has to say something is read exactly when it does. -/
theorem bind_said_eq_ok_iff {found : Except Error Text} {fault : Error} {text : Text} :
    found >>= said fault = .ok text ↔ found = .ok text ∧ text.isBlank = false := by
  rw [bind_eq_ok_iff]
  unfold said
  constructor
  · rintro ⟨t, hf, h⟩
    split at h
    next => cases h
    next speaks =>
      cases h
      exact ⟨hf, Bool.eq_false_iff.mpr speaks⟩
  · rintro ⟨hf, speaks⟩
    exact ⟨text, hf, if_neg (Bool.eq_false_iff.mp speaks)⟩

theorem keepsBlank_verbatim : Reading.verbatim.KeepsBlank := by
  rintro t _ ⟨⟩ said
  exact said

section Texts

variable (keeps : read.KeepsBlank)

include keeps

/-- A text that is read and has to say something is retold. -/
theorem retells_of_text {reads : Reading (Except Error) → Element → Except Error Text}
    {told : Element → Text}
    (h : ∀ read : Reading (Except Error), read.KeepsBlank → ∀ e t,
      reads read e = .ok t ↔ read.text (told e) = .ok t ∧ t.isBlank = false) :
    Retells (reads read) (reads .verbatim) told read.text (·.isBlank = false) := by
  intro e t
  rw [h read keeps, h .verbatim keepsBlank_verbatim]
  constructor
  · rintro ⟨once, said⟩
    exact ⟨⟨rfl, keeps _ _ once said⟩, once, said⟩
  · rintro ⟨-, once, said⟩
    exact ⟨once, said⟩

theorem requiredText_retells :
    Retells (requiredText read) (requiredText .verbatim) (·.text) read.text (·.isBlank = false) :=
  retells_of_text keeps fun _ _ _ _ => bind_said_eq_ok_iff

theorem description_retells :
    Retells (description read) (description .verbatim) toldDescription read.text
      (·.isBlank = false) := by
  refine retells_of_text keeps fun read keeps e t => ?_
  unfold description toldDescription
  cases e.value? "doc" with
  | some doc => exact bind_said_eq_ok_iff
  | none =>
      cases e.child? "doc" with
      | some child => exact bind_said_eq_ok_iff
      | none =>
          -- Nothing is said, whatever is made of an empty text.
          refine bind_said_eq_ok_iff.trans ⟨?_, ?_⟩
          · rintro ⟨⟨⟩, said⟩
            cases said
          · rintro ⟨once, said⟩
            cases keeps _ _ once said

end Texts

/-! ### Code -/

theorem content?_eq_recode (e : Element) : content? read e = read.recode (toldCode e) := by
  unfold content? toldCode
  cases e.child? "content" with
  | none => rfl
  | some child =>
      change _ = (do return some (← read.code ([child.text].flatten)))
      rw [List.flatten_singleton]

theorem childContent?_eq_recode (e : Element) (tag : Text) :
    childContent? read e tag = read.recode (toldChildCode e tag) := by
  unfold childContent? toldChildCode
  cases e.child? tag with
  | none => rfl
  | some child => exact content?_eq_recode child

theorem content?_verbatim (e : Element) : content? .verbatim e = .ok (toldCode e) := by
  unfold content? toldCode
  cases e.child? "content" <;> rfl

theorem childContent?_verbatim (e : Element) (tag : Text) :
    childContent? .verbatim e tag = .ok (toldChildCode e tag) := by
  unfold childContent? toldChildCode
  cases e.child? tag with
  | none => rfl
  | some child => exact content?_verbatim child

/-! ### Parts -/

theorem parameter_retells :
    Retells (parameter read) (parameter .verbatim) toldParameter (·.retold read)
      fun _ => True := by
  intro e p
  simp only [parameter, Parameter.retold, toldParameter, bind_eq_ok_iff, pure_eq_ok_iff, and_true]
  constructor
  · rintro ⟨name, hn, description, once, rfl⟩
    obtain ⟨named, rfl⟩ := required_eq_ok_iff.mp hn
    exact ⟨⟨_, named, _, rfl, rfl⟩, description, once, rfl⟩
  · rintro ⟨⟨name, named, _, -, same⟩, description, once, rfl⟩
    cases same
    exact ⟨_, named, description, once, rfl⟩

section Parts

variable (keeps : read.KeepsBlank)

include keeps

theorem method_retells (v : Visibility) :
    Retells (method read v) (method .verbatim v) (toldMethod v) (·.retold read)
      (·.description.isBlank = false) := by
  intro e m
  simp only [method, Method.retold, toldMethod, bind_eq_ok_iff, pure_eq_ok_iff]
  constructor
  · rintro ⟨name, hn, description, hd, parameters, hp, body, hb, rfl⟩
    obtain ⟨named, rfl⟩ := required_eq_ok_iff.mp hn
    obtain ⟨described, once, said⟩ := (description_retells keeps e description).mp hd
    obtain ⟨listed, each, -⟩ := parameter_retells.mapM.mp hp
    rw [content?_eq_recode] at hb
    exact ⟨⟨_, named, _, described, _, listed, _, content?_verbatim e, rfl⟩,
      ⟨_, once, _, each, _, hb, rfl⟩, said⟩
  · rintro ⟨⟨name, named, _, described, _, listed, _, -, same⟩,
      ⟨description, once, parameters, each, body, hb, rfl⟩, said⟩
    cases same
    rw [← content?_eq_recode] at hb
    exact ⟨_, named, _, (description_retells keeps e description).mpr ⟨described, once, said⟩,
      _, parameter_retells.mapM.mpr ⟨listed, each, fun _ _ => trivial⟩, _, hb, rfl⟩

theorem constant_retells :
    Retells (constant read) (constant .verbatim) toldConstant (·.retold read)
      (·.description.isBlank = false) := by
  intro e k
  simp only [constant, Constant.retold, toldConstant, bind_eq_ok_iff, pure_eq_ok_iff]
  constructor
  · rintro ⟨name, hn, value, hv, description, hd, multiline, hm, rfl⟩
    obtain ⟨named, rfl⟩ := required_eq_ok_iff.mp hn
    obtain ⟨valued, rfl⟩ := required_eq_ok_iff.mp hv
    obtain ⟨described, once, said⟩ := (description_retells keeps e description).mp hd
    obtain ⟨clear, rfl⟩ := flag_eq_ok_iff.mp hm
    exact ⟨⟨_, named, _, valued, _, described, _, clear, rfl⟩, ⟨_, once, rfl⟩, said⟩
  · rintro ⟨⟨name, named, value, valued, _, described, multiline, clear, same⟩,
      ⟨description, once, rfl⟩, said⟩
    cases same
    exact ⟨_, named, _, valued, _,
      (description_retells keeps e description).mpr ⟨described, once, said⟩, _, clear, rfl⟩

theorem property_retells :
    Retells (property read) (property .verbatim) toldProperty (·.retold read)
      (·.description.isBlank = false) := by
  intro e p
  simp only [property, Property.retold, toldProperty, bind_eq_ok_iff, pure_eq_ok_iff]
  constructor
  · rintro ⟨name, hn, description, hd, getter, hg, setter, hs, getterBody, hgb, setterBody, hsb,
      multiline, hm, rfl⟩
    obtain ⟨named, rfl⟩ := required_eq_ok_iff.mp hn
    obtain ⟨described, once, said⟩ := (description_retells keeps e description).mp hd
    obtain ⟨got, rfl⟩ := flag_eq_ok_iff.mp hg
    obtain ⟨set, rfl⟩ := flag_eq_ok_iff.mp hs
    obtain ⟨clear, rfl⟩ := flag_eq_ok_iff.mp hm
    rw [childContent?_eq_recode] at hgb hsb
    exact ⟨⟨_, named, _, described, _, got, _, set, _, childContent?_verbatim e _, _,
      childContent?_verbatim e _, _, clear, rfl⟩, ⟨_, once, _, hgb, _, hsb, rfl⟩, said⟩
  · rintro ⟨⟨name, named, _, described, getter, got, setter, set, _, -, _, -, multiline, clear,
      same⟩, ⟨description, once, getterBody, hgb, setterBody, hsb, rfl⟩, said⟩
    cases same
    rw [← childContent?_eq_recode] at hgb hsb
    exact ⟨_, named, _, (description_retells keeps e description).mpr ⟨described, once, said⟩,
      _, got, _, set, _, hgb, _, hsb, _, clear, rfl⟩

end Parts

/-! ### Members -/

theorem member?_of_declares {v : Visibility} {e : Element} (h : declares e = true) :
    member? read v e = (do return some (← member read v e)) := by
  unfold member? member
  split
  · cases method read v e <;> rfl
  next other =>
    simp only [declares, Bool.or_eq_true, decide_eq_true_eq] at h
    rw [if_pos (h.resolve_left other)]
    cases requiredText read e <;> rfl

theorem member?_of_not_declares {v : Visibility} {e : Element} (h : declares e = false) :
    member? read v e = .ok none := by
  simp only [declares, Bool.or_eq_false_iff, decide_eq_false_iff_not] at h
  rw [member?, if_neg h.1, if_neg h.2]
  rfl

/-- The members of a group are those that its children declare. -/
theorem members_eq_mapM (v : Visibility) (group : Element) :
    members read v group = (group.children.filter declares).mapM (member read v) := by
  unfold members
  induction group.children with
  | nil => rfl
  | cons child rest ih =>
      cases h : declares child with
      | true =>
          rw [List.filter_cons_of_pos h, List.mapM_cons, List.mapM_cons, member?_of_declares h,
            ← ih]
          cases member read v child <;> cases rest.mapM (member? read v) <;> rfl
      | false =>
          rw [List.filter_cons_of_neg (by simp [h]), List.mapM_cons, member?_of_not_declares h,
            ← ih]
          cases rest.mapM (member? read v) <;> rfl

section Groups

variable (keeps : read.KeepsBlank)

include keeps

theorem member_retells (v : Visibility) :
    Retells (member read v) (member .verbatim v) (toldMember v) (·.retold read)
      (·.text.isBlank = false) := by
  intro e m
  unfold member toldMember
  split
  · simp only [Member.retold, bind_eq_ok_iff, pure_eq_ok_iff]
    constructor
    · rintro ⟨a, ha, rfl⟩
      obtain ⟨told, again, said⟩ := (method_retells keeps v e a).mp ha
      exact ⟨⟨_, told, rfl⟩, ⟨a, again, rfl⟩, said⟩
    · rintro ⟨⟨b, told, same⟩, ⟨a, again, rfl⟩, said⟩
      cases same
      exact ⟨a, (method_retells keeps v e a).mpr ⟨told, again, said⟩, rfl⟩
  · simp only [Member.retold, bind_eq_ok_iff, pure_eq_ok_iff]
    constructor
    · rintro ⟨t, ht, rfl⟩
      obtain ⟨told, once, said⟩ := (requiredText_retells keeps e t).mp ht
      exact ⟨⟨_, told, rfl⟩, ⟨t, once, rfl⟩, said⟩
    · rintro ⟨⟨u, told, same⟩, ⟨t, once, rfl⟩, said⟩
      cases same
      exact ⟨t, (requiredText_retells keeps e t).mpr ⟨told, once, said⟩, rfl⟩

/-- The groups of members are retold, visibility by visibility. -/
theorem methods_eq_ok_iff {e : Element} {vs : List Visibility}
    {groups : Table Visibility (List Member)} :
    methods read e vs = .ok groups ↔
      methods .verbatim e vs = .ok (toldMethods e vs) ∧
        (toldMethods e vs).mapM (retoldGroup read) = .ok groups ∧
        ∀ group ∈ groups, ∀ m ∈ group.2, m.text.isBlank = false := by
  induction vs generalizing groups with
  | nil =>
      constructor
      · rintro ⟨⟩
        exact ⟨rfl, rfl, by simp⟩
      · rintro ⟨-, ⟨⟩, -⟩
        rfl
  | cons v vs ih =>
      unfold methods toldMethods
      cases e.grandchild? "methods" v.keyword with
      | none => exact ih
      | some group =>
          simp only [members_eq_mapM, List.mapM_cons, retoldGroup, bind_eq_ok_iff, pure_eq_ok_iff]
          constructor
          · rintro ⟨found, hf, rest, hr, rfl⟩
            obtain ⟨declared, each, said⟩ := (member_retells keeps v).mapM.mp hf
            obtain ⟨others, again, all⟩ := ih.mp hr
            exact ⟨⟨_, declared, _, others, rfl⟩, ⟨_, ⟨found, each, rfl⟩, rest, again, rfl⟩,
              List.forall_mem_cons.mpr ⟨said, all⟩⟩
          · rintro ⟨⟨_, declared, _, others, same⟩, ⟨_, ⟨found, each, rfl⟩, rest, again, rfl⟩, all⟩
            cases same
            obtain ⟨said, all⟩ := List.forall_mem_cons.mp all
            exact ⟨found, (member_retells keeps v).mapM.mpr ⟨declared, each, said⟩, rest,
              ih.mpr ⟨others, again, all⟩, rfl⟩

end Groups

/-! ### Classes -/

theorem keys_toldMethods (e : Element) (vs : List Visibility) :
    ((toldMethods e vs).map Prod.fst).Sublist vs := by
  induction vs with
  | nil => exact .slnil
  | cons v vs ih =>
      unfold toldMethods
      split
      · exact ih.cons v
      · exact ih.cons_cons v

theorem keys_of_retoldGroup {groups retold : Table Visibility (List Member)}
    (h : groups.mapM (retoldGroup read) = .ok retold) :
    retold.map Prod.fst = groups.map Prod.fst := by
  rw [mapM_eq_ok_iff] at h
  induction h with
  | nil => rfl
  | cons here _ ih =>
      simp only [retoldGroup, bind_eq_ok_iff, pure_eq_ok_iff] at here
      obtain ⟨found, -, rfl⟩ := here
      rw [List.map_cons, List.map_cons, ih]

/-- Classes are retold. -/
theorem describedClass_retells (keeps : read.KeepsBlank) :
    Retells (describedClass read) (describedClass .verbatim) told (·.retold read)
      Class.Described := by
  intro e c
  simp only [describedClass, Class.retold, told, bind_eq_ok_iff, pure_eq_ok_iff]
  constructor
  · rintro ⟨name, hn, groups, hg, description, hd, author, written, uses, hu, traits, ht,
      superdocs, hs, constants, hc, properties, hp, rfl⟩
    obtain ⟨named, rfl⟩ := required_eq_ok_iff.mp hn
    obtain ⟨declared, members, spoken⟩ := (methods_eq_ok_iff keeps).mp hg
    obtain ⟨described, once, said⟩ := (description_retells keeps e description).mp hd
    obtain ⟨used, rfl⟩ := mapM_required_eq_ok_iff.mp hu
    obtain ⟨shared, rfl⟩ := mapM_required_eq_ok_iff.mp ht
    obtain ⟨headed, heads, announced⟩ := (requiredText_retells keeps).mapM.mp hs
    obtain ⟨fixed, values, explained⟩ := (constant_retells keeps).mapM.mp hc
    obtain ⟨owned, fields, shown⟩ := (property_retells keeps).mapM.mp hp
    refine ⟨⟨_, named, _, declared, _, described, _, rfl, _, used, _, shared, _, headed, _, fixed,
      _, owned, rfl⟩, ⟨_, once, _, written, _, heads, _, values, _, fields, _, members, rfl⟩,
      said, announced, explained, shown, fun v m hm => ?_⟩
    obtain ⟨found, hf, hm⟩ := Class.exists_of_mem_members hm
    exact spoken _ hf m hm
  · rintro ⟨⟨name, named, _, declared, _, described, _, -, _, used, _, shared, _, headed, _, fixed,
      _, owned, same⟩, ⟨description, once, author, written, superdocs, heads, constants, values,
      properties, fields, groups, members, rfl⟩, said, announced, explained, shown, spoken⟩
    cases same
    -- No visibility has two groups, so the members of each group are those of the class.
    have distinct : (groups.map Prod.fst).Nodup := by
      rw [keys_of_retoldGroup members]
      exact (keys_toldMethods e Visibility.all).nodup (by decide)
    have grouped : ∀ group ∈ groups, ∀ m ∈ group.2, m.text.isBlank = false := by
      intro group hg m hm
      refine spoken group.1 m ?_
      rw [Class.members, Table.find?_of_mem distinct hg]
      exact hm
    exact ⟨_, named, _, (methods_eq_ok_iff keeps).mpr ⟨declared, members, grouped⟩,
      _, (description_retells keeps e description).mpr ⟨described, once, said⟩,
      _, written, _, used, _, shared,
      _, (requiredText_retells keeps).mapM.mpr ⟨headed, heads, announced⟩,
      _, (constant_retells keeps).mapM.mpr ⟨fixed, values, explained⟩,
      _, (property_retells keeps).mapM.mpr ⟨owned, fields, shown⟩, rfl⟩

-- The name stays, and the call that the expanded text brings with it stays too.
example : describedClass (.expanding (expandWith fun _ => some "[\x7b\x7bm\x7d\x7d]"))
      { tag := "class",
        attributes := [("name", "\x7b\x7bm\x7d\x7d"), ("doc", "\x7b\x7bm\x7d\x7d")] }
    = .ok { name := "\x7b\x7bm\x7d\x7d", description := "[\x7b\x7bm\x7d\x7d]" } := by
  decide +kernel

/-! ### Documents -/

/-- Expansion makes nothing of a text without a brace. -/
theorem expandWith_eq_self {template? : Text → Option Text} {t : Text} (h : '\x7b' ∉ t) :
    expandWith template? t = .ok t := by
  have written : written [.plain t h] = t := List.append_nil t
  have expanded := expandWith_written template? [.plain t h]
  rw [written] at expanded
  rw [expanded]
  change Except.ok (t ++ []) = _
  rw [List.append_nil]

theorem keepsBlank_expanding (template? : Text → Option Text) :
    (Reading.expanding (expandWith template?)).KeepsBlank := by
  intro t u once said
  refine Bool.eq_false_iff.mpr fun silent => ?_
  have plain : '\x7b' ∉ t := by
    intro hc
    cases Text.isBlank_eq_true_iff.mp silent _ hc
  have kept : Except.ok t = Except.ok u := (expandWith_eq_self plain).symm.trans once
  cases kept
  rw [silent] at said
  cases said

/-- The classes of a project that was read are described. -/
theorem described_of_project {t : Text} {start left : Logged Registry} {p : Project}
    (h : (project t).runFrom start = (.ok p, left)) : ∀ c ∈ p.classes, c.Described := by
  obtain ⟨r, filled, -, -, -, read⟩ := exists_project_iff.mp ⟨left, h⟩
  intro c hc
  obtain ⟨child, -, h⟩ := exists_of_mem_mapM read hc
  obtain ⟨-, -, described⟩ := (describedClass_retells (keepsBlank_expanding _) child c).mp h
  exact described

end Classwright.Document
