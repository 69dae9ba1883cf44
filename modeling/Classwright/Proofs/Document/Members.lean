import Classwright.Proofs.Document.Retold

/-!
# Document — which members are kept

Constants, properties and members are declared in blocks, and a class may have many of each.  Every
block of properties is read, whereas the first group of a visibility is read and the groups after it
are passed over, so a document is read even when they declare something.

* `groups`, `declared`: the groups of a visibility, and the elements in them that declare a member.
* `Kept`: there is an entry for each of some elements.
* `KeepsFirst`: what a class has of what its element declares.
* `keepsFirst_of_describedClass`: classes have that much.
* `members_kept_iff`: they have all exactly when no later group declares a member.
-/

namespace Classwright.Document

open Outcome Xml Macro

variable {α : Type} {read : Reading (Except Error)} {e : Element} {v : Visibility}

/-! ### What is declared -/

/-- The groups of a visibility in every block of methods of an element. -/
def groups (e : Element) (v : Visibility) : List Element :=
  e.grandchildrenNamed "methods" v.keyword

/-- The elements in groups that declare a member, in the order of the document. -/
def declared (groups : List Element) : List Element :=
  groups.flatMap fun group => group.children.filter declares

/-- There is one entry for each element, in their order, and it is what is read from it. -/
def Kept (reads : Element → Except Error α) (es : List Element) (entries : List α) : Prop :=
  List.Forall₂ (fun e entry => reads e = .ok entry) es entries

/-- Where the first elements are kept, all are exactly when there are no others. -/
theorem Kept.append_iff {reads : Element → Except Error α} {es others : List Element}
    {entries : List α} (h : Kept reads es entries) :
    Kept reads (es ++ others) entries ↔ others = [] := by
  constructor
  · intro all
    have lengths : es.length + others.length = es.length := by
      rw [← List.length_append, List.Forall₂.length_eq all, List.Forall₂.length_eq h]
    exact List.length_eq_zero_iff.mp (Nat.add_eq_left.mp lengths)
  · rintro rfl
    rwa [List.append_nil]

/-! ### Groups -/

theorem kept_of_members {group : Element} {found : List Member}
    (h : members read v group = .ok found) : Kept (member read v) (declared [group]) found := by
  rw [declared, List.flatMap_singleton]
  exact mapM_eq_ok_iff.mp ((members_eq_mapM v group).symm.trans h)

/-- A visibility without a group has no members. -/
theorem find?_methods_of_no_group {vs : List Visibility} {found : Table Visibility (List Member)}
    (h : methods read e vs = .ok found) (hg : e.grandchild? "methods" v.keyword = none) :
    found.find? v = none := by
  induction vs generalizing found with
  | nil =>
      cases h
      rfl
  | cons w vs ih =>
      unfold methods at h
      split at h
      next => exact ih h
      next group hw =>
        simp only [bind_eq_ok_iff, pure_eq_ok_iff] at h
        obtain ⟨here, -, rest, hr, rfl⟩ := h
        have ne : w ≠ v := by
          rintro rfl
          cases hw.symm.trans hg
        exact (if_neg ne).trans (ih hr)

/-- A visibility with a group has the members of its first. -/
theorem find?_methods_of_group {vs : List Visibility} {found : Table Visibility (List Member)}
    {group : Element} (h : methods read e vs = .ok found) (hv : v ∈ vs)
    (hg : e.grandchild? "methods" v.keyword = some group) :
    ∃ first, found.find? v = some first ∧ members read v group = .ok first := by
  induction vs generalizing found with
  | nil => cases hv
  | cons w vs ih =>
      unfold methods at h
      split at h
      next hw =>
        refine ih h ((List.mem_cons.mp hv).resolve_left ?_)
        rintro rfl
        cases hw.symm.trans hg
      next other hw =>
        simp only [bind_eq_ok_iff, pure_eq_ok_iff] at h
        obtain ⟨here, hm, rest, hr, rfl⟩ := h
        -- The entry of this visibility comes before all others of its kind.
        by_cases same : w = v
        · subst same
          cases hw.symm.trans hg
          exact ⟨here, if_pos rfl, hm⟩
        · obtain ⟨first, hf, read⟩ := ih hr ((List.mem_cons.mp hv).resolve_left (Ne.symm same))
          exact ⟨first, (if_neg same).trans hf, read⟩

/-- The members of a visibility are those that its first group declares. -/
theorem kept_of_methods {found : Table Visibility (List Member)}
    (h : methods read e Visibility.all = .ok found) (v : Visibility) :
    Kept (member read v) (declared ((groups e v).take 1)) ((found.find? v).getD []) := by
  cases hg : groups e v with
  | nil =>
      rw [find?_methods_of_no_group h (congrArg List.head? hg)]
      exact .nil
  | cons group later =>
      obtain ⟨first, hf, read⟩ :=
        find?_methods_of_group h (Visibility.mem_all v) (congrArg List.head? hg)
      rw [hf]
      exact kept_of_members read

/-! ### Documents -/

/-- What a class has of what its element declares: every constant, every property, and the members
that the first group of each visibility declares. -/
structure KeepsFirst (read : Reading (Except Error)) (e : Element) (c : Class) : Prop where
  constants : Kept (constant read) (e.grandchildrenNamed "properties" "constant") c.constants
  properties : Kept (property read) (e.grandchildrenNamed "properties" "property") c.properties
  members (v : Visibility) : Kept (member read v) (declared ((groups e v).take 1)) (c.members v)

theorem keepsFirst_of_describedClass {c : Class} (h : describedClass read e = .ok c) :
    KeepsFirst read e c := by
  simp only [describedClass, bind_eq_ok_iff, pure_eq_ok_iff] at h
  obtain ⟨name, -, found, hm, description, -, author, -, uses, -, traits, -, superdocs, -,
    constants, hc, properties, hp, rfl⟩ := h
  exact ⟨mapM_eq_ok_iff.mp hc, mapM_eq_ok_iff.mp hp, kept_of_methods hm⟩

/-- All members of a visibility are kept exactly when the groups after the first declare none. -/
theorem KeepsFirst.all_iff {c : Class} (h : KeepsFirst read e c) (v : Visibility) :
    Kept (member read v) (declared (groups e v)) (c.members v) ↔
      declared ((groups e v).drop 1) = [] := by
  have parted : declared (groups e v)
      = declared ((groups e v).take 1) ++ declared ((groups e v).drop 1) := by
    rw [declared, declared, declared, ← List.flatMap_append, List.take_append_drop]
  rw [parted]
  exact (h.members v).append_iff

/-- **The first group of a visibility is kept, and no other.**  Whenever a document is read, each
class has an entry for each constant and each property of all its blocks, and for each member that
the first group of a visibility declares.  So it has one for each member that any group of the
visibility declares exactly when the groups after the first declare none. -/
theorem members_kept_iff {t : Text} {start left : Logged Registry} {p : Project}
    (h : (project t).runFrom start = (.ok p, left)) :
    ∃ r filled, root t = .ok r ∧ (macros r).runFrom start = (.ok (), filled) ∧
      List.Forall₂ (fun e c =>
          let read := Reading.expanding (expandWith filled.state.template?)
          KeepsFirst read e c ∧
          ∀ v, Kept (member read v) (declared (groups e v)) (c.members v) ↔
            declared ((groups e v).drop 1) = [])
        (r.childrenNamed "class") p.classes := by
  obtain ⟨r, filled, rooted, registered, -, classes⟩ := exists_project_iff.mp ⟨left, h⟩
  refine ⟨r, filled, rooted, registered, (mapM_eq_ok_iff.mp classes).imp fun e c hc => ?_⟩
  have kept := keepsFirst_of_describedClass hc
  exact ⟨kept, kept.all_iff⟩

/-! ### A document with two groups -/

/-- A document with two groups of one visibility. -/
def doubledDocument : Text :=
  "<classgen><class name=\"A\" doc=\"One.\"><methods><public><comment>First.</comment></public>"
    ++ "<public><comment>Second.</comment></public></methods></class></classgen>"

/-- A group with one comment. -/
def groupOf (text : Text) : Element where
  tag := "public"
  text
  children := [{ tag := "comment", text }]

/-- Its class. -/
def doubledClass : Element where
  tag := "class"
  attributes := [("name", "A"), ("doc", "One.")]
  text := "First.Second."
  children := [{
    tag := "methods"
    text := "First.Second."
    children := [groupOf "First.", groupOf "Second."] }]

/-- Its root element. -/
def doubledRoot : Element where
  tag := "classgen"
  text := "First.Second."
  children := [doubledClass]

/-- The project that it is read as. -/
def doubledProject : Project where
  classes := [{
    name := "A"
    description := "One."
    methods := [(.publicAccess, [.comment "First."])] }]

/-- Its tokens. -/
def doubledTokens : List Xml.Token :=
  [.start ⟨none, "classgen"⟩ [] false,
    .start ⟨none, "class"⟩
      [(⟨none, "name"⟩, [.plain 'A']), (⟨none, "doc"⟩, "One.".toList.map .plain)] false,
    .start ⟨none, "methods"⟩ [] false,
    .start ⟨none, "public"⟩ [] false,
    .start ⟨none, "comment"⟩ [] false, .chars "First.", .finish ⟨none, "comment"⟩,
    .finish ⟨none, "public"⟩,
    .start ⟨none, "public"⟩ [] false,
    .start ⟨none, "comment"⟩ [] false, .chars "Second.", .finish ⟨none, "comment"⟩,
    .finish ⟨none, "public"⟩,
    .finish ⟨none, "methods"⟩, .finish ⟨none, "class"⟩, .finish ⟨none, "classgen"⟩]

theorem ofText?_doubledDocument : Element.ofText? doubledDocument = some doubledRoot := by
  have scanned : Scan.document.whole? (Text.unifyReturns doubledDocument)
      = some ({}, doubledTokens) := by decide +kernel
  have events : ({} : Entities).events? doubledTokens
      = some [.start ⟨none, "classgen"⟩ [],
          .start ⟨none, "class"⟩ [(⟨none, "name"⟩, "A"), (⟨none, "doc"⟩, "One.")],
          .start ⟨none, "methods"⟩ [],
          .start ⟨none, "public"⟩ [],
          .start ⟨none, "comment"⟩ [], .chars "First.", .finish ⟨none, "comment"⟩,
          .finish ⟨none, "public"⟩,
          .start ⟨none, "public"⟩ [],
          .start ⟨none, "comment"⟩ [], .chars "Second.", .finish ⟨none, "comment"⟩,
          .finish ⟨none, "public"⟩,
          .finish ⟨none, "methods"⟩, .finish ⟨none, "class"⟩, .finish ⟨none, "classgen"⟩] := by
    -- No entity is named, so nothing is looked up.
    simp [doubledTokens, Entities.events?, Entities.eventsWithin?, Entities.attributes?,
      Entities.value?, Entities.valueWithin?]
    decide
  exact ofText?_of_events (by decide +kernel) scanned events rfl

theorem root_doubledDocument : root doubledDocument = .ok doubledRoot := by
  have balanced : checkCdata doubledDocument = .ok () := by decide +kernel
  rw [root, balanced, ofText?_doubledDocument]
  rfl

theorem project_doubledDocument :
    ∃ left, (project doubledDocument).runFrom { state := {} } = (.ok doubledProject, left) := by
  rw [project, root_doubledDocument]
  exact ⟨_, Prod.ext (by decide +kernel) rfl⟩

/-- The document is read, and one of the two comments that its class declares is lost. -/
theorem second_group_is_lost :
    (∃ left, (project doubledDocument).runFrom { state := {} } = (.ok doubledProject, left)) ∧
      root doubledDocument = .ok doubledRoot ∧
      ¬ List.Forall₂ (fun e c => ∀ v, (c.members v).length = (declared (groups e v)).length)
          (doubledRoot.childrenNamed "class") doubledProject.classes := by
  refine ⟨project_doubledDocument, root_doubledDocument, fun each => ?_⟩
  have classes : doubledRoot.childrenNamed "class" = [doubledClass] := rfl
  rw [classes, doubledProject, List.forall₂_cons] at each
  cases each.1 .publicAccess

/-- What the class of the document has of its two groups. -/
theorem doubled_document_keeps_first :
    ∃ left, (project doubledDocument).runFrom { state := {} } = (.ok doubledProject, left) ∧
      ∃ r filled, root doubledDocument = .ok r ∧
        (macros r).runFrom { state := {} } = (.ok (), filled) ∧
        List.Forall₂ (fun e c =>
            let read := Reading.expanding (expandWith filled.state.template?)
            KeepsFirst read e c ∧
            ∀ v, Kept (member read v) (declared (groups e v)) (c.members v) ↔
              declared ((groups e v).drop 1) = [])
          (r.childrenNamed "class") doubledProject.classes := by
  obtain ⟨left, run⟩ := project_doubledDocument
  exact ⟨left, run, members_kept_iff run⟩

end Classwright.Document
