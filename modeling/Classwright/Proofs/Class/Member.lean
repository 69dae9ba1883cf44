import Classwright.Class.Member
import Classwright.Proofs.Comment.Docblock
import Classwright.Proofs.Writer.Appending

/-!
# Class — the lines of a member

A member appends its lines or nothing: its comment is rendered before anything is written, and
behind the comment nothing can fail.

* `Scope.constantLines`, `Scope.propertyLines`, `Scope.methodLines`, `Scope.accessorLines`,
  `Scope.commentLines`, `Scope.memberLines`: the lines of each kind of member.
* `Scope.decides_writeConstant` and its companions: each is written as its lines, or not at all.
-/

namespace Classwright

open Comment (Style Tag docblock docblock_eq_ok_iff level_of_docblock)
open Writing

/-- The declaration of a property, its default value included. -/
def Property.declaration (property : Property) : Text :=
  "private " ++ Text.onlyIf property.isStatic "static " ++ "$" ++ property.name
    ++ (if property.default ≠ [] then " = " ++ property.defaultLiteral else []) ++ ";"

/-- What a member says: the description of a method, or the comment. -/
def Member.text : Member → Text
  | .method m => m.description
  | .comment t => t

theorem Method.signature_ne_nil (method : Method) : method.signature ≠ [] := by
  simp [signature]

namespace Scope

variable (scope : Scope)

/-! ### Lines -/

/-- The lines of a free comment. -/
def commentLines (text : Text) : Except Error (List Text) :=
  (docblock (some text) [] scope.level .line false).map (· ++ [[]])

/-- The lines of a constant. -/
def constantLines (constant : Constant) : Except Error (List Text) :=
  (docblock (some constant.description) [.var (scope.docType constant.type)] scope.level .block
    constant.forceMultiLine).map (· ++
      [indented scope.level ("const " ++ constant.name ++ " = " ++ constant.value ++ ";"), []])

/-- The lines of a property. -/
def propertyLines (property : Property) : Except Error (List Text) :=
  (docblock (some property.description) [.var (scope.docType property.type)] scope.level .block
    property.forceMultiLine).map (· ++ [indented scope.level property.declaration, []])

/-- The lines of a body between braces. -/
def bodyLines (body : Option (List Text)) : List Text :=
  [indented scope.level "\x7b"]
    ++ ((body.getD [missingBody]).map (indented (scope.level + 1))
      ++ [indented scope.level "\x7d"])

/-- The lines of a method below its comment. -/
def codeLines (method : Method) : List Text :=
  if method.isAbstract then [indented scope.level (method.signature ++ ";")]
  else [indented scope.level method.signature] ++ scope.bodyLines method.body

/-- The lines of a method. -/
def methodLines (method : Method) : Except Error (List Text) :=
  (docblock (some method.description) (scope.methodTags method) scope.level .block true).map
    (· ++ (scope.codeLines method ++ [[]]))

/-- The lines of the accessors of a property. -/
def accessorLines (property : Property) : Except Error (List Text) :=
  inOrder (if property.setter then scope.methodLines property.setterMethod else .ok [])
    (if property.getter then scope.methodLines property.getterMethod else .ok [])

/-- The lines of a method or a free comment. -/
def memberLines : Member → Except Error (List Text)
  | .method method => scope.methodLines method
  | .comment text => scope.commentLines text

/-! ### When there are lines -/

variable {scope}

theorem commentLines_eq_ok_iff {text : Text} :
    (∃ lines, scope.commentLines text = .ok lines) ↔ text.isBlank = false ∧ 0 ≤ scope.level :=
  exists_map_eq_ok.trans docblock_eq_ok_iff

theorem constantLines_eq_ok_iff {constant : Constant} :
    (∃ lines, scope.constantLines constant = .ok lines) ↔
      constant.description.isBlank = false ∧ 0 ≤ scope.level :=
  exists_map_eq_ok.trans docblock_eq_ok_iff

theorem propertyLines_eq_ok_iff {property : Property} :
    (∃ lines, scope.propertyLines property = .ok lines) ↔
      property.description.isBlank = false ∧ 0 ≤ scope.level :=
  exists_map_eq_ok.trans docblock_eq_ok_iff

theorem methodLines_eq_ok_iff {method : Method} :
    (∃ lines, scope.methodLines method = .ok lines) ↔
      method.description.isBlank = false ∧ 0 ≤ scope.level :=
  exists_map_eq_ok.trans docblock_eq_ok_iff

theorem memberLines_eq_ok_iff {member : Member} :
    (∃ lines, scope.memberLines member = .ok lines) ↔
      member.text.isBlank = false ∧ 0 ≤ scope.level := by
  cases member with
  | method method => exact methodLines_eq_ok_iff
  | comment text => exact commentLines_eq_ok_iff

theorem getterLines_eq_ok_iff (property : Property) :
    (∃ lines, scope.methodLines property.getterMethod = .ok lines) ↔ 0 ≤ scope.level :=
  methodLines_eq_ok_iff.trans (and_iff_right rfl)

theorem setterLines_eq_ok_iff (property : Property) :
    (∃ lines, scope.methodLines property.setterMethod = .ok lines) ↔ 0 ≤ scope.level :=
  methodLines_eq_ok_iff.trans (and_iff_right rfl)

/-- At a level that is not below zero, accessors have lines: what they say is generated. -/
theorem accessorLines_of_level (property : Property) (h : 0 ≤ scope.level) :
    ∃ lines, scope.accessorLines property = .ok lines := by
  obtain ⟨setter, hs⟩ := (setterLines_eq_ok_iff property).mpr h
  obtain ⟨getter, hg⟩ := (getterLines_eq_ok_iff property).mpr h
  rw [accessorLines, hs, hg]
  cases property.setter <;> cases property.getter <;> exact ⟨_, rfl⟩

/-! ### Writing them -/

theorem decides_writeDocblock (description : Text) (tags : List Tag) (style : Style)
    (forceMultiLine : Bool) :
    Decides (scope.writeDocblock description tags style forceMultiLine)
      (docblock (some description) tags scope.level style forceMultiLine) :=
  decides_ofExcept _

theorem decides_writeComment (text : Text) :
    Decides (scope.writeComment text) (scope.commentLines text) :=
  (decides_writeDocblock text [] .line false).bind_appends fun _ _ => appends_line []

theorem decides_writeConstant (constant : Constant) :
    Decides (scope.writeConstant constant) (scope.constantLines constant) := by
  refine (decides_writeDocblock _ _ _ _).bind_appends fun lines h => ?_
  exact (appends_append _ (level_of_docblock h)).bind (appends_line [])

/-- A line that is extended once or twice, and an empty line. -/
theorem appends_extended {content suffix last : Text} {level : Int} {p : Prop} [Decidable p]
    (h : 0 ≤ level) (said : content ≠ []) :
    Appends (append content level >>= fun _ =>
        if p then extendLast suffix >>= fun _ => extendLast last >>= fun _ => append []
        else extendLast last >>= fun _ => append [])
      [indented level (content ++ (if p then suffix else []) ++ last), []] := by
  have begun := appends_append content h
  by_cases hp : p
  · have whole := (begun.extendLast suffix).extendLast last
    rw [← indented_append _ _ said, ← indented_append _ _ (by simp [said])] at whole
    simpa only [hp, if_true, bind_assoc, List.singleton_append] using whole.bind (appends_line [])
  · have whole := begun.extendLast last
    rw [← indented_append _ _ said] at whole
    simpa only [hp, if_false, List.append_nil, bind_assoc, List.singleton_append]
      using whole.bind (appends_line [])

theorem decides_writeProperty (property : Property) :
    Decides (scope.writeProperty property) (scope.propertyLines property) := by
  refine (decides_writeDocblock _ _ _ _).bind_appends fun lines h => ?_
  exact appends_extended (level_of_docblock h) (by simp)

theorem appends_writeBody (body : Option (List Text)) (h : 0 ≤ scope.level) :
    Appends (scope.writeBody body) (scope.bodyLines body) := by
  refine (appends_append _ h).bind (Appends.bind ?_ (appends_append _ h))
  exact Appends.forM_line fun line _ => appends_append line (Int.le_add_one h)

theorem decides_writeMethod (method : Method) :
    Decides (scope.writeMethod method) (scope.methodLines method) := by
  refine (decides_writeDocblock _ _ _ _).bind_appends fun lines h => ?_
  have signed := appends_append method.signature (level_of_docblock h)
  cases abstract : method.isAbstract with
  | true =>
      have whole := signed.extendLast ";"
      rw [← indented_append _ _ method.signature_ne_nil] at whole
      simpa only [codeLines, abstract, if_true, bind_assoc] using whole.bind (appends_line [])
  | false =>
      have whole := signed.bind (appends_writeBody method.body (level_of_docblock h))
      simpa only [codeLines, abstract, Bool.false_eq_true, if_false, bind_assoc]
        using whole.bind (appends_line [])

theorem decides_writeAccessors (property : Property) :
    Decides (scope.writeAccessors property) (scope.accessorLines property) := by
  have split : scope.writeAccessors property = (do
      (if property.setter then scope.writeMethod property.setterMethod else pure ())
      (if property.getter then scope.writeMethod property.getterMethod else pure ())) := by
    rw [writeAccessors]
    cases property.setter <;> simp
  rw [split]
  refine (decides_writeMethod _).onlyIf.bind (decides_writeMethod _).onlyIf fun lines h => ?_
  -- Behind a setter the getter cannot fail: the setter has shown that the level is not below zero.
  cases hs : property.setter with
  | false =>
      rw [hs] at h
      cases h
      exact .inl rfl
  | true =>
      rw [hs] at h
      obtain ⟨getter, hg⟩ := (getterLines_eq_ok_iff property).mpr
        ((setterLines_eq_ok_iff property).mp ⟨lines, h⟩)
      rw [hg]
      cases property.getter <;> exact .inr ⟨_, rfl⟩

theorem decides_writeMember (member : Member) :
    Decides (scope.writeMember member) (scope.memberLines member) := by
  cases member with
  | method method => exact decides_writeMethod method
  | comment text => exact decides_writeComment text

end Scope

end Classwright
