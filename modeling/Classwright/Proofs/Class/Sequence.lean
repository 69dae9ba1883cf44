import Classwright.Proofs.Class.Member

/-!
# Class — members one after another

Members are written to one writer, one behind another, and some of them edit the line that they
have just appended.  None touches a line that was there before it: a member is written as it is
written alone, or is refused and leaves nothing.

* `MemberCall`: a member to write; `Scope.write` writes it.
* `Scope.lines`: its lines; `Scope.decides_write`: they are written, or nothing is.
* `Scope.ends_lines`: behind the lines stands an empty one.
* `Scope.alone`: the text of a member that is written alone.
* `Scope.given_after`: the text of several members.
* `Scope.members_stand_alone`: what one call does after any others, and what all of them do.
-/

namespace Classwright

open Stateful (after)
open Writing

/-- A member that is to be written. -/
inductive MemberCall where
  | constant (constant : Constant)
  | property (property : Property)
  | accessors (property : Property)
  | method (method : Method)
  | comment (text : Text)
  | member (member : Member)
  deriving DecidableEq, Repr

namespace Scope

variable (scope : Scope)

/-- Writes it. -/
def write : MemberCall → Writing Unit
  | .constant c => scope.writeConstant c
  | .property p => scope.writeProperty p
  | .accessors p => scope.writeAccessors p
  | .method m => scope.writeMethod m
  | .comment t => scope.writeComment t
  | .member m => scope.writeMember m

/-- The lines of a member that is to be written. -/
def lines : MemberCall → Except Error (List Text)
  | .constant c => scope.constantLines c
  | .property p => scope.propertyLines p
  | .accessors p => scope.accessorLines p
  | .method m => scope.methodLines m
  | .comment t => scope.commentLines t
  | .member m => scope.memberLines m

/-- The text of a member that is written alone, to a new writer. -/
def alone (call : MemberCall) : Text := (runFrom (scope.write call) {}).2.given

variable {scope}

theorem decides_write (call : MemberCall) : Decides (scope.write call) (scope.lines call) := by
  cases call with
  | constant c => exact decides_writeConstant c
  | property p => exact decides_writeProperty p
  | accessors p => exact decides_writeAccessors p
  | method m => exact decides_writeMethod m
  | comment t => exact decides_writeComment t
  | member m => exact decides_writeMember m

/-! ### The separator -/

/-- Behind the lines of a result, if there are any, stands an empty one. -/
def Ends (result : Except Error (List Text)) : Prop :=
  ∀ lines, result = .ok lines → ∃ front, lines = front ++ [[]]

/-- Lines behind which an empty one is appended. -/
theorem ends_map {result : Except Error (List Text)} (code : List Text) :
    Ends (result.map (· ++ (code ++ [[]]))) := by
  intro lines h
  cases result with
  | error error => cases h
  | ok comment =>
      cases h
      exact ⟨comment ++ code, (List.append_assoc ..).symm⟩

theorem ends_commentLines (text : Text) : Ends (scope.commentLines text) := ends_map []

theorem ends_constantLines (c : Constant) : Ends (scope.constantLines c) := ends_map [_]

theorem ends_propertyLines (p : Property) : Ends (scope.propertyLines p) := ends_map [_]

theorem ends_methodLines (m : Method) : Ends (scope.methodLines m) := ends_map (scope.codeLines m)

theorem ends_memberLines (member : Member) : Ends (scope.memberLines member) := by
  cases member with
  | method m => exact ends_methodLines m
  | comment t => exact ends_commentLines t

/-- If one of two results may be left out, the last that is not ends both. -/
theorem ends_accessorLines {p : Property} (h : p.hasAccessor = true) :
    Ends (scope.accessorLines p) := by
  intro lines found
  obtain ⟨before, behind, hs, hg, rfl⟩ := inOrder_eq_ok_iff.mp found
  cases getter : p.getter with
  | true =>
      rw [getter] at hg
      obtain ⟨front, rfl⟩ := ends_methodLines _ _ hg
      exact ⟨before ++ front, (List.append_assoc ..).symm⟩
  | false =>
      have setter : p.setter = true := by simpa [Property.hasAccessor, getter] using h
      rw [getter] at hg
      rw [setter] at hs
      cases hg
      rw [List.append_nil]
      exact ends_methodLines _ _ hs

theorem accessorLines_of_none {p : Property} (h : p.hasAccessor = false) :
    scope.accessorLines p = .ok [] := by
  obtain ⟨getter, setter⟩ : p.getter = false ∧ p.setter = false := by
    simpa [Property.hasAccessor] using h
  simp [accessorLines, getter, setter, Except.map]

/-- Is it the call for accessors that a property does not have? -/
def Vacuous (call : MemberCall) : Prop :=
  ∃ p : Property, call = .accessors p ∧ p.hasAccessor = false

theorem lines_of_vacuous {call : MemberCall} (h : Vacuous call) : scope.lines call = .ok [] := by
  obtain ⟨p, rfl, none⟩ := h
  exact accessorLines_of_none none

theorem ends_lines {call : MemberCall} (h : ¬ Vacuous call) : Ends (scope.lines call) := by
  cases call with
  | constant c => exact ends_constantLines c
  | property p => exact ends_propertyLines p
  | accessors p => exact ends_accessorLines (by simpa [Vacuous] using h)
  | method m => exact ends_methodLines m
  | comment t => exact ends_commentLines t
  | member m => exact ends_memberLines m

/-! ### One after another -/

/-- A call adds the text of the member alone, whatever stands before. -/
theorem given_of_write (call : MemberCall) {writer : Writer} (h : writer.closed = false) :
    (runFrom (scope.write call) writer).2.given = writer.given ++ scope.alone call := by
  rw [alone, decides_write call writer h, decides_write call {} rfl]
  cases scope.lines call with
  | error error => exact (List.append_nil _).symm
  | ok lines =>
      change (writer.push lines).given = writer.given ++ (Writer.push {} lines).given
      rw [Writer.given_push, Writer.given_push]
      rfl

theorem closed_of_write (call : MemberCall) {writer : Writer} (h : writer.closed = false) :
    (runFrom (scope.write call) writer).2.closed = false := by
  rw [decides_write call writer h]
  cases scope.lines call with
  | error error => exact h
  | ok lines => exact (Writer.push_closed writer lines).trans h

theorem closed_after (calls : List MemberCall) {writer : Writer} (h : writer.closed = false) :
    (after scope.write writer calls).closed = false :=
  Stateful.after_keeps (P := (Writer.closed · = false)) (fun _ call => closed_of_write call) h calls

/-- The text of several members is that of each alone, one behind another. -/
theorem given_after (calls : List MemberCall) {writer : Writer} (h : writer.closed = false) :
    (after scope.write writer calls).given = writer.given ++ calls.flatMap scope.alone := by
  induction calls generalizing writer with
  | nil => exact (List.append_nil _).symm
  | cons call rest ih =>
      refine (ih (closed_of_write call h)).trans ?_
      rw [given_of_write call h, List.flatMap_cons, List.append_assoc]

/-- **Members stand alone.**  After any calls on an open writer, a further call is refused and
leaves the writer as it is; or it is for accessors that the property does not have and writes
nothing; or it sends all that was there and appends its own lines, of which it holds back the last,
an empty one.  On a new writer it does the same.  What all calls add is the text of each alone. -/
theorem members_stand_alone (scope : Scope) (writer : Writer) (hw : writer.closed = false)
    (calls : List MemberCall) :
    let left := after scope.write writer calls
    (∀ call : MemberCall,
      (∃ error, scope.lines call = .error error ∧
        runFrom (scope.write call) {} = (.error error, {}) ∧
        runFrom (scope.write call) left = (.error error, left)) ∨
      (Vacuous call ∧ runFrom (scope.write call) {} = (.ok (), {}) ∧
        runFrom (scope.write call) left = (.ok (), left)) ∨
      ∃ front, scope.lines call = .ok (front ++ [[]]) ∧
        runFrom (scope.write call) {}
          = (.ok (), { sent := front.flatMap Writer.sentLine, buffer := some [] }) ∧
        runFrom (scope.write call) left
          = (.ok (), { left with
              sent := left.given ++ front.flatMap Writer.sentLine, buffer := some [] })) ∧
    left.given = writer.given ++ calls.flatMap scope.alone := by
  intro left
  refine ⟨fun call => ?_, given_after calls hw⟩
  have decides : Decides (scope.write call) (scope.lines call) := decides_write call
  have fresh := decides {} rfl
  have behind := decides left (closed_after calls hw)
  cases found : scope.lines call with
  | error error =>
      rw [found] at fresh behind
      exact .inl ⟨error, rfl, fresh, behind⟩
  | ok lines =>
      rw [found] at fresh behind
      by_cases vacuous : Vacuous call
      · cases (lines_of_vacuous vacuous).symm.trans found
        exact .inr (.inl ⟨vacuous, fresh, behind⟩)
      · obtain ⟨front, rfl⟩ := ends_lines vacuous lines found
        simp only [Writer.push_concat_eq] at fresh behind
        exact .inr (.inr ⟨front, rfl, fresh, behind⟩)

/-- A property with a default, a comment that says nothing, accessors that are not there, and a
comment. -/
def sampleCalls : List MemberCall :=
  [.property { name := "a", description := "A.", type := "int", default := "1" }, .comment " ",
    .accessors { name := "b", description := "B.", getter := false, setter := false },
    .comment "Last."]

/-- The line before them stays as it is, though the property extends its own. -/
theorem sample_members_stand_alone :
    (after (Scope.write { imports := [] }) { buffer := some "const Z = 0" } sampleCalls).given
      = "const Z = 0\n    /** @var int A. */\n    private $a = 1;\n\n    // Last.\n\n" := by
  obtain ⟨-, text⟩ :=
    members_stand_alone { imports := [] } { buffer := some "const Z = 0" } rfl sampleCalls
  exact text.trans (by decide +kernel)

end Scope

end Classwright
