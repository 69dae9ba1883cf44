import Classwright.Proofs.Macro.Expansion
import Mathlib.Data.List.TakeWhile

/-!
# Macro — a registry in use

A registry is asked to register, to expand and to look up, in any order, and some requests fail.
Up to the first expansion its table is what the entries make of it, the last one of a name
counting; from then on it stays.

* `Request`: what is asked of a registry.
* `entered`: the entries that a row of requests makes.
* `repeated`: the names among entries that are there already.
* `enter`, `freeze`: a registry with one more entry; a registry from the first expansion on.
* `left_of_filling`, `left_of_frozen`: what one request leaves.
* `after_requests`: what a row of requests leaves.
* `registry_has_phases`: the two phases of a registry.
-/

namespace Classwright.Macro

open Classwright.Action (runFrom runFrom_bind_ok runFrom_bind_error runFrom_state_bind)
open Stateful (after after_cons)

/-! ### Requests -/

/-- What is asked of a registry. -/
inductive Request where
  | register (name template : Text)
  | registerAll (entries : List (Text × Text))
  | expand (t : Text)
  | lookUp (name : Text)
  | isRegistered (name : Text)
  deriving DecidableEq, Repr

/-- What a registry answers. -/
inductive Answer where
  | done
  | text (t : Text)
  | truth (b : Bool)
  deriving DecidableEq, Repr

/-- Has the entry a name? -/
def isNamed (entry : Text × Text) : Bool := entry.1 ≠ []

theorem isNamed_of_ne_nil {name : Text} (h : name ≠ []) (template : Text) :
    isNamed (name, template) = true := decide_eq_true h

namespace Request

/-- Asks a registry. -/
def ask : Request → Action Registry Answer
  | register name template => do
      Registry.register name template
      return .done
  | registerAll entries => do
      Registry.registerAll entries
      return .done
  | expand t => return .text (← Registry.expand t)
  | lookUp name => return .text (← Registry.template name)
  | isRegistered name => return .truth (← Registry.isRegistered name)

/-- Does the request begin an expansion? -/
def expands : Request → Bool
  | expand _ => true
  | _ => false

/-- The entries that the request makes while the registry is being filled: those in front of the
first without a name. -/
def entries : Request → List (Text × Text)
  | register name template => [(name, template)].takeWhile isNamed
  | registerAll entries => entries.takeWhile isNamed
  | _ => []

end Request

/-- The entries that requests make: those of the requests in front of the first expansion. -/
def entered (requests : List Request) : List (Text × Text) :=
  (requests.takeWhile (!·.expands)).flatMap Request.entries

/-- The names in a row of entries that are known already or stand further in front as well. -/
def repeated (known : Text → Bool) : List (Text × Text) → List Text
  | [] => []
  | (name, _) :: rest =>
      (if known name then [name] else []) ++ repeated (fun other => name = other || known other) rest

/-- The warning about a name that is registered once more. -/
def redefined (name : Text) : Log.Record where
  level := .warning
  logger := Log.macros
  message := Registry.redefinition name

/-! ### Entries -/

/-- A registry with one more entry, and a warning if its name is registered already. -/
def enter (s : Logged Registry) (entry : Text × Text) : Logged Registry where
  state := { s.state with templates := s.state.templates.insert entry.1 entry.2 }
  log := s.log ++ if s.state.templates.contains entry.1 then [redefined entry.1] else []

/-- A registry once expansion has begun. -/
def freeze (s : Logged Registry) : Logged Registry :=
  { s with state := { s.state with frozen := true } }

theorem freeze_of_frozen {s : Logged Registry} (h : s.state.frozen = true) : freeze s = s := by
  obtain ⟨⟨templates, frozen⟩, log⟩ := s
  cases h
  rfl

/-- A registry with more entries has a larger table and a longer log. -/
theorem foldl_enter (s : Logged Registry) (entries : List (Text × Text)) :
    entries.foldl enter s = {
      state := { s.state with
        templates := entries.foldl (fun table entry => table.insert entry.1 entry.2)
          s.state.templates }
      log := s.log ++ (repeated s.state.templates.contains entries).map redefined } := by
  induction entries generalizing s with
  | nil => simp [repeated]
  | cons entry rest ih =>
      obtain ⟨name, template⟩ := entry
      have further : (enter s (name, template)).state.templates.contains
          = fun other => name = other || s.state.templates.contains other :=
        funext fun other => Table.contains_insert _ name other template
      rw [List.foldl_cons, ih, further]
      by_cases known : s.state.templates.contains name <;> simp [enter, repeated, known]

/-! ### One request -/

variable {s : Logged Registry}

theorem runFrom_register_of_frozen (h : s.state.frozen = true) (name template : Text) :
    runFrom (Registry.register name template) s = (.error (.frozenRegistry name), s) := by
  rw [Registry.register, runFrom_state_bind, if_pos h]
  rfl

theorem runFrom_register_nil (h : s.state.frozen = false) (template : Text) :
    runFrom (Registry.register [] template) s = (.error .unnamedMacro, s) := by
  rw [Registry.register, runFrom_state_bind, if_neg (by simp [h]), if_pos rfl]
  rfl

theorem runFrom_register (h : s.state.frozen = false) {name : Text} (named : name ≠ [])
    (template : Text) :
    runFrom (Registry.register name template) s = (.ok (), enter s (name, template)) := by
  rw [Registry.register, runFrom_state_bind, if_neg (by simp [h]), if_neg named]
  by_cases known : s.state.templates.contains name
  · rw [if_pos known, enter, if_pos known]
    rfl
  · rw [if_neg known, enter, if_neg known, List.append_nil]
    rfl

theorem runFrom_registerAll_of_frozen (h : s.state.frozen = true) (name template : Text)
    (rest : List (Text × Text)) :
    runFrom (Registry.registerAll ((name, template) :: rest)) s
      = (.error (.frozenRegistry name), s) :=
  runFrom_bind_error (runFrom_register_of_frozen h name template)

/-- Entries are made one by one, up to the first without a name. -/
theorem runFrom_registerAll (h : s.state.frozen = false) (entries : List (Text × Text)) :
    runFrom (Registry.registerAll entries) s
      = (if entries.all isNamed then .ok () else .error .unnamedMacro,
          (entries.takeWhile isNamed).foldl enter s) := by
  induction entries generalizing s with
  | nil => rfl
  | cons entry rest ih =>
      obtain ⟨name, template⟩ := entry
      by_cases named : name = []
      · subst named
        exact runFrom_bind_error (runFrom_register_nil h template)
      · refine (runFrom_bind_ok (runFrom_register h named template)).trans ?_
        rw [ih (show (enter s (name, template)).state.frozen = false from h)]
        rw [List.all_cons, List.takeWhile_cons_of_pos (isNamed_of_ne_nil named template),
          isNamed_of_ne_nil named, Bool.true_and]
        rfl

/-- How an answer is put has no effect on what is left. -/
theorem left_of_answer {α : Type} (action : Action Registry α) (f : α → Answer) :
    (runFrom (action >>= fun a => pure (f a)) s).2 = (runFrom action s).2 := by
  cases run : runFrom action s with
  | mk result left =>
      cases result with
      | ok a => rw [runFrom_bind_ok run]; rfl
      | error error => rw [runFrom_bind_error run]

theorem left_of_lookUp (name : Text) : (runFrom (Request.lookUp name).ask s).2 = s := by
  refine (left_of_answer _ _).trans ?_
  rw [Registry.template, runFrom_state_bind]
  cases s.state.template? name <;> rfl

theorem left_of_expand (t : Text) : (runFrom (Request.expand t).ask s).2 = freeze s := by
  refine (left_of_answer _ _).trans ?_
  rw [runFrom_expand]
  rfl

/-- Whatever is asked of a frozen registry leaves it as it is. -/
theorem left_of_frozen (h : s.state.frozen = true) (request : Request) :
    (runFrom request.ask s).2 = s := by
  cases request with
  | register name template =>
      refine (left_of_answer _ _).trans ?_
      rw [runFrom_register_of_frozen h]
  | registerAll entries =>
      refine (left_of_answer _ _).trans ?_
      cases entries with
      | nil => rfl
      | cons entry rest => rw [runFrom_registerAll_of_frozen h]
  | expand t => exact (left_of_expand t).trans (freeze_of_frozen h)
  | lookUp name => exact left_of_lookUp name
  | isRegistered name => rfl

/-- What is asked of a registry that is being filled makes its entries, or freezes it. -/
theorem left_of_filling (h : s.state.frozen = false) (request : Request) :
    (runFrom request.ask s).2
      = if request.expands then freeze s else request.entries.foldl enter s := by
  cases request with
  | register name template =>
      refine (left_of_answer _ _).trans ?_
      by_cases named : name = []
      · subst named
        rw [runFrom_register_nil h]
        rfl
      · rw [runFrom_register h named]
        simp [Request.expands, Request.entries, isNamed_of_ne_nil named]
  | registerAll entries =>
      refine (left_of_answer _ _).trans ?_
      rw [runFrom_registerAll h]
      rfl
  | expand t => exact left_of_expand t
  | lookUp name => exact left_of_lookUp name
  | isRegistered name => rfl

/-! ### Many requests -/

theorem after_of_frozen (h : s.state.frozen = true) (requests : List Request) :
    after Request.ask s requests = s := by
  refine Stateful.after_keeps (P := (· = s)) ?_ rfl requests
  rintro left request rfl
  exact left_of_frozen h request

theorem after_of_filling (h : s.state.frozen = false) (requests : List Request) :
    after Request.ask s requests
      = if requests.any Request.expands then freeze ((entered requests).foldl enter s)
        else (entered requests).foldl enter s := by
  induction requests generalizing s with
  | nil => rfl
  | cons request rest ih =>
      have step := congrArg (after Request.ask · rest) (left_of_filling h request)
      refine (after_cons s request rest).trans (step.trans ?_)
      by_cases begins : request.expands
      · -- From here on the registry is frozen, so the rest of the requests counts for nothing.
        simp only [begins, if_true, after_of_frozen (s := freeze s) rfl]
        simp [entered, begins]
      · have filling : (request.entries.foldl enter s).state.frozen = false := by
          rw [foldl_enter]
          exact h
        simp only [begins, Bool.false_eq_true, if_false, ih filling]
        simp [entered, begins]

/-- What a row of requests leaves: the table with the entries made in front of the first expansion,
whether there was an expansion, and the log with a warning for each name that was there already. -/
theorem after_requests (start : Logged Registry) (requests : List Request) :
    let entries := if start.state.frozen then [] else entered requests
    after Request.ask start requests = {
      state := {
        templates := entries.foldl (fun table entry => table.insert entry.1 entry.2)
          start.state.templates
        frozen := start.state.frozen || requests.any Request.expands }
      log := start.log ++ (repeated start.state.templates.contains entries).map redefined } := by
  obtain ⟨⟨templates, frozen⟩, log⟩ := start
  cases frozen with
  | true =>
      rw [after_of_frozen rfl]
      simp [repeated]
  | false =>
      rw [after_of_filling rfl, foldl_enter]
      by_cases begun : requests.any Request.expands
      · simp only [begun, if_true]
        rfl
      · rw [if_neg begun, Bool.eq_false_iff.mpr begun]
        rfl

theorem runFrom_registerAll_of_unnamed (h : s.state.frozen = false) {before : List (Text × Text)}
    (named : ∀ entry ∈ before, entry.1 ≠ []) (template : Text) (behind : List (Text × Text)) :
    runFrom (Registry.registerAll before) s = (.ok (), before.foldl enter s) ∧
      runFrom (Registry.registerAll (before ++ ([], template) :: behind)) s
        = (.error .unnamedMacro, before.foldl enter s) := by
  have all : ∀ entry ∈ before, isNamed entry = true := fun entry he =>
    decide_eq_true (named entry he)
  have unnamed : isNamed ([], template) = false := rfl
  constructor
  · rw [runFrom_registerAll h, List.all_eq_true.mpr all, List.takeWhile_eq_self_iff.mpr all]
    rfl
  · rw [runFrom_registerAll h, List.takeWhile_append_of_pos all, List.takeWhile_cons, unnamed,
      List.all_append, List.all_cons, unnamed, Bool.false_and, Bool.and_false]
    simp

/-- **A registry has two phases.**  A row of requests leaves the table with the entries that were
made in front of the first expansion, of which the last one of a name counts, and a warning for each
of them whose name was there already.  From the first expansion on the registry is frozen: no entry
is made any more, and a text always has the same expansion.  Entries made together are made up to
the first without a name. -/
theorem registry_has_phases (start : Logged Registry) (requests : List Request) :
    let entries := if start.state.frozen then [] else entered requests
    let left := after Request.ask start requests
    left = {
        state := {
          templates := entries.foldl (fun table entry => table.insert entry.1 entry.2)
            start.state.templates
          frozen := start.state.frozen || requests.any Request.expands }
        log := start.log ++ (repeated start.state.templates.contains entries).map redefined } ∧
      (∀ name, left.state.template? name
        = (Table.find? name entries.reverse).or (start.state.template? name)) ∧
      (left.state.frozen = true →
        (∀ name template, runFrom (Registry.register name template) left
          = (.error (.frozenRegistry name), left)) ∧
        (∀ name template rest, runFrom (Registry.registerAll ((name, template) :: rest)) left
          = (.error (.frozenRegistry name), left)) ∧
        ∀ further, after Request.ask left further = left) ∧
      (left.state.frozen = false →
        ∀ before template behind, (∀ entry ∈ before, entry.1 ≠ []) →
          ∃ filled, runFrom (Registry.registerAll before) left = (.ok (), filled) ∧
            runFrom (Registry.registerAll (before ++ ([], template) :: behind)) left
              = (.error .unnamedMacro, filled)) ∧
      ∀ t between,
        (runFrom (Registry.expand t) (after Request.ask left (.expand t :: between))).1
          = (runFrom (Registry.expand t) left).1 := by
  intro entries left
  have reached := after_requests start requests
  refine ⟨reached, fun name => ?_, fun frozen => ⟨?_, ?_, ?_⟩, fun filling => ?_, ?_⟩
  · change Table.find? name left.state.templates = _
    rw [show left = _ from reached]
    exact Table.find?_foldl_insert entries _ name
  · exact runFrom_register_of_frozen frozen
  · exact runFrom_registerAll_of_frozen frozen
  · exact after_of_frozen frozen
  · intro before template behind named
    exact ⟨_, runFrom_registerAll_of_unnamed filling named template behind⟩
  · intro t between
    have stays : after Request.ask left (.expand t :: between) = freeze left := by
      rw [after_cons]
      refine (congrArg (after Request.ask · between) (left_of_expand t)).trans ?_
      exact after_of_frozen rfl between
    rw [stays, runFrom_expand, runFrom_expand]
    rfl

/-- Requests that fill a registry: an entry, and three of which the second has no name. -/
def fillingRequests : List Request :=
  [.register "a" "x", .registerAll [("a", "y"), ([], "z"), ("b", "w")]]

/-- These, an expansion that fails, and an entry that comes too late. -/
def lateRequests : List Request :=
  fillingRequests ++ [.lookUp "b", .expand "\x7b\x7bb\x7d\x7d", .register "b" "v"]

/-- The second entry counts, the one behind the nameless entry is not made, and the failing
expansion freezes the registry. -/
theorem late_requests_are_refused :
    let filled : Logged Registry :=
      { state := { templates := [("a", "y")] }, log := [redefined "a"] }
    let left : Logged Registry :=
      { state := { templates := [("a", "y")], frozen := true }, log := [redefined "a"] }
    after Request.ask { state := {} } fillingRequests = filled ∧
      after Request.ask { state := {} } lateRequests = left ∧
      (∃ further, runFrom (Registry.registerAll [("b", "w")]) filled = (.ok (), further) ∧
        runFrom (Registry.registerAll [("b", "w"), ([], "z")]) filled
          = (.error .unnamedMacro, further)) ∧
      runFrom (Registry.register [] "z") left = (.error (.frozenRegistry []), left) := by
  intro filled left
  obtain ⟨early, -, -, together, -⟩ := registry_has_phases { state := {} } fillingRequests
  obtain ⟨late, -, closed, -⟩ := registry_has_phases { state := {} } lateRequests
  have early : after Request.ask { state := {} } fillingRequests = filled := early.trans rfl
  have late : after Request.ask { state := {} } lateRequests = left := late.trans rfl
  rw [early] at together
  rw [late] at closed
  exact ⟨early, late, together rfl [("b", "w")] "z" [] (by decide), (closed rfl).1 [] "z"⟩

end Classwright.Macro
