import Classwright.Proofs.Writer.Appending

/-!
# Writer — a writer and its lines

A writer is used by operations in any order, some of which it refuses.  What it has sent is told by
a list of lines: those that are settled, and behind them one that can still be extended or taken
back.

* `Operation`: what is done with a writer.
* `Ledger`: the lines of a writer; `Ledger.apply`, what an operation does to them.
* `runFrom_operation`, `after_operations`: the writer follows its ledger, step by step and over a
  whole run.
* `kept`: the lines that a row of operations appends and does not take back.
* `lines_after`: the lines of a ledger are those kept.
* `writer_follows_ledger`: what is sent at every step of a run, and at its end.
-/

namespace Classwright.Writer

open Stateful (after)
open Writing (runFrom indented)

/-! ### Operations -/

/-- What is done with a writer. -/
inductive Operation where
  | append (content : Text) (level : Int)
  | extendLast (suffix : Text)
  | deleteLast
  | close
  deriving DecidableEq, Repr

namespace Operation

/-- Does it. -/
def run : Operation → Writing Unit
  | append content level => Writing.append content level
  | extendLast suffix => Writing.extendLast suffix
  | deleteLast => Writing.deleteLast
  | close => Writing.close

/-- Does the writer refuse the operation? -/
def Refused (writer : Writer) : Operation → Prop
  | append content level => writer.closed = true ∨ (content ≠ [] ∧ level < 0)
  | extendLast _ | deleteLast => writer.closed = true ∨ writer.buffer = none
  | close => False

end Operation

/-! ### Ledgers -/

/-- The lines of a writer: those that are settled and, while the writer is open, the one that is
not. -/
inductive Ledger where
  | opened (settled : List Text) (last : Option Text)
  | closed (settled : List Text)
  deriving DecidableEq, Repr

namespace Ledger

/-- All lines. -/
def lines : Ledger → List Text
  | opened settled last => settled ++ last.toList
  | closed settled => settled

/-- The lines that can no longer change. -/
def settled : Ledger → List Text
  | opened settled _ | closed settled => settled

/-- What an operation does to the lines, or why it is refused. -/
def apply (name : Text) : Ledger → Operation → Except Error Ledger
  | opened settled last, .append content level =>
      if content ≠ [] ∧ level < 0 then .error (.negativeIndent level)
      else .ok (opened (settled ++ last.toList) (some (indented level content)))
  | opened settled (some line), .extendLast suffix => .ok (opened settled (some (line ++ suffix)))
  | opened _ none, .extendLast _ => .error (.nothingToExtend name)
  | opened settled (some _), .deleteLast => .ok (opened settled none)
  | opened _ none, .deleteLast => .error (.nothingToDelete name)
  | opened settled last, .close => .ok (closed (settled ++ last.toList))
  | closed settled, .close => .ok (closed settled)
  | closed _, _ => .error (.closedWriter name)

/-- The ledger after an operation; one that is refused changes nothing. -/
def next (name : Text) (ledger : Ledger) (operation : Operation) : Ledger :=
  match ledger.apply name operation with
  | .ok next => next
  | .error _ => ledger

/-- The writer with these lines: the settled ones are sent, the last one is held back. -/
def writer (name : Text) : Ledger → Writer
  | opened settled last => { name, sent := settled.flatMap sentLine, buffer := last }
  | closed settled => { name, sent := settled.flatMap sentLine, closed := true }

end Ledger

/-! ### The writer follows -/

variable {name : Text}

theorem swap_writer (settled : List Text) (last next : Option Text) :
    ((Ledger.opened settled last).writer name).swap next
      = (Ledger.opened (settled ++ last.toList) next).writer name := by
  cases last with
  | none => simp [swap, Ledger.writer]
  | some line => simp [swap, Ledger.writer]

theorem close_writer (settled : List Text) (last : Option Text) :
    ((Ledger.opened settled last).writer name).close
      = (Ledger.closed (settled ++ last.toList)).writer name := by
  have still : ¬ ((Ledger.opened settled last).writer name).closed = true := Bool.false_ne_true
  rw [close, if_neg still, swap_writer]
  rfl

/-- An open writer appends a line that is empty or has a level. -/
theorem runFrom_append {writer : Writer} (hw : writer.closed = false) {content : Text} {level : Int}
    (h : content = [] ∨ 0 ≤ level) :
    runFrom (Writing.append content level) writer
      = (.ok (), writer.swap (some (indented level content))) := by
  rcases h with rfl | h
  · rw [Writing.append, Writing.runFrom_openWriter_bind hw]
    rfl
  · exact Writing.appends_append content h writer hw

theorem runFrom_append_of_negative {writer : Writer} (hw : writer.closed = false) {content : Text}
    {level : Int} (said : content ≠ []) (h : level < 0) :
    runFrom (Writing.append content level) writer = (.error (.negativeIndent level), writer) := by
  rw [Writing.append, Writing.runFrom_openWriter_bind hw, if_neg said, indentation, if_pos h]
  rfl

/-- The writer does with an operation what its ledger says. -/
theorem runFrom_operation (ledger : Ledger) (operation : Operation) :
    runFrom operation.run (ledger.writer name) = match ledger.apply name operation with
      | .ok next => (.ok (), next.writer name)
      | .error error => (.error error, ledger.writer name) := by
  cases ledger with
  | closed settled => cases operation <;> rfl
  | opened settled last =>
      cases operation with
      | append content level =>
          rw [Operation.run, Ledger.apply]
          by_cases refused : content ≠ [] ∧ level < 0
          · rw [runFrom_append_of_negative rfl refused.1 refused.2, if_pos refused]
          · rw [runFrom_append rfl (by simpa [Classical.or_iff_not_imp_left] using refused),
              swap_writer, if_neg refused]
      | extendLast suffix => cases last <;> rfl
      | deleteLast => cases last <;> rfl
      | close => exact congrArg (Prod.mk (Except.ok ())) (close_writer settled last)

theorem left_of_operation (ledger : Ledger) (operation : Operation) :
    (runFrom operation.run (ledger.writer name)).2 = (ledger.next name operation).writer name := by
  rw [runFrom_operation, Ledger.next]
  cases ledger.apply name operation <;> rfl

/-- Over a whole run the writer has the lines of its ledger. -/
theorem after_operations (ledger : Ledger) (operations : List Operation) :
    after Operation.run (ledger.writer name) operations
      = (operations.foldl (Ledger.next name) ledger).writer name :=
  Stateful.after_follows left_of_operation ledger operations

/-- A ledger refuses exactly what its writer refuses. -/
theorem apply_eq_error_iff (ledger : Ledger) (operation : Operation) :
    (∃ error, ledger.apply name operation = .error error) ↔
      operation.Refused (ledger.writer name) := by
  cases ledger with
  | closed settled => cases operation <;> simp [Ledger.apply, Operation.Refused, Ledger.writer]
  | opened settled last =>
      cases operation with
      | append content level =>
          by_cases refused : content ≠ [] ∧ level < 0
          · simp [Ledger.apply, Operation.Refused, Ledger.writer, refused]
          · simp [Ledger.apply, Operation.Refused, Ledger.writer, refused]
      | extendLast suffix => cases last <;> simp [Ledger.apply, Operation.Refused, Ledger.writer]
      | deleteLast => cases last <;> simp [Ledger.apply, Operation.Refused, Ledger.writer]
      | close => simp [Ledger.apply, Operation.Refused]

theorem apply_append {settled : List Text} {last : Option Text} {content : Text} {level : Int}
    (h : ¬ (content ≠ [] ∧ level < 0)) :
    (Ledger.opened settled last).apply name (.append content level)
      = .ok (.opened (settled ++ last.toList) (some (indented level content))) := if_neg h

theorem apply_append_of_negative {settled : List Text} {last : Option Text} {content : Text}
    {level : Int} (h : content ≠ [] ∧ level < 0) :
    (Ledger.opened settled last).apply name (.append content level)
      = .error (.negativeIndent level) := if_pos h

theorem next_of_closed (settled : List Text) (operation : Operation) :
    (Ledger.closed settled).next name operation = .closed settled := by
  cases operation <;> rfl

theorem next_of_refused {ledger : Ledger} {operation : Operation} {error : Error}
    (h : ledger.apply name operation = .error error) : ledger.next name operation = ledger := by
  rw [Ledger.next, h]

/-- Settled lines stay settled, and more come behind them. -/
theorem settled_isPrefixOf_next (ledger : Ledger) (operation : Operation) :
    ledger.settled <+: (ledger.next name operation).settled := by
  cases ledger with
  | closed settled => simp only [next_of_closed, List.prefix_rfl]
  | opened settled last =>
      cases operation with
      | append content level =>
          by_cases refused : content ≠ [] ∧ level < 0
          · simp only [next_of_refused (apply_append_of_negative refused), List.prefix_rfl]
          · rw [Ledger.next, apply_append refused]
            exact List.prefix_append settled last.toList
      | extendLast suffix => cases last <;> exact List.prefix_rfl
      | deleteLast => cases last <;> exact List.prefix_rfl
      | close => exact List.prefix_append settled last.toList

theorem sent_writer (ledger : Ledger) :
    (ledger.writer name).sent = ledger.settled.flatMap sentLine := by
  cases ledger <;> rfl

theorem settled_isPrefixOf_after (ledger : Ledger) (operations : List Operation) :
    ledger.settled <+: (operations.foldl (Ledger.next name) ledger).settled := by
  induction operations generalizing ledger with
  | nil => exact List.prefix_rfl
  | cons operation rest ih =>
      exact (settled_isPrefixOf_next ledger operation).trans (ih (ledger.next name operation))

/-- What is sent stays sent, and more comes behind it. -/
theorem sent_isPrefixOf_after (ledger : Ledger) (operations : List Operation) :
    (ledger.writer name).sent <+: (after Operation.run (ledger.writer name) operations).sent := by
  obtain ⟨more, grown⟩ := settled_isPrefixOf_after ledger operations
  rw [after_operations, sent_writer, sent_writer, ← grown, List.flatMap_append]
  exact List.prefix_append _ _

/-- The writer fails exactly where it refuses. -/
theorem runFrom_eq_error_iff (ledger : Ledger) (operation : Operation) :
    (∃ error, (runFrom operation.run (ledger.writer name)).1 = .error error) ↔
      operation.Refused (ledger.writer name) := by
  rw [← apply_eq_error_iff, runFrom_operation]
  cases ledger.apply name operation <;> simp

/-- Closed, a writer has sent all lines. -/
theorem sent_of_close (ledger : Ledger) :
    (runFrom Writing.close (ledger.writer name)).2.sent = ledger.lines.flatMap sentLine := by
  cases ledger with
  | opened settled last =>
      exact (congrArg Writer.sent (close_writer settled last)).trans (sent_writer _)
  | closed settled => rfl

/-! ### The lines that are kept -/

/-- What becomes of the last line while these operations follow: it is extended, taken back or, when
a line or the end comes behind it, left as it is. -/
def fate (line : Text) : List Operation → Option Text
  | .extendLast suffix :: rest => fate (line ++ suffix) rest
  | .deleteLast :: _ => none
  | _ => some line

/-- The lines that operations append, extended where they are extended, without those that are
taken back. -/
def kept : List Operation → List Text
  | [] => []
  | .append content level :: rest => (fate (indented level content) rest).toList ++ kept rest
  | _ :: rest => kept rest

/-- The operations of a row that are not refused when their turn comes. -/
def accepted (name : Text) (ledger : Ledger) : List Operation → List Operation
  | [] => []
  | operation :: rest =>
      match ledger.apply name operation with
      | .ok next => operation :: accepted name next rest
      | .error _ => accepted name ledger rest

theorem kept_accepted_of_closed (settled : List Text) (operations : List Operation) :
    kept (accepted name (.closed settled) operations) = [] := by
  induction operations with
  | nil => rfl
  | cons operation rest ih => cases operation <;> exact ih

theorem foldl_next_of_closed (settled : List Text) (operations : List Operation) :
    operations.foldl (Ledger.next name) (.closed settled) = .closed settled := by
  induction operations with
  | nil => rfl
  | cons operation rest ih => rw [List.foldl_cons, next_of_closed, ih]

/-- The lines of a ledger after a run are those that were settled before, the last one as the run
leaves it, and those that the run keeps. -/
theorem lines_after (settled : List Text) (last : Option Text) (operations : List Operation) :
    (operations.foldl (Ledger.next name) (.opened settled last)).lines
      = settled ++ (last.bind (fate · (accepted name (.opened settled last) operations))).toList
        ++ kept (accepted name (.opened settled last) operations) := by
  induction operations generalizing settled last with
  | nil => cases last <;> simp [Ledger.lines, accepted, kept, fate]
  | cons operation rest ih =>
      cases operation with
      | append content level =>
          by_cases refused : content ≠ [] ∧ level < 0
          · rw [List.foldl_cons, next_of_refused (apply_append_of_negative refused), accepted,
              apply_append_of_negative refused]
            exact ih settled last
          · rw [List.foldl_cons, Ledger.next, accepted, apply_append refused]
            cases last <;> simp [ih, fate, kept]
      | extendLast suffix =>
          cases last with
          | none => exact ih settled none
          | some line => exact ih settled (some (line ++ suffix))
      | deleteLast =>
          cases last with
          | none => exact ih settled none
          | some line => exact ih settled none
      | close =>
          have stopped : kept (accepted name (.closed (settled ++ last.toList)) rest) = [] :=
            kept_accepted_of_closed _ rest
          refine (congrArg Ledger.lines (foldl_next_of_closed _ rest)).trans ?_
          cases last <;> simp_all [Ledger.lines, Ledger.apply, accepted, kept, fate]

/-! ### Runs -/

/-- **A writer follows its ledger.**  After any operations on a new writer, refused ones among
them, it has sent the settled lines of the ledger and holds back the last one; the next operation
does what the ledger says, or is refused with its error and leaves the writer as it is.  What was
sent is never changed, and once the writer is closed it has sent the lines that were appended and
not taken back. -/
theorem writer_follows_ledger (name : Text) (operations : List Operation) :
    let writer := after Operation.run { name } operations
    let ledger := operations.foldl (Ledger.next name) (.opened [] none)
    let closed := (runFrom Writing.close writer).2
    writer = ledger.writer name ∧ writer.sent = ledger.settled.flatMap sentLine ∧
      (∀ operation : Operation, runFrom operation.run writer = match ledger.apply name operation with
        | .ok next => (.ok (), next.writer name)
        | .error error => (.error error, writer)) ∧
      (∀ operation : Operation, (∃ error, (runFrom operation.run writer).1 = .error error) ↔
        operation.Refused writer) ∧
      (∀ more, writer.sent <+: (after Operation.run writer more).sent) ∧
      closed.state = .closed ∧ runFrom Writing.close closed = (.ok (), closed) ∧
      closed.sent = (kept (accepted name (.opened [] none) operations)).flatMap sentLine := by
  intro writer ledger closed
  have follows : writer = ledger.writer name := after_operations (.opened [] none) operations
  have lines : ledger.lines = kept (accepted name (.opened [] none) operations) :=
    (lines_after [] none operations).trans (List.nil_append _)
  rw [← lines, show closed = (runFrom Writing.close (ledger.writer name)).2 by rw [← follows],
    follows]
  refine ⟨rfl, sent_writer ledger, runFrom_operation ledger, runFrom_eq_error_iff ledger,
    sent_isPrefixOf_after ledger, ?_, ?_, sent_of_close ledger⟩
  · exact if_pos (close_closed _)
  · exact congrArg (Prod.mk (Except.ok ())) (close_close _)

/-- A line refused for its level, one taken back once and not twice, and one that comes too late. -/
example :
    (after Operation.run {} [.append "a" 1, .append "b" (-1), .extendLast "; ", .append [] 3,
      .append "c" 0, .deleteLast, .deleteLast, .close, .append "d" 0]).sent = "    a;\n\n" := by
  decide

end Classwright.Writer
