import Classwright.Indent
import Classwright.Text.Blank

/-!
# Writer — output that holds one line back

A writer sends each line when the next one comes. Until then the newest line can be extended or
taken back, so that a separator can be written after every member and the last one cancelled.

* `Writer`: what was sent, the buffered line, and whether the writer is closed.
* `Writer.State`: empty, pending or closed.
* `Writing`: a computation on a writer; a failure keeps what was written.
* `Writing.append`, `Writing.extendLast`, `Writing.deleteLast`, `Writing.close`: the operations.
-/

namespace Classwright

/-- The state of an output. -/
structure Writer where
  /-- The name of the output in messages. -/
  name : Text := "<stream>"
  /-- The text sent so far. -/
  sent : Text := []
  /-- The line held back, if any. -/
  buffer : Option Text := none
  closed : Bool := false
  deriving DecidableEq, Repr

namespace Writer

/-- What a writer can do next. -/
inductive State where
  | empty
  | pending
  | closed
  deriving DecidableEq, Repr

/-- The state of a writer. -/
def state (writer : Writer) : State :=
  if writer.closed then .closed else if writer.buffer.isSome then .pending else .empty

/-- A line as it is sent: without trailing blanks, with a line feed. -/
def sentLine (line : Text) : Text := Text.trimEnd line ++ "\n"

/-- Sends the buffered line, if any, and buffers another or none. -/
def swap (writer : Writer) (next : Option Text) : Writer :=
  match writer.buffer with
  | none => { writer with buffer := next }
  | some line => { writer with sent := writer.sent ++ sentLine line, buffer := next }

/-- The writer closed, with its buffered line sent. -/
def close (writer : Writer) : Writer :=
  if writer.closed then writer else { writer.swap none with closed := true }

theorem swap_of_buffer_none {writer : Writer} (h : writer.buffer = none) (next : Option Text) :
    writer.swap next = { writer with buffer := next } := by
  simp [swap, h]

theorem swap_of_buffer_some {writer : Writer} {line : Text} (h : writer.buffer = some line)
    (next : Option Text) :
    writer.swap next = { writer with sent := writer.sent ++ sentLine line, buffer := next } := by
  simp [swap, h]

@[simp] theorem swap_buffer (writer : Writer) (next : Option Text) :
    (writer.swap next).buffer = next := by
  unfold swap; split <;> rfl

@[simp] theorem swap_closed (writer : Writer) (next : Option Text) :
    (writer.swap next).closed = writer.closed := by
  unfold swap; split <;> rfl

@[simp] theorem close_closed (writer : Writer) : writer.close.closed = true := by
  unfold close; split
  · assumption
  · rfl

@[simp] theorem close_close (writer : Writer) : writer.close.close = writer.close := by
  rw [close, if_pos (close_closed writer)]

end Writer

/-! ### Operations -/

/-- A computation on a writer; a failure keeps what was written. -/
abbrev Writing := ExceptT Error (StateM Writer)

namespace Writing

/-- The writer, which must not be closed. -/
def openWriter : Writing Writer := do
  let writer ← get
  if writer.closed then throw (.closedWriter writer.name)
  return writer

/-- Appends a line at a level of indentation; an empty line takes no indentation. -/
def append (content : Text) (level : Int := 0) : Writing Unit := do
  let writer ← openWriter
  if content = [] then set (writer.swap (some []))
  else
    match indentation level with
    | .error e => throw e
    | .ok indent => set (writer.swap (some (indent ++ content)))

/-- Appends lines that carry their own indentation. -/
def appendAll : List Text → Writing Unit
  | [] => pure ()
  | line :: rest => do
      append line
      appendAll rest

/-- Extends the buffered line. -/
def extendLast (suffix : Text) : Writing Unit := do
  let writer ← openWriter
  match writer.buffer with
  | none => throw (.nothingToExtend writer.name)
  | some line => set { writer with buffer := some (line ++ suffix) }

/-- Takes the buffered line back. -/
def deleteLast : Writing Unit := do
  let writer ← openWriter
  match writer.buffer with
  | none => throw (.nothingToDelete writer.name)
  | some _ => set { writer with buffer := none }

/-- Closes the writer; closing it once more changes nothing. -/
def close : Writing Unit := modify Writer.close

/-- The result or the failure of a computation that writes nothing. -/
def ofExcept {α : Type} : Except Error α → Writing α
  | .ok a => pure a
  | .error e => throw e

/-- A computation from a writer: its result, and the writer it leaves. -/
def runFrom {α : Type} (writing : Writing α) (writer : Writer) : Except Error α × Writer :=
  writing writer

end Writing

end Classwright
