import Classwright.Proofs.Stateful
import Classwright.Writer
import Mathlib.Data.List.Forall2

/-!
# Writer — computations that append lines

Most computations on a writer only append lines: what they leave is the writer they began with
and their lines behind it, whatever line was buffered before.  So they are described by lists of
lines, and a sequence of them by the concatenation.

* `Writer.push`: a writer with more lines appended.
* `Writer.given`: the text of a writer, the line it holds back included.
* `Writing.Appends`: a computation that appends lines and cannot fail on an open writer.
* `Writing.Decides`: a computation that appends the lines of a result, or fails with its failure
  and leaves the writer as it was.
* `Writing.Yields`: the same without a word on the writer that a failure leaves.
* `Writing.inOrder`, `Writing.allInOrder`: the lines of several results, one after the other.
* `Writing.Appends.extendLast`, `Writing.runFrom_deleteLast_append`: the last line extended, and
  taken back.
-/

namespace Classwright

namespace Writer

/-- The writer with more lines appended. -/
def push (writer : Writer) (lines : List Text) : Writer :=
  lines.foldl (fun w line => w.swap (some line)) writer

@[simp] theorem push_nil (writer : Writer) : writer.push [] = writer := rfl

theorem push_cons (writer : Writer) (line : Text) (lines : List Text) :
    writer.push (line :: lines) = (writer.swap (some line)).push lines := rfl

@[simp] theorem push_push (writer : Writer) (first second : List Text) :
    (writer.push first).push second = writer.push (first ++ second) :=
  (List.foldl_append ..).symm

@[simp] theorem push_closed (writer : Writer) (lines : List Text) :
    (writer.push lines).closed = writer.closed := by
  induction lines generalizing writer with
  | nil => rfl
  | cons line lines ih => rw [push_cons, ih, swap_closed]

theorem push_concat (writer : Writer) (lines : List Text) (line : Text) :
    writer.push (lines ++ [line]) = (writer.push lines).swap (some line) := by
  rw [← push_push]
  rfl

@[simp] theorem push_concat_buffer (writer : Writer) (lines : List Text) (line : Text) :
    (writer.push (lines ++ [line])).buffer = some line := by
  rw [push_concat, swap_buffer]

/-! ### All text of a writer -/

/-- The text that a writer was given: what it has sent, and the line it holds back. -/
def given (writer : Writer) : Text := writer.sent ++ writer.buffer.toList.flatMap sentLine

theorem swap_eq (writer : Writer) (next : Option Text) :
    writer.swap next = { writer with sent := writer.given, buffer := next } := by
  unfold given
  cases hb : writer.buffer with
  | none => simp [swap_of_buffer_none hb]
  | some line => simp [swap_of_buffer_some hb]

theorem given_swap (writer : Writer) (line : Text) :
    (writer.swap (some line)).given = writer.given ++ sentLine line := by
  simp [swap_eq, given]

theorem given_push (writer : Writer) (lines : List Text) :
    (writer.push lines).given = writer.given ++ lines.flatMap sentLine := by
  induction lines generalizing writer with
  | nil => simp
  | cons line lines ih => simp [push_cons, ih, given_swap]

/-- Lines and one more behind them: that one is held back, all that came before it is sent. -/
theorem push_concat_eq (writer : Writer) (lines : List Text) (line : Text) :
    writer.push (lines ++ [line])
      = { writer with sent := writer.given ++ lines.flatMap sentLine, buffer := some line } := by
  induction lines generalizing writer with
  | nil => simp [push_cons, swap_eq]
  | cons first lines ih =>
      rw [List.cons_append, push_cons, ih, given_swap, swap_eq, List.flatMap_cons,
        List.append_assoc]

/-- What a writer will have sent of the lines appended to it: all of them, behind those it was
given before. -/
theorem close_push_sent {writer : Writer} (h : writer.closed = false) (lines : List Text) :
    (writer.push lines).close.sent
      = writer.sent ++ (writer.buffer.toList ++ lines).flatMap sentLine := by
  have still : ¬ (writer.push lines).closed = true := by simp [h]
  rw [close, if_neg still, swap_eq, List.flatMap_append, ← List.append_assoc]
  exact given_push writer lines

end Writer

namespace Writing

/-! ### Runs -/

section Runs

variable {α β : Type} {writing : Writing α} {next : α → Writing β} {start left : Writer}

theorem runFrom_bind_ok {a : α} (h : runFrom writing start = (.ok a, left)) :
    runFrom (writing >>= next) start = runFrom (next a) left :=
  Stateful.bind_of_ok h

theorem runFrom_bind_error {error : Error} (h : runFrom writing start = (.error error, left)) :
    runFrom (writing >>= next) start = (.error error, left) :=
  Stateful.bind_of_error h

theorem runFrom_bind_of_fst_error {error : Error} (h : (runFrom writing start).1 = .error error) :
    (runFrom (writing >>= next) start).1 = .error error := by
  have run : runFrom writing start = (.error error, (runFrom writing start).2) := Prod.ext h rfl
  rw [runFrom_bind_error run]

theorem runFrom_openWriter {writer : Writer} (h : writer.closed = false) :
    runFrom openWriter writer = (.ok writer, writer) := by
  obtain ⟨name, sent, buffer, closed⟩ := writer
  cases h
  rfl

theorem runFrom_openWriter_bind {next : Writer → Writing β} {writer : Writer}
    (h : writer.closed = false) :
    runFrom (openWriter >>= next) writer = runFrom (next writer) writer :=
  runFrom_bind_ok (runFrom_openWriter h)

end Runs

/-! ### Appending -/

/-- The computation appends these lines to any open writer. -/
def Appends (writing : Writing Unit) (lines : List Text) : Prop :=
  ∀ writer : Writer, writer.closed = false →
    runFrom writing writer = (.ok (), writer.push lines)

/-- The computation appends the lines of the result to any open writer; if the result is a
failure, it fails with it and leaves the writer as it was. -/
def Decides (writing : Writing Unit) (result : Except Error (List Text)) : Prop :=
  ∀ writer : Writer, writer.closed = false →
    runFrom writing writer = match result with
      | .ok lines => (.ok (), writer.push lines)
      | .error error => (.error error, writer)

/-- The computation appends the lines of the result to any open writer, or fails with its
failure. -/
def Yields (writing : Writing Unit) (result : Except Error (List Text)) : Prop :=
  ∀ writer : Writer, writer.closed = false → match result with
    | .ok lines => runFrom writing writer = (.ok (), writer.push lines)
    | .error error => (runFrom writing writer).1 = .error error

theorem Decides.yields {writing : Writing Unit} {result : Except Error (List Text)}
    (h : Decides writing result) : Yields writing result := by
  intro writer hw
  have run := h writer hw
  cases result with
  | ok lines => exact run
  | error error => rw [run]

theorem Appends.yields {writing : Writing Unit} {lines : List Text} (h : Appends writing lines) :
    Yields writing (.ok lines) := h

/-! ### Single lines -/

/-- A line at a level of indentation; an empty line takes none. -/
def indented (level : Int) (content : Text) : Text :=
  if content = [] then [] else List.replicate (Indent.width * level.toNat) ' ' ++ content

@[simp] theorem indented_zero (content : Text) : indented 0 content = content := by
  unfold indented
  split
  next h => exact h.symm
  next => rfl

theorem indented_append {content : Text} (level : Int) (suffix : Text) (h : content ≠ []) :
    indented level (content ++ suffix) = indented level content ++ suffix := by
  rw [indented, indented, if_neg h, if_neg (by simp [h]), List.append_assoc]

theorem appends_append {level : Int} (content : Text) (h : 0 ≤ level) :
    Appends (append content level) [indented level content] := by
  intro writer hw
  rw [append, runFrom_openWriter_bind hw]
  by_cases hc : content = []
  · simp only [hc, if_true, indented]
    rfl
  · have hi : indentation level = .ok (List.replicate (Indent.width * level.toNat) ' ') :=
      if_neg (Int.not_lt.mpr h)
    simp only [hc, if_false, indented, hi]
    rfl

theorem appends_line (content : Text) : Appends (append content) [content] := by
  have h := appends_append content (Int.le_refl 0)
  rwa [indented_zero] at h

/-- Appending a line and then extending it appends the extended line. -/
theorem Appends.extendLast {writing : Writing Unit} {line : Text} (h : Appends writing [line])
    (suffix : Text) : Appends (writing >>= fun _ => extendLast suffix) [line ++ suffix] := by
  intro writer hw
  have buffered : (writer.push [line]).buffer = some line := writer.swap_buffer _
  rw [runFrom_bind_ok (h writer hw), Writing.extendLast,
    runFrom_openWriter_bind (by simpa using hw), buffered]
  simp only [Writer.push_cons, Writer.push_nil]
  -- Only the buffered line differs, and the next `swap` would have replaced it anyway.
  unfold Writer.swap
  split <;> rfl

/-! ### Sequences -/

theorem appends_pure : Appends (pure ()) [] := fun _ _ => rfl

theorem Appends.bind {first second : Writing Unit} {lines more : List Text}
    (h₁ : Appends first lines) (h₂ : Appends second more) :
    Appends (first >>= fun _ => second) (lines ++ more) := by
  intro writer hw
  rw [runFrom_bind_ok (h₁ writer hw), h₂ _ (by simpa using hw), Writer.push_push]

theorem Appends.forM {α : Type} {f : α → Writing Unit} {g : α → List Text} {xs : List α}
    (h : ∀ x ∈ xs, Appends (f x) (g x)) : Appends (xs.forM f) (xs.flatMap g) := by
  induction xs with
  | nil => exact appends_pure
  | cons x xs ih =>
      rw [List.flatMap_cons]
      exact (h x List.mem_cons_self).bind (ih fun y hy => h y (List.mem_cons_of_mem _ hy))

/-- A line for each element. -/
theorem Appends.forM_line {α : Type} {f : α → Writing Unit} {g : α → Text} {xs : List α}
    (h : ∀ x ∈ xs, Appends (f x) [g x]) : Appends (xs.forM f) (xs.map g) := by
  rw [List.map_eq_flatMap]
  exact Appends.forM h

theorem appends_appendAll (lines : List Text) : Appends (appendAll lines) lines := by
  induction lines with
  | nil => exact appends_pure
  | cons line lines ih => exact (appends_line line).bind ih

/-- The lines of a result that was there before anything was written. -/
theorem decides_ofExcept (result : Except Error (List Text)) :
    Decides (ofExcept result >>= appendAll) result := by
  intro writer hw
  cases result with
  | ok lines => exact appends_appendAll lines writer hw
  | error error => rfl

/-- A result that is decided, with lines behind it that cannot fail. -/
theorem Decides.bind_appends {first second : Writing Unit} {result : Except Error (List Text)}
    {more : List Text} (h₁ : Decides first result)
    (h₂ : ∀ lines, result = .ok lines → Appends second more) :
    Decides (first >>= fun _ => second) (result.map (· ++ more)) := by
  intro writer hw
  have run := h₁ writer hw
  cases result with
  | error error => exact runFrom_bind_error run
  | ok lines =>
      rw [runFrom_bind_ok run, h₂ lines rfl _ (by simpa using hw), Writer.push_push]
      rfl

theorem exists_map_eq_ok {result : Except Error (List Text)} {f : List Text → List Text} :
    (∃ lines, result.map f = .ok lines) ↔ ∃ lines, result = .ok lines := by
  cases result with
  | error error => constructor <;> rintro ⟨lines, h⟩ <;> cases h
  | ok lines => exact ⟨fun _ => ⟨lines, rfl⟩, fun _ => ⟨f lines, rfl⟩⟩

theorem map_eq_ok_iff {result : Except Error (List Text)} {f : List Text → List Text}
    {lines : List Text} :
    result.map f = .ok lines ↔ ∃ before, result = .ok before ∧ lines = f before := by
  cases result with
  | error error => simp [Except.map]
  | ok before => simp [Except.map, eq_comm]

/-- Two results one after the other. -/
def inOrder (first second : Except Error (List Text)) : Except Error (List Text) := do
  return (← first) ++ (← second)

@[simp] theorem inOrder_ok (lines : List Text) (result : Except Error (List Text)) :
    inOrder (.ok lines) result = result.map (lines ++ ·) := by
  cases result <;> rfl

@[simp] theorem inOrder_error (error : Error) (result : Except Error (List Text)) :
    inOrder (.error error) result = .error error := rfl

/-- A second result keeps the choice between all lines and none, if it cannot fail behind lines of
the first. -/
theorem Decides.bind {first second : Writing Unit} {result more : Except Error (List Text)}
    (h₁ : Decides first result) (h₂ : Decides second more)
    (safe : ∀ lines, result = .ok lines → lines = [] ∨ ∃ further, more = .ok further) :
    Decides (first >>= fun _ => second) (inOrder result more) := by
  intro writer hw
  have run₁ := h₁ writer hw
  cases result with
  | error error => exact runFrom_bind_error run₁
  | ok lines =>
      have run₂ := h₂ (writer.push lines) (by simpa using hw)
      rw [runFrom_bind_ok run₁, run₂]
      -- A failure here leaves the lines of the first behind, so there must be none of them.
      rcases safe lines rfl with rfl | ⟨further, rfl⟩
      · cases more <;> rfl
      · simp only [inOrder_ok, Except.map, Writer.push_push]

/-- A part that is left out under a condition. -/
theorem Decides.onlyIf {p : Prop} [Decidable p] {writing : Writing Unit}
    {result : Except Error (List Text)} (h : Decides writing result) :
    Decides (if p then writing else pure ()) (if p then result else .ok []) := by
  by_cases hp : p
  · rw [if_pos hp, if_pos hp]
    exact h
  · rw [if_neg hp, if_neg hp]
    exact appends_pure

theorem inOrder_eq_ok_iff {first second : Except Error (List Text)} {lines : List Text} :
    inOrder first second = .ok lines ↔
      ∃ before behind, first = .ok before ∧ second = .ok behind ∧ lines = before ++ behind := by
  cases first with
  | error error => simp
  | ok before => cases second <;> simp [Except.map, eq_comm]

theorem Yields.bind {first second : Writing Unit} {result more : Except Error (List Text)}
    (h₁ : Yields first result) (h₂ : Yields second more) :
    Yields (first >>= fun _ => second) (inOrder result more) := by
  intro writer hw
  have run₁ := h₁ writer hw
  cases result with
  | error error => exact runFrom_bind_of_fst_error run₁
  | ok lines =>
      have run₂ := h₂ (writer.push lines) (by simpa using hw)
      cases more with
      | error error => simpa only [inOrder_ok, Except.map, runFrom_bind_ok run₁] using run₂
      | ok more =>
          simpa only [inOrder_ok, Except.map, runFrom_bind_ok run₁, Writer.push_push] using run₂

/-- A result with a computation behind it whose effect depends on the lines. -/
theorem Yields.bind_run {first second : Writing Unit} {result : Except Error (List Text)}
    {f : List Text → List Text} (h : Yields first result)
    (run : ∀ lines, result = .ok lines → ∀ writer : Writer, writer.closed = false →
      runFrom second (writer.push lines) = (.ok (), writer.push (f lines))) :
    Yields (first >>= fun _ => second) (result.map f) := by
  intro writer hw
  have begun := h writer hw
  cases result with
  | error error => exact runFrom_bind_of_fst_error begun
  | ok lines => exact (runFrom_bind_ok begun).trans (run lines rfl writer hw)

/-- The lines of several results, one after the other. -/
def allInOrder (results : List (Except Error (List Text))) : Except Error (List Text) :=
  results.foldr inOrder (.ok [])

theorem exists_ok (lines : List Text) :
    ∃ found, (.ok lines : Except Error (List Text)) = .ok found := ⟨lines, rfl⟩

theorem exists_inOrder_eq_ok {first second : Except Error (List Text)} :
    (∃ lines, inOrder first second = .ok lines) ↔
      (∃ lines, first = .ok lines) ∧ ∃ lines, second = .ok lines := by
  cases first <;> cases second <;> simp [Except.map]

theorem exists_allInOrder_eq_ok {results : List (Except Error (List Text))} :
    (∃ lines, allInOrder results = .ok lines) ↔
      ∀ result ∈ results, ∃ lines, result = .ok lines := by
  induction results with
  | nil => exact ⟨fun _ => by simp, fun _ => exists_ok []⟩
  | cons result results ih =>
      rw [List.forall_mem_cons, ← ih]
      exact exists_inOrder_eq_ok

theorem inOrder_assoc (first second third : Except Error (List Text)) :
    inOrder (inOrder first second) third = inOrder first (inOrder second third) := by
  cases first <;> cases second <;> cases third <;> simp [Except.map]

theorem inOrder_nil (result : Except Error (List Text)) : inOrder result (.ok []) = result := by
  cases result <;> simp [Except.map]

theorem nil_inOrder (result : Except Error (List Text)) : inOrder (.ok []) result = result := by
  cases result <;> rfl

@[simp] theorem allInOrder_nil : allInOrder [] = .ok [] := rfl

@[simp] theorem allInOrder_cons (result : Except Error (List Text))
    (results : List (Except Error (List Text))) :
    allInOrder (result :: results) = inOrder result (allInOrder results) := rfl

theorem allInOrder_singleton (result : Except Error (List Text)) : allInOrder [result] = result :=
  inOrder_nil result

theorem allInOrder_append (first second : List (Except Error (List Text))) :
    allInOrder (first ++ second) = inOrder (allInOrder first) (allInOrder second) := by
  induction first with
  | nil => exact (nil_inOrder _).symm
  | cons result first ih => rw [List.cons_append, allInOrder_cons, ih, ← inOrder_assoc]; rfl

theorem allInOrder_flatMap {α : Type} (f : α → List (Except Error (List Text))) (xs : List α) :
    allInOrder (xs.flatMap f) = allInOrder (xs.map fun x => allInOrder (f x)) := by
  induction xs with
  | nil => rfl
  | cons x xs ih => rw [List.flatMap_cons, allInOrder_append, ih]; rfl

/-- The lines of several results are those of each, one group behind another. -/
theorem allInOrder_eq_ok_iff {results : List (Except Error (List Text))} {lines : List Text} :
    allInOrder results = .ok lines ↔
      ∃ groups, List.Forall₂ (fun result group => result = .ok group) results groups ∧
        lines = groups.flatten := by
  induction results generalizing lines with
  | nil => simp [eq_comm]
  | cons result results ih =>
      rw [allInOrder_cons, inOrder_eq_ok_iff]
      constructor
      · rintro ⟨group, behind, first, rest, rfl⟩
        obtain ⟨groups, found, rfl⟩ := ih.mp rest
        exact ⟨group :: groups, .cons first found, rfl⟩
      · rintro ⟨groups, found, rfl⟩
        cases found with
        | cons first rest => exact ⟨_, _, first, ih.mpr ⟨_, rest, rfl⟩, rfl⟩

theorem Yields.forM {α : Type} {f : α → Writing Unit} {g : α → Except Error (List Text)}
    {xs : List α} (h : ∀ x ∈ xs, Yields (f x) (g x)) :
    Yields (xs.forM f) (allInOrder (xs.map g)) := by
  induction xs with
  | nil => exact appends_pure.yields
  | cons x xs ih =>
      exact (h x List.mem_cons_self).bind (ih fun y hy => h y (List.mem_cons_of_mem _ hy))

/-! ### The last line taken back -/

/-- With the last line taken back, another line comes in its place. -/
theorem runFrom_deleteLast_append {writer : Writer} (hw : writer.closed = false) (lines : List Text)
    (last line : Text) :
    runFrom (deleteLast >>= fun _ => append line) (writer.push (lines ++ [last]))
      = (.ok (), writer.push (lines ++ [line])) := by
  have deleted : runFrom deleteLast (writer.push (lines ++ [last]))
      = (.ok (), { writer.push (lines ++ [last]) with buffer := none }) := by
    rw [deleteLast, runFrom_openWriter_bind (by simpa using hw), Writer.push_concat_buffer]
    rfl
  rw [runFrom_bind_ok deleted, appends_line line _ (by simpa using hw), Writer.push_cons,
    Writer.push_nil, Writer.swap_of_buffer_none rfl, Writer.push_concat, Writer.push_concat]
  -- Neither `swap` has more than the line it sends and the line it keeps.
  unfold Writer.swap
  split <;> rfl

end Writing

end Classwright
