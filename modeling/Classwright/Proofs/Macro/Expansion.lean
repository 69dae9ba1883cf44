import Classwright.Macro.Registry
import Classwright.Proofs.Action
import Classwright.Proofs.Macro.Call
import Classwright.Proofs.Outcome

/-!
# Macro — texts with calls

A text is written as plain parts without opening braces and calls between them.  Reading it for
expansion finds exactly these calls, so each stands for its template with its arguments filled in,
and everything else, what the calls stand for included, stays as it is.

* `Part`, `written`: the parts of a text, and the text they make.
* `pieces_written`: reading the text finds its parts again.
* `expandWith_written`: the text stands for what its parts stand for.
* `expand_written`: the same for a registry, with the outcome spelled out.
-/

namespace Classwright.Macro

open Text

/-- A part of a text. -/
inductive Part where
  | plain (t : Text) (opening_not_mem : '{' ∉ t)
  | call (c : Call)

/-- The text of a part. -/
def Part.written : Part → Text
  | .plain t _ => t
  | .call c => "\x7b\x7b" ++ (c.inside ++ "\x7d\x7d")

/-- The text that parts make. -/
def written (parts : List Part) : Text := parts.flatMap Part.written

/-! ### Finding the calls -/

/-- A seamless text reaches up to the braces that end it. -/
theorem closeCall?_of_seamless {t : Text} (h : Seamless t) (rest : Text) :
    closeCall? (t ++ '}' :: '}' :: rest) = some (t, rest) := by
  induction t with
  | nil => rfl
  | cons c t ih =>
      obtain ⟨newlines, chain, last⟩ := h
      obtain ⟨next, further⟩ := List.isChain_cons.mp chain
      have tail : Seamless t := by
        refine ⟨fun hm => newlines (List.mem_cons_of_mem _ hm), further, fun he => last ?_⟩
        rw [List.getLast?_cons, he]
        rfl
      have early : ∀ more, c = '}' → t ++ '}' :: '}' :: rest = '}' :: more → False := by
        rintro more rfl he
        cases t with
        | nil => exact last rfl
        | cons d t =>
            cases he
            exact next '}' rfl ⟨rfl, rfl⟩
      have feed : c ≠ '\n' := fun e => newlines (e ▸ List.mem_cons_self)
      rw [List.cons_append, closeCall?.eq_3 _ _ early, if_neg feed, ih tail]
      rfl

theorem callAt?_written (call : Call) (rest : Text) :
    callAt? ((Part.call call).written ++ rest) = some (call.inside, rest) := by
  have opened : after? "\x7b\x7b" ((Part.call call).written ++ rest)
      = some (call.inside ++ '}' :: '}' :: rest) := by
    rw [after?_eq_some_iff]
    simp [Part.written]
  rw [callAt?, opened]
  exact closeCall?_of_seamless (.inside call) rest

theorem callAt?_cons {c : Char} (h : c ≠ '{') (t : Text) : callAt? (c :: t) = none := by
  simp [callAt?, after?, Ne.symm h]

theorem pieces_of_callAt? {t inside rest : Text} (h : callAt? t = some (inside, rest)) :
    pieces t = .call inside :: pieces rest := by
  rw [pieces]
  split
  next found =>
    rw [h] at found
    cases found
    rfl
  next none =>
    rw [h] at none
    cases none

theorem pieces_cons {c : Char} (h : c ≠ '{') (t : Text) :
    pieces (c :: t) = .plain c :: pieces t := by
  rw [pieces]
  split
  next found =>
    rw [callAt?_cons h] at found
    cases found
  next => rfl

theorem pieces_append {t : Text} (h : '{' ∉ t) (rest : Text) :
    pieces (t ++ rest) = t.map .plain ++ pieces rest := by
  induction t with
  | nil => rfl
  | cons c t ih =>
      obtain ⟨first, further⟩ := not_or.mp (mt List.mem_cons.mpr h)
      rw [List.cons_append, pieces_cons (Ne.symm first), ih further]
      rfl

/-- The pieces of a part. -/
def Part.pieces : Part → List Piece
  | .plain t _ => t.map .plain
  | .call c => [.call c.inside]

/-- Reading a text finds its parts again. -/
theorem pieces_written (parts : List Part) : pieces (written parts) = parts.flatMap Part.pieces := by
  induction parts with
  | nil => simp [written, pieces, callAt?, after?]
  | cons part parts ih =>
      rw [written, List.flatMap_cons, List.flatMap_cons, ← written, ← ih]
      cases part with
      | plain t h => exact pieces_append h _
      | call call => exact pieces_of_callAt? (callAt?_written call _)

/-! ### What the parts stand for -/

/-- What a part stands for: plain text for itself, and a call for its template with its arguments,
if there is a template of its name. -/
def Part.meaning (template? : Text → Option Text) : Part → Except Error Text
  | .plain t _ => .ok t
  | .call c =>
      match template? c.name.text with
      | some template => .ok (substitute c.values template)
      | none => .error (.undefinedMacro c.name.text)

theorem expandCall_inside (template? : Text → Option Text) (call : Call) :
    expandCall template? call.inside = (Part.call call).meaning template? := by
  obtain ⟨c, cs, named⟩ := List.exists_cons_of_ne_nil call.name_ne_nil
  rw [expandCall, tokenise_inside, Part.meaning, named]
  rfl

theorem expandPieces_plain (template? : Text → Option Text) (t : Text) (rest : List Piece) :
    expandPieces template? (t.map .plain ++ rest)
      = (expandPieces template? rest).map (t ++ ·) := by
  induction t with
  | nil => cases h : expandPieces template? rest <;> simp [h, Except.map]
  | cons c t ih =>
      rw [List.map_cons, List.cons_append, expandPieces, ih]
      cases expandPieces template? rest <;> rfl

/-- A part in front of pieces puts what it stands for in front of what they stand for. -/
theorem expandPieces_part (template? : Text → Option Text) (part : Part) (rest : List Piece) :
    expandPieces template? (part.pieces ++ rest)
      = part.meaning template? >>= fun t => (expandPieces template? rest).map (t ++ ·) := by
  cases part with
  | plain t h => exact expandPieces_plain template? t rest
  | call call =>
      change expandPieces template? (.call call.inside :: rest) = _
      rw [expandPieces, expandCall_inside]
      cases (Part.call call).meaning template? with
      | error error => rfl
      | ok t => cases expandPieces template? rest <;> rfl

/-- A text stands for what its parts stand for, one after the other. -/
theorem expandWith_written (template? : Text → Option Text) (parts : List Part) :
    expandWith template? (written parts)
      = (parts.mapM (Part.meaning template?)).map List.flatten := by
  rw [expandWith, pieces_written]
  induction parts with
  | nil => rfl
  | cons part parts ih =>
      rw [List.flatMap_cons, expandPieces_part, ih, List.mapM_cons]
      cases part.meaning template? with
      | error error => rfl
      | ok t => cases parts.mapM (Part.meaning template?) <;> rfl

/-! ### Registries -/

theorem runFrom_expand (t : Text) (start : Logged Registry) :
    Action.runFrom (Registry.expand t) start
      = (expandWith start.state.template? t,
          { start with state := { start.state with frozen := true } }) :=
  Action.runFrom_ofExcept _ _

/-- What a part stands for, given a template for each name. -/
def Part.value (template : Text → Text) : Part → Text
  | .plain t _ => t
  | .call c => substitute c.values (template c.name.text)

theorem mapM_meaning {template? : Text → Option Text} {parts : List Part}
    (template : Text → Text)
    (known : ∀ call, Part.call call ∈ parts →
      template? call.name.text = some (template call.name.text)) :
    parts.mapM (Part.meaning template?) = .ok (parts.map (Part.value template)) := by
  refine Outcome.mapM_eq_ok_iff.mpr (List.forall₂_map_right_iff.mpr ?_)
  refine List.forall₂_same.mpr fun part hp => ?_
  cases part with
  | plain t h => rfl
  | call call =>
      rw [Part.meaning, known call hp]
      rfl

/-- **Expansion follows the parts.**  If there is a template for the name of each call, the
expansion is the plain parts as they are and, in place of each call, its template with its
arguments; nothing that this puts into the text is read again.  Otherwise the first call without
a template is the failure. -/
theorem expand_written (parts : List Part) (start : Logged Registry) :
    (∀ template : Text → Text,
      (∀ call, Part.call call ∈ parts →
        start.state.template? call.name.text = some (template call.name.text)) →
      (Action.runFrom (Registry.expand (written parts)) start).1
        = .ok (parts.flatMap (Part.value template))) ∧
    ∀ before call behind, parts = before ++ Part.call call :: behind →
      (∀ earlier, Part.call earlier ∈ before → start.state.template? earlier.name.text ≠ none) →
      start.state.template? call.name.text = none →
      (Action.runFrom (Registry.expand (written parts)) start).1
        = .error (.undefinedMacro call.name.text) := by
  rw [runFrom_expand, expandWith_written]
  constructor
  · intro template known
    rw [mapM_meaning template known]
    rfl
  · rintro before call behind rfl known unknown
    have found : ∀ earlier, Part.call earlier ∈ before →
        start.state.template? earlier.name.text
          = some ((start.state.template? earlier.name.text).getD []) := by
      intro earlier hm
      obtain ⟨template, he⟩ := Option.ne_none_iff_exists'.mp (known earlier hm)
      rw [he]
      rfl
    have first := mapM_meaning (fun name => (start.state.template? name).getD []) found
    have next : (Part.call call).meaning start.state.template?
        = .error (.undefinedMacro call.name.text) := by
      rw [Part.meaning, unknown]
    rw [List.mapM_append, first, List.mapM_cons, next]
    rfl

/-! ### A text with three calls -/

/-- A macro with two arguments, and one whose template looks like a call. -/
def sampleRegistry : Registry where
  templates := [("pair", "$1 and $2"), ("wave", "\x7b\x7bpair $1\x7d\x7d!")]

/-- A call of the first, with an argument that opens a call and an empty one. -/
def pairCall : Call where
  name := .bare "pair" (by decide)
  name_ne_nil := by decide
  arguments := [(1, .quoted "b \x7b\x7bc" (by decide)),
    (0, .quoted [] (by decide))]

/-- A call of the second, with an argument that looks like a placeholder. -/
def waveCall : Call where
  name := .quoted "wave" (by decide)
  name_ne_nil := by decide
  arguments := [(0, .bare "$2" (by decide))]
  behind := 2

/-- A call of nothing. -/
def strangeCall : Call where
  before := 1
  name := .bare "no\"name" (by decide)
  name_ne_nil := by decide

/-- Two calls side by side, with plain text around them. -/
def sampleParts : List Part :=
  [.plain "a \x7d " (by decide), .call pairCall, .call waveCall, .plain "." (by decide)]

/-- What the calls stand for is not read again, and a call of nothing behind them is a failure. -/
theorem sample_is_expanded :
    written sampleParts
        = "a \x7d \x7b\x7bpair  \"b \x7b\x7bc\" \"\"\x7d\x7d\x7b\x7b\"wave\" $2  \x7d\x7d." ∧
      (Action.runFrom (Registry.expand (written sampleParts)) { state := sampleRegistry }).1
        = .ok "a \x7d b \x7b\x7bc and \x7b\x7bpair $2\x7d\x7d!." ∧
      (Action.runFrom (Registry.expand (written (sampleParts ++ [.call strangeCall])))
          { state := sampleRegistry }).1 = .error (.undefinedMacro "no\"name") := by
  let template : Text → Text := fun name => (sampleRegistry.template? name).getD []
  have known : ∀ call, Part.call call ∈ sampleParts →
      sampleRegistry.template? call.name.text = some (template call.name.text) := by
    intro call hm
    simp only [sampleParts, List.mem_cons, Part.call.injEq, reduceCtorEq, List.not_mem_nil,
      false_or, or_false] at hm
    rcases hm with rfl | rfl <;> decide
  refine ⟨by decide +kernel, ?_, ?_⟩
  · refine ((expand_written sampleParts { state := sampleRegistry }).1 template known).trans ?_
    decide +kernel
  · refine (expand_written _ { state := sampleRegistry }).2 sampleParts strangeCall [] rfl ?_ rfl
    intro call hm he
    rw [known call hm] at he
    cases he

end Classwright.Macro
