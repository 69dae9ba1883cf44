import Classwright.Proofs.Comment.Line
import Mathlib.Data.List.Induction

/-!
# Comment — wrapping again

Wrapped text that is wrapped again need not stay as it is.  What a line says is read as one line of
free text, so its first blanks vanish, a line that says nothing parts two paragraphs, and the gap at
a break, however wide it was, is a single space.  A break lasts when none of this matters.

* `firstWord`: what stands in front of the first space.
* `Lasts`: the break between two lines is taken again.
* `wrapParagraph_of_no_room`, `longer_of_room`: whether a line ends where it did is up to the first
  word behind it.
* `relaid_eq_iff`: laid out again, lines stay as they are exactly when their breaks last.
* `SingleSpaced`, `isChain_lasts`: all breaks last when nothing but single spaces stands between
  words.
* `rewrap_eq_iff`: wrapped text is wrapped to itself exactly when all its breaks last.
-/

namespace Classwright.Comment

open Text

/-- What stands in front of the first space. -/
def firstWord (t : Text) : Text := t.takeWhile (!isSpace ·)

/-- The break between two lines lasts: the next line begins with no blank; when it says nothing it
is the bare line that parts a paragraph from the line before; and otherwise its first word has no
room on that line, a single space behind it. -/
structure Lasts (bare head : Text) (width : Nat) (line next : Text) : Prop where
  flush : trimStart (behind head next) = behind head next
  apart : behind head next = [] → behind head line ≠ [] ∧ next = bare
  full : behind head line ≠ [] → behind head next ≠ [] →
    width < (line ++ ' ' :: firstWord (behind head next)).length

variable {head bare line next : Text} {width : Nat}

/-- In front of a line that says nothing a break lasts when that line parts two paragraphs. -/
theorem lasts_iff_of_apart (apart : behind head next = []) :
    Lasts bare head width line next ↔ behind head line ≠ [] ∧ next = bare := by
  constructor
  · intro h
    exact h.apart apart
  · intro h
    refine ⟨?_, fun _ => h, fun _ goes => absurd apart goes⟩
    rw [apart]
    rfl

/-- Behind a line that says nothing a break lasts when the next line begins with what it says. -/
theorem lasts_iff_of_bare (silent : behind head line = []) :
    Lasts bare head width line next ↔ Begins head next := by
  constructor
  · rintro ⟨flush, apart, -⟩
    exact ⟨fun none => (apart none).1 silent, flush⟩
  · rintro ⟨goes, flush⟩
    exact ⟨flush, fun none => absurd none goes, fun said => absurd silent said⟩

/-- Between two lines that say something a break lasts when the next line begins with what it says
and its first word has no room. -/
theorem lasts_iff_of_said (said : behind head line ≠ []) (goes : behind head next ≠ []) :
    Lasts bare head width line next ↔ Begins head next ∧
      width < (line ++ ' ' :: firstWord (behind head next)).length := by
  constructor
  · rintro ⟨flush, -, full⟩
    exact ⟨⟨goes, flush⟩, full said goes⟩
  · rintro ⟨⟨-, flush⟩, full⟩
    exact ⟨flush, fun none => absurd none goes, fun _ _ => full⟩

/-! ### One line -/

theorem space_not_mem_firstWord (t : Text) : ' ' ∉ firstWord t := by
  intro h
  have other := List.all_eq_true.mp List.all_takeWhile ' ' h
  simp [isSpace] at other

/-- A text is its first word, or a space follows that. -/
theorem firstWord_cases (t : Text) :
    firstWord t = t ∨ ∃ more, t = firstWord t ++ ' ' :: more := by
  have parts : t = firstWord t ++ t.dropWhile (!isSpace ·) :=
    List.takeWhile_append_dropWhile.symm
  rcases head?_dropWhile_word t with none | space
  · rw [none, List.append_nil] at parts
    exact .inl parts.symm
  · obtain ⟨more, he⟩ := List.head?_eq_some_iff.mp space
    exact .inr ⟨more, by rwa [he] at parts⟩

theorem isSpace_of_not_blank {c : Char} (h : blank c = false) : isSpace c = false := by
  rw [isSpace, beq_eq_false_iff_ne]
  rintro rfl
  rw [blank_space] at h
  cases h

theorem firstWord_append {t u : Text} (h : u = [] ∨ u.head? = some ' ') :
    firstWord (t ++ u) = firstWord t := by
  have none : firstWord u = [] := by
    rcases h with rfl | h
    · rfl
    · cases u with
      | nil => rfl
      | cons d ds =>
          cases h
          simp [firstWord, isSpace]
  rw [firstWord, List.takeWhile_append]
  split
  next whole =>
    have all : firstWord t = t := (List.takeWhile_sublist _).eq_of_length whole
    rw [← firstWord, none, List.append_nil, all]
  next => rfl

theorem wrapParagraph_of_laid (laid : Laid head width line)
    (said : behind head line ≠ []) : wrapParagraph head width (behind head line) = [line] := by
  by_cases fits : (head ++ behind head line).length ≤ width
  · rw [wrapParagraph_of_fits said fits, laid.trimEnd said]
  · have single : ' ' ∉ behind head line := by
      refine laid.room.resolve_left ?_
      rwa [← laid.whole said] at fits
    rw [wrapParagraph_of_unbroken said (Nat.not_le.mp fits) (findLastBreak_of_not_mem width single),
      laid.trimEnd said]

variable {c : Char} {cs : Text}

/-- A line has what follows it on the next line when the first word of that has no room. -/
theorem wrapParagraph_of_no_room (laid : Laid head width line) (said : behind head line ≠ [])
    (first : blank c = false) (full : width < (line ++ ' ' :: firstWord (c :: cs)).length) :
    wrapParagraph head width (behind head line ++ ' ' :: c :: cs)
      = line :: wrapParagraph head width (c :: cs) := by
  have whole := laid.whole said
  have room : (head ++ behind head line).length ≤ width ∨ ' ' ∉ behind head line := by
    rw [← whole]
    exact laid.room
  have parts : c :: cs = firstWord (c :: cs) ++ (c :: cs).dropWhile (!isSpace ·) :=
    List.takeWhile_append_dropWhile.symm
  have wide : width < (head ++ (behind head line
      ++ (List.replicate 1 ' ' ++ firstWord (c :: cs)))).length := by
    rw [← List.append_assoc, ← whole]
    exact full
  obtain ⟨k, hk, found⟩ := findLastBreak_gap ((c :: cs).dropWhile (!isSpace ·)) Nat.one_pos
    (space_not_mem_firstWord (c :: cs)) room wide
  obtain rfl : k = 0 := Nat.lt_one_iff.mp hk
  rw [← parts, Nat.add_zero] at found
  change findLastBreak (head ++ (behind head line ++ ' ' :: c :: cs)) _ _ = _ at found
  have other : (c == ' ') = false := isSpace_of_not_blank first
  have long : width < (head ++ (behind head line ++ ' ' :: c :: cs)).length := by
    have := (List.takeWhile_sublist (p := (!isSpace ·)) (l := c :: cs)).length_le
    simp only [List.length_append, List.length_cons, List.length_replicate] at wide this ⊢
    rw [firstWord] at wide
    omega
  rw [wrapParagraph_of_break (by simp) long found, List.take_length_add_append, List.take_left,
    laid.trimEnd said, Nat.add_assoc, List.drop_length_add_append, List.drop_length_add_append]
  simp [other]

/-- What a line says, cut no earlier than behind the next word's first letter, makes a longer
line. -/
theorem length_lt_of_take (cs : Text) (laid : Laid head width line) (said : behind head line ≠ [])
    (first : blank c = false) {n : Nat} (hn : (behind head line).length + 2 ≤ n) :
    line.length < (trimEnd (head ++ (behind head line ++ ' ' :: c :: cs).take n)).length := by
  have whole := congrArg List.length (laid.whole said)
  obtain ⟨m, rfl⟩ : ∃ m, n = (behind head line).length + (m + 2) :=
    ⟨n - (behind head line).length - 2, by omega⟩
  have speaks : isBlank (c :: cs.take m) = false := by simp [isBlank, first]
  have kept := trimEnd_append_of_said (head ++ behind head line ++ [' ']) speaks
  rw [List.take_length_add_append, ← List.append_assoc, List.take_succ_cons,
    List.take_succ_cons, ← List.singleton_append, ← List.append_assoc, kept]
  simp only [List.length_append, List.length_cons] at whole ⊢
  omega

/-- When the first word has room, the first line is longer. -/
theorem longer_of_room (laid : Laid head width line) (said : behind head line ≠ [])
    (first : blank c = false) (room : (line ++ ' ' :: firstWord (c :: cs)).length ≤ width) :
    ∃ opening rest, wrapParagraph head width (behind head line ++ ' ' :: c :: cs)
      = opening :: rest ∧ line.length < opening.length := by
  have begun : 0 < (firstWord (c :: cs)).length := by
    simp [firstWord, isSpace_of_not_blank first]
  have reach : (head ++ (behind head line ++ ' ' :: firstWord (c :: cs))).length ≤ width := by
    rwa [← List.append_assoc, ← laid.whole said]
  by_cases fits : (head ++ (behind head line ++ ' ' :: c :: cs)).length ≤ width
  · refine ⟨_, [], wrapParagraph_of_fits (by simp) fits, ?_⟩
    have longer := length_lt_of_take cs laid said first
      (show (behind head line).length + 2 ≤ (behind head line ++ ' ' :: c :: cs).length by simp)
    rwa [List.take_length] at longer
  · rcases firstWord_cases (c :: cs) with all | ⟨more, split⟩
    · rw [all] at reach
      exact absurd reach fits
    · -- The line breaks behind the word, at the earliest.
      obtain ⟨i, found, le⟩ := exists_findLastBreak more reach
      rw [List.append_assoc, List.cons_append, ← split] at found
      rw [List.length_append, List.length_cons] at le
      rw [wrapParagraph_of_break (by simp) (Nat.not_le.mp fits) found,
        List.take_length_add_append]
      exact ⟨_, _, rfl, length_lt_of_take cs laid said first (by omega)⟩

/-! ### All lines -/

/-- Lines laid out again, after what they say has flowed into paragraphs. -/
def relaid (bare head : Text) (width : Nat) (lines : List Text) : List Text :=
  separate bare ((flow (lines.map (behind head))).map (wrapParagraph head width))

theorem begins_of_relaid {lines : List Text} (laid : ∀ line ∈ lines, Laid head width line)
    (h : (relaid bare head width lines).head? = some line) : Begins head line := by
  refine begins_of_separate (starts_of_mem_flow ?_) h
  simpa using fun line hl => (laid line hl).content

/-- A last line that begins with what it says stays as it is. -/
theorem relaid_singleton (laid : Laid head width line) (begins : Begins head line) :
    relaid bare head width [line] = [line] := by
  obtain ⟨said, starts⟩ := begins
  rw [relaid, List.map_singleton, flow_of_end said rfl, starts, List.map_cons,
    wrapParagraph_of_laid laid said]
  rfl

/-- A line in front of one that says nothing stays as it is, and a bare line follows. -/
theorem relaid_of_apart {lines : List Text} (laid : Laid head width line)
    (begins : Begins head line) (apart : behind head next = [])
    (last : ((next :: lines).map (behind head)).getLast? ≠ some []) :
    relaid bare head width (line :: next :: lines)
      = line :: bare :: relaid bare head width lines := by
  obtain ⟨said, starts⟩ := begins
  rw [List.map_cons, apart] at last
  have further : flow (lines.map (behind head)) ≠ [] := by
    rw [← flow_of_empty]
    exact flow_ne_nil (List.cons_ne_nil _ _) last
  rw [relaid, List.map_cons, List.map_cons, apart, flow_of_end said rfl, flow_of_empty, starts,
    List.map_cons, wrapParagraph_of_laid laid said, separate_append _ _ (by simpa using further)]
  rfl

/-- A line in front of one that says something stays as it is exactly when the break lasts. -/
theorem relaid_cons_cons_iff {lines : List Text} (laid : Laid head width line)
    (begins : Begins head line) (there : Laid head width next) (goes : behind head next ≠ []) :
    relaid bare head width (line :: next :: lines) = line :: next :: lines ↔
      width < (line ++ ' ' :: firstWord (trimStart (behind head next))).length ∧
        relaid bare head width (next :: lines) = next :: lines := by
  obtain ⟨said, starts⟩ := begins
  obtain ⟨after, rest, flows, spaced⟩ := exists_flow_cons (lines.map (behind head)) goes
  obtain ⟨c, cs, opens⟩ := List.exists_cons_of_ne_nil
    (trimStart_ne_nil (isBlank_of_trimEnd goes there.content.last))
  have first : blank c = false := by
    refine blank_of_trimStart (t := cs) ?_
    rw [← opens, trimStart_trimStart]
  have word : firstWord (c :: (cs ++ after)) = firstWord (trimStart (behind head next)) := by
    rw [opens, ← List.cons_append, firstWord_append spaced]
  have above : relaid bare head width (line :: next :: lines)
      = separate bare (wrapParagraph head width (behind head line ++ ' ' :: c :: (cs ++ after))
        :: rest.map (wrapParagraph head width)) := by
    have flowing : flow (behind head line :: behind head next :: lines.map (behind head))
        = leadFirst (trimStart (behind head line) ++ [' '])
          (flow (behind head next :: lines.map (behind head))) := flow_of_next said goes
    rw [relaid, List.map_cons, List.map_cons, flowing, flows, leadFirst_cons, starts, opens,
      List.map_cons, List.append_assoc]
    rfl
  have below : relaid bare head width (next :: lines)
      = separate bare (wrapParagraph head width (c :: (cs ++ after))
        :: rest.map (wrapParagraph head width)) := by
    rw [relaid, List.map_cons, flows, opens, List.map_cons]
    rfl
  rw [above, below, ← word]
  by_cases full : width < (line ++ ' ' :: firstWord (c :: (cs ++ after))).length
  · rw [wrapParagraph_of_no_room laid said first full, separate_cons]
    simp only [List.cons.injEq, true_and, full]
  · obtain ⟨opening, others, he, longer⟩ := longer_of_room laid said first (Nat.not_lt.mp full)
    rw [he, separate_cons]
    refine iff_of_false (fun h => ?_) (fun h => full h.1)
    rw [(List.cons.inj h).1] at longer
    exact Nat.lt_irrefl _ longer

/-- Laid out again, lines stay as they are exactly when they begin with what they say and every
break lasts. -/
theorem relaid_eq_iff {lines : List Text} (laid : ∀ line ∈ lines, Laid head width line)
    (last : (lines.map (behind head)).getLast? ≠ some []) :
    relaid bare head width lines = lines ↔
      (∀ line, lines.head? = some line → Begins head line) ∧
        lines.IsChain (Lasts bare head width) := by
  -- The induction takes one line or two: a line that says nothing goes with the one before.
  induction lines using List.twoStepInduction with
  | nil => simp [relaid, flow, separate]
  | singleton line =>
      have here := laid line List.mem_cons_self
      constructor
      · intro same
        refine ⟨?_, .singleton line⟩
        rintro _ ⟨⟩
        exact begins_of_relaid laid (congrArg List.head? same)
      · rintro ⟨begins, -⟩
        exact relaid_singleton here (begins line rfl)
  | cons_cons line next lines further onward =>
      obtain ⟨here, rest⟩ := List.forall_mem_cons.mp laid
      by_cases begins : Begins head line
      swap
      · refine iff_of_false (fun h => ?_) (fun h => begins (h.1 line rfl))
        exact begins (begins_of_relaid laid (congrArg List.head? h))
      have opening : ∀ l, (line :: next :: lines).head? = some l → Begins head l := by
        rintro l ⟨⟩
        exact begins
      rw [and_iff_right opening, List.isChain_cons_cons]
      by_cases apart : behind head next = []
      · -- The line is a paragraph's last one, and the lines from the next but one on are laid
        -- out by themselves.
        obtain ⟨l, ls, rfl⟩ : ∃ l ls, lines = l :: ls := by
          cases lines with
          | nil => exact absurd (congrArg some apart) (by simpa using last)
          | cons l ls => exact ⟨l, ls, rfl⟩
        have laidOut := further (List.forall_mem_cons.mp rest).2 (by simpa using last)
        rw [relaid_of_apart here begins apart (by simpa using last), List.isChain_cons_cons,
          lasts_iff_of_apart apart, lasts_iff_of_bare apart, List.cons.injEq, List.cons.injEq,
          laidOut]
        constructor
        · rintro ⟨-, same, starts, chain⟩
          exact ⟨⟨begins.1, same.symm⟩, starts l rfl, chain⟩
        · rintro ⟨⟨-, same⟩, starts, chain⟩
          exact ⟨rfl, same.symm, by rintro _ ⟨⟩; exact starts, chain⟩
      · rw [relaid_cons_cons_iff here begins (rest next List.mem_cons_self) apart,
          onward next rest (by simpa using last), lasts_iff_of_said begins.1 apart]
        constructor
        · rintro ⟨full, starts, chain⟩
          obtain ⟨goes, flush⟩ := starts next rfl
          rw [flush] at full
          exact ⟨⟨⟨goes, flush⟩, full⟩, chain⟩
        · rintro ⟨⟨starts, full⟩, chain⟩
          rw [starts.2]
          exact ⟨full, by rintro _ ⟨⟩; exact starts, chain⟩

/-! ### Wrapped text -/

variable {t decoration continuation : Text}

/-- To wrap what wrapped lines say is to lay the lines out again. -/
theorem wrap_behind (t decoration continuation : Text) (width : Nat) :
    let head := Comment.head decoration continuation
    let lines := wrap t decoration continuation width
    wrap (join "\n" (lines.map (behind head))) decoration continuation width
      = relaid (trimEnd decoration) head width lines := by
  intro head lines
  have content : ∀ t ∈ lines.map (behind head), Content t := by
    simpa using fun line hl => (laid_of_mem_wrap hl).content
  have last : (lines.map (behind head)).getLast? ≠ some [] := getLast?_behind
  rw [wrap, paragraphs_join content last]
  rfl

/-- Wrapped lines stay as they are exactly when every break of them lasts. -/
theorem relaid_wrap_iff (t decoration continuation : Text) (width : Nat) :
    let head := Comment.head decoration continuation
    let lines := wrap t decoration continuation width
    relaid (trimEnd decoration) head width lines = lines ↔
      lines.IsChain (Lasts (trimEnd decoration) head width) := by
  intro head lines
  rw [relaid_eq_iff (fun line => laid_of_mem_wrap) getLast?_behind]
  exact and_iff_right fun line hl => begins_of_wrap hl

/-! ### Single spaces -/

/-- Nothing but single spaces stands between the words of a text. -/
def SingleSpaced (t : Text) : Prop :=
  ∀ token ∈ tokens t, token.gap ≤ 1 ∧ ∀ c ∈ token.word, blank c = false

variable {row others : List Token}

/-- A row of visible words begins and ends with one of them. -/
theorem trim_content (said : row ≠ [])
    (visible : ∀ token ∈ row, ∀ c ∈ token.word, blank c = false) :
    trimStart (content row) = content row ∧ trimEnd (content row) = content row := by
  constructor
  · obtain ⟨token, rest, rfl⟩ := List.exists_cons_of_ne_nil said
    refine trimStart_of_head? fun c hc => ?_
    obtain ⟨d, ds, hd⟩ := List.exists_cons_of_ne_nil token.word_ne_nil
    rw [content, hd] at hc
    obtain rfl := Option.some.inj hc
    exact visible token List.mem_cons_self d (hd ▸ List.mem_cons_self)
  · obtain ⟨init, token, rfl⟩ := List.eq_nil_or_concat' row |>.resolve_left said
    obtain ⟨before, he⟩ : ∃ before, content (init ++ [token]) = before ++ token.word := by
      by_cases first : init = []
      · exact ⟨[], by rw [first]; simp [content, spell]⟩
      · exact ⟨content init ++ List.replicate token.gap ' ', by
          rw [content_append first]; simp [spell, Token.text]⟩
    have seen := visible token (by simp)
    refine trimEnd_of_getLast? fun c hc => ?_
    rw [he, List.getLast?_append_of_ne_nil _ token.word_ne_nil] at hc
    exact seen c (List.mem_of_getLast? hc)

/-- Rows of visible words with single spaces between break for good. -/
theorem lasts_of_full (said : row ≠ [])
    (visible : ∀ token ∈ row, ∀ c ∈ token.word, blank c = false)
    (spaced : ∀ token ∈ others, token.gap ≤ 1 ∧ ∀ c ∈ token.word, blank c = false)
    (full : Full head width row others) :
    Lasts bare head width (rowLine head row) (rowLine head others) := by
  obtain ⟨token, rest, rfl, wide⟩ := full
  obtain ⟨narrow, -⟩ := spaced token List.mem_cons_self
  obtain ⟨-, ends⟩ := trim_content said visible
  obtain ⟨starts, ends'⟩ := trim_content (List.cons_ne_nil token rest) fun t ht => (spaced t ht).2
  have shown : rowLine head row = head ++ content row := by
    rw [rowLine, trimEnd_append_of_said head (isBlank_of_trimEnd (content_ne_nil said) ends), ends]
  have here : behind head (rowLine head row) ≠ [] := by
    rw [shown, behind_append]
    exact content_ne_nil said
  have there : behind head (rowLine head (token :: rest)) = content (token :: rest) := by
    rw [rowLine, behind_trimEnd, ends']
  have goes : content (token :: rest) ≠ [] := content_ne_nil (List.cons_ne_nil token rest)
  have word : token.word.length ≤ (firstWord (content (token :: rest))).length := by
    have inside : ∀ c ∈ token.word, (!isSpace c) = true := by
      intro c hc
      have other : c ≠ ' ' := fun he => token.space_not_mem (he ▸ hc)
      simpa [isSpace] using other
    rw [firstWord, content, List.takeWhile_append_of_pos inside, List.length_append]
    exact Nat.le_add_right _ _
  rw [lasts_iff_of_said here (by rwa [there]), Begins, there]
  refine ⟨⟨goes, starts⟩, ?_⟩
  rw [shown]
  rw [content_append said] at wide
  simp only [spell, Token.text, List.flatMap_cons, List.flatMap_nil, List.length_append,
    List.length_replicate, List.length_cons, List.length_nil] at wide ⊢
  omega

theorem isChain_lasts_wrapParagraph {paragraph : Text} (solid : Solid paragraph)
    (spaced : SingleSpaced paragraph) :
    (wrapParagraph head width paragraph).IsChain (Lasts bare head width) := by
  rw [wrapParagraph_of_solid solid, List.isChain_map]
  refine (isChain_paragraphRows paragraph).imp_of_mem_imp fun row next hr hn full => ?_
  have words : ∀ r ∈ paragraphRows head width paragraph,
      ∀ token ∈ r, token.gap ≤ 1 ∧ ∀ c ∈ token.word, blank c = false := by
    intro r hr token ht
    have whole : (paragraphRows head width paragraph).flatten = tokens paragraph :=
      flatten_paragraphRows paragraph
    exact spaced token (whole ▸ List.mem_flatten.mpr ⟨r, hr, ht⟩)
  exact lasts_of_full (ne_nil_of_mem_paragraphRows hr) (fun token ht => (words row hr token ht).2)
    (words next hn) full

/-- When nothing but single spaces stands between the words of every paragraph, all breaks last. -/
theorem isChain_lasts (spaced : ∀ paragraph ∈ paragraphs t, SingleSpaced paragraph) :
    (wrap t decoration continuation width).IsChain
      (Lasts (trimEnd decoration) (Comment.head decoration continuation) width) := by
  have bare := behind_bare decoration continuation
  refine isChain_wrap ?_ ?_ ?_
  · intro paragraph hp
    exact isChain_lasts_wrapParagraph (solid_of_mem_paragraphs hp) (spaced paragraph hp)
  · exact fun line goes => (lasts_iff_of_apart bare).mpr ⟨goes, rfl⟩
  · exact fun line begins => (lasts_iff_of_bare bare).mpr begins

/-! ### Wrapping again -/

/-- **Wrapping again.**  Wrapped text is wrapped to itself exactly when every break of it lasts; and
so it is when nothing but single spaces stands between the words of every paragraph. -/
theorem rewrap_eq_iff (t decoration continuation : Text) (width : Nat) :
    let head := Comment.head decoration continuation
    let lines := wrap t decoration continuation width
    let again := wrap (join "\n" (lines.map (behind head))) decoration continuation width
    (again = lines ↔ lines.IsChain (Lasts (trimEnd decoration) head width)) ∧
      ((∀ paragraph ∈ paragraphs t, SingleSpaced paragraph) → again = lines) := by
  intro head lines again
  have same : again = lines ↔ lines.IsChain (Lasts (trimEnd decoration) head width) :=
    (wrap_behind t decoration continuation width).congr_left.trans
      (relaid_wrap_iff t decoration continuation width)
  exact ⟨same, fun spaced => same.mpr (isChain_lasts spaced)⟩

/-- A gap that is wider than one space closes, and the next word fits where it did not. -/
theorem wide_gap_closes :
    wrap "a  b" "//" [] 6 = ["// a", "// b"] ∧
      wrap (join "\n" (["// a", "// b"].map (behind "// "))) "//" [] 6 = ["// a b"] := by
  decide +kernel

end Classwright.Comment
