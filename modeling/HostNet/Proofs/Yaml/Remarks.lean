/-
**Remarks between the tokens of a YAML text.**

Remarks are blanks, line ends and comments. They are told apart from the tokens by where they stand in
a line: a tab is a blank only behind a token of the same line. The reader of tokens passes remarks
without noticing anything but that, however long they are.

* `Remarks`: remarks from one place of a line to another;
* `Closing`: remarks up to the end of a text, whose last line may be a comment without an end;
* `skipToToken_remarks`: the reader passes remarks one after the other;
* `skipToToken_stop`: it stops in front of a token;
* `skipToToken_closing`: it passes remarks up to the end.
-/

import HostNet.Yaml.Token

namespace HostNet.Yaml

/-- A place in a line. -/
inductive LinePlace where
  | start
  | inside
  /-- Behind a token, where a tab counts as a blank. -/
  | behind
  deriving Repr, DecidableEq

/-- The place after a blank. -/
def LinePlace.past : LinePlace → LinePlace
  | .start => .inside
  | .inside => .inside
  | .behind => .behind

/-- Characters of one line. -/
def Unended (characters : List Char) : Prop := ∀ character ∈ characters, isBreak character = false

/-- **Remarks**: blanks, line ends and comments, from one place of a line to another. -/
inductive Remarks : LinePlace → List Char → LinePlace → Prop where
  | none (place : LinePlace) : Remarks place [] place
  | space {place last : LinePlace} {rest : List Char} :
    Remarks place.past rest last → Remarks place (' ' :: rest) last
  | tab {last : LinePlace} {rest : List Char} :
    Remarks .behind rest last → Remarks .behind ('\t' :: rest) last
  | lineEnd {place last : LinePlace} {ending : Char} {rest : List Char} :
    isBreak ending = true → Remarks .start rest last → Remarks place (ending :: rest) last
  | comment {place last : LinePlace} {words : List Char} {ending : Char} {rest : List Char} :
    Unended words → isBreak ending = true → Remarks .start rest last →
    Remarks place ('#' :: (words ++ ending :: rest)) last

/-- Remarks up to the end of a text. A comment in the last line needs no end. -/
inductive Closing (place : LinePlace) : List Char → Prop where
  | ended {text : List Char} {last : LinePlace} : Remarks place text last → Closing place text
  | comment {front words : List Char} {last : LinePlace} :
    Remarks place front last → Unended words → Closing place (front ++ '#' :: words)

/-- The end of a line is passed, together with a line feed after a carriage return. -/
theorem skipBreak_eq {cursor : Cursor} {ending : Char} {rest : List Char}
    (written : cursor.rest = ending :: rest) :
    (∃ later, ending = '\r' ∧ rest = '\n' :: later ∧
      cursor.skipBreak = ⟨later, cursor.index + 2, cursor.line + 1, 0⟩) ∨
      cursor.skipBreak = ⟨rest, cursor.index + 1, cursor.line + 1, 0⟩ := by
  unfold Cursor.skipBreak
  split
  · rename_i later whole
    rw [written, List.cons.injEq] at whole
    exact .inl ⟨later, whole.1, whole.2, rfl⟩
  · rename_i whole
    rw [written, List.cons.injEq] at whole
    rw [whole.2]
    exact .inr rfl
  · rename_i whole
    rw [written] at whole
    cases whole

namespace Scan

/-! ### The state of the reader -/

/-- No block and no bracket is open, and no key is due. -/
structure Bare (scan : Scan) : Prop where
  indents : scan.indents = []
  keys : ∃ key, scan.keys = [key] ∧ ∀ noted, key = some noted → noted.required = false

/-- Where the reader stands in a line. -/
def At (scan : Scan) : LinePlace → Prop
  | .start => scan.cursor.column = 0
  | .inside => True
  | .behind => scan.keyAllowed = false

variable {scan : Scan} {place last : LinePlace} {front rest words : List Char}

theorem Bare.notInFlow (bare : scan.Bare) : scan.inFlow = false := by
  obtain ⟨key, keys, _⟩ := bare.keys
  simp [inFlow, keys]

theorem Bare.indent_eq (bare : scan.Bare) : scan.indent = -1 := by
  simp [indent, bare.indents]

theorem Bare.moveTo (bare : scan.Bare) (cursor : Cursor) : (scan.moveTo cursor).Bare :=
  ⟨bare.indents, bare.keys⟩

theorem Bare.allowKey (bare : scan.Bare) (allowed : Bool) : (scan.allowKey allowed).Bare :=
  ⟨bare.indents, bare.keys⟩

theorem Bare.push (bare : scan.Bare) (token : Token) : (scan.push token).Bare :=
  ⟨bare.indents, bare.keys⟩

/-- The cursor where the remarks of a line end. -/
def reach (scan : Scan) : Cursor :=
  let cursor := scan.cursor
  let cursor := if cursor.column = 0 && cursor.isAt '\uFEFF' then cursor.skip 1 else cursor
  let tabs := scan.inFlow || !scan.keyAllowed
  (cursor.skipWhile fun character => character = ' ' || (tabs && character = '\t')).skipComment

theorem skipToToken_succ (fuel : Nat) (scan : Scan) : skipToToken (fuel + 1) scan =
    if scan.reach.rest.head?.any isBreak then
      skipToToken fuel
        ((scan.moveTo scan.reach.skipBreak).allowKey (scan.keyAllowed || !scan.inFlow))
    else scan.moveTo scan.reach := rfl

/-- What is passed in one go may be passed in two. -/
theorem skipToToken_moveTo {cursor : Cursor} (same : scan.reach = (scan.moveTo cursor).reach)
    (fuel : Nat) : skipToToken (fuel + 1) scan = skipToToken (fuel + 1) (scan.moveTo cursor) := by
  rw [skipToToken_succ, skipToToken_succ, same]
  rfl

/-! ### One remark -/

/-- A character that ends the remarks of a line: a line end, or the first one of a token. -/
def isFirm (character : Char) : Bool :=
  !(isSpacing character || character = '#' || character = '\uFEFF')

theorem isFirm_of_isBreak {ending : Char} (ends : isBreak ending = true) : isFirm ending = true := by
  simp only [isBreak, Bool.or_eq_true, decide_eq_true_eq] at ends
  rcases ends with (((rfl | rfl) | rfl) | rfl) | rfl <;> decide

theorem skipWhile_cons {cursor : Cursor} {kind : Char → Bool} {character : Char}
    (written : cursor.rest = character :: rest) (passed : kind character = true) :
    cursor.skipWhile kind = (cursor.skip 1).skipWhile kind := by
  simp [Cursor.skipWhile, Cursor.skip, written, passed]
  omega

theorem skipWhile_still {cursor : Cursor} {kind : Char → Bool}
    (still : ∀ character, cursor.rest.head? = some character → kind character = false) :
    cursor.skipWhile kind = cursor := by
  have nothing : cursor.rest.takeWhile kind = [] := by
    cases written : cursor.rest with
    | nil => rfl
    | cons character rest =>
      rw [List.takeWhile_cons, if_neg (by rw [still character (by rw [written]; rfl)]; decide)]
  rw [Cursor.skipWhile, nothing]
  rfl

/-- In front of anything but a mark of the byte order, the reader passes blanks and a comment. -/
theorem reach_eq (unmarked : scan.cursor.rest.head? ≠ some '\uFEFF') :
    scan.reach = (scan.cursor.skipWhile fun character => character = ' ' ||
      ((scan.inFlow || !scan.keyAllowed) && character = '\t')).skipComment := by
  have other : scan.cursor.isAt '\uFEFF' = false := decide_eq_false unmarked
  simp [reach, other]

theorem reach_blank {blank : Char} (written : scan.cursor.rest = blank :: rest)
    (passed : (blank = ' ' || ((scan.inFlow || !scan.keyAllowed) && blank = '\t')) = true) :
    scan.reach = (scan.moveTo (scan.cursor.skip 1)).reach := by
  have unmarked : scan.cursor.rest.head? ≠ some '\uFEFF' := by
    rintro marked
    rw [written, List.head?_cons, Option.some_inj] at marked
    subst marked
    simp at passed
  have there : (scan.moveTo (scan.cursor.skip 1)).reach =
      ((scan.cursor.skip 1).skipWhile fun character => character = ' ' ||
        ((scan.inFlow || !scan.keyAllowed) && character = '\t')).skipComment := by
    simp [reach, moveTo, Cursor.skip, inFlow]
  rw [reach_eq unmarked, there, skipWhile_cons written passed]

/-- The reader stays in front of a line end or a token. -/
theorem reach_firm
    (firm : ∀ character, scan.cursor.rest.head? = some character → isFirm character = true) :
    scan.reach = scan.cursor := by
  have unmarked : scan.cursor.rest.head? ≠ some '\uFEFF' := fun marked =>
    absurd (firm _ marked) (by decide)
  have unhashed : scan.cursor.isAt '#' = false :=
    decide_eq_false fun hashed => absurd (firm _ hashed) (by decide)
  rw [reach_eq unmarked, skipWhile_still, Cursor.skipComment, unhashed]
  · rfl
  · intro character first
    have unspaced := firm character first
    simp only [isFirm, isSpacing, Bool.not_eq_true', Bool.or_eq_false_iff, decide_eq_false_iff_not]
      at unspaced
    simp [unspaced]

/-- The reader passes a comment. -/
theorem reach_comment (written : scan.cursor.rest = '#' :: (words ++ rest)) (unended : Unended words)
    (ends : endsLine rest = true) : scan.reach.rest = rest := by
  have unmarked : scan.cursor.rest.head? ≠ some '\uFEFF' := by
    simp [written]
  have still : (scan.cursor.skipWhile fun character => character = ' ' ||
      ((scan.inFlow || !scan.keyAllowed) && character = '\t')) = scan.cursor := by
    refine skipWhile_still fun character first => ?_
    rw [written, List.head?_cons, Option.some_inj] at first
    subst first
    simp
  have hashed : scan.cursor.isAt '#' = true := decide_eq_true (by rw [Cursor.next?, written]; rfl)
  rw [reach_eq unmarked, still, Cursor.skipComment, if_pos hashed, Cursor.skipWhile,
    Cursor.skip_rest, written]
  have line : ('#' :: (words ++ rest)).takeWhile (!isBreak ·) = '#' :: words := by
    have kept : ∀ character ∈ '#' :: words, (!isBreak character) = true :=
      List.forall_mem_cons.mpr
        ⟨by decide, fun character inside => by rw [unended character inside]; rfl⟩
    rw [← List.cons_append, List.takeWhile_append_of_pos kept]
    cases rest with
    | nil => simp
    | cons ending later =>
      have ending : isBreak ending = true := ends
      simp [ending]
  rw [line]
  simp

/-! ### Remarks one after the other -/

/-- The reader gets from one state to another by remarks, with some text left at a place. -/
structure Passes (scan next : Scan) (rest : List Char) (place : LinePlace) : Prop where
  rest : next.cursor.rest = rest
  tokens : next.tokens = scan.tokens
  bare : next.Bare
  reached : next.At place

theorem Passes.trans {middle next : Scan} {between : List Char} {halfway : LinePlace}
    (first : Passes scan middle between halfway) (second : Passes middle next rest place) :
    Passes scan next rest place :=
  ⟨second.rest, second.tokens.trans first.tokens, second.bare, second.reached⟩

/-- A blank is passed on its own. -/
theorem skipToToken_blank {blank : Char} (bare : scan.Bare) (reached : scan.At place)
    (written : scan.cursor.rest = blank :: rest)
    (passed : (blank = ' ' || ((scan.inFlow || !scan.keyAllowed) && blank = '\t')) = true)
    (fuel : Nat) :
    ∃ next, skipToToken (fuel + 1) scan = skipToToken (fuel + 1) next ∧
      Passes scan next rest place.past := by
  refine ⟨scan.moveTo (scan.cursor.skip 1), skipToToken_moveTo (reach_blank written passed) fuel,
    ?_, rfl, bare.moveTo _, ?_⟩
  · show (scan.cursor.skip 1).rest = rest
    rw [Cursor.skip_rest, written, List.drop_one, List.tail_cons]
  · cases place with
    | start | inside => trivial
    | behind => exact reached

/-- In front of a line end, the reader goes on in the next line. -/
theorem skipToToken_ending {ending : Char} (bare : scan.Bare)
    (written : scan.cursor.rest = ending :: rest) (ends : isBreak ending = true) (fuel : Nat) :
    skipToToken (fuel + 1) scan =
      skipToToken fuel ((scan.moveTo scan.cursor.skipBreak).allowKey true) := by
  have firm : scan.reach = scan.cursor := reach_firm fun character first => by
    rw [written, List.head?_cons, Option.some_inj] at first
    exact first ▸ isFirm_of_isBreak ends
  have stops : scan.reach.rest.head?.any isBreak = true := by
    rw [firm, written]
    exact ends
  rw [skipToToken_succ, if_pos stops, firm, bare.notInFlow]
  simp

/-- A line end is passed at once, or in two goes if it is made of two characters. -/
theorem skipToToken_break {ending : Char} (bare : scan.Bare)
    (written : scan.cursor.rest = ending :: rest) (ends : isBreak ending = true) (fuel : Nat) :
    ∃ more next, fuel ≤ more ∧ skipToToken (fuel + 2) scan = skipToToken (more + 1) next ∧
      Passes scan next rest .start := by
  rw [skipToToken_ending bare written ends]
  obtain ⟨later, rfl, rfl, double⟩ | single := skipBreak_eq written
  · -- behind the first of the two characters the second one is a line end of its own
    let between : Scan :=
      (scan.moveTo ⟨'\n' :: later, scan.cursor.index + 1, scan.cursor.line, 0⟩).allowKey true
    have bareBetween : between.Bare := (bare.moveTo _).allowKey true
    refine ⟨fuel + 1, between, Nat.le_succ fuel, ?_, rfl, rfl, bareBetween, rfl⟩
    rw [skipToToken_ending bareBetween rfl (by decide), double]
    rfl
  · refine ⟨fuel, _, Nat.le_refl fuel, rfl, ?_, rfl, (bare.moveTo _).allowKey true, ?_⟩
    · show scan.cursor.skipBreak.rest = rest
      rw [single]
    · show scan.cursor.skipBreak.column = 0
      rw [single]

/-- A comment is passed together with the end of its line. -/
theorem skipToToken_comment {ending : Char} (bare : scan.Bare)
    (written : scan.cursor.rest = '#' :: (words ++ ending :: rest)) (unended : Unended words)
    (ends : isBreak ending = true) (fuel : Nat) :
    ∃ more next, fuel ≤ more ∧ skipToToken (fuel + 2) scan = skipToToken (more + 1) next ∧
      Passes scan next rest .start := by
  have behind : scan.reach.rest = ending :: rest := reach_comment written unended ends
  -- behind the comment the reader stands in front of a line end
  have stays : (scan.moveTo scan.reach).reach = scan.reach := by
    refine reach_firm fun character first => ?_
    rw [show (scan.moveTo scan.reach).cursor.rest = _ from behind, List.head?_cons,
      Option.some_inj] at first
    exact first ▸ isFirm_of_isBreak ends
  obtain ⟨more, next, enough, step, passed⟩ :=
    skipToToken_break (bare.moveTo scan.reach) behind ends fuel
  rw [skipToToken_moveTo stays.symm]
  exact ⟨more, next, enough, step, passed.rest, passed.tokens, passed.bare, passed.reached⟩

/-- **The reader passes remarks one after the other.** -/
theorem skipToToken_remarks (remarks : Remarks place front last) {fuel : Nat}
    (enough : front.length ≤ fuel) (bare : scan.Bare) (reached : scan.At place)
    (written : scan.cursor.rest = front ++ rest) :
    ∃ more next, skipToToken (fuel + 1) scan = skipToToken (more + 1) next ∧
      Passes scan next rest last := by
  induction remarks generalizing scan fuel with
  | none place => exact ⟨fuel, scan, rfl, written, rfl, bare, reached⟩
  | space _ ih =>
    obtain ⟨middle, step, passed⟩ := skipToToken_blank bare reached written (by simp) fuel
    obtain ⟨more, next, steps, later⟩ :=
      ih (Nat.le_of_succ_le enough) passed.bare passed.reached passed.rest
    exact ⟨more, next, step.trans steps, passed.trans later⟩
  | tab _ ih =>
    have tabs : scan.keyAllowed = false := reached
    obtain ⟨middle, step, passed⟩ := skipToToken_blank bare reached written (by simp [tabs]) fuel
    obtain ⟨more, next, steps, later⟩ :=
      ih (Nat.le_of_succ_le enough) passed.bare passed.reached passed.rest
    exact ⟨more, next, step.trans steps, passed.trans later⟩
  | lineEnd ends _ ih =>
    obtain ⟨fuel, rfl⟩ := Nat.exists_eq_add_of_le' (Nat.le_trans (Nat.le_add_left 1 _) enough)
    obtain ⟨left, middle, plenty, step, passed⟩ := skipToToken_break bare written ends fuel
    have shorter := Nat.le_trans (Nat.le_of_succ_le_succ enough) plenty
    obtain ⟨more, next, steps, later⟩ := ih shorter passed.bare passed.reached passed.rest
    exact ⟨more, next, step.trans steps, passed.trans later⟩
  | @comment place last words ending front unended ends _ ih =>
    have whole : scan.cursor.rest = '#' :: (words ++ ending :: (front ++ rest)) := by
      simpa using written
    obtain ⟨fuel, rfl⟩ := Nat.exists_eq_add_of_le' (Nat.le_trans (Nat.le_add_left 1 _) enough)
    obtain ⟨left, middle, plenty, step, passed⟩ :=
      skipToToken_comment bare whole unended ends fuel
    have shorter : front.length ≤ left := by
      simp only [List.length_cons, List.length_append] at enough
      omega
    obtain ⟨more, next, steps, later⟩ := ih shorter passed.bare passed.reached passed.rest
    exact ⟨more, next, step.trans steps, passed.trans later⟩

/-- **The reader stops in front of a token**, and at the end of the text. -/
theorem skipToToken_stop (remarks : Remarks place front last) {fuel : Nat}
    (enough : front.length ≤ fuel) (bare : scan.Bare) (reached : scan.At place)
    (written : scan.cursor.rest = front ++ rest)
    (firm : ∀ character, rest.head? = some character →
      isFirm character = true ∧ isBreak character = false) :
    Passes scan (skipToToken (fuel + 1) scan) rest last := by
  obtain ⟨more, next, steps, passes⟩ := skipToToken_remarks remarks enough bare reached written
  have stays : next.reach = next.cursor := reach_firm fun character first =>
    (firm character (passes.rest ▸ first)).1
  have goesOn : next.cursor.rest.head?.any isBreak = false := by
    rw [passes.rest]
    cases rest with
    | nil => rfl
    | cons character rest => exact (firm character rfl).2
  have stop : skipToToken (more + 1) next = next := by
    rw [skipToToken_succ, stays, goesOn]
    rfl
  rwa [steps, stop]

/-- **The reader passes remarks up to the end of the text.** -/
theorem skipToToken_closing {text : List Char} (closing : Closing place text) {fuel : Nat}
    (enough : text.length ≤ fuel) (bare : scan.Bare) (reached : scan.At place)
    (written : scan.cursor.rest = text) :
    ∃ last, Passes scan (skipToToken (fuel + 1) scan) [] last := by
  cases closing with
  | ended remarks =>
    rw [← List.append_nil text] at written
    exact ⟨_, skipToToken_stop remarks enough bare reached written nofun⟩
  | @comment front words last remarks unended =>
    have shorter : front.length ≤ fuel := by
      rw [List.length_append] at enough
      omega
    obtain ⟨more, next, steps, passes⟩ :=
      skipToToken_remarks remarks shorter bare reached written
    have behind : next.reach.rest = [] :=
      reach_comment (by rw [passes.rest, List.append_nil]) unended rfl
    have stop : skipToToken (more + 1) next = next.moveTo next.reach := by
      rw [skipToToken_succ, behind]
      rfl
    rw [steps, stop]
    exact ⟨.inside, behind, passes.tokens, passes.bare.moveTo _, trivial⟩

end Scan

end HostNet.Yaml
