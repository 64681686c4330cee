/-
**YAML documents without a value.**

A text has no value if there is nothing in it but remarks, perhaps with the mark of a document in
front, or nothing but a word for null besides. The reader of tokens finds the mark and the word, and
nothing else; so the root of the document is left out, or it is that word.

* `Unvalued`: a text without a value, and the word for null in it, if there is one;
* `run_closing`, `run_mark`, `run_null`: what the reader of tokens does in one go;
* `tokens_of_unvalued`: the tokens of a text without a value;
* `document_of_unvalued`: its document.
-/

import HostNet.Proofs.Yaml.Remarks
import HostNet.Yaml.Format

namespace HostNet.Yaml

/-! ### Texts -/

/-- Blanks and line ends, tabs among them. -/
def Blank (gap : List Char) : Prop :=
  ∀ character ∈ gap, (isSpacing character || isBreak character) = true

/-- What may stand behind a word: blanks and line ends, and then a comment with more remarks. -/
inductive Trailer : List Char → Prop where
  | blank {gap : List Char} : Blank gap → Trailer gap
  | remarks {gap rest : List Char} :
    Blank gap → gap ≠ [] → Closing .inside ('#' :: rest) → Trailer (gap ++ '#' :: rest)

/-- Remarks up to the end of a text, with at most a word for null among them. -/
inductive Content (place : LinePlace) : List Char → String → Prop where
  | absent {text : List Char} : Closing place text → Content place text ""
  | null {front tail : List Char} {word : String} {last : LinePlace} :
    Remarks place front last → isNull word = true → Trailer tail →
    Content place (front ++ (word.toList ++ tail)) word

/-- **A text without a value**: remarks, then perhaps the mark of a document in a line of its own or
with more remarks behind it, and perhaps a word for null. -/
inductive Unvalued : List Char → String → Prop where
  | unmarked {text : List Char} {word : String} : Content .start text word → Unvalued text word
  | marked {front tail : List Char} {word : String} :
    Remarks .start front .start → endsWord tail = true → Content .behind tail word →
    Unvalued (front ++ '-' :: '-' :: '-' :: tail) word

/-! ### Words -/

theorem isNull_cases {word : String} (null : isNull word = true) :
    word = "null" ∨ word = "Null" ∨ word = "NULL" ∨ word = "~" := by
  simpa [isNull, or_assoc] using null

/-- The characters of a word for null. -/
structure NullCharacters (characters : List Char) : Prop where
  first : ∃ first others, characters = first :: others ∧ (first = 'n' ∨ first = 'N' ∨ first = '~')
  inner : ∀ character ∈ characters,
    isSpacing character = false ∧ isBreak character = false ∧ character ≠ ':'

theorem nullCharacters_of_isNull {word : String} (null : isNull word = true) :
    NullCharacters word.toList := by
  obtain rfl | rfl | rfl | rfl := isNull_cases null
  all_goals exact ⟨⟨_, _, rfl, by decide⟩, by simp [isSpacing, isBreak]⟩

/-- A word goes on up to a blank, a line end or the end of the text. -/
theorem cutPlainWord_word {word tail : List Char}
    (inner : ∀ character ∈ word,
      isSpacing character = false ∧ isBreak character = false ∧ character ≠ ':')
    (ends : endsWord tail = true) : cutPlainWord false (word ++ tail) = some (word, false) := by
  induction word with
  | nil =>
    cases tail with
    | nil => rfl
    | cons character rest =>
      rw [List.nil_append, cutPlainWord]
      exact if_pos ends
  | cons character word ih =>
    rw [List.forall_mem_cons] at inner
    obtain ⟨⟨unspaced, unended, noColon⟩, others⟩ := inner
    simp [cutPlainWord, unspaced, unended, noColon, ih others]

/-- Passing a line end of a gap leaves the rest of the gap. -/
theorem gap_skipBreak {gap rest : List Char} (blank : Blank gap)
    (firm : ∀ character, rest.head? = some character → isBreak character = false)
    {cursor : Cursor} {ending : Char} (written : cursor.rest = ending :: (gap ++ rest)) :
    ∃ left, Blank left ∧ left.length ≤ gap.length ∧ cursor.skipBreak.rest = left ++ rest := by
  obtain ⟨later, _, double, skipped⟩ | single := skipBreak_eq written
  · -- the second character of the line end belongs to the gap, since the rest starts with none
    cases gap with
    | nil => exact absurd (firm '\n' (by rw [← List.nil_append rest, double]; rfl)) (by decide)
    | cons feed gap =>
      rw [List.cons_append, List.cons.injEq] at double
      exact ⟨gap, (List.forall_mem_cons.mp blank).2, by simp, by rw [skipped, double.2]⟩
  · exact ⟨gap, blank, Nat.le_refl _, by rw [single]⟩

/-- A gap goes on up to something else. -/
theorem gap_read {gap rest : List Char} (blank : Blank gap)
    (firm : ∀ character, rest.head? = some character →
      isSpacing character = false ∧ isBreak character = false)
    {fuel : Nat} (enough : gap.length < fuel) (passed : Gap) {cursor : Cursor}
    (written : cursor.rest = gap ++ rest) :
    ∃ found after, Gap.read 0 fuel passed cursor = some (found, after) ∧ after.rest = rest := by
  induction fuel generalizing gap passed cursor with
  | zero => cases enough
  | succ fuel ih =>
    rw [Gap.read]
    cases gap with
    | nil =>
      rw [List.nil_append] at written
      cases rest with
      | nil => exact ⟨passed, cursor, by rw [written], written⟩
      | cons character later =>
        obtain ⟨unspaced, unended⟩ := firm character rfl
        exact ⟨passed, cursor, by simp [written, unspaced, unended], written⟩
    | cons character gap =>
      have shorter : gap.length < fuel := Nat.lt_of_succ_lt_succ enough
      obtain ⟨first, others⟩ := List.forall_mem_cons.mp blank
      rw [List.cons_append] at written
      rw [written]
      simp only
      by_cases spaced : isSpacing character = true
      · have onward : (cursor.skip 1).rest = gap ++ rest := by
          rw [Cursor.skip_rest, written, List.drop_one, List.tail_cons]
        rw [if_pos spaced]
        by_cases broken : passed.broken = true
        · rw [if_pos broken, if_neg (by simp)]
          exact ih others shorter _ onward
        · rw [if_neg broken]
          exact ih others shorter _ onward
      · have ends : isBreak character = true := by simpa [spaced] using first
        have taken : ∃ characters, cursor.readBreak = (characters, cursor.skipBreak) := by
          unfold Cursor.readBreak
          rw [written]
          simp only [ends, Bool.not_true, Bool.false_eq_true, if_false]
          split
          · exact ⟨_, rfl⟩
          · exact ⟨_, rfl⟩
        obtain ⟨characters, taken⟩ := taken
        obtain ⟨left, blankLeft, fewer, onward⟩ :=
          gap_skipBreak others (fun next head => (firm next head).2) written
        have left : left.length < fuel := Nat.lt_of_le_of_lt fewer shorter
        rw [if_neg spaced, if_pos ends, taken]
        simp only
        by_cases broken : passed.broken = true
        · rw [if_pos broken]
          exact ih blankLeft left _ onward
        · rw [if_neg broken]
          exact ih blankLeft left _ onward

/-! ### A plain scalar -/

/-- No document starts or ends in front of another character. -/
theorem isAtMark_of_ne {cursor : Cursor} {mark first : Char} {rest : List Char}
    (written : cursor.rest = first :: rest) (other : first ≠ mark) : cursor.isAtMark mark = false := by
  unfold Cursor.isAtMark
  rw [written]
  split
  · rename_i whole
    rw [List.cons.injEq] at whole
    simp [← whole.1, other]
  · simp

/-- The characters behind a word: blanks and line ends up to the end of the text or a comment. -/
structure Behind (tail rest : List Char) : Prop where
  gap : ∃ gap, Blank gap ∧ tail = gap ++ rest
  ends : endsWord tail = true
  left : rest = [] ∨ ∃ words, rest = '#' :: words
  closing : Closing .inside rest

theorem Trailer.behind {tail : List Char} (trailer : Trailer tail) : ∃ rest, Behind tail rest := by
  have ends : ∀ {gap others : List Char}, Blank gap → gap ≠ [] → endsWord (gap ++ others) = true := by
    intro gap others blank some
    cases gap with
    | nil => exact absurd rfl some
    | cons character gap => exact (List.forall_mem_cons.mp blank).1
  cases trailer with
  | blank blank =>
    refine ⟨[], ⟨_, blank, (List.append_nil _).symm⟩, ?_, .inl rfl, .ended (.none .inside)⟩
    cases tail with
    | nil => rfl
    | cons character gap => exact (List.forall_mem_cons.mp blank).1
  | @remarks gap rest blank some closing =>
    exact ⟨_, ⟨gap, blank, rfl⟩, ends blank some, .inr ⟨rest, rfl⟩, closing⟩

/-- A plain scalar ends in front of a comment and at the end of the text. -/
theorem readPlainFrom_end {cursor : Cursor}
    (left : cursor.rest = [] ∨ ∃ words, cursor.rest = '#' :: words) (fuel : Nat)
    (text : List Char) (gap : Gap) :
    ∃ broken after, readPlainFrom false 0 fuel text gap cursor = some (text, broken, after) ∧
      after.rest = cursor.rest := by
  cases fuel with
  | zero => exact ⟨gap.broken, cursor, rfl, rfl⟩
  | succ fuel =>
    rw [readPlainFrom]
    obtain none | ⟨words, hash⟩ := left
    · have unmarked : ∀ mark, cursor.isAtMark mark = false := by simp [Cursor.isAtMark, none]
      have unhashed : cursor.isAt '#' = false := by simp [Cursor.isAt, Cursor.next?, none]
      have cut : cutPlainWord false [] = some ([], false) := rfl
      refine ⟨gap.broken, cursor.skip 0, ?_, rfl⟩
      simp [Cursor.isAtDocument, unmarked, unhashed, cut, none]
    · have hashed : cursor.isAt '#' = true := by simp [Cursor.isAt, Cursor.next?, hash]
      refine ⟨gap.broken, cursor, ?_, rfl⟩
      rw [if_pos (by simp [hashed])]

/-- **A word for null is read as a plain scalar**, with the blanks and line ends behind it. -/
theorem readPlain_null {word tail rest : List Char} (characters : NullCharacters word)
    (behind : Behind tail rest) {cursor : Cursor} (written : cursor.rest = word ++ tail) :
    ∃ broken after, readPlain false 0 cursor = some (word, broken, after) ∧ after.rest = rest := by
  obtain ⟨first, others, spelled, letter⟩ := characters.first
  have head : cursor.rest = first :: (others ++ tail) := by
    rw [written, spelled, List.cons_append]
  have unmarked : ∀ mark, mark = '-' ∨ mark = '.' → cursor.isAtMark mark = false := by
    intro mark either
    refine isAtMark_of_ne head ?_
    rcases letter with rfl | rfl | rfl <;> rcases either with rfl | rfl <;> decide
  have unhashed : cursor.isAt '#' = false := by
    rw [Cursor.isAt, Cursor.next?, head]
    rcases letter with rfl | rfl | rfl <;> simp
  have cut := cutPlainWord_word characters.inner behind.ends
  rw [← written] at cut
  have onward : (cursor.skip word.length).rest = tail := by simp [written]
  have filled : word.isEmpty = false := by rw [spelled]; rfl
  have empty : Gap.text {} = [] := rfl
  have unmarkedAt : cursor.isAtDocument = false := by
    rw [Cursor.isAtDocument, unmarked _ (.inl rfl), unmarked _ (.inr rfl)]
    rfl
  obtain ⟨gap, blank, whole⟩ := behind.gap
  by_cases none : tail = []
  · have nothing : rest = [] := (List.append_eq_nil_iff.mp (whole ▸ none)).2
    refine ⟨false, cursor.skip word.length, ?_, by rw [onward, none, nothing]⟩
    rw [readPlain, readPlainFrom, unmarkedAt, unhashed, cut]
    simp [-Cursor.skip_rest, filled, onward, none, empty]
  · have firm : ∀ character, rest.head? = some character →
        isSpacing character = false ∧ isBreak character = false := by
      intro character found
      obtain nothing | ⟨words, hash⟩ := behind.left
      · rw [nothing] at found
        cases found
      · rw [hash, List.head?_cons, Option.some_inj] at found
        subst found
        decide
    have enough : gap.length < tail.length + 1 := by
      rw [whole, List.length_append]
      omega
    obtain ⟨found, middle, read, left⟩ := gap_read blank firm enough {} (onward.trans whole)
    obtain ⟨broken, after, ended, same⟩ := readPlainFrom_end (left ▸ behind.left)
      cursor.rest.length word found
    refine ⟨broken, after, ?_, same.trans left⟩
    rw [readPlain, readPlainFrom, unmarkedAt, unhashed, cut]
    simp [-Cursor.skip_rest, filled, onward, none, empty, behind.ends, read, ended]

namespace Scan

variable {scan : Scan} {place last : LinePlace} {front tail rest : List Char}

/-! ### Keys that come to nothing -/

/-- Nothing changes but the possible key, and no key is due. -/
structure Rekeyed (scan next : Scan) : Prop where
  cursor : next.cursor = scan.cursor
  tokens : next.tokens = scan.tokens
  keyAllowed : next.keyAllowed = scan.keyAllowed
  bare : next.Bare

theorem Bare.dropKey (bare : scan.Bare) : ∃ next, scan.dropKey = some next ∧ Rekeyed scan next := by
  obtain ⟨key, keys, free⟩ := bare.keys
  cases key with
  | none => exact ⟨scan, by simp [Scan.dropKey, keys], rfl, rfl, rfl, bare⟩
  | some noted =>
    exact ⟨{ scan with keys := [none] }, by simp [Scan.dropKey, keys, free noted rfl], rfl, rfl, rfl,
      bare.indents, none, rfl, nofun⟩

theorem Bare.dropStaleKeys (bare : scan.Bare) :
    ∃ next, scan.dropStaleKeys = some next ∧ Rekeyed scan next := by
  obtain ⟨key, keys, free⟩ := bare.keys
  have kept : ∀ test noted, key.filter test = some noted → noted.required = false :=
    fun test noted found => free noted (Option.filter_eq_some_iff.mp found).1
  refine ⟨{ scan with keys := [key.filter (!isStale scan.cursor ·)] }, ?_, rfl, rfl, rfl,
    bare.indents, _, rfl, kept _⟩
  have none : ([key].filterMap fun key => key.filter (isStale scan.cursor)).any (·.required) =
      false := by
    cases stale : key.filter (isStale scan.cursor) with
    | none => simp [stale]
    | some noted => simp [stale, kept _ noted stale]
  simp [Scan.dropStaleKeys, keys, none]

theorem Bare.noteKey (bare : scan.Bare) :
    ∃ next, scan.noteKey = some next ∧ Rekeyed scan next := by
  by_cases allowed : scan.keyAllowed = true
  · obtain ⟨dropped, drops, rekeyed⟩ := bare.dropKey
    obtain ⟨key, keys, _⟩ := rekeyed.bare.keys
    rw [Scan.noteKey, if_pos allowed, drops]
    refine ⟨_, rfl, rekeyed.cursor, rekeyed.tokens, rekeyed.keyAllowed, rekeyed.bare.indents, _,
      by rw [keys]; rfl, ?_⟩
    -- no block is open, so no key has to stand here
    intro noted found
    cases found
    simp [bare.indent_eq]
  · rw [Scan.noteKey, if_neg allowed]
    exact ⟨scan, rfl, rfl, rfl, rfl, bare⟩

theorem Bare.unroll (bare : scan.Bare) (column : Int) : scan.unroll column = scan := by
  have none := bare.indents
  rw [Scan.unroll, bare.notInFlow]
  obtain ⟨cursor, tokens, indents, keys, keyAllowed⟩ := scan
  subst none
  rfl

/-! ### The tokens of a text without a value -/

/-- The reader takes a token, with some text left at a place. -/
structure Takes (scan next : Scan) (token : Token) (rest : List Char) (place : LinePlace) :
    Prop where
  rest : next.cursor.rest = rest
  tokens : next.tokens = token :: scan.tokens
  bare : next.Bare
  reached : next.At place

/-- The mark of a document is taken at the start of a line. -/
theorem takeToken_mark (bare : scan.Bare) (start : scan.At .start)
    (written : scan.cursor.rest = '-' :: '-' :: '-' :: tail) (ends : endsWord tail = true) :
    ∃ next, scan.takeToken = some next ∧ Takes scan next .documentStart tail .behind := by
  have first : scan.cursor.column = 0 := start
  have marked : scan.cursor.isAtMark '-' = true := by simp [Cursor.isAtMark, first, written, ends]
  obtain ⟨dropped, drops, rekeyed⟩ := bare.dropKey
  refine ⟨(dropped.take 3 .documentStart).allowKey false, ?_, ?_⟩
  · simp [takeToken, written, marked, takeDocument, bare.unroll, drops]
  · refine ⟨?_, ?_, ((rekeyed.bare.moveTo _).push _).allowKey false, rfl⟩
    · show (dropped.cursor.skip 3).rest = tail
      rw [rekeyed.cursor, Cursor.skip_rest, written]
      rfl
    · show Token.documentStart :: dropped.tokens = _
      rw [rekeyed.tokens]

/-- In front of the first letter of a word for null, a plain scalar is taken. -/
theorem takeToken_eq_takePlain (bare : scan.Bare) {first : Char}
    (letter : first = 'n' ∨ first = 'N' ∨ first = '~') (written : scan.cursor.rest = first :: rest) :
    scan.takeToken = scan.takePlain := by
  have unmarked : ∀ mark, mark = '-' ∨ mark = '.' → scan.cursor.isAtMark mark = false := by
    intro mark either
    refine isAtMark_of_ne written ?_
    rcases letter with rfl | rfl | rfl <;> rcases either with rfl | rfl <;> decide
  have starts : startsPlain scan.inFlow first rest = true := by
    rw [bare.notInFlow]
    rcases letter with rfl | rfl | rfl <;> rfl
  simp only [takeToken, written, unmarked _ (.inl rfl), unmarked _ (.inr rfl), starts]
  rcases letter with rfl | rfl | rfl <;> simp

/-- A word for null is taken as a plain scalar. -/
theorem takeToken_null {word : List Char} (bare : scan.Bare) (characters : NullCharacters word)
    (behind : Behind tail rest) (written : scan.cursor.rest = word ++ tail) :
    ∃ next, scan.takeToken = some next ∧
      Takes scan next (.scalar .plain (String.ofList word)) rest .inside := by
  obtain ⟨first, others, spelled, letter⟩ := characters.first
  have head : scan.cursor.rest = first :: (others ++ tail) := by
    rw [written, spelled, List.cons_append]
  obtain ⟨noted, notes, rekeyed⟩ := bare.noteKey
  have plain : noted.cursor.rest = word ++ tail := by rw [rekeyed.cursor, written]
  obtain ⟨broken, after, read, left⟩ := readPlain_null characters behind plain
  have top : (noted.indent + 1).toNat = 0 := by rw [rekeyed.bare.indent_eq]; rfl
  refine ⟨((noted.moveTo after).push (.scalar .plain (String.ofList word))).allowKey broken,
    ?_, left, ?_, ((rekeyed.bare.moveTo _).push _).allowKey _, trivial⟩
  · rw [takeToken_eq_takePlain bare letter head, takePlain, notes]
    simp [rekeyed.bare.notInFlow, top, read]
  · show Token.scalar .plain (String.ofList word) :: noted.tokens = _
    rw [rekeyed.tokens]

/-- What the reader does behind the remarks: it ends with the text, or it takes a token. -/
theorem run_passes (passes : Passes scan (skipToToken (scan.cursor.rest.length + 1) scan) rest place)
    (fuel : Nat) :
    ∃ next, Passes scan next rest place ∧ run (fuel + 1) scan =
      if rest.isEmpty then next.dropKey else next.takeToken.bind (run fuel) := by
  obtain ⟨next, drops, rekeyed⟩ := passes.bare.dropStaleKeys
  have left : next.cursor.rest = rest := by rw [rekeyed.cursor, passes.rest]
  refine ⟨next, ⟨left, rekeyed.tokens.trans passes.tokens, rekeyed.bare, ?_⟩, ?_⟩
  · cases place with
    | start => exact (congrArg Cursor.column rekeyed.cursor).trans passes.reached
    | inside => trivial
    | behind => exact rekeyed.keyAllowed.trans passes.reached
  · rw [run, drops]
    simp [left, rekeyed.bare.unroll]

/-- **The reader ends** behind remarks up to the end of the text. -/
theorem run_closing {text : List Char} (closing : Closing place text) (bare : scan.Bare)
    (reached : scan.At place) (written : scan.cursor.rest = text) (fuel : Nat) :
    ∃ final, run (fuel + 1) scan = some final ∧ final.tokens = scan.tokens := by
  have enough : text.length ≤ scan.cursor.rest.length := Nat.le_of_eq (by rw [written])
  obtain ⟨last, passes⟩ := skipToToken_closing closing enough bare reached written
  obtain ⟨next, passed, runs⟩ := run_passes passes fuel
  obtain ⟨final, drops, rekeyed⟩ := passed.bare.dropKey
  exact ⟨final, by rw [runs]; exact drops, rekeyed.tokens.trans passed.tokens⟩

/-- The reader takes the mark of a document behind remarks that end at the start of a line. -/
theorem run_mark (remarks : Remarks place front .start) (ends : endsWord tail = true)
    (bare : scan.Bare) (reached : scan.At place)
    (written : scan.cursor.rest = front ++ '-' :: '-' :: '-' :: tail) (fuel : Nat) :
    ∃ next, run (fuel + 1) scan = run fuel next ∧
      Takes scan next .documentStart tail .behind := by
  have enough : front.length ≤ scan.cursor.rest.length := by
    rw [written, List.length_append]
    omega
  have passes := skipToToken_stop remarks enough bare reached written fun character first => by
    cases first
    decide
  obtain ⟨middle, passed, runs⟩ := run_passes passes fuel
  obtain ⟨next, takes, taken⟩ := takeToken_mark passed.bare passed.reached passed.rest ends
  refine ⟨next, ?_, taken.rest, taken.tokens.trans (by rw [passed.tokens]), taken.bare,
    taken.reached⟩
  rw [runs, takes]
  rfl

/-- The reader takes a word for null behind remarks. -/
theorem run_null {word : List Char} (remarks : Remarks place front last)
    (characters : NullCharacters word) (behind : Behind tail rest) (bare : scan.Bare)
    (reached : scan.At place) (written : scan.cursor.rest = front ++ (word ++ tail)) (fuel : Nat) :
    ∃ next, run (fuel + 1) scan = run fuel next ∧
      Takes scan next (.scalar .plain (String.ofList word)) rest .inside := by
  have enough : front.length ≤ scan.cursor.rest.length := by
    rw [written, List.length_append]
    omega
  obtain ⟨first, others, spelled, letter⟩ := characters.first
  have passes := skipToToken_stop remarks enough bare reached written fun character head => by
    rw [spelled, List.cons_append, List.head?_cons, Option.some_inj] at head
    subst head
    rcases letter with rfl | rfl | rfl <;> decide
  obtain ⟨middle, passed, runs⟩ := run_passes passes fuel
  obtain ⟨next, takes, taken⟩ := takeToken_null passed.bare characters behind passed.rest
  refine ⟨next, ?_, taken.rest, taken.tokens.trans (by rw [passed.tokens]), taken.bare,
    taken.reached⟩
  have filled : (word ++ tail).isEmpty = false := by rw [spelled]; rfl
  rw [runs, takes, filled]
  rfl

end Scan

/-! ### The document -/

/-- The tokens of a text that holds at most a word. -/
def wordTokens (word : String) : List Token :=
  if word = "" then [] else [.scalar .plain word]

theorem run_content {scan : Scan} {place : LinePlace} {text : List Char} {word : String}
    (content : Content place text word) {fuel : Nat} (enough : text.length < fuel)
    (bare : scan.Bare) (reached : scan.At place) (written : scan.cursor.rest = text) :
    ∃ final, Scan.run fuel scan = some final ∧ final.tokens = wordTokens word ++ scan.tokens := by
  cases fuel with
  | zero => cases enough
  | succ fuel =>
    cases content with
    | absent closing => exact Scan.run_closing closing bare reached written fuel
    | @null front tail word last remarks null trailer =>
      obtain ⟨rest, behind⟩ := trailer.behind
      have characters := nullCharacters_of_isNull null
      obtain ⟨next, runs, taken⟩ :=
        Scan.run_null remarks characters behind bare reached written fuel
      have filled : word ≠ "" := by
        rintro rfl
        exact absurd null (by decide)
      have some : 0 < word.toList.length := by
        obtain ⟨first, others, spelled, _⟩ := characters.first
        simp [spelled]
      cases fuel with
      | zero =>
        simp only [List.length_append] at enough
        omega
      | succ fuel =>
        obtain ⟨final, ends, tokens⟩ :=
          Scan.run_closing behind.closing taken.bare taken.reached taken.rest fuel
        refine ⟨final, runs.trans ends, ?_⟩
        rw [tokens, taken.tokens, wordTokens, if_neg filled, String.ofList_toList]
        rfl

/-- **The tokens of a text without a value** are at most the mark of a document and a word. -/
theorem tokens_of_unvalued {text word : String} (unvalued : Unvalued text.toList word)
    (allowed : text.toList.all isAllowed = true) :
    ∃ mark, (mark = [] ∨ mark = [.documentStart]) ∧
      Token.ofText? text = some (mark ++ wordTokens word) := by
  have bare : Scan.Bare { cursor := ⟨text.toList, 0, 0, 0⟩ } := ⟨rfl, none, rfl, nofun⟩
  unfold Token.ofText?
  simp only [allowed, if_true]
  have turned : (wordTokens word).reverse = wordTokens word := by
    unfold wordTokens
    split <;> rfl
  generalize text.toList = characters at unvalued bare
  cases unvalued with
  | unmarked content =>
    obtain ⟨final, runs, tokens⟩ := run_content content (Nat.lt_succ_self _) bare rfl rfl
    refine ⟨[], .inl rfl, ?_⟩
    rw [runs, Option.map_some, tokens]
    simp [turned]
  | @marked front tail word remarks ends content =>
    obtain ⟨next, runs, taken⟩ := Scan.run_mark remarks ends bare rfl rfl
      (front ++ '-' :: '-' :: '-' :: tail).length
    have enough : tail.length < (front ++ '-' :: '-' :: '-' :: tail).length := by
      simp only [List.length_append, List.length_cons]
      omega
    obtain ⟨final, ended, tokens⟩ := run_content content enough taken.bare taken.reached taken.rest
    refine ⟨[.documentStart], .inr rfl, ?_⟩
    rw [runs, ended, Option.map_some, tokens, taken.tokens]
    simp [turned]

theorem document_of_tokens {mark : List Token} (single : mark = [] ∨ mark = [.documentStart])
    (word : String) :
    ∃ document, Document.ofTokens? (mark ++ wordTokens word) = some document ∧
      document.root = .scalar none .plain word := by
  by_cases empty : word = ""
  · subst empty
    rcases single with rfl | rfl
    · exact ⟨_, rfl, rfl⟩
    · exact ⟨_, rfl, rfl⟩
  · rw [wordTokens, if_neg empty]
    rcases single with rfl | rfl
    · exact ⟨_, rfl, rfl⟩
    · exact ⟨_, rfl, rfl⟩

/-- **The document of a text without a value** has nothing but a plain scalar: the word for null in
it, or none. -/
theorem document_of_unvalued {text word : String} (unvalued : Unvalued text.toList word)
    (allowed : text.toList.all isAllowed = true) :
    ∃ document, Document.ofText? text = some document ∧ document.root = .scalar none .plain word := by
  obtain ⟨mark, single, tokens⟩ := tokens_of_unvalued unvalued allowed
  obtain ⟨document, found, root⟩ := document_of_tokens single word
  exact ⟨document, by rw [Document.ofText?, tokens]; exact found, root⟩

end HostNet.Yaml
