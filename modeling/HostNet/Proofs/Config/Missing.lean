/-
**Documents without a value, and when they are refused as missing.**

A document in YAML has no value if there is nothing in it but remarks, the mark of a document and a
word for null. It is refused as missing by a look at its text and not at the document: the text
without its blank ends has to be empty, `null` or `~`. So a comment or a mark is enough for the
document to be taken for a configuration of nothing, and a word for null beside them, or in another
spelling, for one that cannot be read.

* `trim_of_unvalued`: without comments and marks, the text is its word between blanks;
* `isMissingDocument_iff`: which documents without a value are refused as missing;
* `ofDocument_of_void`: what a document is taken for if its root is left out or null;
* `ofDocument_unvalued`: what the documents without a value are taken for.
-/

import HostNet.Config.Document
import HostNet.Proofs.Yaml.Unvalued
import Mathlib.Data.List.TakeWhile

namespace HostNet

open HostNet.Text HostNet.Yaml

/-! ### Blank ends -/

/-- Blanks in front of something else are dropped. -/
theorem dropWhile_blank {front rest : List Char}
    (blank : ∀ character ∈ front, isBlank character = true)
    (firm : ∀ character, rest.head? = some character → isBlank character = false) :
    (front ++ rest).dropWhile isBlank = rest := by
  rw [List.dropWhile_append_of_pos blank]
  cases rest with
  | nil => rfl
  | cons character rest => rw [List.dropWhile_cons, firm character rfl, if_neg (by decide)]

/-- Nothing is left of blanks. -/
theorem trimList_blank {characters : List Char}
    (blank : ∀ character ∈ characters, isBlank character = true) : trimList characters = [] := by
  rw [trimList, List.dropWhile_eq_nil_iff.mpr blank]
  rfl

/-- What stands between blanks is left without them. -/
theorem trimList_between {front word tail : List Char}
    (before : ∀ character ∈ front, isBlank character = true)
    (after : ∀ character ∈ tail, isBlank character = true)
    (firm : ∀ character ∈ word, isBlank character = false) :
    trimList (front ++ (word ++ tail)) = word := by
  cases word with
  | nil => exact trimList_blank (List.forall_mem_append.mpr ⟨before, after⟩)
  | cons first word =>
    have head : ∀ character, (first :: word ++ tail).head? = some character →
        isBlank character = false := by
      rintro character ⟨⟩
      exact firm first List.mem_cons_self
    have last : ∀ character, (first :: word).reverse.head? = some character →
        isBlank character = false := fun character found =>
      firm character (List.mem_reverse.mp (List.mem_of_mem_head? found))
    rw [trimList, dropWhile_blank before head, List.reverse_append,
      dropWhile_blank (fun character inside => after character (List.mem_reverse.mp inside)) last,
      List.reverse_reverse]

/-- Trimming drops no character that is not blank. -/
theorem mem_trimList {characters : List Char} {character : Char} (inside : character ∈ characters)
    (firm : isBlank character = false) : character ∈ trimList characters := by
  have kept : ∀ {others : List Char}, character ∈ others → character ∈ others.dropWhile isBlank := by
    intro others member
    rw [← List.takeWhile_append_dropWhile (p := isBlank) (l := others), List.mem_append] at member
    refine member.resolve_left fun dropped => ?_
    rw [List.mem_takeWhile_imp dropped] at firm
    cases firm
  rw [trimList, List.mem_reverse]
  exact kept (List.mem_reverse.mpr (kept inside))

/-! ### Remarks without comments -/

theorem isBlank_of_isBreak {ending : Char} (ends : isBreak ending = true) :
    isBlank ending = true := by
  simp only [isBreak, Bool.or_eq_true, decide_eq_true_eq] at ends
  rcases ends with (((rfl | rfl) | rfl) | rfl) | rfl <;> decide

theorem blank_of_remarks {place last : LinePlace} {text : List Char}
    (remarks : Remarks place text last) (plain : '#' ∉ text) :
    ∀ character ∈ text, isBlank character = true := by
  induction remarks with
  | none => nofun
  | space _ ih =>
    exact List.forall_mem_cons.mpr ⟨by decide, ih fun inside => plain (List.mem_cons_of_mem _ inside)⟩
  | tab _ ih =>
    exact List.forall_mem_cons.mpr ⟨by decide, ih fun inside => plain (List.mem_cons_of_mem _ inside)⟩
  | lineEnd ends _ ih =>
    exact List.forall_mem_cons.mpr
      ⟨isBlank_of_isBreak ends, ih fun inside => plain (List.mem_cons_of_mem _ inside)⟩
  | comment => exact absurd List.mem_cons_self plain

theorem blank_of_closing {place : LinePlace} {text : List Char} (closing : Closing place text)
    (plain : '#' ∉ text) : ∀ character ∈ text, isBlank character = true := by
  cases closing with
  | ended remarks => exact blank_of_remarks remarks plain
  | comment => exact absurd (List.mem_append_right _ List.mem_cons_self) plain

theorem blank_of_trailer {text : List Char} (trailer : Trailer text) (plain : '#' ∉ text) :
    ∀ character ∈ text, isBlank character = true := by
  cases trailer with
  | blank blank =>
    intro character inside
    obtain spaced | ends := Bool.or_eq_true_iff.mp (blank character inside)
    · simp only [isSpacing, Bool.or_eq_true, decide_eq_true_eq] at spaced
      rcases spaced with rfl | rfl <;> decide
    · exact isBlank_of_isBreak ends
  | remarks => exact absurd (List.mem_append_right _ List.mem_cons_self) plain

theorem firm_of_isNull {word : String} (null : isNull word = true) :
    ∀ character ∈ word.toList, isBlank character = false := by
  obtain rfl | rfl | rfl | rfl := isNull_cases null <;> simp [isBlank]

theorem trimList_of_content {place : LinePlace} {text : List Char} {word : String}
    (content : Content place text word) (plain : '#' ∉ text) : trimList text = word.toList := by
  cases content with
  | absent closing => exact trimList_blank (blank_of_closing closing plain)
  | null remarks null trailer =>
    rw [List.mem_append, List.mem_append, not_or, not_or] at plain
    exact trimList_between (blank_of_remarks remarks plain.1) (blank_of_trailer trailer plain.2.2)
      (firm_of_isNull null)

/-- **Without comments and marks, a text without a value is its word between blanks.** -/
theorem trim_of_unvalued {text word : String} (unvalued : Unvalued text.toList word)
    (plain : '#' ∉ text.toList) (unmarked : '-' ∉ text.toList) : trim text = word := by
  rw [trim]
  generalize text.toList = characters at unvalued plain unmarked
  cases unvalued with
  | unmarked content => rw [trimList_of_content content plain, String.ofList_toList]
  | marked => exact absurd (List.mem_append_right _ List.mem_cons_self) unmarked

/-- **The documents without a value that are refused as missing** are those without comments and
marks, but for the spellings of null other than `null` and `~`. -/
theorem isMissingDocument_iff {text word : String} (unvalued : Unvalued text.toList word) :
    isMissingDocument text = true ↔
      '#' ∉ text.toList ∧ '-' ∉ text.toList ∧ (word = "" ∨ word = "null" ∨ word = "~") := by
  have shape : isMissingDocument text = true ↔
      trim text = "" ∨ trim text = "null" ∨ trim text = "~" := by
    simp [isMissingDocument, or_assoc]
  rw [shape]
  constructor
  · intro missing
    have absent : ∀ character, isBlank character = false →
        (∀ words, words = "" ∨ words = "null" ∨ words = "~" → character ∉ words.toList) →
        character ∉ text.toList := by
      intro character firm other inside
      have kept : character ∈ (trim text).toList := by
        rw [trim, String.toList_ofList]
        exact mem_trimList inside firm
      exact other (trim text) missing kept
    have plain := absent '#' (by decide) (by rintro _ (rfl | rfl | rfl) <;> decide)
    have unmarked := absent '-' (by decide) (by rintro _ (rfl | rfl | rfl) <;> decide)
    rw [trim_of_unvalued unvalued plain unmarked] at missing
    exact ⟨plain, unmarked, missing⟩
  · rintro ⟨plain, unmarked, missing⟩
    rw [trim_of_unvalued unvalued plain unmarked]
    exact missing

/-! ### What the documents are taken for -/

namespace NetworkConfig

/-- No field of a configuration has to be present. -/
theorem read_nothing {V : Type} (format : Format V) :
    (fields format).ofMembers format [] {} [] = .ok {} := by
  refine Record.ofMembers_nil _ _ _ _ fun field known required => ?_
  simp only [fields, List.mem_cons, List.not_mem_nil, or_false] at known
  rcases known with rfl | rfl | rfl | rfl | rfl | rfl <;> cases required

/-- A root that is left out is a configuration of nothing, and one that is null is none. -/
theorem decode_of_void {text word : String} {document : Document}
    (found : Document.ofText? text = some document)
    (root : document.root = .scalar none .plain word) :
    Yaml.decode fields text = if word = "" then .ok {} else .error .malformed := by
  have actual : document.actual document.root = .ok (.scalar none .plain word) := by
    rw [Document.actual, root]
    rfl
  rw [Yaml.decode, found]
  by_cases empty : word = ""
  · subst empty
    have contents : document.format.contents (fields document.format).title document.root =
        .ok (.members []) := by
      show document.asContents document.root = _
      rw [Document.asContents, actual]
      rfl
    simp only [Record.read, contents]
    exact read_nothing document.format
  · have contents : document.format.contents (fields document.format).title document.root =
        .error .malformed := by
      show document.asContents document.root = _
      rw [Document.asContents, actual]
      simp [empty, bind, Except.bind]
    simp only [Record.read, contents, if_neg empty]
    rfl

/-- **What a document is taken for if its root is left out or null**: it is missing if its text says
so, and otherwise it is a configuration of nothing, or cannot be read. -/
theorem ofDocument_of_void {text word : String} {document : Document}
    (found : Document.ofText? text = some document)
    (root : document.root = .scalar none .plain word) :
    ofDocument .yaml text =
      if isMissingDocument text then .error .missing
      else if word = "" then .ok {} else .error (.misfit .malformed) := by
  rw [ofDocument, DocumentForm.decode, decode_of_void found root]
  split
  · rfl
  · split <;> rfl

/-- **What the documents without a value are taken for.** A document of remarks, with or without the
mark of a document and a word for null, has nothing in it. It is refused as missing only if there is
neither a comment nor a mark in it and its word, if there is one, is `null` or `~`; otherwise it is a
configuration of nothing if there is no word in it, and cannot be read if there is one. -/
theorem ofDocument_unvalued {text word : String} (unvalued : Unvalued text.toList word)
    (allowed : text.toList.all isAllowed = true) :
    (∃ document, Document.ofText? text = some document ∧
      document.root = .scalar none .plain word) ∧
    ofDocument .yaml text =
      if '#' ∉ text.toList ∧ '-' ∉ text.toList ∧ (word = "" ∨ word = "null" ∨ word = "~") then
        .error .missing
      else if word = "" then .ok {} else .error (.misfit .malformed) := by
  obtain ⟨document, found, root⟩ := document_of_unvalued unvalued allowed
  refine ⟨⟨document, found, root⟩, ?_⟩
  rw [ofDocument_of_void found root]
  simp only [isMissingDocument_iff unvalued]

/-- A comment, a mark and a word for null with a comment behind it cannot be read. -/
theorem ofDocument_remarked :
    Unvalued "# none\n--- Null # yet".toList "Null" ∧
    ("# none\n--- Null # yet".toList.all isAllowed = true) ∧
    ofDocument .yaml "# none\n--- Null # yet" = .error (.misfit .malformed) := by
  have words : Unended " none".toList := by simp [Unended, isBreak]
  have remarks : Remarks .start "# none\n".toList .start := .comment words rfl (.none .start)
  have gap : Blank [' '] := by simp [Blank, isSpacing]
  have later : Unended " yet".toList := by simp [Unended, isBreak]
  have trailer : Trailer " # yet".toList :=
    .remarks gap (List.cons_ne_nil _ _) (.comment (.none .inside) later)
  have content : Content .behind ([' '] ++ ("Null".toList ++ " # yet".toList)) "Null" :=
    .null (.space (.none .behind)) rfl trailer
  have unvalued : Unvalued "# none\n--- Null # yet".toList "Null" := .marked remarks rfl content
  exact ⟨unvalued, by decide, (ofDocument_unvalued unvalued (by decide)).2⟩

/-- A lone comment is no value, and yet it is a configuration of nothing. -/
theorem ofDocument_comment :
    Unvalued "# none yet\n".toList "" ∧ ofDocument .yaml "# none yet\n" = .ok {} ∧
    ofDocument .yaml "# none yet\n" ≠ .error .missing := by
  have words : Unended " none yet".toList := by simp [Unended, isBreak]
  have remarks : Remarks .start "# none yet\n".toList .start := .comment words rfl (.none .start)
  have unvalued : Unvalued "# none yet\n".toList "" := .unmarked (.absent (.ended remarks))
  obtain ⟨document, found, root⟩ := document_of_unvalued unvalued (by decide)
  have taken : ofDocument .yaml "# none yet\n" = .ok {} := ofDocument_of_void found root
  refine ⟨unvalued, taken, ?_⟩
  simp [taken]

end NetworkConfig

end HostNet
