/-
**The answers of a script.**

A script is made of additions, each with an answer for the commands whose line begins in some way.
Then commands are run on hosts that have the script for a runner. Each command that is not refused
belongs to one rule at most, the one with the longest beginning of its line, and only what this rule
was given and how often it has answered count for the answer to the command: the script keeps its
rules apart, however they overlap and in whatever order they came to be.

* `IsLongestOpening`: the longest of some texts with which a line begins, of which there is one at
  most;
* `queued` and `turns`: the answers added for a beginning, and the commands that its rule answered;
* `Stands`: a script after some additions and commands;
* `Stands.add` and `Stands.respond`: one more addition, and one more command;
* `NextAnswer`: the answer to the next command, from what was added and asked before;
* `answers_by_turn`: what becomes of commands that are run one after the other.
-/

import HostNet.Host.Script
import HostNet.Proofs.Host.Attempt
import Mathlib.Data.List.Induction
import Mathlib.Data.List.Nodup

namespace HostNet

open HostNet.Text

/-! ### The longest beginning of a line -/

/-- A line begins with none of some texts. -/
def Unopened (openings : List String) (line : String) : Prop :=
  ∀ opening ∈ openings, ¬ opening.toList <+: line.toList

/-- A text is one of some with which a line begins, and all others of these are shorter. -/
def IsLongestOpening (openings : List String) (line opening : String) : Prop :=
  opening ∈ openings ∧ opening.toList <+: line.toList ∧
    ∀ other ∈ openings, other.toList <+: line.toList → other ≠ opening →
      other.utf8ByteSize < opening.utf8ByteSize

instance (openings : List String) (line opening : String) :
    Decidable (IsLongestOpening openings line opening) :=
  inferInstanceAs (Decidable (opening ∈ openings ∧ opening.toList <+: line.toList ∧
    ∀ other ∈ openings, other.toList <+: line.toList → other ≠ opening →
      other.utf8ByteSize < opening.utf8ByteSize))

section Openings

variable {openings others : List String} {line opening other : String}

/-- A line has one beginning of each length. -/
theorem opening_eq_of_size_eq (begins : opening.toList <+: line.toList)
    (alsoBegins : other.toList <+: line.toList) (size : opening.utf8ByteSize = other.utf8ByteSize) :
    opening = other := by
  have shorter {front back : String} (inside : front.toList <+: back.toList)
      (size : front.utf8ByteSize = back.utf8ByteSize) : front = back := by
    obtain ⟨rest, whole⟩ := inside
    have parts : back = front ++ String.ofList rest := by
      rw [← String.toList_inj, String.toList_append, String.toList_ofList, whole]
    rw [parts, String.utf8ByteSize_append, Nat.left_eq_add, String.utf8ByteSize_eq_zero_iff] at size
    rw [parts, size, String.append_empty]
  obtain inside | inside := List.prefix_or_prefix_of_prefix begins alsoBegins
  · exact shorter inside size
  · exact (shorter inside size.symm).symm

theorem Unopened.not_longest (unopened : Unopened openings line) (opening : String) :
    ¬ IsLongestOpening openings line opening :=
  fun longest => unopened opening longest.1 longest.2.1

theorem IsLongestOpening.unique (longest : IsLongestOpening openings line opening)
    (also : IsLongestOpening openings line other) : other = opening := by
  by_contra different
  have less := longest.2.2 other also.1 also.2.1 different
  have more := also.2.2 opening longest.1 longest.2.1 (Ne.symm different)
  omega

/-- Which of some texts is the longest beginning depends on nothing but which texts these are. -/
theorem IsLongestOpening.congr (same : ∀ text, text ∈ openings ↔ text ∈ others) :
    IsLongestOpening openings line opening ↔ IsLongestOpening others line opening := by
  simp only [IsLongestOpening, same]

theorem longestOpening?_eq_none_iff :
    longestOpening? line openings = none ↔ Unopened openings line := by
  induction openings with
  | nil => simp [longestOpening?, Unopened]
  | cons first others ih =>
    by_cases begins : first.toList <+: line.toList
    · simp [longestOpening?, startsWith, Unopened, begins]
    · simpa [longestOpening?, startsWith, Unopened, begins] using ih

/-- What is found is a beginning, and no other is longer. That none is as long either does not have
to be carried through the list: it holds of the beginnings of any line. -/
theorem size_le_of_found (found : longestOpening? line openings = some opening) :
    opening ∈ openings ∧ opening.toList <+: line.toList ∧
      ∀ other ∈ openings, other.toList <+: line.toList →
        other.utf8ByteSize ≤ opening.utf8ByteSize := by
  induction openings generalizing opening with
  | nil => cases found
  | cons first others ih =>
    simp only [List.mem_cons, forall_eq_or_imp]
    by_cases begins : first.toList <+: line.toList
    · have chosen : longerOf first (longestOpening? line others) = opening := by
        simpa [longestOpening?, startsWith, begins] using found
      cases rest : longestOpening? line others with
      | none =>
        have unopened := longestOpening?_eq_none_iff.mp rest
        obtain rfl : first = opening := by simpa [longerOf, rest] using chosen
        exact ⟨.inl rfl, begins, fun _ => Nat.le_refl _, fun other among alsoBegins =>
          absurd alsoBegins (unopened other among)⟩
      | some second =>
        obtain ⟨inside, secondBegins, longest⟩ := ih rest
        rw [rest, longerOf] at chosen
        split at chosen
        · rename_i longer
          subst chosen
          exact ⟨.inr inside, secondBegins, fun _ => Nat.le_of_lt longer, longest⟩
        · rename_i notLonger
          subst chosen
          exact ⟨.inl rfl, begins, fun _ => Nat.le_refl _, fun other among alsoBegins =>
            Nat.le_trans (longest other among alsoBegins) (Nat.le_of_not_lt notLonger)⟩
    · have later : longestOpening? line others = some opening := by
        simpa [longestOpening?, startsWith, begins] using found
      obtain ⟨inside, openingBegins, longest⟩ := ih later
      exact ⟨.inr inside, openingBegins, fun alsoBegins => absurd alsoBegins begins, longest⟩

theorem isLongestOpening_of_found (found : longestOpening? line openings = some opening) :
    IsLongestOpening openings line opening := by
  obtain ⟨inside, begins, longest⟩ := size_le_of_found found
  refine ⟨inside, begins, fun other among alsoBegins different => ?_⟩
  exact Nat.lt_of_le_of_ne (longest other among alsoBegins) fun size =>
    different (opening_eq_of_size_eq alsoBegins begins size)

theorem longestOpening?_eq_some_iff :
    longestOpening? line openings = some opening ↔ IsLongestOpening openings line opening := by
  refine ⟨isLongestOpening_of_found, fun longest => ?_⟩
  cases found : longestOpening? line openings with
  | none => exact absurd longest ((longestOpening?_eq_none_iff.mp found).not_longest opening)
  | some other => rw [longest.unique (isLongestOpening_of_found found)]

/-- **A line that begins with one of some texts begins with one that is the longest.** -/
theorem unopened_or_longest (openings : List String) (line : String) :
    Unopened openings line ∨ ∃! opening, IsLongestOpening openings line opening := by
  cases found : longestOpening? line openings with
  | none => exact .inl (longestOpening?_eq_none_iff.mp found)
  | some opening =>
    have longest := isLongestOpening_of_found found
    exact .inr ⟨opening, longest, fun other also => longest.unique also⟩

end Openings

/-! ### Rules -/

/-- The answers that a rule still has. -/
def ScriptRule.answers (rule : ScriptRule) : List (Option Answer) := rule.next :: rule.later

/-- A rule gives an answer away unless it is the last. -/
theorem ScriptRule.answers_advance (rule : ScriptRule) :
    rule.advance.answers = rule.answers.drop (min 1 (rule.answers.length - 1)) := by
  obtain ⟨opening, next, later⟩ := rule
  cases later with
  | nil => rfl
  | cons second others => simp [advance, answers]

@[simp] theorem ScriptRule.opening_advance (rule : ScriptRule) :
    rule.advance.opening = rule.opening := by
  unfold advance
  split <;> rfl

namespace Script

variable {script other : Script} {line : String} {rule : ScriptRule}

/-- The rule for a line is the one with the longest beginning. -/
theorem rule?_eq_some_iff (distinct : (script.rules.map (·.opening)).Nodup) :
    script.rule? line = some rule ↔
      rule ∈ script.rules ∧ IsLongestOpening (script.rules.map (·.opening)) line rule.opening := by
  unfold rule?
  simp only [Option.bind_eq_some_iff, longestOpening?_eq_some_iff]
  constructor
  · rintro ⟨opening, longest, found⟩
    have same : rule.opening = opening := by simpa using List.find?_some found
    exact ⟨List.mem_of_find?_eq_some found, same ▸ longest⟩
  · rintro ⟨inside, longest⟩
    refine ⟨rule.opening, longest, ?_⟩
    cases found : script.rules.find? (·.opening = rule.opening) with
    | none =>
      have absent := List.find?_eq_none.mp found rule inside
      simp at absent
    | some first =>
      have same : first.opening = rule.opening := by simpa using List.find?_some found
      rw [List.inj_on_of_nodup_map distinct (List.mem_of_find?_eq_some found) inside same]

theorem rule?_eq_none (unopened : Unopened (script.rules.map (·.opening)) line) :
    script.rule? line = none := by
  rw [rule?, longestOpening?_eq_none_iff.mpr unopened]
  rfl

@[simp] theorem advance_openings (script : Script) (opening : String) :
    (script.advance opening).rules.map (·.opening) = script.rules.map (·.opening) := by
  simp only [advance, List.map_map]
  refine List.map_congr_left fun rule _ => ?_
  simp only [Function.comp_apply]
  split <;> simp

/-- A command makes no rule and removes none. -/
theorem respond_openings (script : Script) (command : Command) :
    (respond script command).2.rules.map (·.opening) = script.rules.map (·.opening) := by
  unfold respond
  dsimp only
  split
  · exact advance_openings script _
  · rfl

/-- What a script does with a command that has a rule. -/
theorem respond_of_rule {command : Command} (found : script.rule? command.line = some rule) :
    (respond script command).1.answer = rule.next ∧
      (respond script command).2.rules = (script.advance rule.opening).rules := by
  simp only [respond, found, and_self]

/-- Without a rule a command succeeds and writes nothing. -/
theorem respond_of_no_rule {command : Command} (missing : script.rule? command.line = none) :
    (respond script command).1.answer = some (.finished {}) ∧
      (respond script command).2.rules = script.rules := by
  simp only [respond, missing, and_self]

/-- The time of a command does not depend on the rules, and remains as it is. -/
theorem respond_delay (script : Script) (command : Command) :
    (respond script command).1.delay = script.delay command.line ∧
      (respond script command).2.delays = script.delays := by
  unfold respond
  dsimp only
  split <;> exact ⟨rfl, rfl⟩

theorem delay_congr (same : script.delays = other.delays) (line : String) :
    script.delay line = other.delay line := by
  rw [delay, delay, same]

/-! ### Additions -/

/-- An answer, or none for a hang, that is added for the commands whose line begins in some way. -/
structure Addition where
  opening : String
  answer : Option Answer
  deriving Repr, DecidableEq

/-- A script after additions. -/
def addAll (script : Script) (additions : List Addition) : Script :=
  additions.foldl (fun script addition => script.add addition.opening addition.answer) script

/-- The beginnings for which something is added. -/
def openings (additions : List Addition) : List String := additions.map (·.opening)

/-- The answers that are added for a beginning, in their order. -/
def queued (additions : List Addition) (opening : String) : List (Option Answer) :=
  (additions.filter (·.opening = opening)).map (·.answer)

/-- How many of some commands the rule of a beginning answers. -/
def turns (additions : List Addition) (opening : String) (asked : List Command) : Nat :=
  asked.countP fun command => decide (IsLongestOpening (openings additions) command.line opening)

section Queues

variable {additions others : List Addition} {opening : String}

theorem queued_concat (additions : List Addition) (addition : Addition) (opening : String) :
    queued (additions ++ [addition]) opening =
      queued additions opening ++ if addition.opening = opening then [addition.answer] else [] := by
  by_cases same : addition.opening = opening <;> simp [queued, same]

theorem queued_eq_nil_iff : queued additions opening = [] ↔ opening ∉ openings additions := by
  simp [queued, openings]

theorem mem_openings_iff :
    opening ∈ openings additions ↔ 0 < (queued additions opening).length := by
  rw [List.length_pos_iff, ne_eq, queued_eq_nil_iff, not_not]

theorem openings_congr (same : ∀ opening, queued others opening = queued additions opening)
    (opening : String) : opening ∈ openings others ↔ opening ∈ openings additions := by
  rw [mem_openings_iff, mem_openings_iff, same]

theorem turns_concat (additions : List Addition) (opening : String) (asked : List Command)
    (command : Command) : turns additions opening (asked ++ [command]) =
      turns additions opening asked +
        if IsLongestOpening (openings additions) command.line opening then 1 else 0 := by
  simp [turns, List.countP_append, List.countP_singleton]

theorem turns_congr (same : ∀ opening, queued others opening = queued additions opening)
    (opening : String) (asked : List Command) :
    turns others opening asked = turns additions opening asked := by
  simp only [turns, IsLongestOpening.congr (openings_congr same)]

end Queues

/-! ### A script after additions and commands -/

/-- **A script stands as it does after some additions and some commands**, on which it takes given
times. Each beginning for which something was added has one rule. With each command that it
answered the rule gave away an answer, but never its last. -/
structure Stands (delays : List (String × Nat)) (additions : List Addition) (asked : List Command)
    (script : Script) : Prop where
  delays_eq : script.delays = delays
  distinct : (script.rules.map (·.opening)).Nodup
  listed : ∀ opening, opening ∈ script.rules.map (·.opening) ↔ opening ∈ openings additions
  left : ∀ rule ∈ script.rules, rule.answers = (queued additions rule.opening).drop
    (min (turns additions rule.opening asked) ((queued additions rule.opening).length - 1))

/-- **The answer to the next command.** If its line has a beginning for which something was added,
it is the turn of the rule of the longest one, and the number of the turn is that of the answer,
except that the last of the answers is also that of all later turns. Otherwise the command succeeds
and writes nothing. -/
inductive NextAnswer (additions : List Addition) (asked : List Command) (line : String) :
    Option Answer → Prop
  | ruled {opening : String} {answer : Option Answer}
      (longest : IsLongestOpening (openings additions) line opening)
      (numbered : (queued additions opening)[min (turns additions opening asked + 1)
        (queued additions opening).length - 1]? = some answer) :
      NextAnswer additions asked line answer
  | unruled (unopened : Unopened (openings additions) line) :
      NextAnswer additions asked line (some (.finished {}))

section Standing

variable {delays : List (String × Nat)} {additions others : List Addition} {asked : List Command}
  {command : Command} {answer : Option Answer}

theorem NextAnswer.unique {also : Option Answer} (next : NextAnswer additions asked line answer)
    (other : NextAnswer additions asked line also) : also = answer := by
  cases next with
  | ruled longest numbered =>
    cases other with
    | ruled also alsoNumbered =>
      obtain rfl := longest.unique also
      exact Option.some.inj (alsoNumbered.symm.trans numbered)
    | unruled unopened => exact absurd longest (unopened.not_longest _)
  | unruled unopened =>
    cases other with
    | ruled longest _ => exact absurd longest (unopened.not_longest _)
    | unruled _ => rfl

namespace Stands

/-- Only what is added for each beginning counts, not the order in which this is done. -/
theorem congr (same : ∀ opening, queued others opening = queued additions opening)
    (stands : Stands delays others asked script) : Stands delays additions asked script where
  delays_eq := stands.delays_eq
  distinct := stands.distinct
  listed opening := (stands.listed opening).trans (openings_congr same opening)
  left rule inside := by
    rw [stands.left rule inside, same, turns_congr same]

/-- A script without rules. -/
theorem initial (delays : List (String × Nat)) (cancelAfter : Option Nat) :
    Stands delays [] [] { delays := delays, cancelAfter := cancelAfter } where
  delays_eq := rfl
  distinct := List.nodup_nil
  listed _ := Iff.rfl
  left := nofun

/-- An added answer comes last for its beginning, and makes a rule for it if there is none. -/
theorem answers_add (stands : Stands delays additions [] script) (addition : Addition) :
    ∀ rule ∈ (script.add addition.opening addition.answer).rules,
      rule.answers = queued (additions ++ [addition]) rule.opening := by
  have queue : ∀ rule ∈ script.rules, rule.answers = queued additions rule.opening := by
    intro rule inside
    simpa [turns] using stands.left rule inside
  by_cases known : script.rules.any (·.opening = addition.opening) = true
  · rw [Script.add, if_pos known]
    intro rule inside
    obtain ⟨old, before, rfl⟩ := List.mem_map.mp inside
    by_cases same : old.opening = addition.opening
    · rw [if_pos same, queued_concat, if_pos same.symm, ← queue old before]
      rfl
    · rw [if_neg same, queued_concat, if_neg (Ne.symm same), List.append_nil, queue old before]
  · have unlisted : addition.opening ∉ script.rules.map (·.opening) := by simpa using known
    rw [Script.add, if_neg known]
    intro rule inside
    obtain before | new := List.mem_append.mp inside
    · have other : addition.opening ≠ rule.opening := fun same =>
        unlisted (same ▸ List.mem_map_of_mem before)
      rw [queued_concat, if_neg other, List.append_nil, queue rule before]
    · obtain rfl := List.mem_singleton.mp new
      rw [queued_concat, if_pos rfl, queued_eq_nil_iff.mpr fun listed =>
        unlisted ((stands.listed _).mpr listed)]
      rfl

/-- **One more addition**, before any command. -/
theorem add (stands : Stands delays additions [] script) (addition : Addition) :
    Stands delays (additions ++ [addition]) [] (script.add addition.opening addition.answer) := by
  have rules := add_openings script addition.opening addition.answer
  refine ⟨?_, ?_, ?_, ?_⟩
  · rw [← stands.delays_eq, Script.add]
    split <;> rfl
  · rw [rules]
    split
    · exact stands.distinct
    · rename_i unlisted
      exact List.nodup_append_comm.mp (List.nodup_cons.mpr ⟨unlisted, stands.distinct⟩)
  · intro opening
    have added : opening ∈ openings (additions ++ [addition]) ↔
        opening ∈ script.rules.map (·.opening) ∨ opening = addition.opening := by
      rw [stands.listed]
      simp [openings]
    rw [rules, added]
    split
    · rename_i listed
      exact ⟨.inl, fun either => either.elim id fun same => same ▸ listed⟩
    · simp
  · intro rule inside
    simpa [turns] using stands.answers_add addition rule inside

/-- Any number of additions. -/
theorem addAll (delays : List (String × Nat)) (cancelAfter : Option Nat)
    (additions : List Addition) :
    Stands delays additions []
      (Script.addAll { delays := delays, cancelAfter := cancelAfter } additions) := by
  induction additions using List.reverseRecOn with
  | nil => exact initial delays cancelAfter
  | append_singleton additions addition ih =>
    rw [Script.addAll, List.foldl_concat]
    exact ih.add addition

/-- The longest beginning of a line among the rules is the one among the additions. -/
theorem longest_iff (stands : Stands delays additions asked script) {line opening : String} :
    IsLongestOpening (script.rules.map (·.opening)) line opening ↔
      IsLongestOpening (openings additions) line opening :=
  IsLongestOpening.congr stands.listed

/-- The rule of the longest beginning of a line is found. -/
theorem exists_rule (stands : Stands delays additions asked script) {line opening : String}
    (longest : IsLongestOpening (openings additions) line opening) :
    ∃ rule, script.rule? line = some rule ∧ rule ∈ script.rules ∧ rule.opening = opening := by
  have listed := stands.longest_iff.mpr longest
  obtain ⟨rule, inside, rfl⟩ := List.mem_map.mp listed.1
  exact ⟨rule, (rule?_eq_some_iff stands.distinct).mpr ⟨inside, listed⟩, inside, rfl⟩

/-- No rule is found for a line without a beginning. -/
theorem rule?_unlisted (stands : Stands delays additions asked script) {line : String}
    (unopened : Unopened (openings additions) line) : script.rule? line = none :=
  rule?_eq_none fun opening listed => unopened opening ((stands.listed opening).mp listed)

/-- Something was added for the beginning of each rule. -/
theorem queued_pos (stands : Stands delays additions asked script) (inside : rule ∈ script.rules) :
    0 < (queued additions rule.opening).length :=
  mem_openings_iff.mp ((stands.listed _).mp (List.mem_map_of_mem inside))

/-- However many answers a rule gave away, one is left. -/
theorem answers_ne_nil (stands : Stands delays additions asked script)
    (inside : rule ∈ script.rules) : rule.answers ≠ [] := by
  have filled := stands.queued_pos inside
  rw [stands.left rule inside, ← List.length_pos_iff, List.length_drop]
  omega

/-- The next answer of a rule is the one whose number is that of its turn, or the last one. -/
theorem next_eq (stands : Stands delays additions asked script) (inside : rule ∈ script.rules) :
    (queued additions rule.opening)[min (turns additions rule.opening asked + 1)
      (queued additions rule.opening).length - 1]? = some rule.next := by
  have filled := stands.queued_pos inside
  have number : min (turns additions rule.opening asked + 1)
      (queued additions rule.opening).length - 1 =
      min (turns additions rule.opening asked) ((queued additions rule.opening).length - 1) := by
    omega
  rw [number, ← List.head?_drop, ← stands.left rule inside]
  rfl

/-- **A script gives the next answer.** -/
theorem nextAnswer (stands : Stands delays additions asked script) (command : Command) :
    NextAnswer additions asked command.line (respond script command).1.answer := by
  obtain unopened | ⟨opening, longest, -⟩ := unopened_or_longest (openings additions) command.line
  · rw [(respond_of_no_rule (stands.rule?_unlisted unopened)).1]
    exact .unruled unopened
  · obtain ⟨rule, found, inside, rfl⟩ := stands.exists_rule longest
    rw [(respond_of_rule found).1]
    exact .ruled longest (stands.next_eq inside)

/-- A command changes one rule at most, that of the longest beginning of its line. -/
theorem rules_respond (stands : Stands delays additions asked script) (command : Command) :
    (Script.respond script command).2.rules = script.rules.map fun rule =>
      if IsLongestOpening (openings additions) command.line rule.opening then rule.advance
      else rule := by
  obtain unopened | ⟨opening, longest, -⟩ := unopened_or_longest (openings additions) command.line
  · rw [(respond_of_no_rule (stands.rule?_unlisted unopened)).2]
    simp only [unopened.not_longest, if_false, List.map_id']
  · obtain ⟨chosen, found, -, rfl⟩ := stands.exists_rule longest
    rw [(respond_of_rule found).2]
    refine List.map_congr_left fun rule _ => ?_
    have same : rule.opening = chosen.opening ↔
        IsLongestOpening (openings additions) command.line rule.opening :=
      ⟨fun same => same ▸ longest, longest.unique⟩
    simp only [same]

/-- **One more command.** -/
theorem respond (stands : Stands delays additions asked script) (command : Command) :
    Stands delays additions (asked ++ [command]) (Script.respond script command).2 where
  delays_eq := (respond_delay script command).2.trans stands.delays_eq
  distinct := by
    rw [respond_openings]
    exact stands.distinct
  listed := by
    rw [respond_openings]
    exact stands.listed
  left := by
    rw [stands.rules_respond command]
    intro rule inside
    obtain ⟨old, before, rfl⟩ := List.mem_map.mp inside
    by_cases longest : IsLongestOpening (openings additions) command.line old.opening
    -- the rule has taken one more turn, and has given an answer away unless one was left
    · rw [if_pos longest, ScriptRule.opening_advance, ScriptRule.answers_advance,
        stands.left old before, List.drop_drop, turns_concat, if_pos longest, List.length_drop]
      congr 1
      omega
    · rw [if_neg longest, turns_concat, if_neg longest, Nat.add_zero, stands.left old before]

/-- **Any number of attempts.** Those that are not refused are the commands that the script is asked
about. -/
theorem carryOutAll (stands : Stands delays additions asked script) (attempts : List Attempt) :
    Stands delays additions (asked ++ Attempt.asked attempts)
      (Attempt.carryOutAll Script.respond attempts script).2 := by
  -- the commands asked about so far grow along with the state of the script
  induction attempts generalizing asked script with
  | nil =>
    show Stands delays additions (asked ++ []) script
    rwa [List.append_nil]
  | cons attempt attempts ih =>
    rw [Attempt.asked_cons, ← List.append_assoc]
    refine @ih (attempt.carryOut Script.respond script).2.runner _ ?_
    cases refused : attempt.refused with
    | true =>
      rw [Attempt.carryOut_refused _ _ refused, if_pos rfl, List.append_nil]
      exact stands
    | false =>
      rw [(Attempt.carryOut_given _ _ refused).2.1]
      exact stands.respond attempt.command

/-- What becomes of attempts does not depend on more of a script than how it stands. -/
theorem results_eq (stands : Stands delays additions asked script)
    (also : Stands delays additions asked other) (attempts : List Attempt) :
    (Attempt.carryOutAll Script.respond attempts other).1 =
      (Attempt.carryOutAll Script.respond attempts script).1 := by
  induction attempts generalizing asked script other with
  | nil => rfl
  | cons attempt attempts ih =>
    simp only [Attempt.carryOutAll]
    cases refused : attempt.refused with
    | true =>
      rw [Attempt.carryOut_refused _ _ refused, Attempt.carryOut_refused _ _ refused]
      exact congrArg _ (ih stands also)
    | false =>
      obtain ⟨result, runner, -⟩ := Attempt.carryOut_given Script.respond script refused
      obtain ⟨alsoResult, alsoRunner, -⟩ := Attempt.carryOut_given Script.respond other refused
      have answer := (stands.nextAnswer attempt.command).unique (also.nextAnswer attempt.command)
      have delay := delay_congr (also.delays_eq.trans stands.delays_eq.symm) attempt.command.line
      rw [result, runner, alsoResult, alsoRunner, answer, (respond_delay _ _).1,
        (respond_delay _ _).1, delay,
        ih (stands.respond attempt.command) (also.respond attempt.command)]

end Stands

end Standing

/-- **The answers of a script.** Of any answers that are added to a script without rules, and of any
attempts to run commands with it, however they end, the following is true.

* The longest beginning of a line for which something was added is the only one, if there is any.
* After any attempts each beginning has one rule. The rule has an answer left, as it gave away fewer
  than were added for its beginning.
* A further attempt that is refused leaves the script as it is. Any other is noted and ends by its
  answer: that of the rule of the longest beginning, with the number of its turn or the last, or
  success without output.
* Two scripts for which the same was added for each beginning, in whatever order, give the same
  results. -/
theorem answers_by_turn (delays : List (String × Nat)) (cancelAfter : Option Nat)
    (additions : List Addition) :
    let scriptOf := addAll { delays := delays, cancelAfter := cancelAfter }
    (∀ line : String, Unopened (openings additions) line ∨
      ∃! opening, IsLongestOpening (openings additions) line opening) ∧
    (∀ attempts : List Attempt,
      let current := (Attempt.carryOutAll respond attempts (scriptOf additions)).2
      Stands delays additions (Attempt.asked attempts) current ∧
      (∀ rule ∈ current.rules, rule.answers ≠ []) ∧
      ∀ next : Attempt, if next.refused then
          next.carryOut respond current =
            (.error (.failed (.cancelled next.command.line)), next.hostWith current)
        else
          ∃ answer, NextAnswer additions (Attempt.asked attempts) next.command.line answer ∧
            (next.carryOut respond current).1 =
              next.result answer ((scriptOf additions).delay next.command.line) ∧
            (next.carryOut respond current).2.log =
              ⟨next.host.clock, next.command⟩ :: next.host.log) ∧
    ∀ others : List Addition, (∀ opening, queued others opening = queued additions opening) →
      ∀ attempts : List Attempt,
        (Attempt.carryOutAll respond attempts (scriptOf others)).1 =
          (Attempt.carryOutAll respond attempts (scriptOf additions)).1 := by
  intro scriptOf
  have begun : Stands delays additions [] (scriptOf additions) :=
    .addAll delays cancelAfter additions
  refine ⟨unopened_or_longest (openings additions), fun attempts => ?_,
    fun others same attempts => ?_⟩
  · intro current
    have stands : Stands delays additions (Attempt.asked attempts) current :=
      begun.carryOutAll attempts
    refine ⟨stands, fun rule inside => stands.answers_ne_nil inside, fun next => ?_⟩
    split
    · rename_i refused
      exact Attempt.carryOut_refused respond current refused
    · rename_i free
      obtain ⟨result, -, log⟩ :=
        Attempt.carryOut_given respond current (Bool.eq_false_iff.mpr free)
      rw [(respond_delay current next.command).1,
        delay_congr (stands.delays_eq.trans begun.delays_eq.symm)] at result
      exact ⟨_, stands.nextAnswer next.command, result, log⟩
  · exact begun.results_eq ((Stands.addAll delays cancelAfter others).congr same) attempts

/-- Answers for all commands of a program, with others in between for one of them. -/
def overlapping : List Addition :=
  [⟨"networkctl", some (.finished { exitCode := 1 })⟩,
    ⟨"networkctl status eth0", some .scriptedRefusal⟩,
    ⟨"networkctl", some (.finished { stdout := "late" })⟩,
    ⟨"networkctl status eth0", some (.finished { stdout := "online" })⟩]

/-- The same answers, those for the one command first. -/
def sorted : List Addition :=
  [⟨"networkctl status eth0", some .scriptedRefusal⟩,
    ⟨"networkctl status eth0", some (.finished { stdout := "online" })⟩,
    ⟨"networkctl", some (.finished { exitCode := 1 })⟩,
    ⟨"networkctl", some (.finished { stdout := "late" })⟩]

/-- Commands for both, of which the third is refused, and one for neither. -/
def alternating : List Attempt :=
  [⟨{ runner := () }, ⟨"networkctl", ["status", "eth0"]⟩, none⟩,
    ⟨{ runner := () }, ⟨"networkctl", ["status", "eth1"]⟩, none⟩,
    ⟨{ clock := 5, cancelAt := some 3, runner := () }, ⟨"networkctl", ["status", "eth1"]⟩, none⟩,
    ⟨{ runner := () }, ⟨"networkctl", ["status", "eth1"]⟩, none⟩,
    ⟨{ runner := () }, ⟨"networkctl", ["status", "eth0"]⟩, none⟩,
    ⟨{ runner := () }, ⟨"networkctl", ["status", "eth0"]⟩, none⟩,
    ⟨{ runner := () }, ⟨"udevadm", ["settle"]⟩, none⟩]

/-- The refused command takes no turn; the last answer of each rule stays. -/
theorem overlapping_by_turn :
    (∀ opening, queued sorted opening = queued overlapping opening) ∧
      (Attempt.carryOutAll respond alternating (addAll {} sorted)).1 =
        [.error (.failed
            (.notStarted "networkctl status eth0" (.because "scripted spawn failure"))),
          .ok { exitCode := 1 },
          .error (.failed (.cancelled "networkctl status eth1")),
          .ok { stdout := "late" },
          .ok { stdout := "online" },
          .ok { stdout := "online" },
          .ok {}] ∧
      ∃ rule ∈ (Attempt.carryOutAll respond alternating (addAll {} overlapping)).2.rules,
        rule.opening = "networkctl" ∧ rule.answers ≠ [] := by
  have same : ∀ opening, queued sorted opening = queued overlapping opening := by
    intro opening
    by_cases all : "networkctl" = opening
    · subst all
      rfl
    · by_cases one : "networkctl status eth0" = opening
      · subst one
        rfl
      · simp [queued, sorted, overlapping, all, one]
  obtain ⟨-, after, reordered⟩ := answers_by_turn [] none overlapping
  have inside : ⟨"networkctl", some (.finished { stdout := "late" }), []⟩ ∈
      (Attempt.carryOutAll respond alternating (addAll {} overlapping)).2.rules := by
    decide +kernel
  refine ⟨same, (reordered sorted same alternating).trans ?_, _, inside, rfl, ?_⟩
  · decide +kernel
  · exact (after alternating).2.1 _ inside

end Script

end HostNet
