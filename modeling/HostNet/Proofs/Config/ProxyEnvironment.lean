/-
**The environment file of the proxies read back.**

What loads the file reads it line by line: a line feed ends a line, and the first equals sign of a
line ends the name of a variable. The file has no sign that takes this meaning away. So a value with
a line feed in it ends its own line there, and the rest of it is a line as well, which may set a
variable that nobody asked for.

* `readEnvironment?`: the variables that a text sets;
* `assigned`: the variables that have a value;
* `environmentLines_text`: the lines of the file, whatever the values hold;
* `proxyEnvironment_read_iff`: the file says what the variables are exactly if each value is one
  line.
-/

import HostNet.Config.ProxyEnvironment
import HostNet.Proofs.Text.Pieces
import HostNet.Proofs.Unit.Reading

namespace HostNet

open HostNet.Text

/-! ### Reading -/

/-- The lines of a text. What follows the last line feed is a line too, unless it is empty. -/
def environmentLines (text : String) : List (List Char) :=
  let pieces := split '\n' text.toList
  if pieces.getLast? = some [] then pieces.dropLast else pieces

/-- The variable that a line sets, whose name ends at the first equals sign. -/
def assignment? (line : List Char) : Option (String × String) :=
  (splitOnce? '=' line).map fun (name, value) => (String.ofList name, String.ofList value)

/-- The variables that a text sets, line by line; each line has to set one. -/
def readEnvironment? (text : String) : Option (List (String × String)) :=
  (environmentLines text).mapM assignment?

/-- The variables that have a value, with their values. -/
def assigned (bindings : List (String × Option String)) : List (String × String) :=
  bindings.filterMap fun (name, value) => value.map ((name, ·))

/-! ### The lines of the file -/

section Lines

variable {bindings : List (String × Option String)}

theorem split_environmentText (bindings : List (String × Option String)) :
    split '\n' (environmentText bindings).toList =
      ((assigned bindings).flatMap fun entry =>
        split '\n' (entry.1 ++ "=" ++ entry.2).toList) ++ [[]] := by
  induction bindings with
  | nil => rfl
  | cons entry others ih =>
    obtain ⟨name, _ | value⟩ := entry
    · exact ih
    · have ended : (environmentText ((name, some value) :: others)).toList =
          (name ++ "=" ++ value).toList ++ '\n' :: (environmentText others).toList := by
        simp [environmentText, environmentLine]
      rw [ended, split_append_separator, ih]
      simp [assigned]

/-- **The lines of the file.** Each variable with a value has one line, and one more for each line
feed in its value. -/
theorem environmentLines_text (bindings : List (String × Option String)) :
    environmentLines (environmentText bindings) =
      (assigned bindings).flatMap fun entry => split '\n' (entry.1 ++ "=" ++ entry.2).toList := by
  simp [environmentLines, split_environmentText]

/-- The file is empty exactly if no variable has a value. -/
theorem environmentText_isEmpty_iff :
    (environmentText bindings).isEmpty = true ↔ assigned bindings = [] := by
  induction bindings with
  | nil => simp [environmentText, assigned]
  | cons entry others ih =>
    obtain ⟨name, _ | value⟩ := entry
    · exact ih
    · simp [environmentText, environmentLine, assigned]

/-! ### What is read -/

/-- A line of one variable is read as this variable. -/
theorem assignment?_line {name : String} (noSign : '=' ∉ name.toList) (value : String) :
    assignment? (name ++ "=" ++ value).toList = some (name, value) := by
  have spelled : (name ++ "=" ++ value).toList = name.toList ++ '=' :: value.toList := by simp
  rw [assignment?, spelled, splitOnce?_append noSign]
  simp

/-- The value that is read from a line is one line. -/
theorem oneLine_of_assignment? {line : List Char} {entry : String × String} (whole : '\n' ∉ line)
    (found : assignment? line = some entry) : OneLine entry.2 := by
  obtain ⟨⟨name, value⟩, cut, rfl⟩ := Option.map_eq_some_iff.mp found
  rw [(splitOnce?_eq_some cut).1, List.mem_append, List.mem_cons, not_or, not_or] at whole
  show '\n' ∉ (String.ofList value).toList
  rw [String.toList_ofList]
  exact whole.2.2

theorem oneLine_of_mapM {lines : List (List Char)} {entries : List (String × String)}
    (whole : ∀ line ∈ lines, '\n' ∉ line) (found : lines.mapM assignment? = some entries) :
    ∀ entry ∈ entries, OneLine entry.2 := by
  induction lines generalizing entries with
  | nil =>
    cases found
    nofun
  | cons line lines ih =>
    rw [List.forall_mem_cons] at whole
    rw [List.mapM_cons] at found
    obtain ⟨entry, first, found⟩ := Option.bind_eq_some_iff.mp found
    obtain ⟨others, later, found⟩ := Option.bind_eq_some_iff.mp found
    cases found
    exact List.forall_mem_cons.mpr ⟨oneLine_of_assignment? whole.1 first, ih whole.2 later⟩

/-- No value that is read from a text holds a line feed. -/
theorem oneLine_of_readEnvironment? {text : String} {entries : List (String × String)}
    (found : readEnvironment? text = some entries) : ∀ entry ∈ entries, OneLine entry.2 := by
  refine oneLine_of_mapM (fun line member => ?_) found
  unfold environmentLines at member
  dsimp only at member
  split at member
  · exact free_of_mem_split ((List.dropLast_sublist _).subset member)
  · exact free_of_mem_split member

/-- **The variables are read back exactly if each value is one line.** -/
theorem readEnvironment?_text_iff
    (named : ∀ entry ∈ assigned bindings, '=' ∉ entry.1.toList ∧ OneLine entry.1) :
    readEnvironment? (environmentText bindings) = some (assigned bindings) ↔
      ∀ entry ∈ assigned bindings, OneLine entry.2 := by
  refine ⟨oneLine_of_readEnvironment?, fun whole => ?_⟩
  rw [readEnvironment?, environmentLines_text]
  generalize assigned bindings = entries at named whole
  induction entries with
  | nil => rfl
  | cons entry entries ih =>
    rw [List.forall_mem_cons] at named whole
    have sign : OneLine "=" := by decide
    have single : OneLine (entry.1 ++ "=" ++ entry.2) := by simp [named.1.2, sign, whole.1]
    rw [List.flatMap_cons, split_of_free single, List.singleton_append, List.mapM_cons,
      assignment?_line named.1.1, ih named.2 whole.2]
    rfl

end Lines

/-! ### The proxies -/

/-- A variable in lower case and in capitals, if it has a value that is not empty. -/
def inBothCases (lower upper : String) (value : Option String) : List (String × String) :=
  (value.filter (· ≠ "")).toList.flatMap fun value => [(lower, value), (upper, value)]

/-- The names of the variables in capitals. -/
theorem capitals_names : capitals "http_proxy" = "HTTP_PROXY" ∧
    capitals "https_proxy" = "HTTPS_PROXY" ∧ capitals "no_proxy" = "NO_PROXY" := by
  decide +kernel

/-- The variables of the proxies that have a value. -/
theorem assigned_proxyVariables (proxy : Option Proxy) :
    assigned (proxyVariables proxy) =
      inBothCases "http_proxy" "HTTP_PROXY" (proxy.bind (·.http)) ++
        inBothCases "https_proxy" "HTTPS_PROXY" (proxy.bind (·.https)) ++
          inBothCases "no_proxy" "NO_PROXY" (proxy.bind (·.exempt)) := by
  have each : ∀ lower value, assigned (bothCases (lower, value)) =
      inBothCases lower (capitals lower) value := by
    intro lower value
    unfold bothCases inBothCases
    cases value.filter (· ≠ "") <;> rfl
  have parts : ∀ front back, assigned (front ++ back) = assigned front ++ assigned back :=
    fun _ _ => List.filterMap_append
  simp only [proxyVariables, proxyValues, List.flatMap_cons, List.flatMap_nil, parts, each,
    capitals_names, List.append_assoc]
  simp [assigned]

/-- A setting has no value if it is absent or empty. -/
theorem inBothCases_eq_nil_iff {lower upper : String} {value : Option String} :
    inBothCases lower upper value = [] ↔ value = none ∨ value = some "" := by
  cases value with
  | none => simp [inBothCases]
  | some value => by_cases empty : value = "" <;> simp [inBothCases, Option.filter, empty]

/-- Something holds of a setting in both cases exactly if it holds of its value. -/
theorem forall_mem_inBothCases_iff {holds : String → Prop} (empty : holds "") {lower upper : String}
    {value : Option String} :
    (∀ entry ∈ inBothCases lower upper value, holds entry.2) ↔ ∀ text ∈ value, holds text := by
  cases value with
  | none => simp [inBothCases]
  | some value =>
    by_cases blank : value = ""
    · simp [inBothCases, Option.filter, blank, empty]
    · simp [inBothCases, Option.filter, blank]

/-- The names of the variables are one line and hold no equals sign. -/
theorem proxyVariables_named (proxy : Option Proxy) :
    ∀ entry ∈ assigned (proxyVariables proxy), '=' ∉ entry.1.toList ∧ OneLine entry.1 := by
  have names : (proxyVariables proxy).map (·.1) =
      ["http_proxy", capitals "http_proxy", "https_proxy", capitals "https_proxy", "no_proxy",
        capitals "no_proxy"] := rfl
  have plain : ∀ name ∈ (proxyVariables proxy).map (·.1), '=' ∉ name.toList ∧ OneLine name := by
    rw [names, capitals_names.1, capitals_names.2.1, capitals_names.2.2]
    decide
  intro entry member
  obtain ⟨⟨name, value⟩, listed, found⟩ := List.mem_filterMap.mp member
  obtain ⟨text, _, rfl⟩ := Option.map_eq_some_iff.mp found
  exact plain name (List.mem_map_of_mem listed)

/-- The text of the file, which is empty if there is none. -/
theorem getD_proxyEnvironment? (proxy : Option Proxy) :
    (proxyEnvironment? proxy).getD "" = environmentText (proxyVariables proxy) := by
  unfold proxyEnvironment?
  dsimp only
  split
  · rename_i empty
    exact (String.isEmpty_iff.mp empty).symm
  · rfl

/-- **What the environment file of the proxies says.** It sets each of three variables in lower case
and in capitals, if the proxy has a value, and there is no file exactly if no proxy has one. Its
lines are those of the variables, with a further line for each line feed in a value. So the
variables are read back exactly if each value is one line. -/
theorem proxyEnvironment_read_iff (proxy : Option Proxy) :
    assigned (proxyVariables proxy) =
        inBothCases "http_proxy" "HTTP_PROXY" (proxy.bind (·.http)) ++
          inBothCases "https_proxy" "HTTPS_PROXY" (proxy.bind (·.https)) ++
            inBothCases "no_proxy" "NO_PROXY" (proxy.bind (·.exempt)) ∧
      (proxyEnvironment? proxy = none ↔
        ∀ setting ∈ proxyValues proxy, setting.2 = none ∨ setting.2 = some "") ∧
      environmentLines ((proxyEnvironment? proxy).getD "") =
        ((assigned (proxyVariables proxy)).flatMap fun entry =>
          split '\n' (entry.1 ++ "=" ++ entry.2).toList) ∧
      (readEnvironment? ((proxyEnvironment? proxy).getD "") =
          some (assigned (proxyVariables proxy)) ↔
        ∀ setting ∈ proxyValues proxy, ∀ value ∈ setting.2, OneLine value) := by
  have listed := assigned_proxyVariables proxy
  refine ⟨listed, ?_, ?_, ?_⟩
  · have absent : proxyEnvironment? proxy = none ↔ assigned (proxyVariables proxy) = [] := by
      rw [← environmentText_isEmpty_iff]
      simp [proxyEnvironment?]
    rw [absent, listed]
    simp [inBothCases_eq_nil_iff, proxyValues]
  · rw [getD_proxyEnvironment?]
    exact environmentLines_text _
  · have blank : OneLine "" := by decide
    rw [getD_proxyEnvironment?, readEnvironment?_text_iff (proxyVariables_named proxy), listed]
    simp only [List.forall_mem_append, forall_mem_inBothCases_iff blank, proxyValues,
      List.forall_mem_cons, List.not_mem_nil, false_implies, implies_true, and_true, and_assoc]

/-- Proxies of which one has a value with a second line. -/
def Proxy.smuggling : Proxy where
  http := some "http://proxy.example.org:3128\nno_proxy=*"
  https := some "http://proxy.example.org:3129"

/-- A second line of a value sets a variable that has no value. -/
theorem Proxy.smuggling_not_read :
    readEnvironment? ((proxyEnvironment? (some smuggling)).getD "") =
        some [("http_proxy", "http://proxy.example.org:3128"), ("no_proxy", "*"),
          ("HTTP_PROXY", "http://proxy.example.org:3128"), ("no_proxy", "*"),
          ("https_proxy", "http://proxy.example.org:3129"),
          ("HTTPS_PROXY", "http://proxy.example.org:3129")] ∧
      readEnvironment? ((proxyEnvironment? (some smuggling)).getD "") ≠
        some (assigned (proxyVariables (some smuggling))) := by
  constructor <;> decide +kernel

end HostNet
