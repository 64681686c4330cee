/-
**The environment of the web proxies.**

Programs disagree on the letter case of the variables that name a proxy, so each is set in both. A
value that is absent or empty removes the variable.

* `proxyVariables`: the six variables with their values;
* `proxyEnvironment?`: the environment file, if a variable has a value.
-/

import HostNet.Config.Basic

namespace HostNet

/-- The three variables, by their names in lower case, with their values. -/
def proxyValues (proxy : Option Proxy) : List (String × Option String) :=
  [("http_proxy", proxy.bind (·.http)), ("https_proxy", proxy.bind (·.https)),
    ("no_proxy", proxy.bind (·.exempt))]

/-- A text in capital letters. -/
def capitals (text : String) : String := String.ofList (text.toList.map Char.toUpper)

/-- A variable in lower case and in capitals. -/
def bothCases (setting : String × Option String) : List (String × Option String) :=
  let value := setting.2.filter (· ≠ "")
  [(setting.1, value), (capitals setting.1, value)]

/-- The variables of the proxies with their values; one without a value is removed. -/
def proxyVariables (proxy : Option Proxy) : List (String × Option String) :=
  (proxyValues proxy).flatMap bothCases

/-- A line of the environment file. -/
def environmentLine (name value : String) : String := name ++ "=" ++ value ++ "\n"

/-- The lines of variables with a value. -/
def environmentText : List (String × Option String) → String
  | [] => ""
  | (name, some value) :: others => environmentLine name value ++ environmentText others
  | (_, none) :: others => environmentText others

/-- The environment file of the proxies, if a variable has a value. -/
def proxyEnvironment? (proxy : Option Proxy) : Option String :=
  let text := environmentText (proxyVariables proxy)
  if text.isEmpty then none else some text

/-- Both cases of a variable have the same value. -/
theorem bothCases_same (setting : String × Option String) :
    ∀ entry ∈ bothCases setting, entry.2 = setting.2.filter (· ≠ "") := by
  intro entry member
  simp only [bothCases, List.mem_cons, List.not_mem_nil, or_false] at member
  rcases member with rfl | rfl <;> rfl

end HostNet
