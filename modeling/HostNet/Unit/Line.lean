/-
**Lines of a unit file.**

A unit file is a list of lines: section headers, settings and blank lines. Its text ends each line
with a line feed.

* `render_append`: the text of lines one after the other is their texts one after the other;
* `optional`: a setting that is left out leaves a blank line behind.
-/

import HostNet.Text.Pieces

namespace HostNet

/-- A line of a unit file. -/
inductive UnitLine where
  | blank
  | header (title : String)
  | setting (key value : String)
  deriving Repr, DecidableEq, Inhabited

namespace UnitLine

/-- The text of a line, without its end. -/
def text : UnitLine → String
  | .blank => ""
  | .header title => "[" ++ title ++ "]"
  | .setting key value => key ++ "=" ++ value

/-- A setting, or a blank line if there is no value. -/
def optional (key : String) : Option String → UnitLine
  | some value => .setting key value
  | none => .blank

/-- A truth value as units write it. -/
def flag (value : Bool) : String :=
  if value then "true" else "false"

/-- The text of lines, each ended by a line feed. -/
def render : List UnitLine → String
  | [] => ""
  | line :: lines => line.text ++ "\n" ++ render lines

/-- The text of lines with line feeds between them only. -/
def renderBare (lines : List UnitLine) : String :=
  Text.joinWith "\n" (lines.map text)

@[simp] theorem render_nil : render [] = "" := rfl

/-- The text of lines one after the other is their texts one after the other. -/
theorem render_append (front back : List UnitLine) :
    render (front ++ back) = render front ++ render back := by
  induction front with
  | nil => simp
  | cons line lines ih => simp [render, ih, String.append_assoc]

end UnitLine

/-- A unit file: its name and its lines. -/
structure UnitFile where
  name : String
  lines : List UnitLine
  deriving Repr, DecidableEq, Inhabited

/-- The text of a unit file. -/
def UnitFile.contents (file : UnitFile) : String :=
  UnitLine.render file.lines

end HostNet
