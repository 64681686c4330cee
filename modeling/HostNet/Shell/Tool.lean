/-
**Tools.**

What small programs do that read their standard input and write a result. None of them needs to
know the state of the shell.

* `flatten_linesOf`: the lines of a text make up the text;
* `tool?`: what a program does with its arguments and its input; none if there is no such program.
-/

import HostNet.Shell.Condition
import HostNet.Shell.Printing

namespace HostNet.Shell

open HostNet.Text

/-- What comes of a tool. -/
structure ToolResult where
  output : Octets := []
  complaint : Octets := []
  status : Nat := 0
  /-- The time in nanoseconds that it takes. -/
  delay : Nat := 0
  deriving Repr, DecidableEq, Inhabited

/-- A failure with a message. -/
def ToolResult.failure (message : String) (status : Nat) : ToolResult :=
  { complaint := message.toList ++ ['\n'], status := status }

/-- A tool that only tells whether something holds. -/
def ToolResult.ofTruth (holds : Bool) : ToolResult := { status := if holds then 0 else 1 }

/-! ### Lines -/

/-- Puts breaks back behind all pieces but the last, which counts only if it is not empty. -/
def withBreaks : List Octets → List Octets
  | [] => []
  | [last] => if last.isEmpty then [] else [last]
  | line :: lines => (line ++ ['\n']) :: withBreaks lines

/-- The lines of a text, each with its break if it has one. -/
def linesOf (text : Octets) : List Octets := withBreaks (split '\n' text)

/-- Pieces with their breaks are the pieces joined by breaks. -/
theorem flatten_withBreaks (pieces : List Octets) :
    (withBreaks pieces).flatten = join '\n' pieces := by
  induction pieces with
  | nil => rfl
  | cons piece pieces ih =>
    cases pieces with
    | nil => cases piece <;> simp [withBreaks, join]
    | cons next pieces => simp [withBreaks, join, ih]

/-- The lines of a text make up the text. -/
theorem flatten_linesOf (text : Octets) : (linesOf text).flatten = text := by
  rw [linesOf, flatten_withBreaks, join_split]

/-- What a tool reads: its standard input or the files of its arguments. -/
def sources (name : String) (input : Octets) : List Octets → Octets × Octets
  | [] => ([], [])
  | file :: files =>
    let (text, complaint) := sources name input files
    if file = ['-'] then (input ++ text, complaint)
    else if file = "/dev/null".toList then (text, complaint)
    else
      let reason := if knownDirectories.contains file then ": Is a directory\n"
        else ": No such file or directory\n"
      (text, name.toList ++ ": ".toList ++ file ++ reason.toList ++ complaint)

/-- What a tool reads, with its standard input in place of no files. -/
def sourceOf (name : String) (input : Octets) (files : List Octets) : Octets × Octets :=
  if files.isEmpty then (input, []) else sources name input files

/-- Gives what was read after a change. -/
def pass (source : Octets × Octets) (change : Octets → Octets) : ToolResult :=
  { output := change source.1, complaint := source.2, status := if source.2.isEmpty then 0 else 1 }

/-- How much of a text is asked for. -/
structure Portion where
  octets : Bool := false
  /-- Whether the count tells where to begin. -/
  fromStart : Bool := false
  count : Nat := 10
  deriving Repr, DecidableEq, Inhabited

/-- The count of an argument, with a plus sign to count from the start. -/
def portionCount? (portion : Portion) : Octets → Option Portion
  | '+' :: digits => (readNat? 10 digits).map fun count =>
      { portion with fromStart := true, count := count }
  | digits => (readNat? 10 digits).map fun count => { portion with count := count }

/-- Reads how much of a text is asked for. -/
def readPortion (portion : Portion) : List Octets → Option (Portion × List Octets)
  | ['-', 'n'] :: count :: rest => do
    return (← portionCount? { portion with octets := false } count, rest)
  | ['-', 'c'] :: count :: rest => do
    return (← portionCount? { portion with octets := true } count, rest)
  | ('-' :: 'n' :: count) :: rest => do
    return (← portionCount? { portion with octets := false } count, rest)
  | ('-' :: 'c' :: count) :: rest => do
    return (← portionCount? { portion with octets := true } count, rest)
  | ['-'] :: rest => some (portion, ['-'] :: rest)
  | ('-' :: count) :: rest => do return (← portionCount? portion count, rest)
  | rest => some (portion, rest)

/-- The first lines or octets. -/
def headOf (portion : Portion) (text : Octets) : Octets :=
  if portion.octets then text.take portion.count
  else ((linesOf text).take portion.count).flatten

/-- The last lines or octets, or those from a count on. -/
def tailOf (portion : Portion) (text : Octets) : Octets :=
  let keep {α : Type} (items : List α) : List α :=
    if portion.fromStart then items.drop (portion.count - 1)
    else items.drop (items.length - portion.count)
  if portion.octets then keep text else (keep (linesOf text)).flatten

/-! ### Numbers and times -/

/-- The decimal digits of a number. -/
def decimal (value : Int) : Octets := (toString value).toList

/-- Counts up or down in steps, each number on a line. -/
def countLines (first step last : Int) : Octets :=
  let count := if step = 0 then 0 else (Int.tdiv (last - first) step + 1).toNat
  let beyond := if 0 < step then last < first else first < last
  if beyond then []
  else (List.range count).flatMap fun (index : Nat) => decimal (first + step * index) ++ ['\n']

/-- The nanoseconds of a time in seconds, minutes, hours or days, with or without decimal places. -/
def nanosOf? (text : Octets) : Option Nat := do
  let (digits, unit) := match text.getLast? with
    | some 's' => (text.dropLast, 1)
    | some 'm' => (text.dropLast, 60)
    | some 'h' => (text.dropLast, 3600)
    | some 'd' => (text.dropLast, 86400)
    | _ => (text, 1)
  let (whole, places) := (splitOnce? '.' digits).getD (digits, [])
  if whole.isEmpty && places.isEmpty then none
  let seconds ← if whole.isEmpty then some 0 else readNat? 10 whole
  let nanos := places.take 9
  let fraction ← if nanos.isEmpty then some 0 else readNat? 10 nanos
  return (seconds * Nat.pow 10 9 + fraction * Nat.pow 10 (9 - nanos.length)) * unit

/-! ### Replacing octets -/

/-- The octets of a set: ranges and escapes stand for what they mean. -/
def octetSet : Nat → List Char → Octets
  | 0, _ => []
  | _ + 1, [] => []
  | fuel + 1, '\\' :: character :: rest =>
    if (radixDigit? 8 character).isSome then
      let (digits, others) := spanOctal 3 (character :: rest)
      octalOctet digits :: octetSet fuel others
    else (simpleEscape? character).getD character :: octetSet fuel rest
  | fuel + 1, first :: '-' :: last :: rest =>
    ((List.range (last.toNat + 1 - first.toNat)).map fun offset =>
      Char.ofNat (first.toNat + offset)) ++ octetSet fuel rest
  | fuel + 1, character :: rest => character :: octetSet fuel rest

/-- Replaces each octet of a set by the one at its place in another, whose last one goes on for
ever. -/
def replaceOctets (old new : Octets) (text : Octets) : Octets :=
  text.map fun octet =>
    match old.idxOf? octet with
    | some place => (new[place]?).getD (new.getLast?.getD octet)
    | none => octet

/-! ### The tools -/

/-- What a program does with its arguments and its input. -/
def tool? (name : String) (arguments : List Octets) (input : Octets) : Option ToolResult :=
  match name with
  | "true" | ":" => some {}
  | "false" => some { status := 1 }
  | "echo" => some { output := echoText true arguments }
  | "printf" =>
    some (match arguments with
      | format :: values =>
        let (text, well) := printFormatted format values
        { output := text, status := if well then 0 else 1 }
      | [] => .failure "printf: usage: printf format [arg ...]" 2)
  | "test" =>
    some (match holds? (arguments.length + 1) arguments with
      | some holds => .ofTruth holds
      | none => .failure "test: unexpected operator" 2)
  | "[" =>
    let words := arguments.dropLast
    some (if arguments.getLast? = some [']'] then
        (match holds? (words.length + 1) words with
          | some holds => .ofTruth holds
          | none => .failure "[: unexpected operator" 2)
      else .failure "[: missing ]" 2)
  | "cat" => some (pass (sourceOf name input arguments) id)
  | "head" =>
    match readPortion {} arguments with
    | some (portion, [file]) =>
      some (if file = "/dev/zero".toList && portion.octets then
          { output := List.replicate portion.count '\x00' }
        else pass (sourceOf name input [file]) (headOf portion))
    | some (portion, files) => some (pass (sourceOf name input files) (headOf portion))
    | none => some { status := 1 }
  | "tail" =>
    match readPortion {} arguments with
    | some (portion, files) => some (pass (sourceOf name input files) (tailOf portion))
    | none => some { status := 1 }
  | "wc" =>
    let count (text : Octets) : Nat := match arguments.head?.map String.ofList with
      | some "-l" => text.count '\n'
      | some "-w" =>
        ((split '\n' text).flatMap fun line => (split ' ' line).filter (!·.isEmpty)).length
      | _ => text.length
    some { output := decimal (count input) ++ ['\n'] }
  | "seq" =>
    some (match arguments.mapM signedNumber? with
      | some [last] => { output := countLines 1 1 last }
      | some [first, last] => { output := countLines first 1 last }
      | some [first, step, last] => { output := countLines first step last }
      | _ => { status := 1 })
  | "sleep" =>
    some (match arguments.mapM nanosOf? with
      | some (first :: others) => { delay := others.foldl (· + ·) first }
      | _ => { status := 1 })
  | "tr" =>
    let set (text : Octets) : Octets := octetSet (text.length + 1) text
    some (match arguments with
      | [['-', 'd'], unwanted] => { output := input.filter (!(set unwanted).contains ·) }
      | [old, new] => { output := replaceOctets (set old) (set new) input }
      | _ => { status := 1 })
  | _ => none

end HostNet.Shell
