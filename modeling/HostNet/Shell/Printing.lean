/-
**Printing in a shell.**

Two tools print their arguments: one with spaces between them, one by a format that is used again
as long as arguments are left.

* `echoText`: the arguments in a line, where escapes may count;
* `printFormatted`: the arguments by a format.
-/

import HostNet.Shell.Arithmetic

namespace HostNet.Shell

open HostNet.Text

/-- The character of a simple escape. -/
def simpleEscape? : Char → Option Char
  | 'a' => some '\x07'
  | 'b' => some '\x08'
  | 'f' => some '\x0c'
  | 'n' => some '\n'
  | 'r' => some '\r'
  | 't' => some '\t'
  | 'v' => some '\x0b'
  | '\\' => some '\\'
  | _ => none

/-- Cuts at most this many octal digits off the front. -/
def spanOctal : Nat → List Char → List Char × List Char
  | 0, characters => ([], characters)
  | _ + 1, [] => ([], [])
  | count + 1, character :: rest =>
    if (radixDigit? 8 character).isSome then
      let (digits, others) := spanOctal count rest
      (character :: digits, others)
    else ([], character :: rest)

/-- The octet of octal digits. -/
def octalOctet (digits : List Char) : Char :=
  Char.ofNat (((readNat? 8 digits).getD 0) % 256)

/-- Replaces escapes. In an argument the octal digits of an octet follow a zero, in a format they
need not. An escape `c` ends all printing. The result tells whether it does. -/
def unescape (inFormat : Bool) : Nat → List Char → List Char × Bool
  | 0, characters => (characters, false)
  | _ + 1, [] => ([], false)
  | fuel + 1, '\\' :: character :: rest =>
    let continueWith (octets others : List Char) : List Char × Bool :=
      let (text, ends) := unescape inFormat fuel others
      (octets ++ text, ends)
    if character = 'c' && !inFormat then ([], true)
    else
      match simpleEscape? character with
      | some octet => continueWith [octet] rest
      | none =>
        if inFormat && (radixDigit? 8 character).isSome then
          let (digits, others) := spanOctal 3 (character :: rest)
          continueWith [octalOctet digits] others
        else if character = '0' then
          let (digits, others) := spanOctal 3 rest
          continueWith [octalOctet digits] others
        else if inFormat && character = '"' then continueWith ['"'] rest
        else continueWith ['\\', character] rest
  | fuel + 1, character :: rest =>
    let (text, ends) := unescape inFormat fuel rest
    (character :: text, ends)

/-- Arguments with spaces between them. -/
def joinArguments : List Octets → Octets
  | [] => []
  | [argument] => argument
  | argument :: arguments => argument ++ ' ' :: joinArguments arguments

/-- The arguments in a line; without the break of the line after `-n`. -/
def echoText (escapes : Bool) (arguments : List Octets) : Octets :=
  let bare := arguments.head? = some "-n".toList
  let text := joinArguments (if bare then arguments.drop 1 else arguments)
  let (text, ends) := if escapes then unescape false (text.length + 1) text else (text, false)
  if bare || ends then text else text ++ ['\n']

/-! ### Formats -/

/-- How a value is fitted into its place. -/
structure Layout where
  leftAligned : Bool := false
  zeroFilled : Bool := false
  plus : Bool := false
  width : Nat := 0
  precision : Option Nat := none
  deriving Repr, DecidableEq, Inhabited

/-- Fills a text up to the width of its place. -/
def Layout.fill (layout : Layout) (text : Octets) : Octets :=
  let missing := layout.width - text.length
  if layout.leftAligned then text ++ List.replicate missing ' '
  else List.replicate missing ' ' ++ text

/-- A number with a sign, fitted into its place. -/
def Layout.fillNumber (layout : Layout) (negative : Bool) (digits : Octets) : Octets :=
  let sign := if negative then ['-'] else if layout.plus then ['+'] else []
  let padded := match layout.precision with
    | some precision => List.replicate (precision - digits.length) '0' ++ digits
    | none =>
      if layout.zeroFilled && !layout.leftAligned then
        List.replicate (layout.width - sign.length - digits.length) '0' ++ digits
      else digits
  layout.fill (sign ++ padded)

/-- Reads the flags of a place. -/
def readFlags (layout : Layout) : List Char → Layout × List Char
  | '-' :: rest => readFlags { layout with leftAligned := true } rest
  | '0' :: rest => readFlags { layout with zeroFilled := true } rest
  | '+' :: rest => readFlags { layout with plus := true } rest
  | ' ' :: rest => readFlags layout rest
  | '#' :: rest => readFlags layout rest
  | rest => (layout, rest)

/-- Reads a decimal number at the front; without digits it is zero. -/
def readCount (characters : List Char) : Nat × List Char :=
  ((readNat? 10 (characters.takeWhile Char.isDigit)).getD 0, characters.dropWhile Char.isDigit)

/-- Reads how a value is fitted into its place. -/
def readLayout (characters : List Char) : Layout × List Char :=
  let (layout, rest) := readFlags {} characters
  let (width, rest) := readCount rest
  match rest with
  | '.' :: rest =>
    let (precision, rest) := readCount rest
    ({ layout with width := width, precision := some precision }, rest)
  | rest => ({ layout with width := width }, rest)

/-- The number of an argument; a quote in front asks for the number of the next character. -/
def argumentNumber? : Octets → Option Int
  | [] => some 0
  | '\'' :: character :: _ => some character.toNat
  | '"' :: character :: _ => some character.toNat
  | text => signedNumber? text

/-- What a format has printed so far. -/
structure Printed where
  /-- The octets in reverse. -/
  text : Octets := []
  arguments : List Octets
  /-- Whether an argument was used. -/
  used : Bool := false
  failed : Bool := false
  ended : Bool := false
  deriving Inhabited

/-- Adds octets. -/
def Printed.add (printed : Printed) (octets : Octets) : Printed :=
  { printed with text := octets.reverse ++ printed.text }

/-- Takes the next argument; without one it is empty. -/
def Printed.take (printed : Printed) : Octets × Printed :=
  match printed.arguments with
  | [] => ([], printed)
  | argument :: arguments => (argument, { printed with arguments := arguments, used := true })

/-- Prints a number in a radix. -/
def Printed.addNumber (printed : Printed) (layout : Layout) (radix : Nat) (signed capital : Bool) :
    Printed :=
  let (argument, printed) := printed.take
  let value := (argumentNumber? argument).getD 0
  let negative := signed && value < 0
  let magnitude := if signed then value.natAbs else (value % Nat.pow 2 64).toNat
  let digits := Nat.toDigits radix magnitude
  let digits := if capital then digits.map Char.toUpper else digits
  { printed.add (layout.fillNumber negative digits) with
    failed := printed.failed || (argumentNumber? argument).isNone }

/-- Prints an argument in its place. -/
def Printed.addPlace (printed : Printed) (layout : Layout) (kind : Char) : Printed :=
  let cut (text : Octets) : Octets := match layout.precision with
    | some precision => text.take precision
    | none => text
  match kind with
  | 's' =>
    let (argument, printed) := printed.take
    printed.add (layout.fill (cut argument))
  | 'b' =>
    let (argument, printed) := printed.take
    let (text, ends) := unescape false (argument.length + 1) argument
    { printed.add (layout.fill (cut text)) with ended := ends }
  | 'c' =>
    let (argument, printed) := printed.take
    printed.add (layout.fill (argument.take 1))
  | 'd' | 'i' => printed.addNumber layout 10 true false
  | 'u' => printed.addNumber layout 10 false false
  | 'o' => printed.addNumber layout 8 false false
  | 'x' => printed.addNumber layout 16 false false
  | 'X' => printed.addNumber layout 16 false true
  | _ => { printed with failed := true, ended := true }

/-- Prints by a format once. -/
def printOnce : Nat → List Char → Printed → Printed
  | 0, _, printed => printed
  | _ + 1, [], printed => printed
  | fuel + 1, '%' :: '%' :: rest, printed => printOnce fuel rest (printed.add ['%'])
  | fuel + 1, '%' :: rest, printed =>
    let (layout, rest) := readLayout rest
    match rest with
    | kind :: rest =>
      let after := printed.addPlace layout kind
      if after.ended then after else printOnce fuel rest after
    | [] => { printed with failed := true }
  | fuel + 1, '\\' :: rest, printed =>
    let next := match rest with
      | character :: others =>
        if (radixDigit? 8 character).isSome then (spanOctal 3 rest).2 else others
      | [] => []
    let escape := '\\' :: rest.take (rest.length - next.length)
    printOnce fuel next (printed.add (unescape true (escape.length + 1) escape).1)
  | fuel + 1, character :: rest, printed => printOnce fuel rest (printed.add [character])

/-- Prints by a format until no arguments are left. -/
def printAgain (format : List Char) : Nat → Printed → Printed
  | 0, printed => printed
  | fuel + 1, printed =>
    let after := printOnce (format.length + 1) format { printed with used := false }
    if after.ended || after.arguments.isEmpty || !after.used then after
    else printAgain format fuel after

/-- The arguments by a format, and whether all went well. -/
def printFormatted (format : Octets) (arguments : List Octets) : Octets × Bool :=
  let printed := printAgain format (arguments.length + 1) { arguments := arguments }
  (printed.text.reverse, !printed.failed)

/-- Without marks a format prints itself. -/
theorem printOnce_plain {format : List Char} (printed : Printed) {fuel : Nat}
    (plain : ∀ character ∈ format, character ≠ '%' ∧ character ≠ '\\')
    (enough : format.length ≤ fuel) :
    (printOnce fuel format printed).text = format.reverse ++ printed.text := by
  induction format generalizing printed fuel with
  | nil => cases fuel <;> simp [printOnce]
  | cons character rest ih =>
    cases fuel with
    | zero => simp at enough
    | succ fuel =>
      obtain ⟨noPlace, noEscape⟩ := plain character (List.mem_cons_self ..)
      have step : printOnce (fuel + 1) (character :: rest) printed =
          printOnce fuel rest (printed.add [character]) := by
        rw [printOnce]
        · rintro others rfl
          exact absurd rfl noPlace
        · exact noPlace
        · exact noEscape
      rw [step, ih _ (fun inner member => plain inner (List.mem_cons_of_mem _ member))
        (Nat.le_of_succ_le_succ enough)]
      simp [Printed.add]

end HostNet.Shell
