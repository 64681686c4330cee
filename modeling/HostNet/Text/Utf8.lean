/-
**UTF-8.**

Octets as text, in two ways: strictly, where one wrong octet makes the whole unreadable, and
lossily, where each longest wrong piece becomes one replacement character.

* `lossy_ascii`: octets below 128 are read as themselves;
* `decode?_encode`: what was written from a text reads back as that text.
-/

namespace HostNet.Text.Utf8

/-- The replacement character, shown for what is not UTF-8. -/
def replacement : Char := '\uFFFD'

/-- An unfinished sequence: how many octets are missing, the least and greatest that may come next,
and the bits read so far. -/
structure Pending where
  missing : Nat
  least : Nat
  greatest : Nat
  bits : Nat
  deriving Repr, DecidableEq

/-- What the first octet of a sequence says. -/
inductive Lead where
  | whole (character : Char)
  | opens (pending : Pending)
  | wrong
  deriving Repr, DecidableEq

/-- Reads the first octet of a sequence. -/
def lead (octet : Nat) : Lead :=
  if octet < 0x80 then .whole (Char.ofNat octet)
  else if octet < 0xC2 then .wrong
  else if octet < 0xE0 then .opens ⟨1, 0x80, 0xBF, octet - 0xC0⟩
  else if octet = 0xE0 then .opens ⟨2, 0xA0, 0xBF, 0⟩
  else if octet = 0xED then .opens ⟨2, 0x80, 0x9F, 0xD⟩
  else if octet < 0xF0 then .opens ⟨2, 0x80, 0xBF, octet - 0xE0⟩
  else if octet = 0xF0 then .opens ⟨3, 0x90, 0xBF, 0⟩
  else if octet < 0xF4 then .opens ⟨3, 0x80, 0xBF, octet - 0xF0⟩
  else if octet = 0xF4 then .opens ⟨3, 0x80, 0x8F, 4⟩
  else .wrong

/-- The characters completed by an octet between sequences, and the sequence it opens. -/
def start (octet : Nat) : List Char × Option Pending :=
  match lead octet with
  | .whole character => ([character], none)
  | .opens pending => ([], some pending)
  | .wrong => ([replacement], none)

/-- One octet in an open sequence: it goes on, or it ends the sequence as wrong and is read
again as a first octet. -/
def advance (pending : Pending) (octet : Nat) : List Char × Option Pending :=
  if pending.least ≤ octet ∧ octet ≤ pending.greatest then
    let bits := pending.bits * 64 + (octet - 0x80)
    if pending.missing ≤ 1 then ([Char.ofNat bits], none)
    else ([], some ⟨pending.missing - 1, 0x80, 0xBF, bits⟩)
  else
    let (characters, open?) := start octet
    (replacement :: characters, open?)

/-- Reads a further octet: the characters so far, the latest first, and the sequence that is open.
-/
def absorb : List Char × Option Pending → UInt8 → List Char × Option Pending
  | (taken, none), octet =>
    let (characters, open?) := start octet.toNat
    (characters.reverse ++ taken, open?)
  | (taken, some pending), octet =>
    let (characters, open?) := advance pending octet.toNat
    (characters.reverse ++ taken, open?)

/-- What has been read at the end of the octets. -/
def finish : List Char × Option Pending → List Char
  | (taken, none) => taken.reverse
  | (taken, some _) => (replacement :: taken).reverse

/-- Octets as text, with a replacement character for each longest piece that is not UTF-8. -/
def lossy (octets : List UInt8) : String :=
  String.ofList (finish (octets.foldl absorb ([], none)))

/-- Octets as text; none if they are not UTF-8. -/
def decode? (octets : ByteArray) : Option String :=
  String.fromUTF8? octets

/-- What was written from a text reads back as that text. -/
theorem decode?_encode (text : String) : decode? text.toUTF8 = some text := by
  simp [decode?, String.fromUTF8?, String.fromUTF8, text.isValidUTF8]

/-- Octets below 128 are read as themselves, after whatever was read before. -/
theorem foldl_absorb_ascii {octets : List UInt8} (ascii : ∀ octet ∈ octets, octet.toNat < 0x80)
    (taken : List Char) :
    octets.foldl absorb (taken, none) =
      ((octets.map fun octet => Char.ofNat octet.toNat).reverse ++ taken, none) := by
  induction octets generalizing taken with
  | nil => rfl
  | cons octet rest ih =>
    have first := ascii octet (by simp)
    have step : absorb (taken, none) octet = (Char.ofNat octet.toNat :: taken, none) := by
      simp [absorb, start, lead, if_pos first]
    rw [List.foldl_cons, step, ih fun other member => ascii other (by simp [member])]
    simp

/-- Octets below 128 are read as themselves. -/
theorem lossy_ascii {octets : List UInt8} (ascii : ∀ octet ∈ octets, octet.toNat < 0x80) :
    lossy octets = String.ofList (octets.map fun octet => Char.ofNat octet.toNat) := by
  simp [lossy, foldl_absorb_ascii ascii, finish]

end HostNet.Text.Utf8
