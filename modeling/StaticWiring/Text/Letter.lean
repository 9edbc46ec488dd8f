import StaticWiring.Text.LetterTable

/-!
# Letters, digits and case

Character classes and case mappings of Unicode, read off the tables of
`StaticWiring.Text.LetterTable`. The full lowercase mapping of one character is a list, since the
capital `I` with a dot above becomes two characters.

## Main definitions

* `Text.isAlphabetic`, `Text.isNumber`, `Text.isUppercase` — character classes.
* `Text.lowercase` — the lowercase mapping of a character.
* `Text.decapitalize` — a name with a small first letter, unless it starts with two capitals.
-/

namespace StaticWiring.Text

/-! ### Character classes -/

/-- A code point lies in one of the ranges. The ranges need not be in order. -/
def inRanges (ranges : List (Nat × Nat)) (n : Nat) : Bool :=
  ranges.any fun r => r.1 ≤ n && n ≤ r.2

/-- The characters with the property `Alphabetic`. The ones of ASCII are told without the table. -/
def isAlphabetic (c : Char) : Bool :=
  if c.toNat < 0x80 then c.isAlpha
  else inRanges alphabeticRanges c.toNat || inRanges newAlphabeticRanges c.toNat

/-- The characters of the general category `Number`. It is wider than that of the decimal digits. -/
def isNumber (c : Char) : Bool :=
  if c.toNat < 0x80 then c.isDigit else inRanges numberRanges c.toNat

/-- The characters with the property `Uppercase`. The table lists runs, as capital and small letters
often alternate. -/
def isUppercase (c : Char) : Bool :=
  if c.toNat < 0x80 then c.isUpper
  else uppercaseRuns.any fun (first, last, step) =>
    first ≤ c.toNat && c.toNat ≤ last && (c.toNat - first) % step == 0

/-! ### Case mappings -/

/-- The run moves the code point. Code points between those of the run are not moved. -/
def Shift.moves (s : Shift) (n : Nat) : Bool :=
  s.first ≤ n && n ≤ s.last && (n - s.first) % s.step == 0

/-- The image of a character under the first shift that moves it, and the character itself if none
does. -/
def shifted (shifts : List Shift) (c : Char) : Char :=
  match shifts.find? (·.moves c.toNat) with
  | some s => Char.ofNat (c.toNat + s.delta).toNat
  | none => c

/-- The lowercase mapping of a character. There is one letter with a mapping to two characters. -/
def lowercase (c : Char) : List Char :=
  if c.toNat < 0x80 then [c.toLower]
  else if c.toNat = 0x130 then ['i', Char.ofNat 0x307]
  else [shifted lowercaseShifts c]

/-- A name with its first letter in lowercase, unless its first two letters are both uppercase. It
is how the name of a component is made from that of its class. -/
def decapitalize (name : String) : String :=
  match name.toList with
  | [] => ""
  | [a] => String.ofList (lowercase a)
  | a :: b :: rest =>
    if isUppercase a && isUppercase b then name
    else String.ofList (lowercase a ++ b :: rest)

end StaticWiring.Text
