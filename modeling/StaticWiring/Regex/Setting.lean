/-!
# Settings of regular expressions

What a regular expression means depends on settings, which are switched on and off by letters inside
it.

## Main definitions

* `Regex.Flag` — the settings.
* `Regex.Change` — what is switched on and off by a group of letters.
* `Regex.Settings` — the settings in force.
-/

namespace StaticWiring.Regex

/-- A setting. Most of them change which characters a symbol stands for, one of them how the text is
read. -/
inductive Flag where
  /-- Case is ignored. -/
  | ignoreCase
  /-- The circumflex and the dollar sign also stand for the ends of lines. -/
  | manyLines
  /-- The dot also stands for the end of a line. -/
  | dotNewline
  /-- A carriage return also ends a line. -/
  | carriageReturn
  /-- Repetitions prefer the least number; what matches is the same. -/
  | preferLeast
  /-- The classes go beyond ASCII. -/
  | unicode
  /-- White space and comments mean nothing. -/
  | spaced
deriving DecidableEq, Inhabited

/-- The setting with a letter. Other letters are no settings, and make the text no expression. -/
def Flag.ofLetter? : Char → Option Flag
  | 'i' => some .ignoreCase
  | 'm' => some .manyLines
  | 's' => some .dotNewline
  | 'R' => some .carriageReturn
  | 'U' => some .preferLeast
  | 'u' => some .unicode
  | 'x' => some .spaced
  | _ => none

/-- Settings that are switched on or off. The last change of a setting stands first. -/
abbrev Change := List (Flag × Bool)

/-- The changes by letters, those behind a hyphen switched off, each setting at most once. A hyphen
has to be followed by a letter, and there is at most one. -/
def Change.ofLetters? : (value : Bool) → Change → List Char → Option Change
  | _, change, [] => some change
  | value, change, '-' :: cs =>
    if value && !cs.isEmpty then ofLetters? false change cs else none
  | value, change, c :: cs => do
    let flag ← Flag.ofLetter? c
    if (change.lookup flag).isSome then none else ofLetters? value ((flag, value) :: change) cs

/-- The settings in force: those that are switched on. Classes go beyond ASCII from the start, and
nothing else is switched on. -/
structure Settings where
  /-- The settings that are switched on. -/
  flags : List Flag := [.unicode]
deriving DecidableEq, Inhabited

namespace Settings

/-- The setting is switched on. A setting that is in the list several times is switched on once. -/
def has (s : Settings) (flag : Flag) : Bool :=
  s.flags.contains flag

/-- The settings after a change. What was switched on stays so unless it is switched off. -/
def apply (s : Settings) (change : Change) : Settings where
  flags := change.foldl (fun flags (flag, value) =>
    if value then flag :: flags else flags.filter (· != flag)) s.flags

end Settings

end StaticWiring.Regex
