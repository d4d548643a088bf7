import ConfigReference.Text.CharacterNameTable
import ConfigReference.Text.Digit
import ConfigReference.Text.LowerCase
import ConfigReference.Text.Split

/-!
# Names of characters

Every character of the common repertoire has a name, some have several.  Most
names stand in a table.  The names of ideographs and of other large groups end
with a number, and those of Korean syllables spell them out.  Capital and small
letters are the same in a name, except in the names of ideographs and syllables.
-/

namespace ConfigReference.Text

/-- The entries of the table: how many words a name shares with the one before,
and its other words. -/
def nameEntries : List (Nat × List (List Char)) :=
  let (_, entries) := characterNameTable.toList.foldr
    (fun c (words, entries) =>
      if c = '\n' then (words, entries)
      else if c.isLower then ([], (c.toNat - 'a'.toNat, splitAt ' ' words) :: entries)
      else (c :: words, entries))
    ([], [])
  entries

/-- Whether the table has a name, given by its words.  The last name that was read
is kept for the next one. -/
def isTabled (name : List (List Char)) : Bool :=
  let (isFound, _) := nameEntries.foldl
    (fun (isFound, last) (shared, words) =>
      let next := last.take shared ++ words
      (isFound || next = name, next))
    (false, [])
  isFound

/-- The code of a character as its name shows it. -/
def codeText (code : Nat) : String :=
  (hexText 4 code).toUpper

/-- A number with three digits at least. -/
def threeDigits (number : Nat) : String :=
  let digits := Nat.toDigits 10 number
  String.ofList (List.replicate (3 - digits.length) '0' ++ digits)

/-- The groups of names that end with a number, how the number is written, and the
ranges of numbers. -/
def numberedNames : List (String × (Nat → String) × List (Nat × Nat)) :=
  [("CJK COMPATIBILITY IDEOGRAPH-", codeText,
      [(0xF900, 0xFA6D), (0xFA70, 0xFAD9), (0x2F800, 0x2FA1D)]),
    ("KHITAN SMALL SCRIPT CHARACTER-", codeText, [(0x18B00, 0x18CD5)]),
    ("NUSHU CHARACTER-", codeText, [(0x1B170, 0x1B2FB)]),
    ("TANGUT COMPONENT-", threeDigits, [(1, 768)]),
    ("VARIATION SELECTOR-", Nat.repr, [(1, 256)]),
    ("VS", Nat.repr, [(1, 256)])]

def isNumbered (name : List Char) : Bool :=
  numberedNames.any fun (beginning, write, ranges) =>
    match after? beginning.toList name with
    | none => false
    | some number => ranges.any fun (first, last) =>
      (List.range' first (last + 1 - first)).any fun value => (write value).toList = number

/-- The codes of the ideographs that are common to several scripts. -/
def ideographRanges : List (Nat × Nat) :=
  [(0x3400, 0x4DBF), (0x4E00, 0x9FFF), (0x20000, 0x2A6DF), (0x2A700, 0x2B738),
   (0x2B740, 0x2B81D), (0x2B820, 0x2CEA1), (0x2CEB0, 0x2EBE0), (0x30000, 0x3134A)]

def isIdeographName (name : List Char) : Bool :=
  match after? "CJK UNIFIED IDEOGRAPH-".toList name with
  | none => false
  | some digits =>
    (digits.length = 4 || digits.length = 5) &&
      digits.all (fun c => (asciiHex? c).isSome && !c.isLower) &&
      let code := ofDigits 16 (digits.filterMap asciiHex?)
      ideographRanges.any fun (first, last) => first ≤ code && code ≤ last

/-- The sounds with which a Korean syllable begins. -/
def initialSounds : List String :=
  ["G", "GG", "N", "D", "DD", "R", "M", "B", "BB", "S", "SS", "", "J", "JJ", "C", "K", "T", "P",
   "H"]

def vowels : List String :=
  ["A", "AE", "YA", "YAE", "EO", "E", "YEO", "YE", "O", "WA", "WAE", "OE", "YO", "U", "WEO", "WE",
   "WI", "YU", "EU", "YI", "I"]

/-- The sounds with which a Korean syllable ends. -/
def finalSounds : List String :=
  ["", "G", "GG", "GS", "N", "NJ", "NH", "D", "L", "LG", "LM", "LB", "LS", "LT", "LP", "LH", "M",
   "B", "BS", "S", "SS", "NG", "J", "C", "K", "T", "P", "H"]

def isSyllableName (name : List Char) : Bool :=
  match after? "HANGUL SYLLABLE ".toList name with
  | none => false
  | some sounds =>
    let sounds := String.ofList sounds
    initialSounds.any fun initial => vowels.any fun vowel => finalSounds.any fun last =>
      sounds = initial ++ vowel ++ last

/-- Whether a character has the given name. -/
def isCharacterName (name : List Char) : Bool :=
  let capitals := name.map Char.toUpper
  isIdeographName name || isSyllableName name || isNumbered capitals ||
    isTabled (splitAt ' ' capitals)

end ConfigReference.Text
