import ConfigReference.Text.LowerCase
import ConfigReference.Text.NameTable

/-!
# Names and words

A name begins with a letter, a letter-like sign or an underscore; digits and
combining marks may follow.  A word is made of letters, digits, other numeric
characters and underscores.
-/

namespace ConfigReference.Text

def isAsciiLetter (c : Char) : Bool :=
  ('a' ≤ c && c ≤ 'z') || ('A' ≤ c && c ≤ 'Z')

def isAscii (c : Char) : Bool :=
  c.toNat < 0x80

def isNameStart (c : Char) : Bool :=
  if isAscii c then isAsciiLetter c || c = '_' else inRanges nameStartRanges c

def isNameChar (c : Char) : Bool :=
  if isAscii c then isAsciiLetter c || ('0' ≤ c && c ≤ '9') || c = '_'
  else inRanges nameStartRanges c || inRanges nameInsideRanges c

def isWordChar (c : Char) : Bool :=
  if isAscii c then isAsciiLetter c || ('0' ≤ c && c ≤ '9') || c = '_'
  else inRanges wordOnlyRanges c || (inRanges nameStartRanges c && !inRanges startOnlyRanges c)

end ConfigReference.Text
