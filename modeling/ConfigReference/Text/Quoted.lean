import ConfigReference.Text.Digit
import ConfigReference.Text.HiddenTable
import ConfigReference.Text.LowerCase

/-!
# Quoted texts

Messages show a path or a name between quotes.  Single quotes are used unless
the text has a single quote and no double quote.  Within the quotes a backslash
escapes the quote, itself, and every character that a reader cannot see.
-/

namespace ConfigReference.Text

def quoteMark (text : List Char) : Char :=
  if text.contains '\'' && !text.contains '\"' then '\"' else '\''

def isHidden (c : Char) : Bool :=
  if c.toNat < 0x80 then c.toNat < 0x20 || c.toNat == 0x7F else inRanges hiddenRanges c

/-- The escape of a hidden character by its code point. -/
def codeEscape (c : Char) : List Char :=
  let code := c.toNat
  if code < 0x100 then '\\' :: 'x' :: (hexText 2 code).toList
  else if code < 0x10000 then '\\' :: 'u' :: (hexText 4 code).toList
  else '\\' :: 'U' :: (hexText 8 code).toList

def quoteChar (mark c : Char) : List Char :=
  if c = mark || c = '\\' then ['\\', c]
  else if c = '\n' then ['\\', 'n']
  else if c = '\r' then ['\\', 'r']
  else if c = '\t' then ['\\', 't']
  else if isHidden c then codeEscape c
  else [c]

def quoted (text : String) : String :=
  let chars := text.toList
  let mark := quoteMark chars
  String.ofList (mark :: chars.flatMap (quoteChar mark) ++ [mark])

end ConfigReference.Text
