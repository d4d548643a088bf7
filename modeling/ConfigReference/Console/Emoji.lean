import ConfigReference.Console.EmojiTable
import ConfigReference.Table
import ConfigReference.Text.Blank
import ConfigReference.Text.LowerCase
import ConfigReference.Text.Split

/-!
# Emoji codes

A name between two colons stands for an emoji.  After a hyphen the name can say
whether the emoji is to be drawn as text or in colour, which a selector behind
the emoji tells the terminal.  A name that is not known stays as it is, with
both of its colons.
-/

namespace ConfigReference.Console

open Text

/-- The names of an entry, each with the emoji. -/
def namesOf (entry : List Char) : List (String × String) :=
  match (splitAt '=' entry).map String.ofList with
  | [] => []
  | emoji :: names => names.map (·, emoji)

/-- The emoji by their names. -/
def emojiNames : List (String × String) :=
  (splitAt ' ' (emojiTable.toList.map fun c => if c = '\n' then ' ' else c)).flatMap namesOf

/-- The endings of a code that choose how the emoji is drawn. -/
def selectors : List (List Char × Char) :=
  [("-emoji".toList, '\uFE0F'), ("-text".toList, '\uFE0E')]

/-- A code without its ending, and the selector that the ending stands for. -/
def cutSelector (code : List Char) : List Char × List Char :=
  let cut := selectors.findSome? fun (ending, selector) =>
    (after? ending.reverse code.reverse).map fun rest => (rest.reverse, [selector])
  cut.getD (code, [])

/-- What a code stands for. -/
def emoji? (code : List Char) : Option (List Char) :=
  let (name, selector) := cutSelector code
  (Table.lookup (String.ofList (lower name)) emojiNames).map (·.toList ++ selector)

/-- The code at the beginning of a text, which stands between colons. -/
def codeAt? : List Char → Option (List Char)
  | ':' :: rest =>
    let code := rest.takeWhile fun c => c ≠ ':' && !isBlank c
    match rest.drop code.length with
    | ':' :: _ => some code
    | _ => none
  | _ => none

/-- Replaces the codes in a text, of which the first `skipped` characters are
left out. -/
def replaceCodes : (skipped : Nat) → List Char → List Char
  | _, [] => []
  | skipped + 1, _ :: rest => replaceCodes skipped rest
  | 0, c :: rest =>
    match codeAt? (c :: rest) with
    | some code =>
      (emoji? code).getD (':' :: code ++ [':']) ++ replaceCodes (code.length + 1) rest
    | none => c :: replaceCodes 0 rest

end ConfigReference.Console
