/-!
# Splitting and joining

A text is cut at a separating character into parts, or at line feeds into
lines.  Neither operation loses anything but the separators: there is always
one part more than there are separators.
-/

namespace ConfigReference.Text

/-- Adds a character to the first part. -/
def extendFirst (c : Char) : List (List Char) → List (List Char)
  | [] => [[c]]
  | part :: parts => (c :: part) :: parts

/-- The parts of a text between the occurrences of a separating character. -/
def splitAt (separator : Char) (text : List Char) : List (List Char) :=
  text.foldr (fun c parts => if c = separator then [] :: parts else extendFirst c parts) [[]]

/-- The lines of a text.  A line ends at a line feed; a carriage return right
before the line feed belongs to the line end. -/
def lines : List Char → List (List Char)
  | [] => [[]]
  | '\r' :: '\n' :: rest => [] :: lines rest
  | '\n' :: rest => [] :: lines rest
  | c :: rest => extendFirst c (lines rest)

/-- Every line end written as one line feed: a carriage return with a line
feed after it, or alone, becomes a line feed. -/
def unifyLineEnds : List Char → List Char
  | [] => []
  | '\r' :: '\n' :: rest => '\n' :: unifyLineEnds rest
  | '\r' :: rest => '\n' :: unifyLineEnds rest
  | c :: rest => c :: unifyLineEnds rest

/-- The parts with a separating text between any two of them. -/
def joinWith (separator : List Char) : List (List Char) → List Char
  | [] => []
  | [part] => part
  | part :: parts => part ++ separator ++ joinWith separator parts

/-- What follows a given beginning, if the text begins so. -/
def after? : (beginning : List Char) → (text : List Char) → Option (List Char)
  | [], text => some text
  | _ :: _, [] => none
  | b :: beginning, c :: text => if b = c then after? beginning text else none

/-- Whether a part occurs somewhere in a text. -/
def occursIn (part : List Char) : (text : List Char) → Bool
  | [] => part.isEmpty
  | c :: text => part.isPrefixOf (c :: text) || occursIn part text

/-- The texts with a separating text between any two of them. -/
def joined (separator : String) (texts : List String) : String :=
  String.ofList (joinWith separator.toList (texts.map String.toList))

end ConfigReference.Text
