/-!
# Blank characters

Lines, arguments and list items are compared without the blank characters
around them.  The blanks are the white-space characters of Unicode together
with the four information separators; zero-width characters and the byte order
mark are not blank.
-/

namespace ConfigReference.Text

def isBlank (c : Char) : Bool :=
  let code := c.toNat
  (0x09 ≤ code && code ≤ 0x0D) || (0x1C ≤ code && code ≤ 0x20) || code == 0x85 ||
    code == 0xA0 || code == 0x1680 || (0x2000 ≤ code && code ≤ 0x200A) || code == 0x2028 ||
    code == 0x2029 || code == 0x202F || code == 0x205F || code == 0x3000

/-- The information separators are blank but are no white space. -/
def isInformationSeparator (c : Char) : Bool :=
  0x1C ≤ c.toNat && c.toNat ≤ 0x1F

def isWhiteSpace (c : Char) : Bool :=
  isBlank c && !isInformationSeparator c

/-- Drops from both ends the characters of a class. -/
def trimBy (drops : Char → Bool) (text : List Char) : List Char :=
  ((text.dropWhile drops).reverse.dropWhile drops).reverse

def trimEnd (text : List Char) : List Char :=
  (text.reverse.dropWhile isBlank).reverse

def trim (text : List Char) : List Char :=
  trimBy isBlank text

/-- The parts of a text between its blanks. -/
def words : List Char → List (List Char)
  | [] => []
  | c :: rest =>
    if isBlank c then words rest
    else
      match rest, words rest with
      | next :: _, word :: more => if isBlank next then [c] :: word :: more else (c :: word) :: more
      | _, more => [c] :: more

/-- A text without its outer blanks. -/
def trimmed (text : String) : String :=
  String.ofList (trim text.toList)

end ConfigReference.Text
