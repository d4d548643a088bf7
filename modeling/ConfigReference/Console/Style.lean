import ConfigReference.Table
import ConfigReference.Text.Blank
import ConfigReference.Text.Digit
import ConfigReference.Text.LowerCase
import ConfigReference.Text.Split

/-!
# Styles

A style is named by words: attributes, a colour, a colour for the background and
the target of a link.  Several namings can mean one style, so styles are compared
in a normal form.  A name that is not made of such words is its own normal form,
in lower case.  Only a colour whose parts cannot be read as numbers is a fault.
-/

namespace ConfigReference.Console

open Text

/-- The attributes in the order of the normal form, with their short names. -/
def attributeNames : List (String × List String) :=
  [("bold", ["b"]), ("dim", ["d"]), ("italic", ["i"]), ("underline", ["u"]), ("blink", []),
   ("blink2", []), ("reverse", ["r"]), ("conceal", ["c"]), ("strike", ["s"]),
   ("underline2", ["uu"]), ("frame", []), ("encircle", []), ("overline", ["o"])]

def attribute? (word : String) : Option String :=
  (attributeNames.find? fun (name, short) => word = name || word ∈ short).map Prod.fst

def colorNames : List String :=
  ["black", "red", "green", "yellow", "blue", "magenta", "cyan", "white", "bright_black",
   "bright_red", "bright_green", "bright_yellow", "bright_blue", "bright_magenta", "bright_cyan",
   "bright_white", "grey0", "gray0", "navy_blue", "dark_blue", "blue3", "blue1", "dark_green",
   "deep_sky_blue4", "dodger_blue3", "dodger_blue2", "green4", "spring_green4", "turquoise4",
   "deep_sky_blue3", "dodger_blue1", "green3", "spring_green3", "dark_cyan", "light_sea_green",
   "deep_sky_blue2", "deep_sky_blue1", "spring_green2", "cyan3", "dark_turquoise", "turquoise2",
   "green1", "spring_green1", "medium_spring_green", "cyan2", "cyan1", "dark_red", "deep_pink4",
   "purple4", "purple3", "blue_violet", "orange4", "grey37", "gray37", "medium_purple4",
   "slate_blue3", "royal_blue1", "chartreuse4", "dark_sea_green4", "pale_turquoise4",
   "steel_blue", "steel_blue3", "cornflower_blue", "chartreuse3", "cadet_blue", "sky_blue3",
   "steel_blue1", "pale_green3", "sea_green3", "aquamarine3", "medium_turquoise", "chartreuse2",
   "sea_green2", "sea_green1", "aquamarine1", "dark_slate_gray2", "dark_magenta", "dark_violet",
   "purple", "light_pink4", "plum4", "medium_purple3", "slate_blue1", "yellow4", "wheat4",
   "grey53", "gray53", "light_slate_grey", "light_slate_gray", "medium_purple",
   "light_slate_blue", "dark_olive_green3", "dark_sea_green", "light_sky_blue3", "sky_blue2",
   "dark_sea_green3", "dark_slate_gray3", "sky_blue1", "chartreuse1", "light_green",
   "pale_green1", "dark_slate_gray1", "red3", "medium_violet_red", "magenta3", "dark_orange3",
   "indian_red", "hot_pink3", "medium_orchid3", "medium_orchid", "medium_purple2",
   "dark_goldenrod", "light_salmon3", "rosy_brown", "grey63", "gray63", "medium_purple1", "gold3",
   "dark_khaki", "navajo_white3", "grey69", "gray69", "light_steel_blue3", "light_steel_blue",
   "yellow3", "dark_sea_green2", "light_cyan3", "light_sky_blue1", "green_yellow",
   "dark_olive_green2", "dark_sea_green1", "pale_turquoise1", "deep_pink3", "magenta2",
   "hot_pink2", "orchid", "medium_orchid1", "orange3", "light_pink3", "pink3", "plum3", "violet",
   "light_goldenrod3", "tan", "misty_rose3", "thistle3", "plum2", "khaki3", "light_goldenrod2",
   "light_yellow3", "grey84", "gray84", "light_steel_blue1", "yellow2", "dark_olive_green1",
   "honeydew2", "light_cyan1", "red1", "deep_pink2", "deep_pink1", "magenta1", "orange_red1",
   "indian_red1", "hot_pink", "dark_orange", "salmon1", "light_coral", "pale_violet_red1",
   "orchid2", "orchid1", "orange1", "sandy_brown", "light_salmon1", "light_pink1", "pink1",
   "plum1", "gold1", "navajo_white1", "misty_rose1", "thistle1", "yellow1", "light_goldenrod1",
   "khaki1", "wheat1", "cornsilk1", "grey100", "gray100", "grey3", "gray3", "grey7", "gray7",
   "grey11", "gray11", "grey15", "gray15", "grey19", "gray19", "grey23", "gray23", "grey27",
   "gray27", "grey30", "gray30", "grey35", "gray35", "grey39", "gray39", "grey42", "gray42",
   "grey46", "gray46", "grey50", "gray50", "grey54", "gray54", "grey58", "gray58", "grey62",
   "gray62", "grey66", "gray66", "grey70", "gray70", "grey74", "gray74", "grey78", "gray78",
   "grey82", "gray82", "grey85", "gray85", "grey89", "gray89", "grey93", "gray93"]

/-- Why the numbers of a colour cannot be read. -/
inductive StyleFault
  | emptyNumber
  | oversizedNumber (digits : Nat)
  deriving DecidableEq, Repr

/-- The most digits that a number of a colour can have. -/
def colorDigitLimit : Nat := 4300

def StyleFault.message : StyleFault → String
  | emptyNumber => "invalid literal for int() with base 10: ''"
  | oversizedNumber digits =>
    s!"Exceeds the limit ({colorDigitLimit} digits) for integer string conversion: value has " ++
      s!"{digits} digits; use sys.set_int_max_str_digits() to increase the limit"

/-- Whether a number of a colour, given by its digits, is small enough. -/
def isColorNumber (digits : List Char) : Bool :=
  ofDigits 10 (digits.filterMap decimalDigit?) ≤ 255

def readNumber (digits : List Char) : Except StyleFault Bool :=
  if digits.isEmpty then .error .emptyNumber
  else if colorDigitLimit < digits.length then .error (.oversizedNumber digits.length)
  else .ok (isColorNumber digits)

/-- What stands in brackets after a word, if that is the whole text. -/
def argument? (word : String) (text : List Char) : Option (List Char) := do
  let rest ← after? (word.toList ++ ['(']) text
  if rest.getLast? = some ')' then some rest.dropLast else none

/-- Whether a text in lower case is a colour: a name, three parts in hexadecimal,
the number of a colour or three numbers of parts. -/
def readColor (text : List Char) : Except StyleFault Bool :=
  match text with
  | '#' :: digits => .ok (digits.length = 6 && digits.all fun c => (asciiHex? c).isSome)
  | _ =>
    match argument? "color" text, argument? "rgb" text with
    | some number, _ =>
      .ok (!number.isEmpty && number.length ≤ 3 && number.all isDigit && isColorNumber number)
    | _, some numbers =>
      match splitAt ',' numbers with
      | [red, green, blue] =>
        if (red ++ green ++ blue).all fun c => (decimalDigit? c).isSome then do
          return (← readNumber red) && (← readNumber green) && (← readNumber blue)
        else .ok false
      | _ => .ok false
    | none, none => .ok (String.ofList text = "default" || String.ofList text ∈ colorNames)

structure Style where
  /-- The attributes that are set, and those that are set not to apply. -/
  attributes : Table String Bool := ∅
  color : Option String := none
  background : Option String := none
  link : Option String := none

namespace Style

/-- Adds the words of a name to a style.  A word that cannot stand where it does
makes the name no name of a style. -/
def readWords (style : Style) : List (List Char) → Except StyleFault (Option Style)
  | [] => .ok (some style)
  | word :: rest => do
    let lowered := lower word
    if lowered = "on".toList then
      match rest with
      | [] => return none
      | word :: rest =>
        if ← readColor (lower word) then
          readWords { style with background := some (String.ofList (lower word)) } rest
        else return none
    else if lowered = "not".toList then
      match rest with
      | [] => return none
      | word :: rest =>
        match attribute? (String.ofList word) with
        | some name =>
          readWords { style with attributes := style.attributes.insert name false } rest
        | none => return none
    else if lowered = "link".toList then
      match rest with
      | [] => return none
      | word :: rest => readWords { style with link := some (String.ofList word) } rest
    else
      match attribute? (String.ofList lowered) with
      | some name =>
        readWords { style with attributes := style.attributes.insert name true } rest
      | none =>
        if ← readColor lowered then
          readWords { style with color := some (String.ofList lowered) } rest
        else return none

/-- The name of a style in its normal form. -/
def name (style : Style) : String :=
  let attributes := attributeNames.filterMap fun (name, _) =>
    (style.attributes.find? name).map fun applies => if applies then name else "not " ++ name
  let background := style.background.map fun color => "on " ++ color
  let link := style.link.map fun target => "link " ++ target
  let words := attributes ++ style.color.toList ++ background.toList ++ link.toList
  if words.isEmpty then "none" else joined " " words

/-- The normal form of a name. -/
def normalName (name : String) : Except StyleFault String := do
  let text := trim name.toList
  if text = "none".toList then return "none"
  match ← readWords {} (words text) with
  | some style => return style.name
  | none => return String.ofList (lower text)

/-- The fault of a name. -/
def fault? (name : String) : Option StyleFault :=
  match readWords {} (words name.toList) with
  | .error fault => some fault
  | .ok _ => none

end Style

end ConfigReference.Console
