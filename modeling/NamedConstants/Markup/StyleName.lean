import NamedConstants.Text.Digit
import NamedConstants.Text.Blank
import NamedConstants.Text.LowerCase
import NamedConstants.Text.Search

/-!
# Names of styles

The name of a style is made of words: attributes such as `bold`, each of which may be denied by
`not` in front of it, a colour, a colour of the background behind `on`, and an address behind
`link`.  A name that can be read is brought to the form that `Style.text` gives, with its words in
a fixed order; any other name stands for itself, without the blanks around it and in lower case.
Two tags mean the same style if their names come to the same form.
-/

namespace NamedConstants.Markup

/-- The words for attributes with the attributes that they mean. -/
def attributeWords : List (String × String) :=
  [
    ("dim", "dim"), ("d", "dim"), ("bold", "bold"), ("b", "bold"), ("italic", "italic"),
    ("i", "italic"), ("underline", "underline"), ("u", "underline"), ("blink", "blink"),
    ("blink2", "blink2"), ("reverse", "reverse"), ("r", "reverse"), ("conceal", "conceal"),
    ("c", "conceal"), ("strike", "strike"), ("s", "strike"), ("underline2", "underline2"),
    ("uu", "underline2"), ("frame", "frame"), ("encircle", "encircle"), ("overline", "overline"),
    ("o", "overline")
  ]

/-- The attributes in the order in which the name of a style says them. -/
def attributeOrder : List String :=
  ["bold", "dim", "italic", "underline", "blink", "blink2", "reverse", "conceal", "strike",
    "underline2", "frame", "encircle", "overline"]

/-- The colours that have a name. -/
def colourNames : List String :=
  [
    "black", "red", "green", "yellow", "blue", "magenta", "cyan", "white", "bright_black",
    "bright_red", "bright_green", "bright_yellow", "bright_blue", "bright_magenta", "bright_cyan",
    "bright_white", "grey0", "gray0", "navy_blue", "dark_blue", "blue3", "blue1", "dark_green",
    "deep_sky_blue4", "dodger_blue3", "dodger_blue2", "green4", "spring_green4", "turquoise4",
    "deep_sky_blue3", "dodger_blue1", "green3", "spring_green3", "dark_cyan", "light_sea_green",
    "deep_sky_blue2", "deep_sky_blue1", "spring_green2", "cyan3", "dark_turquoise", "turquoise2",
    "green1", "spring_green1", "medium_spring_green", "cyan2", "cyan1", "dark_red", "deep_pink4",
    "purple4", "purple3", "blue_violet", "orange4", "grey37", "gray37", "medium_purple4",
    "slate_blue3", "royal_blue1", "chartreuse4", "dark_sea_green4", "pale_turquoise4", "steel_blue",
    "steel_blue3", "cornflower_blue", "chartreuse3", "cadet_blue", "sky_blue3", "steel_blue1",
    "pale_green3", "sea_green3", "aquamarine3", "medium_turquoise", "chartreuse2", "sea_green2",
    "sea_green1", "aquamarine1", "dark_slate_gray2", "dark_magenta", "dark_violet", "purple",
    "light_pink4", "plum4", "medium_purple3", "slate_blue1", "yellow4", "wheat4", "grey53",
    "gray53", "light_slate_grey", "light_slate_gray", "medium_purple", "light_slate_blue",
    "dark_olive_green3", "dark_sea_green", "light_sky_blue3", "sky_blue2", "dark_sea_green3",
    "dark_slate_gray3", "sky_blue1", "chartreuse1", "light_green", "pale_green1",
    "dark_slate_gray1", "red3", "medium_violet_red", "magenta3", "dark_orange3", "indian_red",
    "hot_pink3", "medium_orchid3", "medium_orchid", "medium_purple2", "dark_goldenrod",
    "light_salmon3", "rosy_brown", "grey63", "gray63", "medium_purple1", "gold3", "dark_khaki",
    "navajo_white3", "grey69", "gray69", "light_steel_blue3", "light_steel_blue", "yellow3",
    "dark_sea_green2", "light_cyan3", "light_sky_blue1", "green_yellow", "dark_olive_green2",
    "dark_sea_green1", "pale_turquoise1", "deep_pink3", "magenta2", "hot_pink2", "orchid",
    "medium_orchid1", "orange3", "light_pink3", "pink3", "plum3", "violet", "light_goldenrod3",
    "tan", "misty_rose3", "thistle3", "plum2", "khaki3", "light_goldenrod2", "light_yellow3",
    "grey84", "gray84", "light_steel_blue1", "yellow2", "dark_olive_green1", "honeydew2",
    "light_cyan1", "red1", "deep_pink2", "deep_pink1", "magenta1", "orange_red1", "indian_red1",
    "hot_pink", "dark_orange", "salmon1", "light_coral", "pale_violet_red1", "orchid2", "orchid1",
    "orange1", "sandy_brown", "light_salmon1", "light_pink1", "pink1", "plum1", "gold1",
    "navajo_white1", "misty_rose1", "thistle1", "yellow1", "light_goldenrod1", "khaki1", "wheat1",
    "cornsilk1", "grey100", "gray100", "grey3", "gray3", "grey7", "gray7", "grey11", "gray11",
    "grey15", "gray15", "grey19", "gray19", "grey23", "gray23", "grey27", "gray27", "grey30",
    "gray30", "grey35", "gray35", "grey39", "gray39", "grey42", "gray42", "grey46", "gray46",
    "grey50", "gray50", "grey54", "gray54", "grey58", "gray58", "grey62", "gray62", "grey66",
    "gray66", "grey70", "gray70", "grey74", "gray74", "grey78", "gray78", "grey82", "gray82",
    "grey85", "gray85", "grey89", "gray89", "grey93", "gray93"
  ]

/-- Why the name of a style cannot be read. -/
inductive StyleFault where
  /-- It is not made of words for styles. -/
  | unknown
  /-- A part of a colour should be a number and is empty. -/
  | noNumber
  deriving DecidableEq, Repr

/-- What the name of a style says. -/
structure Style where
  /-- The attributes that are set, each with whether it is on; the last word on one stands first. -/
  attributes : List (String × Bool)
  colour : Option (List Char)
  background : Option (List Char)
  link : Option (List Char)
  deriving DecidableEq, Repr

/-- The style that says nothing. -/
def Style.plain : Style := ⟨[], none, none, none⟩

/-- The words of a text, given the word that is being read. -/
def wordsBehind (word : List Char) : List Char → List (List Char)
  | [] => if word.isEmpty then [] else [word]
  | c :: rest =>
      if Text.isBlank c then
        if word.isEmpty then wordsBehind [] rest else word :: wordsBehind [] rest
      else wordsBehind (word ++ [c]) rest

/-- The words of a text: what stands between its blanks. -/
def words (s : List Char) : List (List Char) :=
  wordsBehind [] s

/-- The attribute that a word means. -/
def attribute? (word : List Char) : Option String :=
  (attributeWords.find? fun e => e.1.toList == word).map (·.2)

/-- What stands in brackets behind a name, if a text is of that form. -/
def inBrackets? (name : String) (s : List Char) : Option (List Char) :=
  if (name.toList ++ ['(']).isPrefixOf s then
    match (s.drop (name.length + 1)).reverse with
    | ')' :: inner => some inner.reverse
    | _ => none
  else none

/-- Whether a text is a number sign and six hexadecimal digits. -/
def isHexColour : List Char → Bool
  | '#' :: digits =>
      digits.length == 6 && digits.all fun c => c.isDigit || ('a' ≤ c && c ≤ 'f')
  | _ => false

/-- The value of a number with decimal digits of any script. -/
def digitsValue (digits : List Char) : Nat :=
  (Text.readDigits 0 digits).2.1

/-- Checks three numbers for the parts of a colour. -/
def checkParts (parts : List (List Char)) : Except StyleFault Unit :=
  if parts.length ≠ 3 then .error .unknown
  else if parts.any List.isEmpty then .error .noNumber
  else if parts.all fun part => digitsValue part ≤ 255 then .ok ()
  else .error .unknown

/-- Checks a colour: it is a name, six hexadecimal digits, a number or three numbers. -/
def checkColour (colour : List Char) : Except StyleFault Unit :=
  if colour == "default".toList || (colourNames.any fun name => name.toList == colour) ||
      isHexColour colour then .ok ()
  else match inBrackets? "color" colour with
    | some digits =>
        if 1 ≤ digits.length && digits.length ≤ 3 && digits.all Char.isDigit &&
            digitsValue digits ≤ 255 then .ok ()
        else .error .unknown
    | none =>
        match inBrackets? "rgb" colour with
        | some parts =>
            if !parts.isEmpty && parts.all fun c => c == ',' || Text.isDigit c then
              checkParts (Text.splitAtChar ',' parts)
            else .error .unknown
        | none => .error .unknown

/-- What the next word of a name is. -/
inductive Expected where
  | word
  /-- The colour of the background. -/
  | background
  /-- The attribute that is denied. -/
  | denied
  /-- The address of a link. -/
  | link

/-- Reads the words of a name from what is expected next. -/
def readWords (style : Style) : Expected → List (List Char) → Except StyleFault Style
  | .word, [] => .ok style
  | .background, [] => .error .unknown
  | .denied, [] => .error .unknown
  | .link, [] => .error .unknown
  | .word, word :: rest =>
      let small := Text.lower word
      if small = "on".toList then readWords style .background rest
      else if small = "not".toList then readWords style .denied rest
      else if small = "link".toList then readWords style .link rest
      else match attribute? small with
        | some meant =>
            readWords { style with attributes := (meant, true) :: style.attributes } .word rest
        | none => do
            checkColour small
            readWords { style with colour := some small } .word rest
  | .background, word :: rest => do
      checkColour (Text.lower word)
      readWords { style with background := some (Text.lower word) } .word rest
  | .denied, word :: rest =>
      match attribute? word with
      | some meant =>
          readWords { style with attributes := (meant, false) :: style.attributes } .word rest
      | none => .error .unknown
  | .link, word :: rest => readWords { style with link := some word } .word rest

/-- Reads the name of a style. -/
def readStyle (name : List Char) : Except StyleFault Style :=
  if words name = ["none".toList] then .ok .plain else readWords .plain .word (words name)

/-- The words for the attributes of a style. -/
def Style.attributeTexts (style : Style) : List (List Char) :=
  attributeOrder.filterMap fun name =>
    (style.attributes.find? fun e => e.1 == name).map fun e =>
      if e.2 then name.toList else "not ".toList ++ name.toList

/-- The form to which the name of a style is brought. -/
def Style.text (style : Style) : List Char :=
  let parts := style.attributeTexts ++ style.colour.toList ++
    (style.background.elim [] fun colour => ["on".toList, colour]) ++
    (style.link.elim [] fun address => ["link".toList, address])
  if parts.isEmpty then "none".toList else Text.joinWith [' '] parts

end NamedConstants.Markup
