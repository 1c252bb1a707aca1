import MeshAgent.Failure
import MeshAgent.Text.Blank
import MeshAgent.Text.Digit
import MeshAgent.Text.Lower
import MeshAgent.Text.Split

/-!
# Styles

A style is a list of words: attributes, a colour, a background and a link. Two texts for the same
style have one normal form, by which an end of a style finds its start. Words that make no style
are their own normal form, in lower case. Only a colour of three parts can fail to be read at all: each of
its parts must be a number.
-/
namespace MeshAgent.Style

/-- Colours with a name. -/
def colorNames : String := "black red green yellow blue magenta cyan white bright_black bright_red bright_green
bright_yellow bright_blue bright_magenta bright_cyan bright_white grey0 gray0 navy_blue
dark_blue blue3 blue1 dark_green deep_sky_blue4 dodger_blue3 dodger_blue2 green4 spring_green4
turquoise4 deep_sky_blue3 dodger_blue1 green3 spring_green3 dark_cyan light_sea_green
deep_sky_blue2 deep_sky_blue1 spring_green2 cyan3 dark_turquoise turquoise2 green1 spring_green1
medium_spring_green cyan2 cyan1 dark_red deep_pink4 purple4 purple3 blue_violet orange4 grey37
gray37 medium_purple4 slate_blue3 royal_blue1 chartreuse4 dark_sea_green4 pale_turquoise4
steel_blue steel_blue3 cornflower_blue chartreuse3 cadet_blue sky_blue3 steel_blue1 pale_green3
sea_green3 aquamarine3 medium_turquoise chartreuse2 sea_green2 sea_green1 aquamarine1
dark_slate_gray2 dark_magenta dark_violet purple light_pink4 plum4 medium_purple3 slate_blue1
yellow4 wheat4 grey53 gray53 light_slate_grey light_slate_gray medium_purple light_slate_blue
dark_olive_green3 dark_sea_green light_sky_blue3 sky_blue2 dark_sea_green3 dark_slate_gray3
sky_blue1 chartreuse1 light_green pale_green1 dark_slate_gray1 red3 medium_violet_red magenta3
dark_orange3 indian_red hot_pink3 medium_orchid3 medium_orchid medium_purple2 dark_goldenrod
light_salmon3 rosy_brown grey63 gray63 medium_purple1 gold3 dark_khaki navajo_white3 grey69
gray69 light_steel_blue3 light_steel_blue yellow3 dark_sea_green2 light_cyan3 light_sky_blue1
green_yellow dark_olive_green2 dark_sea_green1 pale_turquoise1 deep_pink3 magenta2 hot_pink2
orchid medium_orchid1 orange3 light_pink3 pink3 plum3 violet light_goldenrod3 tan misty_rose3
thistle3 plum2 khaki3 light_goldenrod2 light_yellow3 grey84 gray84 light_steel_blue1 yellow2
dark_olive_green1 honeydew2 light_cyan1 red1 deep_pink2 deep_pink1 magenta1 orange_red1
indian_red1 hot_pink dark_orange salmon1 light_coral pale_violet_red1 orchid2 orchid1 orange1
sandy_brown light_salmon1 light_pink1 pink1 plum1 gold1 navajo_white1 misty_rose1 thistle1
yellow1 light_goldenrod1 khaki1 wheat1 cornsilk1 grey100 gray100 grey3 gray3 grey7 gray7 grey11
gray11 grey15 gray15 grey19 gray19 grey23 gray23 grey27 gray27 grey30 gray30 grey35 gray35
grey39 gray39 grey42 gray42 grey46 gray46 grey50 gray50 grey54 gray54 grey58 gray58 grey62
gray62 grey66 gray66 grey70 gray70 grey74 gray74 grey78 gray78 grey82 gray82 grey85 gray85
grey89 gray89 grey93 gray93"

/-- Attributes with their short names, in the order of the normal form. -/
def attributes : List (String × List String) :=
  [("bold", ["b"]), ("dim", ["d"]), ("italic", ["i"]), ("underline", ["u"]), ("blink", []),
   ("blink2", []), ("reverse", ["r"]), ("conceal", ["c"]), ("strike", ["s"]),
   ("underline2", ["uu"]), ("frame", []), ("encircle", []), ("overline", ["o"])]

def attribute? (word : String) : Option String :=
  (attributes.find? fun a => a.1 = word || a.2.contains word).map (·.1)

def isHexColor (cs : List Char) : Bool := cs.length = 6 && cs.all fun c => (Bytes.hexValue? c).isSome

/-- A part of a colour, which holds nothing but digits. -/
def readPart (cs : List Char) : Except Failure Nat :=
  if cs.isEmpty then .error (.notNumber "")
  else if Decimal.digitLimit < cs.length then .error (.tooManyDigits cs.length)
  else .ok (Text.decimalValue cs)

/-- Whether parts of red, green and blue make a colour. Three parts must be numbers. -/
def isRgb (cs : List Char) : Except Failure Bool :=
  if cs.isEmpty || !cs.all fun c => c = ',' || (Text.digitValue? c).isSome then .ok false
  else
    match Text.pieces ',' cs with
    | [red, green, blue] => do
      let parts ← [red, green, blue].mapM readPart
      return parts.all (· ≤ 255)
    | _ => .ok false

/-- Whether a word of lower-case letters is a colour: a name, a number, or parts of red, green and
blue. -/
def isColor (word : String) : Except Failure Bool :=
  if word = "default" || (Text.tokens Text.isBlank colorNames.toList).contains word.toList then .ok true
  else
    match Text.cutFirst '(' word.toList with
    | ('#' :: digits, none) => .ok (isHexColor digits)
    | (name, some arguments) =>
      match Text.cutLast ')' arguments with
      | some (ns, []) =>
        if name = "color".toList then
          .ok (ns.length ≤ 3 && Decimal.isNumeral ns && Decimal.value ns ≤ 255)
        else if name = "rgb".toList then isRgb ns
        else .ok false
      | _ => .ok false
    | _ => .ok false

structure Definition where
  /-- Attributes that are switched on or off; of two settings the later one counts. -/
  settings : List (String × Bool) := []
  color : Option String := none
  background : Option String := none
  link : Option String := none

/-- Reads the words of a style, if they make one. -/
def read? : List String → Definition → Except Failure (Option Definition)
  | [], d => .ok (some d)
  | w :: rest, d =>
    if Text.lower w = "on" then
      match rest with
      | [] => .ok none
      | color :: rest => do
        if ← isColor (Text.lower color) then
          read? rest { d with background := some (Text.lower color) }
        else return none
    else if Text.lower w = "not" then
      match rest with
      | [] => .ok none
      | name :: rest =>
        match attribute? name with
        | some a => read? rest { d with settings := (a, false) :: d.settings }
        | none => .ok none
    else if Text.lower w = "link" then
      match rest with
      | [] => .ok none
      | target :: rest => read? rest { d with link := some target }
    else
      match attribute? (Text.lower w) with
      | some a => read? rest { d with settings := (a, true) :: d.settings }
      | none => do
        if ← isColor (Text.lower w) then read? rest { d with color := some (Text.lower w) }
        else return none

def Definition.text (d : Definition) : String :=
  let settings := attributes.filterMap fun a =>
    (d.settings.lookup a.1).map fun isOn => if isOn then a.1 else "not " ++ a.1
  let words := settings ++ d.color.toList ++ d.background.toList.map ("on " ++ ·)
    ++ d.link.toList.map ("link " ++ ·)
  if words.isEmpty then "none" else String.intercalate " " words

/-- The normal form of a style. -/
def normal (cs : List Char) : Except Failure String :=
  let words := (Text.tokens Text.isBlank cs).map String.ofList
  let trimmed := String.ofList (Text.trim Text.isBlank cs)
  if trimmed = "none" || cs.isEmpty then .ok "none"
  else do
    match ← read? words {} with
    | some d => return d.text
    | none => return Text.lower trimmed

end MeshAgent.Style
