import DexRefs.Text.Blank
import DexRefs.Text.Letter
import DexRefs.Text.Numerals

/-!
Styles of text on the console, as tags and table columns name them: attributes such as `bold`, a
color, a background color after `on` and a link after `link`.  Two texts that set the same name
the same style, whatever their order and case.  A color may be told by its shares of red, green and
blue; a share that is no number is a fault, where all else that is no style is merely none.
-/

set_option autoImplicit false

namespace DexRefs

/-- What a style sets.  Of several settings of one attribute the first in the list counts. -/
structure TextStyle where
  attributes : List (String × Bool) := []
  color : Option String := none
  background : Option String := none
  link : Option String := none
  deriving DecidableEq, Repr

namespace TextStyle

def attributeWords : List (String × List String) :=
  [("bold", ["bold", "b"]), ("dim", ["dim", "d"]), ("italic", ["italic", "i"]),
   ("underline", ["underline", "u"]), ("blink", ["blink"]), ("blink2", ["blink2"]),
   ("reverse", ["reverse", "r"]), ("conceal", ["conceal", "c"]), ("strike", ["strike", "s"]),
   ("underline2", ["underline2", "uu"]), ("frame", ["frame"]), ("encircle", ["encircle"]),
   ("overline", ["overline", "o"])]

def attribute? (word : String) : Option String :=
  (attributeWords.find? fun a => a.2.contains word).map (·.1)

def colorNames : List String :=
  ["default", "black", "red", "green", "yellow", "blue", "magenta", "cyan", "white",
   "bright_black", "bright_red", "bright_green", "bright_yellow", "bright_blue", "bright_magenta",
   "bright_cyan", "bright_white", "grey0", "gray0", "navy_blue", "dark_blue", "blue3",
   "blue1", "dark_green", "deep_sky_blue4", "dodger_blue3", "dodger_blue2", "green4",
   "spring_green4", "turquoise4", "deep_sky_blue3", "dodger_blue1", "green3", "spring_green3",
   "dark_cyan", "light_sea_green", "deep_sky_blue2", "deep_sky_blue1", "spring_green2",
   "cyan3", "dark_turquoise", "turquoise2", "green1", "spring_green1", "medium_spring_green",
   "cyan2", "cyan1", "dark_red", "deep_pink4", "purple4", "purple3", "blue_violet", "orange4",
   "grey37", "gray37", "medium_purple4", "slate_blue3", "royal_blue1", "chartreuse4",
   "dark_sea_green4", "pale_turquoise4", "steel_blue", "steel_blue3", "cornflower_blue",
   "chartreuse3", "cadet_blue", "sky_blue3", "steel_blue1", "pale_green3", "sea_green3",
   "aquamarine3", "medium_turquoise", "chartreuse2", "sea_green2", "sea_green1",
   "aquamarine1", "dark_slate_gray2", "dark_magenta", "dark_violet", "purple", "light_pink4",
   "plum4", "medium_purple3", "slate_blue1", "yellow4", "wheat4", "grey53", "gray53",
   "light_slate_grey", "light_slate_gray", "medium_purple", "light_slate_blue",
   "dark_olive_green3", "dark_sea_green", "light_sky_blue3", "sky_blue2", "dark_sea_green3",
   "dark_slate_gray3", "sky_blue1", "chartreuse1", "light_green", "pale_green1",
   "dark_slate_gray1", "red3", "medium_violet_red", "magenta3", "dark_orange3", "indian_red",
   "hot_pink3", "medium_orchid3", "medium_orchid", "medium_purple2", "dark_goldenrod",
   "light_salmon3", "rosy_brown", "grey63", "gray63", "medium_purple1", "gold3", "dark_khaki",
   "navajo_white3", "grey69", "gray69", "light_steel_blue3", "light_steel_blue", "yellow3",
   "dark_sea_green2", "light_cyan3", "light_sky_blue1", "green_yellow", "dark_olive_green2",
   "dark_sea_green1", "pale_turquoise1", "deep_pink3", "magenta2", "hot_pink2", "orchid",
   "medium_orchid1", "orange3", "light_pink3", "pink3", "plum3", "violet", "light_goldenrod3",
   "tan", "misty_rose3", "thistle3", "plum2", "khaki3", "light_goldenrod2", "light_yellow3",
   "grey84", "gray84", "light_steel_blue1", "yellow2", "dark_olive_green1", "honeydew2",
   "light_cyan1", "red1", "deep_pink2", "deep_pink1", "magenta1", "orange_red1",
   "indian_red1", "hot_pink", "dark_orange", "salmon1", "light_coral", "pale_violet_red1",
   "orchid2", "orchid1", "orange1", "sandy_brown", "light_salmon1", "light_pink1", "pink1",
   "plum1", "gold1", "navajo_white1", "misty_rose1", "thistle1", "yellow1",
   "light_goldenrod1", "khaki1", "wheat1", "cornsilk1", "grey100", "gray100", "grey3",
   "gray3", "grey7", "gray7", "grey11", "gray11", "grey15", "gray15", "grey19", "gray19",
   "grey23", "gray23", "grey27", "gray27", "grey30", "gray30", "grey35", "gray35", "grey39",
   "gray39", "grey42", "gray42", "grey46", "gray46", "grey50", "gray50", "grey54", "gray54",
   "grey58", "gray58", "grey62", "gray62", "grey66", "gray66", "grey70", "gray70", "grey74",
   "gray74", "grey78", "gray78", "grey82", "gray82", "grey85", "gray85", "grey89", "gray89",
   "grey93", "gray93"]

inductive ShareFault where
  | missing
  | digits (count : Nat)
  deriving DecidableEq, Repr

def ShareFault.message : ShareFault → String
  | missing => "invalid literal for int() with base 10: ''"
  | digits count =>
    "Exceeds the limit (4300 digits) for integer string conversion: value has " ++ decimal count ++
      " digits; use sys.set_int_max_str_digits() to increase the limit"

def digitLimit : Nat := 4300

def share (digits : List Char) : Except ShareFault Nat :=
  if digits.isEmpty then .error .missing
  else if digitLimit < digits.length then .error (.digits digits.length)
  else .ok (digits.foldl (fun n c => 10 * n + (digit? c).getD 0) 0)

def areShares (inner : List Char) : Except ShareFault Bool :=
  if !inner.isEmpty && inner.all (fun c => c = ',' || (digit? c).isSome) then
    match inner.splitOn ',' with
    | [red, green, blue] => do
      let shares ← [red, green, blue].mapM share
      pure (shares.all (· ≤ 255))
    | _ => .ok false
  else .ok false

def isHexDigit (c : Char) : Bool :=
  c.isDigit || ('a' ≤ c && c ≤ 'f')

def isByte (cs : List Char) : Bool :=
  !cs.isEmpty && cs.all Char.isDigit && Nat.ofDigitChars 10 cs 0 ≤ 255

/-- Whether a word in lower case is a color: a name, six hexadecimal digits, a number, or shares
of red, green and blue. -/
def isColor (word : List Char) : Except ShareFault Bool :=
  if colorNames.contains (String.ofList word) then .ok true
  else
    match word with
    | '#' :: digits => .ok (digits.length = 6 && digits.all isHexDigit)
    | 'c' :: 'o' :: 'l' :: 'o' :: 'r' :: '(' :: rest =>
      .ok (rest.getLast? = some ')' && rest.length ≤ 4 && isByte rest.dropLast)
    | 'r' :: 'g' :: 'b' :: '(' :: rest =>
      if rest.getLast? = some ')' then areShares rest.dropLast else .ok false
    | _ => .ok false

def set (s : TextStyle) : List (List Char) → Except ShareFault (Option TextStyle)
  | [] => .ok (some s)
  | word :: rest =>
    match lowerText word, rest with
    | "on", color :: rest => do
      if ← isColor (lower color) then set { s with background := some (lowerText color) } rest
      else pure none
    | "not", name :: rest =>
      match attribute? (String.ofList name) with
      | some a => set { s with attributes := (a, false) :: s.attributes } rest
      | none => .ok none
    | "link", target :: rest => set { s with link := some (String.ofList target) } rest
    | _, rest =>
      match attribute? (lowerText word) with
      | some a => set { s with attributes := (a, true) :: s.attributes } rest
      | none => do
        if ← isColor (lower word) then set { s with color := some (lowerText word) } rest
        else pure none

def read (cs : List Char) : Except ShareFault (Option TextStyle) :=
  if trim cs = "none".toList then .ok (some {}) else set {} (blankSeparated cs)

def words (s : TextStyle) : List String :=
  (attributeWords.filterMap fun a =>
      (s.attributes.lookup a.1).map fun set => if set then a.1 else "not " ++ a.1) ++
    s.color.toList ++ (s.background.map ("on " ++ ·)).toList ++ (s.link.map ("link " ++ ·)).toList

def text (s : TextStyle) : String :=
  if s.words.isEmpty then "none" else " ".intercalate s.words

/-- One text for all that name the same style; what describes no style names itself, whatever the
case of its letters. -/
def normalName (cs : List Char) : Except ShareFault String :=
  (read cs).map fun
    | some s => s.text
    | none => lowerText (trim cs)

def palette : List String :=
  ["deps.section", "deps.success", "deps.warning", "deps.error", "deps.dim", "deps.internal",
   "deps.external"]

def isKnown (cs : List Char) : Except ShareFault Bool :=
  if palette.contains (String.ofList cs) then .ok true else (read cs).map Option.isSome

end TextStyle

end DexRefs
