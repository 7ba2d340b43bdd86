import LiveLine.Text.Blank

/-!
# Terminal colors

The sixteen colors, the names that settings may give them, and their codes.
-/

namespace LiveLine

inductive Color where
  | black
  | darkRed
  | darkGreen
  | darkYellow
  | darkBlue
  | darkMagenta
  | darkCyan
  | grey
  | darkGrey
  | red
  | green
  | yellow
  | blue
  | magenta
  | cyan
  | white
  deriving DecidableEq, Repr

namespace Color

/-- Every color, in the order of the codes. -/
def all : List Color :=
  [black, darkRed, darkGreen, darkYellow, darkBlue, darkMagenta, darkCyan, grey, darkGrey, red,
    green, yellow, blue, magenta, cyan, white]

/-- The place of a color in the palette of 256 colors. -/
def code (c : Color) : Nat := all.idxOf c

/-- The name of a color, in small letters with underscores. -/
def name : Color → Text
  | black => "black".toList
  | darkRed => "dark_red".toList
  | darkGreen => "dark_green".toList
  | darkYellow => "dark_yellow".toList
  | darkBlue => "dark_blue".toList
  | darkMagenta => "dark_magenta".toList
  | darkCyan => "dark_cyan".toList
  | grey => "grey".toList
  | darkGrey => "dark_grey".toList
  | red => "red".toList
  | green => "green".toList
  | yellow => "yellow".toList
  | blue => "blue".toList
  | magenta => "magenta".toList
  | cyan => "cyan".toList
  | white => "white".toList

/-- A name as settings may write it: blanks around it, capital letters and hyphens do not matter,
and `gray` is another spelling of `grey`. -/
def normalize (name : Text) : Text :=
  let plain := name.trim.map fun c => if c = '-' then '_' else c.toLower
  if plain = "gray".toList then "grey".toList
  else if plain = "dark_gray".toList then "dark_grey".toList
  else plain

/-- The color that a name in the settings stands for. -/
def ofName? (name : Text) : Option Color := all.find? fun c => c.name = normalize name

end Color

end LiveLine
