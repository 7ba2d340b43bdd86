import LiveLine.Text.Blank
import LiveLine.Text.Word

/-!
# Which cursor lines are evaluated

A line is evaluated when it begins with a print call or is one call as a whole, unless its first
word opens a block. Blanks around the line do not count.
-/

namespace LiveLine

/-- The words whose lines open a block. -/
def blockKeywords : List Text :=
  ["def".toList, "class".toList, "for".toList, "while".toList, "if".toList, "elif".toList,
    "else".toList, "with".toList, "try".toList, "except".toList, "finally".toList]

/-- The names that begin a print call, and the first words that rule a line out. -/
structure Classifier where
  printCalls : List Text := ["print".toList]
  excluded : List Text := blockKeywords

namespace Classifier

/-- Adds a name that begins a print call. -/
def withPrintCall (k : Classifier) (name : Text) : Classifier :=
  { k with printCalls := k.printCalls ++ [name] }

/-- Adds first words that rule a line out. -/
def withExcluded (k : Classifier) (words : List Text) : Classifier :=
  { k with excluded := k.excluded ++ words }

/-- The longest run of word characters at the start. -/
def leadingWord (t : Text) : Text := t.takeWhile isWord

/-- Whether the text begins with a word that rules it out. -/
def isExcluded (k : Classifier) (t : Text) : Bool :=
  !(leadingWord t).isEmpty && k.excluded.contains (leadingWord t)

/-- Whether the text begins with one of the print names and an opening parenthesis. -/
def beginsPrint (k : Classifier) (t : Text) : Bool :=
  k.printCalls.any fun name => (name ++ ['(']).isPrefixOf t

/-- Whether the text is a parenthesis, characters other than line feeds, and a parenthesis. -/
def isParenthesized : Text → Bool
  | '(' :: r => r.getLast? == some ')' && !r.contains '\n'
  | _ => false

/-- Whether the text is a word, blanks, and a parenthesized part. -/
def isCall (t : Text) : Bool :=
  !(leadingWord t).isEmpty && isParenthesized ((t.dropWhile isWord).dropWhile isBlank)

/-- Whether the cursor line is evaluated. -/
def evaluates (k : Classifier) (line : Text) : Bool :=
  let t := line.trim
  !t.isEmpty && !k.isExcluded t && (k.beginsPrint t || isCall t)

end Classifier

end LiveLine
