/-!
# Blank characters

The characters with the Unicode property White_Space, and the three operations
on texts that depend on them: trimming both ends, asking whether any blank
occurs, and splitting into the words between blanks. Lower-casing in this
library changes ASCII letters only and is kept here beside them.
-/

namespace ScopeQuery.Text

/-- The characters that have the Unicode property White_Space. -/
def isBlank (c : Char) : Bool :=
  let n := c.toNat
  (9 ≤ n && n ≤ 13) || n == 0x20 || n == 0x85 || n == 0xA0 || n == 0x1680 ||
    (0x2000 ≤ n && n ≤ 0x200A) || n == 0x2028 || n == 0x2029 || n == 0x202F ||
    n == 0x205F || n == 0x3000

/-- A text without the blanks at its two ends. -/
def trim (text : List Char) : List Char :=
  ((text.dropWhile isBlank).reverse.dropWhile isBlank).reverse

/-- The words of a text read so far as `word` reversed, then the rest of it. -/
def wordsAfter (word : List Char) : List Char → List (List Char)
  | [] => if word.isEmpty then [] else [word.reverse]
  | c :: rest =>
    if isBlank c then
      if word.isEmpty then wordsAfter [] rest else word.reverse :: wordsAfter [] rest
    else wordsAfter (c :: word) rest

/-- The non-empty stretches between blanks, in order. -/
def words (text : List Char) : List (List Char) := wordsAfter [] text

/-- ASCII letters in lower case; every other character is kept. -/
def lower (text : List Char) : List Char := text.map Char.toLower

/-- Texts one after another with a separator between neighbours. -/
def joined (separator : String) : List String → String
  | [] => ""
  | [text] => text
  | text :: next :: rest => text ++ separator ++ joined separator (next :: rest)

end ScopeQuery.Text
