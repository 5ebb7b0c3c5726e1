/-!
# Blank characters

The characters with the Unicode White_Space property. They are what trimming removes, what
splits words, and what a run of blanks collapses over: tab through carriage return, space,
next line, no-break space, ogham space mark, the en quad through hair space, the line and
paragraph separators, narrow no-break space, medium mathematical space and ideographic space.
-/

namespace MemoryDashboard

namespace Text

/-- Whether a character is blank (Unicode White_Space). -/
def isBlank (c : Char) : Bool :=
  let n := c.toNat
  (0x9 ≤ n && n ≤ 0xD) || n = 0x20 || n = 0x85 || n = 0xA0 || n = 0x1680 ||
    (0x2000 ≤ n && n ≤ 0x200A) || n = 0x2028 || n = 0x2029 || n = 0x202F || n = 0x205F ||
    n = 0x3000

/-- The text without blanks at either end. -/
def trim (s : String) : String :=
  String.ofList (((s.toList.dropWhile isBlank).reverse.dropWhile isBlank).reverse)

/-- The text without blanks at its start. -/
def trimStart (s : String) : String := String.ofList (s.toList.dropWhile isBlank)

/-- The text without blanks at its end. -/
def trimEnd (s : String) : String :=
  String.ofList ((s.toList.reverse.dropWhile isBlank).reverse)

/-- Splits characters at every blank, dropping the blanks; empty words are kept. -/
def splitAtBlanks : List Char → List (List Char)
  | [] => [[]]
  | c :: rest =>
    if isBlank c then [] :: splitAtBlanks rest
    else
      match splitAtBlanks rest with
      | [] => [[c]]
      | w :: ws => (c :: w) :: ws

/-- The words of a text: the non-empty runs of non-blank characters. -/
def words (s : String) : List String :=
  ((splitAtBlanks s.toList).filter (fun w => !w.isEmpty)).map String.ofList

/-- Replaces every run of blanks by one space; `inBlank` says whether the characters before
ended in a blank. -/
def collapseBlanksAfter (inBlank : Bool) : List Char → List Char
  | [] => []
  | c :: rest =>
    if isBlank c then
      if inBlank then collapseBlanksAfter true rest else ' ' :: collapseBlanksAfter true rest
    else c :: collapseBlanksAfter false rest

/-- Replaces every run of blanks by one space. -/
def collapseBlanks (cs : List Char) : List Char := collapseBlanksAfter false cs

end Text

end MemoryDashboard
