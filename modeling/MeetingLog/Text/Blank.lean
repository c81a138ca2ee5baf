/-!
# Blank characters, words and trimming

A character is blank when it has the Unicode property `White_Space`. A text is
read as its words, the maximal runs of characters that are not blank; trimming,
collapsing and squeezing are the three ways of forgetting blank characters.
-/

namespace MeetingLog.Text

/-- `isBlank c` means that `c` has the Unicode property `White_Space`. The
property holds of twenty-five characters. -/
def isBlank (c : Char) : Bool :=
  let code := c.toNat
  (0x9 ≤ code && code ≤ 0xD) || code == 0x20 || code == 0x85 ||
    code == 0xA0 || code == 0x1680 ||
    (0x2000 ≤ code && code ≤ 0x200A) || code == 0x2028 ||
    code == 0x2029 || code == 0x202F || code == 0x205F || code == 0x3000

/-- `startsBlank letters` means that no word begins at the front of `letters`:
the list is empty or its first character is blank. -/
def startsBlank : List Char → Bool
  | [] => true
  | c :: _ => isBlank c

/-- The maximal runs of characters that are not blank, in order. -/
def words : List Char → List (List Char)
  | [] => []
  | c :: rest =>
      if isBlank c then words rest
      else if startsBlank rest then [c] :: words rest
      else
        match words rest with
        | [] => [[c]]
        | word :: others => (c :: word) :: others

/-- Words written one after another with a single space between neighbours. -/
def joinWords : List (List Char) → List Char
  | [] => []
  | [word] => word
  | word :: others => word ++ ' ' :: joinWords others

/-- The characters without the blank ones at the front. -/
def trimFront (letters : List Char) : List Char :=
  letters.dropWhile isBlank

/-- The characters without the blank ones at the back. -/
def trimBack (letters : List Char) : List Char :=
  (letters.reverse.dropWhile isBlank).reverse

/-- The characters without the blank ones at either end. -/
def trimLetters (letters : List Char) : List Char :=
  trimBack (trimFront letters)

/-- The text without the blank characters at either end. -/
def trim (text : String) : String :=
  String.ofList (trimLetters text.toList)

def wordCount (text : String) : Nat :=
  (words text.toList).length

/-- The text with every run of blank characters between words replaced by one
space, and none left at the ends. -/
def collapse (text : String) : String :=
  String.ofList (joinWords (words text.toList))

/-- The words of a text written without anything between them, so that a word
split in two reads the same as the whole word. -/
def squeeze (text : String) : String :=
  String.ofList (words text.toList).flatten

/-- `allBlank text` means that every character of the text is blank. -/
def allBlank (text : String) : Bool :=
  text.toList.all isBlank

end MeetingLog.Text
