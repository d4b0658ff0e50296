/-
  Blank characters and the ways a text is cut at a
  character class: trimming, splitting, words and lines.

  Key definitions include:
    * `Text.isBlank`
    * `Text.trim`
    * `Text.splitAtEvery`
    * `Text.words`
    * `Text.lines`
-/

namespace BlockVolumes

namespace Text

------------------------------------------------------------
-- Blank Characters
------------------------------------------------------------

/-
  The characters with the Unicode property White_Space.
-/
def isBlank
    (c : Char) : Bool :=
  c == ' ' ||
    ('\t' ≤ c && c ≤ '\r') ||
    c == '\u0085' ||
    c == '\u00a0' ||
    c == '\u1680' ||
    ('\u2000' ≤ c && c ≤ '\u200a') ||
    c == '\u2028' ||
    c == '\u2029' ||
    c == '\u202f' ||
    c == '\u205f' ||
    c == '\u3000'

------------------------------------------------------------
-- Trimming
------------------------------------------------------------

/- A list of characters without the blanks at either end. -/
def trimChars
    (cs : List Char) : List Char :=
  ((cs.dropWhile isBlank).reverse.dropWhile isBlank).reverse

/- A text without the blanks at either end. -/
def trim
    (s : String) : String :=
  String.ofList (trimChars s.toList)

------------------------------------------------------------
-- Splitting
------------------------------------------------------------

/-
  The pieces between the separators. There is always one
  piece more than there are separators.
-/
def pieces
    (isSeparator : Char → Bool) :
    List Char → List (List Char)
  | [] => [[]]
  | c :: cs =>
      if isSeparator c then
        [] :: pieces isSeparator cs
      else
        match pieces isSeparator cs with
        | [] => [[c]]
        | p :: ps => (c :: p) :: ps

theorem pieces_ne_nil
    (isSeparator : Char → Bool)
    (cs : List Char) :
    pieces isSeparator cs ≠ [] := by
  cases cs with
  | nil => simp [pieces]
  | cons c cs =>
      unfold pieces
      split
      · simp
      · split <;> simp

/- The pieces of a text between the occurrences of a character. -/
def splitAtEvery
    (separator : Char)
    (s : String) : List String :=
  (pieces (· == separator) s.toList).map String.ofList

/- The longest runs of a text that hold no blank. -/
def words
    (s : String) : List String :=
  ((pieces isBlank s.toList).filter (! ·.isEmpty)).map
    String.ofList

------------------------------------------------------------
-- Lines
------------------------------------------------------------

/- A finished line without the carriage return that ends it. -/
def stripReturn
    (cs : List Char) : List Char :=
  if cs.getLast? = some '\r' then cs.dropLast else cs

/-
  Drops the text after the last line feed when it is empty,
  and the carriage return of each line that a line feed ended.
-/
def finishLines :
    List (List Char) → List (List Char)
  | [] => []
  | [last] => if last.isEmpty then [] else [last]
  | line :: rest => stripReturn line :: finishLines rest

/-
  The lines of a text, each without its line feed or its
  carriage return and line feed. A last line needs no end.
-/
def lines
    (s : String) : List String :=
  (finishLines (pieces (· == '\n') s.toList)).map
    String.ofList

------------------------------------------------------------
-- Letters
------------------------------------------------------------

/- A text with the ASCII capitals in lower case. -/
def lowerAscii
    (s : String) : String :=
  String.ofList (s.toList.map Char.toLower)

/- A text with the small ASCII letters in upper case. -/
def upperAscii
    (s : String) : String :=
  String.ofList (s.toList.map Char.toUpper)

/- The texts one after another with a separator in between. -/
def joinWith
    (separator : String)
    (parts : List String) : String :=
  separator.intercalate parts

end Text

end BlockVolumes
