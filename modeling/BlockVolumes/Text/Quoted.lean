import BlockVolumes.Text.Unprintable

/-
  Texts between double quotes, as reports show the texts and
  lists that they cite.

  Key definitions include:
    * `Text.quote`
    * `Text.quoteList`
    * `Text.quoteOption`
-/

namespace BlockVolumes

namespace Text

/- The lower case hexadecimal numeral of a number. -/
def hexadecimal
    (n : Nat) : String :=
  String.ofList (Nat.toDigits 16 n)

/- A character inside double quotes. -/
def quoteChar
    (c : Char) : String :=
  if c = '"' then "\\\""
  else if c = '\\' then "\\\\"
  else if c = '\n' then "\\n"
  else if c = '\r' then "\\r"
  else if c = '\t' then "\\t"
  else if c = '\x00' then "\\0"
  else if isUnprintable c then
    "\\u\x7b" ++ hexadecimal c.toNat ++ "\x7d"
  else
    c.toString

/- A text between double quotes. -/
def quote
    (s : String) : String :=
  "\"" ++ String.join (s.toList.map quoteChar) ++ "\""

/- The quoted texts of a list, between brackets. -/
def quoteList
    (items : List String) : String :=
  "[" ++ ", ".intercalate (items.map quote) ++ "]"

/- A quoted text that may be absent. -/
def quoteOption : Option String → String
  | none => "None"
  | some s => "Some(" ++ quote s ++ ")"

end Text

end BlockVolumes
