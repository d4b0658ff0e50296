import BlockVolumes.Pattern.Characters

/-
  Patterns, and which texts they occur in. A pattern leads
  from some places of a text to others, and it occurs in the
  text if it leads from any place to some place.

  Key definitions include:
    * `Pattern`
    * `Pattern.Places`
    * `Pattern.advance`
    * `Pattern.occursIn`
-/

namespace BlockVolumes

------------------------------------------------------------
-- Patterns
------------------------------------------------------------

/-
  A pattern over the places of a text. A capture matches what
  its body matches.
-/
inductive Pattern where
  | empty
  | atStart
  | atEnd
  | one (set : CharacterSet)
  | sequence (first second : Pattern)
  | choice (first second : Pattern)
  | repeated
      (body : Pattern) (least : Nat) (most : Option Nat)
  | capture (body : Pattern)
  deriving DecidableEq, Repr

namespace Pattern

------------------------------------------------------------
-- Places
------------------------------------------------------------

/-
  A set of places of a text as a number: the place `i`, which
  is in front of the character of that index, is in the set
  if the bit `i` is set.
-/
abbrev Places :=
  Nat

/- The places in front of the characters of a set. -/
def placesOf
    (set : CharacterSet)
    (text : List Char) : Places :=
  text.foldr
    (fun c places => 2 * places + (if set.has c then 1 else 0)) 0

/- The places without those of another set. -/
def without
    (places others : Places) : Places :=
  places ^^^ (places &&& others)

/- Applies a function a number of times. -/
def times
    (f : Places → Places) :
    Nat → Places → Places
  | 0, places => places
  | n + 1, places => if places = 0 then 0 else times f n (f places)

/-
  The places reached by up to a number of applications. Only
  the places that are new are looked at again.
-/
def spread
    (f : Places → Places) :
    Nat → Places → Places → Places
  | 0, reached, _ => reached
  | n + 1, reached, fresh =>
      if fresh = 0 then reached
      else
        let next := f fresh
        spread f n (reached ||| next) (without next reached)

------------------------------------------------------------
-- Matching
------------------------------------------------------------

/-
  The places of a text at which a match can end that begins
  at one of the given places. A match that goes on for more
  rounds than the text has characters stays where it is in
  one of them, and can do so as often as is wanted.
-/
def advance
    (text : List Char) :
    Pattern → Places → Places
  | empty, places => places
  | atStart, places => places &&& 1
  | atEnd, places => places &&& Nat.pow 2 text.length
  | one set, places => 2 * (places &&& placesOf set text)
  | sequence first second, places =>
      advance text second (advance text first places)
  | choice first second, places =>
      advance text first places ||| advance text second places
  | repeated body least most, places =>
      let start :=
        times (advance text body) (min least (text.length + 1))
          places
      let rounds :=
        match most with
        | some most => min (most - least) text.length
        | none => text.length
      spread (advance text body) rounds start start
  | capture body, places => advance text body places

/- Whether a repetition is one that a bare sign stands for. -/
def isPlain
    (least : Nat)
    (most : Option Nat) : Bool :=
  least ≤ 1 && (most = none || most = some 1)

/- A repetition; two plain ones in one another are one. -/
def again :
    Pattern → Nat → Option Nat → Pattern
  | repeated body least most, least', most' =>
      if isPlain least most && isPlain least' most' then
        repeated body (least * least')
          (if most = some 1 && most' = some 1 then some 1 else none)
      else
        repeated (repeated body least most) least' most'
  | body, least, most => repeated body least most

/- A pattern that matches the same in fewer steps. -/
def simplified : Pattern → Pattern
  | sequence first second =>
      sequence first.simplified second.simplified
  | choice first second =>
      choice first.simplified second.simplified
  | repeated body least most =>
      again body.simplified least most
  | capture body => body.simplified
  | pattern => pattern

/- Whether the pattern matches some part of a text. -/
def occursIn
    (pattern : Pattern)
    (s : String) : Bool :=
  let text := s.toList
  pattern.simplified.advance text (Nat.pow 2 (text.length + 1) - 1) != 0

end Pattern

end BlockVolumes
