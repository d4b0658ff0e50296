import BlockVolumes.Pattern.Brackets
import BlockVolumes.Pattern.Weight
import BlockVolumes.Text.Blank

/-
  Reading patterns. They are written with characters, `.`,
  sets in brackets, the anchors `^` and `$`, groups, `|`, the
  quantifiers `*`, `+`, `?` and counts in braces, and a
  backslash in front of a sign. A pattern must not be nested
  too deep, and its machine must not be too large.

  Key definitions include:
    * `Pattern.Token`
    * `Pattern.nextToken?`
    * `Pattern.readToken`
    * `Pattern.parse?`
-/

namespace BlockVolumes

namespace Pattern

------------------------------------------------------------
-- Reading Tokens
------------------------------------------------------------

/- The smallest parts of a written pattern. -/
inductive Token where
  | atom (pattern : Nested Pattern)
  | quantifier (least : Nat) (most : Option Nat)
  | bar
  | opening (captures : Bool)
  | closing
  deriving DecidableEq, Repr

/- A count inside braces, with blanks around it. -/
def count?
    (cs : List Char) : Option (Nat × List Char) :=
  let cs := cs.dropWhile Text.isBlank
  let digits := cs.takeWhile Char.isDigit
  let rest :=
    (cs.dropWhile Char.isDigit).dropWhile Text.isBlank
  match (String.ofList digits).toNat? with
  | some n => if n < UInt32.size then some (n, rest) else none
  | none => none

/- The least and the greatest count after an opening brace. -/
def counts?
    (cs : List Char) :
    Option ((Nat × Option Nat) × List Char) :=
  match count? cs with
  | none => none
  | some (least, '}' :: rest) => some ((least, some least), rest)
  | some (least, ',' :: '}' :: rest) => some ((least, none), rest)
  | some (least, ',' :: rest) =>
      match count? rest with
      | some (most, '}' :: rest') =>
          if least ≤ most then some ((least, some most), rest')
          else none
      | _ => none
  | some _ => none

/- The question mark after a quantifier changes no match. -/
def dropLazy : List Char → List Char
  | '?' :: rest => rest
  | cs => cs

/-
  The first token of a written pattern and the rest.
-/
def nextToken? :
    List Char → Option (Token × List Char)
  | [] => none
  | '^' :: rest => some (.atom ⟨.atStart, 0⟩, rest)
  | '$' :: rest => some (.atom ⟨.atEnd, 0⟩, rest)
  | '.' :: rest => some (.atom ⟨.one .anyOnLine, 0⟩, rest)
  | '|' :: rest => some (.bar, rest)
  | '(' :: '?' :: ':' :: rest => some (.opening false, rest)
  | '(' :: '?' :: _ => none
  | '(' :: rest => some (.opening true, rest)
  | ')' :: rest => some (.closing, rest)
  | '*' :: rest => some (.quantifier 0 none, dropLazy rest)
  | '+' :: rest => some (.quantifier 1 none, dropLazy rest)
  | '?' :: rest => some (.quantifier 0 (some 1), dropLazy rest)
  | '{' :: rest =>
      (counts? rest).map fun ((least, most), rest') =>
        (.quantifier least most, dropLazy rest')
  | '[' :: rest =>
      (bracket? rest).map fun (set, rest') =>
        (.atom ⟨.one set.value, set.depth⟩, rest')
  | '\\' :: c :: rest =>
      (escaped? c).map fun d =>
        (.atom ⟨.one (.single d), 0⟩, rest)
  | ['\\'] => none
  | c :: rest => some (.atom ⟨.one (.single c), 0⟩, rest)

/-
  The tokens of a written pattern. The fuel is never used up
  when it starts above the number of characters.
-/
def tokens? :
    Nat → List Char → Option (List Token)
  | _, [] => some []
  | 0, _ => none
  | fuel + 1, cs =>
      match nextToken? cs with
      | none => none
      | some (token, rest) =>
          (tokens? fuel rest).map (token :: ·)

------------------------------------------------------------
-- Reading Groups
------------------------------------------------------------

/- A pattern after another one; the empty one adds nothing. -/
def followedBy
    (first second : Pattern) : Pattern :=
  if first = .empty then second
  else if second = .empty then first
  else .sequence first second

/-
  A repetition. What has no text is the same once and many
  times, and a single round is the body itself.
-/
def rounds
    (body : Pattern)
    (least : Nat)
    (most : Option Nat) : Pattern :=
  let (least, most) :=
    if body.takesNoText then
      (min least 1, some (min (most.getD 1) 1))
    else (least, most)
  if most = some 0 then .empty
  else if least = 1 ∧ most = some 1 then body
  else .repeated body least most

/-
  A group that is still open: the alternatives before the
  last bar and the parts after it, the latest of each first.
-/
structure OpenGroup where
  captures : Bool
  alternatives : List (Nested Pattern) := []
  parts : List (Nested Pattern) := []
  deriving DecidableEq, Repr

namespace OpenGroup

/- The parts one after another. -/
def current
    (group : OpenGroup) : Nested Pattern :=
  ⟨group.parts.foldl (fun later part => part.value.followedBy later)
    .empty, depthOf group.parts⟩

/- The alternatives of a group. -/
def content
    (group : OpenGroup) : Nested Pattern :=
  let last := group.current
  ⟨group.alternatives.foldl
    (fun later alternative => .choice alternative.value later)
    last.value, depthOf (last :: group.alternatives)⟩

/- The group as a part of the one around it. -/
def close
    (group : OpenGroup) : Nested Pattern :=
  let content := group.content
  ⟨if group.captures then .capture content.value
    else content.value, content.depth + 1⟩

/- The group with one more part. -/
def add
    (group : OpenGroup)
    (part : Nested Pattern) : OpenGroup :=
  { group with parts := part :: group.parts }

end OpenGroup

/-
  Reads one token into the open groups, innermost first. A
  quantifier needs a part before it, and a closing
  parenthesis an open group besides the pattern itself.
-/
def readToken :
    List OpenGroup → Token → Option (List OpenGroup)
  | group :: outer, .atom pattern =>
      some (group.add pattern :: outer)
  | ⟨captures, alternatives, part :: parts⟩ :: outer,
      .quantifier least most =>
      some (⟨captures, alternatives,
        ⟨part.value.rounds least most, part.depth + 1⟩ ::
          parts⟩ :: outer)
  | group :: outer, .bar =>
      some
        ({ group with
          alternatives := group.current :: group.alternatives
          parts := [] } :: outer)
  | groups, .opening captures =>
      some ({ captures := captures } :: groups)
  | group :: next :: outer, .closing =>
      some (next.add group.close :: outer)
  | _, _ => none

/- A pattern may be nested so deep. -/
def depthLimit : Nat := 250

/- The pattern that a text describes, if it is well formed. -/
def parse?
    (s : String) : Option Pattern := do
  let tokens ← tokens? (s.length + 1) s.toList
  match ← tokens.foldlM readToken [{ captures := false }] with
  | [group] =>
      let content := group.content
      if content.depth ≤ depthLimit ∧ content.value.Fits then
        some content.value
      else none
  | _ => none

end Pattern

end BlockVolumes
