import BlockVolumes.Pattern.Characters

/-
  Sets of characters in brackets. A set lists characters and
  ranges, may hold further sets, names of sets and operations
  between them, and a circumflex in front makes it the set of
  all other characters.

  Key definitions include:
    * `Pattern.Nested`
    * `Pattern.escaped?`
    * `Pattern.OpenBracket`
    * `Pattern.bracket?`
-/

namespace BlockVolumes

namespace Pattern

------------------------------------------------------------
-- Nesting
------------------------------------------------------------

/- Something that was read, and how deep it is nested. -/
structure Nested
    (α : Type) where
  value : α
  depth : Nat
  deriving DecidableEq, Repr

/-
  The depth of some parts together: several of them are one
  level deeper than a part alone.
-/
def depthOf
    {α : Type} :
    List (Nested α) → Nat
  | [] => 0
  | [part] => part.depth
  | parts => (parts.map (·.depth)).foldl max 0 + 1

------------------------------------------------------------
-- Characters
------------------------------------------------------------

/-
  The character that a backslash and a sign stand for. Letters
  and digits have no meaning of their own, apart from a few
  controls.
-/
def escaped? : Char → Option Char
  | 'n' => some '\n'
  | 'r' => some '\r'
  | 't' => some '\t'
  | 'a' => some '\x07'
  | 'f' => some '\x0c'
  | 'v' => some '\x0b'
  | c =>
      if c.isAlphanum || c == '<' || c == '>' ||
          decide (128 ≤ c.toNat) then
        none
      else
        some c

/- One character of a set. -/
def setCharacter? :
    List Char → Option (Char × List Char)
  | [] => none
  | ['\\'] => none
  | '\\' :: c :: rest => (escaped? c).map fun d => (d, rest)
  | c :: rest => some (c, rest)

/-
  A character, or a range, which has to be in order. A hyphen
  in front of another one or of the closing bracket makes no
  range.
-/
def setItem?
    (cs : List Char) : Option (CharacterSet × List Char) :=
  match setCharacter? cs with
  | none => none
  | some (_, ['-']) => none
  | some (first, '-' :: next :: rest) =>
      if next = ']' ∨ next = '-' then
        some (.single first, '-' :: next :: rest)
      else
        match setCharacter? (next :: rest) with
        | none => none
        | some (last, rest') =>
            if first ≤ last then some (.range first last, rest')
            else none
  | some (first, rest) => some (.single first, rest)

/-
  A name between colons and a bracket, without the bracket in
  front. A circumflex stands for all other characters.
-/
def namedSet? :
    List Char → Option (CharacterSet × List Char)
  | ':' :: cs =>
      let negated := cs.head? == some '^'
      let cs := if negated then cs.drop 1 else cs
      match cs.dropWhile (· != ':') with
      | ':' :: ']' :: rest =>
          (CharacterSet.named?
            (String.ofList (cs.takeWhile (· != ':')))).map
            fun set =>
              (if negated then set.complement else set, rest)
      | _ => none
  | _ => none

------------------------------------------------------------
-- Brackets
------------------------------------------------------------

/- The operations between the parts of a bracket. -/
inductive SetOperation where
  | intersection
  | difference
  | symmetricDifference
  deriving DecidableEq, Repr

def SetOperation.apply :
    SetOperation → CharacterSet → CharacterSet → CharacterSet
  | intersection => .intersection
  | difference => .difference
  | symmetricDifference => .symmetricDifference

/-
  A bracket that is still open: what stands before the last
  operation, and the items after it, the latest one first.
-/
structure OpenBracket where
  negated : Bool
  before : Option (Nested CharacterSet × SetOperation) := none
  items : List (Nested CharacterSet) := []
  deriving DecidableEq, Repr

namespace OpenBracket

/- The items after the last operation. -/
def union
    (bracket : OpenBracket) : Nested CharacterSet :=
  ⟨bracket.items.foldl (fun set item => item.value.union set)
    .empty, depthOf bracket.items⟩

/- All that was read so far. -/
def content
    (bracket : OpenBracket) : Nested CharacterSet :=
  let right := bracket.union
  match bracket.before with
  | none => right
  | some (left, operation) =>
      ⟨operation.apply left.value right.value,
        max left.depth right.depth + 1⟩

/- The bracket with one more item. -/
def add
    (bracket : OpenBracket)
    (item : Nested CharacterSet) : OpenBracket :=
  { bracket with items := item :: bracket.items }

/- The bracket with an operation after what it holds. -/
def operate
    (bracket : OpenBracket)
    (operation : SetOperation) : OpenBracket :=
  { bracket with
    before := some (bracket.content, operation)
    items := [] }

/- The set that a bracket stands for. -/
def close
    (bracket : OpenBracket) : Nested CharacterSet :=
  let content := bracket.content
  ⟨if bracket.negated then content.value.complement
    else content.value, content.depth + 1⟩

end OpenBracket

/-
  A bracket after its opening sign. Hyphens in front and a
  closing bracket in the first place stand for themselves.
-/
def openBracket
    (cs : List Char) : OpenBracket × List Char :=
  let negated := cs.head? == some '^'
  let cs := if negated then cs.drop 1 else cs
  let hyphens :=
    (cs.takeWhile (· == '-')).map fun c =>
      (⟨.single c, 0⟩ : Nested CharacterSet)
  let cs := cs.dropWhile (· == '-')
  match hyphens, cs with
  | [], ']' :: rest =>
      ({ negated := negated, items := [⟨.single ']', 0⟩] }, rest)
  | _, _ => ({ negated := negated, items := hyphens }, cs)

/-
  Reads on until the outermost of some open brackets, which
  are listed from the inside, is closed. The fuel is never
  used up when it starts above the number of characters.
-/
def readBrackets? :
    Nat → List OpenBracket → List Char →
    Option (Nested CharacterSet × List Char)
  | 0, _, _ => none
  | _, [], _ => none
  | _, _, [] => none
  | fuel + 1, inner :: outer, ']' :: rest =>
      match outer with
      | [] => some (inner.close, rest)
      | next :: outer =>
          readBrackets? fuel (next.add inner.close :: outer) rest
  | fuel + 1, inner :: outer, '&' :: '&' :: rest =>
      readBrackets? fuel (inner.operate .intersection :: outer) rest
  | fuel + 1, inner :: outer, '-' :: '-' :: rest =>
      readBrackets? fuel (inner.operate .difference :: outer) rest
  | fuel + 1, inner :: outer, '~' :: '~' :: rest =>
      readBrackets? fuel
        (inner.operate .symmetricDifference :: outer) rest
  | fuel + 1, inner :: outer, '[' :: rest =>
      match namedSet? rest with
      | some (set, rest') =>
          readBrackets? fuel (inner.add ⟨set, 0⟩ :: outer) rest'
      | none =>
          let (next, rest') := openBracket rest
          readBrackets? fuel (next :: inner :: outer) rest'
  | fuel + 1, inner :: outer, cs =>
      match setItem? cs with
      | none => none
      | some (set, rest) =>
          readBrackets? fuel (inner.add ⟨set, 0⟩ :: outer) rest

/- A bracket after its opening sign, up to its closing one. -/
def bracket?
    (cs : List Char) :
    Option (Nested CharacterSet × List Char) :=
  let (first, rest) := openBracket cs
  readBrackets? (cs.length + 1) [first] rest

end Pattern

end BlockVolumes
