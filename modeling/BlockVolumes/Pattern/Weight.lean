import BlockVolumes.Pattern.Matching

/-
  How large the machine of a pattern is. It reads a text byte
  by byte, forward or backward, and has a state for each byte
  that can be read and for each way that branches off. Its
  weight is that of its states: a state is worth as much as
  32 bytes, and more with each way that leads on from it.

  Key definitions include:
    * `Pattern.setWeight`
    * `Pattern.wordsWeight`
    * `Pattern.weight`
    * `Pattern.Fits`
-/

namespace BlockVolumes

namespace Pattern

/- The direction in which a machine reads. -/
inductive Direction where
  | forward
  | backward
  deriving DecidableEq, Repr

/- The weight of a state. -/
def stateWeight : Nat := 32

/- The weight of a way to one state among several. -/
def wayWeight : Nat := 4

/- The weight of a way that is taken for a range of bytes. -/
def byteWayWeight : Nat := 8

------------------------------------------------------------
-- Characters in Bytes
------------------------------------------------------------

/- The bytes of a character. -/
def encoding
    (code : Nat) : List Nat :=
  if code < 0x80 then [code]
  else if code < 0x800 then [0xc0 + code / 64, 0x80 + code % 64]
  else if code < 0x10000 then
    [0xe0 + code / 4096, 0x80 + code / 64 % 64, 0x80 + code % 64]
  else
    [0xf0 + code / 262144, 0x80 + code / 4096 % 64,
      0x80 + code / 64 % 64, 0x80 + code % 64]

/- A range of bytes at each place of an encoding. -/
abbrev ByteRow :=
  List (Nat × Nat)

/-
  Where a range of characters has to be cut so that each part
  takes the same ranges of bytes: between lengths, and between
  blocks of which it does not hold the whole.
-/
def cut?
    (first last : Nat) : Option Nat :=
  match [0x7f, 0x7ff, 0xffff].find? fun bound =>
      first ≤ bound && bound < last with
  | some bound => some bound
  | none =>
      if last < 0x80 then none
      else
        [64, 4096, 262144].findSome? fun block =>
          if first / block = last / block then none
          else if first % block ≠ 0 then
            some (first / block * block + (block - 1))
          else if last % block ≠ block - 1 then
            some (last / block * block - 1)
          else none

/-
  The rows of bytes for a range of characters. There are so
  few cuts in one another that the fuel is not used up.
-/
def rowsBetween :
    Nat → Nat → Nat → List ByteRow
  | 0, _, _ => []
  | fuel + 1, first, last =>
      match cut? first last with
      | some bound =>
          rowsBetween fuel first bound ++
            rowsBetween fuel (bound + 1) last
      | none => [(encoding first).zip (encoding last)]

/- The parts of a range that are characters. -/
def withoutSurrogates
    (range : Nat × Nat) : List (Nat × Nat) :=
  [(range.1, min range.2 0xd7ff), (max range.1 0xe000, range.2)].filter
    fun part => decide (part.1 ≤ part.2)

/- The rows of bytes for a set of characters. -/
def rowsOf
    (set : CharacterSet) : List ByteRow :=
  (set.ranges.flatMap withoutSurrogates).flatMap
    fun (first, last) => rowsBetween 32 first last

------------------------------------------------------------
-- Sets of Characters
------------------------------------------------------------

/- What may follow each of the ranges that rows begin with. -/
def byHead : List ByteRow → List ((Nat × Nat) × List ByteRow)
  | [] => []
  | [] :: rows => byHead rows
  | (head :: tail) :: rows =>
      match byHead rows with
      | (other, tails) :: groups =>
          if head = other then (head, tail :: tails) :: groups
          else (head, [tail]) :: (other, tails) :: groups
      | [] => [(head, [tail])]

/-
  The sets of rows that are left after some bytes were read.
  The fuel is the length of the rows.
-/
def remainders :
    Nat → List ByteRow → List (List ByteRow)
  | 0, _ => []
  | fuel + 1, rows =>
      match byHead rows with
      | [] => []
      | groups =>
          rows :: groups.flatMap fun group =>
            remainders fuel group.2

/- The states of a forward machine: one for each remainder. -/
def forwardWeight
    (rows : List ByteRow) : Nat :=
  (remainders 4 rows).eraseDups.foldl
    (fun weight rest =>
      weight + stateWeight + byteWayWeight * (byHead rest).length)
    stateWeight

/-
  The states of a backward machine, which share what is last
  to be read: one for each beginning of a row.
-/
def backwardWeight
    (rows : List ByteRow) : Nat :=
  let beginnings :=
    rows.flatMap fun row =>
      (List.range row.length).map fun n => row.take (n + 1)
  stateWeight * (beginnings.eraseDups.length + 2) +
    wayWeight * rows.length

/- The only character of a set. -/
def onlyCode?
    (set : CharacterSet) : Option Nat :=
  match set.ranges with
  | [(first, last)] => if first = last then some first else none
  | _ => none

/- The weight of a machine for one character of a set. -/
def setWeight
    (direction : Direction)
    (set : CharacterSet) : Nat :=
  match onlyCode? set with
  | some code => stateWeight * (encoding code).length
  | none =>
      if set.ranges.all fun range => range.2 < 0x80 then
        2 * stateWeight + byteWayWeight * set.ranges.length
      else
        match direction with
        | .forward => forwardWeight (rowsOf set)
        | .backward => backwardWeight (rowsOf set)

------------------------------------------------------------
-- Choices Between Words
------------------------------------------------------------

/-
  Words by their first bytes, the latest part first. A word
  that ends here begins a new part, so that the order of the
  words is kept.
-/
def addWord :
    List (List (Nat × List (List Nat))) → List Nat →
      List (List (Nat × List (List Nat)))
  | [], _ => []
  | part :: parts, [] =>
      if part.isEmpty && !parts.isEmpty then part :: parts
      else [] :: part :: parts
  | part :: parts, byte :: word =>
      (if part.any fun group => group.1 == byte then
        part.map fun group =>
          if group.1 = byte then (byte, group.2 ++ [word]) else group
      else part ++ [(byte, [word])]) :: parts

/-
  The weight of a machine that tells words apart which may
  have the same beginnings. The fuel is never used up when it
  starts above the length of the words.
-/
def wordsWeight :
    Nat → List (List Nat) → Nat
  | 0, _ => 0
  | fuel + 1, words =>
      let parts := words.foldl addWord [[]]
      if parts.all List.isEmpty then 0
      else
        let branches := parts.filter fun part => !part.isEmpty
        stateWeight +
          wayWeight * (branches.length + (parts.length - 1)) +
          branches.foldl
            (fun weight part =>
              weight + stateWeight +
                (if part.length = 1 then 0
                  else byteWayWeight * part.length) +
                part.foldl
                  (fun later group =>
                    later + wordsWeight fuel group.2)
                  0)
            0

/- The only text that a pattern matches, in bytes. -/
def word? : Pattern → Option (List Nat)
  | one set => (onlyCode? set).map encoding
  | sequence first second =>
      match first.word?, second.word? with
      | some a, some b => some (a ++ b)
      | _, _ => none
  | _ => none

/- The words between which a pattern is a choice. -/
def words? : Pattern → Option (List (List Nat))
  | choice first second =>
      match first.words?, second.words? with
      | some a, some b => some (a ++ b)
      | _, _ => none
  | pattern => pattern.word?.map fun word => [word]

/-
  The set that a choice between sets stands for, where none
  or each of them is a character alone.
-/
def choiceSet?
    (alone : Bool) : Pattern → Option CharacterSet
  | choice first second =>
      match first.choiceSet? alone, second.choiceSet? alone with
      | some a, some b => some (a.union b)
      | _, _ => none
  | one set =>
      if (onlyCode? set).isSome = alone then some set else none
  | _ => none

------------------------------------------------------------
-- Patterns
------------------------------------------------------------

/- Whether every match has at least one character. -/
def takesText : Pattern → Bool
  | one set => !set.ranges.isEmpty
  | sequence first second => first.takesText || second.takesText
  | choice first second => first.takesText && second.takesText
  | repeated body least _ => decide (0 < least) && body.takesText
  | capture body => body.takesText
  | _ => false

/- Whether no match has a character. -/
def takesNoText : Pattern → Bool
  | one _ => false
  | sequence first second =>
      first.takesNoText && second.takesNoText
  | choice first second => first.takesNoText && second.takesNoText
  | repeated body _ _ => body.takesNoText
  | capture body => body.takesNoText
  | _ => true

/- The weight of a repetition of a body with a weight. -/
def repeatedWeight
    (takesText : Bool)
    (body : Nat) :
    Nat → Option Nat → Nat
  | 0, none =>
      if takesText then body + stateWeight + 2 * wayWeight
      else body + 3 * stateWeight + 4 * wayWeight
  | 0, some 1 => body + 2 * stateWeight + 2 * wayWeight
  | least, none => least * body + stateWeight + 2 * wayWeight
  | least, some most =>
      if least = most then least * body
      else
        (if least = 0 then stateWeight else least * body) +
          stateWeight +
          (most - least) * (body + stateWeight + 2 * wayWeight)

/-
  The weight of a choice whose alternatives and ways to them
  have some weight. Choices between characters are sets.
-/
def choiceWeight
    (direction : Direction)
    (pattern : Pattern)
    (alternatives : Nat) : Nat :=
  match pattern.choiceSet? true, pattern.choiceSet? false,
      pattern.words? with
  | some set, _, _ => setWeight direction set
  | none, some set, _ => setWeight direction set
  | none, none, some words =>
      let words :=
        match direction with
        | .forward => words
        | .backward => words.map List.reverse
      let letters := (words.map List.length).foldl (· + ·) 0
      stateWeight + wordsWeight (letters + 1) words
  | none, none, none => 2 * stateWeight + alternatives

/-
  The weight of a pattern whose own states have some weight.
  Only a choice has states besides those.
-/
def completed
    (pattern : Pattern)
    (direction : Direction)
    (own : Nat) : Nat :=
  match pattern with
  | choice _ _ => choiceWeight direction pattern own
  | _ => own

/-
  The weight of an alternative. A choice in a choice adds its
  own alternatives.
-/
def alternativeWeight
    (pattern : Pattern)
    (own : Nat) : Nat :=
  match pattern with
  | choice _ _ => own
  | _ => own + wayWeight

/-
  The weight of the states that a pattern has, where those of
  a choice are only those of its alternatives.
-/
def ownWeight
    (direction : Direction) : Pattern → Nat
  | choice first second =>
      first.alternativeWeight (ownWeight direction first) +
        second.alternativeWeight (ownWeight direction second)
  | sequence first second =>
      first.completed direction (ownWeight direction first) +
        second.completed direction (ownWeight direction second)
  | one set => setWeight direction set
  | repeated body least most =>
      repeatedWeight body.takesText
        (body.completed direction (ownWeight direction body))
        least most
  | capture body =>
      body.completed direction (ownWeight direction body) +
        (match direction with
        | .forward => 2 * stateWeight
        | .backward => 0)
  | _ => stateWeight

/-
  The weight of the machine that looks for a pattern anywhere
  in a text.
-/
def weight
    (direction : Direction)
    (pattern : Pattern) : Nat :=
  ownWeight direction (capture pattern) +
    (4 * stateWeight + byteWayWeight + 2 * wayWeight)

/- The greatest weight of a machine. -/
def weightLimit : Nat := 10 * 1024 * 1024

/- Whether a pattern has machines in both directions. -/
def Fits
    (pattern : Pattern) : Prop :=
  pattern.weight .forward ≤ weightLimit ∧
    pattern.weight .backward ≤ weightLimit

instance
    (pattern : Pattern) :
    Decidable pattern.Fits := by
  unfold Fits
  infer_instance

end Pattern

end BlockVolumes
