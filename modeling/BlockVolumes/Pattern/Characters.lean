/-
  Sets of characters by the ranges of their code points.

  Key definitions include:
    * `CharacterSet`
    * `CharacterSet.has`
    * `CharacterSet.ofRanges`
    * `CharacterSet.union`
    * `CharacterSet.complement`
    * `CharacterSet.named?`
-/

namespace BlockVolumes

/-
  A set of characters. Its ranges are in ascending order, and
  no two of them overlap or touch.
-/
structure CharacterSet where
  ranges : List (Nat × Nat)
  deriving DecidableEq, Repr

namespace CharacterSet

/- The greatest code point. -/
def lastCode : Nat := 0x10ffff

/- Whether a character is in the set. -/
def has
    (set : CharacterSet)
    (c : Char) : Bool :=
  set.ranges.any fun (first, last) =>
    decide (first ≤ c.toNat) && decide (c.toNat ≤ last)

------------------------------------------------------------
-- Making Sets
------------------------------------------------------------

/-
  Ranges, the latest first, with one more that begins no
  earlier than they do.
-/
def addRange :
    List (Nat × Nat) → Nat × Nat → List (Nat × Nat)
  | [], range => [range]
  | (first, last) :: earlier, range =>
      if range.1 ≤ last + 1 then
        (first, max last range.2) :: earlier
      else range :: (first, last) :: earlier

/- The set of the characters in any of some ranges. -/
def ofRanges
    (ranges : List (Nat × Nat)) : CharacterSet :=
  ⟨((ranges.mergeSort fun a b => decide (a.1 ≤ b.1)).foldl
    addRange []).reverse⟩

/- The characters from one to another. -/
def range
    (first last : Char) : CharacterSet :=
  ⟨[(first.toNat, last.toNat)]⟩

/- A character alone. -/
def single
    (c : Char) : CharacterSet :=
  range c c

def empty : CharacterSet := ⟨[]⟩

/- All characters but the one that ends a line. -/
def anyOnLine : CharacterSet :=
  ⟨[(0, 9), (11, lastCode)]⟩

------------------------------------------------------------
-- Operations
------------------------------------------------------------

def union
    (a b : CharacterSet) : CharacterSet :=
  ofRanges (a.ranges ++ b.ranges)

/- What the ranges leave free from a code point on. -/
def gaps :
    Nat → List (Nat × Nat) → List (Nat × Nat)
  | start, [] =>
      if start ≤ lastCode then [(start, lastCode)] else []
  | start, (first, last) :: ranges =>
      let rest := gaps (last + 1) ranges
      if start < first then (start, first - 1) :: rest else rest

def complement
    (set : CharacterSet) : CharacterSet :=
  ⟨gaps 0 set.ranges⟩

def intersection
    (a b : CharacterSet) : CharacterSet :=
  (a.complement.union b.complement).complement

def difference
    (a b : CharacterSet) : CharacterSet :=
  a.intersection b.complement

/- The characters in one of two sets but not in both. -/
def symmetricDifference
    (a b : CharacterSet) : CharacterSet :=
  (a.difference b).union (b.difference a)

------------------------------------------------------------
-- Named Sets
------------------------------------------------------------

def digits : CharacterSet := range '0' '9'

def capitals : CharacterSet := range 'A' 'Z'

def smallLetters : CharacterSet := range 'a' 'z'

def letters : CharacterSet := capitals.union smallLetters

def lettersAndDigits : CharacterSet := letters.union digits

/- The sets that have names of their own. -/
def named? : String → Option CharacterSet
  | "alnum" => some lettersAndDigits
  | "alpha" => some letters
  | "ascii" => some ⟨[(0, 127)]⟩
  | "blank" => some ((single '\t').union (single ' '))
  | "cntrl" => some ⟨[(0, 31), (127, 127)]⟩
  | "digit" => some digits
  | "graph" => some (range '!' '~')
  | "lower" => some smallLetters
  | "print" => some (range ' ' '~')
  | "punct" =>
      some ((range '!' '~').difference lettersAndDigits)
  | "space" => some ((range '\t' '\r').union (single ' '))
  | "upper" => some capitals
  | "word" => some (lettersAndDigits.union (single '_'))
  | "xdigit" =>
      some ((digits.union (range 'A' 'F')).union (range 'a' 'f'))
  | _ => none

end CharacterSet

end BlockVolumes
