/-
  Finite maps from text to text, such as parameters, tags and
  labels. Keys are kept in the order of their first insertion.

  Key definitions include:
    * `Dictionary`
    * `Dictionary.find?`
    * `Dictionary.insert`
    * `Dictionary.merge`
-/

namespace BlockVolumes

/- The entries of a map; the first entry of a key counts. -/
abbrev Dictionary :=
  List (String × String)

namespace Dictionary

/- The value of a key. -/
def find? : Dictionary → String → Option String
  | [], _ => none
  | (k, v) :: entries, key =>
      if k = key then some v else find? entries key

/- Whether a key has a value. -/
def has
    (entries : Dictionary)
    (key : String) : Bool :=
  (entries.find? key).isSome

/- Gives a key a value in place of the one it may have. -/
def insert : Dictionary → String → String → Dictionary
  | [], key, value => [(key, value)]
  | (k, v) :: entries, key, value =>
      if k = key then (k, value) :: entries
      else (k, v) :: insert entries key value

/- The entries with those of a second map put over them. -/
def merge
    (entries changes : Dictionary) : Dictionary :=
  changes.foldl (fun acc change => acc.insert change.1 change.2)
    entries

theorem find?_insert_self
    (entries : Dictionary)
    (key value : String) :
    (entries.insert key value).find? key = some value := by
  induction entries with
  | nil => simp [insert, find?]
  | cons entry entries ih =>
      unfold insert
      split
      · next h => simp [find?, h]
      · next h => simp [find?, h, ih]

theorem find?_insert_of_ne
    {key other : String}
    (h : other ≠ key)
    (entries : Dictionary)
    (value : String) :
    (entries.insert key value).find? other =
      entries.find? other := by
  induction entries with
  | nil => simp [insert, find?, h.symm]
  | cons entry entries ih =>
      unfold insert
      split
      · next hk =>
          have hNe : entry.1 ≠ other := by
            rw [hk]
            exact h.symm
          simp [find?, hNe]
      · next hk =>
          simp only [find?]
          split
          · rfl
          · exact ih

end Dictionary

end BlockVolumes
