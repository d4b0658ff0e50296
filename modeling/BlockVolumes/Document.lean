import BlockVolumes.Dictionary

/-
  Documents: values that programs exchange, made of texts,
  numbers, lists and records. A value of another kind than the
  wanted one is read like one that is missing.

  Key definitions include:
    * `Document`
    * `Document.field`
    * `Document.toText?`
    * `Document.ofDictionary`
-/

namespace BlockVolumes

/-
  A value of a document. Numbers with a point or an exponent
  are kept apart from whole numbers.
-/
inductive Document where
  | null
  | boolean (value : Bool)
  | integer (value : Int)
  | decimal (value : Float)
  | text (value : String)
  | list (items : List Document)
  | record (fields : List (String × Document))

namespace Document

instance : Inhabited Document :=
  ⟨null⟩

------------------------------------------------------------
-- Reading
------------------------------------------------------------

/- The value unless it is null. -/
def orNone : Document → Option Document
  | null => none
  | document => some document

def toText? : Document → Option String
  | text s => some s
  | _ => none

/- A whole number of 64 bits with a sign. -/
def toInteger? : Document → Option Int
  | integer n => if n < Nat.pow 2 63 then some n else none
  | _ => none

def toBoolean? : Document → Option Bool
  | boolean b => some b
  | _ => none

/- A whole number; a negative one counts as zero. -/
def toNatural : Document → Nat
  | integer n => n.toNat
  | _ => 0

def toItems : Document → List Document
  | list items => items
  | _ => []

def toFields : Document → List (String × Document)
  | record fields => fields
  | _ => []

/- The texts of a list. -/
def toTexts
    (document : Document) : List String :=
  document.toItems.filterMap toText?

/- The texts of a record under their names. -/
def toDictionary
    (document : Document) : Dictionary :=
  document.toFields.filterMap fun (name, value) =>
    value.toText?.map fun s => (name, s)

------------------------------------------------------------
-- Parts of a Document
------------------------------------------------------------

/- The value under a name in a record. -/
def field
    (document : Document)
    (name : String) : Document :=
  match document.toFields.find? fun row => row.1 == name with
  | some row => row.2
  | none => null

def field?
    (document : Document)
    (name : String) : Option Document :=
  (document.field name).orNone

def text?
    (document : Document)
    (name : String) : Option String :=
  (document.field name).toText?

def textAt
    (document : Document)
    (name : String) : String :=
  (document.text? name).getD ""

def integerAt
    (document : Document)
    (name : String) : Int :=
  (document.field name).toInteger?.getD 0

/- The low 32 bits of a number as a number with a sign. -/
def narrow
    (n : Int) : Int :=
  n.bmod UInt32.size

def narrowAt
    (document : Document)
    (name : String) : Int :=
  narrow (document.integerAt name)

def naturalAt
    (document : Document)
    (name : String) : Nat :=
  (document.field name).toNatural

/- A flag under a name, with its value where it is missing. -/
def flagOr
    (document : Document)
    (standard : Bool)
    (name : String) : Bool :=
  (document.field name).toBoolean?.getD standard

def flagAt
    (document : Document)
    (name : String) : Bool :=
  document.flagOr false name

def itemsAt
    (document : Document)
    (name : String) : List Document :=
  (document.field name).toItems

def textsAt
    (document : Document)
    (name : String) : List String :=
  (document.field name).toTexts

def dictionaryAt
    (document : Document)
    (name : String) : Dictionary :=
  (document.field name).toDictionary

/- The item of a list at an index. -/
def item
    (document : Document)
    (index : Nat) : Document :=
  (document.toItems[index]?).getD null

def itemText
    (document : Document)
    (index : Nat) : String :=
  (document.item index).toText?.getD ""

------------------------------------------------------------
-- Writing
------------------------------------------------------------

def ofNatural
    (n : Nat) : Document :=
  integer n

def ofTexts
    (items : List String) : Document :=
  list (items.map text)

def ofDictionary
    (entries : Dictionary) : Document :=
  record (entries.map fun (name, s) => (name, text s))

/- A value that may be missing. -/
def ofOption
    {α : Type}
    (write : α → Document) :
    Option α → Document
  | none => null
  | some a => write a

def ofList
    {α : Type}
    (write : α → Document)
    (items : List α) : Document :=
  list (items.map write)

/- The texts of a dictionary are read as they were written. -/
theorem toDictionary_ofDictionary
    (entries : Dictionary) :
    (ofDictionary entries).toDictionary = entries := by
  induction entries with
  | nil => rfl
  | cons entry entries ih =>
      simp only [ofDictionary, toDictionary, toFields,
        List.map_cons, List.filterMap_cons, toText?,
        Option.map_some] at ih ⊢
      rw [ih]

end Document

end BlockVolumes
