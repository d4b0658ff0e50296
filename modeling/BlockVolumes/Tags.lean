import BlockVolumes.Dictionary
import BlockVolumes.Text.Blank

/-
  Tags of a volume written as `key~value;key~value`. Entries
  of another form are skipped, and only the first few keys
  are kept, each with its latest value.

  Key definitions include:
    * `Tags.entry?`
    * `Tags.keep`
    * `Tags.parse`
-/

namespace BlockVolumes

namespace Tags

/- The greatest number of keys. -/
def limit : Nat := 5

/-
  The key and the value of an entry: it has exactly one
  separator, and text that is not blank on both sides.
-/
def entry?
    (raw : String) : Option (String × String) :=
  match Text.splitAtEvery '~' raw with
  | [key, value] =>
      let key := Text.trim key
      let value := Text.trim value
      if key.isEmpty || value.isEmpty then none
      else some (key, value)
  | _ => none

/-
  Adds an entry, unless its key is new and there are enough
  keys already.
-/
def keep
    (tags : Dictionary)
    (entry : String × String) : Dictionary :=
  if limit ≤ tags.length && !tags.has entry.1 then tags
  else tags.insert entry.1 entry.2

/- The tags that a text describes. -/
def parse
    (raw : String) : Dictionary :=
  ((Text.splitAtEvery ';' raw).filterMap entry?).foldl keep []

end Tags

end BlockVolumes
