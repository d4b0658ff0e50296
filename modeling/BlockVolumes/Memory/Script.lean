/-
  What happens to the next calls of a kind, one entry for each
  of them.

  Key definitions include:
    * `Memory.Scripts`
    * `Memory.Scripts.take`
    * `Memory.Scripts.put`
    * `Memory.Scripts.merge`
-/

namespace BlockVolumes

namespace Memory

/- For each name, what happens to the next calls. -/
abbrev Scripts
    (α : Type) :=
  List (String × List α)

namespace Scripts

variable {α : Type}

/- Takes the next entry of a name, if there is one left. -/
def take
    (name : String) :
    Scripts α → Option α × Scripts α
  | [] => (none, [])
  | (key, entries) :: scripts =>
      if key = name then
        match entries with
        | [] => (none, (key, []) :: scripts)
        | entry :: entries => (some entry, (key, entries) :: scripts)
      else
        let (entry, scripts) := take name scripts
        (entry, (key, entries) :: scripts)

/- Gives a name other entries than those that it had left. -/
def put
    (name : String)
    (entries : List α) :
    Scripts α → Scripts α
  | [] => [(name, entries)]
  | (key, old) :: scripts =>
      if key = name then (key, entries) :: scripts
      else (key, old) :: put name entries scripts

/- Gives several names other entries, and leaves the rest. -/
def merge
    (scripts others : Scripts α) : Scripts α :=
  others.foldl (fun acc row => acc.put row.1 row.2) scripts

end Scripts

/-
  Failures of calls. An entry of none lets the call through.
-/
abbrev Failures
    (ε : Type) :=
  Scripts (Option ε)

/- Takes the failure of the next call of a name. -/
def Failures.take
    {ε : Type}
    (name : String)
    (failures : Failures ε) : Option ε × Failures ε :=
  let (entry, failures) := Scripts.take name failures
  (entry.join, failures)

end Memory

end BlockVolumes
