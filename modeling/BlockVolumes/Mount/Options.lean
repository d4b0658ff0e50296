/-
  The options of a bind mount. The system ignores them when
  the mount is made, so they are given a second time in a
  remount. Options that may hold secrets stay apart from the
  others.

  Key definitions include:
    * `Mount.BindOptions`
    * `Mount.BindOptions.add`
    * `Mount.BindOptions.ofLists`
-/

namespace BlockVolumes

namespace Mount

/-
  The options of the two steps of a bind mount, and whether a
  bind mount is wanted at all.
-/
structure BindOptions where
  wanted : Bool := false
  first : List String := ["bind"]
  remount : List String := ["bind", "remount"]
  remountSensitive : List String := []
  deriving DecidableEq, Repr

namespace BindOptions

/-
  Adds an option. The option of network devices has to be in
  both steps, as the system does not see it.
-/
def add
    (sensitive : Bool)
    (acc : BindOptions)
    (option : String) : BindOptions :=
  if option = "bind" then { acc with wanted := true }
  else if option = "_netdev" then
    { acc with
      first := acc.first ++ [option]
      remount := acc.remount ++ [option] }
  else if sensitive then
    { acc with
      remountSensitive := acc.remountSensitive ++ [option] }
  else
    { acc with remount := acc.remount ++ [option] }

/- The two steps for the given options. -/
def ofLists
    (options sensitive : List String) : BindOptions :=
  sensitive.foldl (add true) (options.foldl (add false) {})

end BindOptions

end Mount

end BlockVolumes
