import BlockVolumes.Mount.Options
import Mathlib.Data.List.Basic

/-
  The options of a bind mount in its two steps. Each option
  that is asked for is given in the second step as often as it
  is asked for, and an option that may be a secret stays out
  of the lists that may be shown.

  Key definitions include:
    * `Mount.BindOptions.isShown`
    * `Mount.BindOptions.isHidden`

  Key theorems include:
    * `Mount.BindOptions.foldl_add`
    * `Mount.BindOptions.ofLists_eq`
    * `Mount.BindOptions.ofLists_keeps_options`
-/

namespace BlockVolumes

namespace Mount

namespace BindOptions

variable {options sensitive : List String}

------------------------------------------------------------
-- Adding Options
------------------------------------------------------------

/- Whether an option goes to the options of the remount. -/
def isShown
    (sensitive : Bool)
    (option : String) : Bool :=
  option ≠ "bind" && (option = "_netdev" || !sensitive)

/- Whether an option goes to the sensitive options. -/
def isHidden
    (sensitive : Bool)
    (option : String) : Bool :=
  option ≠ "bind" && (option ≠ "_netdev" && sensitive)

/- Each list is added to at its end, or stays as it is. -/
theorem add_eq
    (sensitive : Bool)
    (acc : BindOptions)
    (option : String) :
    add sensitive acc option =
      { wanted := acc.wanted || option = "bind"
        first :=
          acc.first ++ [option].filter (· = "_netdev")
        remount :=
          acc.remount ++ [option].filter (isShown sensitive)
        remountSensitive :=
          acc.remountSensitive ++
            [option].filter (isHidden sensitive) } := by
  unfold add isShown isHidden
  by_cases hBind : option = "bind"
  · simp [hBind]
  · by_cases hNetwork : option = "_netdev"
    · simp [hNetwork]
    · cases sensitive <;> simp [hBind, hNetwork]

/- What a whole list of options adds. -/
theorem foldl_add
    (sensitive : Bool)
    (acc : BindOptions)
    (options : List String) :
    options.foldl (add sensitive) acc =
      { wanted := acc.wanted || options.contains "bind"
        first :=
          acc.first ++ options.filter (· = "_netdev")
        remount :=
          acc.remount ++ options.filter (isShown sensitive)
        remountSensitive :=
          acc.remountSensitive ++
            options.filter (isHidden sensitive) } := by
  induction options generalizing acc with
  | nil => simp
  | cons option options ih =>
      have hSplit :
          ∀ keeps : String → Bool,
            (option :: options).filter keeps =
              [option].filter keeps ++ options.filter keeps :=
        fun keeps => List.filter_append [option] options
      rw [List.foldl_cons, ih, add_eq]
      simp only [hSplit, List.append_assoc, List.contains_cons,
        Bool.or_assoc, mk.injEq, and_self, and_true]
      rw [Bool.beq_comm]
      rfl

------------------------------------------------------------
-- The Two Steps
------------------------------------------------------------

/- The two steps of a bind mount, each list in one piece. -/
theorem ofLists_eq
    (options sensitive : List String) :
    ofLists options sensitive =
      { wanted :=
          options.contains "bind" || sensitive.contains "bind"
        first :=
          "bind" :: List.replicate
            ((options ++ sensitive).count "_netdev") "_netdev"
        remount :=
          "bind" :: "remount" :: (options.filter (· ≠ "bind") ++
            List.replicate (sensitive.count "_netdev") "_netdev")
        remountSensitive :=
          sensitive.filter
            fun option => option ≠ "bind" ∧ option ≠ "_netdev" } := by
  have hPlain : isShown false = fun option => option ≠ "bind" := by
    funext option
    simp [isShown]
  have hShown : isShown true = fun option => option = "_netdev" := by
    funext option
    by_cases hNetwork : option = "_netdev" <;>
      simp [isShown, hNetwork]
  have hNone : isHidden false = fun _ => false := by
    funext option
    simp [isHidden]
  have hHidden :
      isHidden true =
        fun option => option ≠ "bind" ∧ option ≠ "_netdev" := by
    funext option
    simp [isHidden]
  rw [ofLists, foldl_add, foldl_add, hPlain, hShown, hNone, hHidden]
  simp [List.filter_eq, List.count_append]

/- A bind mount is wanted if either list says so. -/
theorem wanted_ofLists
    (options sensitive : List String) :
    (ofLists options sensitive).wanted = true ↔
      "bind" ∈ options ∨ "bind" ∈ sensitive := by
  simp [ofLists_eq]

------------------------------------------------------------
-- What Becomes of an Option
------------------------------------------------------------

theorem count_filter_of_not
    {keeps : String → Bool}
    {option : String}
    (h : keeps option = false)
    (options : List String) :
    (options.filter keeps).count option = 0 := by
  rw [List.count_eq_zero, List.mem_filter, h]
  simp

/-
  An option counts the same in both lists before and after,
  but for the two options that every remount has.
-/
theorem count_ofLists
    {option : String}
    (hBind : option ≠ "bind")
    (hRemount : option ≠ "remount") :
    ((ofLists options sensitive).remount ++
        (ofLists options sensitive).remountSensitive).count option =
      (options ++ sensitive).count option := by
  have hPlain :
      (options.filter (· ≠ "bind")).count option =
        options.count option :=
    List.count_filter (by simpa using hBind)
  rw [ofLists_eq]
  simp only [List.cons_append, List.count_append, List.count_cons,
    hPlain, beq_iff_eq, hBind.symm, hRemount.symm, if_false,
    Nat.add_zero, Nat.add_assoc, Nat.add_left_cancel_iff]
  by_cases hNetwork : option = "_netdev"
  · rw [count_filter_of_not (by simp [hNetwork]), hNetwork,
      List.count_replicate_self, Nat.add_zero]
  · rw [List.count_filter (by simp [hBind, hNetwork]),
      List.count_replicate, if_neg (by simpa using Ne.symm hNetwork),
      Nat.zero_add]

/- An option that is asked for as a secret only is never shown. -/
theorem not_mem_ofLists
    {option : String}
    (hBind : option ≠ "bind")
    (hRemount : option ≠ "remount")
    (hNetwork : option ≠ "_netdev")
    (hOption : option ∉ options) :
    option ∉ (ofLists options sensitive).first ∧
      option ∉ (ofLists options sensitive).remount := by
  simp [ofLists_eq, hBind, hRemount, hNetwork, hOption]

/-
  The options of a bind mount in its two steps. The first step
  gets the options that the system does not see. The second one
  gets all of them: those that may be shown in their order, and
  the sensitive ones in a list of their own.
-/
theorem ofLists_keeps_options
    (options sensitive : List String) :
    let bind := ofLists options sensitive
    (bind.wanted = true ↔
      "bind" ∈ options ∨ "bind" ∈ sensitive) ∧
    (∀ option, option ≠ "bind" → option ≠ "remount" →
      (bind.remount ++ bind.remountSensitive).count option =
        (options ++ sensitive).count option) ∧
    bind.remount =
      "bind" :: "remount" :: (options.filter (· ≠ "bind") ++
        List.replicate (sensitive.count "_netdev") "_netdev") ∧
    bind.first =
      "bind" :: List.replicate
        ((options ++ sensitive).count "_netdev") "_netdev" ∧
    (∀ option,
      option ≠ "bind" → option ≠ "remount" →
        option ≠ "_netdev" → option ∉ options →
          option ∉ bind.first ∧ option ∉ bind.remount) ∧
    bind.remountSensitive =
      sensitive.filter
        fun option => option ≠ "bind" ∧ option ≠ "_netdev" := by
  intro bind
  have hBind : bind = _ := ofLists_eq options sensitive
  refine ⟨wanted_ofLists options sensitive, ?_, ?_, ?_, ?_, ?_⟩
  · intro option hOther hRemount
    exact count_ofLists hOther hRemount
  · rw [hBind]
  · rw [hBind]
  · intro option hOther hRemount hNetwork hOption
    exact not_mem_ofLists hOther hRemount hNetwork hOption
  · rw [hBind]

/- A password that is given beside other options. -/
theorem ofLists_keeps_options_password :
    let options := ["ro", "bind", "remount", "_netdev"]
    let sensitive := ["password=x", "_netdev", "ro"]
    let bind := ofLists options sensitive
    (bind.remount ++ bind.remountSensitive).count "ro" = 2 ∧
      "password=x" ∉ bind.first ∧ "password=x" ∉ bind.remount ∧
      bind.remountSensitive = ["password=x", "ro"] := by
  intro options sensitive bind
  rcases ofLists_keeps_options options sensitive with
    ⟨_, hCount, _, _, hSecret, hSensitive⟩
  have hShown :=
    hSecret "password=x" (by decide) (by decide) (by decide)
      (by decide)
  have hTwice := hCount "ro" (by decide) (by decide)
  exact ⟨hTwice, hShown.1, hShown.2, hSensitive⟩

end BindOptions

end Mount

end BlockVolumes
