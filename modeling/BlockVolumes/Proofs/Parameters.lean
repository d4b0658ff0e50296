import BlockVolumes.Parameters
import BlockVolumes.Proofs.Csi.Reading

/-
  What holds of the parameters of a storage class that were
  accepted: there is a disk type, and each part of them is
  what the value of one key says.

  Key definitions include:
    * `Parameters.Sets`
    * `Parameters.part`
    * `Parameters.Key.read`

  Key theorems include:
    * `Parameters.sets_of_set`
    * `Parameters.diskTypes_ne_nil_of_parse`
    * `Parameters.part_of_parse`
-/

namespace BlockVolumes

namespace Parameters

open Csi (bind_eq_ok)

variable {parameters result : Parameters}
variable {key : Key}
variable {value : String}
variable {entry : String × String}
variable {entries : Dictionary}
variable {standardType : String}

------------------------------------------------------------
-- Reading One Entry
------------------------------------------------------------

theorem requireText_eq_ok
    {text : String}
    (h : requireText key value = .ok text) :
    text = Text.trim value ∧ text.isEmpty = false := by
  unfold requireText at h
  dsimp only at h
  split at h
  · exact nomatch h
  · next hSome =>
      cases h
      exact ⟨rfl, Bool.eq_false_iff.mpr hSome⟩

theorem requireValue_eq_ok
    {α : Type}
    {read : Option α}
    {a : α}
    (h : requireValue key value read = .ok a) :
    read = some a := by
  cases read with
  | none => exact nomatch h
  | some b =>
      cases h
      rfl

/- What the value of a key changes, where it is accepted. -/
inductive Sets
    (parameters : Parameters) :
    Key → String → Parameters → Prop where
  | diskType
      {value : String}
      (hSome : splitTypes value ≠ []) :
      Sets parameters .diskType value
        { parameters with diskTypes := splitTypes value }
  | chargeType
      {value : String}
      {chargeType : ChargeType}
      (hRead : ChargeType.parse? value = some chargeType) :
      Sets parameters .chargeType value
        { parameters with chargeType := some chargeType }
  | zone
      {value : String}
      (hSome : (Text.trim value).isEmpty = false) :
      Sets parameters .zone value
        { parameters with zone := some (Text.trim value) }
  | projectId
      {value : String}
      (hSome : (Text.trim value).isEmpty = false) :
      Sets parameters .projectId value
        { parameters with projectId := some (Text.trim value) }
  | tags
      {value : String} :
      Sets parameters .tags value
        { parameters with tags := Tags.parse value }
  | purchaseTime
      {value : String}
      {time : Nat}
      (hRead : positive? value = some time) :
      Sets parameters .purchaseTime value
        { parameters with purchaseTime := some time }
  | performanceLevel
      {value : String}
      {level : PerformanceLevel}
      (hRead : PerformanceLevel.parse? value = some level) :
      Sets parameters .performanceLevel value
        { parameters with performanceLevel := some level }

theorem sets_of_set
    (h : parameters.set key value = .ok result) :
    Sets parameters key value result := by
  cases key with
  | diskType =>
      rw [set] at h
      split at h
      · exact nomatch h
      · next hSome =>
          cases h
          exact .diskType hSome
  | tags =>
      cases h
      exact .tags
  | zone =>
      simp only [set, bind_eq_ok, pure, Except.pure,
        Except.ok.injEq] at h
      rcases h with ⟨text, hText, rfl⟩
      rcases requireText_eq_ok hText with ⟨rfl, hSome⟩
      exact .zone hSome
  | projectId =>
      simp only [set, bind_eq_ok, pure, Except.pure,
        Except.ok.injEq] at h
      rcases h with ⟨text, hText, rfl⟩
      rcases requireText_eq_ok hText with ⟨rfl, hSome⟩
      exact .projectId hSome
  | chargeType =>
      simp only [set, bind_eq_ok, pure, Except.pure,
        Except.ok.injEq] at h
      rcases h with ⟨_, hRead, rfl⟩
      exact .chargeType (requireValue_eq_ok hRead)
  | purchaseTime =>
      simp only [set, bind_eq_ok, pure, Except.pure,
        Except.ok.injEq] at h
      rcases h with ⟨_, hRead, rfl⟩
      exact .purchaseTime (requireValue_eq_ok hRead)
  | performanceLevel =>
      simp only [set, bind_eq_ok, pure, Except.pure,
        Except.ok.injEq] at h
      rcases h with ⟨_, hRead, rfl⟩
      exact .performanceLevel (requireValue_eq_ok hRead)

theorem Key.name_of_ofName?
    {s : String}
    (h : Key.ofName? s = some key) :
    key.name = s := by
  simpa using List.find?_some h

theorem Key.ofName?_name
    (key : Key) :
    ofName? key.name = some key := by
  cases key <;> decide

/- An entry of a known key sets the key. -/
theorem readEntry_name :
    parameters.readEntry (key.name, value) =
      parameters.set key value := by
  simp [readEntry, Key.ofName?_name]

/- An entry sets a key, or it changes nothing. -/
theorem sets_of_readEntry
    (h : parameters.readEntry entry = .ok result) :
    (∃ key : Key,
        key.name = entry.1 ∧ Sets parameters key entry.2 result) ∨
      result = parameters := by
  unfold readEntry at h
  split at h
  · next key hKey =>
      exact .inl ⟨key, Key.name_of_ofName? hKey, sets_of_set h⟩
  · split at h
    · cases h
      exact .inr rfl
    · exact nomatch h

------------------------------------------------------------
-- Disk Types
------------------------------------------------------------

/- No value leaves a storage class without a disk type. -/
theorem diskTypes_ne_nil_of_readEntry
    (hTypes : parameters.diskTypes ≠ [])
    (h : parameters.readEntry entry = .ok result) :
    result.diskTypes ≠ [] := by
  rcases sets_of_readEntry h with ⟨key, _, hSets⟩ | rfl
  · cases hSets with
    | diskType hSome => exact hSome
    | _ => exact hTypes
  · exact hTypes

theorem diskTypes_ne_nil_of_foldlM
    (hTypes : parameters.diskTypes ≠ [])
    (h : entries.foldlM readEntry parameters = .ok result) :
    result.diskTypes ≠ [] := by
  induction entries generalizing parameters with
  | nil =>
      cases h
      exact hTypes
  | cons entry entries ih =>
      rw [List.foldlM_cons, bind_eq_ok] at h
      rcases h with ⟨next, hNext, hRest⟩
      exact ih (diskTypes_ne_nil_of_readEntry hTypes hNext) hRest

/- There is a disk type, whatever the parameters say. -/
theorem diskTypes_ne_nil_of_parse
    (h : parse standardType entries = .ok result) :
    result.diskTypes ≠ [] :=
  diskTypes_ne_nil_of_foldlM (List.cons_ne_nil _ _) h

------------------------------------------------------------
-- Parts of Parameters
------------------------------------------------------------

/- What is kept of the value of a key. -/
abbrev Part : Key → Type
  | .diskType => List String
  | .chargeType => Option ChargeType
  | .zone => Option String
  | .projectId => Option String
  | .tags => Dictionary
  | .purchaseTime => Option Nat
  | .performanceLevel => Option PerformanceLevel

/- The part of the parameters that a key stands for. -/
def part
    (parameters : Parameters) : (key : Key) → Part key
  | .diskType => parameters.diskTypes
  | .chargeType => parameters.chargeType
  | .zone => parameters.zone
  | .projectId => parameters.projectId
  | .tags => parameters.tags
  | .purchaseTime => parameters.purchaseTime
  | .performanceLevel => parameters.performanceLevel

/- What a value that is accepted says about its part. -/
def Key.read : (key : Key) → String → Part key
  | .diskType, value => splitTypes value
  | .chargeType, value => ChargeType.parse? value
  | .zone, value => some (Text.trim value)
  | .projectId, value => some (Text.trim value)
  | .tags, value => Tags.parse value
  | .purchaseTime, value => positive? value
  | .performanceLevel, value => PerformanceLevel.parse? value

theorem Sets.part_own
    (h : Sets parameters key value result) :
    result.part key = key.read value := by
  cases h with
  | chargeType hRead => exact hRead.symm
  | purchaseTime hRead => exact hRead.symm
  | performanceLevel hRead => exact hRead.symm
  | _ => rfl

theorem Sets.part_other
    (h : Sets parameters key value result)
    {other : Key}
    (hOther : other ≠ key) :
    result.part other = parameters.part other := by
  cases h <;> cases other
  all_goals first
    | rfl
    | exact absurd rfl hOther

/- The entry of a key sets the part that the key stands for. -/
theorem part_of_readEntry_own
    (h : parameters.readEntry (key.name, value) = .ok result) :
    result.part key = key.read value := by
  rw [readEntry_name] at h
  exact (sets_of_set h).part_own

theorem part_of_readEntry_other
    (hOther : entry.1 ≠ key.name)
    (h : parameters.readEntry entry = .ok result) :
    result.part key = parameters.part key := by
  rcases sets_of_readEntry h with ⟨other, hName, hSets⟩ | rfl
  · apply hSets.part_other
    rintro rfl
    exact hOther hName.symm
  · rfl

/- Without an entry of its key a part stays what it was. -/
theorem part_of_foldlM_other
    (hOther : key.name ∉ entries.map Prod.fst)
    (h : entries.foldlM readEntry parameters = .ok result) :
    result.part key = parameters.part key := by
  induction entries generalizing parameters with
  | nil =>
      cases h
      rfl
  | cons entry entries ih =>
      rw [List.foldlM_cons, bind_eq_ok] at h
      rcases h with ⟨next, hNext, hRest⟩
      rw [List.map_cons, List.mem_cons, not_or] at hOther
      calc result.part key
          = next.part key := ih hOther.2 hRest
        _ = parameters.part key :=
          part_of_readEntry_other (Ne.symm hOther.1) hNext

theorem part_of_foldlM
    (hDistinct : (entries.map Prod.fst).Nodup)
    (h : entries.foldlM readEntry parameters = .ok result)
    (key : Key) :
    result.part key =
      (entries.find? key.name).elim (parameters.part key)
        key.read := by
  induction entries generalizing parameters with
  | nil =>
      cases h
      rfl
  | cons entry entries ih =>
      rcases entry with ⟨name, value⟩
      rw [List.foldlM_cons, bind_eq_ok] at h
      rcases h with ⟨next, hNext, hRest⟩
      rw [List.map_cons, List.nodup_cons] at hDistinct
      by_cases hName : name = key.name
      · -- The entries that follow have other keys.
        subst hName
        simp only [Dictionary.find?, if_true, Option.elim_some]
        calc result.part key
            = next.part key :=
              part_of_foldlM_other hDistinct.1 hRest
          _ = key.read value := part_of_readEntry_own hNext
      · simp only [Dictionary.find?, if_neg hName]
        rw [ih hDistinct.2 hRest,
          part_of_readEntry_other hName hNext]

/-
  Where no key is given twice, a part of the parameters is what
  the value of its key says, or is as it is without the key.
-/
theorem part_of_parse
    (hDistinct : (entries.map Prod.fst).Nodup)
    (h : parse standardType entries = .ok result)
    (key : Key) :
    result.part key =
      (entries.find? key.name).elim
        (part { diskTypes := [standardType] } key) key.read :=
  part_of_foldlM hDistinct h key

theorem zone_of_parse
    (hDistinct : (entries.map Prod.fst).Nodup)
    (h : parse standardType entries = .ok result) :
    result.zone =
      (entries.find? Key.zone.name).map Text.trim := by
  refine (part_of_parse hDistinct h .zone).trans ?_
  cases entries.find? Key.zone.name <;> rfl

end Parameters

end BlockVolumes
