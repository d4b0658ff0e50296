import BlockVolumes.Proofs.Dictionary
import BlockVolumes.Proofs.Parameters
import BlockVolumes.Proofs.Text.Numerals
import BlockVolumes.Proofs.Text.Pieces
import Mathlib.Data.List.Basic

/-
  Which parameters are accepted. Each entry is judged on its
  own, so that the order of the entries decides only which of
  the wrong ones is reported, and the entries that the
  provisioner adds decide nothing.

  Key definitions include:
    * `Parameters.Key.Accepts`
    * `Parameters.Accepted`
    * `Parameters.Blames`
    * `Parameters.FirstFault`
    * `Parameters.Quotes`

  Key theorems include:
    * `Parameters.set_eq_error_iff`
    * `Parameters.accepted_or_blames`
    * `Parameters.parse_eq_error_iff`
    * `Parameters.exists_parse_eq_ok_iff`
    * `Parameters.parse_ownEntries`
    * `Parameters.parse_of_perm`
    * `Parameters.parse_in_every_order`
-/

namespace BlockVolumes

------------------------------------------------------------
-- Names and Numbers
------------------------------------------------------------

/- A charge type is read from its name alone. -/
theorem ChargeType.parse?_eq_some_iff
    {raw : String}
    {chargeType : ChargeType} :
    parse? raw = some chargeType ↔
      Text.lowerAscii raw = Text.lowerAscii chargeType.name := by
  have hYear : Text.lowerAscii (name year) = "year" := by
    decide
  have hMonth : Text.lowerAscii (name month) = "month" := by
    decide
  have hDynamic : Text.lowerAscii (name dynamic) = "dynamic" := by
    decide
  have hPostpay : Text.lowerAscii (name postpay) = "postpay" := by
    decide
  rw [parse?]
  cases chargeType <;> split <;> simp_all

/- A performance level is read from its name alone. -/
theorem PerformanceLevel.parse?_eq_some_iff
    {raw : String}
    {level : PerformanceLevel} :
    parse? raw = some level ↔ Text.upperAscii raw = level.name := by
  rw [parse?]
  cases level <;> split <;> simp_all [name]

namespace Parameters

open Csi (bind_eq_error bind_eq_ok)

variable {parameters result : Parameters}
variable {key : Key}
variable {value name raw : String}
variable {entry : String × String}
variable {entries order : Dictionary}
variable {fault : Fault}
variable {standardType : String}

/- A number of 32 bits is accepted unless it is zero. -/
theorem positive?_eq_some_iff
    {n : Nat} :
    positive? raw = some n ↔
      Text.IsNatural (Text.trim raw) n ∧ 0 < n ∧ n < UInt32.size := by
  have hRead :
      positive? raw = some n ↔
        Text.readNatural (UInt32.size - 1) (Text.trim raw) = .ok n ∧
          0 < n := by
    unfold positive?
    cases Text.readNatural (UInt32.size - 1) (Text.trim raw) with
    | error cause => simp
    | ok m =>
        cases m with
        | zero =>
            constructor
            · exact nofun
            · rintro ⟨hSame, hPositive⟩
              cases hSame
              exact absurd hPositive (Nat.lt_irrefl 0)
        | succ m =>
            simp only [Option.some.injEq, Except.ok.injEq]
            constructor
            · rintro rfl
              exact ⟨rfl, Nat.succ_pos m⟩
            · exact And.left
  rw [hRead, Text.readNatural_eq_ok_iff]
  constructor
  · rintro ⟨⟨hNatural, hLimit⟩, hPositive⟩
    exact ⟨hNatural, hPositive, Nat.lt_succ_of_le hLimit⟩
  · rintro ⟨hNatural, hPositive, hLimit⟩
    exact ⟨⟨hNatural, Nat.le_pred_of_lt hLimit⟩, hPositive⟩

theorem lowerAscii_eq_empty_iff
    {s : String} :
    Text.lowerAscii s = "" ↔ s = "" := by
  rw [← String.toList_inj, ← String.toList_inj]
  simp [Text.lowerAscii]

/- A list holds a disk type if it holds more than commas and blanks. -/
theorem splitTypes_eq_nil_iff :
    splitTypes raw = [] ↔
      ¬ ∃ c ∈ raw.toList, c ≠ ',' ∧ Text.isBlank c = false := by
  have hPiece :
      ∀ piece : List Char,
        Text.lowerAscii (Text.trim (String.ofList piece)) = "" ↔
          ∀ c ∈ piece, Text.isBlank c = true := by
    intro piece
    rw [lowerAscii_eq_empty_iff, Text.trim_eq_empty_iff,
      String.toList_ofList]
  have hPieces :
      splitTypes raw = [] ↔
        ∀ piece ∈ Text.pieces (· == ',') raw.toList,
          ∀ c ∈ piece, Text.isBlank c = true := by
    simp only [← hPiece]
    simp [splitTypes, Text.splitAtEvery]
  rw [hPieces]
  constructor
  · rintro hBlank ⟨c, hMem, hComma, hOther⟩
    have hPart : (c == ',') = false := by
      simpa using hComma
    have hSome :
        ∃ piece ∈ Text.pieces (· == ',') raw.toList, c ∈ piece :=
      Text.exists_mem_pieces_iff.mpr ⟨hMem, hPart⟩
    rcases hSome with ⟨piece, hPiece, hChar⟩
    rw [hBlank piece hPiece c hChar] at hOther
    cases hOther
  · intro hNone piece hPiece c hChar
    rcases Text.exists_mem_pieces_iff.mp ⟨piece, hPiece, hChar⟩ with
      ⟨hMem, hComma⟩
    apply Bool.of_not_eq_false
    intro hOther
    exact hNone ⟨c, hMem, by simpa using hComma, hOther⟩

------------------------------------------------------------
-- Values
------------------------------------------------------------

/- Which values a key may have. -/
def Key.Accepts : Key → String → Prop
  | .diskType, value =>
      ∃ c ∈ value.toList, c ≠ ',' ∧ Text.isBlank c = false
  | .chargeType, value =>
      ∃ chargeType : ChargeType,
        Text.lowerAscii value = Text.lowerAscii chargeType.name
  | .zone, value => ∃ c ∈ value.toList, Text.isBlank c = false
  | .projectId, value => ∃ c ∈ value.toList, Text.isBlank c = false
  | .tags, _ => True
  | .purchaseTime, value =>
      ∃ n : Nat,
        Text.IsNatural (Text.trim value) n ∧ 0 < n ∧ n < UInt32.size
  | .performanceLevel, value =>
      ∃ level : PerformanceLevel, Text.upperAscii value = level.name

/- The value of a key as a fault shows it. -/
def Key.shown : Key → String → String
  | .zone, value => Text.trim value
  | .projectId, value => Text.trim value
  | _, value => value

theorem requireText_eq_error_iff :
    requireText key value = .error fault ↔
      ¬ (∃ c ∈ value.toList, Text.isBlank c = false) ∧
        fault = .invalid key (Text.trim value) := by
  rw [← Text.trim_ne_empty_iff, not_not, requireText]
  split
  · next hEmpty =>
      rw [and_iff_right (String.isEmpty_iff.mp hEmpty)]
      simp [eq_comm]
  · next hSome =>
      rw [String.isEmpty_iff] at hSome
      simp [hSome]

theorem requireValue_eq_error_iff
    {α : Type}
    {read : Option α} :
    requireValue key value read = .error fault ↔
      ¬ (∃ a, read = some a) ∧ fault = .invalid key value := by
  cases read <;> simp [requireValue, eq_comm]

theorem bind_pure_eq_error_iff
    {ε α β : Type}
    {first : Except ε α}
    {f : α → β}
    {e : ε} :
    (first >>= fun a => pure (f a)) = .error e ↔
      first = .error e := by
  rw [bind_eq_error]
  simp [pure, Except.pure]

/- A key is set unless it may not have the value. -/
theorem set_eq_error_iff :
    parameters.set key value = .error fault ↔
      ¬ key.Accepts value ∧
        fault = .invalid key (key.shown value) := by
  cases key with
  | diskType =>
      rw [Key.Accepts, ← splitTypes_eq_nil_iff, set]
      split
      · next hNil =>
          rw [and_iff_right hNil, Except.error.injEq]
          exact eq_comm
      · next hSome => simp [show splitTypes value ≠ [] from hSome]
  | tags => simp [set, Key.Accepts]
  | zone => exact bind_pure_eq_error_iff.trans requireText_eq_error_iff
  | projectId =>
      exact bind_pure_eq_error_iff.trans requireText_eq_error_iff
  | chargeType =>
      rw [set, bind_pure_eq_error_iff, requireValue_eq_error_iff]
      simp only [ChargeType.parse?_eq_some_iff, Key.Accepts, Key.shown]
  | purchaseTime =>
      rw [set, bind_pure_eq_error_iff, requireValue_eq_error_iff]
      simp only [positive?_eq_some_iff, Key.Accepts, Key.shown]
  | performanceLevel =>
      rw [set, bind_pure_eq_error_iff, requireValue_eq_error_iff]
      simp only [PerformanceLevel.parse?_eq_some_iff, Key.Accepts,
        Key.shown]

------------------------------------------------------------
-- Entries
------------------------------------------------------------

/- Whether a key is one of those that the provisioner adds. -/
def IsSidecar
    (name : String) : Prop :=
  sidecarStart.toList <+: name.toList

/- Which entries are accepted. -/
inductive Accepted : String × String → Prop where
  | sidecar
      {name value : String}
      (hSidecar : IsSidecar name) :
      Accepted (name, value)
  | known
      {key : Key}
      {value : String}
      (hAccepts : key.Accepts value) :
      Accepted (key.name, value)

/- Which fault an entry is to blame for. -/
inductive Blames : String × String → Fault → Prop where
  | unknown
      {name value : String}
      (hKey : ∀ key : Key, key.name ≠ name)
      (hSidecar : ¬ IsSidecar name) :
      Blames (name, value) (.unknownKey name)
  | malformed
      {key : Key}
      {value : String}
      (hAccepts : ¬ key.Accepts value) :
      Blames (key.name, value) (.invalid key (key.shown value))

theorem isSidecarKey_iff :
    isSidecarKey name = true ↔ IsSidecar name :=
  String.startsWith_string_iff

theorem Key.ofName?_eq_none_iff :
    ofName? name = none ↔ ∀ key : Key, key.name ≠ name := by
  constructor
  · rintro hNone key rfl
    rw [ofName?_name] at hNone
    exact nomatch hNone
  · intro hOther
    cases hKey : ofName? name with
    | none => rfl
    | some key => exact absurd (name_of_ofName? hKey) (hOther key)

/- No known key looks as if it was added. -/
theorem Key.not_isSidecar
    (key : Key) :
    ¬ IsSidecar key.name := by
  rw [IsSidecar]
  cases key <;> decide

theorem readEntry_of_isSidecar
    (hSidecar : IsSidecar name) :
    parameters.readEntry (name, value) = .ok parameters := by
  have hKey : Key.ofName? name = none := by
    rw [Key.ofName?_eq_none_iff]
    rintro key rfl
    exact key.not_isSidecar hSidecar
  simp [readEntry, hKey, isSidecarKey_iff.mpr hSidecar]

/- An entry that is accepted can be read. -/
theorem Accepted.readEntry_eq_ok
    (h : Accepted entry)
    (parameters : Parameters) :
    ∃ next, parameters.readEntry entry = .ok next := by
  cases h with
  | sidecar hSidecar =>
      exact ⟨parameters, readEntry_of_isSidecar hSidecar⟩
  | @known key value hAccepts =>
      rw [readEntry_name]
      cases hSet : parameters.set key value with
      | ok next => exact ⟨next, rfl⟩
      | error fault =>
          exact absurd hAccepts (set_eq_error_iff.mp hSet).1

/- An entry that is to blame for a fault is answered with it. -/
theorem Blames.readEntry_eq_error
    (h : Blames entry fault)
    (parameters : Parameters) :
    parameters.readEntry entry = .error fault := by
  cases h with
  | unknown hKey hSidecar =>
      rw [← isSidecarKey_iff] at hSidecar
      simp [readEntry, Key.ofName?_eq_none_iff.mpr hKey, hSidecar]
  | malformed hAccepts =>
      rw [readEntry_name, set_eq_error_iff]
      exact ⟨hAccepts, rfl⟩

theorem accepted_or_blames
    (entry : String × String) :
    Accepted entry ∨ ∃ fault, Blames entry fault := by
  rcases entry with ⟨name, value⟩
  by_cases hSidecar : IsSidecar name
  · exact .inl (.sidecar hSidecar)
  · by_cases hKey : ∃ key : Key, key.name = name
    · rcases hKey with ⟨key, rfl⟩
      by_cases hAccepts : key.Accepts value
      · exact .inl (.known hAccepts)
      · exact .inr ⟨_, .malformed hAccepts⟩
    · exact .inr ⟨_, .unknown (not_exists.mp hKey) hSidecar⟩

/- An entry is to blame for one fault only. -/
theorem Blames.unique
    {other : Fault}
    (h : Blames entry fault)
    (hOther : Blames entry other) :
    fault = other := by
  have hSame := h.readEntry_eq_error { diskTypes := [] }
  rw [hOther.readEntry_eq_error, Except.error.injEq] at hSame
  exact hSame.symm

theorem Blames.not_accepted
    (h : Blames entry fault) :
    ¬ Accepted entry := by
  intro hAccepted
  rcases hAccepted.readEntry_eq_ok { diskTypes := [] } with
    ⟨next, hNext⟩
  rw [h.readEntry_eq_error] at hNext
  exact nomatch hNext

------------------------------------------------------------
-- All Entries
------------------------------------------------------------

/- Which fault the first entry that is not accepted has. -/
inductive FirstFault : Dictionary → Fault → Prop where
  | here
      {entry : String × String}
      {entries : Dictionary}
      {fault : Fault}
      (hBlames : Blames entry fault) :
      FirstFault (entry :: entries) fault
  | later
      {entry : String × String}
      {entries : Dictionary}
      {fault : Fault}
      (hAccepted : Accepted entry)
      (hLater : FirstFault entries fault) :
      FirstFault (entry :: entries) fault

/- Whatever was read before, the first fault is the answer. -/
theorem foldlM_eq_error_iff :
    entries.foldlM readEntry parameters = .error fault ↔
      FirstFault entries fault := by
  induction entries generalizing parameters with
  | nil =>
      constructor
      · exact nofun
      · exact nofun
  | cons entry entries ih =>
      rw [List.foldlM_cons]
      rcases accepted_or_blames entry with
        hAccepted | ⟨other, hBlames⟩
      · rcases hAccepted.readEntry_eq_ok parameters with
          ⟨next, hNext⟩
        rw [hNext]
        refine ih.trans ⟨.later hAccepted, ?_⟩
        intro hFirst
        cases hFirst with
        | here hBlames => exact absurd hAccepted hBlames.not_accepted
        | later _ hLater => exact hLater
      · rw [hBlames.readEntry_eq_error parameters]
        constructor
        · intro hSame
          cases hSame
          exact .here hBlames
        · intro hFirst
          cases hFirst with
          | here hOther => exact congrArg _ (hBlames.unique hOther)
          | later hAccepted _ =>
              exact absurd hAccepted hBlames.not_accepted

theorem FirstFault.exists_blames
    (h : FirstFault entries fault) :
    ∃ entry ∈ entries, Blames entry fault := by
  induction h with
  | here hBlames => exact ⟨_, List.mem_cons_self, hBlames⟩
  | later _ _ ih =>
      rcases ih with ⟨entry, hMem, hBlames⟩
      exact ⟨entry, List.mem_cons_of_mem _ hMem, hBlames⟩

theorem firstFault_or_accepted
    (entries : Dictionary) :
    (∃ fault, FirstFault entries fault) ∨
      ∀ entry ∈ entries, Accepted entry := by
  induction entries with
  | nil => exact .inr nofun
  | cons entry entries ih =>
      rcases accepted_or_blames entry with
        hAccepted | ⟨fault, hBlames⟩
      · rcases ih with ⟨fault, hLater⟩ | hAll
        · exact .inl ⟨fault, .later hAccepted hLater⟩
        · exact .inr (List.forall_mem_cons.mpr ⟨hAccepted, hAll⟩)
      · exact .inl ⟨fault, .here hBlames⟩

theorem parse_eq_error_iff :
    parse standardType entries = .error fault ↔
      FirstFault entries fault :=
  foldlM_eq_error_iff

/- Parameters are accepted if each entry is. -/
theorem exists_parse_eq_ok_iff
    (standardType : String) :
    (∃ result, parse standardType entries = .ok result) ↔
      ∀ entry ∈ entries, Accepted entry := by
  constructor
  · rintro ⟨result, hParse⟩
    rcases firstFault_or_accepted entries with
      ⟨fault, hFirst⟩ | hAll
    · rw [parse_eq_error_iff.mpr hFirst] at hParse
      exact nomatch hParse
    · exact hAll
  · intro hAll
    cases hParse : parse standardType entries with
    | ok result => exact ⟨result, rfl⟩
    | error fault =>
        rcases (parse_eq_error_iff.mp hParse).exists_blames with
          ⟨entry, hMem, hBlames⟩
        exact absurd (hAll entry hMem) hBlames.not_accepted

------------------------------------------------------------
-- The Order of Entries
------------------------------------------------------------

/- The entries that the provisioner did not add. -/
def ownEntries
    (entries : Dictionary) : Dictionary :=
  entries.filter fun entry => !isSidecarKey entry.1

/- What the provisioner adds is read over. -/
theorem foldlM_ownEntries
    (parameters : Parameters)
    (entries : Dictionary) :
    (ownEntries entries).foldlM readEntry parameters =
      entries.foldlM readEntry parameters := by
  induction entries generalizing parameters with
  | nil => rfl
  | cons entry entries ih =>
      rcases entry with ⟨name, value⟩
      rw [ownEntries, List.filter_cons]
      split
      · rw [List.foldlM_cons, List.foldlM_cons]
        congr 1
        funext next
        exact ih next
      · next hAdded =>
          have hSidecar : IsSidecar name := by
            rw [← isSidecarKey_iff]
            simpa using hAdded
          rw [List.foldlM_cons, readEntry_of_isSidecar hSidecar]
          exact ih parameters

theorem parse_ownEntries :
    parse standardType (ownEntries entries) =
      parse standardType entries :=
  foldlM_ownEntries _ entries

/- Parameters are the sum of their parts. -/
theorem ext_part
    (h : ∀ key, parameters.part key = result.part key) :
    parameters = result := by
  rcases parameters with ⟨_, _, _, _, _, _, _⟩
  rcases result with ⟨_, _, _, _, _, _, _⟩
  rw [mk.injEq]
  exact ⟨h .diskType, h .chargeType, h .zone, h .projectId, h .tags,
    h .purchaseTime, h .performanceLevel⟩

/- The same entries in another order say the same. -/
theorem parse_of_perm
    (hDistinct : (entries.map Prod.fst).Nodup)
    (hPerm : order.Perm entries)
    (h : parse standardType entries = .ok result) :
    parse standardType order = .ok result := by
  have hOrder : (order.map Prod.fst).Nodup :=
    (hPerm.map Prod.fst).nodup_iff.mpr hDistinct
  have hAccepted : ∀ entry ∈ order, Accepted entry := by
    intro entry hMem
    exact (exists_parse_eq_ok_iff standardType).mp ⟨result, h⟩ entry
      (hPerm.mem_iff.mp hMem)
  rcases (exists_parse_eq_ok_iff standardType).mpr hAccepted with
    ⟨other, hOther⟩
  rw [hOther, Except.ok.injEq]
  apply ext_part
  intro key
  rw [part_of_parse hOrder hOther, part_of_parse hDistinct h,
    Dictionary.find?_perm hDistinct hPerm]

/- Whether a message shows a name between quotes. -/
def Quotes
    (message name : String) : Prop :=
  ∃ before after : String,
    message = before ++ "'" ++ name ++ "'" ++ after

theorem Blames.quotes
    (h : Blames entry fault) :
    Quotes fault.message entry.1 := by
  unfold Quotes Fault.message
  cases h with
  | unknown hKey hSidecar =>
      refine ⟨"Unknown volume parameter ", "", ?_⟩
      simp only [String.reduceAppend, String.append_empty]
  | @malformed key value hAccepts =>
      have hOpen :
          "' for volume parameter '" =
            "' for volume parameter " ++ "'" := by
        decide
      have hClose : "': " = "'" ++ ": " := by
        decide
      refine ⟨"Invalid value '" ++ key.shown value ++
        "' for volume parameter ", ": " ++ key.expectation, ?_⟩
      simp only [hOpen, hClose, String.append_assoc]

/-
  Parameters are accepted if each entry is. What they say then
  does not depend on the order of the entries, nor on those
  that the provisioner adds. If they are not accepted, one of
  the wrong entries is named, in whatever order they are read.
-/
theorem parse_in_every_order
    (standardType : String)
    (hDistinct : (entries.map Prod.fst).Nodup) :
    ((∃ result, parse standardType entries = .ok result) ↔
      ∀ entry ∈ entries, Accepted entry) ∧
    (∀ result, parse standardType entries = .ok result →
      result.diskTypes ≠ [] ∧
      (∀ key, result.part key =
        (entries.find? key.name).elim
          (part { diskTypes := [standardType] } key) key.read) ∧
      ∀ order : Dictionary,
        (ownEntries order).Perm (ownEntries entries) →
          parse standardType order = .ok result) ∧
    ((¬ ∀ entry ∈ entries, Accepted entry) →
      ∀ order : Dictionary, order.Perm entries →
        ∃ fault, parse standardType order = .error fault ∧
          ∃ entry ∈ entries,
            ¬ Accepted entry ∧ Blames entry fault ∧
              Quotes fault.message entry.1) := by
  refine ⟨exists_parse_eq_ok_iff standardType, ?_, ?_⟩
  · intro result hParse
    refine ⟨diskTypes_ne_nil_of_parse hParse,
      part_of_parse hDistinct hParse, ?_⟩
    intro order hPerm
    have hOwn : ((ownEntries entries).map Prod.fst).Nodup :=
      hDistinct.sublist (List.filter_sublist.map Prod.fst)
    rw [← parse_ownEntries] at hParse ⊢
    exact parse_of_perm hOwn hPerm hParse
  · intro hWrong order hPerm
    rcases firstFault_or_accepted order with
      ⟨fault, hFirst⟩ | hAll
    · rcases hFirst.exists_blames with ⟨entry, hMem, hBlames⟩
      exact ⟨fault, parse_eq_error_iff.mpr hFirst, entry,
        hPerm.mem_iff.mp hMem, hBlames.not_accepted, hBlames,
        hBlames.quotes⟩
    · apply absurd _ hWrong
      intro entry hMem
      exact hAll entry (hPerm.mem_iff.mpr hMem)

/- Two keys in either order, with an entry of the provisioner. -/
theorem parse_in_every_order_reversed :
    let entries : Dictionary :=
      [("type", " RSSD, ,cloud_ssd"),
        ("csi.storage.k8s.io/pvc/name", "data"),
        ("purchasetime", "+3")]
    let order : Dictionary :=
      [("purchasetime", "+3"), ("type", " RSSD, ,cloud_ssd")]
    let wrong : Dictionary := [("zone", " "), ("type", "rssd")]
    (entries.map Prod.fst).Nodup ∧ (wrong.map Prod.fst).Nodup ∧
      parse "ssd" order = .ok
        { diskTypes := ["rssd", "cloud_ssd"]
          purchaseTime := some 3 } ∧
      ∃ fault, parse "ssd" wrong.reverse = .error fault ∧
        ∃ entry ∈ wrong, Quotes fault.message entry.1 := by
  intro entries order wrong
  have hDistinct : (entries.map Prod.fst).Nodup := by
    decide
  have hWrong : (wrong.map Prod.fst).Nodup := by
    decide
  have hParse :
      parse "ssd" entries = .ok
        { diskTypes := ["rssd", "cloud_ssd"]
          purchaseTime := some 3 } := by
    decide +kernel
  have hPerm : (ownEntries order).Perm (ownEntries entries) := by
    decide +kernel
  have hZone : ¬ ∀ entry ∈ wrong, Accepted entry := by
    intro hAll
    rcases (exists_parse_eq_ok_iff "ssd").mpr hAll with
      ⟨result, hResult⟩
    have hFault :
        parse "ssd" wrong = .error (.invalid .zone "") := by
      decide +kernel
    rw [hFault] at hResult
    exact nomatch hResult
  rcases parse_in_every_order "ssd" hDistinct with
    ⟨_, hAccepted, _⟩
  rcases parse_in_every_order "ssd" hWrong with
    ⟨_, _, hRejected⟩
  rcases hRejected hZone _ (List.reverse_perm wrong) with
    ⟨fault, hFault, entry, hMem, _, _, hQuotes⟩
  exact ⟨hDistinct, hWrong, (hAccepted _ hParse).2.2 order hPerm,
    fault, hFault, entry, hMem, hQuotes⟩

end Parameters

end BlockVolumes
