import BlockVolumes.Proofs.System.Commands

/-
  What the mounter of the system makes of a report on a
  device. The device counts as blank only if the report says
  so, by its status or by naming neither a filesystem nor a
  partition table.

  Key definitions include:
    * `Mount.Assigns`
    * `Mount.LastAssigns`
    * `Mount.Output.ShowsNothing`
    * `Mount.Output.Shows`
    * `Mount.SystemMounter.detected`
    * `Mount.SystemMounter.DecidedBy`

  Key theorems include:
    * `Mount.assigned?_eq_some_iff`
    * `Mount.readFormatReport_eq_some_iff`
    * `Mount.SystemMounter.diskFormat_eq`
    * `Mount.SystemMounter.detected_decidedBy`
-/

namespace BlockVolumes

namespace Mount

open Files (Failure)

------------------------------------------------------------
-- Lines
------------------------------------------------------------

/-
  Whether a line, without the blanks around it, gives a key a
  value that is not empty.
-/
def Assigns
    (key value line : String) : Prop :=
  Text.trim line = key ++ "=" ++ value ∧ value ≠ ""

/- Whether no line gives a key any value. -/
def NeverAssigns
    (key : String)
    (lines : List String) : Prop :=
  ∀ line ∈ lines, ∀ value, ¬ Assigns key value line

/- Whether a value is what the last such line gives a key. -/
def LastAssigns
    (key value : String)
    (lines : List String) : Prop :=
  ∃ before line after,
    lines = before ++ line :: after ∧
      Assigns key value line ∧ NeverAssigns key after

variable {key value line output filesystem : String}

/- A line is split at its first sign. -/
theorem splitAssignment_eq_some_iff :
    splitAssignment line = some (key, value) ↔
      line = key ++ "=" ++ value ∧ '=' ∉ key.toList := by
  constructor
  · intro h
    have hParts :=
      List.takeWhile_append_dropWhile (p := (· != '='))
        (l := line.toList)
    have hSign := List.head?_dropWhile_not (· != '=') line.toList
    unfold splitAssignment at h
    dsimp only at h
    split at h
    · exact nomatch h
    · next sign rest hRest =>
        cases h
        rw [hRest] at hParts hSign
        have hEq : sign = '=' := by simpa using hSign
        subst hEq
        constructor
        · rw [← String.toList_inj, String.toList_append,
            String.toList_append, String.toList_ofList,
            String.toList_ofList, String.toList_ofList,
            List.append_assoc]
          exact hParts.symm
        · intro hMem
          have hAll :=
            List.all_takeWhile (p := (· != '=')) (l := line.toList)
          rw [String.toList_ofList] at hMem
          simpa using List.all_eq_true.mp hAll '=' hMem
  · rintro ⟨rfl, hKey⟩
    have hOther : ∀ c ∈ key.toList, (c != '=') = true := by
      intro c hMem
      rw [bne_iff_ne]
      rintro rfl
      exact hKey hMem
    have hCharacters :
        (key ++ "=" ++ value).toList =
          key.toList ++ '=' :: value.toList := by
      simp
    simp only [splitAssignment, hCharacters,
      List.dropWhile_append_of_pos hOther,
      List.takeWhile_append_of_pos hOther]
    simp

theorem assigned?_eq_some_iff
    (hKey : '=' ∉ key.toList) :
    assigned? key line = some value ↔ Assigns key value line := by
  have hSplit :
      ∀ value,
        splitAssignment (Text.trim line) = some (key, value) ↔
          Text.trim line = key ++ "=" ++ value := by
    intro value
    rw [splitAssignment_eq_some_iff, and_iff_left hKey]
  unfold assigned? Assigns
  rw [← hSplit value]
  cases hLine : splitAssignment (Text.trim line) with
  | none => simp
  | some assignment =>
      rcases assignment with ⟨k, v⟩
      simp only [Option.some.injEq, Prod.mk.injEq]
      constructor
      · intro h
        split at h
        · next hBoth =>
            cases h
            simpa using hBoth
        · exact nomatch h
      · rintro ⟨⟨rfl, rfl⟩, hSome⟩
        simp [hSome]

theorem assigned?_eq_none_iff
    (hKey : '=' ∉ key.toList) :
    assigned? key line = none ↔
      ∀ value, ¬ Assigns key value line := by
  simp only [← assigned?_eq_some_iff hKey,
    Option.eq_none_iff_forall_ne_some, ne_eq]

------------------------------------------------------------
-- Reports
------------------------------------------------------------

theorem lastAssigned?_eq_some_iff
    (hKey : '=' ∉ key.toList) :
    lastAssigned? key output = some value ↔
      LastAssigns key value (Text.lines output) := by
  rw [lastAssigned?, List.getLast?_filterMap,
    List.findSome?_eq_some_iff]
  constructor
  · rintro ⟨after, line, before, hLines, hLine, hAfter⟩
    refine ⟨before.reverse, line, after.reverse, ?_,
      (assigned?_eq_some_iff hKey).mp hLine, ?_⟩
    · simpa using congrArg List.reverse hLines
    · intro later hLater
      exact (assigned?_eq_none_iff hKey).mp
        (hAfter later (List.mem_reverse.mp hLater))
  · rintro ⟨before, line, after, hLines, hLine, hAfter⟩
    refine ⟨after.reverse, line, before.reverse, ?_,
      (assigned?_eq_some_iff hKey).mpr hLine, ?_⟩
    · simp [hLines]
    · intro later hLater
      exact (assigned?_eq_none_iff hKey).mpr
        (hAfter later (List.mem_reverse.mp hLater))

theorem lastAssigned?_eq_none_iff
    (hKey : '=' ∉ key.toList) :
    lastAssigned? key output = none ↔
      NeverAssigns key (Text.lines output) := by
  rw [lastAssigned?, List.getLast?_eq_none_iff,
    List.filterMap_eq_nil_iff]
  exact forall₂_congr fun _ _ => assigned?_eq_none_iff hKey

theorem not_neverAssigns_iff
    {lines : List String} :
    ¬ NeverAssigns key lines ↔
      ∃ line ∈ lines, ∃ value, Assigns key value line := by
  simp [NeverAssigns]

/- A report shows nothing if it names neither kind of data. -/
theorem readFormatReport_eq_none_iff :
    readFormatReport output = none ↔
      NeverAssigns "TYPE" (Text.lines output) ∧
        NeverAssigns "PTTYPE" (Text.lines output) := by
  rw [← lastAssigned?_eq_none_iff (by decide),
    ← lastAssigned?_eq_none_iff (by decide), readFormatReport]
  cases hType : lastAssigned? "TYPE" output with
  | none => simp
  | some filesystem => simp

/- A filesystem goes before a partition table. -/
theorem readFormatReport_eq_some_iff :
    readFormatReport output = some filesystem ↔
      LastAssigns "TYPE" filesystem (Text.lines output) ∨
        NeverAssigns "TYPE" (Text.lines output) ∧
          (∃ line ∈ Text.lines output,
            ∃ value, Assigns "PTTYPE" value line) ∧
          filesystem = partitionsText := by
  rw [← not_neverAssigns_iff,
    ← lastAssigned?_eq_none_iff (by decide),
    ← lastAssigned?_eq_none_iff (by decide),
    ← lastAssigned?_eq_some_iff (by decide), readFormatReport]
  cases hType : lastAssigned? "TYPE" output with
  | some filesystem => simp
  | none =>
      cases hTable : lastAssigned? "PTTYPE" output with
      | none => simp
      | some table => simp [eq_comm]

------------------------------------------------------------
-- Statuses
------------------------------------------------------------

/- A process that ended as it should had zero for its code. -/
theorem ExitStatus.code?_of_isSuccess
    {status : ExitStatus}
    (h : status.isSuccess = true) :
    status.code? = some 0 := by
  rcases status with ⟨word⟩
  have hWord : word = 0 := by simpa [isSuccess] using h
  subst hWord
  rfl

/- A process that died from a signal had no code. -/
theorem ExitStatus.code?_of_signal?
    {status : ExitStatus}
    {signal : Nat}
    (h : status.signal? = some signal) :
    status.code? = none := by
  unfold signal? at h
  split at h
  · exact nomatch h
  · next hLower => exact if_neg fun hZero => hLower (.inl hZero)

------------------------------------------------------------
-- Outputs
------------------------------------------------------------

namespace Output

/- The lines that a command wrote. -/
def lines
    (output : Output) : List String :=
  Text.lines (Text.ofBytesLossy output.bytes)

/-
  Whether a command that looks for data shows that there is
  none: it says so by its code, or it names no kind of data.
-/
def ShowsNothing
    (output : Output) : Prop :=
  output.status.code? = some 2 ∨
    output.status.isSuccess = true ∧
      NeverAssigns "TYPE" output.lines ∧
      NeverAssigns "PTTYPE" output.lines

/- Whether it shows data, and under which name. -/
def Shows
    (filesystem : String)
    (output : Output) : Prop :=
  output.status.isSuccess = true ∧
    (LastAssigns "TYPE" filesystem output.lines ∨
      NeverAssigns "TYPE" output.lines ∧
        (∃ line ∈ output.lines,
          ∃ value, Assigns "PTTYPE" value line) ∧
        filesystem = partitionsText)

end Output

------------------------------------------------------------
-- Devices
------------------------------------------------------------

namespace SystemMounter

variable {device : Path}
variable {reply : Except Failure Output}

/- What is made of the reply to the command that looks for data. -/
def detected
    (device : Path)
    (reply : Except Failure Output) :
    Except Error (Option String) :=
  (reply.bind fun output =>
    let text := Text.ofBytesLossy output.bytes
    if output.status.code? = some nothingFound then
      .ok none
    else if output.status.isSuccess then
      .ok (readFormatReport text)
    else
      .error (Failure.ofText text)).mapError
    (Error.diskFormat device.text)

/- The format of a device is a matter of one command. -/
theorem diskFormat_eq
    (device : Path) :
    diskFormat device =
      .ask (I := Shell) (.run (probeCommand device))
        fun reply => .ofExcept (detected device reply) := by
  refine congrArg
    (Program.ask (I := Shell) (.run (probeCommand device)))
    (funext fun reply => ?_)
  cases (reply : Except Failure Output) with
  | error failure => rfl
  | ok output =>
      unfold detected
      dsimp only [Program.ofExcept, Program.bind, Except.bind]
      split
      · rfl
      · split
        · rfl
        · rfl

theorem detected_ok
    (device : Path)
    (output : Output) :
    detected device (.ok output) =
      if output.status.code? = some 2 then .ok none
      else if output.status.isSuccess = true then
        .ok (readFormatReport (Text.ofBytesLossy output.bytes))
      else
        .error (.diskFormat device.text
          (.ofText (Text.ofBytesLossy output.bytes))) := by
  unfold detected nothingFound
  dsimp only [Except.bind]
  split
  · rfl
  · split
    · rfl
    · rfl

theorem detected_eq_none_iff :
    detected device reply = .ok none ↔
      ∃ output, reply = .ok output ∧ output.ShowsNothing := by
  cases reply with
  | error failure => exact iff_of_false nofun nofun
  | ok output =>
      simp only [Except.ok.injEq, exists_eq_left']
      rw [detected_ok, Output.ShowsNothing]
      split
      · next hCode => simp [hCode]
      · next hCode =>
          rw [or_iff_right hCode]
          split
          · next hSuccess =>
              rw [Except.ok.injEq, readFormatReport_eq_none_iff,
                and_iff_right hSuccess]
              rfl
          · next hFailed => simp [hFailed]

theorem detected_eq_some_iff
    {filesystem : String} :
    detected device reply = .ok (some filesystem) ↔
      ∃ output, reply = .ok output ∧ output.Shows filesystem := by
  cases reply with
  | error failure => exact iff_of_false nofun nofun
  | ok output =>
      simp only [Except.ok.injEq, exists_eq_left']
      rw [detected_ok, Output.Shows]
      split
      · next hCode =>
          apply iff_of_false nofun
          rintro ⟨hSuccess, _⟩
          rw [ExitStatus.code?_of_isSuccess hSuccess] at hCode
          exact nomatch hCode
      · split
        · next hSuccess =>
            rw [Except.ok.injEq, readFormatReport_eq_some_iff,
              and_iff_right hSuccess]
            rfl
        · next hFailed => simp [hFailed]

/- An end that means neither is never taken for a blank device. -/
theorem detected_eq_error_iff :
    (∃ error, detected device reply = .error error) ↔
      ∀ output, reply = .ok output →
        output.status.code? ≠ some 2 ∧
          output.status.isSuccess = false := by
  cases reply with
  | error failure => exact iff_of_true ⟨_, rfl⟩ nofun
  | ok output =>
      simp only [Except.ok.injEq, forall_eq']
      rw [detected_ok]
      split
      · next hCode => exact iff_of_false nofun fun h => h.1 hCode
      · next hCode =>
          rw [and_iff_right hCode]
          split
          · next hSuccess => simp [hSuccess]
          · next hFailed => simp [hFailed]

/- How the reply to the command decides about the device. -/
structure DecidedBy
    (reply : Except Failure Output)
    (answer : Except Error (Option String)) : Prop where
  blank :
    answer = .ok none ↔
      ∃ output, reply = .ok output ∧ output.ShowsNothing
  data :
    ∀ filesystem,
      answer = .ok (some filesystem) ↔
        ∃ output, reply = .ok output ∧ output.Shows filesystem
  failed :
    (∃ error, answer = .error error) ↔
      ∀ output, reply = .ok output →
        output.status.code? ≠ some 2 ∧
          output.status.isSuccess = false
  killed :
    ∀ output signal,
      reply = .ok output → output.status.signal? = some signal →
        ∃ error, answer = .error error

theorem detected_decidedBy
    (device : Path)
    (reply : Except Failure Output) :
    DecidedBy reply (detected device reply) where
  blank := detected_eq_none_iff
  data := fun _ => detected_eq_some_iff
  failed := detected_eq_error_iff
  killed := by
    rintro output signal rfl hSignal
    have hCode := ExitStatus.code?_of_signal? hSignal
    refine detected_eq_error_iff.mpr ?_
    rintro _ ⟨⟩
    constructor
    · simp [hCode]
    · rw [Bool.eq_false_iff]
      intro hSuccess
      rw [ExitStatus.code?_of_isSuccess hSuccess] at hCode
      exact nomatch hCode

theorem detected_isSome_eq_false_iff :
    (detected device reply).map Option.isSome = .ok false ↔
      ∃ output, reply = .ok output ∧ output.ShowsNothing := by
  rw [← detected_eq_none_iff]
  rcases detected device reply with error | (_ | filesystem)
  · exact iff_of_false nofun nofun
  · exact iff_of_true rfl rfl
  · exact iff_of_false nofun nofun

/- Whether a device holds data is a matter of one command. -/
theorem serve_isFormatted_eq
    (system : SystemMounter)
    (device : Path) :
    system.serve (.isFormatted device) =
      .ask (I := Shell) (.run (probeCommand device))
        fun reply =>
          .ofExcept ((detected device reply).map Option.isSome) := by
  change (diskFormat device).bind _ = _
  rw [diskFormat_eq]
  refine congrArg
    (Program.ask (I := Shell) (.run (probeCommand device)))
    (funext fun reply => ?_)
  change (Program.ofExcept (detected device reply)).bind _ = _
  cases detected device reply with
  | error error => rfl
  | ok found => rfl

/- And so is making a filesystem. -/
theorem serve_format_eq
    (system : SystemMounter)
    (device : Path)
    (filesystem : String)
    (options : List String) :
    ∃ made : Except Files.Failure Output → Except Error Unit,
      system.serve (.format device filesystem options) =
        .ask (I := Shell)
          (.run (formatCommand device filesystem options))
          fun reply => .ofExcept (made reply) := by
  refine ⟨fun reply =>
    (reply.bind fun output =>
      if output.status.isSuccess then .ok ()
      else .error (.ofText (Text.ofBytesLossy output.bytes))).mapError
      (Error.format device.text), ?_⟩
  refine congrArg
    (Program.ask (I := Shell)
      (.run (formatCommand device filesystem options)))
    (funext fun reply => ?_)
  cases (reply : Except Files.Failure Output) with
  | error failure => rfl
  | ok output =>
      dsimp only [Program.ofExcept, Program.bind, Except.bind]
      split
      · rfl
      · rfl

end SystemMounter

end Mount

end BlockVolumes
