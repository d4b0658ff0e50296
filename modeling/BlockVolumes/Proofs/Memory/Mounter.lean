import BlockVolumes.Memory.World

/-
  What single calls of the mounter in memory do: which action
  they record, and which formats the devices have afterwards.

  Key definitions include:
    * `Memory.Mounter.actionOf?`
    * `Memory.Mounter.IsQuiet`
    * `Memory.World.actionOf?`

  Key theorems include:
    * `Memory.Mounter.log_of_call`
    * `Memory.Mounter.format?_format`
    * `Memory.Mounter.table_of_call`
    * `Memory.World.callMounter_cases`
    * `Memory.World.log_of_answer`
-/

namespace BlockVolumes

namespace Memory

namespace Mounter

variable {mounter : Mounter}
variable {tree : FileTree}
variable {path : Path}

------------------------------------------------------------
-- Recorded Actions
------------------------------------------------------------

/- The action that a call records, if it records one. -/
def actionOf?
    (mounter : Mounter)
    (tree : FileTree) : Mount.Call → Option Action
  | .mount (some source) target filesystem options _ =>
      some (.mounted
        (mounter.sourceDevice tree source options)
        (tree.canonicalOrSelf target) filesystem options)
  | .unmount target _ =>
      some (.unmounted (tree.canonicalOrSelf target))
  | .format device filesystem _ =>
      some (.formatted device
        (if filesystem.isEmpty then "ext4" else filesystem))
  | .resize filesystem device mountPath =>
      if filesystem.getD "ext4" ∈ growing then
        some (.resized filesystem device mountPath)
      else none
  | .triggerDevices => some .triggered
  | _ => none

/- What is recorded of each call. -/
theorem log_of_call
    (call : Mount.Call) :
    (mounter.answer tree call).2.log =
      mounter.log ++ (mounter.actionOf? tree call).toList := by
  cases call with
  | mount source =>
      cases source with
      | none => simp [answer, mount, actionOf?]
      | some source => rfl
  | unmount => rfl
  | format => rfl
  | triggerDevices => rfl
  | resize filesystem =>
      by_cases hGrows : filesystem.getD "ext4" ∈ growing
      · simp [answer, resize, actionOf?, hGrows, record]
      · simp [answer, resize, actionOf?, hGrows]
  | usage path =>
      by_cases hThere : mounter.hasPath tree path
      · simp [answer, actionOf?, hThere]
      · simp [answer, actionOf?, hThere]
  | _ => simp [answer, actionOf?]

/- Only a call that formats a device is recorded as that. -/
theorem call_of_formatted
    {call : Mount.Call}
    {device : Path}
    {filesystem : String}
    (h :
      mounter.actionOf? tree call =
        some (.formatted device filesystem)) :
    ∃ name options, call = .format device name options := by
  cases call with
  | format other name options =>
      cases h
      exact ⟨name, options, rfl⟩
  | mount source =>
      cases source with
      | none => exact nomatch h
      | some source => exact nomatch h
  | resize =>
      rw [actionOf?] at h
      split at h
      · exact nomatch h
      · exact nomatch h
  | _ => exact nomatch h

/- Only a call that mounts something is recorded as that. -/
theorem call_of_mounted
    {call : Mount.Call}
    {device place : Path}
    {filesystem : String}
    {options : List String}
    (h :
      mounter.actionOf? tree call =
        some (.mounted device place filesystem options)) :
    ∃ source target sensitive,
      call = .mount (some source) target filesystem options
        sensitive ∧
      device = mounter.sourceDevice tree source options := by
  cases call with
  | mount source target name given sensitive =>
      cases source with
      | none => exact nomatch h
      | some source =>
          cases h
          exact ⟨source, target, sensitive, rfl, rfl⟩
  | resize =>
      rw [actionOf?] at h
      split at h
      · exact nomatch h
      · exact nomatch h
  | _ => exact nomatch h

------------------------------------------------------------
-- Formats
------------------------------------------------------------

/- A device has a format if a row for it is there. -/
theorem format?_isSome
    (mounter : Mounter)
    (device : Path) :
    (mounter.format? device).isSome =
      mounter.formats.any fun row =>
        decide (Path.Same row.1 device) := by
  unfold format?
  rw [Option.isSome_map, Bool.eq_iff_iff, List.find?_isSome,
    List.any_eq_true]

/- A device that is formatted has a format, and others keep theirs. -/
theorem format?_format
    (mounter : Mounter)
    (device other : Path)
    (filesystem : String) :
    ((mounter.format device filesystem).format? other).isSome =
      (decide (Path.Same device other) ||
        (mounter.format? other).isSome) := by
  rw [format?_isSome, format?_isSome, Bool.eq_iff_iff]
  simp only [format, record, setFormat, List.any_append,
    List.any_cons, List.any_nil, Bool.or_false, Bool.or_eq_true,
    List.any_eq_true, List.mem_filter, Bool.not_eq_true',
    decide_eq_true_eq, decide_eq_false_iff_not]
  constructor
  · rintro (⟨row, ⟨hMem, _⟩, hSame⟩ | hSame)
    · exact .inr ⟨row, hMem, hSame⟩
    · exact .inl hSame
  · rintro (hSame | ⟨row, hMem, hSame⟩)
    · exact .inr hSame
    · by_cases hDevice : Path.Same row.1 device
      · exact .inr (hDevice.symm.trans hSame)
      · exact .inl ⟨row, ⟨hMem, hDevice⟩, hSame⟩

/- Spellings of one path are the same device. -/
theorem format?_of_same
    (mounter : Mounter)
    {device other : Path}
    (h : Path.Same device other) :
    mounter.format? device = mounter.format? other := by
  have hEq : device.components = other.components := h
  unfold format?
  simp only [Path.Same, hEq]

/- Only formatting changes formats. -/
theorem formats_of_call
    (mounter : Mounter)
    (tree : FileTree)
    {call : Mount.Call}
    (hOther : ∀ device filesystem options,
      call ≠ .format device filesystem options) :
    (mounter.answer tree call).2.formats = mounter.formats := by
  cases call with
  | format device filesystem options =>
      exact absurd rfl (hOther device filesystem options)
  | mount source =>
      cases source with
      | none => rfl
      | some source => rfl
  | resize filesystem =>
      by_cases hGrows : filesystem.getD "ext4" ∈ growing
      · simp [answer, resize, hGrows, record]
      · simp [answer, resize, hGrows]
  | usage path =>
      by_cases hThere : mounter.hasPath tree path
      · simp [answer, hThere]
      · simp [answer, hThere]
  | _ => rfl

------------------------------------------------------------
-- Tables
------------------------------------------------------------

/- Whether a call neither mounts nor unmounts anything. -/
def IsQuiet : Mount.Call → Prop
  | .mount _ _ _ _ _ => False
  | .unmount _ _ => False
  | _ => True

/- Quiet calls do not change the table. -/
theorem table_of_call
    {call : Mount.Call}
    (hQuiet : IsQuiet call) :
    (mounter.answer tree call).2.table = mounter.table := by
  cases call with
  | mount => exact hQuiet.elim
  | unmount => exact hQuiet.elim
  | resize filesystem =>
      by_cases hGrows : filesystem.getD "ext4" ∈ growing
      · simp [answer, resize, hGrows, record]
      · simp [answer, resize, hGrows]
  | usage path =>
      by_cases hThere : mounter.hasPath tree path
      · simp [answer, hThere]
      · simp [answer, hThere]
  | _ => rfl

------------------------------------------------------------
-- Looking
------------------------------------------------------------

/- Nothing is mounted at a path that is not there. -/
theorem isMounted_of_missing
    (h : mounter.hasPath tree path = false) :
    mounter.isMounted tree path = .ok false := by
  unfold isMounted isNotMountPoint isLikelyNotMountPoint
  rw [if_neg (by simp [h])]
  rfl

/- Nothing is mounted anywhere while the table is empty. -/
theorem isMounted_of_empty
    {mounter : Mounter}
    (h : mounter.table = [])
    (tree : FileTree)
    (path : Path) :
    mounter.isMounted tree path = .ok false := by
  have hAbsent :
      ∀ resolved : Option RawPath,
        Mount.isAbsentFrom resolved (.ok []) = .ok true := by
    rintro (_ | place) <;> rfl
  unfold isMounted isNotMountPoint isLikelyNotMountPoint
  split
  · rw [h]
    exact congrArg Mount.isMounted (hAbsent _)
  · rfl

end Mounter

namespace World

variable {world after : World}

------------------------------------------------------------
-- Calls in a World
------------------------------------------------------------

/-
  A call of the mounter fails by script and changes nothing
  but the script, or it is answered by the mounter.
-/
theorem callMounter_cases
    {call : Mount.Call}
    {reply : call.Reply}
    (h : world.callMounter call = (reply, after)) :
    after.tree = world.tree ∧
      ((∃ error, reply = .error error ∧
          after.mounter = world.mounter) ∨
        world.mounter.answer world.tree call =
          (reply, after.mounter)) := by
  unfold callMounter at h
  rcases hTake : world.mounterFailures.take call.name with
    ⟨failure, failures⟩
  rw [hTake] at h
  cases failure with
  | some error =>
      rcases h with ⟨rfl, rfl⟩
      exact ⟨rfl, .inl ⟨error, rfl, rfl⟩⟩
  | none =>
      rcases h with ⟨rfl, rfl⟩
      exact ⟨rfl, .inr rfl⟩

/- No other request has to do with the mounter. -/
theorem mounter_of_answer
    {request : Host.Request}
    (hOther : ∀ call, request ≠ .mounter call) :
    (answer request world).2.mounter = world.mounter := by
  cases request with
  | mounter call => exact absurd rfl (hOther call)
  | removeDirectory path =>
      unfold answer removeDirectory
      dsimp only
      cases world.tree.removeDirectory path with
      | ok tree => rfl
      | error failure => rfl
  | _ => rfl

/- The action that the answer to a request records. -/
def actionOf?
    (world : World) : Host.Request → Option Action
  | .mounter call =>
      match (world.mounterFailures.take call.name).1 with
      | some _ => none
      | none => world.mounter.actionOf? world.tree call
  | _ => none

/- Nothing is recorded of any other request. -/
theorem actionOf?_of_other
    {request : Host.Request}
    (hOther : ∀ call, request ≠ .mounter call) :
    world.actionOf? request = none := by
  cases request with
  | mounter call => exact absurd rfl (hOther call)
  | _ => rfl

/- No other action than that of the request is recorded. -/
theorem log_of_answer
    (request : Host.Request)
    (world : World) :
    (answer request world).2.mounter.log =
      world.mounter.log ++ (world.actionOf? request).toList := by
  by_cases hMounter : ∃ call, request = .mounter call
  · rcases hMounter with ⟨call, rfl⟩
    change (world.callMounter call).2.mounter.log = _
    rcases hTake : world.mounterFailures.take call.name with
      ⟨failure, failures⟩
    simp only [callMounter, actionOf?, hTake]
    cases failure with
    | some error => exact (List.append_nil _).symm
    | none => exact Mounter.log_of_call call
  · have hOther : ∀ call, request ≠ .mounter call :=
      fun call hCall => hMounter ⟨call, hCall⟩
    rw [mounter_of_answer hOther, actionOf?_of_other hOther]
    exact (List.append_nil _).symm

/- What is recorded is what a call of the mounter records. -/
theorem call_of_action
    {request : Host.Request}
    {action : Action}
    (h : world.actionOf? request = some action) :
    ∃ call,
      request = .mounter call ∧
        world.mounter.actionOf? world.tree call = some action := by
  cases request with
  | mounter call =>
      rw [actionOf?] at h
      split at h
      · exact nomatch h
      · exact ⟨call, rfl, h⟩
  | _ => exact nomatch h

end World

end Memory

end BlockVolumes
