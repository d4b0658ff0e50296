import BlockVolumes.Proofs.Files.Names
import BlockVolumes.Service.Device

/-
  Which volumes share a device. The name of a device tells
  whether the type of its volume is premium, and as much of the
  identifier as gets through. So two volumes share a device only
  where what is cut off would have told them apart.

  Key theorems include:
    * `Service.Device.isName_name`
    * `Service.Device.name_eq_iff`
    * `Service.Device.path_same_iff_name_eq`
    * `Service.Device.paths_collide_where_cut`
-/

namespace BlockVolumes

namespace Service

namespace Device

variable {premium : Pattern}
variable {volumeId otherId diskType otherType : String}

------------------------------------------------------------
-- Names of Devices
------------------------------------------------------------

theorem name_of_premium
    (h : premium.occursIn diskType = true) :
    name premium volumeId diskType = "nvme-" ++ volumeId := by
  rw [name, if_pos h]

theorem name_of_not_premium
    (h : premium.occursIn diskType = false) :
    name premium volumeId diskType =
      "virtio-" ++
        String.ofList (volumeId.toList.take serialLength) := by
  rw [name, if_neg (by simp [h])]

/- The beginning of a name tells the kinds of devices apart. -/
theorem nvme_ne_virtio
    (first second : String) :
    "nvme-" ++ first ≠ "virtio-" ++ second := by
  intro h
  rw [← String.toList_inj, String.toList_append,
    String.toList_append] at h
  exact absurd (List.cons.inj h).1 (by decide)

/- The name of a device begins with a letter. -/
theorem head?_name
    (premium : Pattern)
    (volumeId diskType : String) :
    ∃ c rest,
      (name premium volumeId diskType).toList = c :: rest ∧
        (c = 'n' ∨ c = 'v') := by
  cases hPremium : premium.occursIn diskType with
  | true =>
      rw [name_of_premium hPremium, String.toList_append]
      exact ⟨_, _, rfl, .inl rfl⟩
  | false =>
      rw [name_of_not_premium hPremium, String.toList_append]
      exact ⟨_, _, rfl, .inr rfl⟩

/- A slash in the name comes from the identifier. -/
theorem slash_not_mem_name
    (hWhole : '/' ∉ volumeId.toList) :
    '/' ∉ (name premium volumeId diskType).toList := by
  cases hPremium : premium.occursIn diskType with
  | true =>
      rw [name_of_premium hPremium, String.toList_append,
        List.mem_append, not_or]
      exact ⟨by decide, hWhole⟩
  | false =>
      rw [name_of_not_premium hPremium, String.toList_append,
        List.mem_append, not_or]
      refine ⟨by decide, fun hCut => hWhole ?_⟩
      rw [String.toList_ofList] at hCut
      exact List.mem_of_mem_take hCut

/- A device is a file of its directory. -/
theorem isName_name
    (hWhole : '/' ∉ volumeId.toList) :
    Path.IsName (name premium volumeId diskType) := by
  rcases head?_name premium volumeId diskType with
    ⟨c, rest, hName, hLetter⟩
  have hOther :
      ∀ s : String, s.toList.head? = none ∨ s.toList.head? = some '.' →
        name premium volumeId diskType ≠ s := by
    rintro _ hHead rfl
    rw [hName] at hHead
    rcases hLetter with rfl | rfl <;> simp at hHead
  exact
    { nonempty := hOther "" (.inl rfl)
      notHere := hOther "." (.inr rfl)
      notUp := hOther ".." (.inr rfl)
      whole := slash_not_mem_name hWhole }

/-
  The names of devices are the same if the volumes are of the
  same kind, and what gets through of their identifiers is.
-/
theorem name_eq_iff :
    name premium volumeId diskType =
        name premium otherId otherType ↔
      (premium.occursIn diskType = true ∧
        premium.occursIn otherType = true ∧ volumeId = otherId) ∨
      (premium.occursIn diskType = false ∧
        premium.occursIn otherType = false ∧
        volumeId.toList.take serialLength =
          otherId.toList.take serialLength) := by
  cases hFirst : premium.occursIn diskType with
  | true =>
      rw [name_of_premium hFirst]
      cases hSecond : premium.occursIn otherType with
      | true =>
          rw [name_of_premium hSecond, String.append_right_inj]
          simp
      | false =>
          rw [name_of_not_premium hSecond]
          simp [nvme_ne_virtio]
  | false =>
      rw [name_of_not_premium hFirst]
      cases hSecond : premium.occursIn otherType with
      | true =>
          rw [name_of_premium hSecond]
          simp [Ne.symm (nvme_ne_virtio _ _)]
      | false =>
          rw [name_of_not_premium hSecond, String.append_right_inj,
            String.ofList_inj]
          simp

------------------------------------------------------------
-- Paths of Devices
------------------------------------------------------------

/- The path of a device leads through the device directory. -/
theorem path_eq_ofNames
    (hWhole : '/' ∉ volumeId.toList) :
    path premium volumeId diskType =
      Path.ofNames
        ["dev", "disk", "by-id", name premium volumeId diskType] := by
  have hRelative :
      (Path.mk (name premium volumeId diskType)).isAbsolute =
        false := by
    rw [Path.isAbsolute, beq_eq_false_iff_ne]
    intro hSlash
    exact slash_not_mem_name hWhole (List.mem_of_head? hSlash)
  have hOpen :
      ¬ (directory.text.isEmpty ||
        directory.text.toList.getLast? == some '/') = true := by
    decide
  rw [path, Path.join, if_neg (by simp [hRelative]), if_neg hOpen,
    Path.ofNames, Path.mk.injEq, ← String.toList_inj]
  simp [directory]

/- Paths of devices are the same if the names of the devices are. -/
theorem path_same_iff_name_eq
    (hWhole : '/' ∉ volumeId.toList)
    (hOther : '/' ∉ otherId.toList) :
    Path.Same (path premium volumeId diskType)
        (path premium otherId otherType) ↔
      name premium volumeId diskType =
        name premium otherId otherType := by
  have hNames :
      ∀ device, Path.IsName device →
        ∀ part ∈ ["dev", "disk", "by-id", device],
          Path.IsName part := by
    intro device hDevice
    simp only [List.forall_mem_cons, List.not_mem_nil]
    refine ⟨?_, ?_, ?_, hDevice, nofun⟩ <;>
      constructor <;> decide
  rw [path_eq_ofNames hWhole, path_eq_ofNames hOther,
    Path.ofNames_same_iff (hNames _ (isName_name hWhole))
      (hNames _ (isName_name hOther))]
  simp

/-
  Volumes share a device if both are premium and are the same,
  or if neither is and their identifiers agree in all that gets
  through. So short identifiers never do, nor does a premium
  volume with one that is not.
-/
theorem paths_collide_where_cut
    (premium : Pattern)
    (volumeId otherId diskType otherType : String)
    (hWhole : '/' ∉ volumeId.toList)
    (hOther : '/' ∉ otherId.toList) :
    (Path.Same (path premium volumeId diskType)
        (path premium otherId otherType) ↔
      (premium.occursIn diskType = true ∧
        premium.occursIn otherType = true ∧ volumeId = otherId) ∨
      (premium.occursIn diskType = false ∧
        premium.occursIn otherType = false ∧
        volumeId.toList.take 20 = otherId.toList.take 20)) ∧
    (volumeId.length ≤ 20 → otherId.length ≤ 20 →
      volumeId ≠ otherId →
        ¬ Path.Same (path premium volumeId diskType)
          (path premium otherId otherType)) ∧
    (premium.occursIn diskType ≠ premium.occursIn otherType →
      ¬ Path.Same (path premium volumeId diskType)
        (path premium otherId otherType)) := by
  have hSame :
      Path.Same (path premium volumeId diskType)
          (path premium otherId otherType) ↔ _ :=
    (path_same_iff_name_eq hWhole hOther).trans name_eq_iff
  refine ⟨hSame, ?_, ?_⟩
  · intro hShort hShortOther hDistinct hCollide
    apply hDistinct
    rcases hSame.mp hCollide with ⟨_, _, hId⟩ | ⟨_, _, hStart⟩
    · exact hId
    · -- Nothing is cut off an identifier of this length.
      rw [serialLength, List.take_of_length_le hShort,
        List.take_of_length_le hShortOther] at hStart
      exact String.toList_inj.mp hStart
  · intro hKinds hCollide
    apply hKinds
    rcases hSame.mp hCollide with
      ⟨hFirst, hSecond, _⟩ | ⟨hFirst, hSecond, _⟩
    · rw [hFirst, hSecond]
    · rw [hFirst, hSecond]

/-
  Two identifiers that differ after the twentieth character,
  with types that the pattern tells apart.
-/
theorem paths_collide_where_cut_long_identifiers :
    let premium :=
      (Pattern.parse? "^(rssd|essd)").getD Pattern.empty
    let first := "vol-0123456789abcdefghij"
    let second := "vol-0123456789abcdefghik"
    '/' ∉ first.toList ∧ '/' ∉ second.toList ∧
      premium.occursIn "rssd" = true ∧
      premium.occursIn "cloud_ssd" = false ∧
      Path.Same (path premium first "cloud_ssd")
        (path premium second "cloud_ssd") ∧
      ¬ Path.Same (path premium first "rssd")
        (path premium second "rssd") ∧
      ¬ Path.Same (path premium first "rssd")
        (path premium first "cloud_ssd") := by
  intro premium first second
  have hFirst : '/' ∉ first.toList := by
    decide
  have hSecond : '/' ∉ second.toList := by
    decide
  have hPremium : premium.occursIn "rssd" = true := by
    decide +kernel
  have hPlain : premium.occursIn "cloud_ssd" = false := by
    decide +kernel
  refine ⟨hFirst, hSecond, hPremium, hPlain, ?_, ?_, ?_⟩
  · rw [(paths_collide_where_cut premium first second "cloud_ssd"
      "cloud_ssd" hFirst hSecond).1]
    exact .inr ⟨hPlain, hPlain, by decide⟩
  · rw [(paths_collide_where_cut premium first second "rssd"
      "rssd" hFirst hSecond).1]
    rintro (⟨_, _, hSame⟩ | ⟨hNot, _⟩)
    · exact absurd hSame (by decide)
    · exact absurd (hPremium.symm.trans hNot) (by decide)
  · apply (paths_collide_where_cut premium first first "rssd"
      "cloud_ssd" hFirst hFirst).2.2
    rw [hPremium, hPlain]
    decide

end Device

end Service

end BlockVolumes
