import BlockVolumes.Files.RawPath
import BlockVolumes.Proofs.Files.Names
import BlockVolumes.Proofs.Text.Pieces
import BlockVolumes.Proofs.Text.Utf8

/-
  Paths in bytes that are texts. A text is cut into components
  where its bytes are, so that two such paths are the same in
  bytes if and only if they are as texts, and messages show
  them as they are.

  Key definitions include:
    * `Text.byteChars`
    * `Text.bytewise`
    * `Path.Component.bytewise`

  Key theorems include:
    * `Text.splitAtEvery_bytewise`
    * `Path.components_bytewise`
    * `RawPath.same_raw_iff`
    * `RawPath.shown_ofText`
-/

namespace BlockVolumes

------------------------------------------------------------
-- Texts with a Character for Each Byte
------------------------------------------------------------

namespace Text

variable {bytes : List UInt8}
variable {n : Nat}
variable {c d : Char}
variable {s t : String}

/- The sequence of a small value is one byte. -/
theorem Sequence.eq_singleton_of_lt
    (h : Sequence bytes n)
    (hSmall : n < 0x80) :
    ∃ a : UInt8, bytes = [a] ∧ a.toNat = n := by
  cases h with
  | @one a hFirst => exact ⟨a, rfl, rfl⟩
  | two hLower hUpper hInner => omega
  | three hLower hUpper hFits hInner =>
      have hSecond := hFits.inner
      have hShortest := hFits.shortest
      unfold payload Inner at *
      omega
  | four hLower hUpper hFits hInner hInner' =>
      have hSecond := hFits.inner
      have hShortest := hFits.shortestLong
      unfold payload Inner at *
      omega

/- No byte of a longer sequence is a small one. -/
theorem Sequence.le_of_mem
    (h : Sequence bytes n)
    (hLarge : ¬ n < 0x80)
    {b : UInt8}
    (hMem : b ∈ bytes) :
    0x80 ≤ b.toNat := by
  cases h with
  | one hFirst => exact absurd hFirst hLarge
  | two hLower hUpper hInner =>
      simp only [List.mem_cons, List.not_mem_nil, or_false] at hMem
      unfold Inner at *
      rcases hMem with rfl | rfl <;> omega
  | three hLower hUpper hFits hInner =>
      have hSecond := hFits.inner
      simp only [List.mem_cons, List.not_mem_nil, or_false] at hMem
      unfold Inner at *
      rcases hMem with rfl | rfl | rfl <;> omega
  | four hLower hUpper hFits hInner hInner' =>
      have hSecond := hFits.inner
      simp only [List.mem_cons, List.not_mem_nil, or_false] at hMem
      unfold Inner at *
      rcases hMem with rfl | rfl | rfl | rfl <;> omega

/- The character with the value of a byte. -/
def ofByte
    (b : UInt8) : Char :=
  Char.ofNat b.toNat

theorem toNat_ofByte
    (b : UInt8) :
    (ofByte b).toNat = b.toNat := by
  have hByte : b.toNat < 256 := b.toNat_lt
  exact toNat_ofNat_of_isValidChar (.inl (by omega))

theorem ofByte_injective :
    Function.Injective ofByte := by
  intro a b h
  have hValue := congrArg Char.toNat h
  rw [toNat_ofByte, toNat_ofByte] at hValue
  exact UInt8.toNat_inj.mp hValue

/- The bytes of a character, each as a character. -/
def byteChars
    (c : Char) : List Char :=
  (String.utf8EncodeChar c).map ofByte

/- A text with a character for each of its bytes. -/
def bytewise
    (s : String) : String :=
  String.ofList (s.toList.flatMap byteChars)

theorem byteChars_ne_nil
    (c : Char) :
    byteChars c ≠ [] := by
  have hSequence := sequence_utf8EncodeChar c
  unfold byteChars
  generalize String.utf8EncodeChar c = bytes at *
  generalize c.toNat = value at hSequence
  cases hSequence <;> exact List.cons_ne_nil _ _

/- A character of one byte is written as itself. -/
theorem byteChars_of_lt
    (h : c.toNat < 0x80) :
    byteChars c = [c] := by
  rcases (sequence_utf8EncodeChar c).eq_singleton_of_lt h with
    ⟨a, hBytes, hValue⟩
  rw [byteChars, hBytes, List.map_singleton, ofByte, hValue,
    Char.ofNat_toNat]

/- A character of one byte is written only for itself. -/
theorem mem_byteChars_iff
    (h : d.toNat < 0x80) :
    d ∈ byteChars c ↔ d = c := by
  by_cases hSmall : c.toNat < 0x80
  · rw [byteChars_of_lt hSmall, List.mem_singleton]
  · constructor
    · intro hMem
      rcases List.mem_map.mp hMem with ⟨b, hByte, rfl⟩
      have hLarge :=
        (sequence_utf8EncodeChar c).le_of_mem hSmall hByte
      rw [toNat_ofByte] at h
      omega
    · rintro rfl
      exact absurd h hSmall

theorem bytewise_eq_map
    (s : String) :
    bytewise s =
      String.ofList
        ((s.toList.flatMap String.utf8EncodeChar).map ofByte) := by
  rw [bytewise, List.map_flatMap]
  rfl

/- No two texts have the same bytes. -/
theorem bytewise_injective :
    Function.Injective bytewise := by
  intro s t h
  rw [bytewise_eq_map, bytewise_eq_map, String.ofList_inj] at h
  have hBytes := ofByte_injective.list_map h
  have hDecoded := congrArg decodeBytes hBytes
  rw [decodeBytes_flatMap, decodeBytes_flatMap] at hDecoded
  have hSome : Function.Injective (some : Char → Option Char) :=
    fun _ _ => Option.some.inj
  exact String.toList_inj.mp (hSome.list_map hDecoded)

/- What is written in characters of one byte stays as it is. -/
theorem bytewise_of_lt
    (h : ∀ c ∈ s.toList, c.toNat < 0x80) :
    bytewise s = s := by
  have hSame : s.toList.flatMap byteChars = s.toList := by
    have hOne : ∀ c ∈ s.toList, byteChars c = [c] :=
      fun c hMem => byteChars_of_lt (h c hMem)
    rw [List.flatMap_congr hOne, List.flatMap_singleton']
  rw [bytewise, hSame, String.ofList_toList]

/- So a text that is written so has the same bytes as no other. -/
theorem bytewise_eq_iff
    (h : ∀ c ∈ t.toList, c.toNat < 0x80) :
    bytewise s = t ↔ s = t := by
  conv_lhs => rw [← bytewise_of_lt h]
  exact bytewise_injective.eq_iff

theorem mem_toList_bytewise_iff
    (h : d.toNat < 0x80) :
    d ∈ (bytewise s).toList ↔ d ∈ s.toList := by
  rw [bytewise, String.toList_ofList, List.mem_flatMap]
  simp [mem_byteChars_iff h]

/- A text and its bytes begin alike, if by a small character. -/
theorem head?_bytewise_iff
    (h : d.toNat < 0x80) :
    (bytewise s).toList.head? = some d ↔ s.toList.head? = some d := by
  rw [bytewise, String.toList_ofList]
  cases s.toList with
  | nil => rfl
  | cons c cs =>
      rw [List.flatMap_cons]
      by_cases hSmall : c.toNat < 0x80
      · rw [byteChars_of_lt hSmall]
        rfl
      · rcases List.exists_cons_of_ne_nil (byteChars_ne_nil c) with
          ⟨first, others, hFirst⟩
        have hMem : first ∈ byteChars c := by
          rw [hFirst]
          exact List.mem_cons_self
        have hOther : c ≠ d := by
          rintro rfl
          exact hSmall h
        have hFirstOther : first ≠ d := by
          rintro rfl
          exact hOther ((mem_byteChars_iff h).mp hMem).symm
        simp [hFirst, hOther, hFirstOther]

theorem bytewise_append
    (s t : String) :
    bytewise (s ++ t) = bytewise s ++ bytewise t := by
  rw [bytewise, String.toList_append, List.flatMap_append,
    String.ofList_append]
  rfl

theorem bytewise_joinWith
    (separator : String)
    (parts : List String) :
    bytewise (joinWith separator parts) =
      joinWith (bytewise separator) (parts.map bytewise) := by
  unfold joinWith
  induction parts with
  | nil => rfl
  | cons part parts ih =>
      cases parts with
      | nil => simp
      | cons next parts =>
          rw [List.map_cons, List.map_cons,
            String.intercalate_cons_cons,
            String.intercalate_cons_cons, bytewise_append,
            bytewise_append, ih, List.map_cons]

/- A text is cut where its bytes are. -/
theorem splitAtEvery_bytewise
    {separator : Char}
    (h : separator.toNat < 0x80)
    (s : String) :
    splitAtEvery separator (bytewise s) =
      (splitAtEvery separator s).map bytewise := by
  have hSeparator :
      bytewise (String.singleton separator) =
        String.singleton separator := by
    apply bytewise_of_lt
    simpa using h
  conv_lhs =>
    rw [← joinWith_splitAtEvery separator s, bytewise_joinWith,
      hSeparator]
  apply splitAtEvery_joinWith
  · intro part hPart hMem
    rcases List.mem_map.mp hPart with ⟨piece, hPiece, rfl⟩
    rw [mem_toList_bytewise_iff h] at hMem
    exact not_mem_of_mem_splitAtEvery hPiece hMem
  · simp [splitAtEvery, pieces_ne_nil]

end Text

------------------------------------------------------------
-- Components
------------------------------------------------------------

namespace Path

/- A component with a character for each byte of its name. -/
def Component.bytewise : Component → Component
  | .name text => .name (Text.bytewise text)
  | other => other

theorem Component.bytewise_injective :
    Function.Injective Component.bytewise := by
  intro a b h
  cases a <;> cases b <;> simp only [bytewise, reduceCtorEq] at h ⊢
  · rw [name.injEq] at h ⊢
    exact Text.bytewise_injective h

theorem componentOf?_bytewise
    (piece : String) :
    componentOf? (Text.bytewise piece) =
      (componentOf? piece).map Component.bytewise := by
  have hEmpty := @Text.bytewise_eq_iff piece "" (by simp)
  have hHere := @Text.bytewise_eq_iff piece "." (by simp)
  have hUp := @Text.bytewise_eq_iff piece ".." (by simp)
  by_cases hIsEmpty : piece = ""
  · rw [hEmpty.mpr hIsEmpty, hIsEmpty]
    rfl
  by_cases hIsHere : piece = "."
  · rw [hHere.mpr hIsHere, hIsHere]
    rfl
  by_cases hIsUp : piece = ".."
  · rw [hUp.mpr hIsUp, hIsUp]
    rfl
  rw [componentOf?_of_ne hIsEmpty hIsHere hIsUp,
    componentOf?_of_ne (mt hEmpty.mp hIsEmpty)
      (mt hHere.mp hIsHere) (mt hUp.mp hIsUp)]
  rfl

theorem bytewise_raw
    (path : Path) :
    path.raw.bytewise = ⟨Text.bytewise path.text⟩ := by
  rw [Text.bytewise_eq_map]
  rfl

theorem pieces_bytewise
    (path : Path) :
    path.raw.bytewise.pieces = path.pieces.map Text.bytewise := by
  rw [bytewise_raw]
  exact Text.splitAtEvery_bytewise (by decide) path.text

theorem isAbsolute_bytewise
    (path : Path) :
    path.raw.bytewise.isAbsolute = path.isAbsolute := by
  have hHead :=
    @Text.head?_bytewise_iff '/' path.text (by decide)
  rw [bytewise_raw, isAbsolute, isAbsolute, Bool.eq_iff_iff,
    beq_iff_eq, beq_iff_eq]
  exact hHead

/- The components of the bytes are those of the text, in bytes. -/
theorem components_bytewise
    (path : Path) :
    path.raw.bytewise.components =
      path.components.map Component.bytewise := by
  have hRest :
      (path.pieces.map Text.bytewise).filterMap componentOf? =
        (path.pieces.filterMap componentOf?).map
          Component.bytewise := by
    rw [List.filterMap_map, List.map_filterMap]
    exact List.filterMap_congr fun piece _ =>
      componentOf?_bytewise piece
  have hHere :
      (path.pieces.map Text.bytewise).head? = some "." ↔
        path.pieces.head? = some "." := by
    rw [List.head?_map, Option.map_eq_some_iff]
    simp only [Text.bytewise_eq_iff (t := ".") (by simp),
      exists_eq_right]
  unfold components
  rw [isAbsolute_bytewise, pieces_bytewise, hRest]
  simp only [hHere]
  split
  · rfl
  · split <;> rfl

end Path

------------------------------------------------------------
-- Paths in Bytes
------------------------------------------------------------

namespace RawPath

variable {p q : Path}

/- Two texts are the same path in bytes if they are as texts. -/
theorem same_raw_iff :
    Same p.raw q.raw ↔ Path.Same p q := by
  unfold Same Path.Same
  rw [Path.components_bytewise, Path.components_bytewise]
  exact (List.map_injective_iff.mpr
    Path.Component.bytewise_injective).eq_iff

/- A text is shown as it is. -/
theorem shown_ofText
    (text : String) :
    (ofText text).shown = text := by
  unfold shown ofText Text.ofBytesLossy
  rw [Text.decodeBytes_flatMap, List.map_map]
  exact (congrArg String.ofList (List.map_id _)).trans
    String.ofList_toList

theorem bytes_ofText_append
    (text more : String) :
    (ofText (text ++ more)).bytes =
      (ofText text).bytes ++ (ofText more).bytes := by
  rw [ofText, String.toList_append, List.flatMap_append]
  rfl

/- The paths that are texts are those in UTF-8. -/
theorem exists_eq_ofText_iff
    {path : RawPath} :
    (∃ text, path = ofText text) ↔
      path.bytes.toByteArray.IsValidUTF8 := by
  have hText :
      ∀ text,
        path = ofText text ↔
          Text.ofBytes? path.bytes = some text := by
    intro text
    rw [Text.ofBytes?_eq_some_iff, String.toUTF8_eq_toByteArray,
      ← String.utf8Encode_toList, List.utf8Encode,
      List.toByteArray_inj]
    rcases path with ⟨bytes⟩
    rw [ofText, mk.injEq]
    exact eq_comm
  simp only [hText, Text.exists_ofBytes?_eq_some_iff]

end RawPath

end BlockVolumes
