import BlockVolumes.Text.Utf8
import Mathlib.Data.List.Basic
import Mathlib.Tactic.MkIffOfInductiveProp

/-
  Which byte strings are texts: those that the standard library
  encodes a text as, and no others.

  Key definitions include:
    * `Text.Sequence`

  Key theorems include:
    * `Text.Sequence.utf8EncodeChar_ofNat`
    * `Text.sequence_utf8EncodeChar`
    * `Text.Sequence.decodeBytes_append`
    * `Text.exists_sequence_of_decodeBytes`
    * `Text.ofBytes?_eq_some_iff`
    * `Text.exists_ofBytes?_eq_some_iff`
-/

namespace BlockVolumes

namespace Text

variable {a b : UInt8}
variable {bytes rest : List UInt8}
variable {n : Nat}

------------------------------------------------------------
-- Sequences
------------------------------------------------------------

/- Whether a byte is one inside a sequence. -/
def Inner
    (b : UInt8) : Prop :=
  0x80 ≤ b.toNat ∧ b.toNat ≤ 0xbf

/-
  Whether a second byte fits a first one. A smaller one would
  make the sequence longer than needed, a greater one would
  give a surrogate or a value above the last character.
-/
@[mk_iff]
structure Fits
    (a b : UInt8) : Prop where
  inner : Inner b
  shortest : a.toNat = 0xe0 → 0xa0 ≤ b.toNat
  noSurrogate : a.toNat = 0xed → b.toNat ≤ 0x9f
  shortestLong : a.toNat = 0xf0 → 0x90 ≤ b.toNat
  inRange : a.toNat = 0xf4 → b.toNat ≤ 0x8f

/- Whether bytes are the sequence of the character of a value. -/
inductive Sequence : List UInt8 → Nat → Prop where
  | one
      {a : UInt8}
      (hFirst : a.toNat < 0x80) :
      Sequence [a] a.toNat
  | two
      {a b : UInt8}
      (hLower : 0xc2 ≤ a.toNat)
      (hUpper : a.toNat ≤ 0xdf)
      (hInner : Inner b) :
      Sequence [a, b] ((a.toNat - 0xc0) * 64 + payload b)
  | three
      {a b c : UInt8}
      (hLower : 0xe0 ≤ a.toNat)
      (hUpper : a.toNat ≤ 0xef)
      (hFits : Fits a b)
      (hInner : Inner c) :
      Sequence [a, b, c]
        (((a.toNat - 0xe0) * 64 + payload b) * 64 + payload c)
  | four
      {a b c d : UInt8}
      (hLower : 0xf0 ≤ a.toNat)
      (hUpper : a.toNat ≤ 0xf4)
      (hFits : Fits a b)
      (hInner : Inner c)
      (hInner' : Inner d) :
      Sequence [a, b, c, d]
        ((((a.toNat - 0xf0) * 64 + payload b) * 64 + payload c) * 64
          + payload d)

theorem isContinuation_iff :
    isContinuation b = true ↔ Inner b := by
  simp [isContinuation, Inner, UInt8.le_iff_toNat_le]

theorem mayFollow_iff :
    mayFollow a b = true ↔ Fits a b := by
  rw [fits_iff, mayFollow]
  simp only [isContinuation, Inner, beq_iff_eq, ← UInt8.toNat_inj,
    UInt8.reduceToNat]
  split
  · next hFirst =>
      simp [hFirst, UInt8.le_iff_toNat_le]
      omega
  · next hShortest =>
      split
      · next hFirst =>
          simp [hFirst, UInt8.le_iff_toNat_le]
          omega
      · next hSurrogate =>
          split
          · next hFirst =>
              simp [hFirst, UInt8.le_iff_toNat_le]
              omega
          · next hLong =>
              split
              · next hFirst =>
                  simp [hFirst, UInt8.le_iff_toNat_le]
                  omega
              · next hLast =>
                  simp [hShortest, hSurrogate, hLong, hLast,
                    UInt8.le_iff_toNat_le]

theorem toNat_ofNat_of_isValidChar
    (hValid : n.isValidChar) :
    (Char.ofNat n).val.toNat = n := by
  rw [Char.ofNat, dif_pos hValid]
  rfl

theorem Sequence.isValidChar
    (h : Sequence bytes n) :
    n.isValidChar := by
  unfold Nat.isValidChar
  cases h with
  | one hFirst => omega
  | two hLower hUpper hInner =>
      unfold payload Inner at *
      omega
  | three hLower hUpper hFits hInner =>
      have hSecond := hFits.inner
      have hSurrogate := hFits.noSurrogate
      unfold payload Inner at *
      omega
  | four hLower hUpper hFits hInner hInner' =>
      have hSecond := hFits.inner
      have hLong := hFits.shortestLong
      have hRange := hFits.inRange
      unfold payload Inner at *
      omega

/- A value has one sequence, in which it is encoded. -/
theorem Sequence.utf8EncodeChar_ofNat
    (h : Sequence bytes n) :
    String.utf8EncodeChar (Char.ofNat n) = bytes := by
  have hVal := toNat_ofNat_of_isValidChar h.isValidChar
  unfold String.utf8EncodeChar
  rw [hVal]
  clear hVal
  cases h with
  | one hFirst =>
      dsimp only
      rw [if_pos (by omega), UInt8.ofNat_toNat]
  | two hLower hUpper hInner =>
      unfold payload Inner at *
      dsimp only
      rw [if_neg (by omega), if_pos (by omega)]
      simp only [← UInt8.toNat_inj, List.cons.injEq,
        UInt8.toNat_ofNat', and_true]
      omega
  | three hLower hUpper hFits hInner =>
      have hSecond := hFits.inner
      have hShortest := hFits.shortest
      unfold payload Inner at *
      dsimp only
      rw [if_neg (by omega), if_neg (by omega), if_pos (by omega)]
      simp only [← UInt8.toNat_inj, List.cons.injEq,
        UInt8.toNat_ofNat', and_true]
      omega
  | four hLower hUpper hFits hInner hInner' =>
      have hSecond := hFits.inner
      have hShortest := hFits.shortestLong
      unfold payload Inner at *
      dsimp only
      rw [if_neg (by omega), if_neg (by omega), if_neg (by omega)]
      simp only [← UInt8.toNat_inj, List.cons.injEq,
        UInt8.toNat_ofNat', and_true]
      omega

theorem Sequence.of_eq
    {m : Nat}
    (h : Sequence bytes m)
    (hSame : m = n) :
    Sequence bytes n :=
  hSame ▸ h

/- The encoding of a character is the sequence of its value. -/
theorem sequence_utf8EncodeChar
    (c : Char) :
    Sequence (String.utf8EncodeChar c) c.toNat := by
  have hValid :
      c.toNat < 0xd800 ∨ 0xdfff < c.toNat ∧ c.toNat < 0x110000 :=
    c.valid
  have hVal : c.val.toNat = c.toNat := rfl
  unfold String.utf8EncodeChar
  rw [hVal]
  clear hVal
  dsimp only
  generalize c.toNat = n at *
  split
  · apply Sequence.of_eq (.one ?_)
    all_goals
      simp only [UInt8.toNat_ofNat']
      omega
  · split
    · apply Sequence.of_eq (.two ?_ ?_ ?_)
      all_goals
        simp only [payload, Inner, UInt8.toNat_ofNat']
        omega
    · split
      · apply Sequence.of_eq (.three ?_ ?_ ⟨?_, ?_, ?_, ?_, ?_⟩ ?_)
        all_goals
          simp only [payload, Inner, UInt8.toNat_ofNat']
          omega
      · apply Sequence.of_eq (.four ?_ ?_ ⟨?_, ?_, ?_, ?_, ?_⟩ ?_ ?_)
        all_goals
          simp only [payload, Inner, UInt8.toNat_ofNat']
          omega

/- A sequence is decoded to its character. -/
theorem Sequence.decodeBytes_append
    (h : Sequence bytes n)
    (rest : List UInt8) :
    decodeBytes (bytes ++ rest) =
      some (Char.ofNat n) :: decodeBytes rest := by
  cases h with
  | one hFirst =>
      rw [decodeBytes.eq_def]
      simp [UInt8.lt_iff_toNat_lt, hFirst]
  | @two a b hLower hUpper hInner =>
      have hLong : ¬ a.toNat < 0x80 := by omega
      rw [← isContinuation_iff] at hInner
      rw [decodeBytes.eq_def]
      simp [UInt8.lt_iff_toNat_lt, UInt8.le_iff_toNat_le, hLong,
        hLower, hUpper, hInner]
  | @three a b c hLower hUpper hFits hInner =>
      have hLong : ¬ a.toNat < 0x80 := by omega
      have hLonger : ¬ a.toNat ≤ 0xdf := by omega
      rw [← mayFollow_iff] at hFits
      rw [← isContinuation_iff] at hInner
      rw [decodeBytes.eq_def]
      simp [UInt8.lt_iff_toNat_lt, UInt8.le_iff_toNat_le, hLong,
        hLonger, hLower, hUpper, hFits, hInner]
  | @four a b c d hLower hUpper hFits hInner hInner' =>
      have hLong : ¬ a.toNat < 0x80 := by omega
      have hLonger : ¬ a.toNat ≤ 0xdf := by omega
      have hLongest : ¬ a.toNat ≤ 0xef := by omega
      rw [← mayFollow_iff] at hFits
      rw [← isContinuation_iff] at hInner hInner'
      rw [decodeBytes.eq_def]
      simp [UInt8.lt_iff_toNat_lt, UInt8.le_iff_toNat_le, hLong,
        hLonger, hLongest, hLower, hUpper, hFits, hInner, hInner']

theorem toNat_between
    {lower upper : UInt8}
    (h : (lower ≤ a && a ≤ upper) = true) :
    lower.toNat ≤ a.toNat ∧ a.toNat ≤ upper.toNat := by
  simpa [UInt8.le_iff_toNat_le] using h

/- What is decoded to a character first begins with a sequence. -/
theorem exists_sequence_of_decodeBytes
    {c : Char}
    {more : List (Option Char)}
    (h : decodeBytes bytes = some c :: more) :
    ∃ first n rest,
      bytes = first ++ rest ∧ Sequence first n ∧
        c = Char.ofNat n ∧ decodeBytes rest = more := by
  revert h
  fun_cases decodeBytes bytes
  case case2 a rest hFirst =>
    rintro ⟨⟩
    exact ⟨[a], _, rest, rfl, .one hFirst, rfl, rfl⟩
  case case4 a _ hRange b rest hInner =>
    rintro ⟨⟩
    rcases toNat_between hRange with ⟨hLower, hUpper⟩
    rw [isContinuation_iff] at hInner
    exact ⟨[a, b], _, rest, rfl, .two hLower hUpper hInner,
      rfl, rfl⟩
  case case8 a _ _ hRange b hFits c rest hInner =>
    rintro ⟨⟩
    rcases toNat_between hRange with ⟨hLower, hUpper⟩
    rw [mayFollow_iff] at hFits
    rw [isContinuation_iff] at hInner
    exact ⟨[a, b, c], _, rest, rfl,
      .three hLower hUpper hFits hInner, rfl, rfl⟩
  case case14 a _ _ _ hRange b hFits c hInner d rest hInner' =>
    rintro ⟨⟩
    rcases toNat_between hRange with ⟨hLower, hUpper⟩
    rw [mayFollow_iff] at hFits
    rw [isContinuation_iff] at hInner hInner'
    exact ⟨[a, b, c, d], _, rest, rfl,
      .four hLower hUpper hFits hInner hInner', rfl, rfl⟩
  -- The other ways through end in a malformed piece.
  all_goals exact nofun

------------------------------------------------------------
-- Texts
------------------------------------------------------------

theorem eq_nil_of_decodeBytes
    (h : decodeBytes bytes = []) :
    bytes = [] := by
  revert h
  fun_cases decodeBytes bytes
  case case1 => exact fun _ => rfl
  all_goals exact nofun

theorem decodeBytes_flatMap
    (cs : List Char) :
    decodeBytes (cs.flatMap String.utf8EncodeChar) =
      cs.map some := by
  induction cs with
  | nil => rw [List.flatMap_nil, decodeBytes, List.map_nil]
  | cons c cs ih =>
      rw [List.flatMap_cons,
        (sequence_utf8EncodeChar c).decodeBytes_append, ih,
        Char.ofNat_toNat, List.map_cons]

/- Bytes that are decoded without a loss are encoded characters. -/
theorem decodeBytes_eq_map_some_iff
    {cs : List Char} :
    decodeBytes bytes = cs.map some ↔
      bytes = cs.flatMap String.utf8EncodeChar := by
  constructor
  · intro h
    induction cs generalizing bytes with
    | nil => exact eq_nil_of_decodeBytes h
    | cons c cs ih =>
        rcases exists_sequence_of_decodeBytes h with
          ⟨first, n, rest, rfl, hFirst, rfl, hRest⟩
        rw [List.flatMap_cons, hFirst.utf8EncodeChar_ofNat, ih hRest]
  · rintro rfl
    exact decodeBytes_flatMap cs

theorem mapM_id_eq_some_iff
    {α : Type}
    {read : List (Option α)}
    {as : List α} :
    read.mapM id = some as ↔ read = as.map some := by
  induction read generalizing as with
  | nil => cases as <;> simp
  | cons a read ih =>
      cases as with
      | nil => simp [List.mapM_cons, Option.bind_eq_some_iff]
      | cons first rest =>
          rw [List.mapM_cons, List.map_cons, List.cons.injEq, ← ih]
          simp [Option.bind_eq_some_iff]

/- The bytes of a text are those that it is encoded as. -/
theorem ofBytes?_eq_some_iff
    {text : String} :
    ofBytes? bytes = some text ↔ text.toUTF8 = bytes.toByteArray := by
  have hDecode :
      ofBytes? bytes = some text ↔
        (decodeBytes bytes).mapM id = some text.toList := by
    rw [ofBytes?, Option.map_eq_some_iff]
    constructor
    · rintro ⟨cs, hCs, rfl⟩
      rw [hCs, String.toList_ofList]
    · intro hCs
      exact ⟨_, hCs, String.ofList_toList⟩
  rw [hDecode, mapM_id_eq_some_iff, decodeBytes_eq_map_some_iff,
    String.toUTF8_eq_toByteArray, ← String.utf8Encode_toList,
    List.utf8Encode, List.toByteArray_inj]
  exact eq_comm

/- The byte strings of texts are the well formed ones. -/
theorem exists_ofBytes?_eq_some_iff :
    (∃ text, ofBytes? bytes = some text) ↔
      bytes.toByteArray.IsValidUTF8 := by
  simp only [ofBytes?_eq_some_iff, String.toUTF8_eq_toByteArray]
  constructor
  · rintro ⟨text, hText⟩
    rw [← hText]
    exact text.isValidUTF8
  · intro hValid
    exact ⟨⟨bytes.toByteArray, hValid⟩, rfl⟩

end Text

end BlockVolumes
