import BlockVolumes.Proofs.Text.Pieces

/-
  The words and the lines of a text, by a grammar that says how
  a text is made up of them. Each text has exactly one list of
  words and one list of lines.

  Key definitions include:
    * `Text.IsWord`
    * `Text.Spaced`
    * `Text.Lined`

  Key theorems include:
    * `Text.Spaced.wordPieces`
    * `Text.words_eq_iff`
    * `Text.Lined.finishLines`
    * `Text.lines_eq_iff`
-/

namespace BlockVolumes

namespace Text

variable {cs gap word rest : List Char}
variable {items : List (List Char)}

------------------------------------------------------------
-- Words
------------------------------------------------------------

/- No blank is among the visible characters of ASCII. -/
theorem isBlank_of_visible
    {c : Char}
    (hLower : 0x21 ≤ c.toNat)
    (hUpper : c.toNat ≤ 0x7e) :
    isBlank c = false := by
  simp only [isBlank, Bool.or_eq_false_iff, Bool.and_eq_false_iff,
    beq_eq_false_iff_ne, decide_eq_false_iff_not, Char.le_def,
    UInt32.le_iff_toNat_le, ne_eq, ← Char.toNat_inj, Char.toNat_val]
  simp only [Char.reduceToNat]
  omega

/- Whether characters are blanks only. -/
def IsGap
    (gap : List Char) : Prop :=
  ∀ c ∈ gap, isBlank c = true

/- Whether characters make a word, in which no blank stands. -/
structure IsWord
    (word : List Char) : Prop where
  nonempty : word ≠ []
  whole : ∀ c ∈ word, isBlank c = false

instance
    (word : List Char) :
    Decidable (IsWord word) :=
  decidable_of_iff
    (word ≠ [] ∧ word.all (! isBlank ·) = true)
    ⟨fun ⟨hSome, hWhole⟩ => ⟨hSome, by simpa using hWhole⟩,
      fun h => ⟨h.nonempty, by simpa using h.whole⟩⟩

/-
  Whether a text is made up of words and gaps. There may be a
  gap before the first word and behind the last one, and there
  has to be one between two words.
-/
inductive Spaced : List (List Char) → List Char → Prop where
  | nil
      {gap : List Char}
      (hGap : IsGap gap) :
      Spaced [] gap
  | cons
      {gap word rest : List Char}
      {items : List (List Char)}
      (hGap : IsGap gap)
      (hWord : IsWord word)
      (hApart : ∀ c ∈ rest.head?, isBlank c = true)
      (hRest : Spaced items rest) :
      Spaced (word :: items) (gap ++ word ++ rest)

/- The pieces between blanks in which there is something. -/
def wordPieces
    (cs : List Char) : List (List Char) :=
  (pieces isBlank cs).filter (! ·.isEmpty)

theorem wordPieces_gap_append
    (hGap : IsGap gap)
    (cs : List Char) :
    wordPieces (gap ++ cs) = wordPieces cs := by
  induction gap with
  | nil => rfl
  | cons c gap ih =>
      unfold IsGap at hGap
      rw [List.forall_mem_cons] at hGap
      rw [← ih hGap.2, wordPieces, List.cons_append, pieces,
        if_pos hGap.1]
      rfl

theorem wordPieces_word_append
    (hWord : IsWord word)
    (hApart : ∀ c ∈ rest.head?, isBlank c = true) :
    wordPieces (word ++ rest) = word :: wordPieces rest := by
  have hKept : (! word.isEmpty) = true := by
    simpa using hWord.nonempty
  unfold wordPieces
  cases rest with
  | nil =>
      rw [List.append_nil, pieces_eq_splitOnP,
        List.splitOnP_eq_singleton hWord.whole]
      simp [hKept, pieces]
  | cons c rest =>
      have hBlank : isBlank c = true := hApart c rfl
      rw [pieces_eq_splitOnP,
        List.splitOnP_append_cons_of_forall_mem hWord.whole c hBlank,
        ← pieces_eq_splitOnP, pieces, if_pos hBlank]
      simp [hKept]

theorem Spaced.wordPieces
    (h : Spaced items cs) :
    wordPieces cs = items := by
  induction h with
  | @nil gap hGap =>
      rw [← List.append_nil gap, wordPieces_gap_append hGap]
      rfl
  | cons hGap hWord hApart hRest ih =>
      rw [List.append_assoc, wordPieces_gap_append hGap,
        wordPieces_word_append hWord hApart, ih]

/- What stands before the first word may be longer. -/
theorem Spaced.gap_append
    (hGap : IsGap gap)
    (h : Spaced items cs) :
    Spaced items (gap ++ cs) := by
  cases h with
  | nil hRest =>
      exact .nil (List.forall_mem_append.mpr ⟨hGap, hRest⟩)
  | @cons start word rest items hStart hWord hApart hRest =>
      have hMore : IsGap (gap ++ start) :=
        List.forall_mem_append.mpr ⟨hGap, hStart⟩
      rw [← List.append_assoc, ← List.append_assoc]
      exact .cons hMore hWord hApart hRest

/- A word may stand at the very beginning. -/
theorem Spaced.word_append
    (hWord : IsWord word)
    (hApart : ∀ c ∈ rest.head?, isBlank c = true)
    (h : Spaced items rest) :
    Spaced (word :: items) (word ++ rest) :=
  @Spaced.cons [] word rest items nofun hWord hApart h

/- One more character goes to the first gap or the first word. -/
theorem exists_spaced
    (cs : List Char) :
    ∃ items, Spaced items cs := by
  induction cs with
  | nil => exact ⟨[], .nil nofun⟩
  | cons c cs ih =>
      rcases ih with ⟨items, hItems⟩
      by_cases hBlank : isBlank c = true
      · have hGap : IsGap [c] := by
          simpa [IsGap] using hBlank
        exact ⟨items, hItems.gap_append hGap⟩
      · rw [Bool.not_eq_true] at hBlank
        have hSingle : IsWord [c] := ⟨by simp, by simpa using hBlank⟩
        cases hItems with
        | nil hGap =>
            refine ⟨[[c]], Spaced.word_append hSingle ?_ (.nil hGap)⟩
            intro d hHead
            exact hGap d (List.mem_of_mem_head? hHead)
        | @cons gap word rest items hGap hWord hApart hRest =>
            cases gap with
            | nil =>
                have hMore : IsWord (c :: word) :=
                  ⟨by simp,
                    List.forall_mem_cons.mpr ⟨hBlank, hWord.whole⟩⟩
                exact ⟨_, Spaced.word_append hMore hApart hRest⟩
            | cons d gap =>
                refine ⟨[c] :: word :: items,
                  Spaced.word_append hSingle ?_
                    (.cons hGap hWord hApart hRest)⟩
                rintro _ ⟨⟩
                exact hGap d List.mem_cons_self

theorem spaced_iff :
    Spaced items cs ↔ wordPieces cs = items := by
  constructor
  · exact Spaced.wordPieces
  · rintro rfl
    rcases exists_spaced cs with ⟨items, hItems⟩
    rwa [hItems.wordPieces]

/- The words of a text are those that it is made up of. -/
theorem words_eq_iff
    {s : String}
    {ws : List String} :
    words s = ws ↔ Spaced (ws.map String.toList) s.toList := by
  have hWords : words s = (wordPieces s.toList).map String.ofList :=
    rfl
  rw [spaced_iff, hWords]
  constructor
  · rintro rfl
    simp
  · intro h
    rw [h]
    simp

------------------------------------------------------------
-- Lines
------------------------------------------------------------

/-
  Whether a text is made up of lines. A line ends with a line
  feed, which may have a carriage return in front. The last
  line needs no end if it is not empty.
-/
inductive Lined : List (List Char) → List Char → Prop where
  | nil : Lined [] []
  | last
      {line : List Char}
      (hSome : line ≠ [])
      (hWhole : '\n' ∉ line) :
      Lined [line] line
  | feed
      {line rest : List Char}
      {items : List (List Char)}
      (hWhole : '\n' ∉ line)
      (hReturn : line.getLast? ≠ some '\r')
      (hRest : Lined items rest) :
      Lined (line :: items) (line ++ '\n' :: rest)
  | returnFeed
      {line rest : List Char}
      {items : List (List Char)}
      (hWhole : '\n' ∉ line)
      (hRest : Lined items rest) :
      Lined (line :: items) (line ++ '\r' :: '\n' :: rest)

theorem ne_feed
    (hWhole : '\n' ∉ cs) :
    ∀ c ∈ cs, (c == '\n') = false := by
  intro c hMem
  rw [beq_eq_false_iff_ne]
  rintro rfl
  exact hWhole hMem

theorem finishLines_cons_pieces
    (line rest : List Char) :
    finishLines (line :: pieces (· == '\n') rest) =
      stripReturn line :: finishLines (pieces (· == '\n') rest) := by
  cases hPieces : pieces (· == '\n') rest with
  | nil => exact absurd hPieces (pieces_ne_nil _ rest)
  | cons p ps => rfl

/- A line feed finishes the line before it. -/
theorem finishLines_pieces_append
    {line : List Char}
    (hWhole : '\n' ∉ line)
    (rest : List Char) :
    finishLines (pieces (· == '\n') (line ++ '\n' :: rest)) =
      stripReturn line :: finishLines (pieces (· == '\n') rest) := by
  rw [← finishLines_cons_pieces, pieces_eq_splitOnP,
    List.splitOnP_append_cons_of_forall_mem (ne_feed hWhole) '\n'
      (by simp),
    ← pieces_eq_splitOnP]

theorem Lined.finishLines
    (h : Lined items cs) :
    finishLines (pieces (· == '\n') cs) = items := by
  induction h with
  | nil => rfl
  | @last line hSome hWhole =>
      rw [pieces_eq_splitOnP,
        List.splitOnP_eq_singleton (ne_feed hWhole),
        Text.finishLines, if_neg (by simpa using hSome)]
  | feed hWhole hReturn hRest ih =>
      rw [finishLines_pieces_append hWhole, ih, stripReturn,
        if_neg hReturn]
  | @returnFeed line rest items hWhole hRest ih =>
      have hSplit :
          line ++ '\r' :: '\n' :: rest =
            (line ++ ['\r']) ++ '\n' :: rest := by
        simp
      rw [hSplit, finishLines_pieces_append (by simp [hWhole]), ih,
        stripReturn, if_pos (by simp), List.dropLast_concat]

/- A text is split at its first line feed. -/
theorem exists_lined
    (cs : List Char) :
    ∃ items, Lined items cs := by
  induction hLength : cs.length using Nat.strong_induction_on
    generalizing cs with
  | _ length ih =>
      by_cases hFeed : '\n' ∈ cs
      · rcases List.eq_append_cons_of_mem hFeed with
          ⟨line, rest, rfl, hWhole⟩
        have hShorter : rest.length < length := by
          rw [← hLength]
          simp
          omega
        rcases ih rest.length hShorter rest rfl with ⟨items, hItems⟩
        by_cases hReturn : line.getLast? = some '\r'
        · rcases List.getLast?_eq_some_iff.mp hReturn with
            ⟨start, rfl⟩
          rw [List.mem_append, not_or] at hWhole
          refine ⟨start :: items, ?_⟩
          rw [List.append_assoc]
          exact .returnFeed hWhole.1 hItems
        · exact ⟨line :: items, .feed hWhole hReturn hItems⟩
      · by_cases hNil : cs = []
        · subst hNil
          exact ⟨[], .nil⟩
        · exact ⟨[cs], .last hNil hFeed⟩

theorem lined_iff :
    Lined items cs ↔
      Text.finishLines (pieces (· == '\n') cs) = items := by
  constructor
  · exact Lined.finishLines
  · rintro rfl
    rcases exists_lined cs with ⟨items, hItems⟩
    rwa [hItems.finishLines]

/- The lines of a text are those that it is made up of. -/
theorem lines_eq_iff
    {s : String}
    {ls : List String} :
    lines s = ls ↔ Lined (ls.map String.toList) s.toList := by
  rw [lined_iff, lines]
  constructor
  · rintro rfl
    simp
  · intro h
    rw [h]
    simp

end Text

end BlockVolumes
