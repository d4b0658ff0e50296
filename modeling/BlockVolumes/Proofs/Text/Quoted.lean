import BlockVolumes.Proofs.Text.Telling
import BlockVolumes.Text.Quoted

/-
  Quoted texts tell what is quoted. However a character is
  written between the quotes, it is not the beginning of what
  another one is written as, and no quote that ends the text.

  Key definitions include:
    * `Text.escapes`
    * `Text.Written`

  Key theorems include:
    * `Text.toDigits_inj`
    * `Text.written_quoteChar`
    * `Text.Written.eq_of_append`
    * `Text.tells_quote`
    * `Text.tells_quoteOption`
-/

namespace BlockVolumes

namespace Text

variable {c d : Char}
variable {cs ds rest other : List Char}
variable {m n : Nat}

------------------------------------------------------------
-- Hexadecimal Numerals
------------------------------------------------------------

theorem digitChar_inj
    (hFirst : m < 16)
    (hSecond : n < 16)
    (h : m.digitChar = n.digitChar) :
    m = n := by
  have hDigits :
      ∀ m < 16, ∀ n < 16, m.digitChar = n.digitChar → m = n := by
    decide
  exact hDigits m hFirst n hSecond h

/- Different numbers have different numerals. -/
theorem toDigits_inj
    (h : Nat.toDigits 16 m = Nat.toDigits 16 n) :
    m = n := by
  -- The last digit is the remainder, the others the quotient.
  induction m using Nat.strongRecOn generalizing n with
  | ind m ih =>
      rw [Nat.toDigits_eq_if (by decide),
        Nat.toDigits_eq_if (n := n) (by decide)] at h
      split_ifs at h with hFirst hSecond hSecond
      · exact digitChar_inj hFirst hSecond (List.cons.inj h).1
      · have hLength := congrArg List.length h
        simp at hLength
      · have hLength := congrArg List.length h
        simp at hLength
      · rcases List.append_inj' h rfl with ⟨hQuotients, hDigits⟩
        have hQuotient := ih (m / 16) (by omega) hQuotients
        have hRemainder :=
          digitChar_inj (Nat.mod_lt m (by decide))
            (Nat.mod_lt n (by decide)) (List.cons.inj hDigits).1
        omega

/- No digit is a brace. -/
theorem brace_not_mem_toDigits
    (n : Nat) :
    '\x7d' ∉ Nat.toDigits 16 n := by
  induction n using Nat.strongRecOn with
  | ind n ih =>
      have hDigit (k : Nat) : '\x7d' ≠ k.digitChar :=
        Ne.symm (Nat.digitChar_ne _ (by decide))
      rw [Nat.toDigits_eq_if (by decide)]
      split
      · simp [hDigit]
      · rw [List.mem_append, not_or]
        exact ⟨ih (n / 16) (by omega), by simp [hDigit]⟩

------------------------------------------------------------
-- Characters
------------------------------------------------------------

/- The characters that a letter or sign stands for. -/
def escapes : List (Char × Char) :=
  [('"', '"'), ('\\', '\\'), ('\n', 'n'), ('\r', 'r'),
    ('\t', 't'), ('\x00', '0')]

/- What characters are written as between quotes. -/
inductive Written : Char → List Char → Prop where
  | escaped
      {c letter : Char}
      (hEscape : (c, letter) ∈ escapes) :
      Written c ['\\', letter]
  | numbered
      {c : Char} :
      Written c
        ('\\' :: 'u' :: '\x7b' ::
          (Nat.toDigits 16 c.toNat ++ ['\x7d']))
  | plain
      {c : Char}
      (hNoEscape : c ≠ '\\')
      (hNoQuote : c ≠ '"') :
      Written c [c]

theorem written_quoteChar
    (c : Char) :
    Written c (quoteChar c).toList := by
  unfold quoteChar
  split_ifs with hQuote hBackslash hFeed hReturn hTab hNull
    hUnprintable
  · rw [hQuote]
    have hEscape : ('"', '"') ∈ escapes := by decide
    exact .escaped hEscape
  · rw [hBackslash]
    have hEscape : ('\\', '\\') ∈ escapes := by decide
    exact .escaped hEscape
  · rw [hFeed]
    have hEscape : ('\n', 'n') ∈ escapes := by decide
    exact .escaped hEscape
  · rw [hReturn]
    have hEscape : ('\r', 'r') ∈ escapes := by decide
    exact .escaped hEscape
  · rw [hTab]
    have hEscape : ('\t', 't') ∈ escapes := by decide
    exact .escaped hEscape
  · rw [hNull]
    have hEscape : ('\x00', '0') ∈ escapes := by decide
    exact .escaped hEscape
  · have hText :
        ("\\u\x7b" ++ hexadecimal c.toNat ++ "\x7d").toList =
          '\\' :: 'u' :: '\x7b' ::
            (Nat.toDigits 16 c.toNat ++ ['\x7d']) := by
      simp [hexadecimal]
    rw [hText]
    exact .numbered
  · have hText : c.toString.toList = [c] := by
      simp [Char.toString]
    rw [hText]
    exact .plain hBackslash hQuote

/- The letter of an escape stands for one character only. -/
theorem eq_of_escapes
    {letter : Char}
    (hFirst : (c, letter) ∈ escapes)
    (hSecond : (d, letter) ∈ escapes) :
    c = d := by
  have hAll :
      ∀ first ∈ escapes, ∀ second ∈ escapes,
        first.2 = second.2 → first.1 = second.1 := by
    decide
  exact hAll _ hFirst _ hSecond rfl

theorem not_escapes_number :
    (c, 'u') ∉ escapes := by
  have hAll : ∀ escape ∈ escapes, escape.2 ≠ 'u' := by
    decide
  exact fun hMem => hAll _ hMem rfl

/-
  What a character is written as is no beginning of what
  another one is written as.
-/
theorem Written.eq_of_append
    (hFirst : Written c cs)
    (hSecond : Written d ds)
    (h : cs ++ rest = ds ++ other) :
    c = d ∧ rest = other := by
  -- After a backslash the next character tells escapes apart.
  cases hFirst with
  | escaped hEscape =>
      cases hSecond with
      | escaped hOther =>
          simp only [List.cons_append, List.nil_append,
            List.cons.injEq, true_and] at h
          rcases h with ⟨rfl, hRest⟩
          exact ⟨eq_of_escapes hEscape hOther, hRest⟩
      | numbered =>
          simp only [List.cons_append, List.nil_append,
            List.cons.injEq, true_and] at h
          rw [h.1] at hEscape
          exact absurd hEscape not_escapes_number
      | plain hNoEscape _ =>
          exact absurd (List.cons.inj h).1.symm hNoEscape
  | numbered =>
      cases hSecond with
      | escaped hOther =>
          simp only [List.cons_append, List.nil_append,
            List.cons.injEq, true_and] at h
          rw [← h.1] at hOther
          exact absurd hOther not_escapes_number
      | numbered =>
          simp only [List.cons_append, List.append_assoc,
            List.nil_append, List.cons.injEq, true_and] at h
          rcases eq_of_append_cons (brace_not_mem_toDigits _)
              (brace_not_mem_toDigits _) h with
            ⟨hDigits, hRest⟩
          exact ⟨Char.toNat_inj.mp (toDigits_inj hDigits), hRest⟩
      | plain hNoEscape _ =>
          exact absurd (List.cons.inj h).1.symm hNoEscape
  | plain hNoEscape _ =>
      cases hSecond with
      | escaped _ =>
          exact absurd (List.cons.inj h).1 hNoEscape
      | numbered =>
          exact absurd (List.cons.inj h).1 hNoEscape
      | plain _ _ =>
          exact List.cons.inj h

/- Nothing between quotes begins with one. -/
theorem Written.not_quote
    (hWritten : Written c cs) :
    cs ++ rest ≠ '"' :: other := by
  cases hWritten with
  | escaped _ => simp
  | numbered => simp
  | plain _ hNoQuote =>
      intro h
      exact hNoQuote (List.cons.inj h).1

------------------------------------------------------------
-- Texts
------------------------------------------------------------

theorem tells_quoteChar :
    Tells quoteChar id := by
  apply tells_of_lists
  intro c d rest other h
  exact (written_quoteChar c).eq_of_append (written_quoteChar d) h

theorem quoteChar_append_ne
    (c : Char)
    (rest other : String) :
    quoteChar c ++ rest ≠ "\"" ++ other := by
  intro h
  have hLists := congrArg String.toList h
  rw [String.toList_append, String.toList_append] at hLists
  exact (written_quoteChar c).not_quote hLists

/- A quoted text tells the text. -/
theorem tells_quote :
    Tells quote id := by
  have hCharacters := tells_quoteChar.join quoteChar_append_ne
  have hQuoted :
      Tells quote fun s => s.toList.map id := by
    have hText :
        quote = fun s =>
          "\"" ++
            (String.join (s.toList.map quoteChar) ++ "\"") := by
      funext s
      rw [quote, String.append_assoc]
    rw [hText]
    exact (hCharacters.after "\"").of String.toList
  apply hQuoted.congr
  intro s t
  rw [List.map_id, List.map_id, String.toList_inj, id, id]

/- A quoted text that may be absent tells whether it is. -/
theorem tells_quoteOption :
    Tells quoteOption id := by
  have hSome :
      Tells (fun s => "Some(" ++ quote s ++ ")") id := by
    simpa only [String.append_assoc] using
      (tells_quote.before ")").after "Some("
  have hNone :
      ∀ s rest other,
        "Some(" ++ quote s ++ ")" ++ rest ≠ "None" ++ other := by
    intro s rest other h
    have hLists := congrArg String.toList h
    simp at hLists
  intro s t rest other
  cases s with
  | none =>
      cases t with
      | none => simp [quoteOption]
      | some t =>
          simp [quoteOption, Ne.symm (hNone t other rest)]
  | some s =>
      cases t with
      | none => simp [quoteOption, hNone s rest other]
      | some t =>
          have hTexts := hSome s t rest other
          simpa [quoteOption] using hTexts

end Text

end BlockVolumes
