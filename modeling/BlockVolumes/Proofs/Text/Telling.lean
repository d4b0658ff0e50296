import BlockVolumes.Proofs.Text.Numerals
import Mathlib.Data.String.Basic

/-
  What texts tell. A text tells a view of what it is written
  for if the view can be read off the beginning of every text
  that goes on after it, and if it depends on nothing else. So
  what the view leaves out is not in the text.

  Key definitions include:
    * `Text.Tells`

  Key theorems include:
    * `Text.Tells.eq_iff`
    * `Text.Tells.append`
    * `Text.Tells.append_ended`
    * `Text.Tells.row`
    * `Text.Tells.join`
    * `Text.Tells.list`
    * `Text.tells_of_lists`
    * `Text.tells_of_prefix_free`
    * `Text.tells_ended`
    * `Text.tells_natural`
    * `Text.tells_integer`
-/

namespace BlockVolumes

namespace Text

variable {α β γ δ : Type}
variable {write : α → String}
variable {view : α → β}

/-
  Whether texts tell a view, whatever comes after them: they
  are the same if and only if the views are.
-/
def Tells
    (write : α → String)
    (view : α → β) : Prop :=
  ∀ (a b : α) (rest other : String),
    write a ++ rest = write b ++ other ↔
      view a = view b ∧ rest = other

namespace Tells

theorem eq_iff
    (h : Tells write view)
    {a b : α} :
    write a = write b ↔ view a = view b := by
  have hAlone := h a b "" ""
  rwa [String.append_empty, String.append_empty,
    and_iff_left rfl] at hAlone

/- What is told of a part of something is told of the whole. -/
theorem of
    (h : Tells write view)
    (part : γ → α) :
    Tells (fun c => write (part c)) fun c => view (part c) :=
  fun c d => h (part c) (part d)

/- One view is as good as another that tells the same apart. -/
theorem congr
    {other : α → γ}
    (h : Tells write view)
    (hViews : ∀ a b, view a = view b ↔ other a = other b) :
    Tells write other := by
  intro a b rest rest'
  rw [h, hViews]

------------------------------------------------------------
-- Texts One After Another
------------------------------------------------------------

/- A fixed text tells nothing, neither before another one. -/
theorem after
    (text : String)
    (h : Tells write view) :
    Tells (fun a => text ++ write a) view := by
  intro a b rest other
  rw [String.append_assoc, String.append_assoc,
    String.append_right_inj, h]

/- Nor after it. -/
theorem before
    (text : String)
    (h : Tells write view) :
    Tells (fun a => write a ++ text) view := by
  intro a b rest other
  rw [String.append_assoc, String.append_assoc, h,
    String.append_right_inj]

/- Two texts tell what each of them tells. -/
theorem append
    {writeNext : α → String}
    {viewNext : α → γ}
    (h : Tells write view)
    (hNext : Tells writeNext viewNext) :
    Tells (fun a => write a ++ writeNext a)
      fun a => (view a, viewNext a) := by
  intro a b rest other
  rw [String.append_assoc, String.append_assoc, h, hNext,
    Prod.mk.injEq, and_assoc]

/- The second one may need a text after it to tell anything. -/
theorem append_ended
    {text : String}
    {next : α → String}
    {viewNext : α → γ}
    (h : Tells write view)
    (hNext : Tells (fun a => next a ++ text) viewNext) :
    Tells (fun a => write a ++ next a ++ text)
      fun a => (view a, viewNext a) := by
  have hText :
      (fun a => write a ++ next a ++ text) =
        fun a => write a ++ (next a ++ text) := by
    funext a
    rw [String.append_assoc]
  rw [hText]
  exact h.append hNext

/-
  The text of a list begins with that of its first member, or
  ends it. So it tells what the members tell as soon as what
  comes after the first one does.
-/
theorem row
    {close : String}
    {items : List α}
    (text tail : List α → String)
    (h : Tells write view)
    (hClose : ∀ a rest other, write a ++ rest ≠ close ++ other)
    (hNone : text [] = close)
    (hFirst : ∀ a items, text (a :: items) = write a ++ tail items)
    (hTail :
      ∀ a more, items = a :: more → ∀ others rest other,
        tail more ++ rest = tail others ++ other ↔
          more.map view = others.map view ∧ rest = other)
    (others : List α)
    (rest other : String) :
    text items ++ rest = text others ++ other ↔
      items.map view = others.map view ∧ rest = other := by
  cases items with
  | nil =>
      cases others with
      | nil =>
          rw [hNone, String.append_right_inj]
          simp
      | cons b others =>
          rw [hNone, hFirst, String.append_assoc]
          simp [Ne.symm (hClose b _ _)]
  | cons a items =>
      cases others with
      | nil =>
          rw [hNone, hFirst, String.append_assoc]
          simp [hClose a _ _]
      | cons b others =>
          rw [hFirst, hFirst, String.append_assoc,
            String.append_assoc, h, hTail a items rfl, List.map_cons,
            List.map_cons, List.cons.injEq, and_assoc]

/-
  Texts in a row tell what each of them tells, if a last text
  that is none of them ends the row.
-/
theorem join
    {close : String}
    (h : Tells write view)
    (hClose : ∀ a rest other, write a ++ rest ≠ close ++ other) :
    Tells (fun items => String.join (items.map write) ++ close)
      (List.map view) := by
  have hNone :
      String.join (([] : List α).map write) ++ close = close := by
    rw [List.map_nil, String.join_nil, String.empty_append]
  have hFirst :
      ∀ a items,
        String.join ((a :: items).map write) ++ close =
          write a ++ (String.join (items.map write) ++ close) := by
    intro a items
    rw [List.map_cons, String.join_cons, String.append_assoc]
  intro items
  induction items with
  | nil =>
      exact
        row (fun items => String.join (items.map write) ++ close) _
          h hClose hNone hFirst nofun
  | cons a items ih =>
      apply row (fun items => String.join (items.map write) ++ close)
        _ h hClose hNone hFirst
      rintro _ _ ⟨rfl, rfl⟩
      exact ih

/- The same holds of texts with commas in between. -/
theorem list
    {close : String}
    (h : Tells write view)
    (hClose : ∀ a rest other, write a ++ rest ≠ close ++ other)
    (hComma : ∀ rest other, ", " ++ rest ≠ close ++ other) :
    Tells
      (fun items => ", ".intercalate (items.map write) ++ close)
      (List.map view) := by
  -- After the first text each one comes with its comma.
  have hTexts :
      ∀ a items,
        ", ".intercalate ((a :: items).map write) =
          write a ++
            String.join (items.map fun b => ", " ++ write b) := by
    intro a items
    induction items generalizing a with
    | nil => simp
    | cons b items ih =>
        rw [List.map_cons, List.map_cons,
          String.intercalate_cons_cons, ← List.map_cons, ih,
          List.map_cons, String.join_cons]
        simp only [String.append_assoc]
  have hNone :
      ", ".intercalate (([] : List α).map write) ++ close =
        close := by
    rw [List.map_nil, String.intercalate_nil, String.empty_append]
  have hFirst :
      ∀ a items,
        ", ".intercalate ((a :: items).map write) ++ close =
          write a ++
            (String.join (items.map fun b => ", " ++ write b) ++
              close) := by
    intro a items
    rw [hTexts, String.append_assoc]
  have hTail :
      Tells
        (fun items =>
          String.join (items.map fun b => ", " ++ write b) ++ close)
        (List.map view) := by
    apply (h.after ", ").join
    intro a rest other
    rw [String.append_assoc]
    exact hComma _ other
  intro items
  exact
    row (fun items => ", ".intercalate (items.map write) ++ close) _
      h hClose hNone hFirst fun _ more _ => hTail more

end Tells

------------------------------------------------------------
-- Words and Numerals
------------------------------------------------------------

/- Words that can be read off longer texts tell themselves. -/
theorem tells_of_lists
    (h : ∀ (a b : α) (rest other : List Char),
      (write a).toList ++ rest = (write b).toList ++ other →
        a = b ∧ rest = other) :
    Tells write id := by
  intro a b rest other
  constructor
  · intro hSame
    have hLists := congrArg String.toList hSame
    rw [String.toList_append, String.toList_append] at hLists
    rcases h a b _ _ hLists with ⟨hWords, hRest⟩
    exact ⟨hWords, String.toList_inj.mp hRest⟩
  · rintro ⟨hWords, rfl⟩
    rw [id, id] at hWords
    rw [hWords]

/- So do words of which none begins with another one. -/
theorem tells_of_prefix_free
    (hFree :
      ∀ a b, (write a).toList <+: (write b).toList → a = b) :
    Tells write id := by
  apply tells_of_lists
  intro a b rest other hSame
  have hThis :
      (write a).toList <+: (write b).toList ++ other :=
    ⟨rest, hSame⟩
  have hWords : a = b := by
    rcases List.prefix_or_prefix_of_prefix hThis
        (List.prefix_append _ other) with
      hPrefix | hPrefix
    · exact hFree a b hPrefix
    · exact (hFree b a hPrefix).symm
  subst hWords
  exact ⟨rfl, (List.append_right_inj _).mp hSame⟩

/- Where a character comes up first is the same in equal texts. -/
theorem eq_of_append_cons
    {stop : Char}
    {cs ds rest other : List Char}
    (hFirst : stop ∉ cs)
    (hSecond : stop ∉ ds)
    (h : cs ++ stop :: rest = ds ++ stop :: other) :
    cs = ds ∧ rest = other := by
  induction cs generalizing ds with
  | nil =>
      cases ds with
      | nil => exact ⟨rfl, (List.cons.inj h).2⟩
      | cons d ds =>
          rw [(List.cons.inj h).1] at hSecond
          exact absurd List.mem_cons_self hSecond
  | cons c cs ih =>
      cases ds with
      | nil =>
          rw [← (List.cons.inj h).1] at hFirst
          exact absurd List.mem_cons_self hFirst
      | cons d ds =>
          rcases List.cons.inj h with ⟨rfl, hTails⟩
          rcases ih (List.not_mem_of_not_mem_cons hFirst)
              (List.not_mem_of_not_mem_cons hSecond) hTails with
            ⟨rfl, hRest⟩
          exact ⟨rfl, hRest⟩

/-
  Different words tell themselves if a character ends them that
  none of them holds.
-/
theorem tells_ended
    {stop : Char}
    {text more : String}
    (hText : text = String.singleton stop ++ more)
    (hStop : ∀ a, stop ∉ (write a).toList)
    (hDistinct : ∀ a b, write a = write b → a = b) :
    Tells (fun a => write a ++ text) id := by
  apply tells_of_lists
  intro a b rest other hSame
  simp only [hText, String.toList_append,
    String.toList_singleton, List.append_assoc,
    List.cons_append, List.nil_append] at hSame
  rcases eq_of_append_cons (hStop a) (hStop b) hSame with
    ⟨hWords, hRest⟩
  exact
    ⟨hDistinct a b (String.toList_inj.mp hWords),
      (List.append_right_inj _).mp hRest⟩

/- A number tells itself if no digit comes right after it. -/
theorem tells_natural
    (stop : Char)
    (more : String)
    {text : String}
    (hText : text = String.singleton stop ++ more)
    (hStop : stop.isDigit = false) :
    Tells (fun n : Nat => toString n ++ text) id := by
  apply tells_ended hText
  · intro n hMem
    have hDigit := (isDigits_toString n).digits stop hMem
    rw [hDigit] at hStop
    exact absurd hStop (by decide)
  · intro m n hSame
    have hSameDigits := isDigits_toString n
    rw [← hSame] at hSameDigits
    exact (isDigits_toString m).value.symm.trans hSameDigits.value

/- The same holds of numbers that may have a sign. -/
theorem tells_integer
    (stop : Char)
    (more : String)
    {text : String}
    (hText : text = String.singleton stop ++ more)
    (hStop : stop.isDigit = false)
    (hSign : stop ≠ '-') :
    Tells (fun n : Int => toString n ++ text) id := by
  apply tells_ended hText
  · intro n hMem
    rcases isDigit_or_minus_of_mem_toString hMem with
      hDigit | hMinus
    · rw [hDigit] at hStop
      exact absurd hStop (by decide)
    · exact hSign hMinus
  · intro m n hSame
    -- The numeral is read as one number, in any range with both.
    have hRead :
        readInteger (m.natAbs + n.natAbs) (toString m) = .ok m :=
      readInteger_eq_ok_iff.mpr
        ⟨isInteger_toString m, by omega, by omega⟩
    have hReadOther :
        readInteger (m.natAbs + n.natAbs) (toString n) = .ok n :=
      readInteger_eq_ok_iff.mpr
        ⟨isInteger_toString n, by omega, by omega⟩
    rw [hSame, hReadOther] at hRead
    exact (Except.ok.inj hRead).symm

end Text

end BlockVolumes
