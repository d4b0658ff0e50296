import BlockVolumes.Mount.Table
import BlockVolumes.Proofs.Csi.Reading
import BlockVolumes.Proofs.Text.Numerals
import BlockVolumes.Proofs.Text.Utf8
import BlockVolumes.Proofs.Text.Words

/-
  The mount table of the system by its grammar: which bytes are
  a table, and of which mount points. A table that is printed
  in any spacing is read as the mount points it was made of.

  Key definitions include:
    * `Mount.InRange`
    * `Mount.IsNumber`
    * `Mount.Fields.MakeUp`
    * `Mount.Fields.Tell`
    * `Mount.Describes`
    * `Mount.IsEntry`
    * `Mount.Tables`
    * `Mount.Printable`
    * `Mount.PrintsFields`
    * `Mount.PrintsTable`

  Key theorems include:
    * `Mount.Fields.tell_iff`
    * `Mount.readPoint_eq_ok_iff`
    * `Mount.exists_describes_iff`
    * `Mount.readTable_eq_ok_iff`
    * `Mount.exists_readTable_eq_ok_iff`
    * `Mount.PrintsFields.spaced`
    * `Mount.PrintsTable.exists_lined`
    * `Mount.readTable_by_grammar`
-/

namespace BlockVolumes

namespace Mount

open Csi (bind_eq_ok mapM_eq_ok_iff)

variable {bytes : List UInt8}
variable {line text : String}
variable {cs gap : List Char}
variable {fields lines : List String}
variable {point : Point}
variable {points : List Point}
variable {n : Int}

------------------------------------------------------------
-- Lines
------------------------------------------------------------

/- Whether a number is one of 64 bits with a sign. -/
def InRange
    (n : Int) : Prop :=
  Int64.minValue.toInt ≤ n ∧ n ≤ Int64.maxValue.toInt

instance
    (n : Int) :
    Decidable (InRange n) := by
  unfold InRange
  infer_instance

/- Whether a text is a numeral of a number in the range. -/
structure IsNumber
    (text : String)
    (n : Int) : Prop where
  numeral : Text.IsInteger text n
  range : InRange n

/- The fields in the order of the line. -/
def Fields.toList
    (fields : Fields) : List String :=
  [fields.device, fields.path, fields.filesystem, fields.options,
    fields.dumpInterval, fields.checkOrder]

/- Whether fields are the words of a line. -/
def Fields.MakeUp
    (fields : Fields)
    (line : String) : Prop :=
  Text.Spaced (fields.toList.map String.toList) line.toList

/-
  Whether fields are about a mount point. The options stand in
  one field, with a comma between two of them.
-/
structure Fields.Tell
    (fields : Fields)
    (point : Point) : Prop where
  device : fields.device = point.device.text
  path : fields.path = point.path.text
  filesystem : fields.filesystem = point.filesystem
  options : fields.options = Text.joinWith "," point.options
  nonempty : point.options ≠ []
  whole : ∀ option ∈ point.options, ',' ∉ option.toList
  dumpInterval : IsNumber fields.dumpInterval point.dumpInterval
  checkOrder : IsNumber fields.checkOrder point.checkOrder

/- Whether a line describes a mount point. -/
def Describes
    (line : String)
    (point : Point) : Prop :=
  ∃ fields : Fields, fields.MakeUp line ∧ fields.Tell point

/-
  Whether a line has six fields, of which the last two are
  numerals of numbers of 64 bits.
-/
def IsEntry
    (line : String) : Prop :=
  ∃ fields : Fields, fields.MakeUp line ∧
    (∃ n, IsNumber fields.dumpInterval n) ∧
      ∃ n, IsNumber fields.checkOrder n

theorem readNumber_eq_ok_iff
    {field : String} :
    readNumber field text = .ok n ↔ IsNumber text n := by
  have hRead :
      readNumber field text = .ok n ↔
        Text.readInteger (Nat.pow 2 63 - 1) text = .ok n := by
    unfold readNumber
    split
    · next hSame => simp [hSame]
    · next hError => simp [hError]
  have hRange :
      InRange n ↔
        -((Nat.pow 2 63 - 1 : Nat) : Int) - 1 ≤ n ∧
          n ≤ ((Nat.pow 2 63 - 1 : Nat) : Int) := by
    have hLower :
        Int64.minValue.toInt =
          -((Nat.pow 2 63 - 1 : Nat) : Int) - 1 := by
      decide
    have hUpper :
        Int64.maxValue.toInt = ((Nat.pow 2 63 - 1 : Nat) : Int) := by
      decide
    rw [InRange, hLower, hUpper]
  rw [hRead, Text.readInteger_eq_ok_iff, ← hRange]
  constructor
  · rintro ⟨hNumeral, hIn⟩
    exact ⟨hNumeral, hIn⟩
  · rintro ⟨hNumeral, hIn⟩
    exact ⟨hNumeral, hIn⟩

theorem readFields_eq_ok_iff
    {words : List String}
    {fields : Fields} :
    readFields words = .ok fields ↔ words = fields.toList := by
  unfold readFields Fields.toList
  split
  · rcases fields with ⟨_, _, _, _, _, _⟩
    simp
  · next hOther =>
      constructor
      · exact nofun
      · intro hSame
        exact absurd hSame (hOther _ _ _ _ _ _)

theorem readFields_words_eq_ok_iff
    {fields : Fields} :
    readFields (Text.words line) = .ok fields ↔
      fields.MakeUp line :=
  readFields_eq_ok_iff.trans Text.words_eq_iff

/- Fields with two numbers are about one mount point. -/
theorem Fields.tell_iff
    {fields : Fields} :
    fields.Tell point ↔
      ∃ dump, IsNumber fields.dumpInterval dump ∧
        ∃ check, IsNumber fields.checkOrder check ∧
          { device := ⟨fields.device⟩
            path := ⟨fields.path⟩
            filesystem := fields.filesystem
            options := Text.splitAtEvery ',' fields.options
            dumpInterval := dump
            checkOrder := check } = point := by
  constructor
  · intro h
    refine ⟨_, h.dumpInterval, _, h.checkOrder, ?_⟩
    have hOptions :
        Text.splitAtEvery ',' fields.options = point.options := by
      rw [h.options]
      exact Text.splitAtEvery_joinWith h.whole h.nonempty
    rw [hOptions, h.device, h.path, h.filesystem]
  · rintro ⟨dump, hDump, check, hCheck, rfl⟩
    exact
      { device := rfl
        path := rfl
        filesystem := rfl
        options := (Text.joinWith_splitAtEvery ',' _).symm
        nonempty := by simp [Text.splitAtEvery, Text.pieces_ne_nil]
        whole := fun _ hMem => Text.not_mem_of_mem_splitAtEvery hMem
        dumpInterval := hDump
        checkOrder := hCheck }

theorem readPoint_eq_ok_iff :
    readPoint line = .ok point ↔ Describes line point := by
  simp only [readPoint, bind_eq_ok, readFields_words_eq_ok_iff,
    readNumber_eq_ok_iff, pure, Except.pure, Except.ok.injEq,
    Describes, Fields.tell_iff]

/- A line is read unless it is no entry. -/
theorem exists_describes_iff :
    (∃ point, Describes line point) ↔ IsEntry line := by
  constructor
  · rintro ⟨point, fields, hLine, hTell⟩
    exact ⟨fields, hLine, ⟨_, hTell.dumpInterval⟩,
      ⟨_, hTell.checkOrder⟩⟩
  · rintro ⟨fields, hLine, ⟨dump, hDump⟩, ⟨check, hCheck⟩⟩
    exact ⟨_, fields, hLine,
      Fields.tell_iff.mpr ⟨dump, hDump, check, hCheck, rfl⟩⟩

------------------------------------------------------------
-- Tables
------------------------------------------------------------

/-
  Whether a text is a table of mount points: each line that is
  not empty describes one of them, in their order.
-/
def Tables
    (text : String)
    (points : List Point) : Prop :=
  ∃ lines : List String,
    Text.Lined (lines.map String.toList) text.toList ∧
      List.Forall₂ Describes (lines.filter (· ≠ "")) points

/- A text is read as the mount points that it is a table of. -/
theorem mapM_readPoint_eq_ok_iff :
    ((Text.lines text).filter (! ·.isEmpty)).mapM readPoint =
        .ok points ↔
      Tables text points := by
  have hKeeps :
      (fun line : String => ! line.isEmpty) =
        fun line => decide (line ≠ "") := by
    funext line
    rw [Bool.eq_iff_iff]
    simp
  rw [mapM_eq_ok_iff, hKeeps]
  simp only [readPoint_eq_ok_iff]
  constructor
  · intro hPoints
    exact ⟨_, Text.lines_eq_iff.mp rfl, hPoints⟩
  · rintro ⟨lines, hLines, hPoints⟩
    rwa [Text.lines_eq_iff.mpr hLines]

theorem readTable_eq_ok_iff :
    readTable bytes = .ok points ↔
      ∃ text : String,
        text.toUTF8 = bytes.toByteArray ∧ Tables text points := by
  simp only [← Text.ofBytes?_eq_some_iff, ← mapM_readPoint_eq_ok_iff]
  rw [readTable]
  split
  · next hNone => simp [hNone]
  · next text hText => simp [hText]

theorem exists_forall₂_iff
    {α β : Type}
    {relates : α → β → Prop}
    {as : List α} :
    (∃ bs, List.Forall₂ relates as bs) ↔
      ∀ a ∈ as, ∃ b, relates a b := by
  induction as with
  | nil => simp
  | cons a as ih =>
      rw [List.forall_mem_cons, ← ih]
      constructor
      · rintro ⟨_, hAll⟩
        cases hAll with
        | cons hFirst hRest => exact ⟨⟨_, hFirst⟩, ⟨_, hRest⟩⟩
      · rintro ⟨⟨b, hFirst⟩, bs, hRest⟩
        exact ⟨b :: bs, .cons hFirst hRest⟩

/- A text is some table if each line with text is an entry. -/
theorem exists_tables_iff
    (hLines : Text.Lined (lines.map String.toList) text.toList) :
    (∃ points, Tables text points) ↔
      ∀ line ∈ lines, line ≠ "" → IsEntry line := by
  have hOnly :
      ∀ points, Tables text points ↔
        List.Forall₂ Describes (lines.filter (· ≠ "")) points := by
    intro points
    constructor
    · rintro ⟨other, hOther, hPoints⟩
      have hSame : other = lines :=
        (Text.lines_eq_iff.mpr hOther).symm.trans
          (Text.lines_eq_iff.mpr hLines)
      rwa [hSame] at hPoints
    · intro hPoints
      exact ⟨lines, hLines, hPoints⟩
  simp only [hOnly, exists_forall₂_iff, exists_describes_iff,
    List.mem_filter, decide_eq_true_eq, and_imp]

/-
  Bytes are read if they are a text in which each line that is
  not empty is an entry.
-/
theorem exists_readTable_eq_ok_iff :
    (∃ points, readTable bytes = .ok points) ↔
      bytes.toByteArray.IsValidUTF8 ∧
        ∀ (text : String) (lines : List String),
          text.toUTF8 = bytes.toByteArray →
            Text.Lined (lines.map String.toList) text.toList →
              ∀ line ∈ lines, line ≠ "" → IsEntry line := by
  constructor
  · rintro ⟨points, hRead⟩
    rcases readTable_eq_ok_iff.mp hRead with ⟨text, hText, hTables⟩
    have hValid : bytes.toByteArray.IsValidUTF8 := by
      rw [← hText]
      exact text.isValidUTF8
    refine ⟨hValid, ?_⟩
    intro other lines hOther hLines
    have hSame : other = text :=
      String.toByteArray_inj.mp (hOther.trans hText.symm)
    subst hSame
    exact (exists_tables_iff hLines).mp ⟨points, hTables⟩
  · rintro ⟨hValid, hEntries⟩
    rcases Text.exists_ofBytes?_eq_some_iff.mpr hValid with
      ⟨text, hText⟩
    rw [Text.ofBytes?_eq_some_iff] at hText
    have hLines := Text.lines_eq_iff.mp (Eq.refl (Text.lines text))
    rcases (exists_tables_iff hLines).mpr
        (hEntries text _ hText hLines) with
      ⟨points, hTables⟩
    exact ⟨points, readTable_eq_ok_iff.mpr ⟨text, hText, hTables⟩⟩

------------------------------------------------------------
-- Printing
------------------------------------------------------------

/-
  Whether a mount point can be printed in a table: no field is
  empty or has a blank, no option has a comma, and the numbers
  are of 64 bits.
-/
structure Printable
    (point : Point) : Prop where
  device : Text.IsWord point.device.text.toList
  path : Text.IsWord point.path.text.toList
  filesystem : Text.IsWord point.filesystem.toList
  options : Text.IsWord (Text.joinWith "," point.options).toList
  whole : ∀ option ∈ point.options, ',' ∉ option.toList
  dumpInterval : InRange point.dumpInterval
  checkOrder : InRange point.checkOrder

/- The fields of a mount point as they are printed. -/
def Fields.ofPoint
    (point : Point) : Fields :=
  { device := point.device.text
    path := point.path.text
    filesystem := point.filesystem
    options := Text.joinWith "," point.options
    dumpInterval := toString point.dumpInterval
    checkOrder := toString point.checkOrder }

/- Whether characters stand between two printed fields. -/
structure Separates
    (gap : List Char) : Prop where
  nonempty : gap ≠ []
  plain : ∀ c ∈ gap, c = ' ' ∨ c = '\t'

/- Whether characters are fields with something in between. -/
inductive PrintsFields : List String → List Char → Prop where
  | last
      {field : String} :
      PrintsFields [field] field.toList
  | cons
      {field : String}
      {fields : List String}
      {gap rest : List Char}
      (hGap : Separates gap)
      (hRest : PrintsFields fields rest) :
      PrintsFields (field :: fields) (field.toList ++ gap ++ rest)

/-
  Whether characters are a table that was printed, with a line
  for each mount point and empty lines in any place. The last
  line needs no line feed.
-/
inductive PrintsTable : List Point → List Char → Prop where
  | nil : PrintsTable [] []
  | last
      {point : Point}
      {line : String}
      (hLine : PrintsFields (Fields.ofPoint point).toList line.toList) :
      PrintsTable [point] line.toList
  | point
      {point : Point}
      {points : List Point}
      {line : String}
      {rest : List Char}
      (hLine : PrintsFields (Fields.ofPoint point).toList line.toList)
      (hRest : PrintsTable points rest) :
      PrintsTable (point :: points) (line.toList ++ '\n' :: rest)
  | empty
      {points : List Point}
      {rest : List Char}
      (hRest : PrintsTable points rest) :
      PrintsTable points ('\n' :: rest)

theorem isWord_toString
    (n : Int) :
    Text.IsWord (toString n).toList := by
  constructor
  · exact (Text.isInteger_toString n).toList_ne_nil
  · intro c hMem
    rcases Text.isDigit_or_minus_of_mem_toString hMem with
      hDigit | rfl
    · rw [Char.isDigit_iff_toNat] at hDigit
      have hLower : '0'.toNat = 0x30 := rfl
      have hUpper : '9'.toNat = 0x39 := rfl
      exact Text.isBlank_of_visible (by omega) (by omega)
    · decide

theorem Printable.isWord
    (h : Printable point) :
    ∀ field ∈ (Fields.ofPoint point).toList,
      Text.IsWord field.toList := by
  simp only [Fields.ofPoint, Fields.toList, List.forall_mem_cons]
  exact ⟨h.device, h.path, h.filesystem, h.options,
    isWord_toString _, isWord_toString _, nofun⟩

theorem Separates.isGap
    (h : Separates gap) :
    Text.IsGap gap := by
  intro c hMem
  rcases h.plain c hMem with rfl | rfl
  · decide
  · decide

/- The fields of a printed line are its words. -/
theorem PrintsFields.spaced
    (h : PrintsFields fields cs)
    (hWords : ∀ field ∈ fields, Text.IsWord field.toList) :
    Text.Spaced (fields.map String.toList) cs := by
  induction h with
  | @last field =>
      have hWord := hWords field List.mem_cons_self
      rw [← List.append_nil field.toList]
      exact Text.Spaced.word_append hWord nofun (.nil nofun)
  | @cons field fields gap rest hGap hRest ih =>
      rw [List.forall_mem_cons] at hWords
      have hApart :
          ∀ c ∈ (gap ++ rest).head?, Text.isBlank c = true := by
        intro c hHead
        rw [List.head?_append_of_ne_nil gap hGap.nonempty] at hHead
        exact hGap.isGap c (List.mem_of_mem_head? hHead)
      rw [List.map_cons, List.append_assoc]
      exact Text.Spaced.word_append hWords.1 hApart
        ((ih hWords.2).gap_append hGap.isGap)

/- A printed line has no other blanks than between its fields. -/
theorem PrintsFields.not_mem
    (h : PrintsFields fields cs)
    (hWords : ∀ field ∈ fields, Text.IsWord field.toList)
    {c : Char}
    (hBlank : Text.isBlank c = true)
    (hSpace : c ≠ ' ')
    (hTab : c ≠ '\t') :
    c ∉ cs := by
  have hWord :
      ∀ field : String, Text.IsWord field.toList →
        c ∉ field.toList := by
    intro field hField hMem
    rw [hField.whole c hMem] at hBlank
    exact nomatch hBlank
  induction h with
  | @last field => exact hWord field (hWords field List.mem_cons_self)
  | @cons field fields gap rest hGap hRest ih =>
      rw [List.forall_mem_cons] at hWords
      rw [List.mem_append, List.mem_append, not_or, not_or]
      refine ⟨⟨hWord field hWords.1, ?_⟩, ih hWords.2⟩
      intro hMem
      rcases hGap.plain c hMem with rfl | rfl
      · exact hSpace rfl
      · exact hTab rfl

theorem Printable.tell
    (h : Printable point) :
    (Fields.ofPoint point).Tell point where
  device := rfl
  path := rfl
  filesystem := rfl
  options := rfl
  nonempty := by
    intro hNil
    apply h.options.nonempty
    simp [hNil, Text.joinWith]
  whole := h.whole
  dumpInterval := ⟨Text.isInteger_toString _, h.dumpInterval⟩
  checkOrder := ⟨Text.isInteger_toString _, h.checkOrder⟩

/- An empty line has no fields. -/
theorem Describes.ne_empty
    (h : Describes line point) :
    line ≠ "" := by
  rintro rfl
  rcases h with ⟨fields, hLine, _⟩
  exact nomatch Text.words_eq_iff.mpr hLine

/- A printed line is one line, and describes its mount point. -/
theorem Printable.describes
    (h : Printable point)
    (hLine : PrintsFields (Fields.ofPoint point).toList line.toList) :
    Describes line point ∧ line ≠ "" ∧ '\n' ∉ line.toList ∧
      '\r' ∉ line.toList := by
  have hDescribes : Describes line point :=
    ⟨_, hLine.spaced h.isWord, h.tell⟩
  refine ⟨hDescribes, hDescribes.ne_empty, ?_, ?_⟩
  · exact hLine.not_mem h.isWord (by decide) (by decide) (by decide)
  · exact hLine.not_mem h.isWord (by decide) (by decide) (by decide)

/-
  A printed table is a table of the same mount points. Each
  mount point adds its line, and an empty line is dropped.
-/
theorem PrintsTable.exists_lined
    (h : PrintsTable points cs)
    (hPrintable : ∀ point ∈ points, Printable point) :
    ∃ lines : List String,
      Text.Lined (lines.map String.toList) cs ∧
        List.Forall₂ Describes (lines.filter (· ≠ "")) points := by
  induction h with
  | nil => exact ⟨[], .nil, .nil⟩
  | @last point line hLine =>
      rcases (hPrintable point List.mem_cons_self).describes hLine with
        ⟨hDescribes, hSome, hWhole, _⟩
      refine ⟨[line], .last (by simpa using hSome) hWhole, ?_⟩
      rw [List.filter_cons_of_pos (by simpa using hSome)]
      exact .cons hDescribes .nil
  | @point point points line rest hLine hRest ih =>
      rw [List.forall_mem_cons] at hPrintable
      rcases hPrintable.1.describes hLine with
        ⟨hDescribes, hSome, hWhole, hReturn⟩
      rcases ih hPrintable.2 with ⟨lines, hLines, hPoints⟩
      have hEnd : line.toList.getLast? ≠ some '\r' := by
        intro hLast
        exact hReturn (List.mem_of_getLast? hLast)
      refine ⟨line :: lines, .feed hWhole hEnd hLines, ?_⟩
      rw [List.filter_cons_of_pos (by simpa using hSome)]
      exact .cons hDescribes hPoints
  | @empty points rest hRest ih =>
      rcases ih hPrintable with ⟨lines, hLines, hPoints⟩
      have hEmpty := @Text.Lined.feed [] _ _ nofun nofun hLines
      refine ⟨"" :: lines, hEmpty, ?_⟩
      rwa [List.filter_cons_of_neg (by simp)]

theorem readTable_toUTF8
    (h : Tables text points) :
    readTable text.toUTF8.data.toList = .ok points := by
  rw [readTable_eq_ok_iff]
  refine ⟨text, ?_, h⟩
  apply ByteArray.ext
  rw [List.data_toByteArray, Array.toArray_toList]

/-
  A table is read if it follows its grammar, and is read as
  the mount points that the grammar tells. Mount points that
  are printed in any spacing are read as they were.
-/
theorem readTable_by_grammar :
    (∀ (bytes : List UInt8) (points : List Point),
      readTable bytes = .ok points ↔
        ∃ text : String,
          text.toUTF8 = bytes.toByteArray ∧ Tables text points) ∧
    (∀ bytes : List UInt8,
      (∃ points, readTable bytes = .ok points) ↔
        bytes.toByteArray.IsValidUTF8 ∧
          ∀ (text : String) (lines : List String),
            text.toUTF8 = bytes.toByteArray →
              Text.Lined (lines.map String.toList) text.toList →
                ∀ line ∈ lines, line ≠ "" → IsEntry line) ∧
    (∀ (points : List Point) (text : String),
      (∀ point ∈ points, Printable point) →
        PrintsTable points text.toList →
          readTable text.toUTF8.data.toList = .ok points) := by
  refine ⟨fun _ _ => readTable_eq_ok_iff,
    fun _ => exists_readTable_eq_ok_iff, ?_⟩
  intro points text hPrintable hPrints
  exact readTable_toUTF8 (hPrints.exists_lined hPrintable)

/- A mount point between empty lines, printed with a tab. -/
theorem readTable_by_grammar_spaced :
    let point : Point :=
      { device := ⟨"/dev/0"⟩
        path := ⟨"/mnt"⟩
        filesystem := "ext4"
        options := ["ro", "", "a=1"]
        dumpInterval := 0
        checkOrder := -1 }
    let line := "/dev/0 \t/mnt ext4 ro,,a=1 0 -1"
    let text := "\n" ++ line ++ "\n\n"
    Printable point ∧ PrintsTable [point] text.toList ∧
      readTable text.toUTF8.data.toList = .ok [point] := by
  intro point line text
  have hPrintable : Printable point := by
    constructor
    all_goals decide
  have hSpace : Separates [' '] := ⟨by simp, by simp⟩
  have hTab : Separates [' ', '\t'] := ⟨by simp, by simp⟩
  have hSplit :
      line.toList =
        "/dev/0".toList ++ [' ', '\t'] ++
          ("/mnt".toList ++ [' '] ++ ("ext4".toList ++ [' '] ++
            ("ro,,a=1".toList ++ [' '] ++ ("0".toList ++ [' '] ++
              "-1".toList)))) := by
    decide
  have hLine :
      PrintsFields (Fields.ofPoint point).toList line.toList := by
    rw [hSplit]
    exact .cons hTab (.cons hSpace (.cons hSpace (.cons hSpace
      (.cons hSpace .last))))
  have hPrints : PrintsTable [point] text.toList := by
    have hText :
        text.toList = '\n' :: (line.toList ++ '\n' :: ['\n']) := by
      decide
    rw [hText]
    exact .empty (.point hLine (.empty .nil))
  have hAll : ∀ other ∈ [point], Printable other := by
    simpa using hPrintable
  exact ⟨hPrintable, hPrints,
    readTable_by_grammar.2.2 [point] text hAll hPrints⟩

end Mount

end BlockVolumes
