import BlockVolumes.Memory.Shell
import BlockVolumes.Mount.SystemMounter
import BlockVolumes.Proofs.Program.Exchanges

/-
  A file that may change while it is read is read again until
  two reads in a row agree. What comes of that, and after how
  many reads, is settled by what the single reads give.

  Key definitions include:
    * `Mount.Unsettled`
    * `Mount.afterReads`
    * `Mount.readResult`
    * `Mount.unsettledFailure`

  Key theorems include:
    * `Mount.Unsettled.cases`
    * `Mount.afterReads_eq_append`
    * `Mount.run_consistentRead_of_unsettled`
    * `Mount.SystemMounter.repeated_of_run_listFrom`
    * `Mount.consistentRead_returns_repeated`
-/

namespace BlockVolumes

namespace Mount

open Files (Failure)
open Interface (Record Replies)

------------------------------------------------------------
-- Results of Reads
------------------------------------------------------------

/-
  Whether the first so many reads all give a content, and none
  of them the same content as the read before it.
-/
structure Unsettled
    (results : Nat → Except Failure (List UInt8))
    (count : Nat) : Prop where
  succeeded : ∀ i < count, ∃ content, results i = .ok content
  changed : ∀ i, i + 1 < count → results i ≠ results (i + 1)

namespace Unsettled

variable {results : Nat → Except Failure (List UInt8)}
variable {count : Nat}
variable {content : List UInt8}

theorem zero :
    Unsettled results 0 :=
  ⟨nofun, nofun⟩

theorem one
    (hFirst : results 0 = .ok content) :
    Unsettled results 1 := by
  constructor
  · intro i hi
    rw [Nat.lt_one_iff.mp hi]
    exact ⟨content, hFirst⟩
  · intro i hi
    omega

theorem before
    (h : Unsettled results (count + 1)) :
    Unsettled results count :=
  ⟨fun i hi => h.succeeded i (Nat.lt_succ_of_lt hi),
    fun i hi => h.changed i (Nat.lt_succ_of_lt hi)⟩

/- One more read that gives another content settles nothing. -/
theorem after
    (h : Unsettled results (count + 1))
    (hRead : results (count + 1) = .ok content)
    (hOther : results count ≠ results (count + 1)) :
    Unsettled results (count + 2) := by
  constructor
  · intro i hi
    rcases Nat.lt_succ_iff_lt_or_eq.mp hi with hBefore | rfl
    · exact h.succeeded i hBefore
    · exact ⟨content, hRead⟩
  · intro i hi
    rcases Nat.lt_succ_iff_lt_or_eq.mp hi with hBefore | hLast
    · exact h.changed i hBefore
    · cases hLast
      exact hOther

/-
  Reads stay unsettled unless there is a first one that fails,
  or that gives the same content as the read before it.
-/
theorem cases
    (results : Nat → Except Failure (List UInt8))
    (count : Nat) :
    Unsettled results count ∨
      ∃ i < count, Unsettled results i ∧
        ((∃ error, results i = .error error) ∨
          ∃ last content,
            i = last + 1 ∧ results last = .ok content ∧
              results i = .ok content) := by
  induction count with
  | zero => exact .inl zero
  | succ count ih =>
      rcases ih with h | ⟨i, hi, hFirst⟩
      · cases hRead : results count with
        | error error =>
            exact .inr ⟨count, Nat.lt_succ_self count, h,
              .inl ⟨error, hRead⟩⟩
        | ok content =>
            cases count with
            | zero => exact .inl (one hRead)
            | succ last =>
                by_cases hSame : results last = results (last + 1)
                · exact .inr ⟨last + 1, Nat.lt_succ_self _, h,
                    .inr ⟨last, content, rfl, hSame.trans hRead,
                      hRead⟩⟩
                · exact .inl (h.after hRead hSame)
      · exact .inr ⟨i, Nat.lt_succ_of_lt hi, hFirst⟩

end Unsettled

------------------------------------------------------------
-- Reads in a Row
------------------------------------------------------------

/-
  The record after a file has been read some times in a row, in
  surroundings that may reply otherwise each time.
-/
def afterReads
    (replies : Replies Shell)
    (path : Path)
    (past : Record Shell) : Nat → Record Shell
  | 0 => past
  | count + 1 =>
      (replies.answer (.read path)
        (afterReads replies path past count)).2

/- What the single reads give, counted from zero. -/
def readResult
    (replies : Replies Shell)
    (path : Path)
    (past : Record Shell)
    (i : Nat) : Except Failure (List UInt8) :=
  replies (.read path) (afterReads replies path past i)

/- The record has grown by so many reads of the file. -/
theorem afterReads_eq_append
    (replies : Replies Shell)
    (path : Path)
    (past : Record Shell)
    (count : Nat) :
    ∃ reads : Record Shell,
      afterReads replies path past count = reads ++ past ∧
        reads.length = count ∧
        ∀ exchange ∈ reads, exchange.request = .read path := by
  induction count with
  | zero => exact ⟨[], rfl, rfl, nofun⟩
  | succ count ih =>
      rcases ih with ⟨reads, hRecord, hLength, hReads⟩
      refine ⟨⟨.read path, readResult replies path past count⟩ ::
        reads, ?_, congrArg Nat.succ hLength, ?_⟩
      · rw [List.cons_append, ← hRecord]
        rfl
      · intro exchange hMem
        rcases List.mem_cons.mp hMem with rfl | hEarlier
        · rfl
        · exact hReads exchange hEarlier

/- How a reading fails whose attempts have all been made. -/
def unsettledFailure
    (path : Path)
    (attempts : Nat) : Failure :=
  .ofText
    ("could not get consistent content of '" ++ path.text ++
      "' after " ++ toString attempts ++ " attempts")

section Runs

variable {replies : Replies Shell}
variable {path : Path}
variable {past : Record Shell}
variable {attempts left i : Nat}
variable {content : List UInt8}
variable {error : Failure}

theorem run_readFile :
    replies.run (Shell.readFile path)
        (afterReads replies path past i) =
      (readResult replies path past i,
        afterReads replies path past (i + 1)) :=
  Program.run_ofExcept _ _ _

/- A read that fails ends the reading. -/
theorem run_readUntilStable_of_error
    (hRead : readResult replies path past i = .error error) :
    replies.run (readUntilStable path attempts content (left + 1))
        (afterReads replies path past i) =
      (.error error, afterReads replies path past (i + 1)) :=
  Replies.run_bind_of_error (run_readFile.trans (by rw [hRead])) _

/- So does a read that gives the same content again. -/
theorem run_readUntilStable_of_same
    (hRead : readResult replies path past i = .ok content) :
    replies.run (readUntilStable path attempts content (left + 1))
        (afterReads replies path past i) =
      (.ok content, afterReads replies path past (i + 1)) := by
  rw [readUntilStable, Program.bind_eq,
    Replies.run_bind_of_ok (run_readFile.trans (by rw [hRead])),
    if_pos rfl]
  rfl

/- After another content there is one attempt less. -/
theorem run_readUntilStable_of_other
    {again : List UInt8}
    (hRead : readResult replies path past i = .ok again)
    (hOther : again ≠ content) :
    replies.run (readUntilStable path attempts content (left + 1))
        (afterReads replies path past i) =
      replies.run (readUntilStable path attempts again left)
        (afterReads replies path past (i + 1)) := by
  rw [readUntilStable, Program.bind_eq,
    Replies.run_bind_of_ok (run_readFile.trans (by rw [hRead])),
    if_neg hOther]

/-
  While nothing is settled, the next read is compared with the
  last content, and each read but the first one has taken an
  attempt.
-/
theorem run_consistentRead_of_unsettled
    (hUnsettled : Unsettled (readResult replies path past) (i + 1))
    (hLast : readResult replies path past i = .ok content)
    (hLe : i ≤ attempts) :
    replies.run (consistentRead path attempts) past =
      replies.run
        (readUntilStable path attempts content (attempts - i))
        (afterReads replies path past (i + 1)) := by
  induction i generalizing content with
  | zero =>
      have hFirst :
          replies.run (Shell.readFile path) past =
            (.ok content, afterReads replies path past 1) := by
        rw [← hLast]
        exact run_readFile (i := 0)
      exact Replies.run_bind_of_ok hFirst _
  | succ i ih =>
      rcases hUnsettled.succeeded i (by omega) with
        ⟨earlier, hEarlier⟩
      have hOther : content ≠ earlier := by
        rintro rfl
        exact hUnsettled.changed i (by omega)
          (hEarlier.trans hLast.symm)
      have hLeft : attempts - i = attempts - (i + 1) + 1 := by
        omega
      rw [ih hUnsettled.before hEarlier (by omega), hLeft]
      exact run_readUntilStable_of_other hLast hOther

/- The first read that fails ends the reading. -/
theorem run_consistentRead_of_error
    (hUnsettled : Unsettled (readResult replies path past) i)
    (hRead : readResult replies path past i = .error error)
    (hLe : i ≤ attempts) :
    replies.run (consistentRead path attempts) past =
      (.error error, afterReads replies path past (i + 1)) := by
  cases i with
  | zero =>
      have hFirst :
          replies.run (Shell.readFile path) past =
            (.error error, afterReads replies path past 1) := by
        rw [← hRead]
        exact run_readFile (i := 0)
      exact Replies.run_bind_of_error hFirst _
  | succ i =>
      rcases hUnsettled.succeeded i (Nat.lt_succ_self i) with
        ⟨content, hLast⟩
      have hLeft : attempts - i = attempts - (i + 1) + 1 := by
        omega
      rw [run_consistentRead_of_unsettled hUnsettled hLast (by omega),
        hLeft]
      exact run_readUntilStable_of_error hRead

/- The first content that is read twice in a row is the result. -/
theorem run_consistentRead_of_same
    (hUnsettled : Unsettled (readResult replies path past) (i + 1))
    (hLast : readResult replies path past i = .ok content)
    (hRead : readResult replies path past (i + 1) = .ok content)
    (hLe : i + 1 ≤ attempts) :
    replies.run (consistentRead path attempts) past =
      (.ok content, afterReads replies path past (i + 2)) := by
  have hLeft : attempts - i = attempts - (i + 1) + 1 := by
    omega
  rw [run_consistentRead_of_unsettled hUnsettled hLast (by omega),
    hLeft]
  exact run_readUntilStable_of_same hRead

/- Without one, the reading fails after the last attempt. -/
theorem run_consistentRead_of_changing
    (hUnsettled :
      Unsettled (readResult replies path past) (attempts + 1)) :
    replies.run (consistentRead path attempts) past =
      (.error (unsettledFailure path attempts),
        afterReads replies path past (attempts + 1)) := by
  rcases hUnsettled.succeeded attempts (Nat.lt_succ_self attempts)
    with ⟨content, hLast⟩
  rw [run_consistentRead_of_unsettled hUnsettled hLast
    (Nat.le_refl attempts), Nat.sub_self]
  rfl

/- Nothing else is the result than what was read twice in a row. -/
theorem repeated_of_run_consistentRead
    (hRun :
      (replies.run (consistentRead path attempts) past).1 =
        .ok content) :
    ∃ last < attempts,
      Unsettled (readResult replies path past) (last + 1) ∧
        readResult replies path past last = .ok content ∧
        readResult replies path past (last + 1) = .ok content := by
  rcases Unsettled.cases (readResult replies path past)
      (attempts + 1) with
    hUnsettled | ⟨i, hi, hUnsettled, hFirst⟩
  · rw [run_consistentRead_of_changing hUnsettled] at hRun
    exact nomatch hRun
  · have hLe : i ≤ attempts := Nat.le_of_lt_succ hi
    rcases hFirst with
      ⟨error, hError⟩ | ⟨last, same, rfl, hLast, hRead⟩
    · rw [run_consistentRead_of_error hUnsettled hError hLe] at hRun
      exact nomatch hRun
    · rw [run_consistentRead_of_same hUnsettled hLast hRead hLe]
        at hRun
      cases hRun
      exact ⟨last, hLe, hUnsettled, hLast, hRead⟩

/-
  A mount table is listed only from a content that was read
  twice in a row, and so not from one that was changing.
-/
theorem SystemMounter.repeated_of_run_listFrom
    {points : List Point}
    (hRun : (replies.run (listFrom path) past).1 = .ok points) :
    ∃ content, readTable content = .ok points ∧
      ∃ last < tableAttempts,
        readResult replies path past last = .ok content ∧
          readResult replies path past (last + 1) = .ok content := by
  rcases hReading :
      replies.run (consistentRead path tableAttempts) past with
    ⟨error | content, now⟩
  · have hFailed :
        replies.run (asError (consistentRead path tableAttempts))
            past =
          (.error (.other error), now) := by
      rw [asError, Replies.run_mapError, hReading]
      rfl
    rw [listFrom, Program.bind_eq,
      Replies.run_bind_of_error hFailed] at hRun
    exact nomatch hRun
  · have hRead :
        replies.run (asError (consistentRead path tableAttempts))
            past =
          (.ok content, now) := by
      rw [asError, Replies.run_mapError, hReading]
      rfl
    have hTable : readTable content = .ok points := by
      rw [listFrom, Program.bind_eq,
        Replies.run_bind_of_ok hRead] at hRun
      have hEnd :=
        Program.run_ofExcept replies.answer (readTable content) now
      exact (congrArg Prod.fst hEnd).symm.trans hRun
    rcases repeated_of_run_consistentRead
        (congrArg Prod.fst hReading) with
      ⟨last, hLt, _, hLast, hAgain⟩
    exact ⟨content, hTable, last, hLt, hLast, hAgain⟩

end Runs

/-
  A reading returns the first content that two reads in a row
  give, right after the second of them, and nothing else. The
  first read that fails before that ends it with its failure.
  There are at most one read more than attempts, and if each of
  these gives another content than the one before, the reading
  fails. All that it asks for is to read the file.
-/
theorem consistentRead_returns_repeated
    (path : Path)
    (attempts : Nat)
    (replies : Replies Shell)
    (past : Record Shell) :
    let results := readResult replies path past
    let after := afterReads replies path past
    let run := replies.run (consistentRead path attempts) past
    (∀ i content,
      1 ≤ i → i ≤ attempts → Unsettled results i →
        results (i - 1) = .ok content → results i = .ok content →
          run = (.ok content, after (i + 1))) ∧
    (∀ i error,
      i ≤ attempts → Unsettled results i →
        results i = .error error →
          run = (.error error, after (i + 1))) ∧
    (Unsettled results (attempts + 1) →
      run =
        (.error (unsettledFailure path attempts),
          after (attempts + 1))) ∧
    (∀ content,
      run.1 = .ok content →
        ∃ i, 1 ≤ i ∧ i ≤ attempts ∧ Unsettled results i ∧
          results (i - 1) = .ok content ∧
          results i = .ok content) ∧
    ∀ count, ∃ reads : Record Shell,
      after count = reads ++ past ∧ reads.length = count ∧
        ∀ exchange ∈ reads, exchange.request = .read path := by
  intro results after run
  refine ⟨?_, ?_, run_consistentRead_of_changing, ?_,
    afterReads_eq_append replies path past⟩
  · intro i content hPos hLe hUnsettled hLast hRead
    cases i with
    | zero => exact absurd hPos (by decide)
    | succ last =>
        exact run_consistentRead_of_same hUnsettled hLast hRead hLe
  · intro i error hLe hUnsettled hRead
    exact run_consistentRead_of_error hUnsettled hRead hLe
  · intro content hRun
    rcases repeated_of_run_consistentRead hRun with
      ⟨last, hLt, hUnsettled, hLast, hRead⟩
    exact ⟨last + 1, Nat.le_add_left 1 last, hLt, hUnsettled,
      hLast, hRead⟩

/- A file that changes after the first read is read three times. -/
theorem consistentRead_returns_repeated_third :
    let path : Path := ⟨"/proc/mounts"⟩
    let replies : Replies Shell := fun request past =>
      match request with
      | .read _ => .ok (if past.isEmpty then [1] else [2])
      | request => (Memory.Shell.answer request {}).1
    let run := replies.run (consistentRead path 3) []
    Unsettled (readResult replies path []) 2 ∧
      run = (.ok [2], afterReads replies path [] 3) := by
  intro path replies run
  have hFirst : readResult replies path [] 0 = .ok [1] := rfl
  have hSecond : readResult replies path [] 1 = .ok [2] := rfl
  have hUnsettled : Unsettled (readResult replies path []) 2 := by
    refine (Unsettled.one hFirst).after hSecond ?_
    rw [hFirst, hSecond]
    simp
  exact ⟨hUnsettled,
    (consistentRead_returns_repeated path 3 replies []).1 2 [2]
      (by decide) (by decide) hUnsettled hSecond rfl⟩

end Mount

end BlockVolumes
