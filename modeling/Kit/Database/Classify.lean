import Kit.Basic

/-
  `_dbErrToError`: the classification of driver errors by the
  text they render.

  The classifier looks for `_DATABASE_ERR_PGCODE`, the regular
  expression `\(SQLSTATE (.*)\)`, in the error's text, and calls
  the error an integrity violation when the captured group is one
  of seven `pgerrcode` codes. Go's `regexp` reports the leftmost
  match and, within it, the submatch a backtracking matcher would
  choose; `pgcodeSubmatch` is that search for this one pattern.

  Main declarations:
    * `groupThenClose`, `pgcodeAt`, `pgcodeSubmatch`
    * `findStringSubmatch`, `dbErrToError`
    * `pgcodeSubmatch_rendered`
-/

------------------------------------------------------------
-- The SQLSTATE Pattern
------------------------------------------------------------

namespace Kit

namespace Database

/- The literal `\(SQLSTATE ` that opens `_DATABASE_ERR_PGCODE`. -/
def pgcodeOpen : List Char :=
  "(SQLSTATE ".data

/-
  `(.*)\)` at the head of `s`: `.` takes any character but a
  newline, as many as it can, and gives them back one by one
  until a `)` follows. The result is the captured group.
-/
def groupThenClose : List Char → Option (List Char)
  | [] => none
  | c :: s =>
      if c = '\n' then none
      else
        match groupThenClose s with
        | some g => some (c :: g)
        | none => if c = ')' then some [] else none

/- The group of a match of the pattern that starts at the head of `s`. -/
def pgcodeAt
    (s : List Char) : Option (List Char) :=
  if pgcodeOpen.isPrefixOf s then
    groupThenClose (s.drop pgcodeOpen.length)
  else none

/- The group of the leftmost match of the pattern in `s`. -/
def pgcodeSubmatch : List Char → Option (List Char)
  | [] => none
  | s@(_ :: rest) =>
      (pgcodeAt s).orElse fun _ => pgcodeSubmatch rest

/-
  `_DATABASE_ERR_PGCODE.FindStringSubmatch(s)`: the text of the
  leftmost match and of its group, or `nil`.
-/
def findStringSubmatch
    (s : String) : List String :=
  match pgcodeSubmatch s.data with
  | some g => [⟨pgcodeOpen ++ g ++ [')']⟩, ⟨g⟩]
  | none => []

end Database

end Kit

------------------------------------------------------------
-- Classification
------------------------------------------------------------

namespace Kit

namespace Database

namespace Pgerrcode

def integrityConstraintViolation : String := "23000"
def restrictViolation : String := "23001"
def notNullViolation : String := "23502"
def foreignKeyViolation : String := "23503"
def uniqueViolation : String := "23505"
def checkViolation : String := "23514"
def exclusionViolation : String := "23P01"

end Pgerrcode

/- The codes of the `switch` in `_dbErrToError`. -/
def integrityCodes : List String :=
  [Pgerrcode.integrityConstraintViolation, Pgerrcode.restrictViolation,
    Pgerrcode.notNullViolation, Pgerrcode.foreignKeyViolation,
    Pgerrcode.uniqueViolation, Pgerrcode.checkViolation,
    Pgerrcode.exclusionViolation]

/- `pgx.ErrNoRows.Error()` -/
def errNoRowsText : String :=
  "no rows in result set"

/- `_dbErrToError(err)`, for a driver error known by its text. -/
def dbErrToError : Option String → Option Error
  | none => none
  | some err =>
      let integrity :=
        match findStringSubmatch err with
        | [_, code] => decide (code ∈ integrityCodes)
        | _ => false
      let kind :=
        if integrity then ErrorKind.databaseIntegrityViolation
        else if err = errNoRowsText then .databaseNoRows
        else .databaseGeneric
      some (.wrap kind (.raw err))

end Database

end Kit

------------------------------------------------------------
-- Rendered Driver Errors
------------------------------------------------------------

namespace Kit

namespace Database

/-
  A SQLSTATE code as the server sends it: five digits or
  upper-case letters.
-/
structure SqlState where
  code : String
  five : code.length = 5
  alnum : ∀ ch ∈ code.data, ch.isDigit ∨ ch.isUpper

/- No match starts at a character other than `(`. -/
theorem pgcodeSubmatch_append_of_not_mem
    {s : List Char}
    (t : List Char)
    (hs : '(' ∉ s) :
    pgcodeSubmatch (s ++ t) = pgcodeSubmatch t := by
  induction s with
  | nil => rfl
  | cons c s ih =>
      simp only [List.mem_cons, not_or] at hs
      have hAt : pgcodeAt (c :: (s ++ t)) = none := by
        simp [pgcodeAt, pgcodeOpen, List.isPrefixOf, hs.1]
      rw [List.cons_append, pgcodeSubmatch, hAt, ih hs.2]
      rfl

/- Before the last `)`, a newline-free group is captured whole. -/
theorem groupThenClose_append_close
    {g : List Char}
    (hg : '\n' ∉ g) :
    groupThenClose (g ++ [')']) = some g := by
  induction g with
  | nil => decide
  | cons c g ih =>
      simp only [List.mem_cons, not_or] at hg
      simp [groupThenClose, ih hg.2, Ne.symm hg.1]

/-
  In the text `m (SQLSTATE c)` that pgconn renders, the code is
  the captured group when the message holds no `(` and the code
  no newline.
-/
theorem pgcodeSubmatch_rendered
    {m c : List Char}
    (hm : '(' ∉ m)
    (hc : '\n' ∉ c) :
    pgcodeSubmatch (m ++ ' ' :: (pgcodeOpen ++ c ++ [')'])) =
      some c := by
  have hSkip : '(' ∉ m ++ [' '] := by simpa using hm
  have hAt : pgcodeAt (pgcodeOpen ++ c ++ [')']) = some c := by
    simp [pgcodeAt, List.append_assoc, groupThenClose_append_close hc]
  rw [← List.singleton_append, ← List.append_assoc,
    pgcodeSubmatch_append_of_not_mem _ hSkip]
  obtain ⟨x, rest, hCons⟩ :
      ∃ x rest, pgcodeOpen ++ c ++ [')'] = x :: rest :=
    ⟨'(', _, rfl⟩
  rw [hCons, pgcodeSubmatch, ← hCons, hAt]
  rfl

/-
  A driver error rendered as `m (SQLSTATE c)`, with no `(` in
  `m`, is an integrity violation exactly when `c` is one of the
  seven codes, and generic otherwise.
-/
theorem dbErrToError_rendered
    (m : String)
    (c : SqlState)
    (hm : '(' ∉ m.data) :
    (dbErrToError (some (m ++ " (SQLSTATE " ++ c.code ++ ")"))).bind
        Error.kind? =
      some (if c.code ∈ integrityCodes then .databaseIntegrityViolation
        else .databaseGeneric) := by
  have hc : '\n' ∉ c.code.data := fun h => by simpa using c.alnum _ h
  have hData : (m ++ " (SQLSTATE " ++ c.code ++ ")").data =
      m.data ++ ' ' :: (pgcodeOpen ++ c.code.data ++ [')']) := by
    simp [pgcodeOpen]
  have hFind : findStringSubmatch (m ++ " (SQLSTATE " ++ c.code ++ ")") =
      [⟨pgcodeOpen ++ c.code.data ++ [')']⟩, c.code] := by
    simp only [findStringSubmatch, hData, pgcodeSubmatch_rendered hm hc]
  have hNoRows : m ++ " (SQLSTATE " ++ c.code ++ ")" ≠ errNoRowsText :=
    fun h => by
      have hLast : (m ++ " (SQLSTATE " ++ c.code ++ ")").data.getLast? =
          errNoRowsText.data.getLast? := by rw [h]
      have hData' : (m ++ " (SQLSTATE " ++ c.code ++ ")").data =
          (m.data ++ ' ' :: (pgcodeOpen ++ c.code.data)) ++ [')'] := by
        simp [hData]
      rw [hData', List.getLast?_concat] at hLast
      exact absurd hLast (by decide)
  by_cases hCode : c.code ∈ integrityCodes <;>
    simp [dbErrToError, hFind, hCode, hNoRows, Error.kind?]

/- A unique violation rendered after a plain message. -/
theorem dbErrToError_rendered_unique_violation :
    '(' ∉ "ERROR: duplicate key value".data ∧
      (dbErrToError (some ("ERROR: duplicate key value" ++ " (SQLSTATE " ++
          "23505" ++ ")"))).bind Error.kind? =
        some .databaseIntegrityViolation :=
  ⟨by decide,
    dbErrToError_rendered "ERROR: duplicate key value"
      ⟨"23505", by decide, by decide⟩ (by decide)⟩

/-
  A message that itself holds `(SQLSTATE ` moves the leftmost
  match into the message: the group then runs from there to the
  last `)`, and a unique violation is classified as generic.
-/
theorem dbErrToError_sqlstate_in_message :
    Pgerrcode.uniqueViolation ∈ integrityCodes ∧
      (dbErrToError (some ("(SQLSTATE " ++ " (SQLSTATE " ++
          Pgerrcode.uniqueViolation ++ ")"))).bind Error.kind? =
        some .databaseGeneric := by
  decide

end Database

end Kit
