import CallAtlas.Text.Lines

/-!
# Lines of joined rows

Rows without a line feed that are written with a line feed behind each are the lines of the text,
but for a carriage return at the end of a row, which is taken for a part of the line end.
-/

namespace CallAtlas.Text

/-- A row without the carriage return at its end. -/
def dropReturn (row : List Char) : List Char :=
  if row.getLast? = some '\r' then row.dropLast else row

theorem dropReturn_of_ne {row : List Char} (kept : row.getLast? ≠ some '\r') :
    dropReturn row = row :=
  if_neg kept

theorem dropReturn_cons (c : Char) {row : List Char} (longer : row ≠ []) :
    dropReturn (c :: row) = c :: dropReturn row := by
  unfold dropReturn
  rw [List.getLast?_cons_of_ne_nil longer, List.dropLast_cons_of_ne_nil longer]
  split <;> rfl

/-- A return behind a part of a row that does not end in one is dropped from what follows. -/
theorem dropReturn_append {front : List Char} (kept : front.getLast? ≠ some '\r')
    (behind : List Char) : dropReturn (front ++ behind) = front ++ dropReturn behind := by
  by_cases empty : behind = []
  · subst empty
    rw [List.append_nil, dropReturn_of_ne kept]
    exact (List.append_nil front).symm
  · have last : (front ++ behind).getLast? = behind.getLast? := by
      rw [List.getLast?_append, Option.or_of_isSome (by simpa using empty)]
    unfold dropReturn
    rw [last, List.dropLast_append_of_ne_nil empty]
    split <;> rfl

theorem splitLines_cons {c : Char} {rest line : List Char} {lines : List (List Char)}
    (inside : c ≠ '\n') (kept : c = '\r' → rest.head? ≠ some '\n')
    (split : splitLines rest = line :: lines) :
    splitLines (c :: rest) = (c :: line) :: lines := by
  rw [splitLines, split]
  · exact inside
  · rintro behind rfl rfl
    exact kept rfl rfl

/-- A row ends at the line feed behind it. -/
theorem splitLines_row {row : List Char} (plain : '\n' ∉ row) (rest : List Char) :
    splitLines (row ++ '\n' :: rest) = dropReturn row :: splitLines rest := by
  induction row with
  | nil => rfl
  | cons c row ih =>
    have inside : c ≠ '\n' := by
      rintro rfl
      exact plain List.mem_cons_self
    have split := ih fun member => plain (List.mem_cons_of_mem c member)
    cases row with
    | nil =>
      by_cases same : c = '\r'
      · subst same
        rfl
      · rw [dropReturn_of_ne (by simpa using same)]
        exact splitLines_cons inside (fun equal => absurd equal same) split
    | cons d row =>
      rw [dropReturn_cons c (List.cons_ne_nil d row)]
      apply splitLines_cons inside ?_ split
      rintro - same
      obtain rfl := Option.some.inj same
      exact plain (by simp)

theorem splitLines_rows {rows : List (List Char)} (plain : ∀ row ∈ rows, '\n' ∉ row) :
    splitLines (rows.flatMap (· ++ ['\n'])) = rows.map dropReturn := by
  induction rows with
  | nil => rfl
  | cons row rows ih =>
    rw [List.flatMap_cons, List.append_assoc, List.singleton_append,
      splitLines_row (plain row List.mem_cons_self),
      ih fun other member => plain other (List.mem_cons_of_mem row member), List.map_cons]

end CallAtlas.Text
