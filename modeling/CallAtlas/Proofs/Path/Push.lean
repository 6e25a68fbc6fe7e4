import CallAtlas.Proofs.Basic
import CallAtlas.Proofs.Workspace.Query

/-!
# Paths behind paths

A part that is pushed behind a path adds its component to those of the path and changes none of
them, however the path is written: with slashes that repeat or stand at its end, with dots, or with
the root in front. Only the empty path is an exception, because a dot behind it stands in front of
everything.
-/

namespace CallAtlas.Path

/-- The segments of a text between its slashes that lead somewhere: not the empty ones and not the
single dots. -/
def segments (s : String) : List String :=
  ((s.toList.splitOn '/').filter fun piece => piece ≠ [] ∧ piece ≠ ['.']).map String.ofList

/-- The component that a segment stands for. -/
def ofSegment (segment : String) : Component :=
  if segment = ".." then .parent else .name segment

/-- Between the slashes of a text stand its pieces. -/
theorem pieces_eq_splitOn (s : List Char) : pieces s = s.splitOn '/' := by
  fun_induction pieces s with
  | case1 => rfl
  | case2 rest ih => simp [List.splitOn, List.splitOnP_cons_eq_if_modifyHead, ih]
  | case3 c rest slash none ih => exact absurd none (pieces_ne_nil rest)
  | case4 c rest slash piece more found ih =>
    rw [found] at ih
    have apart : (c == '/') = false := beq_eq_false_iff_ne.mpr slash
    rw [List.splitOn, List.splitOnP_cons_eq_if_modifyHead, apart, ← List.splitOn, ← ih]
    rfl

theorem pieces_append_slash (s t : List Char) : pieces (s ++ '/' :: t) = pieces s ++ pieces t := by
  simp only [pieces_eq_splitOn]
  exact List.splitOnP_append_cons s t (beq_self_eq_true '/')

/-- What a path starts with is settled in front of its first slash. -/
theorem start_append_slash {s : List Char} (present : s ≠ []) (t : List Char) :
    start (s ++ '/' :: t) = start s := by
  unfold start
  rw [pieces_append_slash, List.head?_append_of_ne_nil _ present,
    List.head?_append_of_ne_nil _ (pieces_ne_nil s)]

theorem start_behind_slash (s t : List Char) : start (s ++ '/' :: t) = start (s ++ ['/']) := by
  cases s with
  | nil => rfl
  | cons c rest => rw [start_append_slash (by simp), start_append_slash (by simp)]

/-- The component of a piece that is a segment. -/
theorem componentOf?_eq (piece : List Char) :
    componentOf? piece =
      if piece ≠ [] ∧ piece ≠ ['.'] then some (ofSegment (String.ofList piece)) else none := by
  unfold componentOf? ofSegment
  split
  · rfl
  · rfl
  · rfl
  · rename_i notEmpty notDot notDots
    have different : String.ofList piece ≠ ".." := by
      intro same
      have dots := congrArg String.toList same
      rw [String.toList_ofList] at dots
      exact notDots dots
    rw [if_pos ⟨notEmpty, notDot⟩, if_neg different]

theorem filterMap_componentOf? (s : String) :
    (pieces s.toList).filterMap componentOf? = (segments s).map ofSegment := by
  rw [segments, ← pieces_eq_splitOn, List.map_map]
  induction pieces s.toList with
  | nil => rfl
  | cons piece rest ih =>
    by_cases kept : piece ≠ [] ∧ piece ≠ ['.']
    · rw [List.filterMap_cons_some (by rw [componentOf?_eq, if_pos kept]),
        List.filter_cons_of_pos (by simpa using kept), ih]
      rfl
    · rw [List.filterMap_cons_none (by rw [componentOf?_eq, if_neg kept]),
        List.filter_cons_of_neg (by simpa using kept), ih]

section Pushing

variable {path : Path} {part : String}

/-- A part is a piece between slashes that is not empty. -/
structure IsPart (part : String) : Prop where
  whole : '/' ∉ part.toList
  present : part.toList ≠ []

theorem isPart_of_mem_parts {s : String} (member : part ∈ parts s) : IsPart part := by
  obtain ⟨piece, kept, rfl⟩ := List.mem_map.mp member
  obtain ⟨inside, present⟩ := List.mem_filter.mp kept
  refine ⟨?_, ?_⟩
  · rw [String.toList_ofList]
    exact slash_notMem_of_mem_pieces inside
  · rw [String.toList_ofList]
    simpa using present

theorem IsPart.startsAtRoot_eq_false (isPart : IsPart part) : startsAtRoot part = false := by
  refine beq_eq_false_iff_ne.mpr fun slash => ?_
  exact isPart.whole (List.mem_of_head? slash)

/-- The text of a path with a part behind it that is not absolute: the part follows exactly one
slash more than the path had at its end, or none. -/
theorem toList_push (relative : startsAtRoot part = false) (path : Path) :
    (path.push part).text.toList =
      if path.text.toList.getLast?.all (· == '/') then path.text.toList ++ part.toList
      else path.text.toList ++ '/' :: part.toList := by
  rw [push, relative, if_neg Bool.false_ne_true]
  split <;> simp

theorem components_of_empty (empty : path.text.toList = []) : path.components = [] := by
  rw [components, empty]
  rfl

/-- Behind the empty path a part stands alone. -/
theorem push_of_empty (relative : startsAtRoot part = false) (empty : path.text.toList = []) :
    path.push part = ⟨part⟩ := by
  have text := toList_push relative path
  rw [empty, List.nil_append] at text
  exact congrArg Path.mk (String.toList_inj.mp (text.trans (if_pos rfl)))

/-- A part behind a path that is not empty adds the components of its pieces. -/
theorem components_push (relative : startsAtRoot part = false) (present : path.text.toList ≠ []) :
    (path.push part).components =
      path.components ++ (pieces part.toList).filterMap componentOf? := by
  unfold components
  rw [toList_push relative]
  by_cases ends : path.text.toList.getLast?.all (· == '/') = true
  · -- The slash at the end of the path is the one that the part follows.
    obtain ⟨front, split⟩ : ∃ front, path.text.toList = front ++ ['/'] := by
      obtain ⟨front, last, split⟩ := (List.eq_nil_or_concat _).resolve_left present
      rw [List.concat_eq_append] at split
      rw [split, List.getLast?_concat, Option.all_some, beq_iff_eq] at ends
      exact ⟨front, ends ▸ split⟩
    rw [if_pos ends, split, List.append_assoc, List.singleton_append, start_behind_slash,
      pieces_append_slash, pieces_append_slash, List.filterMap_append,
      List.filterMap_append, ← List.append_assoc, ← List.append_assoc]
    exact congrArg (· ++ _) (List.append_nil _).symm
  · rw [if_neg ends, start_append_slash present, pieces_append_slash, List.filterMap_append,
      List.append_assoc]

theorem IsPart.push_ne_nil (isPart : IsPart part) (path : Path) :
    (path.push part).text.toList ≠ [] := by
  rw [toList_push isPart.startsAtRoot_eq_false]
  split <;> simp [isPart.present]

/-- A part behind a path that is not empty adds its component. -/
theorem IsPart.components_push (isPart : IsPart part) (present : path.text.toList ≠ []) :
    (path.push part).components = path.components ++ (componentOf? part.toList).toList := by
  rw [Path.components_push isPart.startsAtRoot_eq_false present,
    pieces_of_slash_notMem isPart.whole, filterMap_cons_eq_append, List.filterMap_nil,
    List.append_nil]

theorem components_pushAll {parts : List String} (each : ∀ part ∈ parts, IsPart part)
    (present : path.text.toList ≠ []) :
    (path.pushAll parts).components =
      path.components ++ parts.filterMap fun part => componentOf? part.toList := by
  induction parts generalizing path with
  | nil => exact (List.append_nil _).symm
  | cons part rest ih =>
    have isPart := each part List.mem_cons_self
    refine (ih (fun other member => each other (List.mem_cons_of_mem _ member))
      (isPart.push_ne_nil path)).trans ?_
    rw [isPart.components_push present, List.append_assoc, filterMap_cons_eq_append]

theorem pushAll_ne_nil {parts : List String} (each : ∀ part ∈ parts, IsPart part)
    (present : path.text.toList ≠ []) : (path.pushAll parts).text.toList ≠ [] := by
  induction parts generalizing path with
  | nil => exact present
  | cons part rest ih =>
    exact ih (fun other member => each other (List.mem_cons_of_mem _ member))
      ((each part List.mem_cons_self).push_ne_nil path)

/-- The parts of a text lead where its segments lead. -/
theorem filterMap_parts (s : String) :
    ((parts s).filterMap fun part => componentOf? part.toList) = (segments s).map ofSegment := by
  rw [← filterMap_componentOf?, parts, List.filterMap_map]
  induction pieces s.toList with
  | nil => rfl
  | cons piece rest ih =>
    by_cases present : piece = []
    · subst present
      exact ih
    · rw [List.filter_cons_of_pos (by simpa using present), List.filterMap_cons, ih,
        List.filterMap_cons]
      simp only [Function.comp_apply, String.toList_ofList]

end Pushing

end CallAtlas.Path
