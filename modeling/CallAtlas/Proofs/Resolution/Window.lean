import CallAtlas.Proofs.Basic
import CallAtlas.Proofs.Text.Numeral
import CallAtlas.Resolution
import Mathlib.Data.List.Basic

/-!
# The window of a click

The entry that a click finds is the one under the key with the lowest line of the window: nothing
stands under the keys with a lower line of the window, and if nothing is found, under none of them.
-/

namespace CallAtlas

section Keys

variable {path identifier key : String} {line : UInt32}

/-- The key of a path, a line and an identifier, with the line as the library writes it. -/
theorem KeyParts.key_eq (path : String) (line : UInt32) (identifier : String) :
    KeyParts.key ⟨path, line, identifier⟩ =
      path ++ ":" ++ toString line.toNat ++ ":" ++ identifier := by
  rw [KeyParts.key, Text.ofWord, Text.ofNat_eq_repr]

theorem KeyParts.toList_key (parts : KeyParts) :
    parts.key.toList = (parts.path.toList ++ [':']) ++
      (Text.numeral parts.line.toNat ++ (':' :: parts.identifier.toList)) := by
  simp [KeyParts.key, Text.ofWord, Text.ofNat]

/-- A key has the line that it was made with. -/
theorem lineUnder?_key (path : String) (line : UInt32) (identifier : String) :
    lineUnder? path identifier (KeyParts.key ⟨path, line, identifier⟩) = some line := by
  have front : List.isPrefixOf? (path.toList ++ [':'])
      (path.toList ++ [':'] ++ (Text.numeral line.toNat ++ ':' :: identifier.toList)) =
        some (Text.numeral line.toNat ++ ':' :: identifier.toList) :=
    List.isPrefixOf?_eq_some_iff_append_eq.mpr rfl
  have numeral : (Text.numeral line.toNat ++ ':' :: identifier.toList).take
      ((Text.numeral line.toNat ++ ':' :: identifier.toList).length - (identifier.length + 1)) =
        Text.numeral line.toNat := by
    rw [List.length_append, List.length_cons, String.length_toList, Nat.add_sub_cancel]
    exact List.take_left
  simp only [lineUnder?, KeyParts.toList_key, front, Option.bind_eq_bind, Option.bind_some,
    numeral, Text.readWord?_numeral, if_pos]

/-- A key has a line only if it was made with that line. -/
theorem key_of_lineUnder? (found : lineUnder? path identifier key = some line) :
    KeyParts.key ⟨path, line, identifier⟩ = key := by
  simp only [lineUnder?, Option.bind_eq_bind, Option.bind_eq_some_iff] at found
  obtain ⟨_, -, _, -, same⟩ := found
  split at same
  · rename_i made
    rwa [← Option.some.inj same]
  · cases same

theorem key_inj_line {other : UInt32}
    (same : KeyParts.key ⟨path, line, identifier⟩ = KeyParts.key ⟨path, other, identifier⟩) :
    line = other := by
  have found := lineUnder?_key path line identifier
  rw [same, lineUnder?_key] at found
  exact (Option.some.inj found).symm

end Keys

/-- The entries under a path and an identifier are those under the keys with a line. -/
theorem CallGraph.lookup_entriesUnder (graph : CallGraph) (path identifier : String)
    (line : UInt32) :
    (graph.entriesUnder path identifier).lookup line = graph.lookup? path line identifier := by
  unfold entriesUnder lookup? get?
  induction graph.entries with
  | nil => rfl
  | cons member rest ih =>
    obtain ⟨key, entry⟩ := member
    rw [List.lookup_cons]
    cases found : lineUnder? path identifier key with
    | none =>
      have different : (KeyParts.key ⟨path, line, identifier⟩ == key) = false := by
        rw [beq_eq_false_iff_ne]
        rintro rfl
        rw [lineUnder?_key] at found
        cases found
      simpa [found, different] using ih
    | some own =>
      obtain rfl := key_of_lineUnder? found
      by_cases same : line = own
      · simp [found, same]
      · have different : (KeyParts.key ⟨path, line, identifier⟩ ==
            KeyParts.key ⟨path, own, identifier⟩) = false :=
          beq_eq_false_iff_ne.mpr fun equal => same (key_inj_line equal)
        have apart : (line == own) = false := beq_eq_false_iff_ne.mpr same
        simpa [found, different, List.lookup_cons, apart] using ih

section Lowest

theorem lowerEntry_le (a b : UInt32 × Entry) :
    (lowerEntry a b).1 ≤ a.1 ∧ (lowerEntry a b).1 ≤ b.1 := by
  unfold lowerEntry
  split
  · rename_i lower
    exact ⟨UInt32.le_of_lt lower, UInt32.le_refl b.1⟩
  · rename_i notLower
    exact ⟨UInt32.le_refl a.1, UInt32.not_lt.mp notLower⟩

theorem le_foldl_lowerEntry (first : UInt32 × Entry) (rest : List (UInt32 × Entry)) :
    ∀ other ∈ first :: rest, (rest.foldl lowerEntry first).1 ≤ other.1 := by
  induction rest generalizing first with
  | nil => simp
  | cons second rest ih =>
    have least := ih (lowerEntry first second)
    have front := least _ List.mem_cons_self
    obtain ⟨belowFirst, belowSecond⟩ := lowerEntry_le first second
    intro other member
    rcases List.mem_cons.mp member with rfl | member
    · exact UInt32.le_trans front belowFirst
    · rcases List.mem_cons.mp member with rfl | member
      · exact UInt32.le_trans front belowSecond
      · exact least other (List.mem_cons_of_mem _ member)

/-- Of two entries in front, a lookup no higher than both sees the lower one. -/
theorem lookup_lowerEntry {a b : UInt32 × Entry} {line : UInt32}
    (below : line ≤ (lowerEntry a b).1) (rest : List (UInt32 × Entry)) :
    (a :: b :: rest).lookup line = (lowerEntry a b :: rest).lookup line := by
  unfold lowerEntry at below ⊢
  split at below
  · rename_i lower
    have apart : (line == a.1) = false :=
      beq_eq_false_iff_ne.mpr (UInt32.ne_of_lt (UInt32.lt_of_le_of_lt below lower))
    rw [if_pos lower, List.lookup_cons, apart]
  · rename_i notLower
    rw [if_neg notLower, List.lookup_cons, List.lookup_cons, List.lookup_cons]
    by_cases same : line = a.1
    · rw [beq_iff_eq.mpr same]
    · -- On equal lines the first entry stays, so a line below it is below the second too.
      have apart : (line == b.1) = false := by
        rw [beq_eq_false_iff_ne]
        rintro rfl
        exact same (UInt32.le_antisymm below (UInt32.not_lt.mp notLower))
      rw [beq_eq_false_iff_ne.mpr same, apart]

theorem lookup_foldl_lowerEntry (first : UInt32 × Entry) (rest : List (UInt32 × Entry)) :
    (first :: rest).lookup (rest.foldl lowerEntry first).1 =
      some (rest.foldl lowerEntry first).2 := by
  induction rest generalizing first with
  | nil => exact List.lookup_cons_self
  | cons second rest ih =>
    have below := le_foldl_lowerEntry (lowerEntry first second) rest _ List.mem_cons_self
    rw [List.foldl_cons, lookup_lowerEntry below]
    exact ih (lowerEntry first second)

/-- The first entry on the lowest line. -/
theorem lowest?_eq_some {entries : List (UInt32 × Entry)} {lowest : UInt32 × Entry}
    (found : lowest? entries = some lowest) :
    (∀ other ∈ entries, lowest.1 ≤ other.1) ∧ entries.lookup lowest.1 = some lowest.2 := by
  cases entries with
  | nil => cases found
  | cons first rest =>
    obtain rfl := Option.some.inj found
    exact ⟨le_foldl_lowerEntry first rest, lookup_foldl_lowerEntry first rest⟩

end Lowest

/-- Whether a line is in the window of a click: no further below than is tolerated, and still the
number of a line. -/
def InWindow (clicked tolerance : UInt32) (line : Nat) : Prop :=
  clicked.toNat ≤ line ∧ line ≤ clicked.toNat + tolerance.toNat ∧ line ≤ 4294967295

theorem toNat_lastLine (clicked tolerance : UInt32) :
    (lastLine clicked tolerance).toNat = min (clicked.toNat + tolerance.toNat) 4294967295 := by
  unfold lastLine
  split
  · rename_i below
    rw [UInt32.toNat_add, Nat.mod_eq_of_lt below]
    unfold UInt32.size at below
    omega
  · rename_i above
    have clickedBelow := clicked.toNat_lt
    show 4294967295 = _
    unfold UInt32.size at above
    omega

theorem inWindow_iff (clicked tolerance line : UInt32) :
    (clicked ≤ line && line ≤ lastLine clicked tolerance) = true ↔
      InWindow clicked tolerance line.toNat := by
  rw [Bool.and_eq_true, decide_eq_true_eq, decide_eq_true_eq, UInt32.le_iff_toNat_le,
    UInt32.le_iff_toNat_le, toNat_lastLine]
  unfold InWindow
  omega

/-- Every number in a window is that of a line. -/
theorem exists_word_of_inWindow {clicked tolerance : UInt32} {line : Nat}
    (inside : InWindow clicked tolerance line) : ∃ word : UInt32, word.toNat = line := by
  -- The window ends at the last line that a word can count, so no number in it wraps.
  have small : line < UInt32.size := Nat.lt_succ_of_le inside.2.2
  exact ⟨UInt32.ofNat line, UInt32.toNat_ofNat_of_lt' small⟩

section Finding

variable {tolerance : UInt32} {query : Query} {graph : CallGraph}

/-- The entries among which the lowest is taken. -/
def windowEntries (tolerance : UInt32) (query : Query) (graph : CallGraph) :
    List (UInt32 × Entry) :=
  (graph.entriesUnder query.relativePath query.identifier).filter fun entry =>
    query.clickedLine ≤ entry.1 && entry.1 ≤ lastLine query.clickedLine tolerance

theorem lookup_windowEntries {line : UInt32}
    (inside : InWindow query.clickedLine tolerance line.toNat) :
    (windowEntries tolerance query graph).lookup line =
      graph.lookup? query.relativePath line query.identifier := by
  have keep := (inWindow_iff query.clickedLine tolerance line).mpr inside
  refine (lookup_filter_key (fun line : UInt32 => query.clickedLine ≤ line &&
    line ≤ lastLine query.clickedLine tolerance) _ line).trans ?_
  rw [if_pos keep, CallGraph.lookup_entriesUnder]

/-- What is found stands on the lowest line of the window that has an entry. -/
theorem findEntry_eq_some {line : UInt32} {entry : Entry}
    (found : findEntry tolerance query graph = some (line, entry)) :
    InWindow query.clickedLine tolerance line.toNat ∧
      graph.lookup? query.relativePath line query.identifier = some entry ∧
      ∀ lower : UInt32, InWindow query.clickedLine tolerance lower.toNat → lower < line →
        graph.lookup? query.relativePath lower query.identifier = none := by
  obtain ⟨least, here⟩ : (∀ other ∈ windowEntries tolerance query graph, line ≤ other.1) ∧
      (windowEntries tolerance query graph).lookup line = some entry := lowest?_eq_some found
  have inside : InWindow query.clickedLine tolerance line.toNat := by
    obtain ⟨before, behind, split, -⟩ := List.lookup_eq_some_iff.mp here
    have member : (line, entry) ∈ windowEntries tolerance query graph := by simp [split]
    exact (inWindow_iff _ _ _).mp (List.mem_filter.mp member).2
  refine ⟨inside, lookup_windowEntries inside ▸ here, ?_⟩
  intro lower lowerInside below
  rw [← lookup_windowEntries lowerInside, List.lookup_eq_none_iff]
  intro other member
  have above := UInt32.lt_of_lt_of_le below (least other member)
  simpa using UInt32.ne_of_lt above

/-- If nothing is found, no line of the window has an entry. -/
theorem findEntry_eq_none (found : findEntry tolerance query graph = none) {line : UInt32}
    (inside : InWindow query.clickedLine tolerance line.toNat) :
    graph.lookup? query.relativePath line query.identifier = none := by
  have empty : windowEntries tolerance query graph = [] := by
    cases entries : windowEntries tolerance query graph with
    | nil => rfl
    | cons first rest =>
      have some : lowest? (windowEntries tolerance query graph) = none := found
      rw [entries] at some
      cases some
  rw [← lookup_windowEntries inside, empty]
  rfl

end Finding

end CallAtlas
