import CallAtlas.Proofs.Resolution.Window

/-!
# Searches line by line

The window of a click can be searched one line after the other, from the clicked line down, until a
line has an entry. Such a search looks at no line outside of the window and ends for every window,
also for one that ends with the last number of a line: the line behind that one is never computed.
What it finds is what is found at once among all keys, and the least line that has an entry.
-/

namespace CallAtlas

section Scanning

variable {α : Type}

/-- The lines that a search looks at on its way from a line to the last, one after the other, and
the first of them where something is, with what is there. -/
def scan (look : UInt32 → Option α) (last line : UInt32) : List UInt32 × Option (UInt32 × α) :=
  if line < last then
    match look line with
    | some a => ([line], some (line, a))
    | none =>
      let (lines, hit) := scan look last (line + 1)
      (line :: lines, hit)
  else if line = last then ([line], (look line).map fun a => (line, a))
  else ([], none)
termination_by last.toNat - line.toNat
decreasing_by
  rename_i below
  have below := UInt32.lt_iff_toNat_lt.mp below
  have small := last.toNat_lt
  rw [UInt32.toNat_add, UInt32.toNat_one, Nat.mod_eq_of_lt (by omega)]
  omega

/-- Below the last line the next line is one further down. -/
theorem toNat_succ_of_lt {line last : UInt32} (below : line < last) :
    (line + 1).toNat = line.toNat + 1 := by
  have below := UInt32.lt_iff_toNat_lt.mp below
  have small := last.toNat_lt
  rw [UInt32.toNat_add, UInt32.toNat_one, Nat.mod_eq_of_lt (by omega)]

/-- Lines from one that is below the last on are that line and those from the next line on. -/
theorem forall_from_iff {line last : UInt32} (below : line < last) {P : UInt32 → Prop} :
    (∀ other, line ≤ other → other ≤ last → P other) ↔
      P line ∧ ∀ other, line + 1 ≤ other → other ≤ last → P other := by
  have next := toNat_succ_of_lt below
  constructor
  · intro each
    refine ⟨each line (UInt32.le_refl line) (UInt32.le_of_lt below), fun other above within => ?_⟩
    refine each other ?_ within
    rw [UInt32.le_iff_toNat_le] at above ⊢
    omega
  · rintro ⟨first, further⟩ other above within
    by_cases same : line = other
    · exact same ▸ first
    · refine further other ?_ within
      have apart : line.toNat ≠ other.toNat := fun equal => same (UInt32.toNat_inj.mp equal)
      rw [UInt32.le_iff_toNat_le] at above ⊢
      omega

variable {look other : UInt32 → Option α} {last line hit : UInt32} {a : α}

/-- A search looks at lines between its first and its last, in ascending order, none of them
twice. -/
theorem lines_scan (look : UInt32 → Option α) (last line : UInt32) :
    (∀ seen ∈ (scan look last line).1, line ≤ seen ∧ seen ≤ last) ∧
      (scan look last line).1.Pairwise (· < ·) := by
  fun_induction scan look last line with
  | case1 line below a found =>
    refine ⟨fun seen member => ?_, List.pairwise_singleton _ _⟩
    obtain rfl := List.mem_singleton.mp member
    exact ⟨UInt32.le_refl seen, UInt32.le_of_lt below⟩
  | case2 line below missed lines hit result ih =>
    rw [result] at ih
    obtain ⟨within, ascending⟩ := ih
    have next := toNat_succ_of_lt below
    refine ⟨fun seen member => ?_, List.pairwise_cons.mpr ⟨fun seen member => ?_, ascending⟩⟩
    · rcases List.mem_cons.mp member with rfl | member
      · exact ⟨UInt32.le_refl seen, UInt32.le_of_lt below⟩
      · obtain ⟨above, inside⟩ := within seen member
        rw [UInt32.le_iff_toNat_le] at above ⊢
        exact ⟨by omega, inside⟩
    · obtain ⟨above, -⟩ := within seen member
      rw [UInt32.le_iff_toNat_le] at above
      rw [UInt32.lt_iff_toNat_lt]
      omega
  | case3 notBelow =>
    refine ⟨fun seen member => ?_, List.pairwise_singleton _ _⟩
    obtain rfl := List.mem_singleton.mp member
    exact ⟨UInt32.le_refl seen, UInt32.le_refl seen⟩
  | case4 line notBelow different => exact ⟨List.forall_mem_nil _, .nil⟩

/-- A search looks at no more lines than there are. -/
theorem length_lines_scan (look : UInt32 → Option α) (last line : UInt32) :
    (scan look last line).1.length ≤ last.toNat + 1 - line.toNat := by
  fun_induction scan look last line with
  | case1 line below a found =>
    have below := UInt32.lt_iff_toNat_lt.mp below
    rw [List.length_singleton]
    omega
  | case2 line below missed lines hit result ih =>
    have next := toNat_succ_of_lt below
    have below := UInt32.lt_iff_toNat_lt.mp below
    rw [result] at ih
    have fewer : lines.length ≤ last.toNat + 1 - (line + 1).toNat := ih
    rw [List.length_cons]
    omega
  | case3 notBelow =>
    rw [List.length_singleton]
    omega
  | case4 line notBelow different => exact Nat.zero_le _

/-- A search finds nothing exactly if nothing is on any of the lines. -/
theorem scan_eq_none_iff :
    (scan look last line).2 = none ↔ ∀ other, line ≤ other → other ≤ last → look other = none := by
  fun_induction scan look last line with
  | case1 line below a found =>
    refine iff_of_false nofun fun each => ?_
    rw [each line (UInt32.le_refl line) (UInt32.le_of_lt below)] at found
    cases found
  | case2 line below missed lines hit result ih =>
    rw [result] at ih
    rw [forall_from_iff below, ← ih]
    exact (and_iff_right missed).symm
  | case3 notBelow =>
    rw [Option.map_eq_none_iff]
    constructor
    · intro missed other above within
      rwa [UInt32.le_antisymm within above]
    · intro each
      exact each last (UInt32.le_refl last) (UInt32.le_refl last)
  | case4 line notBelow different =>
    refine iff_of_true rfl fun other above within => ?_
    rw [UInt32.lt_iff_toNat_lt] at notBelow
    rw [UInt32.le_iff_toNat_le] at above within
    exact absurd (UInt32.toNat_inj.mp (by omega)) different

/-- What a search finds is on a line from the first to the last, and on none before. -/
theorem least_of_scan (found : (scan look last line).2 = some (hit, a)) :
    line ≤ hit ∧ hit ≤ last ∧ look hit = some a ∧
      ∀ lower, line ≤ lower → lower < hit → look lower = none := by
  fun_induction scan look last line with
  | case1 line below own here =>
    obtain ⟨rfl, rfl⟩ := Prod.mk.inj (Option.some.inj found)
    refine ⟨UInt32.le_refl line, UInt32.le_of_lt below, here, fun lower above under => ?_⟩
    exact absurd above (UInt32.not_le.mpr under)
  | case2 line below missed lines own result ih =>
    rw [result] at ih
    obtain ⟨above, within, here, least⟩ := ih found
    have next := toNat_succ_of_lt below
    rw [UInt32.le_iff_toNat_le] at above
    refine ⟨UInt32.le_iff_toNat_le.mpr (by omega), within, here, fun lower start under => ?_⟩
    by_cases same : line = lower
    · exact same ▸ missed
    · have apart : line.toNat ≠ lower.toNat := fun equal => same (UInt32.toNat_inj.mp equal)
      rw [UInt32.le_iff_toNat_le] at start
      exact least lower (UInt32.le_iff_toNat_le.mpr (by omega)) under
  | case3 notBelow =>
    obtain ⟨own, here, same⟩ := Option.map_eq_some_iff.mp found
    obtain ⟨rfl, rfl⟩ := Prod.mk.inj same
    refine ⟨UInt32.le_refl last, UInt32.le_refl last, here, fun lower above under => ?_⟩
    exact absurd above (UInt32.not_le.mpr under)
  | case4 line notBelow different => cases found

theorem scan_eq_some_iff :
    (scan look last line).2 = some (hit, a) ↔
      line ≤ hit ∧ hit ≤ last ∧ look hit = some a ∧
        ∀ lower, line ≤ lower → lower < hit → look lower = none := by
  refine ⟨least_of_scan, ?_⟩
  rintro ⟨above, within, here, least⟩
  cases found : (scan look last line).2 with
  | none =>
    rw [scan_eq_none_iff.mp found hit above within] at here
    cases here
  | some own =>
    obtain ⟨first, b⟩ := own
    obtain ⟨ownAbove, -, ownHere, ownLeast⟩ := least_of_scan found
    -- Neither of the two lines is below the other, because there is something on both.
    have same : first = hit := by
      refine UInt32.le_antisymm (UInt32.not_lt.mp fun under => ?_)
        (UInt32.not_lt.mp fun under => ?_)
      · rw [ownLeast hit above under] at here
        cases here
      · rw [least first ownAbove under] at ownHere
        cases ownHere
    subst same
    rw [ownHere] at here
    rw [Option.some.inj here]

/-- A search that is told the same on all lines is the same search. -/
theorem scan_congr (same : ∀ seen, line ≤ seen → seen ≤ last → look seen = other seen) :
    scan look last line = scan other last line := by
  fun_induction scan look last line with
  | case1 line below a found =>
    rw [same line (UInt32.le_refl line) (UInt32.le_of_lt below)] at found
    rw [scan, if_pos below, found]
  | case2 line below missed lines hit result ih =>
    obtain ⟨own, further⟩ := (forall_from_iff below).mp same
    rw [own] at missed
    rw [scan, if_pos below, missed, ← ih further, result]
  | case3 notBelow =>
    rw [scan, if_neg notBelow, if_pos rfl, same last (UInt32.le_refl last) (UInt32.le_refl last)]
  | case4 line notBelow different => rw [scan, if_neg notBelow, if_neg different]

end Scanning

/-! ## The search of a window -/

namespace CallGraph

theorem get?_eq_none_iff {graph : CallGraph} {key : String} :
    graph.get? key = none ↔ key ∉ graph.entries.map Prod.fst := by
  rw [get?, List.lookup_eq_none_iff, List.mem_map]
  constructor
  · rintro absent ⟨member, present, rfl⟩
    simpa using absent member present
  · intro absent member present
    rw [bne_iff_ne]
    rintro rfl
    exact absent ⟨member, present, rfl⟩

end CallGraph

/-- The key that a query asks for on a line. -/
def Query.keyOn (query : Query) (line : Nat) : String :=
  query.relativePath ++ ":" ++ toString line ++ ":" ++ query.identifier

/-- A search of the window of a query, line by line. -/
def scanWindow (tolerance : UInt32) (query : Query) (graph : CallGraph) :
    List UInt32 × Option (UInt32 × Entry) :=
  scan (fun line => graph.lookup? query.relativePath line query.identifier)
    (lastLine query.clickedLine tolerance) query.clickedLine

/-- What is found for a query. -/
structure FindsLeast (tolerance : UInt32) (query : Query) (graph : CallGraph) : Prop where
  /-- Nothing is found exactly if none of the keys on the lines of the window is stored. -/
  missed : findEntry tolerance query graph = none ↔
    ∀ line, InWindow query.clickedLine tolerance line →
      query.keyOn line ∉ graph.entries.map Prod.fst
  /-- What is found is what is stored under the key on the least line of the window that has one. -/
  found : ∀ line entry, findEntry tolerance query graph = some (line, entry) ↔
    InWindow query.clickedLine tolerance line.toNat ∧
      graph.get? (query.keyOn line.toNat) = some entry ∧
      ∀ lower, InWindow query.clickedLine tolerance lower → lower < line.toNat →
        query.keyOn lower ∉ graph.entries.map Prod.fst
  /-- The search line by line finds the same. -/
  scanned : findEntry tolerance query graph = (scanWindow tolerance query graph).2
  /-- It looks at lines of the window only, and at none of them twice. -/
  confined : ∀ line ∈ (scanWindow tolerance query graph).1,
    InWindow query.clickedLine tolerance line.toNat
  ascending : (scanWindow tolerance query graph).1.Pairwise (· < ·)
  /-- So it ends, after the clicked line and as many lines more as are tolerated. -/
  ends : (scanWindow tolerance query graph).1.length ≤ tolerance.toNat + 1
  /-- Nothing counts but the keys on the lines of the window. -/
  depends : ∀ other : CallGraph, (∀ line, InWindow query.clickedLine tolerance line →
      graph.get? (query.keyOn line) = other.get? (query.keyOn line)) →
    findEntry tolerance query graph = findEntry tolerance query other

section Finding

variable {tolerance : UInt32} {query : Query} {graph : CallGraph}

theorem Query.key_eq_keyOn (query : Query) (line : UInt32) :
    KeyParts.key ⟨query.relativePath, line, query.identifier⟩ = query.keyOn line.toNat :=
  KeyParts.key_eq _ _ _

theorem lookup?_eq_get?_keyOn (graph : CallGraph) (query : Query) (line : UInt32) :
    graph.lookup? query.relativePath line query.identifier =
      graph.get? (query.keyOn line.toNat) := by
  rw [CallGraph.lookup?, query.key_eq_keyOn]

theorem le_lastLine_iff (clicked tolerance line : UInt32) :
    clicked ≤ line ∧ line ≤ lastLine clicked tolerance ↔
      InWindow clicked tolerance line.toNat := by
  rw [← inWindow_iff, Bool.and_eq_true, decide_eq_true_eq, decide_eq_true_eq]

/-- What holds of every line of a window holds of every number in it. -/
theorem forall_inWindow_iff {clicked : UInt32} {P : Nat → Prop} :
    (∀ line, InWindow clicked tolerance line → P line) ↔
      ∀ line : UInt32, InWindow clicked tolerance line.toNat → P line.toNat := by
  refine ⟨fun each line inside => each line.toNat inside, fun each line inside => ?_⟩
  obtain ⟨word, rfl⟩ := exists_word_of_inWindow inside
  exact each word inside

/-- All keys at once and line by line, the same is found. -/
theorem findEntry_eq_scan (tolerance : UInt32) (query : Query) (graph : CallGraph) :
    findEntry tolerance query graph = (scanWindow tolerance query graph).2 := by
  symm
  cases found : findEntry tolerance query graph with
  | none =>
    refine scan_eq_none_iff.mpr fun line above within => ?_
    exact findEntry_eq_none found ((le_lastLine_iff _ _ line).mp ⟨above, within⟩)
  | some hit =>
    obtain ⟨line, entry⟩ := hit
    obtain ⟨inside, here, least⟩ := findEntry_eq_some found
    obtain ⟨above, within⟩ := (le_lastLine_iff _ _ line).mpr inside
    refine scan_eq_some_iff.mpr ⟨above, within, here, fun lower start under => ?_⟩
    have before := UInt32.le_trans (UInt32.le_of_lt under) within
    exact least lower ((le_lastLine_iff _ _ lower).mp ⟨start, before⟩) under

/-- A search of a window is told nothing but what is under the keys of its lines. -/
theorem scanWindow_congr {other : CallGraph}
    (same : ∀ line, InWindow query.clickedLine tolerance line →
      graph.get? (query.keyOn line) = other.get? (query.keyOn line)) :
    scanWindow tolerance query graph = scanWindow tolerance query other := by
  refine scan_congr fun line above within => ?_
  rw [lookup?_eq_get?_keyOn, lookup?_eq_get?_keyOn]
  exact same line.toNat ((le_lastLine_iff _ _ line).mp ⟨above, within⟩)

theorem findEntry_eq_none_iff :
    findEntry tolerance query graph = none ↔
      ∀ line, InWindow query.clickedLine tolerance line →
        query.keyOn line ∉ graph.entries.map Prod.fst := by
  rw [findEntry_eq_scan, scanWindow, scan_eq_none_iff, forall_inWindow_iff]
  simp only [lookup?_eq_get?_keyOn, CallGraph.get?_eq_none_iff, ← le_lastLine_iff, and_imp]

theorem findEntry_eq_some_iff {line : UInt32} {entry : Entry} :
    findEntry tolerance query graph = some (line, entry) ↔
      InWindow query.clickedLine tolerance line.toNat ∧
        graph.get? (query.keyOn line.toNat) = some entry ∧
        ∀ lower, InWindow query.clickedLine tolerance lower → lower < line.toNat →
          query.keyOn lower ∉ graph.entries.map Prod.fst := by
  rw [findEntry_eq_scan, scanWindow, scan_eq_some_iff, forall_inWindow_iff]
  simp only [lookup?_eq_get?_keyOn, CallGraph.get?_eq_none_iff, ← le_lastLine_iff,
    UInt32.lt_iff_toNat_lt]
  constructor
  · rintro ⟨above, within, here, least⟩
    exact ⟨⟨above, within⟩, here, fun lower inside under => least lower inside.1 under⟩
  · rintro ⟨⟨above, within⟩, here, least⟩
    refine ⟨above, within, here, fun lower start under => ?_⟩
    have before : lower ≤ line := UInt32.le_iff_toNat_le.mpr (Nat.le_of_lt under)
    exact least lower ⟨start, UInt32.le_trans before within⟩ under

/-- For every graph, every query and every tolerance, what is found is the least line of the window
whose key is stored, with the entry that is stored there. -/
theorem findsLeast (tolerance : UInt32) (query : Query) (graph : CallGraph) :
    FindsLeast tolerance query graph where
  missed := findEntry_eq_none_iff
  found := fun _ _ => findEntry_eq_some_iff
  scanned := findEntry_eq_scan tolerance query graph
  confined := by
    intro line seen
    exact (le_lastLine_iff _ _ line).mp ((lines_scan _ _ _).1 line seen)
  ascending := (lines_scan _ _ _).2
  ends := by
    have lines := length_lines_scan
      (fun line => graph.lookup? query.relativePath line query.identifier)
      (lastLine query.clickedLine tolerance) query.clickedLine
    rw [toNat_lastLine] at lines
    refine Nat.le_trans lines ?_
    omega
  depends := by
    intro other same
    rw [findEntry_eq_scan, findEntry_eq_scan, scanWindow_congr same]

/-- At the last number of a line the window ends, however much is tolerated. -/
example :
    findEntry 4294967295 ⟨"App", "a.js", 4294967295, "f"⟩
        ⟨[("a.js:0:f", ⟨"f", .empty⟩), ("a.js:4294967295:f", ⟨"g", .empty⟩)]⟩ =
      some (4294967295, ⟨"g", .empty⟩) := by
  decide +kernel

end Finding

end CallAtlas
