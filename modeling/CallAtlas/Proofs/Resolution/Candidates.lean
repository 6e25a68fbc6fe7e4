import CallAtlas.Proofs.Graph.Construction
import CallAtlas.Proofs.Resolution.Scan

/-!
# Candidates and silence

The candidates of a matched entry are sorted out in the order of their paths: those with a line
become locations, those without one are diagnosed, and none is lost. A graph keeps no empty lists,
so an outcome that shows nothing comes from an entry that knows nothing.
-/

namespace CallAtlas

/-! ## What is inside an entry -/

/-- Paths in the order of their bytes, none of them twice. -/
def Text.Ascending (paths : List String) : Prop :=
  paths.Pairwise fun before behind => bytes before < bytes behind

theorem Text.Ascending.nodup {paths : List String} (ascending : Ascending paths) :
    paths.Nodup := by
  apply List.Pairwise.imp ?_ ascending
  rintro before behind below rfl
  exact List.lt_irrefl _ below

/-- A target whose lists are not empty and whose candidates are in order. -/
inductive Target.IsFilled : Target → Prop where
  | callers (sites : List CallSite) (present : sites ≠ []) : IsFilled (.callers sites)
  | definitions (candidates : List Definition) (present : candidates ≠ [])
      (ascending : Text.Ascending (candidates.map Definition.path)) :
    IsFilled (.definitions candidates)
  | empty : IsFilled .empty

theorem map_path_of_definitionsOf {pairs : List (String × Json)} {candidates : List Definition}
    (written : DefinitionsOf pairs candidates) :
    candidates.map Definition.path = pairs.map Prod.fst := by
  induction written with
  | nil => rfl
  | cons same _ ih => rw [List.map_cons, List.map_cons, same.1, ih]

/-- What a canonical value is written with fills an entry. -/
theorem Json.Holds.isFilled {value : Json} {target : Target} (holds : value.Holds target)
    (canonical : value.IsCanonical) : target.IsFilled := by
  cases holds with
  | callers sites written present =>
    apply Target.IsFilled.callers
    rintro rfl
    exact present (List.forall₂_nil_right_iff.mp written)
  | definitions candidates bare written present =>
    apply Target.IsFilled.definitions
    · rintro rfl
      exact present (List.forall₂_nil_right_iff.mp written)
    · rw [map_path_of_definitionsOf written]
      exact List.pairwise_map.mpr (Json.byteAscending_iff.mpr canonical.ascending_definitions)
  | nothing bare barren => exact .empty

/-! ## Sorting out -/

/-- Candidates, the locations of those with a line, and the paths of those without one. -/
inductive SortedOut : List Definition → List Location → List String → Prop where
  | nil : SortedOut [] [] []
  | located (path : String) (line : UInt32) {rest : List Definition} {locations : List Location}
      {paths : List String} (others : SortedOut rest locations paths) :
    SortedOut (⟨path, some line⟩ :: rest) (⟨path, line⟩ :: locations) paths
  | lineless (path : String) {rest : List Definition} {locations : List Location}
      {paths : List String} (others : SortedOut rest locations paths) :
    SortedOut (⟨path, none⟩ :: rest) locations (path :: paths)

theorem sortedOut_candidates (candidates : List Definition) :
    SortedOut candidates (candidates.filterMap Definition.location?)
      ((candidates.filter fun candidate => candidate.line.isNone).map Definition.path) := by
  induction candidates with
  | nil => exact .nil
  | cons candidate rest ih =>
    obtain ⟨path, line⟩ := candidate
    cases line with
    | none => exact .lineless path ih
    | some line => exact .located path line ih

section Sorting

variable {candidates : List Definition} {locations : List Location} {paths : List String}
  (sorted : SortedOut candidates locations paths)

include sorted

theorem SortedOut.mem_locations_iff {path : String} {line : UInt32} :
    ⟨path, line⟩ ∈ locations ↔ ⟨path, some line⟩ ∈ candidates := by
  induction sorted with
  | nil => simp
  | located own ownLine others ih => simp [ih]
  | lineless own others ih => simp [ih]

theorem SortedOut.mem_paths_iff {path : String} : path ∈ paths ↔ ⟨path, none⟩ ∈ candidates := by
  induction sorted with
  | nil => simp
  | located own line others ih => simp [ih]
  | lineless own others ih => simp [ih]

/-- Each path goes one of the two ways, as often as it is there. -/
theorem SortedOut.perm :
    (locations.map Location.path ++ paths).Perm (candidates.map Definition.path) := by
  induction sorted with
  | nil => exact .refl _
  | located path line others ih => exact ih.cons path
  | lineless path others ih => exact List.perm_middle.trans (ih.cons path)

theorem SortedOut.sublist_locations :
    (locations.map Location.path).Sublist (candidates.map Definition.path) := by
  induction sorted with
  | nil => exact .slnil
  | located path line others ih => exact ih.cons_cons path
  | lineless path others ih => exact ih.cons path

theorem SortedOut.sublist_paths : paths.Sublist (candidates.map Definition.path) := by
  induction sorted with
  | nil => exact .slnil
  | located path line others ih => exact ih.cons path
  | lineless path others ih => exact ih.cons_cons path

theorem SortedOut.eq_nil_of_nothing (noLocation : locations = []) (noPath : paths = []) :
    candidates = [] := by
  cases sorted with
  | nil => rfl
  | located path line others => cases noLocation
  | lineless path others => cases noPath

end Sorting

/-- How candidates in order are sorted out. -/
structure SortsOut (candidates : List Definition) (locations : List Location)
    (paths : List String) : Prop where
  /-- The locations are exactly the candidates with a line. -/
  located : ∀ path line, ⟨path, line⟩ ∈ locations ↔ ⟨path, some line⟩ ∈ candidates
  /-- The paths are exactly those of the candidates without a line. -/
  lineless : ∀ path, path ∈ paths ↔ ⟨path, none⟩ ∈ candidates
  /-- Each candidate goes one of the two ways, and not both. -/
  eitherWay : ∀ candidate ∈ candidates,
    candidate.path ∈ locations.map Location.path ↔ candidate.path ∉ paths
  /-- Nothing is left out, and nothing is said twice. -/
  whole : (locations.map Location.path ++ paths).Perm (candidates.map Definition.path)
  /-- Locations and paths keep the order of the candidates, in which the paths ascend. -/
  ascending : Text.Ascending (candidates.map Definition.path)
  locationsAscend : Text.Ascending (locations.map Location.path)
  pathsAscend : Text.Ascending paths

theorem SortedOut.sortsOut {candidates : List Definition} {locations : List Location}
    {paths : List String} (sorted : SortedOut candidates locations paths)
    (ascending : Text.Ascending (candidates.map Definition.path)) :
    SortsOut candidates locations paths := by
  have once : (locations.map Location.path ++ paths).Nodup :=
    sorted.perm.nodup_iff.mpr ascending.nodup
  have apart := (List.nodup_append.mp once).2.2
  refine ⟨fun _ _ => sorted.mem_locations_iff, fun _ => sorted.mem_paths_iff, ?_, sorted.perm,
    ascending, List.Pairwise.sublist sorted.sublist_locations ascending,
    List.Pairwise.sublist sorted.sublist_paths ascending⟩
  intro candidate member
  constructor
  · intro there also
    exact apart _ there _ also rfl
  · intro missing
    have somewhere : candidate.path ∈ locations.map Location.path ++ paths :=
      sorted.perm.mem_iff.mpr (List.mem_map_of_mem member)
    exact (List.mem_append.mp somewhere).resolve_right missing

/-! ## Outcomes -/

/-- The call sites of an answer. -/
def Resolution.sites : Resolution → List CallSite
  | .callers _ sites => sites
  | _ => []

/-- The locations of an answer. -/
def Resolution.locations : Resolution → List Location
  | .definition _ locations => locations
  | _ => []

/-- An outcome that shows no call site, no location and no diagnostic. -/
structure Outcome.IsSilent (outcome : Outcome) : Prop where
  noSite : outcome.resolution.sites = []
  noLocation : outcome.resolution.locations = []
  noDiagnostic : outcome.diagnostics = []

/-- What the outcome of a query shows of a graph that was made of a value. -/
structure ShowsAll (value : Json) (graph : CallGraph) (query : Query) (tolerance : UInt32) :
    Prop where
  /-- If the matched entry holds definitions, they are those that its value is written with, and
  each of them is a location or diagnosed. -/
  definitions : ∀ line entry candidates, findEntry tolerance query graph = some (line, entry) →
    entry.target = .definitions candidates →
      ∃ item locations paths, value.member? (query.keyOn line.toNat) = some item ∧
        DefinitionsOf item.definitions candidates ∧ SortsOut candidates locations paths ∧
        resolve tolerance query graph =
          ⟨.definition query.identifier locations, some line,
            paths.map (.unresolvableLine query.identifier)⟩
  /-- Without a match the drift is diagnosed, and nothing else; with one it never is. -/
  missed : (resolve tolerance query graph).matchedLine = none ↔
    (resolve tolerance query graph).diagnostics =
      [.lineDriftExceeded query.identifier query.clickedLine tolerance]
  callers : ∀ identifier sites,
    (resolve tolerance query graph).resolution = .callers identifier sites → sites ≠ []
  /-- Nothing is shown exactly if the matched entry knows nothing. -/
  silent : (resolve tolerance query graph).IsSilent ↔
    ∃ line entry, findEntry tolerance query graph = some (line, entry) ∧ entry.target = .empty
  /-- An entry knows nothing exactly if its value is written with no call site and no definition. -/
  knows : ∀ line entry, findEntry tolerance query graph = some (line, entry) →
    ∃ item, value.member? (query.keyOn line.toNat) = some item ∧
      (entry.target = .empty ↔ item.sites = [] ∧ item.definitions = [])

section Showing

variable {value : Json} {graph : CallGraph} {query : Query} {tolerance line : UInt32}
  {entry : Entry}

theorem resolve_of_missed (missed : findEntry tolerance query graph = none) :
    resolve tolerance query graph =
      ⟨.notFound query.identifier, none,
        [.lineDriftExceeded query.identifier query.clickedLine tolerance]⟩ := by
  rw [resolve, missed]

theorem resolve_of_found (found : findEntry tolerance query graph = some (line, entry)) :
    resolve tolerance query graph =
      ⟨entry.target.resolution query.identifier, some line,
        entry.target.diagnostics query.identifier⟩ := by
  rw [resolve, found]

/-- A drift is never diagnosed of an entry. -/
theorem Target.lineDrift_notMem_diagnostics (target : Target)
    (identifier name : String) (clicked tolerance : UInt32) :
    Diagnostic.lineDriftExceeded name clicked tolerance ∉ target.diagnostics identifier := by
  cases target <;> simp [Target.diagnostics]

/-- The resolution and the diagnostics of candidates are what they are sorted out into. -/
theorem Target.sortedOut_definitions (candidates : List Definition) (identifier : String) :
    ∃ locations paths, SortedOut candidates locations paths ∧
      (Target.definitions candidates).resolution identifier = .definition identifier locations ∧
      (Target.definitions candidates).diagnostics identifier =
        paths.map (.unresolvableLine identifier) := by
  refine ⟨_, _, sortedOut_candidates candidates, rfl, ?_⟩
  rw [List.map_map]
  rfl

theorem Json.Holds.eq_empty_iff {item : Json} {target : Target} (holds : item.Holds target) :
    target = .empty ↔ item.sites = [] ∧ item.definitions = [] := by
  cases holds with
  | callers sites written present => simp [present]
  | definitions candidates bare written present => simp [present]
  | nothing bare barren => simp [bare, barren]

/-- A filled target shows nothing only if it is empty. -/
theorem Target.IsFilled.isSilent_iff {target : Target} (filled : target.IsFilled)
    (identifier : String) (line : Option UInt32) :
    Outcome.IsSilent ⟨target.resolution identifier, line, target.diagnostics identifier⟩ ↔
      target = .empty := by
  constructor
  · rintro ⟨noSite, noLocation, noDiagnostic⟩
    cases filled with
    | callers sites present => exact absurd noSite present
    | definitions candidates present ascending =>
      obtain ⟨locations, paths, sorted, resolved, diagnosed⟩ :=
        Target.sortedOut_definitions candidates identifier
      dsimp only at noLocation noDiagnostic
      rw [resolved] at noLocation
      rw [diagnosed, List.map_eq_nil_iff] at noDiagnostic
      exact absurd (sorted.eq_nil_of_nothing noLocation noDiagnostic) present
    | empty => rfl
  · rintro rfl
    exact ⟨rfl, rfl, rfl⟩

variable (accepted : CallGraph.ofEntries value = .ok graph)

include accepted

/-- The entry that is found holds what the value under its key is written with. -/
theorem holds_of_found (found : findEntry tolerance query graph = some (line, entry)) :
    ∃ item, value.member? (query.keyOn line.toNat) = some item ∧ item.Holds entry.target := by
  have here := (findEntry_eq_some_iff.mp found).2.1
  have reflects := CallGraph.reflects_ofEntries accepted (query.keyOn line.toNat)
  cases written : value.member? (query.keyOn line.toNat) with
  | none =>
    rw [written] at reflects
    rw [show graph.get? _ = none from reflects] at here
    cases here
  | some item =>
    rw [written] at reflects
    obtain ⟨own, decoded, stored⟩ := reflects
    obtain rfl : own = entry := Option.some.inj (stored.symm.trans here)
    exact ⟨item, rfl, Entry.holds_of_decode decoded⟩

theorem isFilled_of_found (canonical : value.IsCanonical)
    (found : findEntry tolerance query graph = some (line, entry)) : entry.target.IsFilled := by
  obtain ⟨item, written, holds⟩ := holds_of_found accepted found
  exact holds.isFilled (canonical.member? written)

end Showing

/-- Whatever is asked of a graph, all candidates of the matched entry are shown, and nothing is
shown only of an entry that knows nothing. -/
theorem showsAll {value : Json} {graph : CallGraph} (canonical : value.IsCanonical)
    (accepted : CallGraph.ofEntries value = .ok graph) (query : Query) (tolerance : UInt32) :
    ShowsAll value graph query tolerance where
  definitions := by
    intro line entry candidates found target
    have filled := isFilled_of_found accepted canonical found
    obtain ⟨item, written, holds⟩ := holds_of_found accepted found
    obtain ⟨locations, paths, sorted, resolved, diagnosed⟩ :=
      Target.sortedOut_definitions candidates query.identifier
    rw [resolve_of_found found]
    rw [target] at filled holds ⊢
    cases filled with
    | definitions _ present ascending =>
      cases holds with
      | definitions _ bare own _ =>
        refine ⟨item, locations, paths, written, own, sorted.sortsOut ascending, ?_⟩
        rw [resolved, diagnosed]
  missed := by
    cases found : findEntry tolerance query graph with
    | none =>
      rw [resolve_of_missed found]
      simp
    | some hit =>
      obtain ⟨line, entry⟩ := hit
      rw [resolve_of_found found]
      refine iff_of_false (by simp) fun drift => ?_
      apply entry.target.lineDrift_notMem_diagnostics query.identifier
      rw [show entry.target.diagnostics query.identifier = _ from drift]
      exact List.mem_singleton_self _
  callers := by
    intro identifier sites resolved
    cases found : findEntry tolerance query graph with
    | none =>
      rw [resolve_of_missed found] at resolved
      cases resolved
    | some hit =>
      obtain ⟨line, entry⟩ := hit
      have filled := isFilled_of_found accepted canonical found
      rw [resolve_of_found found] at resolved
      generalize entry.target = target at filled resolved
      cases filled with
      | callers own present =>
        obtain ⟨-, rfl⟩ := Resolution.callers.inj resolved
        exact present
      | definitions | empty => cases resolved
  silent := by
    cases found : findEntry tolerance query graph with
    | none =>
      rw [resolve_of_missed found]
      refine iff_of_false (fun silent => ?_) (by simp)
      cases silent.noDiagnostic
    | some hit =>
      obtain ⟨line, entry⟩ := hit
      have filled := isFilled_of_found accepted canonical found
      rw [resolve_of_found found, filled.isSilent_iff]
      simp
  knows := by
    intro line entry found
    obtain ⟨item, written, holds⟩ := holds_of_found accepted found
    exact ⟨item, written, holds.eq_empty_iff⟩

/-- A value with one entry and two candidates, of which the second has no line. -/
def twoCandidates : Json :=
  .object [("a.js:5:f", .object [("definedAt",
    .object [("b.js", .object [("line", .int 7)]), ("c.js", .array [.null])])])]

theorem isCanonical_twoCandidates : twoCandidates.IsCanonical := by
  refine .object _ (List.pairwise_singleton _ _) ?_
  rw [List.forall_mem_singleton]
  refine .object _ (List.pairwise_singleton _ _) ?_
  rw [List.forall_mem_singleton]
  refine .object _ (List.pairwise_pair.mpr (by decide)) ?_
  rw [List.forall_mem_cons, List.forall_mem_singleton]
  constructor
  · refine .object _ (List.pairwise_singleton _ _) ?_
    rw [List.forall_mem_singleton]
    exact .number _
  · refine .array _ ?_
    rw [List.forall_mem_singleton]
    exact .null

/-- A click two lines above the entry. -/
theorem showsAll_two_candidates : ∃ graph,
    twoCandidates.IsCanonical ∧ CallGraph.ofEntries twoCandidates = .ok graph ∧
      ShowsAll twoCandidates graph ⟨"App", "a.js", 3, "f"⟩ 10 ∧
      resolve 10 ⟨"App", "a.js", 3, "f"⟩ graph =
        ⟨.definition "f" [⟨"b.js", 7⟩], some 5, [.unresolvableLine "f" "c.js"]⟩ := by
  refine ⟨⟨[("a.js:5:f", ⟨"f", .definitions [⟨"b.js", some 7⟩, ⟨"c.js", none⟩]⟩)]⟩,
    isCanonical_twoCandidates, by rfl, ?_, by decide +kernel⟩
  exact showsAll isCanonical_twoCandidates (by rfl) _ _

end CallAtlas
