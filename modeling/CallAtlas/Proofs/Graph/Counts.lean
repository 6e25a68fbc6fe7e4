import CallAtlas.Proofs.Graph.Construction
import Mathlib.Data.Set.Card

/-!
# Counts of graphs

Every entry of a graph is counted in one of three classes, which is that of the value it is made
of. The files are the distinct paths of the keys that can be taken apart, and neither the order of
the entries nor that of the values changes a count.
-/

namespace CallAtlas

/-! ## Classes of values -/

namespace Json

/-- The keys of the members of an object. -/
def keys (value : Json) : List String :=
  value.members.map Prod.fst

/-- A value with call sites. -/
def AnswersCallers (value : Json) : Prop :=
  value.sites ≠ []

/-- A value with definitions, but without call sites. -/
def AnswersDefinitions (value : Json) : Prop :=
  ¬ value.AnswersCallers ∧ value.definitions ≠ []

/-- A value of neither class. -/
def AnswersNothing (value : Json) : Prop :=
  ¬ value.AnswersCallers ∧ ¬ value.AnswersDefinitions

instance (value : Json) : Decidable value.AnswersCallers :=
  inferInstanceAs (Decidable (value.sites ≠ []))

instance (value : Json) : Decidable value.AnswersDefinitions :=
  inferInstanceAs (Decidable (¬ value.AnswersCallers ∧ value.definitions ≠ []))

instance (value : Json) : Decidable value.AnswersNothing :=
  inferInstanceAs (Decidable (¬ value.AnswersCallers ∧ ¬ value.AnswersDefinitions))

/-- A target is of the class of a value. -/
structure Classes (value : Json) (target : Target) : Prop where
  callers : target.hasCallers = true ↔ value.AnswersCallers
  definitions : target.hasDefinitions = true ↔ value.AnswersDefinitions
  empty : target.isEmpty = true ↔ value.AnswersNothing

/-- What a value is written with decides its class. -/
theorem Holds.classes {value : Json} {target : Target} (holds : value.Holds target) :
    value.Classes target := by
  cases holds with
  | callers sites written present =>
    have caller : value.AnswersCallers := present
    constructor <;> simp [AnswersDefinitions, AnswersNothing, caller, Target.hasCallers,
      Target.hasDefinitions, Target.isEmpty]
  | definitions candidates bare written present =>
    have noCaller : ¬ value.AnswersCallers := not_not.mpr bare
    constructor <;> simp [AnswersDefinitions, AnswersNothing, noCaller, present, Target.hasCallers,
      Target.hasDefinitions, Target.isEmpty]
  | nothing bare barren =>
    have noCaller : ¬ value.AnswersCallers := not_not.mpr bare
    constructor <;> simp [AnswersDefinitions, AnswersNothing, noCaller, barren, Target.hasCallers,
      Target.hasDefinitions, Target.isEmpty]

end Json

/-- A key that can be taken apart, and has the path in front. -/
def KeyParts.IsIn (path key : String) : Prop :=
  ∃ line identifier, ofKey? key = some ⟨path, line, identifier⟩

namespace CallGraph

/-! ## Classes and files of entries -/

/-- An entry is of one of the three classes. -/
theorem length_eq_classes (entries : List (String × Entry)) :
    entries.length = entries.countP (fun entry => entry.2.target.hasCallers) +
      entries.countP (fun entry => entry.2.target.hasDefinitions) +
      entries.countP (fun entry => entry.2.target.isEmpty) := by
  induction entries with
  | nil => rfl
  | cons entry rest ih =>
    obtain ⟨key, identifier, target⟩ := entry
    simp only [List.countP_cons, List.length_cons, ih]
    cases target <;> simp [Target.hasCallers, Target.hasDefinitions, Target.isEmpty] <;> omega

/-- The paths of the keys that can be taken apart, one for each of these keys. -/
def paths (graph : CallGraph) : List String :=
  graph.entries.filterMap fun entry => (KeyParts.ofKey? entry.1).map KeyParts.path

theorem mem_paths {graph : CallGraph} {path : String} :
    path ∈ graph.paths ↔ ∃ key ∈ graph.entries.map Prod.fst, KeyParts.IsIn path key := by
  simp only [paths, List.mem_filterMap, List.mem_map, Option.map_eq_some_iff]
  constructor
  · rintro ⟨entry, present, ⟨own, line, identifier⟩, taken, rfl⟩
    exact ⟨entry.1, ⟨entry, present, rfl⟩, line, identifier, taken⟩
  · rintro ⟨_, ⟨entry, present, rfl⟩, line, identifier, taken⟩
    exact ⟨entry, present, ⟨path, line, identifier⟩, taken, rfl⟩

theorem stats_files (graph : CallGraph) : graph.stats.files = graph.paths.toFinset.card :=
  length_eraseDups graph.paths

/-- The counts do not depend on the order of the entries. -/
theorem stats_of_perm {entries : List (String × Entry)} {graph : CallGraph}
    (order : entries.Perm graph.entries) : (CallGraph.mk entries).stats = graph.stats := by
  have paths : (CallGraph.mk entries).paths.toFinset = graph.paths.toFinset :=
    List.toFinset_eq_of_perm _ _ (order.filterMap _)
  have files : (CallGraph.mk entries).stats.files = graph.stats.files := by
    rw [stats_files, stats_files, paths]
  simp only [stats, size, order.length_eq, order.countP_eq] at files ⊢
  rw [files]

/-- An entry under a key that cannot be taken apart is of no file. -/
theorem paths_filter_isSome (graph : CallGraph) :
    (CallGraph.mk (graph.entries.filter fun entry => (KeyParts.ofKey? entry.1).isSome)).paths =
      graph.paths := by
  rw [paths, List.filterMap_filter, paths]
  refine List.filterMap_congr fun entry _ => ?_
  cases KeyParts.ofKey? entry.1 <;> rfl

/-! ## Counts of what is written -/

/-- How the counts of a graph come from the value that it is made of. -/
structure CountsEntries (value : Json) (graph : CallGraph) : Prop where
  entries : graph.stats.entries = value.members.length
  /-- There are as many entries as keys, unless a key is there twice. -/
  keys : value.keys.Nodup → graph.stats.entries = value.keys.toFinset.card
  /-- In what is read from bytes none is. -/
  distinct : value.IsCanonical → value.keys.Nodup
  /-- The three classes share out the entries. -/
  total : graph.stats.entries =
    graph.stats.callers + graph.stats.definitions + graph.stats.empty
  /-- The class of an entry is that of the value under its key. -/
  classes : ∀ key item, value.member? key = some item →
    ∃ entry, graph.get? key = some entry ∧ item.Classes entry.target
  callers : graph.stats.callers = value.members.countP fun member => member.2.AnswersCallers
  definitions : graph.stats.definitions =
    value.members.countP fun member => member.2.AnswersDefinitions
  empty : graph.stats.empty = value.members.countP fun member => member.2.AnswersNothing
  files : graph.stats.files = Set.ncard {path | ∃ key ∈ value.keys, KeyParts.IsIn path key}
  bounded : graph.stats.files ≤ graph.stats.entries
  /-- Keys that cannot be taken apart add no file. -/
  unsplit : graph.stats.files = (CallGraph.mk (graph.entries.filter fun entry =>
    (KeyParts.ofKey? entry.1).isSome)).stats.files
  anyOrder : ∀ entries : List (String × Entry), entries.Perm graph.entries →
    (CallGraph.mk entries).stats = graph.stats
  /-- Nor does it matter in which order the values are written. -/
  anyWriting : ∀ members : List (String × Json), members.Perm value.members →
    ∃ other, ofEntries (.object members) = .ok other ∧ other.stats = graph.stats

section Made

variable {value : Json} {graph : CallGraph}

theorem stored_of_ofEntries (made : ofEntries value = .ok graph) :
    List.Forall₂ IsStored value.members graph.entries :=
  decodeEntries_eq_ok_iff.mp (decodeEntries_of_ofEntries made)

/-- As many entries are of a class as there are values of it. -/
theorem countP_target (made : ofEntries value = .ok graph) (p : Target → Bool) (q : Json → Prop)
    [DecidablePred q] (same : ∀ item target, item.Classes target → (p target = true ↔ q item)) :
    graph.entries.countP (fun entry => p entry.2.target) =
      value.members.countP fun member => q member.2 := by
  rw [List.countP_eq_length_filter, List.countP_eq_length_filter]
  refine (List.rel_filter ?_ (stored_of_ofEntries made)).length_eq.symm
  intro member entry own
  show decide (q member.2) = true ↔ p entry.2.target = true
  rw [decide_eq_true_iff, same member.2 entry.2.target (Entry.holds_of_decode own.2).classes]

/-- In what is read from bytes no key is there twice. -/
theorem nodup_keys (canonical : value.IsCanonical) : value.keys.Nodup := by
  refine List.pairwise_map.mpr (canonical.byteAscending.imp ?_)
  intro earlier later below same
  rw [same] at below
  exact List.lt_irrefl _ below

theorem card_keys (distinct : value.keys.Nodup) :
    value.keys.toFinset.card = value.members.length := by
  rw [List.toFinset_card_of_nodup distinct, Json.keys, List.length_map]

/-- A graph counts what the value that it is made of is written with. -/
theorem countsEntries (made : ofEntries value = .ok graph) : CountsEntries value graph := by
  have stored := stored_of_ofEntries made
  have length : graph.stats.entries = value.members.length := stored.length_eq.symm
  have keys : graph.entries.map Prod.fst = value.keys := map_fst_of_stored stored
  refine
    { entries := length
      keys := fun distinct => length.trans (card_keys distinct).symm
      distinct := nodup_keys
      total := length_eq_classes graph.entries
      classes := ?classes
      callers := countP_target made Target.hasCallers Json.AnswersCallers fun _ _ own => own.callers
      definitions :=
        countP_target made Target.hasDefinitions Json.AnswersDefinitions fun _ _ own =>
          own.definitions
      empty := countP_target made Target.isEmpty Json.AnswersNothing fun _ _ own => own.empty
      files := ?files
      bounded := ?bounded
      unsplit := ?unsplit
      anyOrder := fun _ => stats_of_perm
      anyWriting := ?anyWriting }
  case classes =>
    intro key item written
    have reflects := reflects_ofEntries made key
    rw [written] at reflects
    obtain ⟨entry, decoded, found⟩ := reflects
    exact ⟨entry, found, (Entry.holds_of_decode decoded).classes⟩
  case files =>
    rw [stats_files, ← Set.ncard_coe_finset]
    congr 1
    ext path
    rw [Finset.mem_coe, List.mem_toFinset, mem_paths, keys]
    rfl
  case bounded =>
    rw [stats_files]
    exact (List.toFinset_card_le _).trans (List.length_filterMap_le _ _)
  case unsplit =>
    rw [stats_files, stats_files, paths_filter_isSome]
  case anyWriting =>
    intro members order
    -- What is decoded in another order are the same entries in that order.
    obtain ⟨entries, decoded, perm⟩ := List.perm_comp_forall₂ order stored
    have made : ofEntries (.object members) = .ok ⟨entries⟩ :=
      Except.map_eq_ok_iff.mpr ⟨entries, decodeEntries_eq_ok_iff.mpr decoded, rfl⟩
    exact ⟨⟨entries⟩, made, stats_of_perm perm⟩

/-- Two keys of a path with a colon, one without a line and one of a single part. -/
def oddKeys : Json :=
  .object
    [("a:b.js:+03:g", .object [("definedAt", .object [("d.js", .array [.int 4])])]),
     ("a:b.js:3:f", .array [.null, .array [.object [("file", .string "c.js"), ("line", .int 2)]]]),
     ("c.js:x:h", .object []),
     ("f", .object [("defined_at", .object [("e.js", .null)]), ("referenced_at", .array [])])]

/-- Four entries of one file, and the empty list of call sites does not hide the definitions. -/
theorem countsEntries_oddKeys :
    ∃ graph, ofEntries oddKeys = .ok graph ∧ graph.stats = ⟨4, 1, 2, 1, 1⟩ ∧
      CountsEntries oddKeys graph := by
  have made : ofEntries oddKeys = .ok ⟨
      [("a:b.js:+03:g", ⟨"g", .definitions [⟨"d.js", some 4⟩]⟩),
       ("a:b.js:3:f", ⟨"f", .callers [⟨"c.js", 2, none, none⟩]⟩),
       ("c.js:x:h", ⟨"h", .empty⟩),
       ("f", ⟨"f", .definitions [⟨"e.js", none⟩]⟩)]⟩ := by
    rfl
  exact ⟨_, made, by decide +kernel, countsEntries made⟩

end Made

end CallGraph

end CallAtlas
