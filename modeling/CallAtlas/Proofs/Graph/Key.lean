import CallAtlas.Proofs.Resolution.Scan
import CallAtlas.Proofs.Text.Reading
import Mathlib.Data.List.TakeDrop
import Mathlib.Data.List.TakeWhile

/-!
# Keys taken apart

A key is joined of its parts without a mark of where they end, and taken apart at its last two
colons. The parts are read back exactly if the identifier has no colon, and a key is joined again
as it was exactly if its line is written as the library writes lines.
-/

namespace CallAtlas

namespace KeyParts

/-! ## The last colon -/

theorem splitLast?_append {behind : List Char} (plain : ':' ∉ behind) (before : List Char) :
    splitLast? (before ++ ':' :: behind) = some (before, behind) := by
  have each : ∀ c ∈ behind.reverse, decide (c ≠ ':') = true := by
    intro c member
    exact decide_eq_true fun same => plain (List.mem_reverse.mp (same ▸ member))
  have reversed : (before ++ ':' :: behind).reverse = behind.reverse ++ ':' :: before.reverse := by
    simp
  rw [splitLast?, reversed, List.span_eq_takeWhile_dropWhile, List.takeWhile_append_of_pos each,
    List.dropWhile_append_of_pos each]
  simp

theorem splitLast?_eq_none {s : List Char} (plain : ':' ∉ s) : splitLast? s = none := by
  have each : ∀ c ∈ s.reverse, decide (c ≠ ':') = true := by
    intro c member
    exact decide_eq_true fun same => plain (List.mem_reverse.mp (same ▸ member))
  rw [splitLast?, List.span_eq_takeWhile_dropWhile, List.dropWhile_eq_nil_iff.mpr each]

/-- A text is divided at the colon behind which there is no other. -/
theorem splitLast?_eq_some_iff {s before behind : List Char} :
    splitLast? s = some (before, behind) ↔ s = before ++ ':' :: behind ∧ ':' ∉ behind := by
  constructor
  · intro split
    by_cases colon : ':' ∈ s.reverse
    · obtain ⟨last, front, reversed, plain⟩ := List.eq_append_cons_of_mem colon
      have whole : s = front.reverse ++ ':' :: last.reverse := by
        simpa using congrArg List.reverse reversed
      have plain : ':' ∉ last.reverse := fun member => plain (List.mem_reverse.mp member)
      rw [whole, splitLast?_append plain] at split
      obtain ⟨rfl, rfl⟩ := Prod.mk.inj (Option.some.inj split)
      exact ⟨whole, plain⟩
    · rw [splitLast?_eq_none fun member => colon (List.mem_reverse.mpr member)] at split
      cases split
  · rintro ⟨rfl, plain⟩
    exact splitLast?_append plain before

/-! ## The pieces of a key -/

/-- What stands between the colons of a key. -/
def segments (key : String) : List (List Char) :=
  key.toList.splitOn ':'

/-- The last segment of a key but one. -/
def lineSegment? (key : String) : Option (List Char) :=
  (segments key).reverse[1]?

/-- How a key divides into parts: the line is read from a piece in front of the last colon. -/
structure Divides (key : String) (parts : KeyParts) (numeral : List Char) : Prop where
  whole : key.toList = parts.path.toList ++ ':' :: (numeral ++ ':' :: parts.identifier.toList)
  plain : ':' ∉ parts.identifier.toList
  line : Text.readWord? numeral = some parts.line

variable {key : String} {parts other : KeyParts} {numeral : List Char}

/-- A key is taken apart exactly if it divides. -/
theorem ofKey?_eq_some_iff : ofKey? key = some parts ↔ ∃ numeral, Divides key parts numeral := by
  simp only [ofKey?, Option.bind_eq_bind, Option.bind_eq_some_iff, Prod.exists,
    splitLast?_eq_some_iff]
  constructor
  · rintro ⟨front, identifier, ⟨whole, plain⟩, path, numeral, ⟨rfl, -⟩, line, read, made⟩
    obtain rfl := Option.some.inj made
    exact ⟨numeral, by simpa using whole, by simpa using plain, read⟩
  · rintro ⟨numeral, whole, plain, read⟩
    refine ⟨parts.path.toList ++ ':' :: numeral, parts.identifier.toList, ⟨by simp [whole], plain⟩,
      parts.path.toList, numeral, ⟨rfl, Text.notMem_of_readWord? read (by decide) (by decide)⟩,
      parts.line, read, ?_⟩
    rw [String.ofList_toList, String.ofList_toList]
    rfl

theorem Divides.lineSegment?_eq (divides : Divides key parts numeral) :
    lineSegment? key = some numeral := by
  have plain : ':' ∉ numeral := Text.notMem_of_readWord? divides.line (by decide) (by decide)
  rw [lineSegment?, segments, divides.whole, List.splitOn_append_cons_self,
    List.splitOn_append_cons_self, List.splitOn_eq_singleton plain,
    List.splitOn_eq_singleton divides.plain]
  simp

/-- The key of parts divides into them unless the identifier has a colon. -/
theorem divides_key (plain : ':' ∉ parts.identifier.toList) :
    Divides parts.key parts (Text.numeral parts.line.toNat) where
  whole := by simp [toList_key]
  plain := plain
  line := Text.readWord?_numeral parts.line

theorem ofKey?_key_iff : ofKey? parts.key = some parts ↔ ':' ∉ parts.identifier.toList := by
  rw [ofKey?_eq_some_iff]
  exact ⟨fun ⟨_, divides⟩ => divides.plain, fun plain => ⟨_, divides_key plain⟩⟩

/-- Parts without a colon in the identifier are known by their key. -/
theorem key_inj (plain : ':' ∉ parts.identifier.toList) (otherPlain : ':' ∉ other.identifier.toList)
    (same : parts.key = other.key) : parts = other := by
  have read := ofKey?_key_iff.mpr plain
  rw [same, ofKey?_key_iff.mpr otherPlain] at read
  exact (Option.some.inj read).symm

/-- A key that divides is joined again as it was if its line is the numeral of what it is
read as. -/
theorem Divides.key_eq_iff (divides : Divides key parts numeral) :
    parts.key = key ↔ numeral = Text.numeral parts.line.toNat := by
  rw [← String.toList_inj, toList_key, divides.whole, List.append_assoc, List.append_cancel_left_eq,
    List.singleton_append, List.cons.injEq, List.append_cancel_right_eq]
  exact ⟨fun ⟨_, same⟩ => same.symm, fun same => ⟨rfl, same.symm⟩⟩

/-- The line of a key is written as the library writes lines. -/
def HasOwnNumeral (key : String) (line : UInt32) : Prop :=
  lineSegment? key = some (toString line.toNat).toList

theorem Divides.hasOwnNumeral_iff (divides : Divides key parts numeral) :
    HasOwnNumeral key parts.line ↔ numeral = Text.numeral parts.line.toNat := by
  rw [HasOwnNumeral, divides.lineSegment?_eq, Text.toList_toString, Option.some_inj]

/-- Lookups of the parts look under the key, whatever graph they look in. -/
def LeadTo (parts : KeyParts) (key : String) : Prop :=
  ∀ graph : CallGraph, graph.lookup? parts.path parts.line parts.identifier = graph.get? key

theorem leadTo_iff : LeadTo parts key ↔ parts.key = key := by
  constructor
  · intro leads
    have found : (CallGraph.mk [(key, ⟨"", .empty⟩)]).get? key = some ⟨"", .empty⟩ :=
      List.lookup_cons_self
    rw [← leads, CallGraph.lookup?, CallGraph.get?, lookup_cons_eq_ite] at found
    by_contra different
    rw [if_neg different] at found
    cases found
  · rintro rfl graph
    rfl

/-- A key is of a path and an identifier if it is taken apart into these and some line. -/
def IsOf (path identifier key : String) : Prop :=
  ∃ parts ∈ ofKey? key, parts.path = path ∧ parts.identifier = identifier

instance (path identifier key : String) : Decidable (IsOf path identifier key) :=
  inferInstanceAs (Decidable (∃ parts ∈ ofKey? key, parts.path = path ∧
    parts.identifier = identifier))

end KeyParts

/-- Entries under other keys are none of a path and an identifier without a colon. -/
theorem CallGraph.entriesUnder_filter_isOf (graph : CallGraph) (path : String) {identifier : String}
    (plain : ':' ∉ identifier.toList) :
    (CallGraph.mk
        (graph.entries.filter fun entry => KeyParts.IsOf path identifier entry.1)).entriesUnder
      path identifier = graph.entriesUnder path identifier := by
  unfold entriesUnder
  rw [List.filterMap_filter]
  refine List.filterMap_congr fun ⟨key, entry⟩ _ => ?_
  split
  · rfl
  · rename_i foreign
    have foreign : ¬ KeyParts.IsOf path identifier key := by simpa using foreign
    have unread : lineUnder? path identifier key = none := by
      refine Option.eq_none_iff_forall_ne_some.mpr fun line found => foreign ?_
      obtain rfl := key_of_lineUnder? found
      exact ⟨_, KeyParts.ofKey?_key_iff.mpr plain, rfl, rfl⟩
    simp only [unread, Option.map_none]

/-- How the keys of a graph are made, and how they lead to its entries. -/
structure DividesKeys (graph : CallGraph) : Prop where
  /-- Parts are read back from their key exactly if the identifier has no colon. -/
  readsBack : ∀ parts : KeyParts,
    KeyParts.ofKey? parts.key = some parts ↔ ':' ∉ parts.identifier.toList
  injective : ∀ parts other : KeyParts, ':' ∉ parts.identifier.toList →
    ':' ∉ other.identifier.toList → parts.key = other.key → parts = other
  /-- What a click on an identifier without a colon finds stands under a key that divides into the
  file of the click, the line that is found, and the identifier. -/
  ownEntry : ∀ (tolerance : UInt32) (query : Query) line entry,
    ':' ∉ query.identifier.toList → findEntry tolerance query graph = some (line, entry) →
      ∃ key, graph.get? key = some entry ∧
        KeyParts.ofKey? key = some ⟨query.relativePath, line, query.identifier⟩
  /-- What it finds is found without the entries of other files and of other identifiers. -/
  onlyOwn : ∀ (tolerance : UInt32) (query : Query), ':' ∉ query.identifier.toList →
    findEntry tolerance query graph = findEntry tolerance query ⟨graph.entries.filter fun entry =>
      KeyParts.IsOf query.relativePath query.identifier entry.1⟩
  /-- The parts of a key make up that key again exactly if its line is written as lines are. -/
  rejoins : ∀ key parts, KeyParts.ofKey? key = some parts →
    (parts.key = key ↔ KeyParts.HasOwnNumeral key parts.line)
  /-- That is, with no plus sign and no zero in front. -/
  shortest : ∀ key parts, KeyParts.ofKey? key = some parts →
    (KeyParts.HasOwnNumeral key parts.line ↔
      ∃ numeral, KeyParts.lineSegment? key = some numeral ∧ Text.IsShortest numeral)
  /-- Then, and only then, lookups of its parts lead to the key. -/
  leads : ∀ key parts, KeyParts.ofKey? key = some parts →
    (parts.LeadTo key ↔ KeyParts.HasOwnNumeral key parts.line)
  stored : ∀ key parts entry, KeyParts.ofKey? key = some parts → graph.get? key = some entry →
    KeyParts.HasOwnNumeral key parts.line →
      graph.lookup? parts.path parts.line parts.identifier = some entry
  /-- Otherwise they lead to another key, and the entry under the first does not count. -/
  elsewhere : ∀ key parts, KeyParts.ofKey? key = some parts →
    ¬ KeyParts.HasOwnNumeral key parts.line →
      (∃ other, other ≠ key ∧ parts.LeadTo other) ∧
        graph.lookup? parts.path parts.line parts.identifier =
          (CallGraph.mk (graph.entries.filter fun entry => entry.1 ≠ key)).lookup?
            parts.path parts.line parts.identifier

theorem dividesKeys (graph : CallGraph) : DividesKeys graph where
  readsBack := fun _ => KeyParts.ofKey?_key_iff
  injective := fun _ _ => KeyParts.key_inj
  ownEntry := by
    intro tolerance query line entry plain found
    obtain ⟨-, here, -⟩ := findEntry_eq_some found
    exact ⟨_, here, KeyParts.ofKey?_key_iff.mpr plain⟩
  onlyOwn := by
    intro tolerance query plain
    rw [findEntry, findEntry, CallGraph.entriesUnder_filter_isOf graph _ plain]
  rejoins := by
    intro key parts taken
    obtain ⟨numeral, divides⟩ := KeyParts.ofKey?_eq_some_iff.mp taken
    rw [divides.key_eq_iff, divides.hasOwnNumeral_iff]
  shortest := by
    intro key parts taken
    obtain ⟨numeral, divides⟩ := KeyParts.ofKey?_eq_some_iff.mp taken
    rw [divides.hasOwnNumeral_iff, Text.eq_numeral_iff divides.line, divides.lineSegment?_eq]
    simp
  leads := by
    intro key parts taken
    obtain ⟨numeral, divides⟩ := KeyParts.ofKey?_eq_some_iff.mp taken
    rw [KeyParts.leadTo_iff, divides.key_eq_iff, divides.hasOwnNumeral_iff]
  stored := by
    intro key parts entry taken here own
    obtain ⟨numeral, divides⟩ := KeyParts.ofKey?_eq_some_iff.mp taken
    have same := divides.key_eq_iff.mpr (divides.hasOwnNumeral_iff.mp own)
    rw [KeyParts.leadTo_iff.mpr same, here]
  elsewhere := by
    intro key parts taken foreign
    obtain ⟨numeral, divides⟩ := KeyParts.ofKey?_eq_some_iff.mp taken
    have different : parts.key ≠ key := fun same =>
      foreign (divides.hasOwnNumeral_iff.mpr (divides.key_eq_iff.mp same))
    have kept := lookup_filter_key (fun other => decide (other ≠ key)) graph.entries parts.key
    rw [if_pos (decide_eq_true different)] at kept
    exact ⟨⟨parts.key, different, KeyParts.leadTo_iff.mpr rfl⟩, kept.symm⟩

-- A line with a plus sign and a zero is read, and written without them.
example : KeyParts.ofKey? "a.js:+07:f" = some ⟨"a.js", 7, "f"⟩ ∧
    KeyParts.key ⟨"a.js", 7, "f"⟩ = "a.js:7:f" := by
  decide +kernel

end CallAtlas
