import CallAtlas.Proofs.Graph.Construction
import CallAtlas.Proofs.Json.Canonical
import CallAtlas.Proofs.Navigator.Click
import CallAtlas.Proofs.Workspace.Confinement

/-!
# How a load ends

A navigator that reads files and was asked for nothing before ends up with a graph, or it fails at
the first stage that does not pass: the name of the project, the file of its artifact, the document
in it, the shape of the document, or its entries.
-/

namespace CallAtlas

/-- Why a document is no call graph: the context of the failure, and the message. -/
inductive Json.GraphFault (document : Json) : String → String → Prop where
  | noObject (shape : ∀ members, document ≠ .object members) :
    GraphFault document "artifact" ("expected an object, found " ++ document.kind)
  | noEntries (value : Json) (field : document.member? "call_graph" = some value)
      (notNull : value ≠ .null) (shape : ∀ members, value ≠ .object members) :
    GraphFault document "call_graph" ("expected an object, found " ++ value.kind)
  /-- Of the entries that do not decode it is the one with the least key. -/
  | noEntry (members : List (String × Json))
      (field : document.member? "call_graph" = some (.object members))
      (key : String) (value : Json) (present : (key, value) ∈ members)
      (mismatch : Mismatch) (fails : Entry.decode key value = .error mismatch)
      (least : ∀ member ∈ members, (∃ reason, Entry.decode member.1 member.2 = .error reason) →
        ¬ Text.bytes member.1 < Text.bytes key) :
    GraphFault document key mismatch.message

/-- Why the bytes of an artifact are no call graph. -/
inductive ArtifactFault (path : Path) (bytes : List UInt8) : String → String → Prop where
  | noDocument (error : Json.ReadError) (broken : Json.read bytes = .error error) :
    ArtifactFault path bytes path.text error.message
  | document (document : Json) (written : Json.read bytes = .ok document) (context message : String)
      (fault : document.GraphFault context message) :
    ArtifactFault path bytes context message

namespace CallGraph

variable {document : Json} {failure : Failure}

/-- A fault of a document is the one that its graph fails with. -/
theorem ofArtifact_of_fault (canonical : document.IsCanonical) {context message : String}
    (fault : document.GraphFault context message) :
    ofArtifact document = .error (.malformed context message) := by
  cases fault with
  | noObject shape => exact ofArtifact_of_noObject shape
  | noEntries value field notNull shape =>
    rw [ofArtifact_of_member? field, ofEntries_of_noObject notNull shape]
    rfl
  | noEntry members field _ value present mismatch fails least =>
    rw [ofArtifact_of_member? field]
    have ascending : Json.ByteAscending members := (canonical.member? field).byteAscending
    have bad := (Entry.exists_decode_eq_error_iff context).mp ⟨mismatch, fails⟩
    cases made : decodeEntries members with
    | ok entries =>
      have good := exists_decodeEntries_eq_ok_iff.mp ⟨entries, made⟩ _ present
      exact absurd good bad
    | error failure =>
      obtain ⟨key, item, reason, there, mismatched, rfl, below⟩ :=
        least_of_decodeEntries_eq_error ascending made
      have failsThere : Entry.decode key item = .error reason :=
        Entry.decode_eq_error_iff.mpr mismatched
      -- Both keys are least among those that fail, so they are the same.
      have same : (context, value) = (key, item) := by
        by_contra different
        rcases ascending.apart present there different with before | behind
        · exact bad (below _ present before)
        · exact least _ there ⟨reason, failsThere⟩ behind
      obtain ⟨rfl, rfl⟩ := Prod.mk.inj same
      obtain rfl := Except.error.inj (fails.symm.trans failsThere)
      simp only [ofEntries, made]
      rfl

/-- A graph that fails has a fault in its document. -/
theorem exists_fault_of_ofArtifact (canonical : document.IsCanonical)
    (fails : ofArtifact document = .error failure) :
    ∃ context message, document.GraphFault context message ∧
      failure = .malformed context message := by
  by_cases shape : ∀ members, document ≠ .object members
  · rw [ofArtifact_of_noObject shape] at fails
    exact ⟨_, _, .noObject shape, (Except.error.inj fails).symm⟩
  obtain ⟨fields, rfl⟩ := not_forall_not.mp shape
  cases field : (Json.object fields).member? "call_graph" with
  | none =>
    rw [ofArtifact_of_absent field] at fails
    cases fails
  | some value =>
    rw [ofArtifact_of_member? field] at fails
    by_cases bare : value = .null
    · subst bare
      cases fails
    by_cases flat : ∀ members, value ≠ .object members
    · rw [ofEntries_of_noObject bare flat] at fails
      exact ⟨_, _, .noEntries value field bare flat, (Except.error.inj fails).symm⟩
    obtain ⟨members, rfl⟩ := not_forall_not.mp flat
    obtain ⟨key, item, mismatch, there, mismatched, rfl, below⟩ :=
      least_of_decodeEntries_eq_error (canonical.member? field).byteAscending
        (Except.map_eq_error_iff.mp fails)
    refine ⟨key, mismatch.message, .noEntry members field key item there mismatch
      (Entry.decode_eq_error_iff.mpr mismatched) ?_, rfl⟩
    intro member present failsToo lower
    exact (Entry.exists_decode_eq_error_iff member.1).mp failsToo (below member present lower)

end CallGraph

section Bytes

variable {path : Path} {bytes : List UInt8} {failure : Failure}

/-- The bytes of an artifact fail to become a graph exactly with their fault. -/
theorem bind_artifactOfBytes_eq_error_iff :
    (artifactOfBytes path bytes).bind CallGraph.ofArtifact = .error failure ↔
      ∃ context message, ArtifactFault path bytes context message ∧
        failure = .malformed context message := by
  unfold artifactOfBytes
  cases written : Json.read bytes with
  | error error =>
    constructor
    · intro fails
      exact ⟨_, _, .noDocument error written, (Except.error.inj fails).symm⟩
    · rintro ⟨context, message, fault, rfl⟩
      cases fault with
      | noDocument own broken =>
        obtain rfl := Except.error.inj (written.symm.trans broken)
        rfl
      | document document read =>
        rw [written] at read
        cases read
  | ok document =>
    have canonical := Json.isCanonical_of_read written
    constructor
    · intro fails
      obtain ⟨context, message, fault, same⟩ :=
        CallGraph.exists_fault_of_ofArtifact canonical fails
      exact ⟨context, message, .document document written context message fault, same⟩
    · rintro ⟨context, message, fault, rfl⟩
      cases fault with
      | noDocument own broken =>
        rw [written] at broken
        cases broken
      | document other read _ _ fault =>
        obtain rfl := Except.ok.inj (written.symm.trans read)
        exact CallGraph.ofArtifact_of_fault canonical fault

end Bytes

namespace Navigator

/-- How the first load of a project from the files of a workspace ends. -/
structure LoadEnds (workspace : Workspace) (read : FileReader) (project : String)
    (result : Except Failure CallGraph) : Prop where
  refused : ∀ reason, result = .error (.refused reason) ↔
    ¬ Path.IsName project ∧ reason = .projectName project
  /-- The file of the artifact cannot be read. -/
  unavailable : ∀ own path message, result = .error (.unavailable own path message) ↔
    Path.IsName project ∧ own = project ∧ path = (workspace.artifactPath project).text ∧
      ∃ fault, read (workspace.artifactPath project) = .error fault ∧
        message = "no call graph at path: " ++ path ++ " (" ++ fault.message ++ ")"
  /-- The file is read, and its bytes are no call graph. -/
  malformed : ∀ context message, result = .error (.malformed context message) ↔
    Path.IsName project ∧ ∃ bytes, read (workspace.artifactPath project) = .ok bytes ∧
      ArtifactFault (workspace.artifactPath project) bytes context message
  /-- Anything else is a graph. -/
  graph : (∃ graph, result = .ok graph) ↔
    Path.IsName project ∧ ∃ bytes, read (workspace.artifactPath project) = .ok bytes ∧
      ∀ context message, ¬ ArtifactFault (workspace.artifactPath project) bytes context message
  /-- A document may have no call graph, or null for one. -/
  empty : Path.IsName project → ∀ bytes members,
    read (workspace.artifactPath project) = .ok bytes → Json.read bytes = .ok (.object members) →
      ((Json.object members).member? "call_graph" = none ∨
        (Json.object members).member? "call_graph" = some .null) →
      result = .ok .empty
  /-- There is no other failure, and a later load may help only if the file cannot be read. -/
  failures : ∀ failure, result = .error failure →
    (∃ reason, failure = .refused reason ∧ failure.isRetryable = false) ∨
      (∃ own path message, failure = .unavailable own path message ∧ failure.isRetryable = true) ∨
      ∃ context message, failure = .malformed context message ∧ failure.isRetryable = false

variable (workspace : Workspace) (read : FileReader) (project : String)

/-- A name that is refused is looked up nowhere. -/
theorem loadEnds_of_refused (invalid : ¬ Path.IsName project) :
    LoadEnds workspace read project (.error (.refused (.projectName project))) where
  refused := by
    intro reason
    rw [Except.error.injEq, Failure.refused.injEq]
    exact ⟨fun same => ⟨invalid, same.symm⟩, fun both => both.2.symm⟩
  unavailable := fun _ _ _ => iff_of_false nofun fun valid => invalid valid.1
  malformed := fun _ _ => iff_of_false nofun fun valid => invalid valid.1
  graph := iff_of_false nofun fun valid => invalid valid.1
  empty := fun valid => absurd valid invalid
  failures := by
    intro failure same
    obtain rfl := Except.error.inj same
    exact .inl ⟨_, rfl, rfl⟩

variable {project} (valid : Path.IsName project)

include valid

theorem loadEnds_of_unreadable {fault : FileFault}
    (unread : read (workspace.artifactPath project) = .error fault) :
    LoadEnds workspace read project
      (.error (unreadable project (workspace.artifactPath project) fault)) where
  refused := fun _ => iff_of_false nofun fun refused => refused.1 valid
  unavailable := by
    intro own path message
    constructor
    · intro same
      obtain ⟨rfl, rfl, rfl⟩ := Failure.unavailable.inj (Except.error.inj same)
      exact ⟨valid, rfl, rfl, fault, unread, rfl⟩
    · rintro ⟨-, rfl, rfl, other, unreadToo, rfl⟩
      obtain rfl := Except.error.inj (unread.symm.trans unreadToo)
      rfl
  malformed := by
    refine fun _ _ => iff_of_false nofun ?_
    rintro ⟨-, bytes, there, -⟩
    rw [unread] at there
    cases there
  graph := by
    refine iff_of_false nofun ?_
    rintro ⟨-, bytes, there, -⟩
    rw [unread] at there
    cases there
  empty := by
    intro _ bytes members there
    rw [unread] at there
    cases there
  failures := by
    intro failure same
    obtain rfl := Except.error.inj same
    exact .inr (.inl ⟨_, _, _, rfl, rfl⟩)

theorem loadEnds_of_bytes {bytes : List UInt8}
    (there : read (workspace.artifactPath project) = .ok bytes) :
    LoadEnds workspace read project
      ((artifactOfBytes (workspace.artifactPath project) bytes).bind CallGraph.ofArtifact) where
  refused := by
    refine fun reason => iff_of_false ?_ fun refused => refused.1 valid
    rw [bind_artifactOfBytes_eq_error_iff]
    rintro ⟨context, message, -, same⟩
    cases same
  unavailable := by
    refine fun own path message => iff_of_false ?_ ?_
    · rw [bind_artifactOfBytes_eq_error_iff]
      rintro ⟨context, message, -, same⟩
      cases same
    · rintro ⟨-, -, -, fault, unread, -⟩
      rw [there] at unread
      cases unread
  malformed := by
    intro context message
    rw [bind_artifactOfBytes_eq_error_iff]
    constructor
    · rintro ⟨_, _, fault, same⟩
      obtain ⟨rfl, rfl⟩ := Failure.malformed.inj same
      exact ⟨valid, bytes, there, fault⟩
    · rintro ⟨-, own, read, fault⟩
      obtain rfl := Except.ok.inj (there.symm.trans read)
      exact ⟨context, message, fault, rfl⟩
  graph := by
    constructor
    · rintro ⟨graph, made⟩
      refine ⟨valid, bytes, there, fun context message fault => ?_⟩
      rw [bind_artifactOfBytes_eq_error_iff.mpr ⟨context, message, fault, rfl⟩] at made
      cases made
    · rintro ⟨-, own, read, sound⟩
      obtain rfl := Except.ok.inj (there.symm.trans read)
      cases made :
          (artifactOfBytes (workspace.artifactPath project) bytes).bind CallGraph.ofArtifact with
      | ok graph => exact ⟨graph, rfl⟩
      | error failure =>
        obtain ⟨context, message, fault, -⟩ := bind_artifactOfBytes_eq_error_iff.mp made
        exact absurd fault (sound context message)
  empty := by
    intro _ own members read written bare
    obtain rfl := Except.ok.inj (there.symm.trans read)
    rw [artifactOfBytes, written]
    show CallGraph.ofArtifact (.object members) = _
    rcases bare with absent | null
    · exact CallGraph.ofArtifact_of_absent absent
    · rw [CallGraph.ofArtifact_of_member? null]
      rfl
  failures := by
    intro failure fails
    obtain ⟨context, message, -, rfl⟩ := bind_artifactOfBytes_eq_error_iff.mp fails
    exact .inr (.inr ⟨context, message, rfl, rfl⟩)

omit valid

/-- Every load ends at the first stage that fails, or with a graph. -/
theorem loadEnds (project : String) :
    LoadEnds workspace read project
      (graphFor (Loader.ofFiles workspace read) {} project).result := by
  by_cases valid : Path.IsName project
  · rw [result_graphFor_start (isProjectName_iff_isName.mpr valid)]
    unfold Loader.ofFiles
    dsimp only
    cases there : read (workspace.artifactPath project) with
    | error fault => exact loadEnds_of_unreadable workspace read valid there
    | ok bytes => exact loadEnds_of_bytes workspace read valid there
  · rw [graphFor, checkProjectName, if_neg fun named => valid (isProjectName_iff_isName.mp named)]
    exact loadEnds_of_refused workspace read project valid

end Navigator

end CallAtlas
