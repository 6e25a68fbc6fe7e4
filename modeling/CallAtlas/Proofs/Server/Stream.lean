import CallAtlas.Proofs.Server.Response
import CallAtlas.Server.Basic

/-!
# Streams of lines

How far a stream of bytes is read. Its lines are read as text one after the other, up to its end or
to the first that is not UTF-8, and there is only one way to do so. The lines that are read are
those that are worked on.
-/

namespace CallAtlas

/-! ## Lines -/

/-- No line of a stream goes beyond a line feed. -/
theorem no_feed_of_mem_streamLines {bytes line : List UInt8} (member : line ∈ streamLines bytes) :
    0x0A ∉ line := by
  fun_induction streamLines bytes generalizing line with
  | case1 => cases member
  | case2 rest ih =>
    rcases List.mem_cons.mp member with rfl | member
    · exact List.not_mem_nil
    · exact ih member
  | case3 b rest other dropped ih => exact ih member
  | case4 b rest other kept none ih =>
    obtain rfl := List.mem_singleton.mp member
    simpa using Ne.symm other
  | case5 b rest other kept first lines split ih =>
    rcases List.mem_cons.mp member with rfl | member
    · intro feed
      rcases List.mem_cons.mp feed with same | feed
      · exact other same.symm
      · exact ih (by rw [split]; exact List.mem_cons_self) feed
    · exact ih (by rw [split]; exact List.mem_cons_of_mem _ member)

/-- Behind a line that goes to a line feed, the stream goes on. -/
theorem streamLines_append {line : List UInt8} (whole : 0x0A ∉ line) (rest : List UInt8) :
    streamLines (line ++ 0x0D :: 0x0A :: rest) = line :: streamLines rest := by
  induction line with
  | nil => rfl
  | cons b later ih =>
    have other : b ≠ 0x0A := fun same => whole (same ▸ List.mem_cons_self)
    have behind : 0x0A ∉ later := fun feed => whole (List.mem_cons_of_mem _ feed)
    -- A carriage return belongs to the line unless the line feed comes next, which is not in it.
    have next : ¬ (b = 0x0D ∧ (later ++ 0x0D :: 0x0A :: rest).head? = some 0x0A) := by
      rintro ⟨-, feed⟩
      cases later with
      | nil => cases feed
      | cons c more => exact behind (Option.some.inj feed ▸ List.mem_cons_self)
    rw [List.cons_append, streamLines, if_neg other, if_neg next, ih behind]

/-- There is a stream of any lines that do not go beyond a line feed. -/
theorem exists_stream {lines : List (List UInt8)} (whole : ∀ line ∈ lines, 0x0A ∉ line) :
    ∃ bytes, streamLines bytes = lines := by
  induction lines with
  | nil => exact ⟨[], rfl⟩
  | cons line rest ih =>
    obtain ⟨behind, same⟩ := ih fun other member => whole other (List.mem_cons_of_mem _ member)
    refine ⟨line ++ 0x0D :: 0x0A :: behind, ?_⟩
    rw [streamLines_append (whole line List.mem_cons_self), same]

/-- Every line of a stream is the only one of some stream. -/
theorem exists_alone {bytes : List UInt8} {lines : List String}
    (read : (streamLines bytes).mapM Text.Utf8.text = .ok lines) {line : String}
    (member : line ∈ lines) :
    ∃ stream, (streamLines stream).mapM Text.Utf8.text = .ok [line] := by
  obtain ⟨raw, present, text⟩ := exists_of_mem_mapM read member
  obtain ⟨stream, same⟩ : ∃ stream, streamLines stream = [raw] := by
    refine exists_stream fun other single => ?_
    obtain rfl := List.mem_singleton.mp single
    exact no_feed_of_mem_streamLines present
  exact ⟨stream, by rw [same]; exact mapM_cons_eq_ok.mpr ⟨line, [], text, rfl, rfl⟩⟩

/-! ## How far lines are read -/

/-- How far lines can be read (`next_line`): the texts of all of them, or of those in front of the
first that is not UTF-8, and the failure at that line. -/
inductive ReadsTo : List (List UInt8) → List String → Option Failure → Prop where
  /-- There are no more lines. -/
  | done : ReadsTo [] [] none
  /-- A line is read, and then those behind it. -/
  | text (line : List UInt8) (rest : List (List UInt8)) (text : String) (texts : List String)
      (failure? : Option Failure) (read : Text.Utf8.text line = .ok text)
      (later : ReadsTo rest texts failure?) : ReadsTo (line :: rest) (text :: texts) failure?
  /-- A line is not UTF-8, and no other is read. -/
  | stops (line : List UInt8) (rest : List (List UInt8)) (fault : Text.Utf8.Fault)
      (broken : Text.Utf8.text line = .error fault) :
    ReadsTo (line :: rest) [] (some (.input InputKind.invalidData fault.message))

theorem readsTo_of_texts {lines : List (List UInt8)} {texts : List String}
    (read : lines.mapM Text.Utf8.text = .ok texts) : ReadsTo lines texts none := by
  induction lines generalizing texts with
  | nil =>
    obtain rfl : [] = texts := Except.ok.inj read
    exact .done
  | cons line rest ih =>
    obtain ⟨text, others, first, later, rfl⟩ := mapM_cons_eq_ok.mp read
    exact .text line rest text others none first (ih later)

namespace ReadsTo

variable {lines : List (List UInt8)} {texts : List String} {failure? : Option Failure}

/-- Lines are read in one way only. -/
theorem unique (reads : ReadsTo lines texts failure?) {others : List String}
    {other? : Option Failure} (again : ReadsTo lines others other?) :
    others = texts ∧ other? = failure? := by
  induction reads generalizing others other? with
  | done =>
    cases again
    exact ⟨rfl, rfl⟩
  | text line rest text texts failure? read later ih =>
    cases again with
    | text _ _ other others _ first behind =>
      obtain rfl := Except.ok.inj (read.symm.trans first)
      obtain ⟨rfl, rfl⟩ := ih behind
      exact ⟨rfl, rfl⟩
    | stops _ _ fault broken => cases read.symm.trans broken
  | stops line rest fault broken =>
    cases again with
    | text _ _ other others _ first => cases broken.symm.trans first
    | stops _ _ other first =>
      obtain rfl := Except.error.inj (broken.symm.trans first)
      exact ⟨rfl, rfl⟩

/-- A stream of requests holds the messages of the lines that are read. -/
theorem ofLines (reads : ReadsTo lines texts failure?) :
    RequestStream.ofLines lines = ⟨texts.map Message.ofLine, failure?⟩ := by
  induction reads with
  | done => rfl
  | text line rest text texts failure? read later ih =>
    rw [RequestStream.ofLines, read]
    dsimp only
    rw [ih]
    rfl
  | stops line rest fault broken =>
    rw [RequestStream.ofLines, broken]
    rfl

/-- Some of the lines that are read can be left out. -/
theorem filter (reads : ReadsTo lines texts failure?) (keep : String → Bool) :
    ∃ kept, kept.Sublist lines ∧ ReadsTo kept (texts.filter keep) failure? := by
  induction reads with
  | done => exact ⟨[], .slnil, .done⟩
  | text line rest text texts failure? read later ih =>
    obtain ⟨kept, among, same⟩ := ih
    cases chosen : keep text with
    | true =>
      rw [List.filter_cons_of_pos chosen]
      exact ⟨line :: kept, among.cons_cons line, .text line kept text _ failure? read same⟩
    | false =>
      rw [List.filter_cons_of_neg (ne_true_of_eq_false chosen)]
      exact ⟨kept, among.cons line, same⟩
  | stops line rest fault broken =>
    exact ⟨[line], (List.nil_sublist rest).cons_cons line, .stops line [] fault broken⟩

end ReadsTo

namespace Navigator

variable (navigator : Navigator) (load : Loader)

/-- The lines that are read are worked on, whether or not the stream breaks behind them. -/
theorem serve_of_readsTo {bytes : List UInt8} {texts : List String} {failure? : Option Failure}
    (reads : ReadsTo (streamLines bytes) texts failure?) (cache : Cache) :
    navigator.serve load cache bytes =
      (navigator.answerAll load cache (texts.map Message.ofLine)).map fun sent =>
        ⟨sent, failure?⟩ := by
  rw [serve, RequestStream.ofBytes, reads.ofLines]

theorem serve_of_texts {bytes : List UInt8} {texts : List String}
    (read : (streamLines bytes).mapM Text.Utf8.text = .ok texts) (cache : Cache) :
    navigator.serve load cache bytes =
      (navigator.answerAll load cache (texts.map Message.ofLine)).map fun sent => ⟨sent, none⟩ :=
  navigator.serve_of_readsTo load (readsTo_of_texts read) cache

end Navigator

end CallAtlas
