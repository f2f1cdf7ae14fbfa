import WorkflowEngine.Proofs.Document.Reload
import WorkflowEngine.Proofs.Http.Handling
import WorkflowEngine.Proofs.Json.LongLiterals

/-!
# How loading ends

Loading gives a document or reports one of two errors, unless it meets an integer literal
of too many digits.  That failure is reported as neither error, and an import breaks off
at it.  An import also breaks off at a document that is no larger than allowed but holds a
text that is no string.
-/

namespace WorkflowEngine.Document

open Schema Workflow

/-- How loading ends for its caller: with a document, with an error that is reported, or
with a failure that is none of these errors. -/
def outcome (source : Source) : Option (Except EngineError Document) :=
  match (load source).result with
  | .ok d => some (.ok d)
  | .error failure => failure.error?.map .error

namespace Source

/-- The code points that a source spells, if it spells any. -/
def points? : Source → Option (List CodePoint)
  | .text t => some t.points
  | .bytes bs => ((Encoding.detect bs).decode bs).toOption

/-- A source that spells no code points, or code points that are no JSON text. -/
inductive NotJson : Source → Prop
  | text {t : Text} {position : Nat} (h : Json.read t = .error (.malformed position)) :
      NotJson (.text t)
  | undecodable {bs : List UInt8} {fault : Encoding.Fault}
      (h : (Encoding.detect bs).decode bs = .error fault) : NotJson (.bytes bs)
  | bytes {bs : List UInt8} {ps : List CodePoint} {position : Nat}
      (hps : (Encoding.detect bs).decode bs = .ok ps)
      (h : Json.readPoints ps = .error (.malformed position)) : NotJson (.bytes bs)

/-- A source of JSON that does not match the schema of documents. -/
def NotWorkflow (source : Source) : Prop :=
  ∃ j issues, readSource source = .ok j ∧ documentShape.check j = .error issues

/-- A source in which an integer literal of too many digits is met. -/
def TooLong (source : Source) : Prop :=
  ∃ count, readSource source = .error (.tooManyDigits count)

end Source

/-! ## Reading -/

theorem result_load (source : Source) : (load source).result = tryLoad source := by
  rw [load]
  cases tryLoad source with
  | ok d => rfl
  | error failure => rfl

/-- A source that is not read as JSON is no JSON or holds too long a literal. -/
theorem notJson_or_tooManyDigits {source : Source} {failure : LoadFailure}
    (h : readSource source = .error failure) :
    source.NotJson ∨ ∃ count, failure = .tooManyDigits count := by
  cases source with
  | text t =>
    rw [readSource] at h
    cases hread : Json.read t with
    | ok j =>
      rw [hread] at h
      cases h
    | error fault =>
      rw [hread] at h
      rw [← Except.error.inj h]
      cases fault with
      | malformed position => exact Or.inl (.text hread)
      | tooManyDigits count => exact Or.inr ⟨count, rfl⟩
  | bytes bs =>
    rw [readSource] at h
    split at h
    · next fault hfault =>
      rw [← Except.error.inj h]
      exact Or.inl (.undecodable hfault)
    · next ps hps =>
      cases hread : Json.readPoints ps with
      | ok j =>
        rw [hread] at h
        cases h
      | error fault =>
        rw [hread] at h
        rw [← Except.error.inj h]
        cases fault with
        | malformed position => exact Or.inl (.bytes hps hread)
        | tooManyDigits count => exact Or.inr ⟨count, rfl⟩

theorem readSource_of_notJson {source : Source} (h : source.NotJson) :
    ∃ failure line column, readSource source = .error failure ∧
      failure.error? = some (.invalidJson line column) := by
  cases h with
  | text hread =>
    rw [readSource, hread]
    exact ⟨_, _, _, rfl, rfl⟩
  | undecodable hfault =>
    rw [readSource, hfault]
    exact ⟨_, _, _, rfl, rfl⟩
  | bytes hps hread =>
    rw [readSource, hps]
    dsimp only
    rw [hread]
    exact ⟨_, _, _, rfl, rfl⟩

/-- The code points of a source that is too long hold the literal. -/
theorem holdsLongLiteral_of_readSource {source : Source} {count : Nat}
    (h : readSource source = .error (.tooManyDigits count)) :
    ∃ ps, source.points? = some ps ∧ Json.HoldsLongLiteral count (ps.map CodePoint.shown) := by
  have hfault : ∀ {ps : List CodePoint} {read : Except ReadFault Json},
      read.mapError (failureOf ps) = .error (.tooManyDigits count) →
        read = .error (.tooManyDigits count) := by
    intro ps read hread
    rcases read with (position | n) | j
    · cases hread
    · rw [LoadFailure.tooManyDigits.inj (Except.error.inj hread)]
    · cases hread
  cases source with
  | text t =>
    rw [readSource] at h
    exact ⟨t.points, rfl, Json.holdsLongLiteral_of_read (hfault h)⟩
  | bytes bs =>
    rw [readSource] at h
    split at h
    · cases h
    · next ps hps =>
      refine ⟨ps, ?_, Json.holdsLongLiteral_of_readPoints (hfault h)⟩
      rw [Source.points?, hps]
      rfl

/-! ## The four endings -/

theorem outcome_of_tryLoad {source : Source} {d : Document} (h : tryLoad source = .ok d) :
    outcome source = some (.ok d) := by
  rw [outcome, result_load, h]

theorem outcome_of_error {source : Source} {failure : LoadFailure}
    (h : tryLoad source = .error failure) : outcome source = failure.error?.map .error := by
  rw [outcome, result_load, h]

theorem outcome_of_notJson {source : Source} (h : source.NotJson) :
    ∃ line column, outcome source = some (.error (.invalidJson line column)) := by
  obtain ⟨failure, line, column, hread, herror⟩ := readSource_of_notJson h
  have hload : tryLoad source = .error failure := by rw [tryLoad, hread]
  exact ⟨line, column, by rw [outcome_of_error hload, herror]; rfl⟩

theorem outcome_of_notWorkflow {source : Source} (h : source.NotWorkflow) :
    ∃ reason problems, outcome source = some (.error (.invalidStructure reason problems)) := by
  obtain ⟨j, issues, hread, hcheck⟩ := h
  obtain ⟨failure, reason, problems, hload, herror⟩ := tryLoad_of_check_error hread hcheck
  exact ⟨reason, problems, by rw [outcome_of_error hload, herror]; rfl⟩

theorem outcome_of_tooLong {source : Source} (h : source.TooLong) : outcome source = none := by
  obtain ⟨count, hread⟩ := h
  have hload : tryLoad source = .error (.tooManyDigits count) := by rw [tryLoad, hread]
  rw [outcome_of_error hload]
  rfl

/-- The outcomes that a source can have, each with what it says about the source. -/
inductive Ends (source : Source) : Option (Except EngineError Document) → Prop
  | loaded {d : Document} (h : tryLoad source = .ok d) : Ends source (some (.ok d))
  | notJson (h : source.NotJson) (line column : Int) :
      Ends source (some (.error (.invalidJson line column)))
  | notWorkflow (h : source.NotWorkflow) (reason : String) (problems : List Json) :
      Ends source (some (.error (.invalidStructure reason problems)))
  | tooLong (h : source.TooLong) : Ends source none

theorem ends_outcome (source : Source) : Ends source (outcome source) := by
  cases hread : readSource source with
  | error failure =>
    rcases notJson_or_tooManyDigits hread with hjson | ⟨count, rfl⟩
    · obtain ⟨line, column, houtcome⟩ := outcome_of_notJson hjson
      rw [houtcome]
      exact .notJson hjson line column
    · have hlong : source.TooLong := ⟨count, hread⟩
      rw [outcome_of_tooLong hlong]
      exact .tooLong hlong
  | ok j =>
    cases hcheck : documentShape.check j with
    | error issues =>
      have hworkflow : source.NotWorkflow := ⟨j, issues, hread, hcheck⟩
      obtain ⟨reason, problems, houtcome⟩ := outcome_of_notWorkflow hworkflow
      rw [houtcome]
      exact .notWorkflow hworkflow reason problems
    | ok content =>
      have hload : tryLoad source = .ok ⟨content, j, hcheck⟩ :=
        tryLoad_eq_ok_iff.mpr ⟨j, hread, hcheck⟩
      rw [outcome_of_tryLoad hload]
      exact .loaded hload

theorem outcome_eq_ok_iff {source : Source} {d : Document} :
    outcome source = some (.ok d) ↔
      ∃ j, readSource source = .ok j ∧ documentShape.check j = .ok d.content := by
  rw [← tryLoad_eq_ok_iff]
  constructor
  · intro h
    have hends := ends_outcome source
    rw [h] at hends
    cases hends with
    | loaded hload => exact hload
  · exact outcome_of_tryLoad

theorem outcome_eq_invalidJson_iff (source : Source) :
    (∃ line column, outcome source = some (.error (.invalidJson line column))) ↔
      source.NotJson := by
  constructor
  · rintro ⟨line, column, h⟩
    have hends := ends_outcome source
    rw [h] at hends
    cases hends with
    | notJson hjson => exact hjson
  · exact outcome_of_notJson

theorem outcome_eq_invalidStructure_iff (source : Source) :
    (∃ reason problems, outcome source = some (.error (.invalidStructure reason problems))) ↔
      source.NotWorkflow := by
  constructor
  · rintro ⟨reason, problems, h⟩
    have hends := ends_outcome source
    rw [h] at hends
    cases hends with
    | notWorkflow hworkflow => exact hworkflow
  · exact outcome_of_notWorkflow

theorem outcome_eq_none_iff (source : Source) : outcome source = none ↔ source.TooLong := by
  constructor
  · intro h
    have hends := ends_outcome source
    rw [h] at hends
    cases hends with
    | tooLong hlong => exact hlong
  · exact outcome_of_tooLong

/-! ## Imports -/

open Http in
/-- The answer to an import follows from how the loading of its body ends. -/
theorem result_importDocument (s : Settings) (r : Request) :
    (importDocument s r).result =
      if r.site?.isSome then
        match outcome (.bytes r.body) with
        | none => .broken
        | some (.error e) => errorAnswer badRequest e
        | some (.ok d) =>
          match d.checkSize s with
          | .error e => errorAnswer badRequest e
          | .ok () => answer 200 d.content
      else .broken := by
  rw [importDocument, withinScope, outcome]
  by_cases hsite : r.site?.isSome = true
  · rw [if_pos hsite, if_pos hsite, Log.Logged.result_within, Log.Logged.result_bind]
    cases (load (.bytes r.body)).result with
    | ok d =>
      dsimp only
      cases d.checkSize s with
      | error e => rfl
      | ok _ => rfl
    | error failure =>
      dsimp only
      cases failure.error? with
      | none => rfl
      | some e => rfl
  · rw [if_neg hsite, if_neg hsite]
    rfl

open Http in
/-- The answers to an import, each with what it says about the body: the document that was loaded,
or a report that the body is no JSON, no workflow or too large a document. -/
inductive ImportAnswer (s : Settings) (body : Source) (response : Response) : Prop
  | imported {d : Document} (hd : outcome body = some (.ok d)) (hfits : ¬ d.Exceeds s)
      (status : response.status = 200) (text : response.body = d.content.compact)
  | notJson (hbody : body.NotJson) {line column : Int}
      (reports : response.Reports "INVALID_JSON" "Invalid JSON format"
        [("line", .int line), ("column", .int column)])
  | notWorkflow (hbody : body.NotWorkflow) {reason : String} {problems : List Json}
      (reports : response.Reports "INVALID_WORKFLOW_STRUCTURE"
        ("Invalid workflow format: " ++ reason)
        (("reason", .str reason) :: if problems.isEmpty then [] else [("errors", .arr problems)]))
  | tooLarge {d : Document} (hd : outcome body = some (.ok d)) (hsize : d.Exceeds s)
      {metric : String} {current limit : Int} (reports : response.ReportsSize metric current limit)

open Http in
/-- Nothing stands in the way of an answer to an import: it is known where the service was asked,
the body is not too long, and a document in it that is not too large holds no other texts than
strings. -/
structure Answerable (s : Settings) (r : Request) : Prop where
  site : r.site?.isSome = true
  short : ¬ (Source.bytes r.body).TooLong
  proper : ∀ d, outcome (.bytes r.body) = some (.ok d) → ¬ d.Exceeds s → d.content.isProper = true

/-- The details of an error that is reported are no empty object, and their texts are strings. -/
theorem details_of_error? {failure : LoadFailure} {e : EngineError}
    (h : failure.error? = some e) :
    e.details.isEmpty = false ∧ (Json.obj e.details).isProper = true := by
  have hproblem : ∀ location message, (problem location message).isProper = true := by
    intro location message
    simp [problem]
  have hstructure : ∀ reason problems, (∀ p ∈ problems, p.isProper = true) →
      (Json.obj (EngineError.invalidStructure reason problems).details).isProper = true := by
    intro reason problems hproblems
    rw [EngineError.details]
    cases problems with
    | nil => simp
    | cons p ps => simpa using hproblems
  cases failure with
  | notJson p | undecodable p _ =>
    obtain rfl := Option.some.inj h
    exact ⟨rfl, rfl⟩
  | tooManyDigits count => cases h
  | badStructure fault =>
    obtain rfl := Option.some.inj h
    refine ⟨rfl, hstructure _ _ ?_⟩
    cases fault.location with
    | nil => exact List.forall_mem_nil _
    | cons step location => exact List.forall_mem_singleton.mpr (hproblem _ _)
  | badFields issues =>
    obtain rfl := Option.some.inj h
    refine ⟨rfl, hstructure _ _ ?_⟩
    rw [problems, List.forall_mem_map]
    exact fun _ _ => hproblem _ _

theorem exists_error?_of_outcome {source : Source} {e : EngineError}
    (h : outcome source = some (.error e)) : ∃ failure : LoadFailure, failure.error? = some e := by
  rw [outcome] at h
  split at h
  · cases h
  · next failure _ =>
    obtain ⟨e', he, hsame⟩ := Option.map_eq_some_iff.mp h
    exact ⟨failure, he.trans (congrArg some (Except.error.inj hsame))⟩

open Http in
theorem reports_of_outcome {source : Source} {e : EngineError}
    (h : outcome source = some (.error e)) :
    (errorAnswer badRequest e).Reports e.code e.message e.details := by
  obtain ⟨failure, hfailure⟩ := exists_error?_of_outcome h
  obtain ⟨hsome, hproper⟩ := details_of_error? hfailure
  exact reports_errorAnswer hsome hproper

open Http in
theorem importAnswer_of_answerable {s : Settings} {r : Request} (h : Answerable s r) :
    ImportAnswer s (.bytes r.body) (importDocument s r).result := by
  rw [result_importDocument, if_pos h.site]
  have hends := ends_outcome (.bytes r.body)
  generalize houtcome : outcome (.bytes r.body) = result at hends
  cases hends with
  | @loaded d hload =>
    dsimp only
    by_cases hmany : s.maxNodes < d.nodes.length
    · rw [checkSize_of_nodes hmany]
      exact .tooLarge houtcome (.inl hmany) (reportsSize_errorAnswer _ _ _)
    · by_cases hsize : d.Exceeds s
      · rw [checkSize_of_edges (Int.not_lt.mp hmany) (hsize.resolve_left hmany)]
        exact .tooLarge houtcome hsize (reportsSize_errorAnswer _ _ _)
      · rw [checkSize_of_not_exceeds hsize]
        dsimp only
        rw [answer, if_pos (h.proper d houtcome hsize)]
        exact .imported houtcome hsize rfl rfl
  | notJson hjson line column => exact .notJson hjson (reports_of_outcome houtcome)
  | notWorkflow hworkflow reason problems =>
    exact .notWorkflow hworkflow (reports_of_outcome houtcome)
  | tooLong hlong => exact absurd hlong h.short

open Http in
theorem result_importDocument_of_not_answerable {s : Settings} {r : Request}
    (h : ¬ Answerable s r) : (importDocument s r).result = .broken := by
  rw [result_importDocument]
  by_cases hsite : r.site?.isSome = true
  · rw [if_pos hsite]
    by_cases hlong : (Source.bytes r.body).TooLong
    · rw [outcome_of_tooLong hlong]
    · have hlost : ∃ d, outcome (.bytes r.body) = some (.ok d) ∧ ¬ d.Exceeds s ∧
          ¬ d.content.isProper = true := by
        by_contra hnone
        refine h ⟨hsite, hlong, fun d hd hfits => ?_⟩
        by_contra hbroken
        exact hnone ⟨d, hd, hfits, hbroken⟩
      obtain ⟨d, hd, hfits, hbroken⟩ := hlost
      rw [hd]
      dsimp only
      rw [checkSize_of_not_exceeds hfits]
      exact if_neg hbroken
  · rw [if_neg hsite]

open Http in
/-- An import is answered with the document or with a report exactly if nothing stands in the way,
and otherwise it breaks off. -/
theorem importDocument_answers_iff (s : Settings) (r : Request) :
    (ImportAnswer s (.bytes r.body) (importDocument s r).result ↔ Answerable s r) ∧
      (¬ Answerable s r → (importDocument s r).result.status = 500) := by
  have hbroken : ¬ Answerable s r → (importDocument s r).result.status = 500 := fun h =>
    congrArg Response.status (result_importDocument_of_not_answerable h)
  refine ⟨⟨fun hanswer => ?_, importAnswer_of_answerable⟩, hbroken⟩
  by_contra h
  have hstatus := hbroken h
  cases hanswer with
  | imported _ _ status _ =>
    rw [status] at hstatus
    cases hstatus
  | notJson _ reports | notWorkflow _ reports | tooLarge _ _ reports =>
    rw [reports.1] at hstatus
    cases hstatus

/-! ## The outcomes as a whole -/

open Http in
/-- A source that is not too long is loaded if it is JSON that matches the schema, and is
reported as no JSON or as an invalid structure otherwise.  A source that is too long holds
an integer literal of too many digits and ends in none of these ways.  An import is answered
with the document or with a report unless its body is too long, the place where the service
was asked is not known, or a document of an allowed size holds a text that is no string. -/
theorem outcome_classified (source : Source) :
    (((∃ d, outcome source = some (.ok d)) ∨
        (∃ line column, outcome source = some (.error (.invalidJson line column))) ∨
        ∃ reason problems, outcome source = some (.error (.invalidStructure reason problems))) ↔
      ¬ source.TooLong) ∧
    (∀ d, outcome source = some (.ok d) ↔
      ∃ j, readSource source = .ok j ∧ documentShape.check j = .ok d.content) ∧
    ((∃ line column, outcome source = some (.error (.invalidJson line column))) ↔
      source.NotJson) ∧
    ((∃ reason problems, outcome source = some (.error (.invalidStructure reason problems))) ↔
      source.NotWorkflow) ∧
    (source.TooLong → ∃ ps count, source.points? = some ps ∧
      Json.HoldsLongLiteral count (ps.map CodePoint.shown)) ∧
    ∀ (s : Settings) (r : Request),
      (ImportAnswer s (.bytes r.body) (importDocument s r).result ↔ Answerable s r) ∧
        (¬ Answerable s r → (importDocument s r).result.status = 500) := by
  refine ⟨?_, fun d => outcome_eq_ok_iff, outcome_eq_invalidJson_iff source,
    outcome_eq_invalidStructure_iff source, ?_, importDocument_answers_iff⟩
  · rw [← outcome_eq_none_iff]
    constructor
    · rintro (⟨d, h⟩ | ⟨line, column, h⟩ | ⟨reason, problems, h⟩) hnone
      all_goals
        rw [hnone] at h
        cases h
    · intro hsome
      have hends := ends_outcome source
      generalize houtcome : outcome source = result at hsome hends
      cases hends with
      | loaded hload => exact Or.inl ⟨_, rfl⟩
      | notJson hjson line column => exact Or.inr (Or.inl ⟨line, column, rfl⟩)
      | notWorkflow hworkflow reason problems => exact Or.inr (Or.inr ⟨reason, problems, rfl⟩)
      | tooLong hlong => exact absurd rfl hsome
  · rintro ⟨count, hread⟩
    obtain ⟨ps, hps, hliteral⟩ := holdsLongLiteral_of_readSource hread
    exact ⟨ps, count, hps, hliteral⟩

/-- A text of one digit more than an integer literal may have. -/
def longText : String := String.ofList (List.replicate (Json.digitLimit + 1) '1')

theorem tooLong_longText : (Source.text longText).TooLong := by
  have hwhole : IsWhole (List.replicate (Json.digitLimit + 1) '1') := by
    constructor
    · intro c hc
      rw [List.eq_of_mem_replicate hc]
      decide
    · simp
    · intro hhead
      rw [List.replicate_succ, List.head?_cons] at hhead
      cases hhead
  have hlimit : Json.digitLimit < (List.replicate (Json.digitLimit + 1) '1').length := by
    rw [List.length_replicate]
    exact Nat.lt_succ_self _
  have hread : Json.read longText = _ := Json.read_of_longLiteral false hwhole hlimit
  exact ⟨_, by rw [readSource, hread]; rfl⟩

/-- The text of one digit too many ends in none of the three ways. -/
theorem outcome_longText :
    ¬ ((∃ d, outcome (.text longText) = some (.ok d)) ∨
      (∃ line column, outcome (.text longText) = some (.error (.invalidJson line column))) ∨
      ∃ reason problems,
        outcome (.text longText) = some (.error (.invalidStructure reason problems))) := by
  rw [outcome_of_tooLong tooLong_longText]
  rintro (⟨d, h⟩ | ⟨line, column, h⟩ | ⟨reason, problems, h⟩)
  all_goals cases h

end WorkflowEngine.Document
