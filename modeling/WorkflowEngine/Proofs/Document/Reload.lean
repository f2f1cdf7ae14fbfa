import WorkflowEngine.Proofs.Document.Structure
import WorkflowEngine.Proofs.Json.Admitted
import WorkflowEngine.Proofs.Json.WriteRead
import WorkflowEngine.Proofs.Workflow.Restoring

/-!
# Saved documents are loaded again

A document that was loaded is saved as text, and that text is loaded again.  The round
trip gives back the document exactly if all its numbers are finite.  A number that is not
finite comes back as null, which only a member that is no field may hold.
-/

namespace WorkflowEngine.Document

open Schema Workflow

/-! ## Loaded documents -/

theorem storable_of_readSource {source : Source} {j : Json} (h : readSource source = .ok j) :
    Json.Storable j := by
  cases source with
  | text t =>
    rw [readSource, mapError_eq_ok_iff] at h
    exact Json.storable_of_read h
  | bytes bs =>
    rw [readSource] at h
    split at h
    · contradiction
    · exact Json.storable_of_readPoints (mapError_eq_ok_iff.mp h)

theorem eq_of_content_eq {a b : Document} (h : a.content = b.content) : a = b := by
  cases a
  cases b
  cases h
  rfl

/-- The schema decides which values are documents. -/
theorem check_eq_map_ofJson (v : Json) :
    documentShape.check v = (Document.ofJson v).map content := by
  rw [ofJson]
  split
  · next hcheck => exact hcheck
  · next hcheck => exact hcheck

theorem ofJson_eq_ok_iff {v : Json} {d : Document} :
    Document.ofJson v = .ok d ↔ documentShape.check v = .ok d.content := by
  rw [check_eq_map_ofJson, map_eq_ok_iff]
  constructor
  · intro h
    exact ⟨d, h, rfl⟩
  · rintro ⟨e, h, hcontent⟩
    rwa [← eq_of_content_eq hcontent]

theorem ofJson_eq_error_iff {v : Json} {issues : List Issue} :
    Document.ofJson v = .error issues ↔ documentShape.check v = .error issues := by
  rw [check_eq_map_ofJson]
  cases Document.ofJson v with
  | error others => simp [Except.map]
  | ok e => simp [Except.map]

/-- A document is loaded from what is read and matches the schema.  The comparison of the
rough structure refuses nothing else. -/
theorem tryLoad_eq_ok_iff {source : Source} {d : Document} :
    tryLoad source = .ok d ↔
      ∃ j, readSource source = .ok j ∧ documentShape.check j = .ok d.content := by
  rw [tryLoad]
  cases hread : readSource source with
  | error failure =>
    constructor
    · intro h
      contradiction
    · rintro ⟨j, hj, -⟩
      contradiction
  | ok j =>
    dsimp only
    constructor
    · intro h
      cases hfault : structureFault? j with
      | some fault =>
        rw [hfault] at h
        contradiction
      | none =>
        rw [hfault] at h
        cases hjson : Document.ofJson j with
        | error issues =>
          rw [hjson] at h
          contradiction
        | ok e =>
          rw [hjson] at h
          injection h with he
          rw [← he]
          exact ⟨j, rfl, ofJson_eq_ok_iff.mp hjson⟩
    · rintro ⟨k, hk, hcheck⟩
      rw [← Except.ok.inj hk] at hcheck
      rw [structureFault?_eq_none_of_check hcheck, ofJson_eq_ok_iff.mpr hcheck]
      rfl

/-- A JSON value that does not match the schema is reported as an invalid structure. -/
theorem tryLoad_of_check_error {source : Source} {j : Json} {issues : List Issue}
    (hread : readSource source = .ok j) (hcheck : documentShape.check j = .error issues) :
    ∃ failure reason problems, tryLoad source = .error failure ∧
      failure.error? = some (.invalidStructure reason problems) := by
  have hjson := ofJson_eq_error_iff.mpr hcheck
  rw [tryLoad, hread]
  dsimp only
  cases structureFault? j with
  | some fault => exact ⟨_, _, _, rfl, rfl⟩
  | none =>
    rw [hjson]
    exact ⟨_, _, _, rfl, rfl⟩

theorem canonical_content {source : Source} {d : Document} (h : tryLoad source = .ok d) :
    documentShape.Canonical d.content := by
  obtain ⟨j, hread, hcheck⟩ := tryLoad_eq_ok_iff.mp h
  exact ⟨j, storable_of_readSource hread, hcheck⟩

/-! ## The round trip -/

/-- The values of the fields of a document that hold numbers. -/
def numbers (d : Document) : List Json := documentNumbers d.content

/-- A document whose texts are strings can be saved, and only such a document. -/
theorem save?_eq_some_iff {d : Document} {text : String} :
    d.save? = some text ↔ d.content.isProper = true ∧ d.content.pretty = text := by
  rw [save?]
  split
  · next hproper => simp [hproper]
  · next hbroken => simp [hbroken]

/-- The saved text of a loaded document is read as its content was written. -/
theorem readSource_save {source : Source} {d : Document} {text : String}
    (h : tryLoad source = .ok d) (hsave : d.save? = some text) :
    readSource (.text text) = .ok d.content.asWritten := by
  have hstorable := keeps_document _ (canonical_content h)
  obtain ⟨hproper, rfl⟩ := save?_eq_some_iff.mp hsave
  rw [readSource, Json.read_pretty hstorable hproper]
  rfl

theorem isFinite_of_mem_numbers {d : Document} (h : d.content.isFinite = true) {j : Json}
    (hj : j ∈ d.numbers) : j.isFinite = true := by
  obtain ⟨node, hnode, hin⟩ := List.mem_flatMap.mp hj
  have hfinite : node.isFinite = true :=
    Json.isFinite_of_mem_items (Json.isFinite_field h "nodes") hnode
  rcases mem_nodeNumbers_iff.mp hin with rfl | rfl | ⟨-, rfl⟩
  · exact Json.isFinite_field (Json.isFinite_field hfinite _) _
  · exact Json.isFinite_field (Json.isFinite_field hfinite _) _
  · exact Json.isFinite_field (Json.isFinite_field hfinite _) _

/-- A document whose fields hold finite numbers is loaded again with null in the place of
all other numbers that are not finite. -/
theorem exists_tryLoad_save {source : Source} {d : Document} {text : String}
    (h : tryLoad source = .ok d) (hsave : d.save? = some text)
    (hnumbers : ∀ j ∈ d.numbers, j.isFinite = true) :
    ∃ d', tryLoad (.text text) = .ok d' ∧ d'.content = d.content.asWritten := by
  have hcheck : documentShape.check d.content.asWritten = .ok d.content.asWritten :=
    restores_document (canonical_content h) hnumbers
  exact ⟨⟨d.content.asWritten, _, hcheck⟩,
    tryLoad_eq_ok_iff.mpr ⟨_, readSource_save h hsave, hcheck⟩, rfl⟩

/-- A document with a field that holds a number that is not finite is refused. -/
theorem tryLoad_save_of_infinite {source : Source} {d : Document} {text : String}
    (h : tryLoad source = .ok d) (hsave : d.save? = some text) {j : Json} (hj : j ∈ d.numbers)
    (hinfinite : j.isFinite = false) :
    ∃ failure reason problems, tryLoad (.text text) = .error failure ∧
      failure.error? = some (.invalidStructure reason problems) := by
  obtain ⟨issues, hissues⟩ := refuses_document (canonical_content h) hj hinfinite
  exact tryLoad_of_check_error (readSource_save h hsave) hissues

/-- A loaded document whose texts are strings is saved, and it is loaded again without a change
exactly if all its numbers are finite.  The second loading reports an invalid structure if a field
holds another number, and if only other members hold such numbers they come back as null. -/
theorem tryLoad_save_roundTrip {source : Source} {d : Document} (h : tryLoad source = .ok d)
    (hproper : d.content.isProper = true) :
    ∃ text, d.save? = some text ∧
      (tryLoad (.text text) = .ok d ↔ d.content.isFinite = true) ∧
      ((∃ j ∈ d.numbers, j.isFinite = false) →
        ∃ failure reason problems, tryLoad (.text text) = .error failure ∧
          failure.error? = some (.invalidStructure reason problems)) ∧
      ((∀ j ∈ d.numbers, j.isFinite = true) →
        ∃ d', tryLoad (.text text) = .ok d' ∧ d'.content = d.content.asWritten) := by
  have hsave : d.save? = some d.content.pretty := save?_eq_some_iff.mpr ⟨hproper, rfl⟩
  refine ⟨_, hsave, ⟨?_, ?_⟩, ?_, exists_tryLoad_save h hsave⟩
  · intro hsame
    by_cases hnumbers : ∀ j ∈ d.numbers, j.isFinite = true
    · obtain ⟨d', hloaded, hcontent⟩ := exists_tryLoad_save h hsave hnumbers
      rw [hsame] at hloaded
      rw [← Except.ok.inj hloaded] at hcontent
      exact (Json.asWritten_eq_self_iff _).mp hcontent.symm
    · simp only [not_forall] at hnumbers
      obtain ⟨j, hj, hinfinite⟩ := hnumbers
      obtain ⟨failure, -, -, hfailed, -⟩ :=
        tryLoad_save_of_infinite h hsave hj (Bool.eq_false_iff.mpr hinfinite)
      rw [hsame] at hfailed
      contradiction
  · intro hfinite
    obtain ⟨d', hloaded, hcontent⟩ :=
      exists_tryLoad_save h hsave fun j hj => isFinite_of_mem_numbers hfinite hj
    rw [(Json.asWritten_eq_self_iff _).mpr hfinite] at hcontent
    rw [hloaded, eq_of_content_eq hcontent]
  · rintro ⟨j, hj, hinfinite⟩
    exact tryLoad_save_of_infinite h hsave hj hinfinite

/-- A document in which a member that is no field holds infinity. -/
def weightedText : String :=
  r#"{"nodes": [{"id": "n", "type": "start", "position": {"x": 1.5},
    "data": {"type": "start"}, "weight": Infinity}], "edges": []}"#

theorem tryLoad_save_roundTrip_weighted :
    ∃ d, tryLoad (.text weightedText) = .ok d ∧ d.content.isProper = true ∧
      ∃ text, d.save? = some text ∧ tryLoad (.text text) ≠ .ok d ∧
        ∃ d', tryLoad (.text text) = .ok d' ∧ d'.content = d.content.asWritten := by
  have hloaded : (tryLoad (.text weightedText)).toOption.map (fun d =>
      (d.content.isProper, d.content.isFinite, d.numbers.all Json.isFinite)) =
        some (true, false, true) := by
    decide +kernel
  obtain ⟨d, hd, hview⟩ := exists_of_toOption_map hloaded
  obtain ⟨hproper, hrest⟩ := Prod.mk.inj hview
  obtain ⟨hinfinite, hnumbers⟩ := Prod.mk.inj hrest
  obtain ⟨text, hsave, hsame, -, hrestored⟩ := tryLoad_save_roundTrip hd hproper
  refine ⟨d, hd, hproper, text, hsave, ?_, hrestored (List.all_eq_true.mp hnumbers)⟩
  rw [Ne, hsame, hinfinite]
  decide

end WorkflowEngine.Document
