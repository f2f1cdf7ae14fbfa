import WorkflowEngine.Proofs.Document.Encodings
import WorkflowEngine.Proofs.Document.Outcomes
import WorkflowEngine.Proofs.Document.Saving
import WorkflowEngine.Proofs.Http.Limits

/-!
# Exported documents are imported again

The service writes documents in two ways: an export is saved text, and the answer to an import is
compact text.  Both say the same about a document, and the body of an export is a body that can be
imported, so the answer to that is the value that was exported.  Both ways break off at the same
documents: those with a text that is no string, which are loaded and cannot be written.
-/

namespace WorkflowEngine

namespace Http

section RoundTrip

variable {s : Settings} {r : Request} {d : Document}

/-! ## Answers to documents within the limits -/

theorem Sends.tryLoad {e : Endpoint} (h : Sends s r e d) :
    Document.tryLoad (.bytes r.body) = .ok d := by
  obtain ⟨j, hread, hjson⟩ := h.body
  exact Document.tryLoad_eq_ok_iff.mpr ⟨j, hread, Document.ofJson_eq_ok_iff.mp hjson⟩

theorem isSendable_default :
    isSendable (attachment (Document.exportFilename none)) = true := by
  decide +kernel

/-- An export answers with the saved text and its name, or breaks off if the document cannot be
saved or the name cannot be sent. -/
theorem Sends.serve_export (h : Sends s r .exportDocument d) (hfits : ¬ d.Exceeds s)
    {name : String} (hname : Document.exportFilename (r.parameter? "filename") = name) :
    serve .standard s r .exportDocument =
      .quiet (if d.content.isProper && isSendable (attachment name) then
          .json 200 d.content.pretty [("content-disposition", attachment name)]
        else .broken) := by
  have hwrite : Engine.standard.write d =
      if d.content.isProper = true then some d.content.pretty else none := rfl
  rw [serve, exportDocument, h.readDocument (by decide)]
  dsimp only
  rw [Document.checkSize_of_not_exceeds hfits, hname, hwrite]
  cases d.content.isProper with
  | false => rfl
  | true =>
    rw [if_pos rfl, Bool.true_and]
    dsimp only
    split
    · rfl
    · rfl

/-- An export for which no name was asked answers with the saved text if there is one, and breaks
off if there is none. -/
theorem Sends.answer_export (h : Sends s r .exportDocument d) (hfits : ¬ d.Exceeds s)
    (hname : r.parameter? "filename" = none) :
    if d.content.isProper then
      (handle s r).result.status = 200 ∧ (handle s r).result.body = d.content.pretty
    else (handle s r).result.status = 500 := by
  have hserved := h.serve_export hfits (congrArg Document.exportFilename hname)
  rw [isSendable_default, Bool.and_true] at hserved
  obtain ⟨hstatus, hbody⟩ := answer_of_route h.leads
  rw [hstatus, hbody, hserved]
  split
  · exact ⟨rfl, rfl⟩
  · rfl

/-- An import answers with the compact text if it can be encoded, and breaks off otherwise. -/
theorem Sends.answer_import (h : Sends s r .importDocument d) (hfits : ¬ d.Exceeds s) :
    if d.content.isProper then
      (handle s r).result.status = 200 ∧ (handle s r).result.body = d.content.compact
    else (handle s r).result.status = 500 := by
  have hserved : (serve .standard s r .importDocument).result = answer 200 d.content := by
    rw [serve, Document.result_importDocument, if_pos (isSome_site? h.scheme),
      Document.outcome_of_tryLoad h.tryLoad]
    dsimp only
    rw [Document.checkSize_of_not_exceeds hfits]
  obtain ⟨hstatus, hbody⟩ := answer_of_route h.leads
  rw [hstatus, hbody, hserved, answer]
  split
  · exact ⟨rfl, rfl⟩
  · rfl

/-- What the import endpoint answers with success it has loaded, and it can be written. -/
theorem exists_tryLoad_of_import
    (hleads : route s.apiPrefix r.method r.path = .endpoint .importDocument)
    (hstatus : (handle s r).result.status = 200) :
    ∃ d, Document.tryLoad (.bytes r.body) = .ok d ∧ d.content.isProper = true ∧
      (handle s r).result.body = d.content.compact := by
  obtain ⟨hsame, hbody⟩ := answer_of_route hleads
  rw [hbody]
  rw [hsame] at hstatus
  obtain ⟨hanswers, hbreaks⟩ := Document.importDocument_answers_iff s r
  have hanswerable : Document.Answerable s r := by
    by_contra hnot
    have hbroken : (serve .standard s r .importDocument).result.status = 500 := hbreaks hnot
    rw [hstatus] at hbroken
    cases hbroken
  cases hanswers.mpr hanswerable with
  | @imported d hd hfits _ text =>
    exact ⟨d, Document.tryLoad_eq_ok_iff.mpr (Document.outcome_eq_ok_iff.mp hd),
      hanswerable.proper d hd hfits, text⟩
  | notJson _ reports | notWorkflow _ reports | tooLarge _ _ reports =>
    have hrefused : (serve .standard s r .importDocument).result.status = 400 := reports.1
    rw [hstatus] at hrefused
    cases hrefused

/-! ## The round trip -/

/-- A request sends a text to the import endpoint. -/
structure SendsBack (s : Settings) (r : Request) (text : String) : Prop where
  leads : route s.apiPrefix r.method r.path = .endpoint .importDocument
  scheme : r.scheme = "http" ∨ r.scheme = "https"
  body : r.body = Utf8.encode text.toList

/-- A saved text with finite numbers is sent back as the document that was saved. -/
theorem SendsBack.sends {source : Document.Source} {text : String} (h : SendsBack s r text)
    (hload : Document.tryLoad source = .ok d) (hsave : d.save? = some text)
    (hfinite : d.content.isFinite = true) : Sends s r .importDocument d where
  takes := by decide
  leads := h.leads
  scheme := h.scheme
  typed hother := absurd rfl hother
  body := by
    obtain ⟨hproper, -⟩ := Document.save?_eq_some_iff.mp hsave
    obtain ⟨text', hsave', hagain, -⟩ := Document.tryLoad_save_roundTrip hload hproper
    obtain rfl : text = text' := Option.some.inj (hsave.symm.trans hsave')
    have hbytes := (Document.load_bytes_eq_text text).2 d (hagain.mpr hfinite) (.utf8 false)
    obtain ⟨j, hread, hcheck⟩ := Document.tryLoad_eq_ok_iff.mp hbytes
    rw [h.body]
    exact ⟨j, hread, Document.ofJson_eq_ok_iff.mpr hcheck⟩

end RoundTrip

/-- The saved text and the compact text of a loaded document are read as the same value. -/
theorem read_pretty_and_compact {source : Document.Source} {d : Document}
    (h : Document.tryLoad source = .ok d) (hproper : d.content.isProper = true) :
    Json.read d.content.pretty = .ok d.content.asWritten ∧
      Json.read d.content.compact = .ok d.content.asWritten := by
  have hstorable := Workflow.keeps_document _ (Document.canonical_content h)
  exact ⟨Json.read_pretty hstorable hproper, Json.read_compact hstorable hproper⟩

/-- A document within the limits and with finite numbers is exported if all its texts are strings,
and the body of the export is imported as the same document: both answers are its content as a
value, with nothing added and nothing left out.  If one of its texts is no string, it can be
neither exported nor imported, and both endpoints break off.  Whatever the import endpoint answers
with success, the value of its answer is that of the saved text of the document it has loaded. -/
theorem import_of_export (s : Settings) :
    (∀ r d, Sends s r .exportDocument d → ¬ d.Exceeds s → d.content.isFinite = true →
      r.parameter? "filename" = none →
        if d.content.isProper then
          (handle s r).result.status = 200 ∧
            Json.read (handle s r).result.body = .ok d.content ∧
            ∀ again, SendsBack s again (handle s r).result.body →
              Sends s again .importDocument d ∧ (handle s again).result.status = 200 ∧
                Json.read (handle s again).result.body = .ok d.content
        else (handle s r).result.status = 500) ∧
      (∀ r d, Sends s r .importDocument d → ¬ d.Exceeds s →
        ((handle s r).result.status = if d.content.isProper then 200 else 500)) ∧
      ∀ r, route s.apiPrefix r.method r.path = .endpoint .importDocument →
        (handle s r).result.status = 200 →
          ∃ d text j, Document.tryLoad (.bytes r.body) = .ok d ∧ d.save? = some text ∧
            Json.read (handle s r).result.body = .ok j ∧ Json.read text = .ok j ∧
            (d.content.isFinite = true → j = d.content) := by
  refine ⟨fun r d h hfits hfinite hname => ?_, fun r d h hfits => ?_, fun r hleads hstatus => ?_⟩
  · have hexport := h.answer_export hfits hname
    split
    · next hproper =>
      obtain ⟨hsaved, hcompact⟩ := read_pretty_and_compact h.tryLoad hproper
      rw [(Json.asWritten_eq_self_iff _).mpr hfinite] at hsaved hcompact
      rw [if_pos hproper] at hexport
      obtain ⟨hstatus, hbody⟩ := hexport
      rw [hbody]
      refine ⟨hstatus, hsaved, fun again hagain => ?_⟩
      have hsends := hagain.sends h.tryLoad (Document.save?_eq_some_iff.mpr ⟨hproper, rfl⟩) hfinite
      have himport := hsends.answer_import hfits
      rw [if_pos hproper] at himport
      rw [himport.2]
      exact ⟨hsends, himport.1, hcompact⟩
    · next hbroken => rwa [if_neg hbroken] at hexport
  · have himport := h.answer_import hfits
    split
    · next hproper =>
      rw [if_pos hproper] at himport
      exact himport.1
    · next hbroken => rwa [if_neg hbroken] at himport
  · obtain ⟨d, hload, hproper, hbody⟩ := exists_tryLoad_of_import hleads hstatus
    obtain ⟨hsaved, hcompact⟩ := read_pretty_and_compact hload hproper
    rw [hbody]
    exact ⟨d, _, _, hload, Document.save?_eq_some_iff.mpr ⟨hproper, rfl⟩, hcompact, hsaved,
      (Json.asWritten_eq_self_iff _).mpr⟩

/-- The request that has a document exported, with a query. -/
def exportOf (query : String) (j : Json) : Request :=
  postText (Endpoint.exportDocument.path Settings.defaults.apiPrefix) query j.logLine

/-- A document is exported within limits that are just met. -/
theorem exists_sends_exportOf (j : Json) (nodes edges : Nat) (finite proper : Bool)
    (hloaded : (Document.tryLoad (.bytes (Utf8.encode j.logLine.toList))).toOption.map (fun d =>
      ((d.nodes.length, d.edges.length), d.content.isFinite, d.content.isProper)) =
        some ((nodes, edges), finite, proper)) :
    ∃ d, d.content.isFinite = finite ∧ d.content.isProper = proper ∧
      ¬ d.Exceeds (limited nodes edges) ∧
      ∀ query, Sends (limited nodes edges) (exportOf query j) .exportDocument d := by
  obtain ⟨d, hd, hview⟩ := exists_of_toOption_map hloaded
  obtain ⟨hsize, hrest⟩ := Prod.mk.inj hview
  obtain ⟨hnodes, hedges⟩ := Prod.mk.inj hsize
  obtain ⟨hfinite, hproper⟩ := Prod.mk.inj hrest
  refine ⟨d, hfinite, hproper, ?_, fun query => sends_postText (by decide) hd⟩
  rw [Document.Exceeds, hnodes, hedges]
  exact not_or.mpr ⟨lt_irrefl _, lt_irrefl _⟩

/-- A document with members that are no fields, a null and numbers of both sorts. -/
def variedDocument : Json :=
  .obj [("zoom", .arr [.int 1, .float (.ofInt 1), .null, .obj []]), ("edges", .arr []),
    ("nodes", .arr [.obj [("id", .str "n"), ("type", .str "a"),
      ("position", .obj [("y", .float (.ofInt 1)), ("x", .int 1)]), ("draft", .null),
      ("data", .obj [("type", .str "approval"), ("approver_role", .str "\"é\n"),
        ("autoApproveThreshold", .float (.ofDecimal false 1 22))])]])]

/-- The request that has a text imported. -/
def importOf (text : String) : Request :=
  postText (Endpoint.importDocument.path Settings.defaults.apiPrefix) "" text

theorem sendsBack_importOf (nodes edges : Int) (text : String) :
    SendsBack (limited nodes edges) (importOf text) text := by
  have hpost : Endpoint.importDocument.method = "POST" := rfl
  exact ⟨route_post _ hpost, .inl rfl, rfl⟩

theorem import_of_export_varied : ∃ d,
    Sends (limited 1 0) (exportOf "" variedDocument) .exportDocument d ∧ ¬ d.Exceeds (limited 1 0) ∧
      d.content.isFinite = true ∧ d.content.isProper = true ∧
      Json.read (handle (limited 1 0) (exportOf "" variedDocument)).result.body = .ok d.content ∧
      Sends (limited 1 0) (importOf (handle (limited 1 0) (exportOf "" variedDocument)).result.body)
        .importDocument d ∧
      (handle (limited 1 0)
        (importOf (handle (limited 1 0) (exportOf "" variedDocument)).result.body)).result.status =
          200 := by
  obtain ⟨d, hfinite, hproper, hfits, hsends⟩ :=
    exists_sends_exportOf variedDocument 1 0 true true (by decide +kernel)
  have htrip := (import_of_export (limited 1 0)).1 _ d (hsends "") hfits hfinite rfl
  rw [if_pos hproper] at htrip
  obtain ⟨-, hexported, hagain⟩ := htrip
  obtain ⟨himported, hstatus, -⟩ := hagain _ (sendsBack_importOf 1 0 _)
  exact ⟨d, hsends "", hfits, hfinite, hproper, hexported, himported, hstatus⟩

/-- A document without nodes is accepted and within all limits, and it is not exported because of a
note that is no string. -/
theorem export_surrogateNote : ∃ d,
    Sends (limited 0 0) (exportOf "" Document.surrogateNote) .exportDocument d ∧
      ¬ d.Exceeds (limited 0 0) ∧ d.content.isFinite = true ∧
      (exportOf "" Document.surrogateNote).parameter? "filename" = none ∧
      (handle (limited 0 0) (exportOf "" Document.surrogateNote)).result.status = 500 := by
  obtain ⟨d, hfinite, hbroken, hfits, hsends⟩ :=
    exists_sends_exportOf Document.surrogateNote 0 0 true false (by decide +kernel)
  have hexport := (hsends "").answer_export hfits rfl
  rw [hbroken, if_neg Bool.false_ne_true] at hexport
  exact ⟨d, hsends "", hfits, hfinite, rfl, hexport⟩

end Http

end WorkflowEngine
