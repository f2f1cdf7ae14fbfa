import WorkflowEngine.Proofs.Document.Bare
import WorkflowEngine.Proofs.Document.Reload
import WorkflowEngine.Proofs.Http.Handling

/-!
# Size limits of the service

Four endpoints take a document, and each compares its size with the limits at a place of its own:
before the engine is asked, inside a scope, or behind the loading.  They refuse the same documents
with the same report, and what they answer to a refused document does not depend on the engine.
-/

namespace WorkflowEngine

namespace Http

open Log

/-! ## Requests that send documents -/

/-- The endpoints that take a document. -/
def documentEndpoints : List Endpoint :=
  [.validate, .simulate, .exportDocument, .importDocument]

theorem method_of_mem {e : Endpoint} (h : e ∈ documentEndpoints) : e.method = "POST" :=
  (by decide : ∀ e ∈ documentEndpoints, e.method = "POST") e h

/-- A request sends a document to an endpoint: it leads to one of the endpoints that take one, and
its body is JSON that the schema accepts as the document.  The import endpoint does not ask for a
content type. -/
structure Sends (s : Settings) (r : Request) (e : Endpoint) (d : Document) : Prop where
  takes : e ∈ documentEndpoints
  leads : route s.apiPrefix r.method r.path = .endpoint e
  scheme : r.scheme = "http" ∨ r.scheme = "https"
  typed : e ≠ .importDocument → (r.header? "content-type").map isJsonType = some true
  body : ∃ j, Document.readSource (.bytes r.body) = .ok j ∧ Document.ofJson j = .ok d

theorem isJsonType_jsonType : isJsonType Response.jsonType = true := by decide +kernel

/-- A text that is posted to the path of an endpoint sends the document that it is loaded as. -/
theorem sends_postText {s : Settings} {e : Endpoint} {d : Document} {query text : String}
    (he : e ∈ documentEndpoints)
    (hload : Document.tryLoad (.bytes (Utf8.encode text.toList)) = .ok d) :
    Sends s (postText (e.path s.apiPrefix) query text) e d where
  takes := he
  leads := route_post _ (method_of_mem he)
  scheme := .inl rfl
  typed _ := congrArg some isJsonType_jsonType
  body := by
    obtain ⟨j, hread, hcheck⟩ := Document.tryLoad_eq_ok_iff.mp hload
    exact ⟨j, hread, Document.ofJson_eq_ok_iff.mpr hcheck⟩

theorem isSome_site? {r : Request} (h : r.scheme = "http" ∨ r.scheme = "https") :
    r.site?.isSome = true := by
  have hown : r.ownHost?.isSome = true := by
    rcases h with h | h <;> simp [Request.ownHost?, Request.usualNumber?, h]
  rw [Request.site?, Option.isSome_map, Request.siteHost?]
  split
  · split
    · rfl
    · exact hown
  · exact hown

/-- Nothing is read from an empty body. -/
theorem readSource_nil (j : Json) : Document.readSource (.bytes []) ≠ .ok j := by
  intro h
  cases h

/-- What is loaded from a body is also read from it if it is of a JSON type. -/
theorem readBody_of_readSource {r : Request} {j : Json}
    (hread : Document.readSource (.bytes r.body) = .ok j)
    (htyped : (r.header? "content-type").map isJsonType = some true) : readBody r = .ok j := by
  have hbody : r.body.isEmpty = false := by
    cases hcase : r.body with
    | nil =>
      rw [hcase] at hread
      exact absurd hread (readSource_nil j)
    | cons b bs => rfl
  rw [Document.readSource] at hread
  split at hread
  · cases hread
  · next ps hps =>
    rw [readBody, hbody, if_neg Bool.false_ne_true, htyped]
    dsimp only
    rw [hps, Option.getD_some, if_neg (by decide)]
    dsimp only
    rw [mapError_eq_ok_iff.mp hread]

section Sent

variable {s : Settings} {r : Request} {e : Endpoint} {d : Document} {err : EngineError}

theorem Sends.method (h : Sends s r e d) : r.method = "POST" := by
  rw [← (owns_of_route h.leads).2, method_of_mem h.takes]

theorem Sends.readDocument (h : Sends s r e d) (himport : e ≠ .importDocument) :
    readDocument r = .ok d := by
  obtain ⟨j, hread, hd⟩ := h.body
  rw [Http.readDocument, readBody_of_readSource hread (h.typed himport)]
  exact mapError_eq_ok_iff.mpr hd

theorem Sends.load (h : Sends s r e d) : Document.load (.bytes r.body) = .quiet (.ok d) := by
  obtain ⟨j, hread, hd⟩ := h.body
  rw [Document.load,
    Document.tryLoad_eq_ok_iff.mpr ⟨j, hread, Document.ofJson_eq_ok_iff.mp hd⟩]

/-! ## Refusals -/

/-- What is logged when an endpoint refuses a document with an error that has details. -/
def rejection (r : Request) (details : Members) : Endpoint → List Entry
  | .simulate =>
    [⟨simulateLogger, Level.warning, "Simulation request rejected", details,
      requestScope simulateAction r⟩]
  | _ => []

theorem status_answer_ne (j : Json) : (answer 200 j).status ≠ badRequest := by
  rw [answer]
  split
  · exact (by decide : 200 ≠ badRequest)
  · exact (by decide : 500 ≠ badRequest)

/-- An endpoint compares the size of the document.  It refuses the document without asking the
engine, or its answer is none to a request that cannot be served. -/
theorem Sends.serves (h : Sends s r e d) (engine : Engine) :
    match d.checkSize s with
    | .error err => serve engine s r e = ⟨errorAnswer badRequest err, rejection r err.details e⟩
    | .ok () => (serve engine s r e).result.status ≠ badRequest := by
  have hsite := isSome_site? h.scheme
  have hok : 200 ≠ badRequest := by decide
  have hbroken : 500 ≠ badRequest := by decide
  have htakes := h.takes
  cases e with
  | validate =>
    rw [serve, validate, h.readDocument (by decide)]
    dsimp only
    cases d.checkSize s with
    | error err => rfl
    | ok _ => exact status_answer_ne _
  | simulate =>
    rw [serve, simulate, h.readDocument (by decide)]
    dsimp only
    rw [withinScope, if_pos hsite, simulateDocument]
    cases d.checkSize s with
    | error err => rfl
    | ok _ => exact status_answer_ne _
  | exportDocument =>
    rw [serve, exportDocument, h.readDocument (by decide)]
    dsimp only
    cases d.checkSize s with
    | error err => rfl
    | ok _ =>
      dsimp only
      cases engine.write d with
      | none => exact hbroken
      | some text =>
        dsimp only
        split
        · exact hok
        · exact hbroken
  | importDocument =>
    rw [serve, importDocument, withinScope, if_pos hsite, importBody, h.load]
    dsimp only [bind, Logged.andThen, Logged.quiet]
    cases d.checkSize s with
    | error err => rfl
    | ok _ => exact status_answer_ne _
  | _ => exact absurd htakes (by decide)

/-- A request to an endpoint is refused because the document has more elements of one sort than
allowed, whatever the engine does. -/
structure Refuses (s : Settings) (r : Request) (e : Endpoint) (metric : String)
    (current limit : Int) : Prop where
  reports : (handle s r).result.ReportsSize metric current limit
  logs : (handle s r).entries =
    rejection r [("current", .int current), ("limit", .int limit), ("metric", .str metric)] e
  idle : ∀ engine, handleWith engine s r = handle s r

theorem Sends.refuses (h : Sends s r e d) {metric : String} {current limit : Int}
    (hsize : d.checkSize s = .error (.graphTooLarge current limit metric)) :
    Refuses s r e metric current limit := by
  have hserved : ∀ engine, handleWith engine s r =
      ⟨complete s r (errorAnswer badRequest (.graphTooLarge current limit metric)),
        rejection r (EngineError.graphTooLarge current limit metric).details e⟩ := by
    intro engine
    have hserves := h.serves engine
    rw [hsize] at hserves
    rw [handleWith_of_route engine h.leads, hserves]
  have hbody : r.method ≠ bodilessMethod := by
    rw [h.method]
    decide
  obtain ⟨hstatus, hreport⟩ := reportsSize_errorAnswer current limit metric
  refine ⟨⟨?_, ?_⟩, ?_, fun engine => ?_⟩
  · rw [handle, hserved, status_complete, hstatus]
  · rw [handle, hserved, body_complete s hbody, hreport]
  · rw [handle, hserved]
    rfl
  · rw [handle, hserved, hserved]

theorem Sends.status_ne (h : Sends s r e d) (hsize : d.checkSize s = .ok ()) :
    (handle s r).result.status ≠ badRequest := by
  have hserves := h.serves .standard
  rw [hsize] at hserves
  rw [handle, handleWith_of_route _ h.leads, status_complete]
  exact hserves

/-- A document is refused as too large if and only if it exceeds a limit, by whichever endpoint it
is sent to.  The report is about the nodes if there are too many of them, and otherwise about the
edges.  What is answered and logged is the same with every engine, so none is run.  A document
that does not exceed the limits is not answered as a request that cannot be served. -/
theorem refuses_iff_exceeds (h : Sends s r e d) :
    ((∃ message details, (handle s r).result.Reports "GRAPH_TOO_LARGE" message details) ↔
        d.Exceeds s) ∧
      (s.maxNodes < d.nodes.length → Refuses s r e "nodes" d.nodes.length s.maxNodes) ∧
      (d.nodes.length ≤ s.maxNodes → s.maxEdges < d.edges.length →
        Refuses s r e "edges" d.edges.length s.maxEdges) ∧
      (¬ d.Exceeds s → (handle s r).result.status ≠ 400) := by
  have hnodes : s.maxNodes < d.nodes.length → Refuses s r e "nodes" _ _ :=
    fun hmany => h.refuses (Document.checkSize_of_nodes hmany)
  have hedges : d.nodes.length ≤ s.maxNodes → s.maxEdges < d.edges.length →
      Refuses s r e "edges" _ _ :=
    fun hfew hmany => h.refuses (Document.checkSize_of_edges hfew hmany)
  have hfits : ¬ d.Exceeds s → (handle s r).result.status ≠ 400 :=
    fun hsmall => h.status_ne (Document.checkSize_of_not_exceeds hsmall)
  refine ⟨⟨?_, ?_⟩, hnodes, hedges, hfits⟩
  · rintro ⟨message, details, hstatus, -⟩
    by_contra hsmall
    exact hfits hsmall hstatus
  · intro hlarge
    by_cases hmany : s.maxNodes < d.nodes.length
    · exact ⟨_, _, (hnodes hmany).reports⟩
    · exact ⟨_, _, (hedges (not_lt.mp hmany) (hlarge.resolve_left hmany)).reports⟩

end Sent

/-- The standard settings with other limits. -/
def limited (nodes edges : Int) : Settings :=
  { Settings.defaults with maxNodes := nodes, maxEdges := edges }

/-- A text of a document with one node and an edge from the node to itself. -/
def loopText : String :=
  (Document.bareDocument [Document.bareNode "n" .start] [Document.bareEdge "e" "n" "n"]).logLine

/-- The request that sends this document to an endpoint. -/
def loopRequest (e : Endpoint) : Request :=
  postText (e.path Settings.defaults.apiPrefix) "" loopText

theorem refuses_iff_exceeds_loop :
    ∃ d, ∀ e ∈ documentEndpoints,
      (∀ nodes edges, Sends (limited nodes edges) (loopRequest e) e d) ∧
        Refuses (limited 0 0) (loopRequest e) e "nodes" 1 0 ∧
        Refuses (limited 1 0) (loopRequest e) e "edges" 1 0 ∧
        (handle (limited 1 1) (loopRequest e)).result.status ≠ 400 := by
  have hloaded : (Document.tryLoad (.bytes (Utf8.encode loopText.toList))).toOption.map
      (fun d => (d.nodes.length, d.edges.length)) = some (1, 1) := by
    decide +kernel
  obtain ⟨d, hd, hsize⟩ := exists_of_toOption_map hloaded
  obtain ⟨hnodes, hedges⟩ := Prod.mk.inj hsize
  refine ⟨d, fun e he => ?_⟩
  have hsends : ∀ nodes edges, Sends (limited nodes edges) (loopRequest e) e d :=
    fun nodes edges => sends_postText he hd
  obtain ⟨-, hfirst, -, -⟩ := refuses_iff_exceeds (hsends 0 0)
  obtain ⟨-, -, hsecond, -⟩ := refuses_iff_exceeds (hsends 1 0)
  obtain ⟨-, -, -, hfits⟩ := refuses_iff_exceeds (hsends 1 1)
  rw [hnodes] at hfirst
  rw [hnodes, hedges] at hsecond
  rw [Document.Exceeds, hnodes, hedges] at hfits
  exact ⟨hsends, hfirst (by decide), hsecond (by decide) (by decide), hfits (by decide)⟩

end Http

end WorkflowEngine
