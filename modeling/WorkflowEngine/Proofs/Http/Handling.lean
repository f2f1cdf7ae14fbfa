import WorkflowEngine.Http.Service
import WorkflowEngine.Proofs.Schema.LeafValues
import WorkflowEngine.Proofs.Schema.WrittenObjects

/-!
# How requests are handled

A request that leads to an endpoint has the endpoint's method and, but for a line feed, its
path.  The endpoint serves it, and of the answer only the headers still depend on the origin of
the request.  A request that cannot be served gets a report with a code, a message and details,
in an envelope that its model accepts.  The status is one that the endpoint documents, unless
handling breaks off.
-/

namespace WorkflowEngine

/-! ## Sizes -/

namespace Document

/-- A document has more nodes or more edges than the settings allow. -/
def Exceeds (d : Document) (s : Settings) : Prop :=
  s.maxNodes < d.nodes.length ∨ s.maxEdges < d.edges.length

variable {s : Settings} {d : Document}

theorem checkSize_of_nodes (h : s.maxNodes < d.nodes.length) :
    d.checkSize s = .error (.graphTooLarge d.nodes.length s.maxNodes "nodes") := by
  rw [checkSize, if_pos h]

theorem checkSize_of_edges (hnodes : d.nodes.length ≤ s.maxNodes)
    (h : s.maxEdges < d.edges.length) :
    d.checkSize s = .error (.graphTooLarge d.edges.length s.maxEdges "edges") := by
  rw [checkSize, if_neg (Int.not_lt.mpr hnodes), if_pos h]

theorem checkSize_of_not_exceeds (h : ¬ d.Exceeds s) : d.checkSize s = .ok () := by
  rw [Exceeds, not_or] at h
  rw [checkSize, if_neg h.1, if_neg h.2]

end Document

/-! ## Envelopes -/

namespace EngineError

open Schema

theorem distinct_envelopeModel : envelopeModel.Distinct := ⟨by decide, by decide⟩

/-- The value that an envelope gives a field. -/
def envelopeValue? (e : EngineError) : String → Option Json
  | "error" => some (.str e.code)
  | "message" => some (.str e.message)
  | "details" => some (if e.details.isEmpty then .null else .obj e.details)
  | _ => none

theorem envelope_eq_written (e : EngineError) :
    e.envelope = .obj (envelopeModel.written e.envelopeValue?) := rfl

/-- The model of envelopes accepts the envelope of every error as it is. -/
theorem check_envelope (e : EngineError) :
    envelopeModel.shape.check e.envelope = .ok e.envelope := by
  rw [envelope_eq_written]
  have hdetails : (Shape.leaf .optionalMap).check
      (if e.details.isEmpty then .null else .obj e.details) =
        .ok (if e.details.isEmpty then .null else .obj e.details) := by
    split
    · rfl
    · rfl
  refine Model.check_written distinct_envelopeModel rfl ?_
  simp only [envelopeModel, List.forall_mem_cons]
  exact ⟨Leaf.check_str e.code, Leaf.check_str e.message, hdetails, List.forall_mem_nil _⟩

end EngineError

namespace Http

open Log

/-- A request that posts a text of JSON to a path. -/
def postText (path query text : String) : Request where
  method := "POST"
  scheme := "http"
  host := "test"
  number := none
  path := path
  query := query
  headers := [("content-type", Response.jsonType)]
  body := Utf8.encode text.toList

/-! ## Routes -/

theorem owns_of_route {apiPath method path : String} {e : Endpoint}
    (h : route apiPath method path = .endpoint e) :
    e.owns apiPath path = true ∧ e.method = method := by
  rw [route] at h
  dsimp only at h
  split at h
  · next found hfound =>
    cases h
    have hmethod := List.find?_some hfound
    exact ⟨(List.mem_filter.mp (List.mem_of_find?_eq_some hfound)).2, beq_iff_eq.mp hmethod⟩
  · cases h
  · split at h
    · cases h
    · cases h

/-- A path that an endpoint owns is its own path, perhaps with a line feed behind it, unless it
names an action. -/
theorem path_of_owns {apiPath path : String} {e : Endpoint} (haction : e ≠ .getAction)
    (h : e.owns apiPath path = true) : path = e.path apiPath ∨ path = e.path apiPath ++ "\n" := by
  cases e with
  | getAction => exact absurd rfl haction
  | _ => simpa [Endpoint.owns] using h

/-- A request to the path of an endpoint that takes bodies leads there, whatever path the version
has. -/
theorem route_post (apiPath : String) {e : Endpoint} (he : e.method = "POST") :
    route apiPath "POST" (e.path apiPath) = .endpoint e := by
  have hfound : (Endpoint.all.filter (·.owns apiPath (e.path apiPath))).find? (·.method == "POST") =
      some e := by
    rw [List.find?_filter]
    -- No path of the four is another one with a line feed behind it.
    cases e with
    | importDocument | exportDocument | simulate | validate =>
      simp [Endpoint.all, Endpoint.owns, Endpoint.method, Endpoint.path, String.append_assoc]
    | _ => exact absurd he (by decide)
  rw [route]
  dsimp only
  rw [hfound]

/-! ## Reports -/

/-- A response tells why a request cannot be served: its status is 400, and its body holds the
code of an error, a message and details. -/
def Response.Reports (response : Response) (code message : String) (details : Members) : Prop :=
  response.status = 400 ∧
    response.body = (Json.obj [("detail", .obj
      [("error", .str code), ("message", .str message), ("details", .obj details)])]).compact

/-- A response tells that a document has more elements of one sort than allowed. -/
def Response.ReportsSize (response : Response) (metric : String) (current limit : Int) : Prop :=
  response.Reports "GRAPH_TOO_LARGE"
    ("Graph too large: " ++ toString current ++ " " ++ metric ++
      " (limit: " ++ toString limit ++ ")")
    [("current", .int current), ("limit", .int limit), ("metric", .str metric)]

theorem reports_errorAnswer {err : EngineError} (hsome : err.details.isEmpty = false)
    (hproper : (Json.obj err.details).isProper = true) :
    (errorAnswer badRequest err).Reports err.code err.message err.details := by
  have henvelope : err.envelope = .obj
      [("error", .str err.code), ("message", .str err.message),
        ("details", .obj err.details)] := by
    rw [EngineError.envelope, hsome]
    rfl
  have hbody : (Json.obj [("detail", err.envelope)]).isProper = true := by
    rw [henvelope]
    simp [hproper]
  rw [errorAnswer, refusal, answer, if_pos hbody, henvelope]
  exact ⟨rfl, rfl⟩

theorem reportsSize_errorAnswer (current limit : Int) (metric : String) :
    (errorAnswer badRequest (.graphTooLarge current limit metric)).ReportsSize metric current
      limit :=
  reports_errorAnswer rfl rfl

/-! ## Answers -/

section Handling

variable {s : Settings} {r : Request} {e : Endpoint}

theorem preflight?_of_route (h : route s.apiPrefix r.method r.path = .endpoint e) :
    preflight? s r = none := by
  have hmethod : r.method ≠ preflightMethod := by
    rw [← (owns_of_route h).2]
    cases e <;> decide
  rw [preflight?]
  split
  · rw [if_neg hmethod]
  · rfl

/-- A request that leads to an endpoint is answered by the endpoint. -/
theorem handleWith_of_route (engine : Engine)
    (h : route s.apiPrefix r.method r.path = .endpoint e) :
    handleWith engine s r =
      ⟨complete s r (serve engine s r e).result, (serve engine s r e).entries⟩ := by
  rw [handleWith, preflight?_of_route h, dispatch, h]
  exact congrArg (Logged.mk _) (List.append_nil _)

end Handling

/-- The headers that an answer gets for the origin of its request. -/
def originHeaderNames : List String := [credentialsHeader.1, (originHeader "").1]

theorem fst_of_mem_originHeaders {origins : List Text} {r : Request} {origin : String}
    {header : String × String} (h : header ∈ originHeaders origins r origin) :
    header.1 = (originHeader "").1 := by
  rw [originHeaders] at h
  split at h
  · rw [List.mem_singleton.mp h]
    rfl
  · split at h
    · rw [List.mem_singleton.mp h]
      rfl
    · cases h

/-- For the origin of its request an answer only gets more headers, which are about the origin. -/
theorem withOrigin_eq (s : Settings) (r : Request) (response : Response) : ∃ more,
    withOrigin s r response = { response with headers := response.headers ++ more } ∧
      ∀ header ∈ more, header.1 ∈ originHeaderNames := by
  have hnone : response = { response with headers := response.headers ++ [] } := by
    rw [List.append_nil]
  rw [withOrigin]
  split
  · exact ⟨[], hnone, List.forall_mem_nil _⟩
  · split
    · exact ⟨[], hnone, List.forall_mem_nil _⟩
    · refine ⟨_, rfl, List.forall_mem_cons.mpr ⟨by decide, fun header hheader => ?_⟩⟩
      rw [fst_of_mem_originHeaders hheader]
      decide

theorem status_complete (s : Settings) (r : Request) (response : Response) :
    (complete s r response).status = response.status := by
  obtain ⟨more, horigin, -⟩ := withOrigin_eq s r response
  rw [complete, horigin]
  split
  · rfl
  · rfl

theorem body_complete (s : Settings) {r : Request} (h : r.method ≠ bodilessMethod)
    (response : Response) : (complete s r response).body = response.body := by
  obtain ⟨more, horigin, -⟩ := withOrigin_eq s r response
  rw [complete, horigin, if_neg h]

/-- An answer keeps its headers, and those that it gets are about the origin of its request. -/
theorem headers_complete (s : Settings) (r : Request) (response : Response) : ∃ more,
    (complete s r response).headers = response.headers ++ more ∧
      ∀ header ∈ more, header.1 ∈ originHeaderNames := by
  obtain ⟨more, horigin, hmore⟩ := withOrigin_eq s r response
  refine ⟨more, ?_, hmore⟩
  rw [complete, horigin]
  split
  · rfl
  · rfl

/-- A request that leads to an endpoint gets the endpoint's status and body. -/
theorem answer_of_route {s : Settings} {r : Request} {e : Endpoint}
    (h : route s.apiPrefix r.method r.path = .endpoint e) :
    (handle s r).result.status = (serve .standard s r e).result.status ∧
      (handle s r).result.body = (serve .standard s r e).result.body := by
  have hbody : r.method ≠ bodilessMethod := by
    rw [← (owns_of_route h).2]
    cases e <;> decide
  rw [handle, handleWith_of_route _ h]
  exact ⟨status_complete s r _, body_complete s hbody _⟩

/-! ## Status codes -/

/-- An answer has one of some status codes, unless handling broke off. -/
def Response.Among (response : Response) (codes : List String) : Prop :=
  response = .broken ∨ toString response.status ∈ codes

namespace Response.Among

variable {codes : List String} {response : Response}

theorem answer {status : Nat} (j : Json) (h : toString status ∈ codes) :
    (Http.answer status j).Among codes := by
  rw [Http.answer]
  split
  · exact .inr h
  · exact .inl rfl

theorem unlessBroken {p : Prop} [Decidable p] (h : response.Among codes) :
    (if p then response else .broken).Among codes := by
  split
  · exact h
  · exact .inl rfl

end Response.Among

section Status

variable {s : Settings} {r : Request} {response : Response} {codes : List String}

theorem among_invalidBody (issues : List Schema.Issue) (h : toString 422 ∈ codes) :
    (invalidBody issues).Among codes := by
  rw [invalidBody, refusal]
  exact .answer _ h

/-- A body is refused for what it holds, or for what it cannot be read as. -/
theorem among_of_readBody (h : readBody r = .error response) :
    response.Among ["400", "422"] := by
  have hunparsed : toString badRequest ∈ ["400", "422"] := by decide
  have hinvalid : toString 422 ∈ ["400", "422"] := by decide
  rw [readBody] at h
  split at h
  · obtain rfl := Except.error.inj h
    exact among_invalidBody _ hinvalid
  · split at h
    · obtain rfl := Except.error.inj h
      exact .unlessBroken (among_invalidBody _ hinvalid)
    · dsimp only at h
      split at h
      · obtain rfl := Except.error.inj h
        exact .answer _ hunparsed
      · split at h
        · cases h
        · obtain rfl := Except.error.inj h
          exact .answer _ hinvalid
        · obtain rfl := Except.error.inj h
          exact .answer _ hunparsed

theorem among_of_readDocument (h : readDocument r = .error response) :
    response.Among ["200", "400", "422"] := by
  rw [readDocument] at h
  split at h
  · next hbody =>
    obtain rfl := Except.error.inj h
    exact (among_of_readBody hbody).imp_right (List.mem_cons_of_mem _)
  · next j _ =>
    cases hd : Document.ofJson j with
    | ok d =>
      rw [hd] at h
      cases h
    | error issues =>
      rw [hd] at h
      obtain rfl := Except.error.inj h
      exact .unlessBroken (among_invalidBody issues (by decide))

theorem among_withinScope {action : String} {m : Logged Response} (h : m.result.Among codes) :
    (withinScope action r m).result.Among codes := by
  rw [withinScope]
  split
  · exact h
  · exact .inl rfl

theorem among_importBody (s : Settings) (body : List UInt8) :
    (importBody s body).result.Among ["200", "400"] := by
  have hok : toString 200 ∈ ["200", "400"] := by decide
  have hrefused : toString badRequest ∈ ["200", "400"] := by decide
  rw [importBody, Logged.result_bind]
  split
  · split
    · exact Response.Among.answer _ hrefused
    · exact .inl rfl
  · split
    · exact Response.Among.answer _ hrefused
    · exact Response.Among.answer _ hok

theorem among_exportDocument (engine : Engine) (s : Settings) (r : Request) :
    (exportDocument engine s r).result.Among ["200", "400", "422"] := by
  have hok : toString 200 ∈ ["200", "400", "422"] := by decide
  have hrefused : toString badRequest ∈ ["200", "400", "422"] := by decide
  rw [exportDocument]
  split
  · next hread => exact among_of_readDocument hread
  · split
    · exact Response.Among.answer _ hrefused
    · dsimp only
      split
      · split
        · exact .inr hok
        · exact .inl rfl
      · exact .inl rfl

theorem among_simulate (engine : Engine) (s : Settings) (r : Request) :
    (simulate engine s r).result.Among ["200", "400", "422"] := by
  have hok : toString 200 ∈ ["200", "400", "422"] := by decide
  have hrefused : toString badRequest ∈ ["200", "400", "422"] := by decide
  rw [simulate]
  split
  · next hread => exact among_of_readDocument hread
  · refine among_withinScope ?_
    rw [simulateDocument]
    split
    · exact Response.Among.answer _ hrefused
    · exact Response.Among.answer _ hok

theorem among_validate (engine : Engine) (s : Settings) (r : Request) :
    (validate engine s r).result.Among ["200", "400", "422"] := by
  have hok : toString 200 ∈ ["200", "400", "422"] := by decide
  have hrefused : toString badRequest ∈ ["200", "400", "422"] := by decide
  rw [validate]
  split
  · next hread => exact among_of_readDocument hread
  · split
    · exact Response.Among.answer _ hrefused
    · exact Response.Among.answer _ hok

theorem among_getAction (s : Settings) (r : Request) :
    (getAction s r).Among ["200", "404", "422"] := by
  have hok : toString 200 ∈ ["200", "404", "422"] := by decide
  have hmissing : toString 404 ∈ ["200", "404", "422"] := by decide
  rw [getAction]
  split
  · exact .answer _ hok
  · exact .answer _ hmissing

theorem among_serve (engine : Engine) (s : Settings) (r : Request) (e : Endpoint) :
    (serve engine s r e).result.Among e.statusCodes := by
  have hok : toString 200 ∈ ["200"] := by decide
  cases e with
  | importDocument => exact among_withinScope (among_importBody s r.body)
  | exportDocument => exact among_exportDocument engine s r
  | simulate => exact among_simulate engine s r
  | validate => exact among_validate engine s r
  | getAction => exact among_getAction s r
  | listActions | status | health | root =>
    rw [serve, Logged.result_quiet]
    exact .answer _ hok

/-- A request that leads to an endpoint is answered with one of the documented status codes of the
endpoint, unless its handling breaks off. -/
theorem status_of_route (engine : Engine) {e : Endpoint}
    (h : route s.apiPrefix r.method r.path = .endpoint e) :
    (handleWith engine s r).result.status = 500 ∨
      toString (handleWith engine s r).result.status ∈ e.statusCodes := by
  rw [handleWith_of_route engine h, status_complete]
  rcases among_serve engine s r e with hbroken | hcode
  · rw [hbroken]
    exact .inl rfl
  · exact .inr hcode

end Status

end Http

end WorkflowEngine
