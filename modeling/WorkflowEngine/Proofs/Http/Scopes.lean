import Mathlib.Data.List.Forall2
import WorkflowEngine.Proofs.Document.Bare
import WorkflowEngine.Proofs.Http.Handling
import WorkflowEngine.Proofs.Http.OwnContext

/-!
# Scopes of requests

All requests share one current scope.  An import and a simulation each make a scope object of
their own, enter it and leave it, and their entries are logged in between.  Since every request
gives the current scope back, its answer is the one it gets from a service that keeps no state, and
its entries tell its own path or none.
-/

namespace WorkflowEngine

namespace Log

/-! ## Computations that share the scopes -/

/-- A computation that logs into the scope that is current and may enter and leave objects. -/
abbrev Scoped (α : Type) := ScopeState → Logged α × ScopeState

namespace Scoped

variable {α β : Type}

/-- A computation that leaves the objects alone.  Its entries carry the scope that is current. -/
def plain (m : Logged α) : Scoped α := fun state => (.within state.current m, state)

/-- Run a computation inside a new object, which is left however the computation ends. -/
def inside (name : String) (context : Members) (m : Scoped α) : Scoped α := fun state =>
  let ended := m ((state.create name context).enter name)
  (ended.1, ended.2.leave name)

def map (f : α → β) (m : Scoped α) : Scoped β := fun state =>
  let ended := m state
  (⟨f ended.1.result, ended.1.entries⟩, ended.2)

/-- Inside an object the entries carry its context over the scope that was current before, and
that scope is current again afterwards. -/
theorem inside_plain (name : String) (context : Members) (m : Logged α) (state : ScopeState) :
    (inside name context (plain m) state).1 = .within (state.current.merge context) m ∧
      (inside name context (plain m) state).2.current = state.current := by
  have hcreated : (state.create name context).find? name = some ⟨name, context, none⟩ := by
    rw [ScopeState.create, ScopeState.find?_put, if_pos rfl]
  have hentered : (state.create name context).enter name =
      { (state.create name context).put ⟨name, context, some state.current⟩ with
        current := state.current.merge context } := by
    rw [ScopeState.enter, hcreated]
    rfl
  have hfound : ((state.create name context).enter name).find? name =
      some ⟨name, context, some state.current⟩ := by
    rw [hentered]
    exact (ScopeState.find?_put _ _ _).trans (if_pos rfl)
  constructor
  · rw [inside, plain, hentered]
  · rw [inside, plain, ScopeState.leave, hfound]

end Scoped

end Log

namespace Http

open Log

/-! ## A service with one current scope -/

/-- The name of the scope object that a request makes. -/
def requestObject : String := "request"

/-- Handle a request inside an object of its own. -/
def withinObject (action : String) (r : Request) (m : Logged Response) : Scoped Response :=
  if r.site?.isSome then .inside requestObject (requestScope action r) (.plain m)
  else .plain (.quiet .broken)

/-- Serve a request.  Bodies are read before an object is entered, except by an import. -/
def serveIn (s : Settings) (r : Request) : Endpoint → Scoped Response
  | .simulate =>
    match readDocument r with
    | .error response => .plain (.quiet response)
    | .ok d => withinObject simulateAction r (simulateDocument .standard s d)
  | .importDocument => withinObject importAction r (importBody s r.body)
  | e => .plain (serve .standard s r e)

/-- Answer a request.  One that leads to no endpoint enters no object. -/
def handleIn (s : Settings) (r : Request) : Scoped Response :=
  match route s.apiPrefix r.method r.path with
  | .endpoint e => (serveIn s r e).map (complete s r)
  | _ => .plain (handle s r)

/-- Answer some requests one after the other. -/
def session (s : Settings) : List Request → ScopeState → List (Logged Response) × ScopeState
  | [], state => ([], state)
  | r :: requests, state =>
    let first := handleIn s r state
    let rest := session s requests first.2
    (first.1 :: rest.1, rest.2)

/-! ## What the endpoints log -/

theorem lacks_simulateDocument (s : Settings) (d : Document) :
    (simulateDocument .standard s d).Lacks pathKey := by
  rw [simulateDocument, Document.checkSize]
  split_ifs
  · exact (Logged.lacks_emit rfl).bind (Logged.lacks_pure _)
  · exact (Logged.lacks_emit rfl).bind (Logged.lacks_pure _)
  · exact d.workflow.lacks_simulate.bind (Logged.lacks_pure _)

theorem lacks_importBody (s : Settings) (body : List UInt8) {key : String}
    (h : key = pathKey ∨ key = "action") : (importBody s body).Lacks key := by
  rw [importBody]
  refine (Document.lacks_load (.bytes body) h).bind ?_
  split
  · exact Logged.lacks_pure _
  · split
    · exact Logged.lacks_pure _
    · refine (Logged.lacks_emit ?_).bind (Logged.lacks_pure _)
      rcases h with rfl | rfl
      · rfl
      · rfl

/-- An endpoint that opens no scope logs nothing about the path. -/
theorem lacks_serve (s : Settings) (r : Request) {e : Endpoint} (himport : e ≠ .importDocument)
    (hsimulate : e ≠ .simulate) : (serve .standard s r e).Lacks pathKey := by
  cases e with
  | importDocument => exact absurd rfl himport
  | simulate => exact absurd rfl hsimulate
  | validate =>
    rw [serve, validate]
    split
    · exact Logged.lacks_quiet _
    · split
      · exact Logged.lacks_quiet _
      · exact (Workflow.lacks_report _).bind (Logged.lacks_pure _)
  | exportDocument =>
    rw [serve, exportDocument]
    split
    · exact Logged.lacks_quiet _
    · split
      · exact Logged.lacks_quiet _
      · dsimp only
        cases Engine.standard.write _ with
        | none => exact Logged.lacks_quiet _
        | some text =>
          dsimp only
          split
          · exact Logged.lacks_quiet _
          · exact Logged.lacks_quiet _
  | _ => exact Logged.lacks_quiet _

/-! ## Requests give the scope back -/

section Requests

variable {s : Settings} {r : Request} {state : ScopeState}

theorem plain_eq {m : Logged Response} (hm : m.Lacks pathKey) (hstate : state.current = []) :
    Scoped.plain m state = (m, state) := by
  rw [Scoped.plain, hstate, hm.within_nil]

theorem withinObject_eq (action : String) (r : Request) (m : Logged Response)
    (hstate : state.current = []) :
    (withinObject action r m state).1 = withinScope action r m ∧
      (withinObject action r m state).2.current = [] := by
  have hscope : Members.merge [] (requestScope action r) = requestScope action r := rfl
  rw [withinObject, withinScope]
  split_ifs
  · obtain ⟨hentries, hcurrent⟩ :=
      Scoped.inside_plain requestObject (requestScope action r) m state
    rw [hentries, hcurrent, hstate, hscope]
    exact ⟨rfl, rfl⟩
  · rw [plain_eq (Logged.lacks_quiet _) hstate]
    exact ⟨rfl, hstate⟩

theorem serveIn_eq (s : Settings) (r : Request) (e : Endpoint) (hstate : state.current = []) :
    (serveIn s r e state).1 = serve .standard s r e ∧ (serveIn s r e state).2.current = [] := by
  by_cases himport : e = .importDocument
  · subst himport
    exact withinObject_eq importAction r _ hstate
  by_cases hsimulate : e = .simulate
  · subst hsimulate
    rw [serveIn, serve, simulate]
    cases readDocument r with
    | error response =>
      dsimp only
      rw [plain_eq (Logged.lacks_quiet _) hstate]
      exact ⟨rfl, hstate⟩
    | ok d => exact withinObject_eq simulateAction r _ hstate
  have hserve : serveIn s r e = .plain (serve .standard s r e) := by
    cases e with
    | importDocument => exact absurd rfl himport
    | simulate => exact absurd rfl hsimulate
    | _ => rfl
  rw [hserve, plain_eq (lacks_serve s r himport hsimulate) hstate]
  exact ⟨rfl, hstate⟩

/-- A request that leads to no endpoint logs nothing. -/
theorem entries_handle_of_route (h : ∀ e, route s.apiPrefix r.method r.path ≠ .endpoint e) :
    (handle s r).entries = [] := by
  have hdispatch : (dispatch .standard s r).entries = [] := by
    rw [dispatch]
    split
    · next e he => exact absurd he (h e)
    · rfl
    · rfl
    · rfl
  rw [handle, handleWith]
  split
  · rfl
  · rw [Logged.entries_bind, hdispatch]
    rfl

/-- With no scope current a request is answered as by the service without scopes, and no scope is
current afterwards. -/
theorem handleIn_eq (s : Settings) (r : Request) (hstate : state.current = []) :
    (handleIn s r state).1 = handle s r ∧ (handleIn s r state).2.current = [] := by
  rw [handleIn]
  cases hroute : route s.apiPrefix r.method r.path with
  | endpoint e =>
    obtain ⟨hanswer, hcurrent⟩ := serveIn_eq s r e hstate
    rw [handle, handleWith_of_route _ hroute, ← hanswer]
    exact ⟨rfl, hcurrent⟩
  | _ =>
    have hentries : (handle s r).entries = [] := entries_handle_of_route (by simp [hroute])
    have hlacks : (handle s r).Lacks pathKey := by simp [Logged.Lacks, hentries]
    dsimp only
    rw [plain_eq hlacks hstate]
    exact ⟨rfl, hstate⟩

theorem session_eq (s : Settings) (requests : List Request) (hstate : state.current = []) :
    (session s requests state).1 = requests.map (handle s) ∧
      (session s requests state).2.current = [] := by
  induction requests generalizing state with
  | nil => exact ⟨rfl, hstate⟩
  | cons r requests ih =>
    obtain ⟨hanswer, hcurrent⟩ := handleIn_eq s r hstate
    obtain ⟨hanswers, hlast⟩ := ih hcurrent
    rw [session, List.map_cons]
    exact ⟨by rw [← hanswer, ← hanswers], hlast⟩

end Requests

/-! ## Paths in scopes -/

/-- The path that the entries of a request have to show, in some form: that of an import or of a
simulation. -/
def pathToShow? (form : String → String) (s : Settings) (r : Request) : Option Json :=
  match route s.apiPrefix r.method r.path with
  | .endpoint e =>
    if e = .importDocument ∨ e = .simulate then some (.str (form r.path)) else none
  | _ => none

/-- The entries of an answer show the scope of their request, with its path in some form, and no
other path. -/
structure ShowsScope (form : String → String) (s : Settings) (r : Request) (a : Logged Response) :
    Prop where
  path : ∀ e ∈ a.entries, e.fullContext.get? pathKey = pathToShow? form s r
  action : route s.apiPrefix r.method r.path = .endpoint .importDocument →
    ∀ e ∈ a.entries, e.fullContext.get? "action" = some (.str importAction)

/-- An entry logged inside the scope of a request shows what that holds under a key that is not
brought along. -/
theorem get?_fullContext_withinScope {action : String} {r : Request} {m : Logged Response}
    {key : String} (hm : m.Lacks key) :
    ∀ e ∈ (withinScope action r m).entries,
      e.fullContext.get? key = (requestScope action r).get? key := by
  intro e he
  rw [withinScope] at he
  split_ifs at he
  · exact hm.get?_fullContext_within he
  · cases he

/-- An entry of a computation that opens no scope shows nothing under a key that is not brought
along. -/
theorem get?_fullContext_of_lacks {m : Logged Response} {key : String} (hm : m.Lacks key) :
    ∀ e ∈ m.entries, e.fullContext.get? key = none := by
  intro e he
  obtain ⟨hscope, hcontext⟩ := hm e he
  rw [Entry.fullContext, hscope]
  exact Members.get?_merge_of_eq_none hcontext

theorem showsScope_handle (s : Settings) (r : Request) :
    ShowsScope onOneLine s r (handle s r) := by
  cases hroute : route s.apiPrefix r.method r.path with
  | endpoint target =>
    have hentries : (handle s r).entries = (serve .standard s r target).entries := by
      rw [handle, handleWith_of_route _ hroute]
    refine ⟨?_, fun himport => ?_⟩
    · rw [hentries, pathToShow?, hroute]
      dsimp only
      by_cases himport : target = .importDocument
      · subst himport
        rw [if_pos (.inl rfl)]
        exact get?_fullContext_withinScope (lacks_importBody s r.body (.inl rfl))
      by_cases hsimulate : target = .simulate
      · subst hsimulate
        rw [if_pos (.inr rfl), serve, simulate]
        cases readDocument r with
        | error response => exact fun e he => absurd he List.not_mem_nil
        | ok d => exact get?_fullContext_withinScope (lacks_simulateDocument s d)
      · rw [if_neg (not_or.mpr ⟨himport, hsimulate⟩)]
        exact get?_fullContext_of_lacks (lacks_serve s r himport hsimulate)
    · rw [hroute] at himport
      cases himport
      rw [hentries]
      exact get?_fullContext_withinScope (lacks_importBody s r.body (.inr rfl))
  | _ =>
    have hentries : (handle s r).entries = [] := entries_handle_of_route (by simp [hroute])
    refine ⟨?_, fun _ => ?_⟩
    · simp [hentries]
    · simp [hentries]

/-- However many requests are answered before, no scope is left when a request comes and none when
it is answered, and its answer is that of the service without scopes.  Every entry of an import or
of a simulation shows the path of its own request on one line, and that of an import shows its
action as well; an entry of any other request shows no path.  The path of an import or of a
simulation is the endpoint's own, perhaps with a line feed behind it that is not shown. -/
theorem session_showsScope (s : Settings) (requests : List Request) :
    (session s requests .initial).1 = requests.map (handle s) ∧
      (session s requests .initial).2.current = [] ∧
      List.Forall₂ (ShowsScope onOneLine s) requests (session s requests .initial).1 ∧
      (∀ r ∈ requests, ∀ e, e = .importDocument ∨ e = .simulate →
        route s.apiPrefix r.method r.path = .endpoint e →
          r.path = e.path s.apiPrefix ∨ r.path = e.path s.apiPrefix ++ "\n") ∧
      ∀ path : String, '\n' ∉ path.toList → onOneLine path = path := by
  have hinitial : ScopeState.initial.current = [] := rfl
  obtain ⟨hanswers, hcurrent⟩ := session_eq s requests hinitial
  refine ⟨hanswers, hcurrent, ?_, ?_, ?_⟩
  · rw [hanswers, List.forall₂_map_right_iff, List.forall₂_same]
    exact fun r _ => showsScope_handle s r
  · intro r _ e he hroute
    refine path_of_owns ?_ (owns_of_route hroute).1
    rcases he with rfl | rfl
    · decide
    · decide
  · intro path hpath
    rw [onOneLine, List.filter_eq_self.mpr, String.ofList_toList]
    intro c hc
    simpa using fun h : c = '\n' => hpath (h ▸ hc)

/-- A request to simulate the empty document, with a line feed behind the path. -/
def feedRequest : Request :=
  postText "/api/v1/simulate\n" "" (Document.bareDocument [] []).logLine

/-- Its entries do not show the path as it is. -/
theorem session_not_showsScope_feed :
    ¬ List.Forall₂ (ShowsScope id Settings.defaults) [feedRequest]
      (session Settings.defaults [feedRequest] .initial).1 := by
  intro h
  have hpath : pathToShow? id Settings.defaults feedRequest =
      some (.str "/api/v1/simulate\n") := by
    decide +kernel
  have hshown : (session Settings.defaults [feedRequest] .initial).1.map
      (fun a => a.entries.map (·.fullContext.get? pathKey)) =
        [[some (.str "/api/v1/simulate"), some (.str "/api/v1/simulate")]] := by
    decide +kernel
  obtain ⟨a, rest, hfirst, -, hanswers⟩ := List.forall₂_cons_left_iff.mp h
  rw [hanswers, List.map_cons] at hshown
  have hmem : some (Json.str "/api/v1/simulate") ∈
      a.entries.map (·.fullContext.get? pathKey) := by
    rw [(List.cons.inj hshown).1]
    exact List.mem_cons_self
  obtain ⟨e, he, hshows⟩ := List.mem_map.mp hmem
  have hsame := hfirst.path e he
  rw [hshows, hpath] at hsame
  exact absurd hsame (by decide)

end Http

end WorkflowEngine
