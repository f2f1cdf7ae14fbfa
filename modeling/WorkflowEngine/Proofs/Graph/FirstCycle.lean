import WorkflowEngine.Proofs.Graph.Acyclicity
import WorkflowEngine.Proofs.Graph.Histories

/-!
# The first cycle

Which cycle the search answers is settled by `Searches`, a recursion that goes through some ids
one after the other.  It is given the path that led to them and all ids met so far: an id on the
path closes a cycle, any other id met before is passed over, and below a new id the same search
goes through what comes next, before it goes on with the ids beside it.  Roots are gone through
like this with an empty path.

A frame of the search with a stack is a call of the recursion that waits until the call above it
comes back.  `Unwinds` says what a stack of such calls ends with, and each step of the search
turns a stack into one that ends alike.
-/

namespace WorkflowEngine

namespace Graph

/-! ## The recursive search -/

/-- What a recursive search ends with. -/
inductive Ending where
  /-- Nothing is left to go through, and these ids have been met. -/
  | exhausted (met : List NodeId)
  /-- An id on the path has been met again. -/
  | closed (cycle : List NodeId)

/-- The cycle that a search ends with, if it ends with one. -/
def Ending.cycle? : Ending → Option (List NodeId)
  | .exhausted _ => none
  | .closed cycle => some cycle

/-- Searching recursively through some ids below a path, with all ids met so far.  The cycle is
the part of the path from the id that closes it on, followed by that id. -/
inductive Searches (next : NodeId → List NodeId) :
    List NodeId → List NodeId → List NodeId → Ending → Prop where
  | exhaust {path met : List NodeId} : Searches next path met [] (.exhausted met)
  | close {path met rest : List NodeId} {id : NodeId} (hid : id ∈ path) :
      Searches next path met (id :: rest) (.closed (path.dropWhile (· ≠ id) ++ [id]))
  | pass {path met rest : List NodeId} {id : NodeId} {e : Ending} (hpath : id ∉ path)
      (hid : id ∈ met) (hrest : Searches next path met rest e) :
      Searches next path met (id :: rest) e
  | stop {path met rest cycle : List NodeId} {id : NodeId} (hpath : id ∉ path) (hid : id ∉ met)
      (hinner : Searches next (path ++ [id]) (met ++ [id]) (next id) (.closed cycle)) :
      Searches next path met (id :: rest) (.closed cycle)
  | visit {path met inner rest : List NodeId} {id : NodeId} {e : Ending} (hpath : id ∉ path)
      (hid : id ∉ met)
      (hinner : Searches next (path ++ [id]) (met ++ [id]) (next id) (.exhausted inner))
      (hrest : Searches next path inner rest e) :
      Searches next path met (id :: rest) e

/-- A recursive search ends in one way only. -/
theorem Searches.unique {next : NodeId → List NodeId} {path met todo : List NodeId}
    {e other : Ending} (h : Searches next path met todo e)
    (hother : Searches next path met todo other) : e = other := by
  induction h generalizing other with
  | exhaust =>
    cases hother
    rfl
  | close hid =>
    cases hother with
    | close _ => rfl
    | pass hpath _ _ => exact absurd hid hpath
    | stop hpath _ _ => exact absurd hid hpath
    | visit hpath _ _ _ => exact absurd hid hpath
  | pass hpath hid _ ih =>
    cases hother with
    | close hin => exact absurd hin hpath
    | pass _ _ hrest => exact ih hrest
    | stop _ hnew _ => exact absurd hid hnew
    | visit _ hnew _ _ => exact absurd hid hnew
  | stop hpath hid _ ih =>
    cases hother with
    | close hin => exact absurd hin hpath
    | pass _ hmet _ => exact absurd hmet hid
    | stop _ _ hinner => exact ih hinner
    | visit _ _ hinner _ => cases ih hinner
  | visit hpath hid _ _ ihInner ihRest =>
    cases hother with
    | close hin => exact absurd hin hpath
    | pass _ hmet _ => exact absurd hmet hid
    | stop _ _ hinner => cases ihInner hinner
    | visit _ _ hinner hrest =>
      cases ihInner hinner
      exact ihRest hrest

/-! ## Calls that wait for each other -/

/-- The nodes of some frames, the latest last. -/
def pathOf (frames : List Frame) : List NodeId := (frames.map (·.node)).reverse

theorem pathOf_cons (f : Frame) (frames : List Frame) :
    pathOf (f :: frames) = pathOf frames ++ [f.node] := by
  simp [pathOf]

/-- What a stack of calls ends with: the latest one goes through the rest of its ids.  If it
closes a cycle, so do all the others, and if it comes back, the one below goes on. -/
inductive Unwinds (next : NodeId → List NodeId) : List Frame → List NodeId → Ending → Prop where
  | exhaust {met : List NodeId} : Unwinds next [] met (.exhausted met)
  | stop {f : Frame} {below : List Frame} {met cycle : List NodeId}
      (hlatest : Searches next (pathOf (f :: below)) met f.rest (.closed cycle)) :
      Unwinds next (f :: below) met (.closed cycle)
  | back {f : Frame} {below : List Frame} {met inner : List NodeId} {e : Ending}
      (hlatest : Searches next (pathOf (f :: below)) met f.rest (.exhausted inner))
      (hbelow : Unwinds next below inner e) : Unwinds next (f :: below) met e

section Unwinds

variable {next : NodeId → List NodeId} {node id : NodeId} {rest met : List NodeId}
  {below : List Frame} {e : Ending}

/-- A call with nothing left to go through comes back. -/
theorem Unwinds.of_left (h : Unwinds next below met e) :
    Unwinds next (⟨node, []⟩ :: below) met e :=
  .back .exhaust h

theorem Unwinds.of_closed (hid : id ∈ pathOf (⟨node, id :: rest⟩ :: below)) :
    Unwinds next (⟨node, id :: rest⟩ :: below) met
      (.closed ((pathOf (⟨node, id :: rest⟩ :: below)).dropWhile (· ≠ id) ++ [id])) :=
  .stop (.close hid)

theorem Unwinds.of_passed (hpath : id ∉ pathOf (⟨node, rest⟩ :: below)) (hid : id ∈ met)
    (h : Unwinds next (⟨node, rest⟩ :: below) met e) :
    Unwinds next (⟨node, id :: rest⟩ :: below) met e := by
  cases h with
  | stop hlatest => exact .stop (.pass hpath hid hlatest)
  | back hlatest hbelow => exact .back (.pass hpath hid hlatest) hbelow

/-- A call that was made for a new id closes a cycle for the one below it, or comes back to
it. -/
theorem Unwinds.of_entered (hpath : id ∉ pathOf (⟨node, rest⟩ :: below)) (hid : id ∉ met)
    (h : Unwinds next (⟨id, next id⟩ :: ⟨node, rest⟩ :: below) (met ++ [id]) e) :
    Unwinds next (⟨node, id :: rest⟩ :: below) met e := by
  cases h with
  | stop hlatest =>
    rw [pathOf_cons] at hlatest
    exact .stop (.stop hpath hid hlatest)
  | back hlatest hbelow =>
    rw [pathOf_cons] at hlatest
    cases hbelow with
    | stop hwaiting => exact .stop (.visit hpath hid hlatest hwaiting)
    | back hwaiting hbelow => exact .back (.visit hpath hid hlatest hwaiting) hbelow

end Unwinds

/-! ## The search with a stack -/

/-- A set holds exactly the ids of a list. -/
def Holds (ids : IdSet) (met : List NodeId) : Prop := ∀ id, ids.contains id = true ↔ id ∈ met

theorem Holds.insert {ids : IdSet} {met : List NodeId} (h : Holds ids met) (id : NodeId) :
    Holds (ids.insert id) (met ++ [id]) := by
  intro other
  rw [IdSet.contains_insert, Bool.or_eq_true, decide_eq_true_eq, h other, List.mem_append,
    List.mem_singleton, or_comm, eq_comm]

theorem Holds.not_mem {ids : IdSet} {met : List NodeId} (h : Holds ids met) {id : NodeId}
    (hid : ids.contains id = false) : id ∉ met := by
  intro hin
  rw [(h id).mpr hin] at hid
  contradiction

/-- A verdict of the search with a stack says the same as an ending of the recursive one. -/
inductive Verdict.Says : Verdict → Ending → Prop where
  | exhausted {s : Search} {met : List NodeId} (hmet : Holds s.visited met) :
      Says (.running s) (.exhausted met)
  | closed (cycle : List NodeId) : Says (.closed cycle) (.closed cycle)

namespace Search

section Run

variable {g : Graph} {edges : List (NodeId × NodeId)}

theorem Sound.reverse_path {s : Search} (hs : Sound edges s) :
    s.path.reverse = pathOf s.frames := by
  rw [hs.path_eq, pathOf]

theorem Sound.mem_pathOf_iff {s : Search} (hs : Sound edges s) (id : NodeId) :
    id ∈ pathOf s.frames ↔ s.onPath.contains id = true := by
  rw [hs.onPath, ← hs.reverse_path, List.mem_reverse]

theorem Sound.not_mem_pathOf {s : Search} (hs : Sound edges s) {id : NodeId}
    (hid : s.onPath.contains id = false) : id ∉ pathOf s.frames := by
  rw [hs.mem_pathOf_iff, hid]
  exact Bool.false_ne_true

/-- A run that leaves no frame behind comes to what its calls end with. -/
theorem Sound.unwinds_run (hg : g.Stores edges) {s : Search} (hs : Sound edges s)
    {met : List NodeId} (hmet : Holds s.visited met) {fuel : Nat}
    (hend : ∀ last, s.run g fuel = .running last → last.frames = []) :
    ∃ e, Unwinds (targetsOf edges) s.frames met e ∧ (s.run g fuel).Says e := by
  induction fuel generalizing s met with
  | zero =>
    have hframes : s.frames = [] := hend s rfl
    rw [hframes]
    exact ⟨.exhausted met, .exhaust, .exhausted hmet⟩
  | succ fuel ih =>
    rw [Search.run] at hend ⊢
    by_cases hframes : s.frames = []
    · rw [if_pos (List.isEmpty_iff.mpr hframes), hframes]
      exact ⟨.exhausted met, .exhaust, .exhausted hmet⟩
    · rw [if_neg (by simpa using hframes)] at hend ⊢
      have hmoves := moves_step (g := g) hframes
      generalize s.step g = verdict at hmoves hend ⊢
      cases hmoves with
      | left hleft =>
        obtain ⟨e, hunwinds, hsays⟩ := ih (hs.left hleft) hmet hend
        rw [hleft]
        exact ⟨e, hunwinds.of_left, hsays⟩
      | @closed node next rest below hclosed hpath =>
        have hin := (hs.mem_pathOf_iff next).mpr hpath
        rw [cycleFrom, hs.reverse_path]
        rw [hclosed] at hin ⊢
        exact ⟨_, .of_closed hin, .closed _⟩
      | @passed node next rest below hpassed hpath hnext =>
        have hoff := hs.not_mem_pathOf hpath
        obtain ⟨e, hunwinds, hsays⟩ := ih (hs.passed hpassed hpath hnext) hmet hend
        rw [hpassed] at hoff ⊢
        exact ⟨e, hunwinds.of_passed hoff ((hmet next).mp hnext), hsays⟩
      | @entered node next rest below hentered hpath hnext =>
        have hoff := hs.not_mem_pathOf hpath
        obtain ⟨e, hunwinds, hsays⟩ :=
          ih (hs.entered hg hentered hpath hnext) (hmet.insert next) hend
        rw [Search.entered, hg.successors] at hunwinds
        rw [hentered] at hoff ⊢
        exact ⟨e, hunwinds.of_entered hoff (hmet.not_mem hnext), hsays⟩

/-- Searching from some roots comes to what the recursion ends with that goes through them. -/
theorem searches_searchFrom (hg : g.Stores edges) {roots : List NodeId}
    (hroots : ∀ id ∈ roots, id ∈ g.nodes) {visited : IdSet} (hvisited : Explored edges visited)
    {met : List NodeId} (hmet : Holds visited met) :
    ∃ e, Searches (targetsOf edges) [] met roots e ∧ searchFrom g roots visited = e.cycle? := by
  induction roots generalizing visited met with
  | nil => exact ⟨.exhausted met, .exhaust, rfl⟩
  | cons root roots ih =>
    have hrest : ∀ id ∈ roots, id ∈ g.nodes := fun id hid => hroots id (by simp [hid])
    have hoff : root ∉ ([] : List NodeId) := List.not_mem_nil
    rw [searchFrom]
    by_cases hroot : visited.contains root = true
    · obtain ⟨e, hsearches, hcycle⟩ := ih hrest hvisited hmet
      rw [if_pos hroot]
      exact ⟨e, .pass hoff ((hmet root).mp hroot) hsearches, hcycle⟩
    · rw [if_neg hroot]
      rw [Bool.not_eq_true] at hroot
      have hstart := sound_start hg hvisited hroot
      have hconcludes := hstart.run hg (weight_start_le hg (hroots root (by simp)) hroot)
        (fun _ hmet => hmet)
      have hend : ∀ last, (start g visited root).run g g.searchFuel = .running last →
          last.frames = [] := by
        intro last hlast
        rw [hlast] at hconcludes
        exact hconcludes.2.1
      obtain ⟨e, hunwinds, hsays⟩ := hstart.unwinds_run hg (hmet.insert root) hend
      rw [start, hg.successors] at hunwinds
      have hnew := hmet.not_mem hroot
      cases hverdict : (start g visited root).run g g.searchFuel with
      | closed cycle =>
        rw [hverdict] at hsays
        cases hsays
        cases hunwinds with
        | stop hlatest => exact ⟨.closed cycle, .stop hoff hnew hlatest, rfl⟩
        | back _ hbelow => cases hbelow
      | running last =>
        rw [hverdict] at hsays hconcludes
        cases hsays with
        | exhausted hlast =>
          cases hunwinds with
          | back hlatest hbelow =>
            cases hbelow
            obtain ⟨e, hsearches, hcycle⟩ :=
              ih hrest (hconcludes.1.explored hconcludes.2.1) hlast
            exact ⟨e, .visit hoff hnew hlatest hsearches, hcycle⟩

end Run

end Search

/-- The search answers the cycle with which the recursion ends that goes through all nodes. -/
theorem Stores.searches_detectCycle {g : Graph} {edges : List (NodeId × NodeId)}
    (hg : g.Stores edges) :
    ∃ e, Searches (targetsOf edges) [] [] g.nodes e ∧ g.detectCycle = e.cycle? := by
  have hnone : Holds ∅ [] := fun id => by simp
  exact Search.searches_searchFrom hg (fun _ hid => hid) (Search.explored_empty edges) hnone

/-! ## Graphs built by additions -/

/-- What the recursive search through the graph of some additions ends with: it begins with the
ids in order of first mention and follows the edges in the order in which they were added. -/
def SearchEnds (additions : List Addition) (e : Ending) : Prop :=
  Searches (targetsOf (edgesAmong additions)) [] [] (mentions additions).eraseDups e

/-- The recursive search through a graph has exactly one end. -/
theorem exists_searchEnds_iff (additions : List Addition) :
    ∃ e, (∀ other, SearchEnds additions other ↔ other = e) ∧
      (build additions).detectCycle = e.cycle? := by
  obtain ⟨e, hsearches, hcycle⟩ := (stores_build additions).searches_detectCycle
  rw [nodes_build] at hsearches
  refine ⟨e, fun other => ⟨fun h => h.unique hsearches, ?_⟩, hcycle⟩
  rintro rfl
  exact hsearches

theorem detectCycle_eq_some_iff_searchEnds (additions : List Addition) (cycle : List NodeId) :
    (build additions).detectCycle = some cycle ↔ SearchEnds additions (.closed cycle) := by
  obtain ⟨e, hends, hcycle⟩ := exists_searchEnds_iff additions
  rw [hends, hcycle]
  cases e <;> simp [Ending.cycle?, eq_comm]

theorem detectCycle_eq_none_iff_searchEnds (additions : List Addition) :
    (build additions).detectCycle = none ↔ ∃ met, SearchEnds additions (.exhausted met) := by
  obtain ⟨e, hends, hcycle⟩ := exists_searchEnds_iff additions
  simp only [hends, hcycle]
  cases e <;> simp [Ending.cycle?]

end Graph

/-! ## Cycles in the log -/

namespace Workflow

open WorkflowEngine.Graph

/-- The cycles that are logged while a workflow is checked. -/
def loggedCycles (w : Workflow) : List (Option Json) :=
  (w.validate.entries.filter (·.message = "Cycle detected")).map (·.context.get? "cycle_path")

theorem loggedCycles_eq (w : Workflow) :
    w.loggedCycles = w.graph.detectCycle.toList.map fun cycle => some (.strings cycle) := by
  cases hcycle : w.graph.detectCycle with
  | none => simp [loggedCycles, validate, logCycle, hcycle]
  | some cycle =>
    have hpath : Members.get? [("action", .str "validate_workflow"),
        ("cycle_path", .strings cycle)] "cycle_path" = some (.strings cycle) := rfl
    simp [loggedCycles, validate, logCycle, hcycle, hpath]

end Workflow

namespace Graph

/-- The search answers the cycle that the recursive search closes first, and it answers nothing
exactly if the recursive search exhausts all ids without closing one.  So the one cycle that is
logged while a workflow is checked is the first one that the recursive search closes on the graph
of the workflow. -/
theorem detectCycle_build_first (additions : List Addition) :
    (∀ cycle, (build additions).detectCycle = some cycle ↔
        SearchEnds additions (.closed cycle)) ∧
      ((build additions).detectCycle = none ↔ ∃ met, SearchEnds additions (.exhausted met)) ∧
      ∀ w : Workflow,
        (∀ cycle, w.loggedCycles = [some (.strings cycle)] ↔
          SearchEnds w.history (.closed cycle)) ∧
        (w.loggedCycles = [] ↔ ∃ met, SearchEnds w.history (.exhausted met)) := by
  refine ⟨detectCycle_eq_some_iff_searchEnds additions,
    detectCycle_eq_none_iff_searchEnds additions, fun w => ?_⟩
  rw [w.loggedCycles_eq, w.graph_eq_build, ← detectCycle_eq_none_iff_searchEnds]
  simp only [← detectCycle_eq_some_iff_searchEnds]
  cases (build w.history).detectCycle with
  | none => simp
  | some cycle => simp

/-- The search meets `b` and `d` again before it closes a cycle below the second root. -/
example : (build [.node "d", .edge "a" "b", .edge "b" "d", .edge "a" "d", .edge "a" "c",
    .edge "c" "b", .edge "c" "e", .edge "e" "c", .edge "c" "a"]).detectCycle =
      some ["c", "e", "c"] := by
  decide +kernel

end Graph

end WorkflowEngine
