import WorkflowEngine.Proofs.Graph.ReachableSets
import WorkflowEngine.Proofs.Graph.SearchStates

/-!
# What the traversals expand

No traversal expands an id twice, whatever graph it is run on.  The walk and the closure work
through lists of pending ids, so the neighbours of the ids that they expand bound the number of
their steps.  The cycle search keeps what it has met from one root to the next one, so its marks
are followed through all of its roots.
-/

namespace WorkflowEngine.Graph

/-! ## Preorder -/

namespace Walk

/-- The id that the next step expands, if it expands one. -/
def expands? (w : Walk) : Option NodeId := fresh? w.visited w.pending

section Walks

variable {g : Graph} {edges : List (NodeId × NodeId)}

theorem emitted_step (g : Graph) (w : Walk) :
    (w.step g).emitted.reverse = w.emitted.reverse ++ w.expands?.toList := by
  cases hpending : w.pending with
  | nil => simp [Walk.step, expands?, fresh?, hpending]
  | cons node rest =>
    cases hnode : w.visited.contains node with
    | true => simp [step_of_visited hpending hnode, expands?, fresh?, hpending, hnode]
    | false => simp [step_of_new hpending hnode, expands?, fresh?, hpending, hnode]

/-- A walk emits the ids that it expands, in the same order. -/
theorem emitted_run_eq (g : Graph) (n : Nat) (w : Walk) :
    (w.run g n).emitted.reverse =
      w.emitted.reverse ++ expansions (Walk.step g) expands? n w := by
  rw [run_eq_iterate]
  induction n generalizing w with
  | zero => simp [expansions]
  | succ n ih =>
    rw [Function.iterate_succ_apply, ih, emitted_step, expansions, List.append_assoc]

/-- Whatever a walk has visited after some steps is visited by preorder. -/
theorem mem_preorder_of_visited (hg : g.Stores edges) {root id : NodeId} {n : Nat}
    (hid : ((start root).run g n).visited.contains id = true) : id ∈ g.preorder root := by
  have hnext : g.successors = targetsOf edges := funext hg.successors
  obtain ⟨hsound, hemit⟩ := (sound_start (root_mem_reachScope edges root)).run hg
    (fun _ he => target_mem_reachScope he root) n
  have hsame : emit g.successors (reachScope edges root) ((start root).run g n).emitted.reverse
      ((start root).run g n).pending = g.preorder root := by
    rw [hemit, hg.preorder_eq root, hnext]
    rfl
  rw [← hsame]
  exact subset_emit _ _ _ _ (List.mem_reverse.mpr ((hsound.visited_iff id).mp hid))

/-- A walk from a root emits the ids that it expands, none of them twice, and it is over after one
step for the root and one for each edge that leaves an id that it emits. -/
structure Bounded (g : Graph) (root : NodeId) : Prop where
  nodup : ∀ n, (expansions (Walk.step g) expands? n (start root)).Nodup
  emitted : ∀ n, ((start root).run g n).emitted.reverse =
    expansions (Walk.step g) expands? n (start root)
  ends : ∀ n, 1 + neighbourCount g.successors (g.preorder root) ≤ n →
    ((start root).run g n).pending = []

theorem bounded (hg : g.Stores edges) (root : NodeId) : Bounded g root where
  nodup n := (worklist g).marks.nodup_expansions n _
  emitted n := emitted_run_eq g n (start root)
  ends n hn := by
    rw [run_eq_iterate]
    refine (worklist g).pending_iterate_eq_nil_of_seen (fun id hid => ?_) hn
    rw [← run_eq_iterate] at hid
    exact mem_preorder_of_visited hg hid

end Walks

end Walk

/-! ## Closures -/

namespace Spread

/-- The id that the next step expands, if it expands one. -/
def expands? (s : Spread) : Option NodeId := fresh? s.reached s.queue

/-- A closure of some seeds reaches the ids that it expands, none of them twice, and it is over
after one step for each seed and one for each neighbour of an id that it reaches in the end. -/
structure Bounded (neighbours : NodeId → List NodeId) (seeds : List NodeId) (answer : IdSet) :
    Prop where
  nodup : ∀ n, (expansions (Spread.step neighbours) expands? n ⟨∅, seeds⟩).Nodup
  reached : ∀ n id, (run neighbours n ⟨∅, seeds⟩).reached.contains id = true ↔
    id ∈ expansions (Spread.step neighbours) expands? n ⟨∅, seeds⟩
  ends : ∀ n, seeds.length + neighbourCount neighbours answer.toList ≤ n →
    (run neighbours n ⟨∅, seeds⟩).queue = []

theorem bounded {edges : List (NodeId × NodeId)} {seeds : List NodeId} {answer : IdSet}
    (hanswer : ∀ id, answer.contains id = true ↔ ∃ seed ∈ seeds, Leads edges seed id) :
    Bounded (targetsOf edges) seeds answer where
  nodup n := (worklist _).marks.nodup_expansions n _
  reached n id := by
    rw [run_eq_iterate]
    constructor
    · intro hid
      rcases marked_or_mem_expansions (fun (s : Spread) id => s.reached.contains id = true)
        (fun s id => ((worklist _).contains_step s id).mp) hid with hold | hexpanded
      · simp at hold
      · exact hexpanded
    · exact (worklist _).marks.marked_of_mem
  ends n hn := by
    rw [run_eq_iterate]
    refine (worklist _).pending_iterate_eq_nil_of_seen (fun id hid => ?_) hn
    rw [← run_eq_iterate] at hid
    have hmet := ((sound_start edges seeds).run n).met_reachable id (Or.inl hid)
    exact Std.TreeSet.mem_toList.mpr ((hanswer id).mpr hmet)

end Spread

/-! ## The cycle search -/

namespace Verdict

/-- What comes after a verdict: a search under way takes a step. -/
def next (g : Graph) : Verdict → Verdict
  | .running s => s.step g
  | .closed cycle => .closed cycle

/-- The id that the next step expands, if it expands one. -/
def expands? : Verdict → Option NodeId
  | .running s => s.frames.head?.bind fun f => fresh? s.visited f.rest
  | .closed _ => none

/-- A search under way has met an id.  Once a cycle is closed there is nothing left to meet. -/
def Met : Verdict → NodeId → Prop
  | .running s, id => s.visited.contains id = true
  | .closed _, _ => True

end Verdict

namespace Search

variable {g : Graph} {edges : List (NodeId × NodeId)} {s t : Search} {id : NodeId}

/-- A run is made of steps alone: a step changes nothing once there are no frames. -/
theorem run_eq_iterate (g : Graph) (n : Nat) (s : Search) :
    s.run g n = (Verdict.next g)^[n] (.running s) := by
  induction n generalizing s with
  | zero => rfl
  | succ n ih =>
    rw [Search.run, Function.iterate_succ_apply]
    by_cases hempty : s.frames = []
    · have hsame : Verdict.next g (.running s) = .running s := by
        simp [Verdict.next, Search.step, hempty]
      rw [if_pos (by simpa using hempty), hsame, Function.iterate_fixed hsame]
    · rw [if_neg (by simpa using hempty), Verdict.next]
      cases s.step g with
      | running t => exact ih t
      | closed cycle => exact (Function.iterate_fixed (f := Verdict.next g) rfl n).symm

/-- A step that closes no cycle meets the id that it expands and nothing else. -/
theorem visited_step_iff (hstep : s.step g = .running t) (id : NodeId) :
    t.visited.contains id = true ↔
      s.visited.contains id = true ∨ Verdict.expands? (.running s) = some id := by
  by_cases hframes : s.frames = []
  · have hsame : s = t := by simpa [Search.step, hframes] using hstep
    simp [← hsame, Verdict.expands?, hframes]
  · have hmoves := moves_step (g := g) hframes
    rw [hstep] at hmoves
    cases hmoves with
    | left hleft => simp [Search.left, Verdict.expands?, hleft, fresh?]
    | passed hpassed _ hmet =>
      have hnone : Verdict.expands? (.running s) = none := by
        rw [Verdict.expands?, hpassed, List.head?_cons, Option.bind_some, fresh?, if_pos hmet]
      simp [hnone, Search.passed]
    | @entered node next rest below hentered _ hnew =>
      have hsome : Verdict.expands? (.running s) = some next := by
        rw [Verdict.expands?, hentered, List.head?_cons, Option.bind_some, fresh?,
          if_neg (by rw [hnew]; exact Bool.false_ne_true)]
      rw [hsome, Search.entered, IdSet.contains_insert, Bool.or_eq_true, decide_eq_true_eq,
        Option.some.injEq]
      exact or_comm

theorem marks (g : Graph) : Marks (Verdict.next g) Verdict.expands? Verdict.Met where
  fresh v id hid := by
    cases v with
    | closed _ => cases hid
    | running s =>
      obtain ⟨f, -, hfresh⟩ := Option.bind_eq_some_iff.mp hid
      obtain ⟨_, -, hnew⟩ := fresh?_eq_some_iff.mp hfresh
      simp [Verdict.Met, hnew]
  kept v id hid := by
    cases v with
    | closed _ => trivial
    | running s =>
      rw [Verdict.next]
      cases hstep : s.step g with
      | closed _ => trivial
      | running t => exact (visited_step_iff hstep id).mpr (Or.inl hid)
  set v id hid := by
    cases v with
    | closed _ => cases hid
    | running s =>
      rw [Verdict.next]
      cases hstep : s.step g with
      | closed _ => trivial
      | running t => exact (visited_step_iff hstep id).mpr (Or.inr hid)

/-- The ids that the search below a root expands: the root, and then those of its steps. -/
def expandedBelow (g : Graph) (visited : IdSet) (root : NodeId) : List NodeId :=
  root :: expansions (Verdict.next g) Verdict.expands? g.searchFuel
    (.running (start g visited root))

/-- The ids that the searches below some roots expand, one search after the other. -/
def expandedFrom (g : Graph) : List NodeId → IdSet → List NodeId
  | [], _ => []
  | root :: roots, visited =>
    if visited.contains root then expandedFrom g roots visited
    else expandedBelow g visited root ++
      match (start g visited root).run g g.searchFuel with
      | .closed _ => []
      | .running s => expandedFrom g roots s.visited

variable {visited : IdSet} {root : NodeId}

theorem contains_visited_start :
    (start g visited root).visited.contains id = true ↔
      id = root ∨ visited.contains id = true := by
  simp only [start, IdSet.contains_insert, Bool.or_eq_true, decide_eq_true_eq, @eq_comm _ root id]

theorem nodup_expandedBelow (g : Graph) (visited : IdSet) (root : NodeId) :
    (expandedBelow g visited root).Nodup := by
  refine List.nodup_cons.mpr ⟨fun hid => ?_, (marks g).nodup_expansions _ _⟩
  exact (marks g).not_marked hid (contains_visited_start.mpr (Or.inl rfl))

/-- Below a new root only new ids are expanded. -/
theorem new_of_mem_expandedBelow (hroot : visited.contains root = false)
    (hid : id ∈ expandedBelow g visited root) : visited.contains id = false := by
  rcases List.mem_cons.mp hid with rfl | hlater
  · exact hroot
  · rw [Bool.eq_false_iff]
    exact fun hold => (marks g).not_marked hlater (contains_visited_start.mpr (Or.inr hold))

/-- A search that comes back from a root has met what it had met before and what it expanded. -/
theorem visited_of_run (hrun : (start g visited root).run g g.searchFuel = .running t)
    (hid : visited.contains id = true ∨ id ∈ expandedBelow g visited root) :
    t.visited.contains id = true := by
  have hmet : ∀ {other}, (start g visited root).visited.contains other = true →
      t.visited.contains other = true := by
    intro other hother
    have hkept := (marks g).kept_iterate g.searchFuel (s := .running (start g visited root)) hother
    rwa [← run_eq_iterate, hrun] at hkept
  rcases hid with hold | hid
  · exact hmet (contains_visited_start.mpr (Or.inr hold))
  · rcases List.mem_cons.mp hid with rfl | hlater
    · exact hmet (contains_visited_start.mpr (Or.inl rfl))
    · have hmarked := (marks g).marked_of_mem hlater
      rwa [← run_eq_iterate, hrun] at hmarked

/-- The searches below some roots expand only new ids, and none of them twice. -/
theorem expandedFrom_spec (g : Graph) (roots : List NodeId) (visited : IdSet) :
    (expandedFrom g roots visited).Nodup ∧
      ∀ id ∈ expandedFrom g roots visited, visited.contains id = false := by
  induction roots generalizing visited with
  | nil => exact ⟨List.nodup_nil, List.forall_mem_nil _⟩
  | cons root roots ih =>
    rw [expandedFrom]
    split
    · exact ih visited
    · next hroot =>
      rw [Bool.not_eq_true] at hroot
      cases hrun : (start g visited root).run g g.searchFuel with
      | closed cycle =>
        dsimp only
        rw [List.append_nil]
        exact ⟨nodup_expandedBelow g visited root,
          fun id hid => new_of_mem_expandedBelow hroot hid⟩
      | running s =>
        obtain ⟨hnodup, hnew⟩ := ih s.visited
        -- Later searches know what this one has met.
        have hapart : ∀ {id}, visited.contains id = true ∨ id ∈ expandedBelow g visited root →
            id ∉ expandedFrom g roots s.visited := by
          intro id hid hlater
          have hmet := visited_of_run hrun hid
          rw [hnew id hlater] at hmet
          cases hmet
        refine ⟨(nodup_expandedBelow g visited root).append hnodup ?_, ?_⟩
        · exact fun id hid hlater => hapart (Or.inr hid) hlater
        · intro id hid
          rcases List.mem_append.mp hid with hbelow | hlater
          · exact new_of_mem_expandedBelow hroot hbelow
          · rw [Bool.eq_false_iff]
            exact fun hold => hapart (Or.inl hold) hlater

/-- A search that comes back from a root has met nothing but what it had met before and what it
expanded. -/
theorem mem_expandedBelow_of_visited
    (hrun : (start g visited root).run g g.searchFuel = .running t)
    (hid : t.visited.contains id = true) :
    visited.contains id = true ∨ id ∈ expandedBelow g visited root := by
  -- A closed cycle says nothing about what has been met, so only a search under way counts.
  let met := fun (v : Verdict) (other : NodeId) =>
    ∃ s, v = .running s ∧ s.visited.contains other = true
  have honly : ∀ v other, met (Verdict.next g v) other →
      met v other ∨ Verdict.expands? v = some other := by
    rintro v other ⟨s, hnext, hother⟩
    cases v with
    | closed _ => cases hnext
    | running r =>
      exact ((visited_step_iff hnext other).mp hother).imp_left fun hold => ⟨r, rfl, hold⟩
  rw [run_eq_iterate] at hrun
  rcases marked_or_mem_expansions met honly ⟨t, hrun, hid⟩ with ⟨s, hs, hstart⟩ | hlater
  · cases hs
    rcases contains_visited_start.mp hstart with rfl | hold
    · exact Or.inr List.mem_cons_self
    · exact Or.inl hold
  · exact Or.inr (List.mem_cons_of_mem _ hlater)

/-- If no cycle is found, every root has been met before or is expanded. -/
theorem mem_expandedFrom_of_searchFrom {roots : List NodeId}
    (hnone : searchFrom g roots visited = none) (hid : id ∈ roots) :
    visited.contains id = true ∨ id ∈ expandedFrom g roots visited := by
  induction roots generalizing visited with
  | nil => cases hid
  | cons root roots ih =>
    rw [searchFrom] at hnone
    rw [expandedFrom]
    by_cases hroot : visited.contains root = true
    · rw [if_pos hroot] at hnone ⊢
      rcases List.mem_cons.mp hid with rfl | hid
      · exact Or.inl hroot
      · exact ih hnone hid
    · rw [if_neg hroot] at hnone ⊢
      cases hrun : (start g visited root).run g g.searchFuel with
      | closed cycle =>
        rw [hrun] at hnone
        cases hnone
      | running s =>
        rw [hrun] at hnone
        rw [List.mem_append]
        rcases List.mem_cons.mp hid with rfl | hid
        · exact Or.inr (Or.inl List.mem_cons_self)
        · rcases ih hnone hid with hmet | hlater
          · exact (mem_expandedBelow_of_visited hrun hmet).imp_right Or.inl
          · exact Or.inr (Or.inr hlater)

/-- Below every root that the search comes to, it closes a cycle or leaves its path. -/
theorem ComesTo.ends (hg : g.Stores edges) {roots : List NodeId}
    (hcomes : ComesTo g (root :: roots) visited) (hroot : visited.contains root = false) {n : Nat}
    (hn : g.searchFuel ≤ n) :
    (∃ cycle, (Search.start g visited root).run g n = .closed cycle) ∨
      ∃ last, (Search.start g visited root).run g n = .running last ∧ last.frames = [] := by
  obtain ⟨hroots, hexplored⟩ := hcomes.explored hg
  have hweight := weight_start_le hg (hroots List.mem_cons_self) hroot
  cases hrun : (Search.start g visited root).run g n with
  | closed cycle => exact Or.inl ⟨cycle, rfl⟩
  | running last =>
    exact Or.inr ⟨last, rfl, (sound_start hg hexplored hroot).frames_eq_nil hg
      (hweight.trans hn) hrun⟩

end Search

/-- The ids that the cycle search expands, in order. -/
def expandedByCycleSearch (g : Graph) : List NodeId := Search.expandedFrom g g.nodes ∅

/-! ## Graphs built by additions -/

/-- Whatever was added to a graph, and whatever the root and the seeds are, each traversal ends and
expands no id twice.  A walk takes at most one step for its root and one for each edge that leaves
an emitted id, and a closure along or against the edges takes at most one step for each seed and
one for each neighbour of a reached id.  The cycle search below a root ends with a cycle or without
frames, and if it finds no cycle it expands every node. -/
theorem traversals_end (additions : List Addition) :
    (∀ root, Walk.Bounded (build additions) root) ∧
      (∀ seeds, Spread.Bounded (build additions).successors seeds
        ((build additions).reachableFrom seeds)) ∧
      (∀ seeds, Spread.Bounded (build additions).predecessors seeds
        ((build additions).reaching seeds)) ∧
      (build additions).expandedByCycleSearch.Nodup ∧
      ((build additions).detectCycle = none →
        ∀ id ∈ (build additions).nodes, id ∈ (build additions).expandedByCycleSearch) ∧
      ∀ root roots visited n, Search.ComesTo (build additions) (root :: roots) visited →
        visited.contains root = false → (build additions).searchFuel ≤ n →
          (∃ cycle, (Search.start (build additions) visited root).run (build additions) n =
              .closed cycle) ∨
            ∃ last, (Search.start (build additions) visited root).run (build additions) n =
              .running last ∧ last.frames = [] := by
  have hstores := stores_build additions
  refine ⟨Walk.bounded hstores, fun seeds => ?_, fun seeds => ?_,
    (Search.expandedFrom_spec _ _ _).1, fun hnone id hid => ?_,
    fun root roots visited n hcomes hroot hn => hcomes.ends hstores hroot hn⟩
  · have hsuccessors : (build additions).successors = targetsOf (edgesAmong additions) :=
      funext hstores.successors
    have hreached := hstores.contains_reachableFrom seeds
    rw [hsuccessors]
    exact Spread.bounded hreached
  · have hpredecessors : (build additions).predecessors =
        targetsOf ((edgesAmong additions).map Prod.swap) := by
      funext id
      rw [hstores.predecessors, sourcesOf_eq_targetsOf_swap]
    rw [hpredecessors]
    apply Spread.bounded
    intro id
    rw [hstores.contains_reaching]
    simp only [leads_swap]
  · rcases Search.mem_expandedFrom_of_searchFrom hnone hid with hmet | hexpanded
    · simp at hmet
    · exact hexpanded

/-- A root with two edges to one other id needs all of the three steps. -/
example : ((Walk.start "a").run (build [.edge "a" "b", .edge "a" "b"]) 2).pending = ["b"] := by
  decide +kernel

end WorkflowEngine.Graph
