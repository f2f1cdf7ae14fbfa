import WorkflowEngine.Proofs.Graph.Acyclicity

/-!
# The states of the cycle search

The search changes four collections side by side: the frames, the path, the path as a set and the
ids met so far.  `Search.Orderly` says how they fit together in one state.  The search is in such
a state below every root and after every number of steps, and a round that looks at several
successors of a node is made of several steps, so the states between these are among them.  What
the moves keep that close no cycle holds throughout a run.
-/

namespace WorkflowEngine.Graph

namespace Search

/-! ## Orderly states -/

/-- An id that a search is done with: it only leads to ids that have been met and are not on the
path, and it lies on no cycle. -/
structure Finished (edges : List (NodeId × NodeId)) (s : Search) (id : NodeId) : Prop where
  successors : ∀ next, Joins edges id next → s.visited.contains next = true ∧ next ∉ s.path
  acyclic : ¬ LeadsOn edges id id

/-- The successors of a node that come before the rest of its frame have been met. -/
def Consumed (g : Graph) (visited : IdSet) (f : Frame) : Prop :=
  ∃ consumed, g.successors f.node = consumed ++ f.rest ∧
    ∀ id ∈ consumed, visited.contains id = true

/-- A state in which the four collections fit together.  The path is read from the root on, and
the frames from the lowest on. -/
structure Orderly (g : Graph) (edges : List (NodeId × NodeId)) (s : Search) : Prop where
  path_eq : s.path.reverse = s.frames.reverse.map (·.node)
  onPath_iff : ∀ id, s.onPath.contains id = true ↔ id ∈ s.path
  nodup : s.path.Nodup
  visited : ∀ id ∈ s.path, s.visited.contains id = true
  joined : s.path.reverse.IsChain (Joins edges)
  consumed : ∀ f ∈ s.frames, Consumed g s.visited f
  finished : ∀ id, s.visited.contains id = true → id ∉ s.path → Finished edges s id

section States

variable {g : Graph} {edges : List (NodeId × NodeId)} {s t : Search}

theorem Sound.orderly (hs : Sound edges s) (hconsumed : ∀ f ∈ s.frames, Consumed g s.visited f) :
    Orderly g edges s where
  path_eq := by rw [hs.path_eq, List.map_reverse]
  onPath_iff := hs.onPath
  nodup := hs.nodup
  visited := hs.path_visited
  joined := List.isChain_reverse.mpr hs.joined
  consumed := hconsumed
  finished id hvisited hpath :=
    ⟨fun next hnext => hs.settled_closed id next ⟨hvisited, hpath⟩ hnext,
      hs.settled_acyclic id ⟨hvisited, hpath⟩⟩

/-- In an orderly state without frames nothing is on the path. -/
theorem Orderly.path_eq_nil (hs : Orderly g edges s) (hframes : s.frames = []) : s.path = [] := by
  have hpath := hs.path_eq
  rw [hframes] at hpath
  exact List.reverse_eq_nil_iff.mp hpath

theorem Orderly.isEmpty_onPath (hs : Orderly g edges s) (hframes : s.frames = []) :
    s.onPath.isEmpty = true := by
  rw [Std.TreeSet.isEmpty_iff_forall_contains]
  intro id
  rw [Bool.eq_false_iff, Ne, hs.onPath_iff, hs.path_eq_nil hframes]
  exact List.not_mem_nil

theorem Orderly.finished_of_visited (hs : Orderly g edges s) (hframes : s.frames = [])
    {id : NodeId} (hid : s.visited.contains id = true) : Finished edges s id := by
  apply hs.finished id hid
  rw [hs.path_eq_nil hframes]
  exact List.not_mem_nil

/-! ## What moves keep -/

theorem Consumed.mono {visited visited' : IdSet} {f : Frame} (hf : Consumed g visited f)
    (hvisited : ∀ id, visited.contains id = true → visited'.contains id = true) :
    Consumed g visited' f := by
  obtain ⟨consumed, heq, hmet⟩ := hf
  exact ⟨consumed, heq, fun id hid => hvisited id (hmet id hid)⟩

/-- A frame that goes on by one successor has consumed that one as well. -/
theorem Consumed.next {visited : IdSet} {node next : NodeId} {rest : List NodeId}
    (hf : Consumed g visited ⟨node, next :: rest⟩) (hnext : visited.contains next = true) :
    Consumed g visited ⟨node, rest⟩ := by
  obtain ⟨consumed, heq, hmet⟩ := hf
  refine ⟨consumed ++ [next], ?_, ?_⟩
  · rw [heq, List.append_assoc, List.singleton_append]
  · intro id hid
    rcases List.mem_append.mp hid with hold | hlast
    · exact hmet id hold
    · rwa [List.mem_singleton.mp hlast]

/-- The frame of an id that has just been met has not consumed anything. -/
theorem consumed_successors (g : Graph) (visited : IdSet) (id : NodeId) :
    Consumed g visited ⟨id, g.successors id⟩ :=
  ⟨[], rfl, List.forall_mem_nil _⟩

theorem Moves.consumed (hmoves : Moves g s (.running t))
    (hs : ∀ f ∈ s.frames, Consumed g s.visited f) : ∀ f ∈ t.frames, Consumed g t.visited f := by
  have hkept : ∀ f ∈ s.frames, Consumed g t.visited f :=
    fun f hf => (hs f hf).mono fun _ hid => hmoves.visited hid
  intro f hf
  cases hmoves with
  | left hframes =>
    apply hkept f
    rw [hframes]
    exact List.mem_cons_of_mem _ hf
  | passed hframes _ hnext =>
    rw [hframes] at hkept
    rcases List.mem_cons.mp hf with rfl | hbelow
    · exact (hkept _ List.mem_cons_self).next hnext
    · exact hkept f (List.mem_cons_of_mem _ hbelow)
  | @entered node next rest below hframes _ _ =>
    rw [hframes] at hkept
    have hnext : (s.entered g node next rest below).visited.contains next = true := by
      simp only [Search.entered, IdSet.contains_insert, decide_true, Bool.true_or]
    rcases List.mem_cons.mp hf with rfl | hf
    · exact consumed_successors g _ next
    · rcases List.mem_cons.mp hf with rfl | hbelow
      · exact (hkept _ List.mem_cons_self).next hnext
      · exact hkept f (List.mem_cons_of_mem _ hbelow)

/-! ## Runs -/

/-- What every move keeps holds in every state of a run. -/
theorem keeps_run {holds : Search → Prop}
    (hkeeps : ∀ s t, holds s → Moves g s (.running t) → holds t) (hs : holds s) {n : Nat}
    (hrun : s.run g n = .running t) : holds t := by
  induction n generalizing s with
  | zero =>
    cases hrun
    exact hs
  | succ n ih =>
    rw [Search.run] at hrun
    split at hrun
    · cases hrun
      exact hs
    · next hframes =>
      have hsome : s.frames ≠ [] := fun heq => hframes (List.isEmpty_iff.mpr heq)
      split at hrun
      · next u hstep => exact ih (hkeeps s u hs (hstep ▸ moves_step hsome)) hrun
      · cases hrun

/-- How far the search gets with its roots: some are left to try, and some ids have been met. -/
inductive ComesTo (g : Graph) : List NodeId → IdSet → Prop where
  | start : ComesTo g g.nodes ∅
  | skip {root : NodeId} {roots : List NodeId} {visited : IdSet}
      (hcomes : ComesTo g (root :: roots) visited) (hroot : visited.contains root = true) :
      ComesTo g roots visited
  | search {root : NodeId} {roots : List NodeId} {visited : IdSet} {last : Search}
      (hcomes : ComesTo g (root :: roots) visited) (hroot : visited.contains root = false)
      (hrun : (Search.start g visited root).run g g.searchFuel = .running last) :
      ComesTo g roots last.visited

/-- Whatever the search comes to, its answer is what the roots that are left give. -/
theorem ComesTo.detectCycle_eq {roots : List NodeId} {visited : IdSet}
    (hcomes : ComesTo g roots visited) : g.detectCycle = searchFrom g roots visited := by
  induction hcomes with
  | start => rfl
  | skip _ hroot ih => rw [ih, searchFrom, if_pos hroot]
  | search _ hroot hrun ih => rw [ih, searchFrom, if_neg (by simp [hroot]), hrun]

/-- A run below a root ends with a cycle, or without frames. -/
theorem Sound.frames_eq_nil (hg : g.Stores edges) (hs : Sound edges s) {n : Nat}
    (hfuel : s.weight g edges ≤ n) (hrun : s.run g n = .running t) : t.frames = [] := by
  have hconcludes := hs.run hg hfuel (fun _ hmet => hmet)
  rw [hrun] at hconcludes
  exact hconcludes.2.1

theorem Sound.run_running (hg : g.Stores edges) (hs : Sound edges s) {n : Nat}
    (hrun : s.run g n = .running t) : Sound edges t :=
  keeps_run (fun _ _ hsound hmoves => hmoves.sound hg hsound) hs hrun

/-- The search only comes to roots that are nodes, and it is done with everything it has met. -/
theorem ComesTo.explored (hg : g.Stores edges) {roots : List NodeId} {visited : IdSet}
    (hcomes : ComesTo g roots visited) : roots ⊆ g.nodes ∧ Explored edges visited := by
  induction hcomes with
  | start => exact ⟨List.Subset.refl _, explored_empty edges⟩
  | skip _ _ ih => exact ⟨List.subset_of_cons_subset ih.1, ih.2⟩
  | search _ hroot hrun ih =>
    obtain ⟨hroots, hexplored⟩ := ih
    have hstart := sound_start hg hexplored hroot
    have hweight := weight_start_le hg (hroots List.mem_cons_self) hroot
    exact ⟨List.subset_of_cons_subset hroots,
      (hstart.run_running hg hrun).explored (hstart.frames_eq_nil hg hweight hrun)⟩

/-- Every state below a root that the search comes to is orderly. -/
theorem ComesTo.orderly (hg : g.Stores edges) {root : NodeId} {roots : List NodeId}
    {visited : IdSet} (hcomes : ComesTo g (root :: roots) visited)
    (hroot : visited.contains root = false) {n : Nat}
    (hrun : (Search.start g visited root).run g n = .running s) : Orderly g edges s := by
  have hsound := (sound_start hg (hcomes.explored hg).2 hroot).run_running hg hrun
  have hstart : ∀ f ∈ (Search.start g visited root).frames,
      Consumed g (Search.start g visited root).visited f := by
    intro f hf
    obtain rfl := List.mem_singleton.mp hf
    exact consumed_successors g _ root
  exact hsound.orderly (keeps_run (fun _ _ hs hmoves => hmoves.consumed hs) hstart hrun)

end States

/-! ## Graphs built by additions -/

/-- Below every root that the search comes to, in a graph that was built by adding nodes and edges
in any order, each state is orderly.  A state without frames has nothing on its path and is done
with everything it has met, and a run that has not closed a cycle ends in such a state.  The
search answers what it finds from that root on. -/
theorem orderly_build (additions : List Addition) {root : NodeId} {roots : List NodeId}
    {visited : IdSet} (hcomes : ComesTo (build additions) (root :: roots) visited)
    (hroot : visited.contains root = false) :
    (∀ n s, (start (build additions) visited root).run (build additions) n = .running s →
      Orderly (build additions) (edgesAmong additions) s ∧
        (s.frames = [] → s.path = [] ∧ s.onPath.isEmpty = true ∧
          ∀ id, s.visited.contains id = true → Finished (edgesAmong additions) s id)) ∧
      (∀ s, (start (build additions) visited root).run (build additions)
        (build additions).searchFuel = .running s → s.frames = []) ∧
      (build additions).detectCycle = searchFrom (build additions) (root :: roots) visited := by
  have hstores := stores_build additions
  refine ⟨fun n s hrun => ?_, fun s hrun => ?_, hcomes.detectCycle_eq⟩
  · have horderly := hcomes.orderly hstores hroot hrun
    exact ⟨horderly, fun hframes => ⟨horderly.path_eq_nil hframes,
      horderly.isEmpty_onPath hframes, fun id hid => horderly.finished_of_visited hframes hid⟩⟩
  · obtain ⟨hroots, hexplored⟩ := hcomes.explored hstores
    exact (sound_start hstores hexplored hroot).frames_eq_nil hstores
      (weight_start_le hstores (hroots List.mem_cons_self) hroot) hrun

/-- The search that is still under way, if it is. -/
def ongoing? : Verdict → Option Search
  | .running s => some s
  | .closed _ => none

/-- Three nodes below the first root, and a cycle below the second one that also leads to the
first. -/
def twoRoots : List Addition :=
  [.edge "a" "b", .edge "b" "d", .edge "a" "d", .edge "c" "a", .edge "c" "e", .edge "e" "c"]

/-- The search comes to the second root with the three nodes met, and below it all states are
orderly. -/
theorem orderly_build_twoRoots :
    ∃ visited, ComesTo (build twoRoots) ["c", "e"] visited ∧ visited.contains "c" = false ∧
      visited.contains "a" = true ∧
      ∀ n s, (start (build twoRoots) visited "c").run (build twoRoots) n = .running s →
        Orderly (build twoRoots) (edgesAmong twoRoots) s := by
  have hnodes : (build twoRoots).nodes = ["a", "b", "d", "c", "e"] := by decide +kernel
  have hfirst : (ongoing? ((start (build twoRoots) ∅ "a").run (build twoRoots)
      (build twoRoots).searchFuel)).map (fun s => ["a", "b", "d", "c"].map s.visited.contains) =
      some [true, true, true, false] := by decide +kernel
  have hcomes : ComesTo (build twoRoots) ["a", "b", "d", "c", "e"] ∅ := hnodes ▸ .start
  cases hrun : (start (build twoRoots) ∅ "a").run (build twoRoots)
    (build twoRoots).searchFuel with
  | closed cycle =>
    rw [hrun] at hfirst
    cases hfirst
  | running s =>
    rw [hrun, ongoing?, Option.map_some] at hfirst
    simp only [List.map_cons, List.map_nil, Option.some.injEq, List.cons.injEq, and_true] at hfirst
    obtain ⟨ha, hb, hd, hc⟩ := hfirst
    have hsecond := ((hcomes.search rfl hrun).skip hb).skip hd
    exact ⟨s.visited, hsecond, hc, ha,
      fun n t ht => ((orderly_build twoRoots hsecond hc).1 n t ht).1⟩

end Search

end WorkflowEngine.Graph
