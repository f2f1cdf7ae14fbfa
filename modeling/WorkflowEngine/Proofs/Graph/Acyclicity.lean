import Mathlib.Algebra.Ring.Nat
import Mathlib.Data.List.Chain
import Mathlib.Data.List.TakeWhile
import WorkflowEngine.Graph.Cycle
import WorkflowEngine.Proofs.Graph.Reachability

/-!
# The cycle search is exact

The search keeps a path, the same path as a set, and a set of all ids it has met.
`Search.Sound` ties the three to the frames and says that an id that has been left
is settled: all its edges lead to settled ids, and it lies on no cycle.  One lemma
for each kind of step carries the invariant along, the fuel is counted, and at the
end either a closed walk has been found or every id of the graph is settled.
-/

namespace WorkflowEngine.Graph

/-- A walk along at least one edge leads from one id to another. -/
abbrev LeadsOn (edges : List (NodeId × NodeId)) : NodeId → NodeId → Prop :=
  Relation.TransGen (Joins edges)

/-- A closed walk along edges that meets no id twice before it closes. -/
structure ClosedWalk (edges : List (NodeId × NodeId)) (cycle : List NodeId) : Prop where
  nontrivial : 2 ≤ cycle.length
  closes : cycle.head? = cycle.getLast?
  joined : cycle.IsChain (Joins edges)
  simple : cycle.dropLast.Nodup

/-- A walk leads from its first id to each later one. -/
theorem leadsOn_of_isChain {edges : List (NodeId × NodeId)} {a b : NodeId} {walk : List NodeId}
    (hwalk : (a :: walk).IsChain (Joins edges)) (hb : b ∈ walk) : LeadsOn edges a b := by
  induction walk generalizing a with
  | nil => simp at hb
  | cons c walk ih =>
    rw [List.isChain_cons_cons] at hwalk
    rcases List.mem_cons.mp hb with rfl | hlater
    · exact Relation.TransGen.single hwalk.1
    · exact Relation.TransGen.head hwalk.1 (ih hwalk.2 hlater)

theorem ClosedWalk.leadsOn {edges : List (NodeId × NodeId)} {cycle : List NodeId}
    (hcycle : ClosedWalk edges cycle) : ∃ id, LeadsOn edges id id := by
  match cycle, hcycle with
  | a :: b :: rest, hcycle =>
    have hlast : a ∈ b :: rest := by
      have hcloses := hcycle.closes
      rw [List.head?_cons, List.getLast?_cons_cons] at hcloses
      exact List.mem_of_getLast? hcloses.symm
    exact ⟨a, leadsOn_of_isChain hcycle.joined hlast⟩
  | [a], hcycle => exact absurd hcycle.nontrivial (by simp)
  | [], hcycle => exact absurd hcycle.nontrivial (by simp)

namespace Search

/-! ## The invariant -/

/-- An id that the search has met and left again. -/
def Settled (s : Search) (id : NodeId) : Prop := s.visited.contains id = true ∧ id ∉ s.path

/-- Every edge of a frame is still to be looked at, or leads to a settled id or to
an id further on along the path. -/
def Accounted (edges : List (NodeId × NodeId)) (settled : NodeId → Prop) :
    List NodeId → List Frame → Prop
  | _, [] => True
  | above, f :: below =>
    (∀ next, Joins edges f.node next → next ∈ f.rest ∨ settled next ∨ next ∈ above) ∧
      Accounted edges settled (f.node :: above) below

/-- What holds at every step of a search. -/
structure Sound (edges : List (NodeId × NodeId)) (s : Search) : Prop where
  path_eq : s.path = s.frames.map (·.node)
  onPath : ∀ id, s.onPath.contains id = true ↔ id ∈ s.path
  nodup : s.path.Nodup
  path_visited : ∀ id ∈ s.path, s.visited.contains id = true
  joined : s.path.IsChain fun a b => Joins edges b a
  rest_joined : ∀ f ∈ s.frames, ∀ next ∈ f.rest, Joins edges f.node next
  accounted : Accounted edges s.Settled [] s.frames
  settled_closed : ∀ a b, s.Settled a → Joins edges a b → s.Settled b
  settled_acyclic : ∀ id, s.Settled id → ¬ LeadsOn edges id id

theorem Accounted.mono {edges : List (NodeId × NodeId)} {settled settled' : NodeId → Prop}
    {frames : List Frame} {above above' : List NodeId}
    (hframes : Accounted edges settled above frames)
    (hmono : ∀ id, settled id ∨ id ∈ above → settled' id ∨ id ∈ above')
    (hsettled : ∀ id, settled id → settled' id) :
    Accounted edges settled' above' frames := by
  induction frames generalizing above above' with
  | nil => trivial
  | cons f below ih =>
    refine ⟨?_, ?_⟩
    · intro next hnext
      rcases hframes.1 next hnext with hrest | hmet
      · exact Or.inl hrest
      · exact Or.inr (hmono next hmet)
    · apply ih hframes.2
      intro id hid
      rcases hid with hold | habove
      · exact Or.inl (hsettled id hold)
      · rcases List.mem_cons.mp habove with rfl | habove
        · exact Or.inr (by simp)
        · rcases hmono id (Or.inr habove) with hnew | hnew
          · exact Or.inl hnew
          · exact Or.inr (by simp [hnew])

/-- Settled ids only lead to settled ids. -/
theorem Sound.settled_of_leads {edges : List (NodeId × NodeId)} {s : Search}
    (hs : Sound edges s) {a b : NodeId} (ha : s.Settled a) (hwalk : Leads edges a b) :
    s.Settled b := by
  induction hwalk with
  | refl => exact ha
  | tail _ hedge ih => exact hs.settled_closed _ _ ih hedge

/-! ## Steps -/

section Step

variable {g : Graph} {edges : List (NodeId × NodeId)} {s : Search} {node next : NodeId}
  {rest : List NodeId} {below : List Frame}

/-- The state after leaving the latest node. -/
def left (s : Search) (node : NodeId) (below : List Frame) : Search :=
  ⟨below, s.path.tail, s.onPath.erase node, s.visited⟩

/-- The state after an edge to an id that was met before. -/
def passed (s : Search) (node : NodeId) (rest : List NodeId) (below : List Frame) : Search :=
  { s with frames := ⟨node, rest⟩ :: below }

/-- The state after going on to a new id. -/
def entered (g : Graph) (s : Search) (node next : NodeId) (rest : List NodeId)
    (below : List Frame) : Search :=
  ⟨⟨next, g.successors next⟩ :: ⟨node, rest⟩ :: below, next :: s.path, s.onPath.insert next,
    s.visited.insert next⟩

theorem step_left (hframes : s.frames = ⟨node, []⟩ :: below) :
    s.step g = .running (s.left node below) := by
  simp [step, hframes, left]

theorem step_closed (hframes : s.frames = ⟨node, next :: rest⟩ :: below)
    (hnext : s.onPath.contains next = true) :
    s.step g = .closed (s.cycleFrom next) := by
  simp [step, hframes, hnext]

theorem step_passed (hframes : s.frames = ⟨node, next :: rest⟩ :: below)
    (hpath : s.onPath.contains next = false) (hnext : s.visited.contains next = true) :
    s.step g = .running (s.passed node rest below) := by
  simp [step, hframes, hpath, hnext, passed]

theorem step_entered (hframes : s.frames = ⟨node, next :: rest⟩ :: below)
    (hpath : s.onPath.contains next = false) (hnext : s.visited.contains next = false) :
    s.step g = .running (s.entered g node next rest below) := by
  simp [step, hframes, hpath, hnext, entered]

/-- What a step comes to while there are frames. -/
inductive Moves (g : Graph) (s : Search) : Verdict → Prop where
  | left {node : NodeId} {below : List Frame} (hframes : s.frames = ⟨node, []⟩ :: below) :
      Moves g s (.running (s.left node below))
  | closed {node next : NodeId} {rest : List NodeId} {below : List Frame}
      (hframes : s.frames = ⟨node, next :: rest⟩ :: below)
      (hpath : s.onPath.contains next = true) :
      Moves g s (.closed (s.cycleFrom next))
  | passed {node next : NodeId} {rest : List NodeId} {below : List Frame}
      (hframes : s.frames = ⟨node, next :: rest⟩ :: below)
      (hpath : s.onPath.contains next = false) (hnext : s.visited.contains next = true) :
      Moves g s (.running (s.passed node rest below))
  | entered {node next : NodeId} {rest : List NodeId} {below : List Frame}
      (hframes : s.frames = ⟨node, next :: rest⟩ :: below)
      (hpath : s.onPath.contains next = false) (hnext : s.visited.contains next = false) :
      Moves g s (.running (s.entered g node next rest below))

theorem moves_step (hframes : s.frames ≠ []) : Moves g s (s.step g) := by
  match hs : s.frames with
  | [] => exact absurd hs hframes
  | ⟨node, []⟩ :: below =>
    rw [step_left hs]
    exact .left hs
  | ⟨node, next :: rest⟩ :: below =>
    by_cases hpath : s.onPath.contains next = true
    · rw [step_closed hs hpath]
      exact .closed hs hpath
    · rw [Bool.not_eq_true] at hpath
      by_cases hnext : s.visited.contains next = true
      · rw [step_passed hs hpath hnext]
        exact .passed hs hpath hnext
      · rw [Bool.not_eq_true] at hnext
        rw [step_entered hs hpath hnext]
        exact .entered hs hpath hnext

/-- The path begins with the latest node. -/
theorem Sound.path_cons (hs : Sound edges s) {f : Frame} (hframes : s.frames = f :: below) :
    s.path = f.node :: below.map (·.node) := by
  rw [hs.path_eq, hframes, List.map_cons]

/-- Leaving a node settles it and nothing else. -/
theorem Sound.settled_left_iff (hs : Sound edges s) (hframes : s.frames = ⟨node, []⟩ :: below)
    (id : NodeId) : (s.left node below).Settled id ↔ s.Settled id ∨ id = node := by
  have hpath : s.path = node :: below.map (·.node) := hs.path_cons hframes
  have hnodup := hs.nodup
  rw [hpath, List.nodup_cons] at hnodup
  simp only [Settled, Search.left, hpath, List.tail_cons, List.mem_cons, not_or]
  constructor
  · rintro ⟨hvisited, hnot⟩
    by_cases hid : id = node
    · exact Or.inr hid
    · exact Or.inl ⟨hvisited, hid, hnot⟩
  · rintro (⟨hvisited, -, hnot⟩ | rfl)
    · exact ⟨hvisited, hnot⟩
    · exact ⟨hs.path_visited id (by simp [hpath]), hnodup.1⟩

/-- A node is left when all its edges lead to settled ids, so it is settled itself. -/
theorem Sound.left (hs : Sound edges s) (hframes : s.frames = ⟨node, []⟩ :: below) :
    Sound edges (s.left node below) := by
  have hpath : s.path = node :: below.map (·.node) := hs.path_cons hframes
  have hnodup := hs.nodup
  rw [hpath, List.nodup_cons] at hnodup
  have haccounted := hs.accounted
  rw [hframes] at haccounted
  have hsuccessors : ∀ b, Joins edges node b → s.Settled b := by
    intro b hb
    rcases haccounted.1 b hb with hrest | hsettled | habove
    · simp at hrest
    · exact hsettled
    · simp at habove
  have hsettled := hs.settled_left_iff hframes
  constructor
  case path_eq =>
    simp [Search.left, hpath]
  case onPath =>
    intro id
    simp only [Search.left, hpath, List.tail_cons, IdSet.contains_erase, Bool.and_eq_true,
      decide_eq_true_eq, hs.onPath, List.mem_cons]
    constructor
    · rintro ⟨hne, rfl | hin⟩
      · exact absurd rfl hne
      · exact hin
    · intro hin
      refine ⟨?_, Or.inr hin⟩
      rintro rfl
      exact hnodup.1 hin
  case nodup =>
    simpa [Search.left, hpath] using hnodup.2
  case path_visited =>
    intro id hid
    exact hs.path_visited id (List.mem_of_mem_tail hid)
  case joined =>
    exact hs.joined.tail
  case rest_joined =>
    intro f hf
    exact hs.rest_joined f (by simp only [hframes]; exact List.mem_cons_of_mem _ hf)
  case accounted =>
    apply haccounted.2.mono
    · intro id hid
      rcases hid with hold | habove
      · exact Or.inl ((hsettled id).mpr (Or.inl hold))
      · exact Or.inl ((hsettled id).mpr (Or.inr (by simpa using habove)))
    · intro id hid
      exact (hsettled id).mpr (Or.inl hid)
  case settled_closed =>
    intro a b ha hab
    rw [hsettled]
    rcases (hsettled a).mp ha with hold | rfl
    · exact Or.inl (hs.settled_closed a b hold hab)
    · exact Or.inl (hsuccessors b hab)
  case settled_acyclic =>
    intro id hid hcycle
    rcases (hsettled id).mp hid with hold | rfl
    · exact hs.settled_acyclic id hold hcycle
    · -- A cycle through the node would have to come back from a settled id.
      obtain ⟨b, hfirst, hback⟩ := Relation.TransGen.head'_iff.mp hcycle
      have hnode := hs.settled_of_leads (hsuccessors b hfirst) hback
      exact hnode.2 (by simp [hpath])

/-- An edge to a settled id changes nothing but the frame. -/
theorem Sound.passed (hs : Sound edges s) (hframes : s.frames = ⟨node, next :: rest⟩ :: below)
    (hpath : s.onPath.contains next = false) (hnext : s.visited.contains next = true) :
    Sound edges (s.passed node rest below) := by
  have hnextSettled : s.Settled next := by
    refine ⟨hnext, ?_⟩
    intro hin
    rw [(hs.onPath next).mpr hin] at hpath
    contradiction
  have haccounted := hs.accounted
  rw [hframes] at haccounted
  constructor
  case path_eq =>
    simpa [Search.passed] using hs.path_cons hframes
  case onPath =>
    exact hs.onPath
  case nodup =>
    exact hs.nodup
  case path_visited =>
    exact hs.path_visited
  case joined =>
    exact hs.joined
  case rest_joined =>
    intro f hf
    rcases List.mem_cons.mp hf with rfl | hbelow
    · intro other hother
      exact hs.rest_joined ⟨node, next :: rest⟩ (by simp [hframes]) other (by simp [hother])
    · exact hs.rest_joined f (by simp [hframes, hbelow])
  case accounted =>
    refine ⟨?_, haccounted.2⟩
    intro other hother
    rcases haccounted.1 other hother with hrest | hmet
    · rcases List.mem_cons.mp hrest with rfl | hrest
      · exact Or.inr (Or.inl hnextSettled)
      · exact Or.inl hrest
    · exact Or.inr hmet
  case settled_closed =>
    exact hs.settled_closed
  case settled_acyclic =>
    exact hs.settled_acyclic

/-- Going on to a new id settles nothing. -/
theorem settled_entered_iff (hnext : s.visited.contains next = false) (id : NodeId) :
    (s.entered g node next rest below).Settled id ↔ s.Settled id := by
  simp only [Settled, Search.entered, IdSet.contains_insert, Bool.or_eq_true,
    decide_eq_true_eq, List.mem_cons, not_or]
  constructor
  · rintro ⟨rfl | hvisited, hne, hnot⟩
    · exact absurd rfl hne
    · exact ⟨hvisited, hnot⟩
  · rintro ⟨hvisited, hnot⟩
    refine ⟨Or.inr hvisited, ?_, hnot⟩
    rintro rfl
    rw [hvisited] at hnext
    contradiction

/-- The edges of a new frame are still to be looked at, and the one that led to it is
accounted for by the path. -/
theorem Sound.accounted_entered (hg : g.Stores edges) (hs : Sound edges s)
    (hframes : s.frames = ⟨node, next :: rest⟩ :: below)
    (hnext : s.visited.contains next = false) :
    Accounted edges (s.entered g node next rest below).Settled []
      (s.entered g node next rest below).frames := by
  have haccounted := hs.accounted
  rw [hframes] at haccounted
  have hmono : ∀ id, s.Settled id → (s.entered g node next rest below).Settled id :=
    fun id hid => (settled_entered_iff hnext id).mpr hid
  refine ⟨?_, ?_, ?_⟩
  · intro other hother
    rw [hg.successors]
    exact Or.inl (mem_targetsOf.mpr hother)
  · intro other hother
    rcases haccounted.1 other hother with hrest | hold | habove
    · rcases List.mem_cons.mp hrest with rfl | hrest
      · exact Or.inr (Or.inr (by simp))
      · exact Or.inl hrest
    · exact Or.inr (Or.inl (hmono other hold))
    · simp at habove
  · apply haccounted.2.mono _ hmono
    intro id hid
    rcases hid with hold | habove
    · exact Or.inl (hmono id hold)
    · exact Or.inr (by simpa using Or.inl habove)

/-- A search stays sound when it goes on to a new id. -/
theorem Sound.entered (hg : g.Stores edges) (hs : Sound edges s)
    (hframes : s.frames = ⟨node, next :: rest⟩ :: below)
    (hpath : s.onPath.contains next = false) (hnext : s.visited.contains next = false) :
    Sound edges (s.entered g node next rest below) := by
  have hnotOn : next ∉ s.path := by
    intro hin
    rw [(hs.onPath next).mpr hin] at hpath
    contradiction
  have hedge : Joins edges node next :=
    hs.rest_joined ⟨node, next :: rest⟩ (by simp [hframes]) next (by simp)
  have hpathCons : s.path = node :: below.map (·.node) := hs.path_cons hframes
  constructor
  case path_eq =>
    simp [Search.entered, hpathCons]
  case onPath =>
    intro id
    simp only [Search.entered, IdSet.contains_insert, Bool.or_eq_true, decide_eq_true_eq,
      hs.onPath, List.mem_cons]
    constructor
    · rintro (rfl | hin)
      · exact Or.inl rfl
      · exact Or.inr hin
    · rintro (rfl | hin)
      · exact Or.inl rfl
      · exact Or.inr hin
  case nodup =>
    exact List.nodup_cons.mpr ⟨hnotOn, hs.nodup⟩
  case path_visited =>
    intro id hid
    simp only [Search.entered, IdSet.contains_insert, Bool.or_eq_true, decide_eq_true_eq]
    rcases List.mem_cons.mp hid with rfl | hin
    · exact Or.inl rfl
    · exact Or.inr (hs.path_visited id hin)
  case joined =>
    have hjoined := hs.joined
    simp only [Search.entered]
    rw [hpathCons] at hjoined ⊢
    exact List.isChain_cons_cons.mpr ⟨hedge, hjoined⟩
  case rest_joined =>
    intro f hf
    rcases List.mem_cons.mp hf with rfl | hf
    · intro other hother
      simp only [hg.successors] at hother
      exact mem_targetsOf.mp hother
    · rcases List.mem_cons.mp hf with rfl | hbelow
      · intro other hother
        exact hs.rest_joined ⟨node, next :: rest⟩ (by simp [hframes]) other (by simp [hother])
      · exact hs.rest_joined f (by simp [hframes, hbelow])
  case accounted =>
    exact hs.accounted_entered hg hframes hnext
  case settled_closed =>
    intro a b ha hab
    rw [settled_entered_iff hnext] at ha ⊢
    exact hs.settled_closed a b ha hab
  case settled_acyclic =>
    intro id hid
    exact hs.settled_acyclic id ((settled_entered_iff hnext id).mp hid)

/-- An edge back to the path closes a walk. -/
theorem Sound.closedWalk (hs : Sound edges s)
    (hframes : s.frames = ⟨node, next :: rest⟩ :: below)
    (hnext : s.onPath.contains next = true) :
    ClosedWalk edges (s.cycleFrom next) := by
  have hin : next ∈ s.path.reverse := by simpa using (hs.onPath next).mp hnext
  have hedge : Joins edges node next :=
    hs.rest_joined ⟨node, next :: rest⟩ (by simp [hframes]) next (by simp)
  -- The part of the path from the id on is a suffix that begins with it.
  obtain ⟨after, hafter⟩ : ∃ after, s.path.reverse.dropWhile (· ≠ next) = next :: after := by
    cases hdrop : s.path.reverse.dropWhile (· ≠ next) with
    | nil =>
      have hall := List.dropWhile_eq_nil_iff.mp hdrop next hin
      simp at hall
    | cons first after =>
      have hfirst := List.head?_dropWhile_not (· ≠ next) s.path.reverse
      rw [hdrop] at hfirst
      simp at hfirst
      exact ⟨after, by rw [hfirst]⟩
  have hsuffix : (next :: after) <:+ s.path.reverse := by
    rw [← hafter]
    exact List.dropWhile_suffix _
  have hlast : (next :: after).getLast? = some node := by
    obtain ⟨before, hbefore⟩ := hsuffix
    have hreverse : (s.path.reverse).getLast? = some node := by
      rw [hs.path_cons hframes]
      simp
    rw [← hbefore, List.getLast?_append] at hreverse
    simpa using hreverse
  have hchain : s.path.reverse.IsChain (Joins edges) := List.isChain_reverse.mpr hs.joined
  unfold cycleFrom
  rw [hafter]
  constructor
  · simp
  · rw [List.getLast?_append]
    simp
  · apply List.isChain_append.mpr
    refine ⟨hchain.suffix hsuffix, List.isChain_singleton _, ?_⟩
    intro a ha b hb
    rw [hlast] at ha
    simp only [Option.mem_some_iff, List.head?_cons] at ha hb
    rw [← ha, ← hb]
    exact hedge
  · rw [List.dropLast_concat]
    exact (List.nodup_reverse.mpr hs.nodup).sublist hsuffix.sublist

end Step

/-! ## Runs -/

section Run

variable {g : Graph} {edges : List (NodeId × NodeId)}

/-- How many nodes of a graph lie outside of a set. -/
def unmet (g : Graph) (seen : IdSet) : Nat := (g.nodes.filter fun id => !seen.contains id).length

/-- Meeting a node of the graph leaves fewer unmet. -/
theorem unmet_insert_lt {seen : IdSet} {id : NodeId} (hid : id ∈ g.nodes)
    (hseen : seen.contains id = false) : unmet g (seen.insert id) < unmet g seen := by
  have hfilter : (g.nodes.filter fun other => !(seen.insert id).contains other) =
      (g.nodes.filter fun other => !seen.contains other).filter (fun other => other ≠ id) := by
    rw [List.filter_filter]
    apply List.filter_congr
    intro other _
    rw [IdSet.contains_insert]
    by_cases hother : id = other
    · simp [hother]
    · have hother' : ¬ other = id := fun h => hother h.symm
      simp [hother, hother']
  rw [unmet, unmet, hfilter, List.length_filter_lt_length_iff_exists]
  exact ⟨id, by simp [hid, hseen], by simp⟩

/-- How many steps are left at most. -/
def weight (g : Graph) (edges : List (NodeId × NodeId)) (s : Search) : Nat :=
  (s.frames.map fun f => f.rest.length + 1).sum + openEdges edges s.visited + unmet g s.visited

theorem Moves.sound (hg : g.Stores edges) {s t : Search} (hmoves : Moves g s (.running t))
    (hs : Sound edges s) : Sound edges t := by
  cases hmoves with
  | left hframes => exact hs.left hframes
  | passed hframes hpath hnext => exact hs.passed hframes hpath hnext
  | entered hframes hpath hnext => exact hs.entered hg hframes hpath hnext

/-- No move forgets an id that has been met. -/
theorem Moves.visited {s t : Search} (hmoves : Moves g s (.running t)) {id : NodeId}
    (hid : s.visited.contains id = true) : t.visited.contains id = true := by
  cases hmoves with
  | left _ => exact hid
  | passed _ _ _ => exact hid
  | entered _ _ _ => simp only [Search.entered, IdSet.contains_insert, hid, Bool.or_true]

/-- Every move uses up some weight. -/
theorem Moves.weight_lt (hg : g.Stores edges) {s t : Search} (hmoves : Moves g s (.running t))
    (hs : Sound edges s) : t.weight g edges < s.weight g edges := by
  cases hmoves with
  | left hframes =>
    simp only [weight, hframes, Search.left, List.map_cons, List.sum_cons, List.length_nil]
    omega
  | passed hframes _ _ =>
    simp only [weight, hframes, Search.passed, List.map_cons, List.sum_cons, List.length_cons]
    omega
  | @entered node next rest below hframes _ hnext =>
    have hedge : Joins edges node next :=
      hs.rest_joined ⟨node, next :: rest⟩ (by simp [hframes]) next (by simp)
    have hin : next ∈ g.nodes := (hg.ends _ hedge).2
    have hopen := openEdges_eq_add_insert edges hnext
    have hunmet := unmet_insert_lt hin hnext
    simp only [weight, hframes, Search.entered, List.map_cons, List.sum_cons, List.length_cons,
      hg.successors]
    omega

/-- What a search comes to: it has closed a walk, or it has left its path and still
knows every id it met before. -/
def Concludes (edges : List (NodeId × NodeId)) (met : NodeId → Prop) : Verdict → Prop
  | .closed cycle => ClosedWalk edges cycle
  | .running s =>
    Sound edges s ∧ s.frames = [] ∧ ∀ id, met id → s.visited.contains id = true

/-- A run with enough fuel comes to a conclusion. -/
theorem Sound.run (hg : g.Stores edges) {s : Search} (hs : Sound edges s) {fuel : Nat}
    (hfuel : s.weight g edges ≤ fuel) {met : NodeId → Prop}
    (hmet : ∀ id, met id → s.visited.contains id = true) :
    Concludes edges met (s.run g fuel) := by
  induction fuel generalizing s with
  | zero =>
    have hempty : s.frames = [] := by
      cases hframes : s.frames with
      | nil => rfl
      | cons f below =>
        simp only [weight, hframes, List.map_cons, List.sum_cons] at hfuel
        omega
    exact ⟨hs, hempty, hmet⟩
  | succ fuel ih =>
    rw [Search.run]
    by_cases hframes : s.frames = []
    · rw [if_pos (List.isEmpty_iff.mpr hframes)]
      exact ⟨hs, hframes, hmet⟩
    · rw [if_neg (by simpa using hframes)]
      have hmoves := moves_step (g := g) hframes
      generalize s.step g = verdict at hmoves
      cases verdict with
      | closed cycle =>
        cases hmoves with
        | closed hclosed hpath => exact hs.closedWalk hclosed hpath
      | running t =>
        have hlt := hmoves.weight_lt hg hs
        exact ih (hmoves.sound hg hs) (by omega) fun id hid => hmoves.visited (hmet id hid)

/-- Everything met by the searches from earlier roots is settled. -/
structure Explored (edges : List (NodeId × NodeId)) (visited : IdSet) : Prop where
  closed : ∀ a b, visited.contains a = true → Joins edges a b → visited.contains b = true
  acyclic : ∀ id, visited.contains id = true → ¬ LeadsOn edges id id

theorem explored_empty (edges : List (NodeId × NodeId)) : Explored edges ∅ where
  closed a b ha := by simp at ha
  acyclic id hid := by simp at hid

/-- A search that has left its path has explored everything it met. -/
theorem Sound.explored {s : Search} (hs : Sound edges s) (hframes : s.frames = []) :
    Explored edges s.visited := by
  have hpath : s.path = [] := by rw [hs.path_eq, hframes, List.map_nil]
  have hsettled : ∀ id, s.visited.contains id = true → s.Settled id :=
    fun id hid => ⟨hid, by simp [hpath]⟩
  constructor
  · intro a b ha hab
    exact (hs.settled_closed a b (hsettled a ha) hab).1
  · intro id hid
    exact hs.settled_acyclic id (hsettled id hid)

/-- A search begins with its root on the path and everything before it settled. -/
theorem sound_start (hg : g.Stores edges) {visited : IdSet} (hvisited : Explored edges visited)
    {root : NodeId} (hroot : visited.contains root = false) :
    Sound edges (start g visited root) := by
  have hsettled : ∀ id, (start g visited root).Settled id ↔ visited.contains id = true := by
    intro id
    simp only [Settled, start, IdSet.contains_insert, Bool.or_eq_true, decide_eq_true_eq,
      List.mem_singleton]
    constructor
    · rintro ⟨rfl | hid, hne⟩
      · exact absurd rfl hne
      · exact hid
    · intro hid
      refine ⟨Or.inr hid, ?_⟩
      rintro rfl
      rw [hid] at hroot
      contradiction
  constructor
  case path_eq =>
    rfl
  case onPath =>
    intro id
    simp only [start, IdSet.contains_insert, Bool.or_eq_true, decide_eq_true_eq,
      List.mem_singleton]
    constructor
    · rintro (rfl | hid)
      · rfl
      · simp at hid
    · rintro rfl
      exact Or.inl rfl
  case nodup =>
    exact List.nodup_singleton root
  case path_visited =>
    intro id hid
    rw [List.mem_singleton.mp hid]
    simp [start]
  case joined =>
    exact List.isChain_singleton root
  case rest_joined =>
    intro f hf other hother
    rw [List.mem_singleton.mp hf] at hother ⊢
    simp only [hg.successors] at hother
    exact mem_targetsOf.mp hother
  case accounted =>
    refine ⟨?_, trivial⟩
    intro other hother
    rw [hg.successors]
    exact Or.inl (mem_targetsOf.mpr hother)
  case settled_closed =>
    intro a b ha hab
    rw [hsettled] at ha ⊢
    exact hvisited.closed a b ha hab
  case settled_acyclic =>
    intro id hid
    exact hvisited.acyclic id ((hsettled id).mp hid)

/-- The fuel for one root is enough. -/
theorem weight_start_le (hg : g.Stores edges) {visited : IdSet} {root : NodeId}
    (hin : root ∈ g.nodes) (hroot : visited.contains root = false) :
    (start g visited root).weight g edges ≤ g.searchFuel := by
  have hopen := openEdges_eq_add_insert edges hroot
  have hunmet := unmet_insert_lt (g := g) hin hroot
  have hedges : openEdges edges visited ≤ edges.length := List.length_filter_le _ _
  have hnodes : unmet g visited ≤ g.nodeCount := by
    simpa [unmet, nodes, nodeCount] using
      List.length_filter_le (fun id => !visited.contains id) g.nodes
  simp only [weight, start, searchFuel, hg.edgeCount, hg.successors, List.map_cons, List.map_nil,
    List.sum_cons, List.sum_nil]
  omega

/-- What may be answered when some roots are searched from and some ids have been met: a closed
walk, or that none of these ids lies on a cycle. -/
def Answers (edges : List (NodeId × NodeId)) (roots : List NodeId) (visited : IdSet) :
    Option (List NodeId) → Prop
  | some cycle => ClosedWalk edges cycle
  | none => ∀ id, id ∈ roots ∨ visited.contains id = true → ¬ LeadsOn edges id id

/-- A root that has been met, and with it all ids met before, need not be searched from. -/
theorem Answers.cons {roots : List NodeId} {root : NodeId} {before visited : IdSet}
    {answer : Option (List NodeId)} (h : Answers edges roots visited answer)
    (hmet : ∀ id, (id = root ∨ before.contains id = true) → visited.contains id = true) :
    Answers edges (root :: roots) before answer := by
  cases answer with
  | some cycle => exact h
  | none =>
    intro id hid
    apply h id
    rcases hid with hid | hid
    · rcases List.mem_cons.mp hid with rfl | hid
      · exact Or.inr (hmet id (Or.inl rfl))
      · exact Or.inl hid
    · exact Or.inr (hmet id (Or.inr hid))

theorem answers_searchFrom (hg : g.Stores edges) {roots : List NodeId}
    (hroots : ∀ id ∈ roots, id ∈ g.nodes) {visited : IdSet} (hvisited : Explored edges visited) :
    Answers edges roots visited (searchFrom g roots visited) := by
  induction roots generalizing visited with
  | nil =>
    intro id hid
    exact hvisited.acyclic id (by simpa using hid)
  | cons root roots ih =>
    have hrest : ∀ id ∈ roots, id ∈ g.nodes := fun id hid => hroots id (by simp [hid])
    rw [searchFrom]
    by_cases hroot : visited.contains root = true
    · rw [if_pos hroot]
      refine (ih hrest hvisited).cons ?_
      rintro id (rfl | hid)
      · exact hroot
      · exact hid
    · rw [if_neg hroot]
      rw [Bool.not_eq_true] at hroot
      have hmet : ∀ id, (id = root ∨ visited.contains id = true) →
          (start g visited root).visited.contains id = true := by
        rintro id (rfl | hid)
        · simp [start]
        · simp [start, hid]
      have hrun := (sound_start hg hvisited hroot).run hg
        (weight_start_le hg (hroots root (by simp)) hroot) hmet
      cases hverdict : (start g visited root).run g g.searchFuel with
      | closed cycle =>
        rw [hverdict] at hrun
        exact hrun
      | running s =>
        rw [hverdict] at hrun
        obtain ⟨hs, hframes, hmet⟩ := hrun
        exact (ih hrest (hs.explored hframes)).cons hmet

end Run

end Search

/-! ## The search as a whole -/

section Stored

variable {g : Graph} {edges : List (NodeId × NodeId)}

theorem Stores.answers_detectCycle (hg : g.Stores edges) :
    Search.Answers edges g.nodes ∅ g.detectCycle :=
  Search.answers_searchFrom hg (List.Subset.refl g.nodes) (Search.explored_empty edges)

/-- What the search answers is a closed walk. -/
theorem Stores.closedWalk_of_detectCycle (hg : g.Stores edges) {cycle : List NodeId}
    (hcycle : g.detectCycle = some cycle) : ClosedWalk edges cycle := by
  have hanswers := hg.answers_detectCycle
  rw [hcycle] at hanswers
  exact hanswers

/-- The search answers nothing exactly if no id lies on a cycle. -/
theorem Stores.detectCycle_eq_none_iff (hg : g.Stores edges) :
    g.detectCycle = none ↔ ¬ ∃ id, LeadsOn edges id id := by
  constructor
  · rintro hnone ⟨id, hid⟩
    have hanswers := hg.answers_detectCycle
    rw [hnone] at hanswers
    -- An id on a cycle is the source of an edge, hence a node of the graph.
    obtain ⟨next, hedge, -⟩ := Relation.TransGen.head'_iff.mp hid
    exact hanswers id (Or.inl (hg.ends _ hedge).1) hid
  · intro hacyclic
    cases hcycle : g.detectCycle with
    | none => rfl
    | some cycle => exact absurd (hg.closedWalk_of_detectCycle hcycle).leadsOn hacyclic

end Stored

/-- In a graph that was built by adding nodes and edges in any order, the search answers
nothing exactly if no node has a walk of one or more edges back to itself, and whatever it
answers is a closed walk along the added edges that meets no id twice before it closes. -/
theorem detectCycle_build (additions : List Addition) :
    ((build additions).detectCycle = none ↔
        ∀ id ∈ (build additions).nodes, ¬ LeadsOn (edgesAmong additions) id id) ∧
      ∀ cycle, (build additions).detectCycle = some cycle →
        ClosedWalk (edgesAmong additions) cycle := by
  have hstores := stores_build additions
  refine ⟨?_, fun cycle hcycle => hstores.closedWalk_of_detectCycle hcycle⟩
  rw [hstores.detectCycle_eq_none_iff, not_exists]
  constructor
  · intro hacyclic id _
    exact hacyclic id
  · intro hacyclic id hwalk
    -- The first edge of a walk leaves a node of the graph.
    obtain ⟨next, hedge, -⟩ := Relation.TransGen.head'_iff.mp hwalk
    exact hacyclic id (hstores.ends _ hedge).1 hwalk

end WorkflowEngine.Graph
