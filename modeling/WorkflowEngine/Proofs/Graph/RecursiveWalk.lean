import WorkflowEngine.Graph.Traversal
import WorkflowEngine.Proofs.Graph.Reachability

/-!
# The walk as a recursion

A walk with a list of pending ids visits what the recursion visits that emits an id
and then descends into its successors one after the other, all descents sharing what
has been emitted.  The list may hold ids twice, and ids that have been visited since
they were put there; the recursion skips both, so they make no difference.
-/

namespace WorkflowEngine.Graph

/-! ## The recursion -/

/-- How many ids of a scope have not been emitted. -/
def remaining (scope seen : List NodeId) : Nat := (scope.filter (· ∉ seen)).length

theorem remaining_le {scope seen seen' : List NodeId} (hseen : seen ⊆ seen') :
    remaining scope seen' ≤ remaining scope seen := by
  apply List.Sublist.length_le
  apply List.monotone_filter_right
  intro id hid
  simp only [decide_eq_true_eq] at hid ⊢
  exact fun h => hid (hseen h)

theorem remaining_lt {scope seen seen' : List NodeId} {id : NodeId} (hscope : id ∈ scope)
    (hid : id ∉ seen) (hseen : seen ++ [id] ⊆ seen') :
    remaining scope seen' < remaining scope seen := by
  have hlt : remaining scope (seen ++ [id]) < remaining scope seen := by
    have hfilter : scope.filter (· ∉ seen ++ [id]) =
        (scope.filter (· ∉ seen)).filter (· ≠ id) := by
      rw [List.filter_filter]
      apply List.filter_congr
      intro other _
      simp [and_comm]
    rw [remaining, remaining, hfilter, List.length_filter_lt_length_iff_exists]
    exact ⟨id, by simp [hscope, hid], by simp⟩
  exact Nat.lt_of_le_of_lt (remaining_le hseen) hlt

/-- Walk recursively through some ids: an id of the scope that has not been emitted is
emitted, the walk descends into what comes next to it, and then it goes on with the
others.  All other ids are skipped.  Nothing emitted is ever lost, which the type says
because the recursion relies on it. -/
def descend (next : NodeId → List NodeId) (scope seen : List NodeId) :
    List NodeId → { out : List NodeId // seen ⊆ out }
  | [] => ⟨seen, fun _ hin => hin⟩
  | id :: rest =>
    if _hid : id ∈ scope ∧ id ∉ seen then
      let inner := descend next scope (seen ++ [id]) (next id)
      let outer := descend next scope inner.1 rest
      ⟨outer.1, fun _ hin => outer.2 (inner.2 (List.mem_append_left _ hin))⟩
    else descend next scope seen rest
termination_by todo => (remaining scope seen, todo.length)
decreasing_by
  · exact Prod.Lex.left _ _ (remaining_lt _hid.1 _hid.2 (fun _ hin => hin))
  · exact Prod.Lex.left _ _ (remaining_lt _hid.1 _hid.2 inner.2)
  · exact Prod.Lex.right _ (by simp)

/-- The ids emitted after walking through some ids, those emitted before included. -/
def emit (next : NodeId → List NodeId) (scope seen todo : List NodeId) : List NodeId :=
  (descend next scope seen todo).1

/-- The ids emitted by walking from a root. -/
def recursiveWalk (next : NodeId → List NodeId) (scope : List NodeId) (root : NodeId) :
    List NodeId :=
  emit next scope [] [root]

section Equations

variable {next : NodeId → List NodeId} {scope seen rest : List NodeId} {id : NodeId}

theorem subset_emit (next : NodeId → List NodeId) (scope seen todo : List NodeId) :
    seen ⊆ emit next scope seen todo :=
  (descend next scope seen todo).2

@[simp] theorem emit_nil : emit next scope seen [] = seen := by
  rw [emit, descend]

theorem emit_cons_new (hscope : id ∈ scope) (hid : id ∉ seen) :
    emit next scope seen (id :: rest) =
      emit next scope (emit next scope (seen ++ [id]) (next id)) rest := by
  rw [emit, descend, dif_pos ⟨hscope, hid⟩]
  rfl

theorem emit_cons_skip (hid : ¬ (id ∈ scope ∧ id ∉ seen)) :
    emit next scope seen (id :: rest) = emit next scope seen rest := by
  rw [emit, descend, dif_neg hid]
  rfl

end Equations

section Properties

variable {next : NodeId → List NodeId} {scope : List NodeId}

/-- Walking through two lists is walking through the first and then the second. -/
theorem emit_append (seen xs ys : List NodeId) :
    emit next scope seen (xs ++ ys) = emit next scope (emit next scope seen xs) ys := by
  induction xs generalizing seen with
  | nil => simp
  | cons id xs ih =>
    by_cases hid : id ∈ scope ∧ id ∉ seen
    · rw [List.cons_append, emit_cons_new hid.1 hid.2, emit_cons_new hid.1 hid.2, ih]
    · rw [List.cons_append, emit_cons_skip hid, emit_cons_skip hid, ih]

/-- Ids that would be skipped anyway may be left out. -/
theorem emit_filter {keep : NodeId → Bool} (seen todo : List NodeId)
    (hkeep : ∀ id, keep id = false → id ∈ seen ∨ id ∉ scope) :
    emit next scope seen (todo.filter keep) = emit next scope seen todo := by
  induction todo generalizing seen with
  | nil => simp
  | cons id todo ih =>
    cases hid : keep id with
    | true =>
      rw [List.filter_cons_of_pos hid]
      by_cases hnew : id ∈ scope ∧ id ∉ seen
      · rw [emit_cons_new hnew.1 hnew.2, emit_cons_new hnew.1 hnew.2, ih]
        intro other hother
        rcases hkeep other hother with hin | hout
        · exact Or.inl (subset_emit _ _ _ _ (List.mem_append_left _ hin))
        · exact Or.inr hout
      · rw [emit_cons_skip hnew, emit_cons_skip hnew, ih seen hkeep]
    | false =>
      rw [List.filter_cons_of_neg (by simp [hid]), ih seen hkeep]
      have hskip : ¬ (id ∈ scope ∧ id ∉ seen) := by
        rintro ⟨hscope, hnot⟩
        rcases hkeep id hid with hin | hout
        · exact hnot hin
        · exact hout hscope
      rw [emit_cons_skip hskip]

/-- What comes next to an id may be replaced by a list that is walked through alike. -/
theorem emit_congr {next' : NodeId → List NodeId}
    (hnext : ∀ id ∈ scope, ∀ seen,
      emit next' scope seen (next id) = emit next' scope seen (next' id))
    (seen todo : List NodeId) : emit next scope seen todo = emit next' scope seen todo := by
  induction seen, todo using descend.induct next scope with
  | case1 seen => simp
  | case2 seen id rest hid _ ihInner ihOuter =>
    rw [emit_cons_new hid.1 hid.2, emit_cons_new hid.1 hid.2, ← hnext id hid.1, ← ihInner]
    exact ihOuter
  | case3 seen id rest hid ih => rw [emit_cons_skip hid, emit_cons_skip hid, ih]

/-- Only the order of the ids of the scope counts in what comes next. -/
theorem emit_congr_next {next' : NodeId → List NodeId}
    (hnext : ∀ id ∈ scope, (next id).filter (· ∈ scope) = (next' id).filter (· ∈ scope))
    (seen todo : List NodeId) : emit next scope seen todo = emit next' scope seen todo := by
  apply emit_congr
  intro id hid seen'
  have hscope : ∀ other, decide (other ∈ scope) = false → other ∈ seen' ∨ other ∉ scope := by
    intro other hother
    exact Or.inr (by simpa using hother)
  rw [← emit_filter seen' (next id) hscope, hnext id hid, emit_filter seen' (next' id) hscope]

/-- Repetitions among the ids to walk through make no difference. -/
theorem emit_eraseDups (seen todo : List NodeId) :
    emit next scope seen todo.eraseDups = emit next scope seen todo := by
  match todo with
  | [] => rfl
  | id :: rest =>
    have hshorter : (rest.filter fun other => !other == id).length < (id :: rest).length :=
      Nat.lt_succ_of_le (List.length_filter_le _ rest)
    -- Once the id has been dealt with, its repetitions are skipped.
    have hrest : ∀ seen', id ∈ seen' ∨ id ∉ scope →
        emit next scope seen' (rest.filter fun other => !other == id).eraseDups =
          emit next scope seen' rest := by
      intro seen' hid
      rw [emit_eraseDups seen', emit_filter]
      intro other hother
      have hsame : other = id := by simpa using hother
      rwa [hsame]
    rw [List.eraseDups_cons]
    by_cases hid : id ∈ scope ∧ id ∉ seen
    · rw [emit_cons_new hid.1 hid.2, emit_cons_new hid.1 hid.2]
      exact hrest _ (Or.inl (subset_emit _ _ _ _ (by simp)))
    · rw [emit_cons_skip hid, emit_cons_skip hid]
      apply hrest
      tauto
termination_by todo.length
decreasing_by exact hshorter

/-- Only ids of the scope are emitted. -/
theorem mem_scope_of_mem_emit {seen todo : List NodeId} {id : NodeId}
    (hid : id ∈ emit next scope seen todo) : id ∈ seen ∨ id ∈ scope := by
  induction seen, todo using descend.induct next scope with
  | case1 seen => exact Or.inl (by simpa using hid)
  | case2 seen other rest hother _ ihInner ihOuter =>
    rw [emit_cons_new hother.1 hother.2] at hid
    rcases ihOuter hid with hin | hscope
    · rcases ihInner hin with hin | hscope
      · rcases List.mem_append.mp hin with hin | hlast
        · exact Or.inl hin
        · rw [List.mem_singleton.mp hlast]
          exact Or.inr hother.1
      · exact Or.inr hscope
    · exact Or.inr hscope
  | case3 seen other rest hother ih =>
    rw [emit_cons_skip hother] at hid
    exact ih hid

/-- No id is emitted twice. -/
theorem nodup_emit {seen todo : List NodeId} (hseen : seen.Nodup) :
    (emit next scope seen todo).Nodup := by
  induction seen, todo using descend.induct next scope with
  | case1 seen => simpa using hseen
  | case2 seen id rest hid _ ihInner ihOuter =>
    rw [emit_cons_new hid.1 hid.2]
    apply ihOuter
    apply ihInner
    exact List.Nodup.append hseen (List.nodup_singleton id) (by simpa using hid.2)
  | case3 seen id rest hid ih =>
    rw [emit_cons_skip hid]
    exact ih hseen

end Properties

/-! ## What the recursion reaches -/

/-- The recursion goes on from one id to another if that comes next and lies in the scope. -/
def GoesOn (next : NodeId → List NodeId) (scope : List NodeId) (a b : NodeId) : Prop :=
  b ∈ next a ∧ b ∈ scope

section Reached

variable {next : NodeId → List NodeId} {scope : List NodeId}

/-- The ids walked through are emitted, and so is whatever comes next to a new one. -/
theorem emit_complete (seen todo : List NodeId) :
    (∀ id ∈ todo, id ∈ scope → id ∈ emit next scope seen todo) ∧
      ∀ a ∈ emit next scope seen todo, a ∉ seen →
        ∀ b, GoesOn next scope a b → b ∈ emit next scope seen todo := by
  induction seen, todo using descend.induct next scope with
  | case1 seen =>
    rw [emit_nil]
    exact ⟨by simp, fun a ha hnew => absurd ha hnew⟩
  | case2 seen id rest hid _ ihInner ihOuter =>
    rw [emit_cons_new hid.1 hid.2]
    -- What was emitted below the id is kept by the walk through the rest.
    have hkept := subset_emit next scope (emit next scope (seen ++ [id]) (next id)) rest
    have hemitted : id ∈ emit next scope (seen ++ [id]) (next id) :=
      subset_emit _ _ _ _ (by simp)
    refine ⟨?_, ?_⟩
    · intro other hother hscope
      rcases List.mem_cons.mp hother with rfl | hrest
      · exact hkept hemitted
      · exact ihOuter.1 other hrest hscope
    · intro a ha hnew b hb
      by_cases hinner : a ∈ emit next scope (seen ++ [id]) (next id)
      · apply hkept
        by_cases hself : a = id
        · rw [hself] at hb
          exact ihInner.1 b hb.1 hb.2
        · exact ihInner.2 a hinner (by simp [hnew, hself]) b hb
      · exact ihOuter.2 a ha hinner b hb
  | case3 seen id rest hid ih =>
    rw [emit_cons_skip hid]
    refine ⟨?_, ih.2⟩
    intro other hother hscope
    rcases List.mem_cons.mp hother with rfl | hrest
    · have hseen : other ∈ seen := by
        by_contra hnot
        exact hid ⟨hscope, hnot⟩
      exact subset_emit _ _ _ _ hseen
    · exact ih.1 other hrest hscope

/-- Whatever is emitted was emitted before, or the recursion goes on to it from one of the
ids walked through. -/
theorem reached_of_mem_emit {seen todo : List NodeId} {id : NodeId}
    (hid : id ∈ emit next scope seen todo) :
    id ∈ seen ∨ ∃ root ∈ todo, root ∈ scope ∧
      Relation.ReflTransGen (GoesOn next scope) root id := by
  induction seen, todo using descend.induct next scope with
  | case1 seen =>
    rw [emit_nil] at hid
    exact Or.inl hid
  | case2 seen first rest hfirst _ ihInner ihOuter =>
    rw [emit_cons_new hfirst.1 hfirst.2] at hid
    rcases ihOuter hid with hinner | ⟨root, hroot, hscope, hwalk⟩
    · rcases ihInner hinner with hseen | ⟨root, hroot, hscope, hwalk⟩
      · rcases List.mem_append.mp hseen with hseen | hlast
        · exact Or.inl hseen
        · rw [List.mem_singleton.mp hlast]
          exact Or.inr ⟨first, by simp, hfirst.1, Relation.ReflTransGen.refl⟩
      · have hedge : GoesOn next scope first root := ⟨hroot, hscope⟩
        exact Or.inr ⟨first, by simp, hfirst.1, hwalk.head hedge⟩
    · exact Or.inr ⟨root, by simp [hroot], hscope, hwalk⟩
  | case3 seen first rest hfirst ih =>
    rw [emit_cons_skip hfirst] at hid
    rcases ih hid with hseen | ⟨root, hroot, hscope, hwalk⟩
    · exact Or.inl hseen
    · exact Or.inr ⟨root, by simp [hroot], hscope, hwalk⟩

/-- The recursion emits exactly what it goes on to from its root. -/
theorem mem_recursiveWalk_iff {root : NodeId} (hroot : root ∈ scope) (id : NodeId) :
    id ∈ recursiveWalk next scope root ↔
      Relation.ReflTransGen (GoesOn next scope) root id := by
  constructor
  · intro hid
    rcases reached_of_mem_emit hid with hseen | ⟨first, hfirst, -, hwalk⟩
    · simp at hseen
    · rwa [List.mem_singleton.mp hfirst] at hwalk
  · intro hwalk
    obtain ⟨hwalked, hclosed⟩ := @emit_complete next scope [] [root]
    induction hwalk with
    | refl => exact hwalked root (by simp) hroot
    | tail _ hedge ih => exact hclosed _ ih (by simp) _ hedge

end Reached

/-! ## The walk with a list of pending ids -/

namespace Walk

/-- How many steps are left at most. -/
def weight (edges : List (NodeId × NodeId)) (w : Walk) : Nat :=
  w.pending.length + openEdges edges w.visited

/-- What holds at every step of a walk inside a scope. -/
structure Sound (scope : List NodeId) (w : Walk) : Prop where
  visited_iff : ∀ id, w.visited.contains id = true ↔ id ∈ w.emitted
  pending_scope : ∀ id ∈ w.pending, id ∈ scope

theorem sound_start {scope : List NodeId} {root : NodeId} (hroot : root ∈ scope) :
    Sound scope (start root) where
  visited_iff id := by simp [start]
  pending_scope id hid := by
    rw [List.mem_singleton.mp hid]
    exact hroot

section Step

variable {g : Graph} {w : Walk} {node : NodeId} {rest : List NodeId}

theorem step_of_visited (hpending : w.pending = node :: rest)
    (hnode : w.visited.contains node = true) : w.step g = { w with pending := rest } := by
  simp [step, hpending, hnode]

theorem step_of_new (hpending : w.pending = node :: rest)
    (hnode : w.visited.contains node = false) :
    w.step g = ⟨w.visited.insert node,
      ((g.successors node).filter fun next => !(w.visited.insert node).contains next) ++ rest,
      node :: w.emitted⟩ := by
  simp [step, hpending, hnode]

end Step

section Run

variable {g : Graph} {edges : List (NodeId × NodeId)} {scope : List NodeId}

theorem Sound.step (hg : g.Stores edges) (hscope : ∀ e ∈ edges, e.2 ∈ scope) {w : Walk}
    (hw : Sound scope w) : Sound scope (w.step g) := by
  cases hpending : w.pending with
  | nil =>
    have hsame : w.step g = w := by simp [Walk.step, hpending]
    rwa [hsame]
  | cons node rest =>
    cases hnode : w.visited.contains node with
    | true =>
      rw [step_of_visited hpending hnode]
      exact ⟨hw.visited_iff, fun id hid => hw.pending_scope id (by simp [hpending, hid])⟩
    | false =>
      rw [step_of_new hpending hnode]
      constructor
      · intro id
        simp only [IdSet.contains_insert, Bool.or_eq_true, decide_eq_true_eq, List.mem_cons,
          hw.visited_iff]
        rw [eq_comm]
      · intro id hid
        rcases List.mem_append.mp hid with hfresh | hrest
        · have htarget := (List.mem_filter.mp hfresh).1
          rw [hg.successors, mem_targetsOf] at htarget
          exact hscope _ htarget
        · exact hw.pending_scope id (by simp [hpending, hrest])

theorem worklist (g : Graph) :
    Worklist (Walk.step g) (·.visited) (·.pending) g.successors where
  idle w hpending := by simp [Walk.step, hpending]
  skips w node rest hpending hnode := by simp [step_of_visited hpending hnode]
  enters w node rest hpending hnode := by
    have hfresh := List.length_filter_le
      (fun next => !(w.visited.insert node).contains next) (g.successors node)
    rw [step_of_new hpending hnode, List.length_append]
    exact ⟨rfl, by omega⟩

/-- A step takes nothing away from what the recursion emits. -/
theorem emit_step {w : Walk} (hw : Sound scope w) :
    emit g.successors scope (w.step g).emitted.reverse (w.step g).pending =
      emit g.successors scope w.emitted.reverse w.pending := by
  cases hpending : w.pending with
  | nil => simp [Walk.step, hpending]
  | cons node rest =>
    cases hnode : w.visited.contains node with
    | true =>
      have hskip : ¬ (node ∈ scope ∧ node ∉ w.emitted.reverse) := by
        rintro ⟨-, hnot⟩
        exact hnot (by simpa using (hw.visited_iff node).mp hnode)
      rw [step_of_visited hpending hnode, emit_cons_skip hskip]
    | false =>
      have hin : node ∈ scope := hw.pending_scope node (by simp [hpending])
      have hnew : node ∉ w.emitted.reverse := by
        intro hemitted
        rw [(hw.visited_iff node).mpr (by simpa using hemitted)] at hnode
        contradiction
      rw [step_of_new hpending hnode, emit_cons_new hin hnew]
      simp only [List.reverse_cons]
      rw [emit_append, emit_filter]
      -- The successors left out have been emitted, so the recursion skips them.
      intro id hid
      simp only [Bool.not_eq_false', IdSet.contains_insert, Bool.or_eq_true, decide_eq_true_eq,
        hw.visited_iff] at hid
      rcases hid with rfl | hid
      · exact Or.inl (by simp)
      · exact Or.inl (by simp [hid])

/-- A run is made of steps alone: a step changes nothing once nothing is pending. -/
theorem run_eq_iterate (g : Graph) (fuel : Nat) (w : Walk) :
    w.run g fuel = (Walk.step g)^[fuel] w := by
  induction fuel generalizing w with
  | zero => rfl
  | succ fuel ih =>
    rw [Walk.run, Function.iterate_succ_apply]
    by_cases hempty : w.pending = []
    · have hsame : w.step g = w := by simp [step, hempty]
      rw [if_pos (by simpa using hempty), hsame, Function.iterate_fixed hsame]
    · rw [if_neg (by simpa using hempty), ih]

/-- A run keeps the invariant, and it takes nothing away from what the recursion emits. -/
theorem Sound.run (hg : g.Stores edges) (hscope : ∀ e ∈ edges, e.2 ∈ scope) {w : Walk}
    (hw : Sound scope w) (fuel : Nat) :
    Sound scope (w.run g fuel) ∧
      emit g.successors scope (w.run g fuel).emitted.reverse (w.run g fuel).pending =
        emit g.successors scope w.emitted.reverse w.pending := by
  rw [run_eq_iterate]
  refine Function.Iterate.rec (fun v => Sound scope v ∧
    emit g.successors scope v.emitted.reverse v.pending =
      emit g.successors scope w.emitted.reverse w.pending) ⟨hw, rfl⟩ ?_ fuel
  rintro v ⟨hv, hemit⟩
  exact ⟨hv.step hg hscope, (emit_step hv).trans hemit⟩

/-- A run with enough fuel leaves nothing pending. -/
theorem pending_run_eq_nil (hg : g.Stores edges) {w : Walk} {fuel : Nat}
    (hfuel : w.weight edges ≤ fuel) : (w.run g fuel).pending = [] := by
  have hsuccessors : g.successors = targetsOf edges := funext hg.successors
  have hworklist := worklist g
  rw [hsuccessors] at hworklist
  rw [run_eq_iterate]
  exact hworklist.pending_iterate_eq_nil_of_openEdges hfuel

/-- A run that leaves nothing pending has visited what the recursion emits. -/
theorem Sound.emitted_run (hg : g.Stores edges) (hscope : ∀ e ∈ edges, e.2 ∈ scope) {w : Walk}
    (hw : Sound scope w) {fuel : Nat} (hpending : (w.run g fuel).pending = []) :
    (w.run g fuel).emitted.reverse = emit g.successors scope w.emitted.reverse w.pending := by
  rw [← (hw.run hg hscope fuel).2, hpending, emit_nil]

end Run

end Walk

/-- Preorder is the recursive walk, in any scope that holds the root and the ends of
all edges. -/
theorem Stores.preorder_eq_recursiveWalk {g : Graph} {edges : List (NodeId × NodeId)}
    (hg : g.Stores edges) {scope : List NodeId} {root : NodeId} (hroot : root ∈ scope)
    (hscope : ∀ e ∈ edges, e.2 ∈ scope) :
    g.preorder root = recursiveWalk g.successors scope root := by
  have hweight : (Walk.start root).weight edges ≤ 1 + g.edgeCount := by
    simp [Walk.weight, Walk.start, openEdges_empty, hg.edgeCount]
  exact (Walk.sound_start hroot).emitted_run hg hscope (Walk.pending_run_eq_nil hg hweight)

/-- The root of a walk and the targets of all edges, which no walk from the root leaves. -/
def reachScope (edges : List (NodeId × NodeId)) (root : NodeId) : List NodeId :=
  root :: edges.map Prod.snd

theorem root_mem_reachScope (edges : List (NodeId × NodeId)) (root : NodeId) :
    root ∈ reachScope edges root :=
  List.mem_cons_self

theorem target_mem_reachScope {edges : List (NodeId × NodeId)} {a b : NodeId}
    (h : Joins edges a b) (root : NodeId) : b ∈ reachScope edges root :=
  List.mem_cons_of_mem root (List.mem_map_of_mem (f := Prod.snd) h)

/-- Preorder is the recursive walk along the edges from every root, also from one that is no
node. -/
theorem Stores.preorder_eq {g : Graph} {edges : List (NodeId × NodeId)} (hg : g.Stores edges)
    (root : NodeId) :
    g.preorder root = recursiveWalk (targetsOf edges) (reachScope edges root) root := by
  have hnext : g.successors = targetsOf edges := funext hg.successors
  rw [← hnext]
  exact hg.preorder_eq_recursiveWalk (root_mem_reachScope edges root) fun _ he =>
    target_mem_reachScope he root

end WorkflowEngine.Graph
