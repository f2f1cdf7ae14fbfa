import Mathlib.Data.Prod.Lex
import WorkflowEngine.Proofs.Document.Outcomes

/-!
# What a document is found to lack

The comparison of the rough structure asks for several things in a fixed order, and for one
of them apart for each element of a list.  What it reports is the first requirement that the
value does not meet.  A value that matches the schema meets all of them, so the comparison
decides only how a refusal is worded and never which values are refused.
-/

namespace WorkflowEngine.Document

/-! ## Requirements and their order -/

/-- A value is an object that has some items as the list with a key. -/
def Lists (j : Json) (key : String) (items : List Json) : Prop :=
  ∃ o : Members, j = .obj o ∧ o.get? key = some (.arr items)

/-- A value is an object in which members with certain keys are present, none of them null
or the empty text. -/
def Complete (keys : List String) (j : Json) : Prop :=
  ∃ o : Members, j = .obj o ∧ ∀ key ∈ keys, ∃ v, o.get? key = some v ∧ Present v

/-- What a value has to be like for a fault not to be there. -/
def Meets (j : Json) : StructureFault → Prop
  | .notObject => ∃ o, j = .obj o
  | .nodesMissing => ∃ nodes, Lists j "nodes" nodes
  | .edgesMissing => ∃ edges, Lists j "edges" edges
  | .nodeIncomplete i =>
    ∀ nodes, Lists j "nodes" nodes →
      ∀ node ∈ nodes[i]?, Complete ["id", "type", "position", "data"] node
  | .edgeIncomplete i =>
    ∀ edges, Lists j "edges" edges → ∀ edge ∈ edges[i]?, Complete ["id", "source", "target"] edge

namespace StructureFault

/-- Where a requirement stands in the order: first by what it asks for, and then by the index
of the element that it is about. -/
def place : StructureFault → Nat ×ₗ Nat
  | .notObject => toLex (0, 0)
  | .nodesMissing => toLex (1, 0)
  | .edgesMissing => toLex (2, 0)
  | .nodeIncomplete i => toLex (3, i)
  | .edgeIncomplete i => toLex (4, i)

/-- One requirement comes before another. -/
def Before (a b : StructureFault) : Prop := a.place < b.place

theorem place_injective : Function.Injective place := by
  intro a b h
  cases a <;> cases b <;> simp_all [place]

theorem before_or_eq_or_before (a b : StructureFault) : a.Before b ∨ a = b ∨ b.Before a := by
  rcases lt_trichotomy a.place b.place with hlt | heq | hgt
  · exact Or.inl hlt
  · exact Or.inr (Or.inl (place_injective heq))
  · exact Or.inr (Or.inr hgt)

section Order

variable {other : StructureFault}

theorem not_before_notObject : ¬ other.Before .notObject := by
  cases other <;> simp [Before, place, Prod.Lex.toLex_lt_toLex]

theorem before_nodesMissing_iff : other.Before .nodesMissing ↔ other = .notObject := by
  cases other <;> simp [Before, place, Prod.Lex.toLex_lt_toLex]

theorem before_edgesMissing_iff :
    other.Before .edgesMissing ↔ other = .notObject ∨ other = .nodesMissing := by
  cases other <;> simp [Before, place, Prod.Lex.toLex_lt_toLex]

theorem before_nodeIncomplete_iff {i : Nat} :
    other.Before (.nodeIncomplete i) ↔
      other = .notObject ∨ other = .nodesMissing ∨ other = .edgesMissing ∨
        ∃ k < i, other = .nodeIncomplete k := by
  cases other <;> simp [Before, place, Prod.Lex.toLex_lt_toLex]

theorem before_edgeIncomplete_iff {i : Nat} :
    other.Before (.edgeIncomplete i) ↔
      other = .notObject ∨ other = .nodesMissing ∨ other = .edgesMissing ∨
        (∃ k, other = .nodeIncomplete k) ∨ ∃ k < i, other = .edgeIncomplete k := by
  cases other <;> simp [Before, place, Prod.Lex.toLex_lt_toLex]

end Order

end StructureFault

/-- A requirement that a value does not meet, while it meets all that come before. -/
structure FirstUnmet (j : Json) (fault : StructureFault) : Prop where
  unmet : ¬ Meets j fault
  earlier : ∀ other, other.Before fault → Meets j other

/-- There is only one first requirement that is not met. -/
theorem FirstUnmet.eq {j : Json} {a b : StructureFault} (ha : FirstUnmet j a)
    (hb : FirstUnmet j b) : a = b := by
  rcases a.before_or_eq_or_before b with hbefore | heq | hbefore
  · exact absurd (hb.earlier a hbefore) ha.unmet
  · exact heq
  · exact absurd (ha.earlier b hbefore) hb.unmet

/-! ## The comparison reports the first requirement that is not met -/

theorem hasAll_iff_complete {keys : List String} {j : Json} :
    hasAll keys j = true ↔ Complete keys j := by
  constructor
  · intro h
    match j, h with
    | .obj o, h => exact ⟨o, rfl, hasAll_iff.mp h⟩
  · rintro ⟨o, rfl, hall⟩
    exact hasAll_iff.mpr hall

theorem firstIncomplete_eq_none_iff {keys : List String} {xs : List Json} :
    firstIncomplete keys xs = none ↔ ∀ i : Nat, ∀ x ∈ xs[i]?, Complete keys x := by
  simp only [firstIncomplete, List.findIdx?_eq_none_iff, Bool.not_eq_eq_eq_not, Bool.not_false,
    hasAll_iff_complete]
  constructor
  · intro hall i x hx
    exact hall x (List.mem_of_getElem? hx)
  · intro hall x hx
    obtain ⟨i, hi⟩ := List.getElem?_of_mem hx
    exact hall i x hi

theorem firstIncomplete_eq_some {keys : List String} {xs : List Json} {i : Nat}
    (h : firstIncomplete keys xs = some i) :
    (∃ x ∈ xs[i]?, ¬ Complete keys x) ∧ ∀ k < i, ∀ x ∈ xs[k]?, Complete keys x := by
  obtain ⟨hlt, hincomplete, hbelow⟩ := List.findIdx?_eq_some_iff_getElem.mp h
  constructor
  · refine ⟨xs[i], List.getElem?_eq_getElem hlt, ?_⟩
    rw [← hasAll_iff_complete]
    simpa using hincomplete
  · intro k hk x hx
    obtain ⟨hlength, rfl⟩ := List.getElem?_eq_some_iff.mp hx
    rw [← hasAll_iff_complete]
    simpa using hbelow k hk

section Members

variable {o : Members} {nodes edges : List Json}

theorem lists_obj_iff {key : String} {items : List Json} :
    Lists (.obj o) key items ↔ o.get? key = some (.arr items) := by
  constructor
  · rintro ⟨o', heq, hget⟩
    rwa [Json.obj.inj heq]
  · intro hget
    exact ⟨o, rfl, hget⟩

theorem meets_nodeIncomplete_iff (hnodes : o.get? "nodes" = some (.arr nodes)) (i : Nat) :
    Meets (.obj o) (.nodeIncomplete i) ↔ ∀ node ∈ nodes[i]?, Complete nodeEssentials node := by
  simp [Meets, lists_obj_iff, hnodes, nodeEssentials]

theorem meets_edgeIncomplete_iff (hedges : o.get? "edges" = some (.arr edges)) (i : Nat) :
    Meets (.obj o) (.edgeIncomplete i) ↔ ∀ edge ∈ edges[i]?, Complete edgeEssentials edge := by
  simp [Meets, lists_obj_iff, hedges, edgeEssentials]

end Members

/-- The ways in which the comparison can end. -/
inductive Compared : Json → Option StructureFault → Prop
  | notObject {j : Json} (hobject : ∀ o, j ≠ .obj o) : Compared j (some .notObject)
  | nodesMissing {o : Members} (hnodes : ∀ nodes, o.get? "nodes" ≠ some (.arr nodes)) :
    Compared (.obj o) (some .nodesMissing)
  | edgesMissing {o : Members} {nodes : List Json} (hnodes : o.get? "nodes" = some (.arr nodes))
      (hedges : ∀ edges, o.get? "edges" ≠ some (.arr edges)) :
    Compared (.obj o) (some .edgesMissing)
  | nodeIncomplete {o : Members} {nodes edges : List Json} {i : Nat}
      (hnodes : o.get? "nodes" = some (.arr nodes)) (hedges : o.get? "edges" = some (.arr edges))
      (hfirst : firstIncomplete nodeEssentials nodes = some i) :
    Compared (.obj o) (some (.nodeIncomplete i))
  | edgeIncomplete {o : Members} {nodes edges : List Json} {i : Nat}
      (hnodes : o.get? "nodes" = some (.arr nodes)) (hedges : o.get? "edges" = some (.arr edges))
      (hall : firstIncomplete nodeEssentials nodes = none)
      (hfirst : firstIncomplete edgeEssentials edges = some i) :
    Compared (.obj o) (some (.edgeIncomplete i))
  | nothing {o : Members} {nodes edges : List Json}
      (hnodes : o.get? "nodes" = some (.arr nodes)) (hedges : o.get? "edges" = some (.arr edges))
      (hallNodes : firstIncomplete nodeEssentials nodes = none)
      (hallEdges : firstIncomplete edgeEssentials edges = none) :
    Compared (.obj o) none

theorem compared_structureFault? (j : Json) : Compared j (structureFault? j) := by
  unfold structureFault?
  split
  · next o =>
    split
    · next nodes hnodes =>
      split
      · next edges hedges =>
        split
        · next i hfirst => exact .nodeIncomplete hnodes hedges hfirst
        · next hall =>
          cases hedge : firstIncomplete edgeEssentials edges with
          | none => exact .nothing hnodes hedges hall hedge
          | some i => exact .edgeIncomplete hnodes hedges hall hedge
      · next hedges => exact .edgesMissing hnodes hedges
    · next hnodes => exact .nodesMissing hnodes
  · next hobject => exact .notObject hobject

/-- A fault that the comparison finds is the first requirement that is not met. -/
theorem Compared.firstUnmet {j : Json} {fault : StructureFault} (h : Compared j (some fault)) :
    FirstUnmet j fault := by
  cases h with
  | notObject hobject =>
    refine ⟨fun ⟨o, ho⟩ => hobject o ho, ?_⟩
    intro other hbefore
    exact absurd hbefore StructureFault.not_before_notObject
  | @nodesMissing o hnodes =>
    refine ⟨fun ⟨nodes, hlists⟩ => hnodes nodes (lists_obj_iff.mp hlists), ?_⟩
    intro other hbefore
    rw [StructureFault.before_nodesMissing_iff.mp hbefore]
    exact ⟨o, rfl⟩
  | @edgesMissing o nodes hnodes hedges =>
    refine ⟨fun ⟨edges, hlists⟩ => hedges edges (lists_obj_iff.mp hlists), ?_⟩
    intro other hbefore
    rcases StructureFault.before_edgesMissing_iff.mp hbefore with rfl | rfl
    · exact ⟨o, rfl⟩
    · exact ⟨nodes, lists_obj_iff.mpr hnodes⟩
  | @nodeIncomplete o nodes edges i hnodes hedges hfirst =>
    obtain ⟨⟨node, hnode, hincomplete⟩, hbelow⟩ := firstIncomplete_eq_some hfirst
    constructor
    · rw [meets_nodeIncomplete_iff hnodes]
      intro hall
      exact hincomplete (hall node hnode)
    · intro other hbefore
      rcases StructureFault.before_nodeIncomplete_iff.mp hbefore with
        rfl | rfl | rfl | ⟨k, hk, rfl⟩
      · exact ⟨o, rfl⟩
      · exact ⟨nodes, lists_obj_iff.mpr hnodes⟩
      · exact ⟨edges, lists_obj_iff.mpr hedges⟩
      · exact (meets_nodeIncomplete_iff hnodes k).mpr (hbelow k hk)
  | @edgeIncomplete o nodes edges i hnodes hedges hall hfirst =>
    obtain ⟨⟨edge, hedge, hincomplete⟩, hbelow⟩ := firstIncomplete_eq_some hfirst
    constructor
    · rw [meets_edgeIncomplete_iff hedges]
      intro hall
      exact hincomplete (hall edge hedge)
    · intro other hbefore
      rcases StructureFault.before_edgeIncomplete_iff.mp hbefore with
        rfl | rfl | rfl | ⟨k, rfl⟩ | ⟨k, hk, rfl⟩
      · exact ⟨o, rfl⟩
      · exact ⟨nodes, lists_obj_iff.mpr hnodes⟩
      · exact ⟨edges, lists_obj_iff.mpr hedges⟩
      · exact (meets_nodeIncomplete_iff hnodes k).mpr (firstIncomplete_eq_none_iff.mp hall k)
      · exact (meets_edgeIncomplete_iff hedges k).mpr (hbelow k hk)

/-- A value in which the comparison finds nothing meets every requirement. -/
theorem Compared.meets {j : Json} (h : Compared j none) (fault : StructureFault) :
    Meets j fault := by
  cases h with
  | @nothing o nodes edges hnodes hedges hallNodes hallEdges =>
    cases fault with
    | notObject => exact ⟨o, rfl⟩
    | nodesMissing => exact ⟨nodes, lists_obj_iff.mpr hnodes⟩
    | edgesMissing => exact ⟨edges, lists_obj_iff.mpr hedges⟩
    | nodeIncomplete i =>
      exact (meets_nodeIncomplete_iff hnodes i).mpr (firstIncomplete_eq_none_iff.mp hallNodes i)
    | edgeIncomplete i =>
      exact (meets_edgeIncomplete_iff hedges i).mpr (firstIncomplete_eq_none_iff.mp hallEdges i)

theorem structureFault?_eq_some_iff {j : Json} {fault : StructureFault} :
    structureFault? j = some fault ↔ FirstUnmet j fault := by
  have hcompared := compared_structureFault? j
  constructor
  · intro h
    rw [h] at hcompared
    exact hcompared.firstUnmet
  · intro hfirst
    generalize structureFault? j = found at hcompared
    rcases found with _ | other
    · exact absurd (hcompared.meets fault) hfirst.unmet
    · rw [hcompared.firstUnmet.eq hfirst]

/-! ## What loading makes of it -/

/-- The part of the report on a fault that tells which element lacks a member. -/
def StructureFault.problems : StructureFault → List Json
  | .nodeIncomplete i => [problem ["nodes", toString i] "missing required field"]
  | .edgeIncomplete i => [problem ["edges", toString i] "missing required field"]
  | _ => []

theorem error?_badStructure (fault : StructureFault) :
    (LoadFailure.badStructure fault).error? =
      some (.invalidStructure fault.reason fault.problems) := by
  cases fault <;> rfl

theorem outcome_of_firstUnmet {source : Source} {v : Json} {fault : StructureFault}
    (hread : readSource source = .ok v) (hfirst : FirstUnmet v fault) :
    outcome source = some (.error (.invalidStructure fault.reason fault.problems)) := by
  have hload : tryLoad source = .error (.badStructure fault) := by
    rw [tryLoad, hread]
    dsimp only
    rw [structureFault?_eq_some_iff.mpr hfirst]
  rw [outcome_of_error hload, error?_badStructure]
  rfl

theorem tryLoad_eq_ok_iff_ofJson {source : Source} {v : Json} (hread : readSource source = .ok v)
    (d : Document) : tryLoad source = .ok d ↔ Document.ofJson v = .ok d := by
  rw [tryLoad_eq_ok_iff, ofJson_eq_ok_iff]
  constructor
  · rintro ⟨j, hj, hcheck⟩
    rwa [Except.ok.inj (hread.symm.trans hj)]
  · intro hcheck
    exact ⟨v, hread, hcheck⟩

/-- Loading ends with a report on the structure: a reason and a list of problems. -/
def Reports (source : Source) (reason : String) (problems : List Json) : Prop :=
  outcome source = some (.error (.invalidStructure reason problems))

/-- The comparison of the rough structure refuses no value that matches the schema, so what
was read is loaded exactly if it matches, and as the same document.  What it does refuse is
reported with the first requirement that the value does not meet, each in its own words. -/
theorem load_reports_first_unmet (v : Json) :
    ((∃ d, Document.ofJson v = .ok d) → structureFault? v = none) ∧
      (∀ fault, structureFault? v = some fault ↔ FirstUnmet v fault) ∧
      ∀ source, readSource source = .ok v →
        (∀ d, (load source).result = .ok d ↔ Document.ofJson v = .ok d) ∧
          (FirstUnmet v .notObject → Reports source "expected an object" []) ∧
          (FirstUnmet v .nodesMissing → Reports source "missing or invalid nodes array" []) ∧
          (FirstUnmet v .edgesMissing → Reports source "missing or invalid edges array" []) ∧
          (∀ i, FirstUnmet v (.nodeIncomplete i) →
            Reports source "invalid node structure in workflow"
              [.obj [("loc", .arr [.str "nodes", .str (toString i)]),
                ("msg", .str "missing required field")]]) ∧
          ∀ i, FirstUnmet v (.edgeIncomplete i) →
            Reports source "invalid edge structure in workflow"
              [.obj [("loc", .arr [.str "edges", .str (toString i)]),
                ("msg", .str "missing required field")]] := by
  refine ⟨?_, fun fault => structureFault?_eq_some_iff, ?_⟩
  · rintro ⟨d, hd⟩
    exact structureFault?_eq_none_of_check (ofJson_eq_ok_iff.mp hd)
  · intro source hread
    refine ⟨?_, outcome_of_firstUnmet hread, outcome_of_firstUnmet hread,
      outcome_of_firstUnmet hread, fun _ => outcome_of_firstUnmet hread,
      fun _ => outcome_of_firstUnmet hread⟩
    intro d
    rw [result_load]
    exact tryLoad_eq_ok_iff_ofJson hread d

/-- A text in which the second node has an empty type and the only edge is a number. -/
def untypedText : String :=
  r#"{"nodes": [{"id": "n", "type": "start", "position": {}, "data": {"type": "start"}},
    {"id": "m", "type": "", "position": false, "data": 0}], "edges": [0]}"#

theorem load_reports_first_unmet_untyped :
    (∃ v, readSource (.text untypedText) = .ok v ∧ FirstUnmet v (.nodeIncomplete 1)) ∧
      outcome (.text untypedText) =
        some (.error (.invalidStructure "invalid node structure in workflow"
          [problem ["nodes", "1"] "missing required field"])) := by
  have hfault : (readSource (.text untypedText)).toOption.map structureFault? =
      some (some (.nodeIncomplete 1)) := by
    decide +kernel
  cases hread : readSource (.text untypedText) with
  | error failure =>
    rw [hread] at hfault
    contradiction
  | ok v =>
    rw [hread] at hfault
    obtain ⟨-, hfirst, hload⟩ := load_reports_first_unmet v
    have hunmet := (hfirst _).mp (Option.some.inj hfault)
    obtain ⟨-, -, -, -, hnode, -⟩ := hload _ hread
    exact ⟨⟨v, rfl, hunmet⟩, hnode 1 hunmet⟩

end WorkflowEngine.Document
