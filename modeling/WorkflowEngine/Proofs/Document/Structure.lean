import WorkflowEngine.Proofs.Document.UniqueIds
import WorkflowEngine.Proofs.Schema.Acceptance
import WorkflowEngine.Proofs.Schema.LeafValues
import WorkflowEngine.Workflow.Loading

/-!
# The rough structure of accepted documents

The comparison of the rough structure asks for less than the schema does, so a value
that matches the schema lacks nothing.
-/

namespace WorkflowEngine

namespace Document

open Schema Workflow

/-- A value that counts as given in the comparison of the rough structure. -/
def Present (v : Json) : Prop := v ≠ .null ∧ v ≠ .str ""

theorem hasAll_iff {fields : List String} {o : Members} :
    hasAll fields (.obj o) = true ↔
      ∀ f ∈ fields, ∃ v, o.get? f = some v ∧ Present v := by
  rw [hasAll, List.all_eq_true]
  refine forall₂_congr fun f _ => ?_
  cases hget : o.get? f with
  | none => simp
  | some v =>
    cases v with
    | str t =>
      cases t with
      | proper s =>
        by_cases hs : s = ""
        · simp [hs, Present]
        · simp [hs, Present]
      | broken b => simp [Present]
    | _ => simp [Present]

/-- A shape whose values are neither null nor the empty text. -/
def Demanding (s : Shape) : Prop := ∀ v, s.Accepts v → Present v

theorem demanding_filledText : Demanding (.leaf .filledText) := by
  rintro v ⟨c, h⟩
  obtain ⟨-, s, hs, rfl⟩ := Leaf.check_filledText_eq_ok_iff.mp h
  exact ⟨Json.noConfusion, fun hempty => hs (Text.proper.inj (Json.str.inj hempty))⟩

theorem demanding_shape (m : Model) : Demanding m.shape := by
  rintro v ⟨c, h⟩
  obtain ⟨o, members, rfl, -, -⟩ := Model.check_shape_eq_ok_iff.mp h
  exact ⟨Json.noConfusion, Json.noConfusion⟩

theorem demanding_dataShape : Demanding dataShape := by
  rintro v ⟨c, h⟩
  obtain ⟨o, tag, m, rfl, -⟩ := Shape.check_tagged_eq_ok_iff.mp h
  exact ⟨Json.noConfusion, Json.noConfusion⟩

theorem present_of_required {m : Model} {o : Members} (h : ∀ f ∈ m.fields, f.Accepts o)
    (name : String) {shape : Shape} (hshape : Demanding shape)
    (hf : .required (.word name) shape ∈ m.fields) :
    ∃ v, o.get? name = some v ∧ Present v := by
  obtain ⟨v, hv, haccepts⟩ := (h _ hf).of_required
  exact ⟨v, hv, hshape v haccepts⟩

theorem hasAll_of_accepts_node {v : Json} (h : nodeModel.shape.Accepts v) :
    hasAll nodeEssentials v = true := by
  obtain ⟨o, rfl, -, hfields⟩ := Model.accepts_shape_iff.mp h
  have hid := present_of_required hfields "id" demanding_filledText
    (by simp [nodeModel, openModel])
  have htype := present_of_required hfields "type" demanding_filledText
    (by simp [nodeModel, openModel])
  have hposition := present_of_required hfields "position"
    (demanding_shape positionModel) (by simp [nodeModel, openModel])
  have hdata := present_of_required hfields "data" demanding_dataShape
    (by simp [nodeModel, openModel])
  rw [hasAll_iff]
  simp only [nodeEssentials, List.forall_mem_cons]
  exact ⟨hid, htype, hposition, hdata, by simp⟩

theorem hasAll_of_accepts_edge {v : Json} (h : edgeModel.shape.Accepts v) :
    hasAll edgeEssentials v = true := by
  obtain ⟨o, rfl, -, hfields⟩ := Model.accepts_shape_iff.mp h
  have hid := present_of_required hfields "id" demanding_filledText
    (by simp [edgeModel, openModel])
  have hsource := present_of_required hfields "source" demanding_filledText
    (by simp [edgeModel, openModel])
  have htarget := present_of_required hfields "target" demanding_filledText
    (by simp [edgeModel, openModel])
  rw [hasAll_iff]
  simp only [edgeEssentials, List.forall_mem_cons]
  exact ⟨hid, hsource, htarget, by simp⟩

theorem firstIncomplete_eq_none_of_accepts {s : Shape} {fields : List String}
    (hall : ∀ v, s.Accepts v → hasAll fields v = true) {v : Json}
    (h : (Shape.list s).Accepts v) :
    ∃ xs, v = .arr xs ∧ firstIncomplete fields xs = none := by
  obtain ⟨xs, rfl, hxs⟩ := Shape.accepts_list_iff.mp h
  refine ⟨xs, rfl, ?_⟩
  rw [firstIncomplete, List.findIdx?_eq_none_iff]
  intro x hx
  rw [hall x (hxs x hx)]
  rfl

/-- A value that matches the schema lacks nothing of the rough structure. -/
theorem structureFault?_eq_none_of_check {v c : Json} (h : documentShape.check v = .ok c) :
    structureFault? v = none := by
  have hgraph := ((Shape.check_refine_eq_ok_iff _ _ _ _).mp h).1
  obtain ⟨o, rfl, -, hfields⟩ := Model.accepts_shape_iff.mp ⟨c, hgraph⟩
  obtain ⟨nodes, hnodes, hnodesAccepts⟩ := (hfields _ (List.mem_cons_self ..)).of_required
  obtain ⟨edges, hedges, hedgesAccepts⟩ :=
    (hfields _ (List.mem_cons_of_mem _ (List.mem_cons_self ..))).of_required
  obtain ⟨nodeList, rfl, hcompleteNodes⟩ :=
    firstIncomplete_eq_none_of_accepts (fun _ => hasAll_of_accepts_node) hnodesAccepts
  obtain ⟨edgeList, rfl, hcompleteEdges⟩ :=
    firstIncomplete_eq_none_of_accepts (fun _ => hasAll_of_accepts_edge) hedgesAccepts
  simp only [structureFault?, hnodes, hedges, hcompleteNodes, hcompleteEdges, Option.map_none]

end Document

end WorkflowEngine
