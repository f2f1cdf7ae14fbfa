import WorkflowEngine.Analysis.Checks
import WorkflowEngine.Proofs.Analysis.DeadEnds
import WorkflowEngine.Proofs.Document.Reload
import WorkflowEngine.Proofs.Schema.Respelling
import WorkflowEngine.Simulation

/-!
# Both spellings mean the same document

A document is respelled by writing fields of any of its objects under their snake case
names, where those are free.  The data of a node is respelled by the model of its kind.
The respelled document is accepted as the same document, or refused with the same faults
at the same places.
-/

namespace WorkflowEngine

namespace Workflow

open Schema

/-! ## Respelled documents -/

/-- Data with fields of the model of its kind respelled. -/
inductive DataRespelled : Json → Json → Prop where
  | same (v : Json) : DataRespelled v v
  | ofKind {k : NodeKind} {v w : Json} (hkind : v.field "type" = .str k.name)
    (h : (dataModel k).Respelled Model.SameParts v w) : DataRespelled v w

/-- What may differ below the keys of a node. -/
inductive NodePart : Text → Json → Json → Prop where
  | same (key : Text) (v : Json) : NodePart key v v
  | position {v w : Json} (h : positionModel.Respelled Model.SameParts v w) :
    NodePart "position" v w
  | data {v w : Json} (h : DataRespelled v w) : NodePart "data" v w

/-- What may differ below the keys of a document. -/
inductive GraphPart : Text → Json → Json → Prop where
  | same (key : Text) (v : Json) : GraphPart key v v
  | nodes {v w : Json} (h : ItemsRespelled (nodeModel.Respelled NodePart) v w) :
    GraphPart "nodes" v w
  | edges {v w : Json} (h : ItemsRespelled (edgeModel.Respelled Model.SameParts) v w) :
    GraphPart "edges" v w

/-- A value and the same value in which fields of any objects of a document, each by the
model of its object, are written under their snake case names. -/
def Respelled (v w : Json) : Prop := graphModel.Respelled GraphPart v w

/-! ## Spellings -/

/-- The models of the objects of a document. -/
def documentModels : List Model :=
  [graphModel, nodeModel, edgeModel, positionModel] ++ NodeKind.all.map dataModel

/-- The two spellings of the name of a field. -/
def SpelledAs (camel snake : Text) : Prop :=
  ∃ m ∈ documentModels, ∃ f ∈ m.fields, camel = f.name.camel ∧ snake = f.name.snake

theorem spelledAs_of_mem {m : Model} (hm : m ∈ documentModels) {f : Field} (hf : f ∈ m.fields) :
    SpelledAs f.name.camel f.name.snake :=
  ⟨m, hm, f, hf, rfl, rfl⟩

theorem dataModel_mem_documentModels (k : NodeKind) : dataModel k ∈ documentModels := by
  apply List.mem_append_right
  apply List.mem_map_of_mem
  cases k <;> decide

/-! ## Checks that end alike -/

theorem unambiguous_positionModel : positionModel.Unambiguous :=
  ⟨distinct_positionModel, by decide⟩

theorem unambiguous_dataModel (k : NodeKind) : (dataModel k).Unambiguous := by
  cases k <;> exact ⟨distinct_dataModel _, by decide⟩

theorem unambiguous_nodeModel : nodeModel.Unambiguous := ⟨distinct_nodeModel, by decide⟩

theorem unambiguous_edgeModel : edgeModel.Unambiguous := ⟨distinct_edgeModel, by decide⟩

theorem unambiguous_graphModel : graphModel.Unambiguous := ⟨distinct_graphModel, by decide⟩

/-- Data is checked alike, because its kind stays as it is. -/
theorem DataRespelled.readsAlike {v w : Json} (h : DataRespelled v w) :
    dataShape.ReadsAlike SpelledAs v w := by
  rcases h with - | ⟨hkind, h⟩
  · exact Shape.ReadsAlike.refl _ v
  · rcases h with - | h
    · exact Shape.ReadsAlike.refl _ v
    · next k names o r =>
      have ho : o.get? "type" = some (.str k.name) := Members.get?_of_field hkind Json.noConfusion
      have hr : r.get? "type" = some (.str k.name) := by
        rw [h.get?_word (unambiguous_dataModel k) (mem_tagField k) rfl fun _ _ hxy => hxy, ho]
      refine Shape.readsAlike_tagged ho hr ?_ (h.readsAlike (unambiguous_dataModel k)
        (Model.readsParts_sameParts fun _ => spelledAs_of_mem (dataModel_mem_documentModels k)))
      rw [ofName?_name]
      rfl

theorem readsAlike_position {v w : Json} (h : positionModel.Respelled Model.SameParts v w) :
    positionModel.shape.ReadsAlike SpelledAs v w :=
  h.readsAlike unambiguous_positionModel
    (Model.readsParts_sameParts fun _ => spelledAs_of_mem (by simp [documentModels]))

theorem readsParts_nodePart : nodeModel.ReadsParts SpelledAs NodePart where
  spellings _ := spelledAs_of_mem (by simp [documentModels])
  values key x y h := by
    rcases h with - | h | h
    · exact Or.inl rfl
    · exact Or.inr ⟨positionField, by simp [fields_nodeModel], _, rfl, rfl, readsAlike_position h⟩
    · exact Or.inr ⟨dataField, by simp [fields_nodeModel], _, rfl, rfl, h.readsAlike⟩

theorem readsAlike_edge {v w : Json} (h : edgeModel.Respelled Model.SameParts v w) :
    edgeModel.shape.ReadsAlike SpelledAs v w :=
  h.readsAlike unambiguous_edgeModel
    (Model.readsParts_sameParts fun _ => spelledAs_of_mem (by simp [documentModels]))

theorem readsParts_graphPart : graphModel.ReadsParts SpelledAs GraphPart where
  spellings _ := spelledAs_of_mem (by simp [documentModels])
  values key x y h := by
    rcases h with - | h | h
    · exact Or.inl rfl
    · refine Or.inr ⟨.required (.word "nodes") (.list nodeModel.shape), ?_, _, rfl, rfl, ?_⟩
      · simp [fields_graphModel]
      · exact h.readsAlike fun _ _ hnode =>
          hnode.readsAlike unambiguous_nodeModel readsParts_nodePart
    · refine Or.inr ⟨.required (.word "edges") (.list edgeModel.shape), ?_, _, rfl, rfl, ?_⟩
      · simp [fields_graphModel]
      · exact h.readsAlike fun _ _ => readsAlike_edge

/-- A document and the respelled document are checked alike. -/
theorem Respelled.readsAlike {v w : Json} (h : Respelled v w) :
    documentShape.ReadsAlike SpelledAs v w :=
  Shape.readsAlike_refine
    (Model.Respelled.readsAlike h unambiguous_graphModel readsParts_graphPart)

end Workflow

namespace Document

open Schema Workflow

/-- A value and the respelled value are accepted as one document, or they are refused with
the same faults at the same places. -/
theorem ofJson_alike {v w : Json} (h : Respelled v w) :
    Checked.Alike SpelledAs v w (Document.ofJson v) (Document.ofJson w) := by
  rcases h.readsAlike.cases with ⟨content, hv, hw⟩ | ⟨issues, others, hv, hw, hissues⟩
  · have haccepted : ∃ source, documentShape.check source = .ok content := ⟨v, hv⟩
    rw [(ofJson_eq_ok_iff (d := ⟨content, haccepted⟩)).mpr hv,
      (ofJson_eq_ok_iff (d := ⟨content, haccepted⟩)).mpr hw]
    exact .ok _
  · rw [ofJson_eq_error_iff.mpr hv, ofJson_eq_error_iff.mpr hw]
    exact .error hissues

/-- A document and the respelled document are accepted together, as one document that is
saved, checked and simulated alike, or they are refused together, with the same faults in
the same order at the same places. -/
theorem ofJson_respelled {v w : Json} (h : Respelled v w) :
    ((∃ d, Document.ofJson v = .ok d) ↔ ∃ e, Document.ofJson w = .ok e) ∧
      (∀ d e, Document.ofJson v = .ok d → Document.ofJson w = .ok e →
        d = e ∧ d.save? = e.save? ∧ d.workflow.validate = e.workflow.validate ∧
          d.workflow.simulate = e.workflow.simulate) ∧
      ∀ issues others, Document.ofJson v = .error issues → Document.ofJson w = .error others →
        List.Forall₂ (fun i j => i.fault = j.fault ∧ SamePlace SpelledAs v w i.path j.path)
          issues others := by
  have halike := ofJson_alike h
  generalize Document.ofJson v = result at halike ⊢
  generalize Document.ofJson w = other at halike ⊢
  rcases halike with d | hissues
  · refine ⟨⟨fun _ => ⟨d, rfl⟩, fun _ => ⟨d, rfl⟩⟩, fun d₁ d₂ h₁ h₂ => ?_, fun _ _ h₁ => ?_⟩
    · obtain rfl := Except.ok.inj h₁
      obtain rfl := Except.ok.inj h₂
      exact ⟨rfl, rfl, rfl, rfl⟩
    · contradiction
  · refine ⟨⟨fun ⟨_, hd⟩ => ?_, fun ⟨_, hd⟩ => ?_⟩, fun _ _ h₁ => ?_, fun _ _ h₁ h₂ => ?_⟩
    · contradiction
    · contradiction
    · contradiction
    · rw [← Except.error.inj h₁, ← Except.error.inj h₂]
      exact hissues.imp fun i j hij => ⟨hij.fault, hij.place⟩

/-- The data of an approval with two of its fields under given names, and with a member
that is a field of tasks only. -/
def approvalData (role threshold : String) (limit : Int) : Json :=
  .obj [("type", .str "approval"), (role, .str "Manager"), ("dueDate", .str "2025-03-01"),
    (threshold, .int limit)]

/-- A document with such an approval. -/
def approvalDocument (role threshold : String) (limit : Int) : Json :=
  .obj [("nodes", .arr [.obj [("id", .str "a"), ("type", .str "approval"), ("position", .obj []),
    ("data", approvalData role threshold limit)]]), ("edges", .arr [])]

/-- No name of an object itself has to be respelled. -/
theorem respelled_of_parts {m : Model} {parts : Text → Json → Json → Prop} {o r : Members}
    (h : List.Forall₂ (fun a b => b.1 = a.1 ∧ parts a.1 a.2 b.2) o r) :
    m.Respelled parts (.obj o) (.obj r) := by
  have hrespells : m.Respells [] parts o r := by
    refine ⟨by simp, by simp, h.imp fun a b hab => ⟨Or.inr ⟨by simp, hab.1⟩, hab.2⟩⟩
  exact .object hrespells

theorem respelled_approvalDocument (limit : Int) :
    Respelled (approvalDocument "approverRole" "autoApproveThreshold" limit)
      (approvalDocument "approver_role" "auto_approve_threshold" limit) := by
  have hrespells : (dataModel .approval).Respells
      [⟨"approverRole", "approver_role"⟩, ⟨"autoApproveThreshold", "auto_approve_threshold"⟩]
      Model.SameParts (approvalData "approverRole" "autoApproveThreshold" limit).members
      (approvalData "approver_role" "auto_approve_threshold" limit).members := by
    refine ⟨by decide, by simp [Members.has, approvalData, Json.members], ?_⟩
    simp [FieldName.Respells, Model.SameParts, approvalData, Json.members]
  have hdata : DataRespelled (approvalData "approverRole" "autoApproveThreshold" limit)
      (approvalData "approver_role" "auto_approve_threshold" limit) :=
    .ofKind (k := .approval) rfl (.object hrespells)
  refine respelled_of_parts
    (.cons ⟨rfl, .nodes (.list (.cons ?_ .nil))⟩ (.cons ⟨rfl, .same _ _⟩ .nil))
  exact respelled_of_parts (.cons ⟨rfl, .same _ _⟩ (.cons ⟨rfl, .same _ _⟩
    (.cons ⟨rfl, .same _ _⟩ (.cons ⟨rfl, .data hdata⟩ .nil))))

/-- What is wrong with a negative threshold: it is neither of two kinds of number. -/
def thresholdIssues (key : String) : List Issue :=
  ["constrained-int", "constrained-float"].map fun kind => ⟨.belowZero,
    [.key "nodes", .index 0, .key "data", .alternative "approval", .key key, .alternative kind]⟩

theorem ofJson_respelled_approval :
    (∃ d, Document.ofJson (approvalDocument "approverRole" "autoApproveThreshold" 5) = .ok d ∧
      Document.ofJson (approvalDocument "approver_role" "auto_approve_threshold" 5) = .ok d) ∧
    Document.ofJson (approvalDocument "approverRole" "autoApproveThreshold" (-1)) =
      .error (thresholdIssues "autoApproveThreshold") ∧
    Document.ofJson (approvalDocument "approver_role" "auto_approve_threshold" (-1)) =
      .error (thresholdIssues "auto_approve_threshold") ∧
    List.Forall₂ (fun i j => i.fault = j.fault ∧
        SamePlace SpelledAs (approvalDocument "approverRole" "autoApproveThreshold" (-1))
          (approvalDocument "approver_role" "auto_approve_threshold" (-1)) i.path j.path)
      (thresholdIssues "autoApproveThreshold") (thresholdIssues "auto_approve_threshold") := by
  have haccepted : (Document.ofJson
      (approvalDocument "approverRole" "autoApproveThreshold" 5)).toOption.map (·.nodes.length) =
        some 1 := by
    decide +kernel
  have hcamel : Document.ofJson (approvalDocument "approverRole" "autoApproveThreshold" (-1)) =
      .error (thresholdIssues "autoApproveThreshold") := by
    decide +kernel
  have hsnake : Document.ofJson (approvalDocument "approver_role" "auto_approve_threshold" (-1)) =
      .error (thresholdIssues "auto_approve_threshold") := by
    decide +kernel
  obtain ⟨d, hd, -⟩ := exists_of_toOption_map haccepted
  obtain ⟨hiff, hsame, -⟩ := ofJson_respelled (respelled_approvalDocument 5)
  obtain ⟨e, he⟩ := hiff.mp ⟨d, hd⟩
  rw [(hsame d e hd he).1] at hd
  obtain ⟨-, -, hplaces⟩ := ofJson_respelled (respelled_approvalDocument (-1))
  exact ⟨⟨e, hd, he⟩, hcamel, hsnake, hplaces _ _ hcamel hsnake⟩

end Document

end WorkflowEngine
