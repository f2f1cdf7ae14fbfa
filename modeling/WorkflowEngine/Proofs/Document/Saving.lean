import WorkflowEngine.Proofs.Document.Bare
import WorkflowEngine.Proofs.Document.Reload
import WorkflowEngine.Proofs.Schema.Preserving

/-!
# Loaded documents are saved as they were

A document that is loaded and saved comes back with everything its author wrote and with
nothing else, in another order at most.  This asks of the author that a field goes by its
camel case name, that numbers are given as finite numbers and flags as truth values, and
that no other member holds a number that is not finite.  All texts have to be strings: a
document with a surrogate on its own is loaded, but it has no saved text.
-/

namespace WorkflowEngine

namespace Workflow

open Schema

/-! ## Documents in the author's hand -/

/-- A position whose coordinates are finite numbers. -/
structure TidyPosition (j : Json) : Prop where
  tidy : positionModel.Tidy j.members
  numbers : ∀ key ∈ ["x", "y"], (j.members.get? key).all isFiniteNumber = true

/-- Data of a kind whose threshold is a finite number and whose flag is a truth value. -/
structure TidyData (k : NodeKind) (j : Json) : Prop where
  tidy : (dataModel k).Tidy j.members
  threshold : k = .approval →
    (j.members.get? "autoApproveThreshold").all isFiniteNumber = true
  summary : k = .finish → (j.members.get? "showSummary").all isTruth = true

structure TidyNode (j : Json) : Prop where
  tidy : nodeModel.Tidy j.members
  position : TidyPosition (j.field "position")
  data : ∀ k, (j.field "data").field "type" = .str k.name → TidyData k (j.field "data")

/-- Throughout a document no field goes by its snake case name alone, coordinates and
thresholds are finite numbers, flags are truth values, and members that are no fields hold
finite numbers only. -/
structure TidyDocument (j : Json) : Prop where
  tidy : graphModel.Tidy j.members
  nodes : ∀ node ∈ (j.field "nodes").items, TidyNode node
  edges : ∀ edge ∈ (j.field "edges").items, edgeModel.Tidy edge.members

/-! ## They are preserved -/

theorem field_eq_of_get? {j v : Json} {key : String} (h : j.members.get? key = some v) :
    j.field key = v := by
  cases j with
  | obj o =>
    rw [Json.members] at h
    rw [Json.field, h]
    rfl
  | _ => contradiction

theorem distinctKeys_of_get? {j v : Json} {key : String} (hj : j.DistinctKeys)
    (h : j.members.get? key = some v) : v.DistinctKeys := by
  cases j with
  | obj o => exact hj.of_get? h
  | _ => contradiction

theorem TidyPosition.preserves {j : Json} (hj : TidyPosition j) (hkeys : j.DistinctKeys) :
    positionModel.shape.Preserves j := by
  apply Model.preserves_shape distinct_positionModel rfl hkeys hj.tidy
  intro f hf v hv
  obtain ⟨hshape, hname⟩ := isNumeric_of_mem_positionModel hf
  rw [hshape]
  apply Leaf.preserves_number
  have hnumber := hj.numbers f.name.camel (by simpa using hname)
  rwa [hv, Option.all_some] at hnumber

theorem TidyData.preserves {k : NodeKind} {j : Json} (hj : TidyData k j)
    (hkeys : j.DistinctKeys) : (dataModel k).shape.Preserves j := by
  apply Model.preserves_shape (distinct_dataModel k) rfl hkeys hj.tidy
  intro f hf v hv
  rcases mem_dataModel_cases hf with hverbatim | ⟨hk, rfl⟩ | ⟨hk, rfl⟩
  · exact hverbatim.preserves v
  · apply Leaf.preserves_flag
    have hflag := hj.summary hk
    rwa [show j.members.get? "showSummary" = some v from hv, Option.all_some] at hflag
  · apply Leaf.preserves_threshold
    have hnumber := hj.threshold hk
    rwa [show j.members.get? "autoApproveThreshold" = some v from hv, Option.all_some] at hnumber

theorem TidyNode.preserves_data {j v : Json} (hj : TidyNode j) (hv : j.field "data" = v)
    (hkeys : v.DistinctKeys) : dataShape.Preserves v := by
  intro c hc
  obtain ⟨k, htype, hcheck⟩ := exists_kind_of_check hc
  have hdata : TidyData k v := hv ▸ hj.data k (hv ▸ htype)
  exact hdata.preserves hkeys c hcheck

theorem TidyNode.preserves {j : Json} (hj : TidyNode j) (hkeys : j.DistinctKeys) :
    nodeModel.shape.Preserves j := by
  apply Model.preserves_shape distinct_nodeModel rfl hkeys hj.tidy
  intro f hf v hv
  rw [fields_nodeModel, List.mem_cons, List.mem_cons, List.mem_cons, List.mem_singleton] at hf
  have hinner := distinctKeys_of_get? hkeys hv
  have hvalue := field_eq_of_get? hv
  rcases hf with rfl | rfl | rfl | rfl
  · exact Leaf.verbatim_filledText.preserves v
  · exact Leaf.verbatim_filledText.preserves v
  · have hposition : TidyPosition v := hvalue ▸ hj.position
    exact hposition.preserves hinner
  · exact hj.preserves_data hvalue hinner

theorem preserves_edge {j : Json} (hj : edgeModel.Tidy j.members) (hkeys : j.DistinctKeys) :
    edgeModel.shape.Preserves j :=
  Model.preserves_shape distinct_edgeModel rfl hkeys hj fun _ hf v _ =>
    (verbatim_of_mem_edgeModel hf).preserves v

theorem TidyDocument.preserves {j : Json} (hj : TidyDocument j) (hkeys : j.DistinctKeys) :
    documentShape.Preserves j := by
  intro c hc
  apply Model.preserves_shape distinct_graphModel rfl hkeys hj.tidy _ c
    ((Shape.check_refine_eq_ok_iff _ _ _ _).mp hc).1
  intro f hf v hv
  rw [fields_graphModel, List.mem_cons, List.mem_singleton] at hf
  have hinner := distinctKeys_of_get? hkeys hv
  have hvalue := field_eq_of_get? hv
  rcases hf with rfl | rfl
  · apply Shape.preserves_list
    intro node hnode
    exact (hj.nodes node (hvalue ▸ hnode)).preserves (hinner.of_mem_items hnode)
  · apply Shape.preserves_list
    intro edge hedge
    exact preserves_edge (hj.edges edge (hvalue ▸ hedge)) (hinner.of_mem_items hedge)

end Workflow

namespace Document

open Workflow

/-- Loading and saving a document in the author's hand loses nothing and adds nothing: the
saved text is that of a value that is the loaded one but for the order of members, and it is
read as that value if a text can hold the loaded one. -/
theorem save_reordered {v : Json} {d : Document} (hkeys : v.DistinctKeys)
    (hv : TidyDocument v) (hproper : v.isProper = true) (h : Document.ofJson v = .ok d) :
    ∃ w, v.Reordered w ∧ w.isFinite = true ∧ d.save? = some w.pretty ∧
      (Json.Storable v → Json.read w.pretty = .ok w) := by
  have hcheck := ofJson_eq_ok_iff.mp h
  obtain ⟨hsame, hfinite⟩ := hv.preserves hkeys d.content hcheck
  have hcontent : d.content.isProper = true := hsame.isProper hproper
  refine ⟨d.content, hsame, hfinite, if_pos hcontent, fun hstorable => ?_⟩
  have hstored := keeps_document d.content ⟨v, hstorable, hcheck⟩
  rw [Json.read_pretty hstored hcontent, (Json.asWritten_eq_self_iff _).mpr hfinite]

/-- The data of an approval in which one field goes by both of its names. -/
def markedData : Json :=
  .obj [("approver_role", .null), ("autoApproveThreshold", .int 500),
    ("approverRole", .str "Manager"), ("type", .str "approval")]

/-- A document with members that are no fields, and with its fields in an unusual order. -/
def marked : Json :=
  .obj [("edges", .arr []), ("zoom", .float (.ofInt 2)),
    ("nodes", .arr [.obj [("position", .obj [("y", .float (.ofInt 1)), ("x", .int 1)]),
      ("data", markedData), ("tags", .arr [.null]), ("type", .str "approval"),
      ("id", .str "a")]])]

theorem storable_markedData : Json.Storable markedData := by
  refine .obj (by decide) ?_
  simp only [List.forall_mem_cons]
  exact ⟨.null, Schema.storable_int_of_natAbs_lt (by decide), .str _, .str _, by simp⟩

theorem storable_marked : Json.Storable marked := by
  have hposition : Json.Storable (.obj [("y", .float (.ofInt 1)), ("x", .int 1)]) := by
    refine .obj (by decide) ?_
    simp only [List.forall_mem_cons]
    exact ⟨.float _, Schema.storable_int_of_natAbs_lt (by decide), by simp⟩
  refine .obj (by decide) ?_
  simp only [List.forall_mem_cons]
  refine ⟨.arr (by simp), .float _, .arr ?_, by simp⟩
  rw [List.forall_mem_singleton]
  refine .obj (by decide) ?_
  simp only [List.forall_mem_cons]
  exact ⟨hposition, storable_markedData, .arr (List.forall_mem_singleton.mpr .null), .str _,
    .str _, by simp⟩

theorem tidyData_markedData : TidyData .approval markedData where
  tidy := ⟨by decide, by decide⟩
  threshold _ := rfl
  summary hk := by contradiction

theorem tidyDocument_marked : TidyDocument marked where
  tidy := ⟨by decide, by decide⟩
  nodes := by
    refine List.forall_mem_singleton.mpr
      ⟨⟨by decide, by decide⟩, ⟨⟨by decide, by decide⟩, by decide⟩, ?_⟩
    intro k hk
    have happroval : k = .approval := eq_of_name_eq hk.symm
    rw [happroval]
    exact tidyData_markedData
  edges := by simp [marked, Json.field, Members.get?, Json.items]

theorem save_reordered_marked :
    Json.Storable marked ∧ TidyDocument marked ∧ marked.isProper = true ∧
      ∃ d w, Document.ofJson marked = .ok d ∧ marked.Reordered w ∧
        d.save? = some w.pretty ∧ Json.read w.pretty = .ok w := by
  have hproper : marked.isProper = true := by decide
  have haccepted : (Document.ofJson marked).toOption.isSome = true := by decide +kernel
  cases hd : Document.ofJson marked with
  | error issues =>
    rw [hd] at haccepted
    cases haccepted
  | ok d =>
    obtain ⟨w, hsame, -, hsave, hread⟩ :=
      save_reordered storable_marked.distinctKeys tidyDocument_marked hproper hd
    exact ⟨storable_marked, tidyDocument_marked, hproper, d, w, rfl, hsame, hsave,
      hread storable_marked⟩

/-- A document without nodes whose author left a surrogate in a note. -/
def surrogateNote : Json :=
  .obj [("nodes", .arr []), ("edges", .arr []), ("note", .str loneSurrogate)]

theorem storable_surrogateNote : Json.Storable surrogateNote := by
  refine .obj (by decide) ?_
  simp only [List.forall_mem_cons]
  exact ⟨.arr (by simp), .arr (by simp), .str _, by simp⟩

theorem tidyDocument_surrogateNote : TidyDocument surrogateNote where
  tidy := ⟨by decide, by decide⟩
  nodes := List.forall_mem_nil _
  edges := List.forall_mem_nil _

/-- A document in the author's hand is lost if a text in it is no string: it is accepted, and
it cannot be saved. -/
theorem save_surrogateNote :
    Json.Storable surrogateNote ∧ TidyDocument surrogateNote ∧
      ∃ d, Document.ofJson surrogateNote = .ok d ∧ d.save? = none := by
  have hloaded : (Document.ofJson surrogateNote).toOption.map save? = some none := by
    decide +kernel
  exact ⟨storable_surrogateNote, tidyDocument_surrogateNote, exists_of_toOption_map hloaded⟩

end Document

end WorkflowEngine
