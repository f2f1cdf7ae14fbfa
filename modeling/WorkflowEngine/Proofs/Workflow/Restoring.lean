import WorkflowEngine.Proofs.Document.UniqueIds
import WorkflowEngine.Proofs.Schema.Acceptance
import WorkflowEngine.Proofs.Schema.LeafValues

/-!
# Workflow documents are restored

The models of workflow documents have three fields that hold numbers: the two coordinates
of a node, and the threshold of an approval.  A canonical document is restored if these
are finite, and it is refused if one of them is not.
-/

namespace WorkflowEngine.Workflow

open Schema

/-! ## Distinct names -/

theorem distinct_positionModel : positionModel.Distinct := ⟨by decide, by decide⟩

theorem distinct_dataModel (k : NodeKind) : (dataModel k).Distinct := by
  cases k <;> exact ⟨by decide, by decide⟩

theorem distinct_nodeModel : nodeModel.Distinct := ⟨by decide, by decide⟩

theorem distinct_edgeModel : edgeModel.Distinct := ⟨by decide, by decide⟩

theorem distinct_graphModel : graphModel.Distinct := ⟨by decide, by decide⟩

/-! ## Positions -/

theorem isNumeric_of_mem_positionModel {f : Field} (hf : f ∈ positionModel.fields) :
    f.shape = .leaf .number ∧ (f.name.camel = "x" ∨ f.name.camel = "y") := by
  have hfields : positionModel.fields = [_, _] := rfl
  rw [hfields, List.mem_cons, List.mem_singleton] at hf
  rcases hf with rfl | rfl
  · exact ⟨rfl, Or.inl rfl⟩
  · exact ⟨rfl, Or.inr rfl⟩

theorem ne_null_of_infinite {c : Json} (h : c.isFinite = false) : c ≠ .null := by
  rintro rfl
  contradiction

theorem ne_null_of_field_infinite {c : Json} {key : String}
    (h : (c.field key).isFinite = false) : c ≠ .null := by
  rintro rfl
  contradiction

theorem restores_position {c : Json} (hc : positionModel.shape.Canonical c)
    (hx : (c.field "x").isFinite = true) (hy : (c.field "y").isFinite = true) :
    positionModel.shape.Restores c := by
  refine Model.restores_of_fields distinct_positionModel hc fun f hf hcanonical => ?_
  obtain ⟨hshape, hname⟩ := isNumeric_of_mem_positionModel hf
  have hfinite : (c.field f.name.camel).isFinite = true := by
    rcases hname with hname | hname
    · rwa [hname]
    · rwa [hname]
  rw [hshape] at hcanonical ⊢
  exact Leaf.isNumeric_number.restores hcanonical hfinite

theorem refuses_position {c : Json} (hc : positionModel.shape.Canonical c) {f : Field}
    (hf : f ∈ positionModel.fields) (hinfinite : (c.field f.name.camel).isFinite = false) :
    positionModel.shape.Refuses c := by
  have hne := ne_null_of_infinite hinfinite
  have hcanonical := Model.canonical_field_of_ne_null distinct_positionModel hc hf hne
  refine Model.refuses_of_field distinct_positionModel hc hf hne ?_
  rw [(isNumeric_of_mem_positionModel hf).1] at hcanonical ⊢
  exact Leaf.isNumeric_number.refuses hcanonical hinfinite

/-! ## Data -/

/-- The field of an approval that holds a number. -/
def thresholdField : Field :=
  .optional ⟨"autoApproveThreshold", "auto_approve_threshold"⟩ (.leaf .threshold) (.int 0)

/-- The field of an end node that holds a flag. -/
def summaryField : Field :=
  .optional ⟨"showSummary", "show_summary"⟩ (.leaf .flag) (.bool false)

theorem fields_dataModel (k : NodeKind) :
    (dataModel k).fields = commonFields ++ tagField k :: kindFields k := rfl

theorem mem_tagField (k : NodeKind) : tagField k ∈ (dataModel k).fields := by
  rw [fields_dataModel]
  simp

theorem mem_thresholdField : thresholdField ∈ (dataModel .approval).fields := by
  have hkind : thresholdField ∈ kindFields .approval :=
    List.mem_cons_of_mem _ (List.mem_cons_of_mem _ (List.mem_cons_self ..))
  rw [fields_dataModel]
  exact List.mem_append_right _ (List.mem_cons_of_mem _ hkind)

/-- The fields of data but two are accepted as they are or not at all. -/
theorem mem_dataModel_cases {k : NodeKind} {f : Field} (hf : f ∈ (dataModel k).fields) :
    f.shape.Verbatim ∨ (k = .finish ∧ f = summaryField) ∨ (k = .approval ∧ f = thresholdField) := by
  have htext : (Shape.leaf .text).Verbatim := Leaf.verbatim_text
  have hmap : (Shape.leaf .textMap).Verbatim := Leaf.verbatim_textMap
  have hcommon : ∀ f ∈ commonFields, f.shape.Verbatim := by
    simp only [commonFields, List.forall_mem_cons]
    exact ⟨Leaf.verbatim_optionalText, htext, by simp⟩
  rw [fields_dataModel, List.mem_append, List.mem_cons] at hf
  rcases hf with hf | rfl | hf
  · exact Or.inl (hcommon f hf)
  · exact Or.inl (Leaf.verbatim_literal k.name)
  · cases k with
    | start =>
      have hkind : ∀ f ∈ kindFields .start, f.shape.Verbatim := by
        simp only [kindFields, List.forall_mem_cons]
        exact ⟨htext, hmap, by simp⟩
      exact Or.inl (hkind f hf)
    | task =>
      have hkind : ∀ f ∈ kindFields .task, f.shape.Verbatim := by
        simp only [kindFields, List.forall_mem_cons]
        exact ⟨htext, htext, htext, htext, hmap, by simp⟩
      exact Or.inl (hkind f hf)
    | approval =>
      have hkind : kindFields .approval =
        [textField (.word "title"), textField ⟨"approverRole", "approver_role"⟩,
          thresholdField] := rfl
      rw [hkind, List.mem_cons, List.mem_cons, List.mem_singleton] at hf
      rcases hf with rfl | rfl | rfl
      · exact Or.inl htext
      · exact Or.inl htext
      · exact Or.inr (Or.inr ⟨rfl, rfl⟩)
    | automatedStep =>
      have hkind : ∀ f ∈ kindFields .automatedStep, f.shape.Verbatim := by
        simp only [kindFields, List.forall_mem_cons]
        exact ⟨htext, htext, htext, hmap, by simp⟩
      exact Or.inl (hkind f hf)
    | finish =>
      have hkind : kindFields .finish =
        [textField ⟨"endMessage", "end_message"⟩, summaryField] := rfl
      rw [hkind, List.mem_cons, List.mem_singleton] at hf
      rcases hf with rfl | rfl
      · exact Or.inl htext
      · exact Or.inr (Or.inl ⟨rfl, rfl⟩)

/-- The fields of data but one have no numbers to lose. -/
theorem plain_or_threshold {k : NodeKind} {f : Field} (hf : f ∈ (dataModel k).fields) :
    f.shape.Plain ∨ (k = .approval ∧ f = thresholdField) := by
  rcases mem_dataModel_cases hf with hverbatim | ⟨-, rfl⟩ | hthreshold
  · exact Or.inl hverbatim.plain
  · exact Or.inl Leaf.plain_flag
  · exact Or.inr hthreshold

theorem restores_dataModel {k : NodeKind} {c : Json} (hc : (dataModel k).shape.Canonical c)
    (hthreshold : k = .approval → (c.field "autoApproveThreshold").isFinite = true) :
    (dataModel k).shape.Restores c := by
  refine Model.restores_of_fields (distinct_dataModel k) hc fun f hf hcanonical => ?_
  rcases plain_or_threshold hf with hplain | ⟨hk, rfl⟩
  · exact hplain.steady _ hcanonical
  · exact Leaf.isNumeric_threshold.restores hcanonical (hthreshold hk)

theorem refuses_dataModel {c : Json} (hc : (dataModel .approval).shape.Canonical c)
    (hthreshold : (c.field "autoApproveThreshold").isFinite = false) :
    (dataModel .approval).shape.Refuses c := by
  have hne := ne_null_of_infinite hthreshold
  have hcanonical :=
    Model.canonical_field_of_ne_null (distinct_dataModel .approval) hc mem_thresholdField hne
  refine Model.refuses_of_field (distinct_dataModel .approval) hc mem_thresholdField hne ?_
  exact Leaf.isNumeric_threshold.refuses hcanonical hthreshold

theorem name_of_ofName? {name : String} {k : NodeKind} (h : NodeKind.ofName? name = some k) :
    k.name = name := by
  simpa using List.find?_some h

/-- Data are checked as data of the kind that they name. -/
theorem exists_kind_of_check {v c : Json} (h : dataShape.check v = .ok c) :
    ∃ k, v.field "type" = .str k.name ∧ (dataModel k).shape.check v = .ok c := by
  obtain ⟨o, tag, m, rfl, hget, hmodel, hcheck⟩ := Shape.check_tagged_eq_ok_iff.mp h
  obtain ⟨k, hk, rfl⟩ := Option.map_eq_some_iff.mp hmodel
  refine ⟨k, ?_, hcheck⟩
  rw [Json.field, hget, name_of_ofName? hk]
  rfl

/-- Data keep the kind that they name. -/
theorem type_of_check_dataShape {v c : Json} (hc : dataShape.check v = .ok c) :
    ∃ k, (dataModel k).shape.check v = .ok c ∧ c.field "type" = .str k.name := by
  obtain ⟨k, htype, hcheck⟩ := exists_kind_of_check hc
  refine ⟨k, hcheck, ?_⟩
  obtain ⟨o, members, rfl, rfl, hmembers⟩ := Model.check_shape_eq_ok_iff.mp hcheck
  rcases Model.get?_of_check (distinct_dataModel k) hmembers (mem_tagField k) with
    ⟨hnone, -⟩ | ⟨u, w, -, hu, hw⟩
  · rw [tagField, Field.optional, FieldName.value?_word,
      Members.get?_of_field htype Json.noConfusion] at hnone
    contradiction
  · obtain ⟨rfl, rfl⟩ := Leaf.check_literal_eq_ok_iff.mp hu
    rw [Json.field, show Members.get? members "type" = _ from hw]
    rfl

/-- The data of a node are canonical data of the kind that they name. -/
theorem canonical_dataShape {c : Json} (hc : dataShape.Canonical c) :
    ∃ k, (dataModel k).shape.Canonical c ∧ c.field "type" = .str k.name := by
  obtain ⟨v, hstorable, hv⟩ := hc
  obtain ⟨k, hcheck, htype⟩ := type_of_check_dataShape hv
  exact ⟨k, ⟨v, hstorable, hcheck⟩, htype⟩

theorem ofName?_name (k : NodeKind) : NodeKind.ofName? k.name = some k := by
  cases k <;> decide

theorem eq_of_name_eq {k l : NodeKind} (h : Json.str k.name = .str l.name) : k = l := by
  have hk := ofName?_name k
  rw [Text.proper.inj (Json.str.inj h), ofName?_name l, Option.some.injEq] at hk
  exact hk.symm

/-- Data that name a kind are checked as data of that kind. -/
theorem check_dataShape_eq_ok_iff {k : NodeKind} {v c : Json}
    (htype : v.field "type" = .str k.name) :
    dataShape.check v = .ok c ↔ (dataModel k).shape.check v = .ok c := by
  rw [dataShape, Shape.check_tagged_eq_ok_iff]
  constructor
  · rintro ⟨o, tag, m, rfl, hget, hmodel, hcheck⟩
    rw [Json.field, hget] at htype
    have htag : tag = k.name := Text.proper.inj (Json.str.inj htype)
    rw [htag, ofName?_name] at hmodel
    rw [← Option.some.inj hmodel] at hcheck
    exact hcheck
  · intro hcheck
    cases v with
    | obj o =>
      cases hget : Members.get? o "type" with
      | none =>
        rw [Json.field, hget] at htype
        contradiction
      | some w =>
        have hw : w = .str k.name := by
          rw [Json.field, hget] at htype
          exact htype
        exact ⟨o, k.name, dataModel k, rfl, by rw [hget, hw], by rw [ofName?_name]; rfl, hcheck⟩
    | _ => contradiction

theorem restores_dataShape {k : NodeKind} {c : Json} (htype : c.field "type" = .str k.name)
    (h : (dataModel k).shape.Restores c) : dataShape.Restores c := by
  have hwritten : c.asWritten.field "type" = .str k.name := by
    rw [Json.field_asWritten, htype, Json.asWritten_str]
  exact (check_dataShape_eq_ok_iff hwritten).mpr h

theorem refuses_dataShape {k : NodeKind} {c : Json} (htype : c.field "type" = .str k.name)
    (h : (dataModel k).shape.Refuses c) : dataShape.Refuses c := by
  have hwritten : c.asWritten.field "type" = .str k.name := by
    rw [Json.field_asWritten, htype, Json.asWritten_str]
  obtain ⟨issues, hissues⟩ := h
  cases hcheck : dataShape.check c.asWritten with
  | error others => exact ⟨others, hcheck⟩
  | ok d =>
    rw [check_dataShape_eq_ok_iff hwritten, hissues] at hcheck
    contradiction

/-! ## Nodes and edges -/

/-- The values of the fields of a node that hold numbers. -/
def nodeNumbers (node : Json) : List Json :=
  [(node.field "position").field "x", (node.field "position").field "y"] ++
    if (node.field "data").field "type" = .str NodeKind.approval.name
    then [(node.field "data").field "autoApproveThreshold"] else []

theorem mem_nodeNumbers_iff {node j : Json} :
    j ∈ nodeNumbers node ↔
      j = (node.field "position").field "x" ∨ j = (node.field "position").field "y" ∨
        (node.field "data").field "type" = .str NodeKind.approval.name ∧
          j = (node.field "data").field "autoApproveThreshold" := by
  rw [nodeNumbers]
  split
  · next htype => simp [htype]
  · next htype => simp [htype]

/-- The field of a node that holds its position. -/
def positionField : Field := .required (.word "position") positionModel.shape

/-- The field of a node that holds its data. -/
def dataField : Field := .required (.word "data") dataShape

theorem fields_nodeModel : nodeModel.fields =
    [.required (.word "id") (.leaf .filledText), .required (.word "type") (.leaf .filledText),
      positionField, dataField] :=
  rfl

theorem restores_node {c : Json} (hc : nodeModel.shape.Canonical c)
    (hnumbers : ∀ j ∈ nodeNumbers c, j.isFinite = true) : nodeModel.shape.Restores c := by
  refine Model.restores_of_fields distinct_nodeModel hc fun f hf hcanonical => ?_
  rw [fields_nodeModel, List.mem_cons, List.mem_cons, List.mem_cons, List.mem_singleton] at hf
  rcases hf with rfl | rfl | rfl | rfl
  · exact Leaf.verbatim_filledText.plain.steady _ hcanonical
  · exact Leaf.verbatim_filledText.plain.steady _ hcanonical
  · have hx := hnumbers _ (mem_nodeNumbers_iff.mpr (Or.inl rfl))
    have hy := hnumbers _ (mem_nodeNumbers_iff.mpr (Or.inr (Or.inl rfl)))
    exact restores_position hcanonical hx hy
  · obtain ⟨k, hk, htype⟩ := canonical_dataShape hcanonical
    refine restores_dataShape htype (restores_dataModel hk ?_)
    rintro rfl
    exact hnumbers _ (mem_nodeNumbers_iff.mpr (Or.inr (Or.inr ⟨htype, rfl⟩)))

theorem refuses_node_of_position {c : Json} (hc : nodeModel.shape.Canonical c) {f : Field}
    (hf : f ∈ positionModel.fields)
    (hinfinite : ((c.field "position").field f.name.camel).isFinite = false) :
    nodeModel.shape.Refuses c := by
  have hmem : positionField ∈ nodeModel.fields := by
    rw [fields_nodeModel]
    simp
  have hcanonical := Model.canonical_required distinct_nodeModel hc hmem rfl
  exact Model.refuses_of_field distinct_nodeModel hc hmem
    (ne_null_of_field_infinite hinfinite) (refuses_position hcanonical hf hinfinite)

theorem refuses_node_of_threshold {c : Json} (hc : nodeModel.shape.Canonical c)
    (htype : (c.field "data").field "type" = .str NodeKind.approval.name)
    (hinfinite : ((c.field "data").field "autoApproveThreshold").isFinite = false) :
    nodeModel.shape.Refuses c := by
  have hmem : dataField ∈ nodeModel.fields := by
    rw [fields_nodeModel]
    simp
  obtain ⟨k, hk, hname⟩ :=
    canonical_dataShape (Model.canonical_required distinct_nodeModel hc hmem rfl)
  have hsame : NodeKind.approval = k := eq_of_name_eq (htype.symm.trans hname)
  rw [← hsame] at hk
  exact Model.refuses_of_field distinct_nodeModel hc hmem
    (ne_null_of_field_infinite hinfinite)
    (refuses_dataShape htype (refuses_dataModel hk hinfinite))

/-- A node is refused if one of its numbers is not finite. -/
theorem refuses_node {c j : Json} (hc : nodeModel.shape.Canonical c) (hj : j ∈ nodeNumbers c)
    (hinfinite : j.isFinite = false) : nodeModel.shape.Refuses c := by
  rcases mem_nodeNumbers_iff.mp hj with rfl | rfl | ⟨htype, rfl⟩
  · exact refuses_node_of_position hc (List.mem_cons_self ..) hinfinite
  · exact refuses_node_of_position hc (List.mem_cons_of_mem _ (List.mem_cons_self ..)) hinfinite
  · exact refuses_node_of_threshold hc htype hinfinite

theorem verbatim_of_mem_edgeModel {f : Field} (hf : f ∈ edgeModel.fields) :
    f.shape.Verbatim := by
  have hfields : ∀ f ∈ edgeModel.fields, f.shape.Verbatim := by
    simp only [edgeModel, openModel, List.forall_mem_cons]
    exact ⟨Leaf.verbatim_filledText, Leaf.verbatim_filledText, Leaf.verbatim_filledText,
      Leaf.verbatim_optionalText, by simp⟩
  exact hfields f hf

theorem steady_edge : edgeModel.shape.Steady :=
  Model.steady_shape distinct_edgeModel fun _ hf => (verbatim_of_mem_edgeModel hf).plain.steady

/-! ## Documents -/

/-- The values of all fields of a document that hold numbers. -/
def documentNumbers (content : Json) : List Json :=
  (content.field "nodes").items.flatMap nodeNumbers

theorem fields_graphModel : graphModel.fields =
    [.required (.word "nodes") (.list nodeModel.shape),
      .required (.word "edges") (.list edgeModel.shape)] :=
  rfl

theorem repetition?_asWritten (c : Json) : repetition? c.asWritten = repetition? c := by
  have hids : ∀ list, idsIn c.asWritten list = idsIn c list := by
    intro list
    rw [idsIn, idsIn, Json.field_asWritten, Json.items_asWritten, List.map_map]
    refine List.map_congr_left fun element _ => ?_
    rw [Function.comp_apply, Json.field_asWritten, Json.string, Json.text_asWritten, Json.string]
  rw [repetition?, repetition?, hids, hids]

theorem canonical_graph_of_canonical_document {c : Json} (hc : documentShape.Canonical c) :
    graphModel.shape.Canonical c ∧ repetition? c = none := by
  obtain ⟨v, hstorable, hv⟩ := hc
  obtain ⟨hcheck, hunique⟩ := (Shape.check_refine_eq_ok_iff _ _ _ _).mp hv
  exact ⟨⟨v, hstorable, hcheck⟩, hunique⟩

/-- A document whose numbers are finite where fields expect them is restored. -/
theorem restores_document {c : Json} (hc : documentShape.Canonical c)
    (hnumbers : ∀ j ∈ documentNumbers c, j.isFinite = true) : documentShape.Restores c := by
  obtain ⟨hgraph, hunique⟩ := canonical_graph_of_canonical_document hc
  have hrestores : graphModel.shape.Restores c := by
    refine Model.restores_of_fields distinct_graphModel hgraph fun f hf hcanonical => ?_
    rw [fields_graphModel, List.mem_cons, List.mem_singleton] at hf
    rcases hf with rfl | rfl
    · have hnodes : (Shape.list nodeModel.shape).Canonical (c.field "nodes") := hcanonical
      obtain ⟨nodes, hlist, hall⟩ := Shape.canonical_list hnodes
      change (Shape.list nodeModel.shape).Restores (c.field "nodes")
      rw [hlist]
      refine Shape.restores_list fun node hnode => restores_node (hall node hnode) fun j hj => ?_
      refine hnumbers j (List.mem_flatMap.mpr ⟨node, ?_, hj⟩)
      rw [hlist]
      exact hnode
    · have hedges : (Shape.list edgeModel.shape).Canonical (c.field "edges") := hcanonical
      obtain ⟨edges, hlist, hall⟩ := Shape.canonical_list hedges
      change (Shape.list edgeModel.shape).Restores (c.field "edges")
      rw [hlist]
      exact Shape.restores_list fun edge hedge => steady_edge _ (hall edge hedge)
  refine (Shape.check_refine_eq_ok_iff _ _ _ _).mpr ⟨hrestores, ?_⟩
  rw [repetition?_asWritten]
  exact hunique

/-- A document with a field that holds a number that is not finite is refused. -/
theorem refuses_document {c j : Json} (hc : documentShape.Canonical c)
    (hj : j ∈ documentNumbers c) (hinfinite : j.isFinite = false) :
    documentShape.Refuses c := by
  obtain ⟨hgraph, -⟩ := canonical_graph_of_canonical_document hc
  have hmem : Field.required (.word "nodes") (.list nodeModel.shape) ∈ graphModel.fields :=
    List.mem_cons_self ..
  have hnodes : (Shape.list nodeModel.shape).Canonical (c.field "nodes") :=
    Model.canonical_required distinct_graphModel hgraph hmem rfl
  obtain ⟨nodes, hlist, hall⟩ := Shape.canonical_list hnodes
  obtain ⟨node, hnode, hin⟩ := List.mem_flatMap.mp hj
  rw [hlist] at hnode
  have hne : c.field "nodes" ≠ .null := by
    rw [hlist]
    exact Json.noConfusion
  have hrefuses : (Shape.list nodeModel.shape).Refuses (c.field "nodes") := by
    rw [hlist]
    exact Shape.refuses_list hnode (refuses_node (hall node hnode) hin hinfinite)
  obtain ⟨issues, hissues⟩ :=
    Model.refuses_of_field distinct_graphModel hgraph hmem hne hrefuses
  refine ⟨issues, ?_⟩
  simp only [documentShape, Shape.refine, hissues]

/-! ## Canonical documents are storable -/

theorem keeps_position : positionModel.shape.Keeps := by
  refine Model.keeps_shape distinct_positionModel fun f hf => ?_
  rw [(isNumeric_of_mem_positionModel hf).1]
  exact Leaf.keeps_number

theorem keeps_dataShape : dataShape.Keeps := by
  intro c hc
  obtain ⟨k, hk, -⟩ := canonical_dataShape hc
  refine Model.keeps_shape (distinct_dataModel k) (fun f hf => ?_) c hk
  rcases plain_or_threshold hf with hplain | ⟨-, rfl⟩
  · exact hplain.keeps
  · exact Leaf.keeps_threshold

theorem keeps_node : nodeModel.shape.Keeps := by
  refine Model.keeps_shape distinct_nodeModel fun f hf => ?_
  rw [fields_nodeModel, List.mem_cons, List.mem_cons, List.mem_cons, List.mem_singleton] at hf
  rcases hf with rfl | rfl | rfl | rfl
  · exact Leaf.verbatim_filledText.plain.keeps
  · exact Leaf.verbatim_filledText.plain.keeps
  · exact keeps_position
  · exact keeps_dataShape

theorem keeps_edge : edgeModel.shape.Keeps :=
  Model.keeps_shape distinct_edgeModel fun _ hf => (verbatim_of_mem_edgeModel hf).plain.keeps

theorem keeps_document : documentShape.Keeps := by
  intro c hc
  refine Model.keeps_shape distinct_graphModel (fun f hf => ?_) c
    (canonical_graph_of_canonical_document hc).1
  rw [fields_graphModel, List.mem_cons, List.mem_singleton] at hf
  rcases hf with rfl | rfl
  · exact Shape.keeps_list keeps_node
  · exact Shape.keeps_list keeps_edge

end WorkflowEngine.Workflow
