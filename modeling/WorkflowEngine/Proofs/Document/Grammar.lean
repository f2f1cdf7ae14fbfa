import WorkflowEngine.Proofs.Document.Bare
import WorkflowEngine.Proofs.Document.Reload
import WorkflowEngine.Proofs.Schema.Acceptance

/-!
# The grammar of workflow documents

What a value has to be to be a workflow document, said of the value itself: which members
its objects must have and may have, and what the values of these members may be.  The schema
accepts exactly the values of this grammar.  A surrogate on its own may stand in a text that
may be empty; filled texts and the names of members have to be strings.
-/

namespace WorkflowEngine

namespace Grammar

open Schema (number? Number noWords yesWords)

/-! ## Members -/

/-- The names of the members of an object are strings. -/
def HasStringNames (o : Members) : Prop := ∀ m ∈ o, m.1.isProper = true

/-- An object has a member with a value of a class. -/
def MustHave (o : Members) (key : String) (p : Json → Prop) : Prop := ∃ v ∈ o.get? key, p v

/-- An object has no member with a key, or one with a value of a class. -/
def MayHave (o : Members) (key : String) (p : Json → Prop) : Prop := ∀ v ∈ o.get? key, p v

/-- The same for a member that goes by two keys, of which the first one counts. -/
def MayHaveEither (o : Members) (camel snake : String) (p : Json → Prop) : Prop :=
  ∀ v ∈ (o.get? camel).or (o.get? snake), p v

/-! ## Values without fields -/

def IsText (j : Json) : Prop := ∃ t : Text, j = .str t

/-- A string that is not empty. -/
def IsFilledText (j : Json) : Prop := ∃ s : String, s ≠ "" ∧ j = .str s

def IsTextOrNull (j : Json) : Prop := j = .null ∨ IsText j

/-- An object whose values are texts. -/
def IsTextMap (j : Json) : Prop := ∃ o : Members, j = .obj o ∧ ∀ m ∈ o, IsText m.2

/-- A number, a truth value or a text that spells a number. -/
def IsNumeric (j : Json) : Prop := ∃ x, number? j = some x

/-- The same, if the number is at least zero. -/
def IsThreshold (j : Json) : Prop := ∃ x, number? j = some x ∧ x.isNonnegative = true

/-- A truth value, a number that is zero or one, or one of the words for yes and no in any
case. -/
inductive IsFlag : Json → Prop where
  | bool (b : Bool) : IsFlag (.bool b)
  | int {n : Int} (hn : n = 0 ∨ n = 1) : IsFlag (.int n)
  | float {x : Binary64} (hx : x.toInt? = some 0 ∨ x.toInt? = some 1) : IsFlag (.float x)
  | word {s : String} (hs : String.ofList (s.toList.map Char.toLower) ∈ noWords ++ yesWords) :
    IsFlag (.str s)

/-! ## Nodes and edges -/

def IsPosition (j : Json) : Prop :=
  ∃ o, j = .obj o ∧ HasStringNames o ∧ MayHave o "x" IsNumeric ∧ MayHave o "y" IsNumeric

/-- The fields that are declared for the data of one kind of node. -/
def HasFieldsOf (o : Members) : NodeKind → Prop
  | .start => MayHave o "title" IsText ∧ MayHave o "metadata" IsTextMap
  | .task =>
    MayHave o "title" IsText ∧ MayHave o "description" IsText ∧ MayHave o "assignee" IsText ∧
      MayHaveEither o "dueDate" "due_date" IsText ∧
        MayHaveEither o "customFields" "custom_fields" IsTextMap
  | .approval =>
    MayHave o "title" IsText ∧ MayHaveEither o "approverRole" "approver_role" IsText ∧
      MayHaveEither o "autoApproveThreshold" "auto_approve_threshold" IsThreshold
  | .automatedStep =>
    MayHave o "title" IsText ∧ MayHaveEither o "actionId" "action_id" IsText ∧
      MayHaveEither o "actionLabel" "action_label" IsText ∧ MayHave o "parameters" IsTextMap
  | .finish =>
    MayHaveEither o "endMessage" "end_message" IsText ∧
      MayHaveEither o "showSummary" "show_summary" IsFlag

def IsData (j : Json) : Prop :=
  ∃ (o : Members) (k : NodeKind), j = .obj o ∧ HasStringNames o ∧
    o.get? "type" = some (.str k.name) ∧ MayHave o "id" IsTextOrNull ∧
      MayHave o "label" IsText ∧ HasFieldsOf o k

def IsNode (j : Json) : Prop :=
  ∃ o, j = .obj o ∧ HasStringNames o ∧ MustHave o "id" IsFilledText ∧
    MustHave o "type" IsFilledText ∧ MustHave o "position" IsPosition ∧ MustHave o "data" IsData

def IsEdge (j : Json) : Prop :=
  ∃ o, j = .obj o ∧ HasStringNames o ∧ MustHave o "id" IsFilledText ∧
    MustHave o "source" IsFilledText ∧ MustHave o "target" IsFilledText ∧
      MayHave o "type" IsTextOrNull

/-! ## Documents -/

/-- The id of an element of a document. -/
def idOf (element : Json) : String := (element.field "id").string

/-- A document: its nodes and its edges are in order, and no two nodes and no two edges have
the same id. -/
def IsDocument (j : Json) : Prop :=
  ∃ (o : Members) (nodes edges : List Json), j = .obj o ∧ HasStringNames o ∧
    o.get? "nodes" = some (.arr nodes) ∧ o.get? "edges" = some (.arr edges) ∧
      (∀ n ∈ nodes, IsNode n) ∧ (∀ e ∈ edges, IsEdge e) ∧
        (nodes.map idOf).Nodup ∧ (edges.map idOf).Nodup

end Grammar

namespace Workflow

open Schema Grammar

/-! ## Leaves -/

theorem accepts_text_iff {v : Json} : (Shape.leaf .text).Accepts v ↔ IsText v := by
  simp [Shape.Accepts, Leaf.check_text_eq_ok_iff, IsText]

theorem accepts_filledText_iff {v : Json} :
    (Shape.leaf .filledText).Accepts v ↔ IsFilledText v := by
  simp [Shape.Accepts, Leaf.check_filledText_eq_ok_iff, IsFilledText]

theorem accepts_optionalText_iff {v : Json} :
    (Shape.leaf .optionalText).Accepts v ↔ IsTextOrNull v := by
  simp [Shape.Accepts, Leaf.check_optionalText_eq_ok_iff, IsTextOrNull, IsText]

theorem accepts_textMap_iff {v : Json} : (Shape.leaf .textMap).Accepts v ↔ IsTextMap v := by
  simp [Shape.Accepts, Leaf.check_textMap_eq_ok_iff, IsTextMap, IsText]

theorem accepts_number_iff {v : Json} : (Shape.leaf .number).Accepts v ↔ IsNumeric v := by
  simp [Shape.Accepts, Leaf.check_number_eq_ok_iff, IsNumeric]

theorem accepts_threshold_iff {v : Json} :
    (Shape.leaf .threshold).Accepts v ↔ IsThreshold v := by
  simp [Shape.Accepts, Leaf.check_threshold_eq_ok_iff, IsThreshold]

theorem accepts_literal_iff {expected : String} {v : Json} :
    (Shape.leaf (.literal expected)).Accepts v ↔ v = .str expected := by
  simp [Shape.Accepts, Leaf.check_literal_eq_ok_iff]

theorem readFlag_int_iff {n : Int} : (∃ b, readFlag (.int n) = .ok b) ↔ n = 0 ∨ n = 1 := by
  rw [readFlag]
  dsimp only
  split
  · next hzero => exact ⟨fun _ => Or.inl hzero, fun _ => ⟨false, rfl⟩⟩
  · next hzero =>
    split
    · next hone => exact ⟨fun _ => Or.inr hone, fun _ => ⟨true, rfl⟩⟩
    · next hone =>
      split
      · simp [hzero, hone]
      · simp [hzero, hone]

/-- Only the integers zero and one, which fit in a machine word, are read as flags. -/
theorem readFlag_float_iff {x : Binary64} :
    (∃ b, readFlag (.float x) = .ok b) ↔ x.toInt? = some 0 ∨ x.toInt? = some 1 := by
  cases hx : x.toInt? with
  | none =>
    have hread : readFlag (.float x) = .error .notFlag := by
      rw [readFlag]
      dsimp only
      rw [hx]
    simp [hread]
  | some n =>
    have hread : readFlag (.float x) =
        if n.natAbs < wordLimit then readFlag (.int n) else .error .notFlag := by
      unfold readFlag
      dsimp only
      rw [hx]
    rw [hread, Option.some.injEq, Option.some.injEq]
    split
    · exact readFlag_int_iff
    · next hlarge =>
      have hlimit : 1 < wordLimit := by decide
      constructor
      · rintro ⟨b, hb⟩
        contradiction
      · rintro (rfl | rfl)
        · exact absurd (by decide) hlarge
        · exact absurd (by decide) hlarge

theorem readFlag_str_iff {s : String} : (∃ b, readFlag (.str s) = .ok b) ↔
    String.ofList (s.toList.map Char.toLower) ∈ noWords ++ yesWords := by
  rw [readFlag, List.mem_append]
  split
  · next hno => exact ⟨fun _ => Or.inl (List.contains_iff_mem.mp hno), fun _ => ⟨false, rfl⟩⟩
  · next hno =>
    split
    · next hyes => exact ⟨fun _ => Or.inr (List.contains_iff_mem.mp hyes), fun _ => ⟨true, rfl⟩⟩
    · next hyes =>
      rw [List.contains_iff_mem] at hno hyes
      simp [hno, hyes]

theorem accepts_flag_iff {v : Json} : (Shape.leaf .flag).Accepts v ↔ IsFlag v := by
  have hread : (Shape.leaf .flag).Accepts v ↔ ∃ b, readFlag v = .ok b := by
    constructor
    · rintro ⟨c, hc⟩
      obtain ⟨b, hb, -⟩ := Leaf.check_flag_eq_ok_iff.mp hc
      exact ⟨b, hb⟩
    · rintro ⟨b, hb⟩
      exact ⟨.bool b, Leaf.check_flag_eq_ok_iff.mpr ⟨b, hb, rfl⟩⟩
  rw [hread]
  cases v with
  | bool b => exact ⟨fun _ => .bool b, fun _ => ⟨b, rfl⟩⟩
  | int n =>
    rw [readFlag_int_iff]
    exact ⟨.int, fun h => by cases h; assumption⟩
  | float x =>
    rw [readFlag_float_iff]
    exact ⟨.float, fun h => by cases h; assumption⟩
  | str t =>
    cases t with
    | proper s =>
      rw [readFlag_str_iff]
      exact ⟨.word, fun h => by cases h; assumption⟩
    | broken b =>
      constructor
      · rintro ⟨flag, hflag⟩
        contradiction
      · intro h
        cases h
  | _ =>
    constructor
    · rintro ⟨b, hb⟩
      contradiction
    · intro h
      cases h

/-! ## Fields -/

section Fields

variable {o : Members} {shape : Shape} {p : Json → Prop} (h : ∀ {v}, shape.Accepts v ↔ p v)
include h

theorem accepts_optional_either_iff {camel snake : String} {default : Json} :
    (Field.optional ⟨camel, snake⟩ shape default).Accepts o ↔ MayHaveEither o camel snake p := by
  constructor
  · intro hf v hv
    exact h.mp (hf.value v hv)
  · intro hall
    refine ⟨fun hd => absurd hd (Option.some_ne_none default), fun v hv => ?_⟩
    exact h.mpr (hall v hv)

theorem accepts_optional_iff {key : String} {default : Json} :
    (Field.optional (.word key) shape default).Accepts o ↔ MayHave o key p := by
  rw [FieldName.word, accepts_optional_either_iff h, MayHaveEither, MayHave, Option.or_self]

theorem accepts_required_iff {key : String} :
    (Field.required (.word key) shape).Accepts o ↔ MustHave o key p := by
  constructor
  · intro hf
    obtain ⟨v, hv, haccepts⟩ := hf.of_required
    exact ⟨v, hv, h.mp haccepts⟩
  · rintro ⟨v, hv, hp⟩
    have hvalue : (FieldName.word key).value? o = some v := by
      rwa [FieldName.value?_word]
    refine ⟨fun _ => Option.isSome_iff_exists.mpr ⟨v, hvalue⟩, fun w hw => ?_⟩
    obtain rfl := Option.some.inj (hvalue.symm.trans hw)
    exact h.mpr hp

end Fields

section Fields

variable {o : Members} {key camel snake : String}

theorem accepts_textField_iff :
    (textField ⟨camel, snake⟩).Accepts o ↔ MayHaveEither o camel snake IsText :=
  accepts_optional_either_iff accepts_text_iff

theorem accepts_textField_word_iff : (textField (.word key)).Accepts o ↔ MayHave o key IsText :=
  accepts_optional_iff accepts_text_iff

theorem accepts_mapField_iff :
    (mapField ⟨camel, snake⟩).Accepts o ↔ MayHaveEither o camel snake IsTextMap :=
  accepts_optional_either_iff accepts_textMap_iff

theorem accepts_mapField_word_iff : (mapField (.word key)).Accepts o ↔ MayHave o key IsTextMap :=
  accepts_optional_iff accepts_textMap_iff

end Fields

/-! ## Objects -/

theorem accepts_openModel_iff {name : String} {fields : List Field} {v : Json} :
    (openModel name fields).shape.Accepts v ↔
      ∃ o, v = .obj o ∧ HasStringNames o ∧ ∀ f ∈ fields, f.Accepts o := by
  have hnames : ∀ o, (openModel name fields).AdmitsNames o ↔ HasStringNames o :=
    fun _ => ⟨fun h => h rfl, fun h _ => h⟩
  simp only [Model.accepts_shape_iff, hnames]
  rfl

theorem accepts_position_iff {v : Json} : positionModel.shape.Accepts v ↔ IsPosition v := by
  rw [positionModel, accepts_openModel_iff]
  simp only [List.forall_mem_cons, List.not_mem_nil, false_implies, implies_true, and_true,
    accepts_optional_iff accepts_number_iff, IsPosition]

theorem accepts_kindFields_iff {o : Members} (k : NodeKind) :
    (∀ f ∈ kindFields k, f.Accepts o) ↔ HasFieldsOf o k := by
  cases k <;>
    simp only [kindFields, List.forall_mem_cons, List.not_mem_nil, false_implies, implies_true,
      and_true, accepts_textField_iff, accepts_textField_word_iff, accepts_mapField_iff,
      accepts_mapField_word_iff, accepts_optional_either_iff accepts_threshold_iff,
      accepts_optional_either_iff accepts_flag_iff, HasFieldsOf]

theorem accepts_dataModel_iff {o : Members} {k : NodeKind} :
    (∀ f ∈ (dataModel k).fields, f.Accepts o) ↔
      MayHave o "id" IsTextOrNull ∧ MayHave o "label" IsText ∧
        MayHave o "type" (· = .str k.name) ∧ HasFieldsOf o k := by
  rw [fields_dataModel, List.forall_mem_append, List.forall_mem_cons, accepts_kindFields_iff,
    tagField, accepts_optional_iff accepts_literal_iff]
  simp only [commonFields, List.forall_mem_cons, List.not_mem_nil, false_implies, implies_true,
    and_true, accepts_optional_iff accepts_optionalText_iff, accepts_textField_word_iff, and_assoc]

/-- Data are accepted if they name a kind and have the fields of that kind. -/
theorem accepts_dataShape_iff {v : Json} : dataShape.Accepts v ↔ IsData v := by
  constructor
  · rintro ⟨c, hc⟩
    obtain ⟨k, htype, hcheck⟩ := exists_kind_of_check hc
    obtain ⟨o, rfl, hnames, hall⟩ := accepts_openModel_iff.mp ⟨c, hcheck⟩
    obtain ⟨hid, hlabel, -, hfields⟩ := accepts_dataModel_iff.mp hall
    exact ⟨o, k, rfl, hnames, Members.get?_of_field htype Json.noConfusion, hid, hlabel, hfields⟩
  · rintro ⟨o, k, rfl, hnames, htype, hid, hlabel, hfields⟩
    have htag : MayHave o "type" (· = .str k.name) := by
      intro v hv
      exact Option.some.inj (hv.symm.trans htype)
    have hall := accepts_dataModel_iff.mpr ⟨hid, hlabel, htag, hfields⟩
    obtain ⟨c, hc⟩ := accepts_openModel_iff.mpr ⟨o, rfl, hnames, hall⟩
    refine ⟨c, (check_dataShape_eq_ok_iff ?_).mpr hc⟩
    rw [Json.field, htype]
    rfl

theorem accepts_node_iff {v : Json} : nodeModel.shape.Accepts v ↔ IsNode v := by
  rw [nodeModel, accepts_openModel_iff]
  simp only [List.forall_mem_cons, List.not_mem_nil, false_implies, implies_true, and_true,
    accepts_required_iff accepts_filledText_iff, accepts_required_iff accepts_position_iff,
    accepts_required_iff accepts_dataShape_iff, IsNode]

theorem accepts_edge_iff {v : Json} : edgeModel.shape.Accepts v ↔ IsEdge v := by
  rw [edgeModel, accepts_openModel_iff]
  simp only [List.forall_mem_cons, List.not_mem_nil, false_implies, implies_true, and_true,
    accepts_required_iff accepts_filledText_iff, accepts_optional_iff accepts_optionalText_iff,
    IsEdge]

/-- A value is accepted, but for repeated ids, if it has lists of nodes and of edges. -/
theorem accepts_graph_iff {v : Json} : graphModel.shape.Accepts v ↔
    ∃ (o : Members) (nodes edges : List Json), v = .obj o ∧ HasStringNames o ∧
      o.get? "nodes" = some (.arr nodes) ∧ o.get? "edges" = some (.arr edges) ∧
        (∀ n ∈ nodes, IsNode n) ∧ ∀ e ∈ edges, IsEdge e := by
  have hlist : ∀ {m : Model} {p : Json → Prop}, (∀ {v}, m.shape.Accepts v ↔ p v) →
      ∀ {v}, (Shape.list m.shape).Accepts v ↔ ∃ xs, v = .arr xs ∧ ∀ x ∈ xs, p x := by
    intro m p h v
    simp only [Shape.accepts_list_iff, h]
  rw [graphModel, accepts_openModel_iff]
  simp only [List.forall_mem_cons, List.not_mem_nil, false_implies, implies_true, and_true,
    accepts_required_iff (hlist accepts_node_iff), accepts_required_iff (hlist accepts_edge_iff),
    MustHave]
  constructor
  · rintro ⟨o, rfl, hnames, ⟨v, hv, nodes, rfl, hnodes⟩, w, hw, edges, rfl, hedges⟩
    exact ⟨o, nodes, edges, rfl, hnames, hv, hw, hnodes, hedges⟩
  · rintro ⟨o, nodes, edges, rfl, hnames, hv, hw, hnodes, hedges⟩
    exact ⟨o, rfl, hnames, ⟨_, hv, nodes, rfl, hnodes⟩, _, hw, edges, rfl, hedges⟩

/-! ## Ids -/

/-- An element keeps its id, which is not empty. -/
theorem idOf_of_check {m : Model} (hm : m.Distinct)
    (hid : .required (.word "id") (.leaf .filledText) ∈ m.fields) {v c : Json}
    (hc : m.shape.check v = .ok c) : idOf c = idOf v ∧ idOf c ≠ "" := by
  have hfield := Model.check_field_of_required hm hc hid
  obtain ⟨hsame, s, hs, htext⟩ := Leaf.check_filledText_eq_ok_iff.mp hfield
  rw [idOf, idOf, hsame, htext]
  exact ⟨rfl, hs⟩

/-- The items of a list of a document are checked one by one. -/
theorem items_of_check {v c : Json} (hc : graphModel.shape.check v = .ok c) {m : Model}
    {key : String} (hf : .required (.word key) (.list m.shape) ∈ graphModel.fields) :
    List.Forall₂ (fun x y => m.shape.check x = .ok y) (v.field key).items (c.field key).items := by
  have hfield := Model.check_field_of_required distinct_graphModel hc hf
  obtain ⟨xs, cs, hv, hw, hall⟩ := Shape.check_list_eq_ok_iff_forall₂.mp hfield
  rw [hv, hw]
  exact hall

theorem exists_of_mem_items {v c : Json} (hc : graphModel.shape.check v = .ok c) {m : Model}
    {key : String} (hf : .required (.word key) (.list m.shape) ∈ graphModel.fields)
    {element : Json} (hmem : element ∈ (c.field key).items) :
    ∃ x, m.shape.check x = .ok element := by
  have hfield := Model.check_field_of_required distinct_graphModel hc hf
  obtain ⟨xs, cs, -, hw, hall⟩ := Shape.check_list_eq_ok_iff.mp hfield
  rw [hw] at hmem
  obtain ⟨x, -, hx⟩ := Shape.exists_of_mem_checked hall hmem
  exact ⟨x, hx⟩

/-- The ids in a list of a document are those that were given, and none of them is empty. -/
theorem ids_of_check {v c : Json} (hc : graphModel.shape.check v = .ok c) {m : Model}
    {key : String} (hf : .required (.word key) (.list m.shape) ∈ graphModel.fields)
    (hm : m.Distinct) (hid : .required (.word "id") (.leaf .filledText) ∈ m.fields) :
    (c.field key).items.map idOf = (v.field key).items.map idOf ∧
      ∀ element ∈ (c.field key).items, idOf element ≠ "" := by
  have hitems := items_of_check hc hf
  generalize (v.field key).items = xs at hitems ⊢
  generalize (c.field key).items = cs at hitems ⊢
  induction hitems with
  | nil => exact ⟨rfl, by simp⟩
  | cons hcheck _ ih =>
    obtain ⟨hsame, hfilled⟩ := idOf_of_check hm hid hcheck
    rw [List.map_cons, List.map_cons, hsame, ih.1]
    exact ⟨rfl, List.forall_mem_cons.mpr ⟨hfilled, ih.2⟩⟩

theorem nodes_of_check {v c : Json} (hc : graphModel.shape.check v = .ok c) :
    idsIn c "nodes" = (v.field "nodes").items.map idOf ∧
      ∀ node ∈ (c.field "nodes").items, idOf node ≠ "" :=
  ids_of_check hc (List.mem_cons_self ..) distinct_nodeModel (List.mem_cons_self ..)

theorem edges_of_check {v c : Json} (hc : graphModel.shape.check v = .ok c) :
    idsIn c "edges" = (v.field "edges").items.map idOf ∧
      ∀ edge ∈ (c.field "edges").items, idOf edge ≠ "" :=
  ids_of_check hc (List.mem_cons_of_mem _ (List.mem_cons_self ..)) distinct_edgeModel
    (List.mem_cons_self ..)

/-- The schema accepts the documents of the grammar. -/
theorem accepts_document_iff {v : Json} : documentShape.Accepts v ↔ IsDocument v := by
  have hids : ∀ {c}, graphModel.shape.check v = .ok c → (repetition? c = none ↔
      ((v.field "nodes").items.map idOf).Nodup ∧ ((v.field "edges").items.map idOf).Nodup) := by
    intro c hc
    rw [repetition?_eq_none_iff, (nodes_of_check hc).1, (edges_of_check hc).1]
  constructor
  · rintro ⟨c, hc⟩
    obtain ⟨hgraph, hunique⟩ := (Shape.check_refine_eq_ok_iff _ _ _ _).mp hc
    obtain ⟨o, nodes, edges, rfl, hnames, hnodes, hedges, hall⟩ :=
      accepts_graph_iff.mp ⟨c, hgraph⟩
    rw [hids hgraph, Json.field, Json.field, hnodes, hedges] at hunique
    exact ⟨o, nodes, edges, rfl, hnames, hnodes, hedges, hall.1, hall.2, hunique⟩
  · rintro ⟨o, nodes, edges, rfl, hnames, hnodes, hedges, hnode, hedge, hunique⟩
    obtain ⟨c, hgraph⟩ :=
      accepts_graph_iff.mpr ⟨o, nodes, edges, rfl, hnames, hnodes, hedges, hnode, hedge⟩
    refine ⟨c, (Shape.check_refine_eq_ok_iff _ _ _ _).mpr ⟨hgraph, (hids hgraph).mpr ?_⟩⟩
    rw [Json.field, Json.field, hnodes, hedges]
    exact hunique

/-! ## Thresholds -/

/-- The threshold of an approval, which is zero where none is given. -/
def thresholdOf (data : Json) : Json :=
  (data.members.get? "autoApproveThreshold").getD (.int 0)

theorem threshold_of_check_dataModel {v c : Json}
    (hc : (dataModel .approval).shape.check v = .ok c) :
    ∃ x : Number, thresholdOf c = x.toJson ∧ x.isNonnegative = true := by
  obtain ⟨o, members, rfl, rfl, hmembers⟩ := Model.check_shape_eq_ok_iff.mp hc
  rcases Model.get?_of_check (distinct_dataModel .approval) hmembers mem_thresholdField with
    ⟨-, hnone⟩ | ⟨u, w, -, hcheck, hw⟩
  · refine ⟨.int 0, ?_, rfl⟩
    rw [thresholdOf, Json.members,
      show Members.get? members "autoApproveThreshold" = none from hnone]
    rfl
  · obtain ⟨x, -, hnonneg, rfl⟩ := Leaf.check_threshold_eq_ok_iff.mp hcheck
    refine ⟨x, ?_, hnonneg⟩
    rw [thresholdOf, Json.members,
      show Members.get? members "autoApproveThreshold" = some x.toJson from hw]
    rfl

/-- The threshold of an approval is a number that is at least zero. -/
theorem threshold_of_check_node {v c : Json} (hc : nodeModel.shape.check v = .ok c)
    (happroval : (c.field "data").field "type" = .str NodeKind.approval.name) :
    ∃ x : Number, thresholdOf (c.field "data") = x.toJson ∧ x.isNonnegative = true := by
  have hdata : dataField ∈ nodeModel.fields := by
    rw [fields_nodeModel]
    simp
  obtain ⟨k, hcheck, htype⟩ :=
    type_of_check_dataShape (Model.check_field_of_required distinct_nodeModel hc hdata)
  have hsame : k = .approval := eq_of_name_eq (htype.symm.trans happroval)
  rw [hsame] at hcheck
  exact threshold_of_check_dataModel hcheck

end Workflow

namespace Document

open Schema Workflow Grammar

/-- Exactly the values of the grammar are documents, and what the engine sees of a document
has ids of its own and thresholds that are at least zero. -/
theorem ofJson_accepts_iff (v : Json) :
    ((∃ d, Document.ofJson v = .ok d) ↔ IsDocument v) ∧
      ∀ d, Document.ofJson v = .ok d →
        ((d.workflow.nodes.map (·.id)).Nodup ∧ ∀ n ∈ d.workflow.nodes, n.id ≠ "") ∧
          ((d.edges.map idOf).Nodup ∧ ∀ e ∈ d.edges, idOf e ≠ "") ∧
            ∀ node ∈ d.nodes, (node.field "data").field "type" = .str NodeKind.approval.name →
              ∃ x : Number, thresholdOf (node.field "data") = x.toJson ∧
                x.isNonnegative = true := by
  constructor
  · rw [← accepts_document_iff]
    constructor
    · rintro ⟨d, hd⟩
      exact ⟨d.content, ofJson_eq_ok_iff.mp hd⟩
    · rintro ⟨c, hc⟩
      exact ⟨⟨c, v, hc⟩, ofJson_eq_ok_iff.mpr hc⟩
  · intro d hd
    obtain ⟨hgraph, hunique⟩ :=
      (Shape.check_refine_eq_ok_iff _ _ _ _).mp (ofJson_eq_ok_iff.mp hd)
    refine ⟨⟨d.nodup_nodeIds, ?_⟩, ⟨((repetition?_eq_none_iff _).mp hunique).2, ?_⟩, ?_⟩
    · intro n hn
      obtain ⟨node, hnode, rfl⟩ := List.mem_map.mp hn
      exact (nodes_of_check hgraph).2 node hnode
    · exact (edges_of_check hgraph).2
    · intro node hnode happroval
      obtain ⟨x, hx⟩ := exists_of_mem_items hgraph (List.mem_cons_self ..) hnode
      exact threshold_of_check_node hx happroval

/-- A document whose only edge has a surrogate for its id. -/
def surrogateId : Json :=
  bareDocument [] [.obj [("id", .str loneSurrogate), ("source", .str "a"), ("target", .str "b")]]

/-- A document with a further member whose name is a surrogate. -/
def surrogateName : Json :=
  .obj [("nodes", .arr []), ("edges", .arr []), (loneSurrogate, .null)]

/-- A text of one surrogate is not empty, but it is neither an id nor the name of a member. -/
theorem ofJson_surrogate_refused :
    loneSurrogate ≠ "" ∧ ofJson surrogateId =
        .error [⟨.notUnicode, [.key "edges", .index 0, .key "id"]⟩] ∧
      ofJson surrogateName = .error [⟨.notUnicode, []⟩] := by
  refine ⟨by decide, ?_, ?_⟩
  · decide +kernel
  · decide +kernel

end Document

end WorkflowEngine
