import WorkflowEngine.Json.Display
import WorkflowEngine.Schema.Leaf

/-!
# Shapes of values

A `Shape` checks a value and brings it into canonical form: the fields that were
given, in the order of their declaration and under their camel case names, and then
the members that are not fields, if the model keeps them.  Nothing is added, so the
canonical form tells which fields were given.  `Shape.complete` adds the defaults of
the fields that were not.

A field is found under its camel case name or else under its snake case name.  If
both are present the first is the field and the second is not.
-/

namespace WorkflowEngine.Schema

/-- The two spellings of a field name. -/
structure FieldName where
  camel : String
  snake : String
deriving DecidableEq

namespace FieldName

/-- A name of one word, spelled alike in both ways. -/
def word (name : String) : FieldName := ⟨name, name⟩

/-- The spelling under which an object gives a field, and the value. -/
def find? (n : FieldName) (o : Members) : Option (Text × Json) :=
  match o.get? n.camel with
  | some v => some (n.camel, v)
  | none => (o.get? n.snake).map fun v => (n.snake, v)

/-- Whether a key of an object is the spelling that gives this field. -/
def gives (n : FieldName) (o : Members) (key : Text) : Bool :=
  key == n.camel || (key == n.snake && !o.has n.camel)

end FieldName

/-- A class of values: how a value is checked and brought into canonical form, and
how defaults are added to a canonical value. -/
structure Shape where
  check : Json → Checked Json
  complete : Json → Json

/-- A declared field.  A field without a default is required. -/
structure Field where
  name : FieldName
  shape : Shape
  default : Option Json

/-- A named kind of object with declared fields. -/
structure Model where
  name : String
  fields : List Field
  /-- Whether members that are not fields are kept. -/
  keepsExtras : Bool

namespace Field

/-- Check the field in an object; a field that is not given has no member. -/
def check (f : Field) (o : Members) : Checked Members :=
  match f.name.find? o with
  | some (spelling, v) =>
    Checked.under (.key spelling) ((f.shape.check v).map fun c => [(f.name.camel, c)])
  | none =>
    if f.default.isSome then .ok []
    else Checked.under (.key f.name.camel) (Checked.fault .missing)

/-- The field with its default, in a canonical object. -/
def complete (f : Field) (o : Members) : Text × Json :=
  match o.get? f.name.camel with
  | some v => (f.name.camel, f.shape.complete v)
  | none => (f.name.camel, f.default.getD .null)

end Field

namespace Model

/-- The members of an object that give no field. -/
def extras (m : Model) (o : Members) : Members :=
  o.filter fun (key, _) => !m.fields.any (·.name.gives o key)

/-- Check an object and bring it into canonical form.  A model that keeps the members that
are no fields looks at their names, and a name that is no string is the only issue. -/
def checkMembers (m : Model) (o : Members) : Checked Members :=
  if m.keepsExtras && o.any (!·.1.isProper) then Checked.fault .notUnicode
  else
    (Checked.gather (m.fields.map (·.check o))).map fun given =>
      given.flatten ++ if m.keepsExtras then m.extras o else []

/-- The members of a canonical object whose keys are no field names. -/
def extrasOfCanonical (m : Model) (o : Members) : Members :=
  o.filter fun (key, _) => !m.fields.any (·.name.camel == key)

/-- A canonical object with the defaults of the fields that were not given. -/
def completeMembers (m : Model) (o : Members) : Members :=
  m.fields.map (·.complete o) ++ m.extrasOfCanonical o

/-- The snake case names of the fields given in a canonical object. -/
def given (m : Model) (o : Members) : List String :=
  (m.fields.filter fun f => o.has f.name.camel).map (·.name.snake)

/-- The objects of a model. -/
def shape (m : Model) : Shape where
  check
    | .obj o => (m.checkMembers o).map .obj
    | _ => Checked.fault .notObject
  complete
    | .obj o => .obj (m.completeMembers o)
    | j => j

end Model

namespace Shape

/-- The values of a leaf; they have no defaults inside. -/
def leaf (l : Leaf) : Shape := ⟨l.check, id⟩

/-- Lists whose items all have a shape. -/
def list (s : Shape) : Shape where
  check
    | .arr xs =>
      (Checked.gather (xs.zipIdx.map fun (v, i) => Checked.under (.index i) (s.check v))).map .arr
    | _ => Checked.fault .notList
  complete
    | .arr xs => .arr (xs.map s.complete)
    | j => j

/-- Objects of one of several models; the member `type` tells which. -/
def tagged (tags : List String) (models : String → Option Model) : Shape where
  check j :=
    match j with
    | .obj o =>
      match Members.get? o "type" with
      | none => Checked.fault .tagMissing
      | some (.str (.proper tag)) =>
        match models tag with
        | some m => Checked.under (.alternative tag) (m.shape.check j)
        | none => Checked.fault (.tagUnknown tag tags)
      | some other => Checked.fault (.tagUnknown other.display tags)
    | _ => Checked.fault .notObject
  complete j :=
    match models (j.field "type").string with
    | some m => m.shape.complete j
    | none => j

/-- Add a check of the canonical value as a whole. -/
def refine (s : Shape) (fault? : Json → Option Fault) : Shape where
  check j :=
    match s.check j with
    | .error is => .error is
    | .ok c =>
      match fault? c with
      | some f => Checked.fault f
      | none => .ok c
  complete := s.complete

end Shape

namespace Field

/-- A field that has to be given. -/
def required (name : FieldName) (shape : Shape) : Field := ⟨name, shape, none⟩

def optional (name : FieldName) (shape : Shape) (default : Json) : Field :=
  ⟨name, shape, some default⟩

end Field

end WorkflowEngine.Schema
