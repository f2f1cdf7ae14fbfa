import WorkflowEngine.Log.Entry

/-!
# Scopes of log context

A scope object holds context that every entry logged inside it carries.  Entering an
object lays its context over the scope that is current and remembers that scope in
the object; leaving restores the remembered scope, once.
-/

namespace WorkflowEngine.Log

/-- A scope object. -/
structure ScopeObject where
  name : String
  context : Members
  /-- The scope to restore, if the object has been entered and not left. -/
  saved : Option Members

/-- The scope objects and the scope that is current. -/
structure ScopeState where
  current : Members
  objects : List ScopeObject

namespace ScopeState

/-- No scope and no objects. -/
def initial : ScopeState := ⟨[], []⟩

def find? (s : ScopeState) (name : String) : Option ScopeObject := s.objects.find? (·.name == name)

/-- Replace the object with the same name, or add it. -/
def put (s : ScopeState) (o : ScopeObject) : ScopeState :=
  { s with objects := o :: s.objects.filter (·.name != o.name) }

/-- Make a new object. -/
def create (s : ScopeState) (name : String) (context : Members) : ScopeState :=
  s.put ⟨name, context, none⟩

/-- Enter an object: its context goes over the current scope. -/
def enter (s : ScopeState) (name : String) : ScopeState :=
  match s.find? name with
  | none => s
  | some o =>
    { s.put { o with saved := some s.current } with current := s.current.merge o.context }

/-- Leave an object: the scope it was entered from is current again.  An object that
is not entered changes nothing. -/
def leave (s : ScopeState) (name : String) : ScopeState :=
  match s.find? name with
  | none => s
  | some o =>
    match o.saved with
    | none => s
    | some scope => { s.put { o with saved := none } with current := scope }

/-- The full context of an entry logged now with some context of its own. -/
def contextOf (s : ScopeState) (own : Members) : Members := s.current.merge own

end ScopeState

end WorkflowEngine.Log
