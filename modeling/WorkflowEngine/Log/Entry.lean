import WorkflowEngine.Json.Basic

/-!
# Log entries

Computations of the engine return the entries they log beside their result: a
`Logged` value is a result together with the entries in order.  An entry carries
the context given with it and the scope it was logged in.
-/

namespace WorkflowEngine.Log

/-- The number of a log level. -/
abbrev Level := Int

namespace Level

def debug : Level := 10
def info : Level := 20
def warning : Level := 30
def error : Level := 40
def critical : Level := 50

/-- The name of a level; levels without a name of their own show their number. -/
def name (level : Level) : String :=
  if level = critical then "CRITICAL"
  else if level = error then "ERROR"
  else if level = warning then "WARNING"
  else if level = info then "INFO"
  else if level = debug then "DEBUG"
  else if level = 0 then "NOTSET"
  else "Level " ++ toString level

end Level

/-- One log entry. -/
structure Entry where
  logger : String
  level : Level
  message : String
  /-- The context given with the entry. -/
  context : Members
  /-- The context of the scopes that were open. -/
  scope : Members
deriving DecidableEq

namespace Entry

/-- The scope and the entry's own context in one; own values win. -/
def fullContext (e : Entry) : Members := e.scope.merge e.context

end Entry

/-- A result together with the entries logged on the way. -/
structure Logged (α : Type) where
  result : α
  entries : List Entry

namespace Logged

/-- A result with nothing logged. -/
def quiet {α : Type} (a : α) : Logged α := ⟨a, []⟩

/-- Continue with the result; the entries follow each other. -/
def andThen {α β : Type} (m : Logged α) (f : α → Logged β) : Logged β :=
  ⟨(f m.result).result, m.entries ++ (f m.result).entries⟩

instance : Monad Logged where
  pure := quiet
  bind := andThen

/-- Log one entry outside of any scope. -/
def emit (logger : String) (level : Level) (message : String) (context : Members) : Logged Unit :=
  ⟨(), [⟨logger, level, message, context, []⟩]⟩

/-- Run a computation inside a scope: its entries carry the scope's context below
that of the scopes it opened itself. -/
def within {α : Type} (scope : Members) (m : Logged α) : Logged α :=
  ⟨m.result, m.entries.map fun e => { e with scope := scope.merge e.scope }⟩

@[simp] theorem result_quiet {α : Type} (a : α) : (quiet a).result = a := rfl

@[simp] theorem entries_quiet {α : Type} (a : α) : (quiet a).entries = [] := rfl

@[simp] theorem result_pure {α : Type} (a : α) : (pure a : Logged α).result = a := rfl

@[simp] theorem entries_pure {α : Type} (a : α) : (pure a : Logged α).entries = [] := rfl

@[simp] theorem result_bind {α β : Type} (m : Logged α) (f : α → Logged β) :
    (m >>= f).result = (f m.result).result := rfl

@[simp] theorem entries_bind {α β : Type} (m : Logged α) (f : α → Logged β) :
    (m >>= f).entries = m.entries ++ (f m.result).entries := rfl

@[simp] theorem entries_emit (logger : String) (level : Level) (message : String)
    (context : Members) :
    (emit logger level message context).entries = [⟨logger, level, message, context, []⟩] := rfl

@[simp] theorem result_within {α : Type} (scope : Members) (m : Logged α) :
    (within scope m).result = m.result := rfl

@[simp] theorem entries_within {α : Type} (scope : Members) (m : Logged α) :
    (within scope m).entries = m.entries.map fun e => { e with scope := scope.merge e.scope } :=
  rfl

end Logged

end WorkflowEngine.Log
