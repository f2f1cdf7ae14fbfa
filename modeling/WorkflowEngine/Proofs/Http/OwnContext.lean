import WorkflowEngine.Http.Service
import WorkflowEngine.Proofs.Log.Nesting

/-!
# What entries bring along

The engine and the loader log outside of every scope.  Which keys a scope may add to their entries
without losing its own values depends on the keys that their own contexts hold.
-/

namespace WorkflowEngine

namespace Members

/-- What is laid over an object leaves the keys alone that it does not hold. -/
theorem get?_merge_of_eq_none {o top : Members} {key : Text} (h : top.get? key = none) :
    (o.merge top).get? key = o.get? key := by
  have hreverse : top.reverse.lookup key = none := by
    rw [get?, List.lookup_eq_none_iff] at h
    rw [List.lookup_eq_none_iff]
    intro p hp
    exact h p (List.mem_reverse.mp hp)
  rw [merge, get?_foldl_put, hreverse, Option.none_or]

end Members

namespace Log.Logged

/-- The entries are logged outside of every scope, and none brings a key along. -/
def Lacks {α : Type} (m : Logged α) (key : String) : Prop :=
  ∀ e ∈ m.entries, e.scope = [] ∧ e.context.get? key = none

variable {α β : Type} {key : String}

theorem lacks_quiet (a : α) : (quiet a).Lacks key := by simp [Lacks]

theorem lacks_pure (a : α) : (pure a : Logged α).Lacks key := by simp [Lacks]

theorem lacks_emit {logger : String} {level : Level} {message : String} {context : Members}
    (h : context.get? key = none) : (emit logger level message context).Lacks key := by
  simp [Lacks, h]

theorem Lacks.bind {m : Logged α} {f : α → Logged β} (hm : m.Lacks key)
    (hf : (f m.result).Lacks key) : (m >>= f).Lacks key := by
  intro e he
  rcases List.mem_append.mp he with he | he
  · exact hm e he
  · exact hf e he

/-- Without scopes of their own entries are the same inside no scope. -/
theorem Lacks.within_nil {m : Logged α} (hm : m.Lacks key) : within [] m = m := by
  have hentry : ∀ e ∈ m.entries, { e with scope := Members.merge [] e.scope } = e := by
    intro e he
    obtain ⟨logger, level, message, context, scope⟩ := e
    obtain rfl := (hm _ he).1
    rfl
  rw [within, List.map_congr_left hentry, List.map_id']

/-- An entry logged inside a scope shows what the scope holds under a key that is not brought
along. -/
theorem Lacks.get?_fullContext_within {m : Logged α} (hm : m.Lacks key) {scope : Members}
    {e : Entry} (he : e ∈ (within scope m).entries) :
    e.fullContext.get? key = scope.get? key := by
  rw [entries_within] at he
  obtain ⟨own, hown, rfl⟩ := List.mem_map.mp he
  obtain ⟨hscope, hcontext⟩ := hm own hown
  rw [Entry.fullContext, hscope]
  exact Members.get?_merge_of_eq_none hcontext

end Log.Logged

open Log

/-! ## The engine -/

namespace Workflow

theorem lacks_logCycle (w : Workflow) : w.logCycle.Lacks Http.pathKey := by
  rw [logCycle]
  split
  · exact Logged.lacks_emit rfl
  · exact Logged.lacks_quiet _

theorem lacks_validate (w : Workflow) : w.validate.Lacks Http.pathKey :=
  w.lacks_logCycle.bind ((Logged.lacks_emit rfl).bind (Logged.lacks_pure _))

theorem lacks_report (w : Workflow) : w.report.Lacks Http.pathKey :=
  w.lacks_validate.bind (Logged.lacks_pure _)

theorem lacks_simulateWith (w : Workflow) (findings : List Finding) :
    (w.simulateWith findings).Lacks Http.pathKey := by
  rw [simulateWith]
  dsimp only
  split
  · exact (Logged.lacks_emit rfl).bind (Logged.lacks_pure _)
  · exact (Logged.lacks_emit rfl).bind (Logged.lacks_pure _)

theorem lacks_simulate (w : Workflow) : w.simulate.Lacks Http.pathKey :=
  w.lacks_validate.bind (w.lacks_simulateWith _)

end Workflow

/-! ## The loader -/

namespace Document

theorem lacks_load (source : Source) {key : String} (h : key = Http.pathKey ∨ key = "action") :
    (load source).Lacks key := by
  have hlog : ∀ failure : LoadFailure, failure.log.Lacks key := by
    intro failure
    rcases h with rfl | rfl
    all_goals
      cases failure with
      | tooManyDigits count => exact Logged.lacks_quiet _
      | _ => exact Logged.lacks_emit rfl
  rw [load]
  split
  · exact Logged.lacks_quiet _
  · exact (hlog _).bind (Logged.lacks_pure _)

end Document

end WorkflowEngine
