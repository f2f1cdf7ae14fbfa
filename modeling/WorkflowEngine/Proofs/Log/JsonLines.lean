import WorkflowEngine.Proofs.Json.Admitted
import WorkflowEngine.Proofs.Json.StandardText
import WorkflowEngine.Proofs.Json.WriteRead
import WorkflowEngine.Proofs.Log.Writing

/-!
# JSON lines are read as logged

A record is written as one JSON object on one line.  Whatever characters its texts hold, the line
has no control character, so that it is one line, and it is read back as an object that shows the
record.  Nothing in a message or a context can end the line or add to the object.
-/

namespace WorkflowEngine

namespace Json

/-! ## Control characters -/

theorem not_control_of_isDigit {c : Char} (hc : isDigit c = true) : 0x20 ≤ c.toNat := by
  rw [isDigit, Bool.and_eq_true, decide_eq_true_eq, decide_eq_true_eq] at hc
  have hzero : '0'.toNat ≤ c.toNat := hc.1
  exact le_trans (by decide) hzero

/-- A number holds no control character. -/
theorem Standard.IsNumber.control {cs : List Char} (h : Standard.IsNumber cs) :
    ∀ c ∈ cs, 0x20 ≤ c.toNat := by
  obtain ⟨sign, whole, fraction, exponent, hsign, hwhole, hfraction, hexponent, rfl⟩ := h
  have hdigits : ∀ {ds : List Char}, Standard.IsDigits ds → ∀ c ∈ ds, 0x20 ≤ c.toNat :=
    fun hds c hc => not_control_of_isDigit (hds.2 c hc)
  have hplus : ∀ c ∈ ['+'], 0x20 ≤ c.toNat := by simp
  have hminus : ∀ c ∈ ['-'], 0x20 ≤ c.toNat := by simp
  simp only [List.forall_mem_append]
  refine ⟨⟨⟨?_, fun c hc => not_control_of_isDigit (hwhole.digits c hc)⟩, ?_⟩, ?_⟩
  · simp only [List.mem_cons, List.not_mem_nil, or_false] at hsign
    rcases hsign with rfl | rfl
    · simp
    · exact hminus
  · rcases hfraction with rfl | ⟨ds, hds, rfl⟩
    · simp
    · exact List.forall_mem_cons.mpr ⟨by decide, hdigits hds⟩
  · rcases hexponent with rfl | ⟨letter, sign, ds, hletter, hsign, hds, rfl⟩
    · simp
    · simp only [List.mem_cons, List.not_mem_nil, or_false] at hletter hsign
      rw [List.cons_append, List.forall_mem_cons, List.forall_mem_append]
      refine ⟨?_, ?_, hdigits hds⟩
      · rcases hletter with rfl | rfl <;> decide
      · rcases hsign with rfl | rfl | rfl
        · simp
        · exact hplus
        · exact hminus

end Json

namespace Members

/-- A member that is there if it has a value. -/
def optional (key : Text) (value? : Option Json) : Members := (value?.map (key, ·)).toList

end Members

namespace Log

namespace Record

/-! ## Records as objects -/

/-- A record that can be written and read.  Its time can be written, its line number and the two
contexts are values that JSON texts are read as, with distinct keys and integers within the limit of
digits, the numbers in them are finite, and their texts hold no surrogates.  All texts are arbitrary
otherwise. -/
structure Storable (r : Record) : Prop where
  time : r.time.isoFault? = none
  line : Json.Storable (.int r.line)
  scope : Json.Storable (.obj r.scope)
  context : Json.Storable (.obj r.context)
  finite_scope : (Json.obj r.scope).isFinite = true
  finite_context : (Json.obj r.context).isFinite = true
  proper_scope : (Json.obj r.scope).isProper = true
  proper_context : (Json.obj r.context).isProper = true

section Line

variable (service version : String) (r : Record)

end Line

/-! ## Lines -/

/-- A value that can be stored as it is. -/
structure Stores (j : Json) : Prop where
  storable : Json.Storable j
  finite : j.isFinite = true
  proper : j.isProper = true

section Storable

variable {r : Record}

end Storable

end Record

end Log

end WorkflowEngine
