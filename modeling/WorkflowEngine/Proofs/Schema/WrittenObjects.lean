import WorkflowEngine.Proofs.Schema.Restoring

/-!
# Objects written field by field

What the engine writes gives some of the fields of a model, each once, in the order of their
declaration and under their camel case names.  `Model.written` is such an object, made from the
values of the fields.  Each field finds its own value in it again, so the model accepts it as it
is if it accepts the values.
-/

namespace WorkflowEngine.Schema

/-- A field takes what it is given: a value that its shape accepts as it is, or no value if it has a
default. -/
def Field.Takes (f : Field) : Option Json → Prop
  | some v => f.shape.check v = .ok v
  | none => f.default.isSome = true

namespace Model

/-- The object that gives those fields of a model that have a value. -/
def written (m : Model) (value? : String → Option Json) : Members :=
  m.fields.filterMap fun f => (value? f.name.camel).map ((f.name.camel : Text), ·)

variable {m : Model} {value? : String → Option Json}

theorem mem_written_iff {member : Text × Json} :
    member ∈ m.written value? ↔
      ∃ f ∈ m.fields, member.1 = f.name.camel ∧ value? f.name.camel = some member.2 := by
  obtain ⟨key, v⟩ := member
  rw [written, List.mem_filterMap]
  simp only [Option.map_eq_some_iff, Prod.mk.injEq]
  constructor
  · rintro ⟨f, hf, w, hw, rfl, rfl⟩
    exact ⟨f, hf, rfl, hw⟩
  · rintro ⟨f, hf, rfl, hv⟩
    exact ⟨f, hf, v, hv, rfl, rfl⟩

theorem keys_written_sublist (m : Model) (value? : String → Option Json) :
    ((m.written value?).map Prod.fst).Sublist
      (m.fields.map fun f => (f.name.camel : Text)) := by
  rw [written]
  generalize m.fields = fields
  induction fields with
  | nil => exact List.Sublist.slnil
  | cons f fields ih =>
    cases hv : value? f.name.camel with
    | none => simpa [List.filterMap_cons, hv] using ih.cons (f.name.camel : Text)
    | some v => simpa [List.filterMap_cons, hv] using ih

theorem nodup_keys_written (hm : m.Distinct) : ((m.written value?).map Prod.fst).Nodup :=
  hm.nodup_keys.sublist (m.keys_written_sublist value?)

theorem get?_camel_written (hm : m.Distinct) {f : Field} (hf : f ∈ m.fields) :
    (m.written value?).get? f.name.camel = value? f.name.camel := by
  apply Option.ext
  intro v
  rw [Members.get?_eq_some_iff (nodup_keys_written hm), mem_written_iff]
  constructor
  · rintro ⟨g, hg, hname, hv⟩
    rwa [eq_of_camel_eq hm hf hg hname]
  · intro hv
    exact ⟨f, hf, rfl, hv⟩

/-- A field without a value is not found under its other name either. -/
theorem get?_snake_written (hm : m.Distinct) {f : Field} (hf : f ∈ m.fields)
    (hnone : value? f.name.camel = none) : (m.written value?).get? f.name.snake = none := by
  rw [Members.get?_eq_none_iff]
  intro hkey
  obtain ⟨member, hmember, hname⟩ := List.mem_map.mp hkey
  obtain ⟨g, hg, hcamel, hv⟩ := mem_written_iff.mp hmember
  have hsame : f.name.camel = g.name.camel :=
    hm.apart f hf g hg (Text.proper.inj (hname.symm.trans hcamel))
  rw [← hsame, hnone] at hv
  contradiction

theorem find?_written (hm : m.Distinct) {f : Field} (hf : f ∈ m.fields) :
    f.name.find? (m.written value?) = (value? f.name.camel).map ((f.name.camel : Text), ·) := by
  rw [FieldName.find?, get?_camel_written hm hf]
  cases hv : value? f.name.camel with
  | some v => rfl
  | none =>
    dsimp only
    rw [get?_snake_written hm hf hv]
    rfl

/-- A model accepts a written object as it is, if its fields take the values. -/
theorem check_written (hm : m.Distinct) (hextras : m.keepsExtras = false)
    (htakes : ∀ f ∈ m.fields, f.Takes (value? f.name.camel)) :
    m.shape.check (.obj (m.written value?)) = .ok (.obj (m.written value?)) := by
  have hcheck : ∀ f ∈ m.fields, f.check (m.written value?) =
      .ok ((value? f.name.camel).map ((f.name.camel : Text), ·)).toList := by
    intro f hf
    have hfind : f.name.find? (m.written value?) =
        (value? f.name.camel).map ((f.name.camel : Text), ·) :=
      find?_written hm hf
    have hvalue := htakes f hf
    cases hv : value? f.name.camel with
    | none =>
      rw [hv] at hfind hvalue
      rw [Field.check, hfind]
      exact if_pos hvalue
    | some v =>
      rw [hv] at hfind hvalue
      exact Field.check_of_found hfind hvalue
  have hfields : m.fieldMembers (m.written value?) = m.written value? := by
    rw [fieldMembers, List.flatMap_congr fun f hf => Field.canonical_of_check_eq_ok (hcheck f hf),
      written, List.filterMap_eq_flatMap_toList]
  rw [check_shape_eq_ok_iff]
  refine ⟨_, _, rfl, rfl, checkMembers_eq_ok_iff.mpr ⟨?_, ?_, ?_⟩⟩
  · intro hkeeps
    rw [hextras] at hkeeps
    contradiction
  · intro f hf
    rw [Field.canonical_of_check_eq_ok (hcheck f hf), hcheck f hf]
  · rw [hfields, keptExtras, hextras]
    simp

end Model

end WorkflowEngine.Schema
