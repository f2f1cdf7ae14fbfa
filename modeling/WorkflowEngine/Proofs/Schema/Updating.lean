import WorkflowEngine.Proofs.Schema.Acceptance

/-!
# One value changed

An object in which the value of one field is changed is checked as before but for that field.
So its canonical form changes in that field alone, as long as the new value is accepted.
-/

namespace WorkflowEngine

namespace Members

/-- The members with the value of one key changed. -/
def update (o : Members) (key : Text) (change : Json → Json) : Members :=
  o.map fun member => (member.1, if member.1 = key then change member.2 else member.2)

variable (o : Members) (key : Text) (change : Json → Json)

theorem keys_update : (o.update key change).map Prod.fst = o.map Prod.fst := by
  rw [update, List.map_map]
  rfl

theorem has_update (other : Text) : (o.update key change).has other = o.has other := by
  rw [Bool.eq_iff_iff, has_iff, has_iff, keys_update]

theorem get?_update (other : Text) :
    (o.update key change).get? other =
      (o.get? other).map fun v => if other = key then change v else v := by
  induction o with
  | nil => rfl
  | cons m o ih =>
    obtain ⟨k, v⟩ := m
    rw [update, List.map_cons, ← update, get?_cons, get?_cons, ih]
    by_cases hk : other = k
    · simp [hk]
    · simp [hk]

/-- Other members stay as they are. -/
theorem update_eq_self {o : Members} (h : ∀ member ∈ o, member.1 ≠ key) :
    o.update key change = o := by
  refine (List.map_congr_left fun member hmember => ?_).trans (List.map_id o)
  rw [if_neg (h member hmember)]
  rfl

end Members

namespace Schema

namespace Field

variable {f : Field} {o : Members} {key : String} {change : Json → Json}

/-- A field that does not go by the key is checked as before. -/
theorem check_update_of_ne (hname : f.name.camel ≠ key ∧ f.name.snake ≠ key) :
    f.check (o.update key change) = f.check o := by
  have hget : ∀ other : String, other ≠ key → (o.update key change).get? other = o.get? other := by
    intro other hother
    rw [Members.get?_update]
    simp [hother]
  rw [check, check, FieldName.find?, FieldName.find?, hget _ hname.1, hget _ hname.2]

/-- A field that goes by the key gets the new value. -/
theorem check_update_of_word (hname : f.name = .word key)
    (hcheck : f.check o = .ok (f.canonical o))
    (hvalue : ∀ v w, f.shape.check v = .ok w → f.shape.check (change v) = .ok (change w)) :
    f.check (o.update key change) = .ok ((f.canonical o).update key change) := by
  have hcamel : f.name.camel = key := by rw [hname]; rfl
  rcases value?_cases hcheck with ⟨hnone, hnil⟩ | ⟨v, c, hv, hc, hg⟩
  · have hfind : f.name.find? (o.update key change) = f.name.find? o := by
      rw [hname, FieldName.value?_word] at hnone
      rw [hname, FieldName.find?, FieldName.find?, FieldName.word, Members.get?_update, hnone]
      rfl
    have hsame : f.check (o.update key change) = f.check o := by
      rw [check, check, hfind]
    rw [hsame, hcheck, hnil]
    rfl
  · have hfind : f.name.find? (o.update key change) = some ((key : Text), change v) := by
      rw [hname, FieldName.value?_word] at hv
      rw [hname, FieldName.find?, FieldName.word, Members.get?_update, hv]
      simp
    rw [check_of_found hfind (hvalue v c hc), hg]
    simp [Members.update, hcamel]

end Field

namespace Model

variable {m : Model} {o : Members} {key : String} {change : Json → Json}

theorem keptExtras_update :
    m.keptExtras (o.update key change) = (m.keptExtras o).update key change := by
  have hextra : ∀ other, m.isExtra (o.update key change) other = m.isExtra o other := by
    intro other
    simp only [isExtra, FieldName.gives, Members.has_update]
  rw [keptExtras, keptExtras]
  split
  · rw [extras_eq_filter, extras_eq_filter, Members.update, Members.update, List.filter_map]
    refine congrArg _ (List.filter_congr fun member _ => ?_)
    exact hextra member.1
  · rfl

/-- The canonical form changes where the object does. -/
theorem checkMembers_update {c : Members} (hc : m.checkMembers o = .ok c) {f : Field}
    (hname : f.name = .word key)
    (hothers : ∀ g ∈ m.fields, g = f ∨ g.name.camel ≠ key ∧ g.name.snake ≠ key)
    (hvalue : ∀ v w, f.shape.check v = .ok w → f.shape.check (change v) = .ok (change w)) :
    m.checkMembers (o.update key change) = .ok (c.update key change) := by
  obtain ⟨hnames, hfields, rfl⟩ := checkMembers_eq_ok_iff.mp hc
  have hadmitted : m.AdmitsNames (o.update key change) := by
    intro hkeeps member hmember
    obtain ⟨origin, horigin, rfl⟩ := List.mem_map.mp hmember
    exact hnames hkeeps origin horigin
  have hcheck : ∀ g ∈ m.fields,
      g.check (o.update key change) = .ok ((g.canonical o).update key change) := by
    intro g hg
    rcases hothers g hg with rfl | hother
    · exact Field.check_update_of_word hname (hfields g hg) hvalue
    · have hkeys : ∀ member ∈ g.canonical o, member.1 ≠ key := by
        intro member hmember
        obtain ⟨-, -, -, -, hcamel⟩ := Field.mem_canonical_iff.mp hmember
        rw [hcamel]
        exact fun heq => hother.1 (Text.proper.inj heq)
      rw [Field.check_update_of_ne hother, hfields g hg, Members.update_eq_self _ _ hkeys]
  have hcanonical : m.fieldMembers (o.update key change) =
      (m.fieldMembers o).update key change := by
    calc m.fieldMembers (o.update key change)
        = m.fields.flatMap fun g => (g.canonical o).update key change :=
          List.flatMap_congr fun g hg => Field.canonical_of_check_eq_ok (hcheck g hg)
      _ = (m.fieldMembers o).update key change := List.map_flatMap.symm
  rw [checkMembers_eq_ok_iff, hcanonical, keptExtras_update]
  refine ⟨hadmitted, fun g hg => ?_, List.map_append⟩
  rw [Field.canonical_of_check_eq_ok (hcheck g hg)]
  exact hcheck g hg

end Model

end Schema

end WorkflowEngine
