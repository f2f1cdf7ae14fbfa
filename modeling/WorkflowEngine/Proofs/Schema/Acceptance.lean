import WorkflowEngine.Proofs.Schema.Restoring

/-!
# What shapes accept

A shape accepts a value if its check succeeds.  What an object needs is read off its
fields: a field that has to be given is found, and the value of a field that is found is
accepted.  In the canonical form each field is found under its camel case name with the
canonical form of its value.
-/

namespace WorkflowEngine

namespace Schema

/-! ## Fields -/

namespace FieldName

/-- The value that an object gives a field, under its camel case name or else under its
snake case name. -/
def value? (n : FieldName) (o : Members) : Option Json :=
  (o.get? n.camel).or (o.get? n.snake)

theorem value?_word (name : String) (o : Members) : (word name).value? o = o.get? name :=
  Option.or_self

theorem value?_eq_map_find? (n : FieldName) (o : Members) :
    n.value? o = (n.find? o).map Prod.snd := by
  rw [find?, value?]
  cases o.get? n.camel with
  | some v => rfl
  | none => cases o.get? n.snake <;> rfl

end FieldName

/-- A shape accepts a value if the check of the value succeeds. -/
def Shape.Accepts (s : Shape) (v : Json) : Prop := ∃ c, s.check v = .ok c

/-- An object gives a field if it has to, and gives it with a value that is accepted. -/
structure Field.Accepts (f : Field) (o : Members) : Prop where
  given : f.default = none → (f.name.value? o).isSome = true
  value : ∀ v ∈ f.name.value? o, f.shape.Accepts v

namespace Field

/-- A field that is accepted is not given or has a value that is accepted. -/
theorem value?_cases {f : Field} {o g : Members} (h : f.check o = .ok g) :
    (f.name.value? o = none ∧ g = []) ∨
      ∃ v c, f.name.value? o = some v ∧ f.shape.check v = .ok c ∧
        g = ([(f.name.camel, c)] : Members) := by
  rcases check_eq_ok_cases h with ⟨hfind, hg⟩ | ⟨spelling, v, c, hfind, hcheck, hg⟩
  · refine Or.inl ⟨?_, hg⟩
    rw [FieldName.value?_eq_map_find?, hfind]
    rfl
  · refine Or.inr ⟨v, c, ?_, hcheck, hg⟩
    rw [FieldName.value?_eq_map_find?, hfind]
    rfl

theorem accepts_iff {f : Field} {o : Members} :
    f.Accepts o ↔ f.check o = .ok (f.canonical o) := by
  constructor
  · rintro ⟨hgiven, hvalue⟩
    rw [FieldName.value?_eq_map_find?] at hgiven hvalue
    cases hfind : f.name.find? o with
    | none =>
      rw [hfind] at hgiven
      have hdefault : f.default.isSome = true := by
        rw [Option.isSome_iff_ne_none]
        intro hd
        exact absurd (hgiven hd) (by decide)
      have hcheck : f.check o = .ok [] := by
        rw [check, hfind]
        dsimp only
        rw [if_pos hdefault]
      rw [canonical_of_check_eq_ok hcheck, hcheck]
    | some found =>
      obtain ⟨spelling, v⟩ := found
      rw [hfind] at hvalue
      obtain ⟨c, hc⟩ := hvalue v rfl
      have hcheck := check_of_found hfind hc
      rw [canonical_of_check_eq_ok hcheck, hcheck]
  · intro h
    rcases value?_cases h with ⟨hnone, -⟩ | ⟨v, c, hv, hcheck, -⟩
    · refine ⟨fun hd => ?_, fun v hv => ?_⟩
      · have hfind : f.name.find? o = none := by
          rwa [FieldName.value?_eq_map_find?, Option.map_eq_none_iff] at hnone
        rw [check, hfind, hd] at h
        contradiction
      · rw [hnone] at hv
        contradiction
    · refine ⟨fun _ => Option.isSome_iff_exists.mpr ⟨v, hv⟩, fun w hw => ?_⟩
      obtain rfl := Option.some.inj (hv.symm.trans hw)
      exact ⟨c, hcheck⟩

/-- A field that has to be given is given. -/
theorem Accepts.of_required {o : Members} {key : String} {shape : Shape}
    (h : (Field.required (.word key) shape).Accepts o) :
    ∃ v, o.get? key = some v ∧ shape.Accepts v := by
  obtain ⟨v, hv⟩ := Option.isSome_iff_exists.mp (h.given rfl)
  have hshape := h.value v hv
  rw [Field.required, FieldName.value?_word] at hv
  exact ⟨v, hv, hshape⟩

end Field

/-! ## Objects -/

namespace Model

variable {m : Model} {o members : Members}

theorem accepts_shape_iff {v : Json} :
    m.shape.Accepts v ↔ ∃ o, v = .obj o ∧ m.AdmitsNames o ∧ ∀ f ∈ m.fields, f.Accepts o := by
  constructor
  · rintro ⟨c, hc⟩
    obtain ⟨o, members, rfl, -, hmembers⟩ := check_shape_eq_ok_iff.mp hc
    obtain ⟨hnames, hfields, -⟩ := checkMembers_eq_ok_iff.mp hmembers
    exact ⟨o, rfl, hnames, fun f hf => Field.accepts_iff.mpr (hfields f hf)⟩
  · rintro ⟨o, rfl, hnames, hall⟩
    have hmembers : m.checkMembers o = .ok (m.fieldMembers o ++ m.keptExtras o) :=
      checkMembers_eq_ok_iff.mpr ⟨hnames, fun f hf => Field.accepts_iff.mp (hall f hf), rfl⟩
    exact ⟨_, check_shape_eq_ok_iff.mpr ⟨o, _, rfl, rfl, hmembers⟩⟩

theorem get?_camel_keptExtras {f : Field} (hf : f ∈ m.fields) :
    (m.keptExtras o).get? f.name.camel = none := by
  rw [Members.get?_eq_none_iff]
  intro hkey
  obtain ⟨member, hmember, hname⟩ := List.mem_map.mp hkey
  exact (key_ne_of_mem_keptExtras hmember hf).1 hname

theorem get?_camel_fieldMembers (hm : m.Distinct) {f : Field} (hf : f ∈ m.fields) {c : Json} :
    (m.fieldMembers o).get? f.name.camel = some c ↔ ((f.name.camel : Text), c) ∈ f.canonical o := by
  have hkeys : ((m.fieldMembers o).map Prod.fst).Nodup :=
    hm.nodup_keys.sublist (m.key_sublist_fieldMembers o)
  rw [Members.get?_eq_some_iff hkeys, mem_fieldMembers_iff]
  constructor
  · rintro ⟨g, hg, hin⟩
    obtain ⟨spelling, v, -, -, hname⟩ := Field.mem_canonical_iff.mp hin
    obtain rfl := eq_of_camel_eq hm hf hg hname
    exact hin
  · intro hin
    exact ⟨f, hf, hin⟩

/-- A field that is given is found in the canonical form under its camel case name, with the
canonical form of its value, and no other field is. -/
theorem get?_of_check (hm : m.Distinct) (hc : m.checkMembers o = .ok members) {f : Field}
    (hf : f ∈ m.fields) :
    (f.name.value? o = none ∧ members.get? f.name.camel = none) ∨
      ∃ v c, f.name.value? o = some v ∧ f.shape.check v = .ok c ∧
        members.get? f.name.camel = some c := by
  obtain ⟨-, hfields, rfl⟩ := checkMembers_eq_ok_iff.mp hc
  have hget : (m.fieldMembers o ++ m.keptExtras o).get? f.name.camel =
      (m.fieldMembers o).get? f.name.camel := by
    have hextras := get?_camel_keptExtras (o := o) hf
    rw [Members.get?] at hextras ⊢
    rw [List.lookup_append, hextras, Option.or_none]
    rfl
  rw [hget]
  rcases Field.value?_cases (hfields f hf) with ⟨hnone, hnil⟩ | ⟨v, c, hv, hcheck, hg⟩
  · refine Or.inl ⟨hnone, ?_⟩
    rw [Option.eq_none_iff_forall_ne_some]
    intro c hsome
    rw [get?_camel_fieldMembers hm hf, hnil] at hsome
    contradiction
  · refine Or.inr ⟨v, c, hv, hcheck, ?_⟩
    rw [get?_camel_fieldMembers hm hf, hg]
    exact List.mem_singleton_self _

/-- A field that has to be given is checked on its own. -/
theorem check_field_of_required (hm : m.Distinct) {v c : Json} (hc : m.shape.check v = .ok c)
    {key : String} {shape : Shape} (hf : .required (.word key) shape ∈ m.fields) :
    shape.check (v.field key) = .ok (c.field key) := by
  obtain ⟨o, members, rfl, rfl, hmembers⟩ := check_shape_eq_ok_iff.mp hc
  have haccepts := Field.accepts_iff.mpr ((checkMembers_eq_ok_iff.mp hmembers).2.1 _ hf)
  obtain ⟨u, hu, -⟩ := haccepts.of_required
  rcases get?_of_check hm hmembers hf with ⟨hnone, -⟩ | ⟨u', w, hu', hcheck, hw⟩
  · rw [Field.required, FieldName.value?_word, hu] at hnone
    contradiction
  · rw [Field.required, FieldName.value?_word] at hu'
    have hw' : Members.get? members key = some w := hw
    rw [Json.field, Json.field, hu', hw']
    exact hcheck

end Model

/-! ## Lists -/

namespace Shape

theorem accepts_list_iff {s : Shape} {v : Json} :
    (list s).Accepts v ↔ ∃ xs : List Json, v = .arr xs ∧ ∀ x ∈ xs, s.Accepts x := by
  constructor
  · rintro ⟨c, hc⟩
    obtain ⟨xs, cs, rfl, -, hall⟩ := check_list_eq_ok_iff.mp hc
    refine ⟨xs, rfl, fun x hx => ?_⟩
    have hmem : s.check x ∈ cs.map .ok := hall ▸ List.mem_map_of_mem hx
    obtain ⟨c, -, hcheck⟩ := List.mem_map.mp hmem
    exact ⟨c, hcheck.symm⟩
  · rintro ⟨xs, rfl, hall⟩
    have hitems : ∃ cs, List.Forall₂ (fun x c => s.check x = .ok c) xs cs := by
      induction xs with
      | nil => exact ⟨[], .nil⟩
      | cons x xs ih =>
        rw [List.forall_mem_cons] at hall
        obtain ⟨c, hc⟩ := hall.1
        obtain ⟨cs, hcs⟩ := ih hall.2
        exact ⟨c :: cs, .cons hc hcs⟩
    obtain ⟨cs, hcs⟩ := hitems
    exact ⟨.arr cs, check_list_eq_ok_iff_forall₂.mpr ⟨xs, cs, rfl, rfl, hcs⟩⟩

end Shape

end Schema

end WorkflowEngine
