import Mathlib.Data.List.Nodup
import WorkflowEngine.Proofs.Json.Content
import WorkflowEngine.Schema.Shape

/-!
# Canonical objects

The canonical form of an object has each given field once, under its camel case name,
and then the members that give no field.  Keys stay distinct, and so each of the fields
is found again in the canonical form, whatever is done to the values.
-/

namespace WorkflowEngine

namespace Schema

/-! ## Independent checks -/

namespace Checked

variable {ι α β : Type}

/-- Checks put together succeed exactly if each of them does. -/
theorem gather_eq_ok_iff {cs : List (Checked α)} {xs : List α} :
    gather cs = .ok xs ↔ cs = xs.map .ok := by
  induction cs generalizing xs with
  | nil =>
    cases xs with
    | nil => simp [gather]
    | cons x xs => simp [gather]
  | cons c cs ih =>
    cases xs with
    | nil =>
      cases c <;> cases hcs : gather cs <;> simp [gather, hcs]
    | cons x xs =>
      rw [List.map_cons, List.cons.injEq, ← ih]
      cases c <;> cases hcs : gather cs <;> simp [gather, hcs]

/-- The same for a result that is made of what the checks give. -/
theorem map_gather_eq_ok_iff {cs : List (Checked α)} {f : List α → β} {y : β} :
    (gather cs).map f = .ok y ↔ ∃ xs, cs = xs.map .ok ∧ f xs = y := by
  simp only [map_eq_ok_iff, gather_eq_ok_iff]

/-- Checks that can give one value each give these values if they succeed. -/
theorem map_eq_map_ok_iff {check : ι → Checked α} {value : ι → α}
    (hvalue : ∀ i x, check i = .ok x → value i = x) {is : List ι} {xs : List α} :
    is.map check = xs.map .ok ↔
      (∀ i ∈ is, check i = .ok (value i)) ∧ xs = is.map value := by
  constructor
  · intro h
    have hall : ∀ i ∈ is, check i = .ok (value i) := by
      intro i hi
      obtain ⟨x, -, hx⟩ := List.mem_map.mp (h ▸ List.mem_map_of_mem hi)
      rw [← hx, hvalue i x hx.symm]
    refine ⟨hall, ?_⟩
    rw [List.map_congr_left hall, ← Function.comp_def, ← List.map_map] at h
    exact (List.map_injective_iff.mpr (fun _ _ h => Except.ok.inj h) h).symm
  · rintro ⟨hall, rfl⟩
    rw [List.map_map]
    exact List.map_congr_left hall

theorem gather_of_error_mem {cs : List (Checked α)} {issues : List Issue}
    (h : .error issues ∈ cs) : ∃ all, gather cs = .error all := by
  cases hcs : gather cs with
  | error all => exact ⟨all, rfl⟩
  | ok xs =>
    rw [gather_eq_ok_iff.mp hcs, List.mem_map] at h
    obtain ⟨x, -, hx⟩ := h
    contradiction

theorem under_eq_ok_iff {step : PathStep} {c : Checked α} {x : α} :
    under step c = .ok x ↔ c = .ok x := by
  cases c <;> simp [under, Except.mapError]

end Checked

/-! ## Fields -/

theorem FieldName.find?_eq_none_iff {n : FieldName} {o : Members} :
    n.find? o = none ↔ o.get? n.camel = none ∧ o.get? n.snake = none := by
  rw [find?]
  cases o.get? n.camel with
  | none => simp
  | some v => simp

namespace Field

theorem check_of_found {f : Field} {o : Members} {spelling : Text} {v c : Json}
    (hfind : f.name.find? o = some (spelling, v)) (hv : f.shape.check v = .ok c) :
    f.check o = .ok ([(f.name.camel, c)] : Members) := by
  rw [check, hfind]
  dsimp only
  rw [Checked.under_eq_ok_iff, hv]
  rfl

/-- What a field contributes to the canonical form of an object: one member if it is
given and nothing if it is not. -/
theorem check_eq_ok_cases {f : Field} {o g : Members} (h : f.check o = .ok g) :
    (f.name.find? o = none ∧ g = []) ∨
      ∃ spelling v c, f.name.find? o = some (spelling, v) ∧ f.shape.check v = .ok c ∧
        g = ([(f.name.camel, c)] : Members) := by
  rw [check] at h
  cases hfind : f.name.find? o with
  | none =>
    rw [hfind] at h
    dsimp only at h
    split at h
    · injection h with hg
      exact Or.inl ⟨rfl, hg.symm⟩
    · contradiction
  | some found =>
    obtain ⟨spelling, v⟩ := found
    rw [hfind] at h
    dsimp only at h
    rw [Checked.under_eq_ok_iff] at h
    cases hcheck : f.shape.check v with
    | error issues =>
      rw [hcheck] at h
      contradiction
    | ok c =>
      rw [hcheck] at h
      injection h with hg
      exact Or.inr ⟨spelling, v, c, rfl, hcheck, hg.symm⟩

/-- The contribution of a field to a canonical form. -/
def canonical (f : Field) (o : Members) : Members :=
  match f.check o with
  | .ok g => g
  | .error _ => []

theorem canonical_of_check_eq_ok {f : Field} {o g : Members} (h : f.check o = .ok g) :
    f.canonical o = g := by
  rw [canonical, h]

theorem mem_canonical_iff {f : Field} {o : Members} {m : Text × Json} :
    m ∈ f.canonical o ↔ ∃ spelling v, f.name.find? o = some (spelling, v) ∧
      f.shape.check v = .ok m.2 ∧ m.1 = f.name.camel := by
  constructor
  · intro hm
    cases hcheck : f.check o with
    | error issues =>
      rw [canonical, hcheck] at hm
      contradiction
    | ok g =>
      rw [canonical_of_check_eq_ok hcheck] at hm
      rcases check_eq_ok_cases hcheck with ⟨-, rfl⟩ | ⟨spelling, v, c, hfind, hv, rfl⟩
      · contradiction
      · rw [List.mem_singleton] at hm
        exact ⟨spelling, v, hfind, by rw [hm, hv], by rw [hm]⟩
  · rintro ⟨spelling, v, hfind, hv, hkey⟩
    rw [canonical_of_check_eq_ok (check_of_found hfind hv), List.mem_singleton, ← hkey]

theorem key_sublist_canonical (f : Field) (o : Members) :
    ((f.canonical o).map Prod.fst).Sublist [f.name.camel] := by
  cases hcheck : f.check o with
  | error issues => simp [canonical, hcheck]
  | ok g =>
    rw [canonical_of_check_eq_ok hcheck]
    rcases check_eq_ok_cases hcheck with ⟨-, rfl⟩ | ⟨spelling, v, c, -, -, rfl⟩
    · simp
    · simp

end Field

/-! ## Models -/

namespace Model

/-- No two fields have one camel case name, and none has the camel case name of another
one for its snake case name. -/
structure Distinct (m : Model) : Prop where
  nodup : (m.fields.map (·.name.camel)).Nodup
  apart : ∀ f ∈ m.fields, ∀ g ∈ m.fields, f.name.snake = g.name.camel →
    f.name.camel = g.name.camel

theorem Distinct.nodup_keys {m : Model} (hm : m.Distinct) :
    (m.fields.map fun f => (f.name.camel : Text)).Nodup := by
  have hkeys := hm.nodup.map fun _ _ h => Text.proper.inj h
  rwa [List.map_map] at hkeys

/-- The members that the fields contribute to the canonical form of an object. -/
def fieldMembers (m : Model) (o : Members) : Members := m.fields.flatMap (·.canonical o)

/-- The members that are kept although they give no field. -/
def keptExtras (m : Model) (o : Members) : Members := if m.keepsExtras then m.extras o else []

/-- The names of members are looked at only by a model that keeps extras, and then they have to
be strings. -/
def AdmitsNames (m : Model) (o : Members) : Prop :=
  m.keepsExtras = true → ∀ member ∈ o, member.1.isProper = true

theorem checkMembers_of_admitsNames {m : Model} {o : Members} (h : m.AdmitsNames o) :
    m.checkMembers o = (Checked.gather (m.fields.map (·.check o))).map fun given =>
      given.flatten ++ m.keptExtras o := by
  rw [checkMembers, if_neg]
  · rfl
  · simp only [Bool.and_eq_true, List.any_eq_true, Bool.not_eq_true', not_and, not_exists,
      Bool.not_eq_false]
    exact h

theorem checkMembers_of_not_admitsNames {m : Model} {o : Members} (h : ¬ m.AdmitsNames o) :
    m.checkMembers o = Checked.fault .notUnicode := by
  rw [checkMembers, if_pos]
  simpa [AdmitsNames] using h

/-- An object is accepted if its names are admitted and each field is accepted, and then its
canonical form is made of what the fields contribute and of the members that are kept. -/
theorem checkMembers_eq_ok_iff {m : Model} {o c : Members} :
    m.checkMembers o = .ok c ↔
      m.AdmitsNames o ∧ (∀ f ∈ m.fields, f.check o = .ok (f.canonical o)) ∧
        c = m.fieldMembers o ++ m.keptExtras o := by
  by_cases hnames : m.AdmitsNames o
  · have hgiven : (m.fields.map (·.canonical o)).flatten = m.fieldMembers o := by
      rw [fieldMembers, List.flatMap_def]
    rw [checkMembers_of_admitsNames hnames, Checked.map_gather_eq_ok_iff]
    simp only [Checked.map_eq_map_ok_iff fun f g hg => Field.canonical_of_check_eq_ok (f := f) hg]
    constructor
    · rintro ⟨given, ⟨hfields, rfl⟩, rfl⟩
      exact ⟨hnames, hfields, by rw [hgiven]⟩
    · rintro ⟨-, hfields, rfl⟩
      exact ⟨_, ⟨hfields, rfl⟩, by rw [hgiven]⟩
  · rw [checkMembers_of_not_admitsNames hnames]
    constructor
    · intro h
      contradiction
    · intro h
      exact absurd h.1 hnames

theorem checkMembers_error {m : Model} {o : Members} {f : Field} {issues : List Issue}
    (hf : f ∈ m.fields) (h : f.check o = .error issues) :
    ∃ all, m.checkMembers o = .error all := by
  have hmem : .error issues ∈ m.fields.map (·.check o) := List.mem_map.mpr ⟨f, hf, h⟩
  obtain ⟨all, hall⟩ := Checked.gather_of_error_mem hmem
  by_cases hnames : m.AdmitsNames o
  · exact ⟨all, by rw [checkMembers_of_admitsNames hnames, hall]; rfl⟩
  · exact ⟨_, checkMembers_of_not_admitsNames hnames⟩

theorem mem_fieldMembers_iff {m : Model} {o : Members} {member : Text × Json} :
    member ∈ m.fieldMembers o ↔ ∃ f ∈ m.fields, member ∈ f.canonical o :=
  List.mem_flatMap

theorem key_sublist_fieldMembers (m : Model) (o : Members) :
    ((m.fieldMembers o).map Prod.fst).Sublist
      (m.fields.map fun f => (f.name.camel : Text)) := by
  rw [fieldMembers]
  generalize m.fields = fields
  induction fields with
  | nil => simp
  | cons f fields ih =>
    rw [List.flatMap_cons, List.map_append, List.map_cons]
    exact (f.key_sublist_canonical o).append ih

/-- A member that is kept has a key of its own. -/
theorem mem_keptExtras {m : Model} {o : Members} {member : Text × Json}
    (h : member ∈ m.keptExtras o) :
    member ∈ o ∧ ∀ f ∈ m.fields, f.name.gives o member.1 = false := by
  rw [keptExtras] at h
  split at h
  · rw [extras, List.mem_filter] at h
    simpa using h
  · contradiction

theorem key_ne_of_mem_keptExtras {m : Model} {o : Members} {member : Text × Json}
    (h : member ∈ m.keptExtras o) {f : Field} (hf : f ∈ m.fields) :
    member.1 ≠ f.name.camel ∧ (member.1 = f.name.snake → o.has f.name.camel = true) := by
  have hgives := (mem_keptExtras h).2 f hf
  rw [FieldName.gives, Bool.or_eq_false_iff, beq_eq_false_iff_ne] at hgives
  refine ⟨hgives.1, fun hsnake => ?_⟩
  have hrest := hgives.2
  rw [hsnake] at hrest
  simpa using hrest

section Canonical

variable {m : Model} {o : Members}

/-- Canonical forms have distinct keys. -/
theorem nodup_keys_canonical (hm : m.Distinct) (ho : (o.map Prod.fst).Nodup) :
    ((m.fieldMembers o ++ m.keptExtras o).map Prod.fst).Nodup := by
  rw [List.map_append, List.nodup_append]
  refine ⟨hm.nodup_keys.sublist (m.key_sublist_fieldMembers o), ?_, ?_⟩
  · have hsub : (m.keptExtras o).Sublist o := by
      rw [keptExtras]
      split
      · exact List.filter_sublist
      · exact List.nil_sublist o
    exact ho.sublist (hsub.map Prod.fst)
  · intro key hkey other hother heq
    obtain ⟨f, hf, hcamel⟩ := List.mem_map.mp ((m.key_sublist_fieldMembers o).subset hkey)
    obtain ⟨member, hmember, rfl⟩ := List.mem_map.mp hother
    exact (key_ne_of_mem_keptExtras hmember hf).1 (heq ▸ hcamel.symm)

theorem eq_of_camel_eq (hm : m.Distinct) {f g : Field} (hf : f ∈ m.fields)
    (hg : g ∈ m.fields) (h : (f.name.camel : Text) = g.name.camel) : f = g :=
  List.inj_on_of_nodup_map hm.nodup_keys hf hg h

/-- A field is given in the canonical form exactly if it was given before. -/
theorem camel_mem_keys_iff (hm : m.Distinct) {f : Field} (hf : f ∈ m.fields) :
    (f.name.camel : Text) ∈ (m.fieldMembers o ++ m.keptExtras o).map Prod.fst ↔
      f.canonical o ≠ [] := by
  constructor
  · intro hkey
    obtain ⟨member, hmember, hcamel⟩ := List.mem_map.mp hkey
    rcases List.mem_append.mp hmember with hmember | hmember
    · obtain ⟨g, hg, hin⟩ := mem_fieldMembers_iff.mp hmember
      obtain ⟨spelling, v, -, -, hname⟩ := Field.mem_canonical_iff.mp hin
      rw [eq_of_camel_eq hm hf hg (hcamel.symm.trans hname)]
      exact List.ne_nil_of_mem hin
    · exact absurd hcamel (key_ne_of_mem_keptExtras hmember hf).1
  · intro hne
    obtain ⟨member, hmember⟩ := List.exists_mem_of_ne_nil _ hne
    obtain ⟨spelling, v, -, -, hname⟩ := Field.mem_canonical_iff.mp hmember
    rw [← hname]
    exact List.mem_map_of_mem
      (List.mem_append_left _ (mem_fieldMembers_iff.mpr ⟨f, hf, hmember⟩))

theorem mem_canonical_of_mem (hm : m.Distinct) {f : Field} (hf : f ∈ m.fields) {v : Json}
    (h : ((f.name.camel : Text), v) ∈ m.fieldMembers o ++ m.keptExtras o) :
    ((f.name.camel : Text), v) ∈ f.canonical o := by
  rcases List.mem_append.mp h with h | h
  · obtain ⟨g, hg, hin⟩ := mem_fieldMembers_iff.mp h
    obtain ⟨spelling, w, -, -, hname⟩ := Field.mem_canonical_iff.mp hin
    rwa [← eq_of_camel_eq hm hf hg hname] at hin
  · exact absurd rfl (key_ne_of_mem_keptExtras h hf).1

theorem find?_eq_none_of_canonical_eq_nil {f : Field} (hcheck : f.check o = .ok (f.canonical o))
    (hnil : f.canonical o = []) : f.name.find? o = none := by
  rcases Field.check_eq_ok_cases hcheck with ⟨hfind, -⟩ | ⟨spelling, v, c, -, -, hg⟩
  · exact hfind
  · rw [hnil] at hg
    contradiction

/-- The canonical form with its values changed. -/
def changed (m : Model) (o : Members) (change : Json → Json) : Members :=
  (m.fieldMembers o ++ m.keptExtras o).map fun member => (member.1, change member.2)

theorem keys_changed (change : Json → Json) :
    (m.changed o change).map Prod.fst =
      (m.fieldMembers o ++ m.keptExtras o).map Prod.fst := by
  rw [changed, List.map_map]
  rfl

/-- A given field is found in the canonical form under its camel case name. -/
theorem find?_changed_of_mem (hm : m.Distinct) (ho : (o.map Prod.fst).Nodup) {f : Field}
    (hf : f ∈ m.fields) {v : Json} (hv : ((f.name.camel : Text), v) ∈ f.canonical o)
    (change : Json → Json) :
    f.name.find? (m.changed o change) = some ((f.name.camel : Text), change v) := by
  have hmem : ((f.name.camel : Text), v) ∈ m.fieldMembers o ++ m.keptExtras o :=
    List.mem_append_left _ (mem_fieldMembers_iff.mpr ⟨f, hf, hv⟩)
  have hget := (Members.get?_eq_some_iff (nodup_keys_canonical hm ho)).mpr hmem
  rw [FieldName.find?, changed, Members.get?_map, hget]
  rfl

/-- A field that is not given is not found in the canonical form either. -/
theorem find?_changed_of_canonical_eq_nil (hm : m.Distinct) {f : Field} (hf : f ∈ m.fields)
    (hcheck : f.check o = .ok (f.canonical o)) (hnil : f.canonical o = [])
    (change : Json → Json) : f.name.find? (m.changed o change) = none := by
  have hfind := find?_eq_none_of_canonical_eq_nil hcheck hnil
  have hcamel : (m.changed o change).get? f.name.camel = none := by
    rw [Members.get?_eq_none_iff, keys_changed, camel_mem_keys_iff hm hf]
    exact fun hne => hne hnil
  have hsnake : (m.changed o change).get? f.name.snake = none := by
    rw [Members.get?_eq_none_iff, keys_changed]
    intro hkey
    obtain ⟨member, hmember, hname⟩ := List.mem_map.mp hkey
    rcases List.mem_append.mp hmember with hmember | hmember
    · obtain ⟨g, hg, hin⟩ := mem_fieldMembers_iff.mp hmember
      obtain ⟨spelling, w, -, -, hcamel⟩ := Field.mem_canonical_iff.mp hin
      have hsame := eq_of_camel_eq hm hf hg (congrArg Text.proper
        (hm.apart f hf g hg (Text.proper.inj (hname.symm.trans hcamel))))
      rw [← hsame, hnil] at hin
      contradiction
    · have hin : (f.name.snake : Text) ∈ o.map Prod.fst := by
        rw [← hname]
        exact List.mem_map_of_mem (mem_keptExtras hmember).1
      exact Members.get?_eq_none_iff.mp (FieldName.find?_eq_none_iff.mp hfind).2 hin
  exact FieldName.find?_eq_none_iff.mpr ⟨hcamel, hsnake⟩

/-- Whether a key stands for no field of an object. -/
def isExtra (m : Model) (o : Members) (key : Text) : Bool :=
  !m.fields.any (·.name.gives o key)

theorem extras_eq_filter (m : Model) (o : Members) :
    m.extras o = o.filter fun member => m.isExtra o member.1 := rfl

theorem isExtra_of_mem_fieldMembers {member : Text × Json} (h : member ∈ m.fieldMembers o)
    (given : Members) : m.isExtra given member.1 = false := by
  obtain ⟨f, hf, hin⟩ := mem_fieldMembers_iff.mp h
  obtain ⟨spelling, v, -, -, hname⟩ := Field.mem_canonical_iff.mp hin
  simp only [isExtra, Bool.not_eq_false', List.any_eq_true]
  exact ⟨f, hf, by rw [FieldName.gives, hname]; simp⟩

theorem isExtra_of_mem_keptExtras (hm : m.Distinct)
    (hfields : ∀ f ∈ m.fields, f.check o = .ok (f.canonical o)) (change : Json → Json)
    {member : Text × Json} (h : member ∈ m.keptExtras o) :
    m.isExtra (m.changed o change) member.1 = true := by
  simp only [isExtra, Bool.not_eq_true', List.any_eq_false, Bool.not_eq_true]
  intro f hf
  obtain ⟨hcamel, hsnake⟩ := key_ne_of_mem_keptExtras h hf
  rw [FieldName.gives, Bool.or_eq_false_iff, beq_eq_false_iff_ne]
  refine ⟨hcamel, ?_⟩
  rw [Bool.and_eq_false_iff, beq_eq_false_iff_ne, Bool.not_eq_false']
  by_cases hname : member.1 = f.name.snake
  · refine Or.inr ?_
    rw [Members.has_iff, keys_changed, camel_mem_keys_iff hm hf]
    intro hnil
    have hfind := find?_eq_none_of_canonical_eq_nil (hfields f hf) hnil
    have hhas := Members.has_iff.mp (hsnake hname)
    exact Members.get?_eq_none_iff.mp (FieldName.find?_eq_none_iff.mp hfind).1 hhas
  · exact Or.inl hname

/-- The members that are kept are kept again. -/
theorem keptExtras_changed (hm : m.Distinct)
    (hfields : ∀ f ∈ m.fields, f.check o = .ok (f.canonical o)) (change : Json → Json) :
    m.keptExtras (m.changed o change) =
      (m.keptExtras o).map fun member => (member.1, change member.2) := by
  by_cases hkeeps : m.keepsExtras = true
  · have hsplit : ∀ keep : Text × Json → Bool, (m.changed o change).filter keep =
        ((m.fieldMembers o).map fun member => (member.1, change member.2)).filter keep ++
          ((m.keptExtras o).map fun member => (member.1, change member.2)).filter keep := by
      intro keep
      rw [changed, List.map_append, List.filter_append]
    have hnone : ((m.fieldMembers o).map fun member => (member.1, change member.2)).filter
        (fun member => m.isExtra (m.changed o change) member.1) = [] := by
      rw [List.filter_eq_nil_iff]
      intro member hmember
      obtain ⟨origin, horigin, rfl⟩ := List.mem_map.mp hmember
      rw [isExtra_of_mem_fieldMembers horigin]
      decide
    have hall : ((m.keptExtras o).map fun member => (member.1, change member.2)).filter
        (fun member => m.isExtra (m.changed o change) member.1) =
          (m.keptExtras o).map fun member => (member.1, change member.2) := by
      rw [List.filter_eq_self]
      intro member hmember
      obtain ⟨origin, horigin, rfl⟩ := List.mem_map.mp hmember
      have hextra := isExtra_of_mem_keptExtras hm hfields change horigin
      exact hextra
    rw [keptExtras, if_pos hkeeps, extras_eq_filter, hsplit, hnone, hall, List.nil_append]
  · simp [keptExtras, hkeeps]

/-- The names of a canonical form are admitted. -/
theorem admitsNames_changed (h : m.AdmitsNames o) (change : Json → Json) :
    m.AdmitsNames (m.changed o change) := by
  intro hkeeps member hmember
  obtain ⟨origin, horigin, rfl⟩ := List.mem_map.mp hmember
  rcases List.mem_append.mp horigin with horigin | horigin
  · obtain ⟨f, -, hin⟩ := mem_fieldMembers_iff.mp horigin
    obtain ⟨spelling, v, -, -, hname⟩ := Field.mem_canonical_iff.mp hin
    rw [hname]
    rfl
  · exact h hkeeps origin (mem_keptExtras horigin).1

end Canonical

/-- A canonical form whose values have been changed is canonical if each field accepts its
new value as it is. -/
theorem checkMembers_map {m : Model} {o c : Members} {change : Json → Json} (hm : m.Distinct)
    (ho : (o.map Prod.fst).Nodup) (hc : m.checkMembers o = .ok c)
    (hvalues : ∀ f ∈ m.fields, ∀ v, ((f.name.camel : Text), v) ∈ c →
      f.shape.check (change v) = .ok (change v)) :
    m.checkMembers (c.map fun member => (member.1, change member.2)) =
      .ok (c.map fun member => (member.1, change member.2)) := by
  obtain ⟨hnames, hfields, rfl⟩ := checkMembers_eq_ok_iff.mp hc
  have hcheck : ∀ f ∈ m.fields, f.check (m.changed o change) =
      .ok ((f.canonical o).map fun member => (member.1, change member.2)) := by
    intro f hf
    rcases Field.check_eq_ok_cases (hfields f hf) with ⟨hfind, hnil⟩ | ⟨spelling, v, c, -, -, hg⟩
    · have hfind' := find?_changed_of_canonical_eq_nil hm hf (hfields f hf) hnil change
      have hsame : f.check (m.changed o change) = f.check o := by
        rw [Field.check, Field.check, hfind, hfind']
      rw [hsame, hfields f hf, hnil]
      rfl
    · have hmem : ((f.name.camel : Text), c) ∈ f.canonical o := by
        rw [hg]
        exact List.mem_singleton_self _
      have hvalue := hvalues f hf c
        (List.mem_append_left _ (mem_fieldMembers_iff.mpr ⟨f, hf, hmem⟩))
      rw [Field.check_of_found (find?_changed_of_mem hm ho hf hmem change) hvalue, hg]
      rfl
  have hcanonical : m.fieldMembers (m.changed o change) =
      (m.fieldMembers o).map fun member => (member.1, change member.2) := by
    rw [fieldMembers, fieldMembers, List.map_flatMap]
    exact List.flatMap_congr fun f hf => Field.canonical_of_check_eq_ok (hcheck f hf)
  rw [← changed, checkMembers_eq_ok_iff, hcanonical, keptExtras_changed hm hfields,
    ← List.map_append, ← changed]
  refine ⟨admitsNames_changed hnames change, fun f hf => ?_, rfl⟩
  rw [Field.canonical_of_check_eq_ok (hcheck f hf), hcheck f hf]

/-- A canonical form whose values have been changed is refused if a field refuses its new
value. -/
theorem checkMembers_map_error {m : Model} {o c : Members} {change : Json → Json}
    (hm : m.Distinct) (ho : (o.map Prod.fst).Nodup) (hc : m.checkMembers o = .ok c)
    {f : Field} (hf : f ∈ m.fields) {v : Json} (hv : ((f.name.camel : Text), v) ∈ c)
    {issues : List Issue} (hrefused : f.shape.check (change v) = .error issues) :
    ∃ all, m.checkMembers (c.map fun member => (member.1, change member.2)) = .error all := by
  obtain ⟨hnames, hfields, rfl⟩ := checkMembers_eq_ok_iff.mp hc
  have hfind := find?_changed_of_mem hm ho hf (mem_canonical_of_mem hm hf hv) change
  rw [← changed]
  apply checkMembers_error hf
  · rw [Field.check, hfind]
    dsimp only
    rw [hrefused]
    rfl

end Model

end Schema

end WorkflowEngine
