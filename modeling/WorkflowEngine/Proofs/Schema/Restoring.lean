import Mathlib.Data.List.Forall2
import WorkflowEngine.Proofs.Schema.Canonical

/-!
# Checking what was written

A canonical value is written, with null in the place of numbers that are not finite, and
checked again.  A shape restores a value if it then accepts the value as it is, and it
refuses the value if the check fails.  Lists and objects follow their parts.
-/

namespace WorkflowEngine.Schema

open Json (Storable)

namespace Shape

/-- A value that checking a storable value of the shape ends in. -/
def Canonical (s : Shape) (c : Json) : Prop := ∃ v, Storable v ∧ s.check v = .ok c

/-- The value is accepted as it is after it was written. -/
def Restores (s : Shape) (c : Json) : Prop := s.check c.asWritten = .ok c.asWritten

/-- The value is refused after it was written. -/
def Refuses (s : Shape) (c : Json) : Prop := ∃ issues, s.check c.asWritten = .error issues

/-- All canonical values are restored. -/
def Steady (s : Shape) : Prop := ∀ c, s.Canonical c → s.Restores c

/-- Canonical values are storable. -/
def Keeps (s : Shape) : Prop := ∀ c, s.Canonical c → Storable c

/-- A shape whose values have no numbers to lose. -/
structure Plain (s : Shape) : Prop where
  steady : s.Steady
  keeps : s.Keeps

end Shape

/-! ## Lists -/

namespace Shape

variable {s : Shape}

/-- The place of an item does not matter where all items are accepted. -/
theorem map_under_index_eq_iff {xs cs : List Json} {k : Nat} :
    ((xs.zipIdx k).map fun item => Checked.under (.index item.2) (s.check item.1)) = cs.map .ok ↔
      xs.map s.check = cs.map .ok := by
  induction xs generalizing k cs with
  | nil => simp
  | cons x xs ih =>
    cases cs with
    | nil => simp
    | cons c cs =>
      simp only [List.zipIdx_cons, List.map_cons, List.cons.injEq, ih, Checked.under_eq_ok_iff]

/-- A list is accepted if each of its items is. -/
theorem check_list_eq_ok_iff {v c : Json} :
    (list s).check v = .ok c ↔
      ∃ xs cs : List Json, v = .arr xs ∧ c = .arr cs ∧ xs.map s.check = cs.map .ok := by
  cases v with
  | arr xs =>
    have hcheck : (list s).check (.arr xs) = (Checked.gather (xs.zipIdx.map fun item =>
        Checked.under (.index item.2) (s.check item.1))).map .arr := rfl
    rw [hcheck, Checked.map_gather_eq_ok_iff]
    simp only [map_under_index_eq_iff]
    constructor
    · rintro ⟨cs, hall, rfl⟩
      exact ⟨xs, cs, rfl, rfl, hall⟩
    · rintro ⟨xs', cs, hxs, rfl, hall⟩
      obtain rfl := Json.arr.inj hxs
      exact ⟨cs, hall, rfl⟩
  | _ =>
    constructor
    · intro h
      contradiction
    · rintro ⟨xs, cs, hxs, -⟩
      contradiction

/-- The items of a list that is accepted are checked one by one. -/
theorem check_list_eq_ok_iff_forall₂ {v c : Json} :
    (list s).check v = .ok c ↔ ∃ xs cs : List Json, v = .arr xs ∧ c = .arr cs ∧
      List.Forall₂ (fun x c => s.check x = .ok c) xs cs := by
  have hpairs : ∀ xs cs : List Json, xs.map s.check = cs.map .ok ↔
      List.Forall₂ (fun x c => s.check x = .ok c) xs cs := by
    intro xs cs
    rw [← List.forall₂_eq_eq_eq, List.forall₂_map_left_iff, List.forall₂_map_right_iff]
  simp only [check_list_eq_ok_iff, hpairs]

theorem exists_of_mem_checked {xs cs : List Json} (h : xs.map s.check = cs.map .ok) {c : Json}
    (hc : c ∈ cs) : ∃ x ∈ xs, s.check x = .ok c := by
  have hmem : (.ok c : Checked Json) ∈ xs.map s.check := by
    rw [h]
    exact List.mem_map_of_mem hc
  exact List.mem_map.mp hmem

theorem canonical_list {c : Json} (h : (list s).Canonical c) :
    ∃ cs : List Json, c = .arr cs ∧ ∀ x ∈ cs, s.Canonical x := by
  obtain ⟨v, hstorable, hv⟩ := h
  obtain ⟨xs, cs, rfl, rfl, hall⟩ := check_list_eq_ok_iff.mp hv
  refine ⟨cs, rfl, fun c hc => ?_⟩
  obtain ⟨x, hx, hcheck⟩ := exists_of_mem_checked hall hc
  cases hstorable with
  | arr hxs => exact ⟨x, hxs x hx, hcheck⟩

/-- A list is restored if its items are. -/
theorem restores_list {cs : List Json} (h : ∀ c ∈ cs, s.Restores c) :
    (list s).Restores (.arr cs) := by
  rw [Restores, Json.asWritten_arr, check_list_eq_ok_iff]
  refine ⟨_, _, rfl, rfl, ?_⟩
  rw [List.map_map, List.map_map]
  exact List.map_congr_left h

/-- A list is refused if one of its items is. -/
theorem refuses_list {cs : List Json} {c : Json} (hc : c ∈ cs) (h : s.Refuses c) :
    (list s).Refuses (.arr cs) := by
  cases hcheck : (list s).check (Json.arr cs).asWritten with
  | error issues => exact ⟨issues, hcheck⟩
  | ok d =>
    rw [Json.asWritten_arr] at hcheck
    obtain ⟨xs, ds, hxs, -, hall⟩ := check_list_eq_ok_iff.mp hcheck
    rw [Json.arr.injEq] at hxs
    obtain ⟨issues, hissues⟩ := h
    have hmem : s.check c.asWritten ∈ xs.map s.check := by
      rw [← hxs]
      exact List.mem_map_of_mem (List.mem_map_of_mem hc)
    rw [hissues, hall] at hmem
    obtain ⟨e, -, he⟩ := List.mem_map.mp hmem
    contradiction

theorem keeps_list (h : s.Keeps) : (list s).Keeps := by
  intro c hc
  obtain ⟨cs, rfl, hcs⟩ := canonical_list hc
  exact .arr fun x hx => h x (hcs x hx)

end Shape

/-! ## Objects -/

namespace Model

variable {m : Model}

theorem check_shape_eq_ok_iff {v c : Json} :
    m.shape.check v = .ok c ↔
      ∃ o members, v = .obj o ∧ c = .obj members ∧ m.checkMembers o = .ok members := by
  cases v with
  | obj o =>
    have hcheck : m.shape.check (.obj o) = (m.checkMembers o).map .obj := rfl
    rw [hcheck]
    cases hmembers : m.checkMembers o with
    | error issues =>
      constructor
      · intro h
        contradiction
      · rintro ⟨o', members, ho, -, hok⟩
        rw [Json.obj.injEq] at ho
        rw [← ho, hmembers] at hok
        contradiction
    | ok members =>
      constructor
      · intro h
        injection h with hc
        exact ⟨o, members, rfl, hc.symm, hmembers⟩
      · rintro ⟨o', members', ho, rfl, hok⟩
        rw [Json.obj.injEq] at ho
        rw [← ho, hmembers] at hok
        injection hok with hsame
        rw [hsame]
        rfl
  | _ =>
    constructor
    · intro h
      contradiction
    · rintro ⟨o, members, ho, -⟩
      contradiction

theorem mem_of_find?_eq_some {n : FieldName} {o : Members} {spelling : Text} {v : Json}
    (ho : (o.map Prod.fst).Nodup) (h : n.find? o = some (spelling, v)) : (spelling, v) ∈ o := by
  rw [FieldName.find?] at h
  cases hcamel : o.get? n.camel with
  | some w =>
    rw [hcamel] at h
    injection h with hpair
    rw [← hpair]
    exact (Members.get?_eq_some_iff ho).mp hcamel
  | none =>
    rw [hcamel] at h
    obtain ⟨w, hw, hpair⟩ := Option.map_eq_some_iff.mp h
    rw [← hpair]
    exact (Members.get?_eq_some_iff ho).mp hw

/-- The fields of a canonical object have canonical values. -/
theorem canonical_field {o members : Members} (hm : m.Distinct) (ho : Storable (.obj o))
    (hc : m.checkMembers o = .ok members) {f : Field} (hf : f ∈ m.fields) {w : Json}
    (hw : ((f.name.camel : Text), w) ∈ members) : f.shape.Canonical w := by
  obtain ⟨-, -, rfl⟩ := checkMembers_eq_ok_iff.mp hc
  obtain ⟨spelling, v, hfind, hv, -⟩ :=
    Field.mem_canonical_iff.mp (mem_canonical_of_mem hm hf hw)
  cases ho with
  | obj hkeys hvalues => exact ⟨v, hvalues _ (mem_of_find?_eq_some hkeys hfind), hv⟩

theorem nodup_keys_of_storable {o : Members} (h : Storable (.obj o)) :
    (o.map Prod.fst).Nodup := by
  cases h with
  | obj hkeys _ => exact hkeys

/-- An object is restored if the values of its fields are. -/
theorem restores_shape {o members : Members} (hm : m.Distinct) (ho : Storable (.obj o))
    (hc : m.checkMembers o = .ok members)
    (h : ∀ f ∈ m.fields, ∀ w, ((f.name.camel : Text), w) ∈ members → f.shape.Restores w) :
    m.shape.Restores (.obj members) := by
  rw [Shape.Restores, Json.asWritten_obj, check_shape_eq_ok_iff]
  exact ⟨_, _, rfl, rfl, checkMembers_map hm (nodup_keys_of_storable ho) hc h⟩

/-- An object is refused if the value of one of its fields is. -/
theorem refuses_shape {o members : Members} (hm : m.Distinct) (ho : Storable (.obj o))
    (hc : m.checkMembers o = .ok members) {f : Field} (hf : f ∈ m.fields) {w : Json}
    (hw : ((f.name.camel : Text), w) ∈ members) (h : f.shape.Refuses w) :
    m.shape.Refuses (.obj members) := by
  obtain ⟨issues, hissues⟩ := h
  obtain ⟨all, hall⟩ :=
    checkMembers_map_error hm (nodup_keys_of_storable ho) hc hf hw hissues
  refine ⟨all, ?_⟩
  rw [Json.asWritten_obj]
  change (m.checkMembers _).map Json.obj = _
  rw [hall]
  rfl

theorem keeps_shape (hm : m.Distinct) (h : ∀ f ∈ m.fields, f.shape.Keeps) : m.shape.Keeps := by
  rintro c ⟨v, hstorable, hv⟩
  obtain ⟨o, members, rfl, rfl, hc⟩ := check_shape_eq_ok_iff.mp hv
  have hkeys := nodup_keys_of_storable hstorable
  obtain ⟨-, -, hmembers⟩ := checkMembers_eq_ok_iff.mp hc
  refine .obj (by rw [hmembers]; exact nodup_keys_canonical hm hkeys) fun member hmember => ?_
  rw [hmembers] at hmember
  rcases List.mem_append.mp hmember with hmember | hmember
  · obtain ⟨f, hf, hin⟩ := mem_fieldMembers_iff.mp hmember
    obtain ⟨spelling, u, hfind, hu, hname⟩ := Field.mem_canonical_iff.mp hin
    cases hstorable with
    | obj hdistinct hvalues =>
      exact h f hf _ ⟨u, hvalues _ (mem_of_find?_eq_some hdistinct hfind), hu⟩
  · cases hstorable with
    | obj hdistinct hvalues => exact hvalues _ (mem_keptExtras hmember).1

/-! ## Objects seen through their fields -/

theorem mem_or_field_eq_null {members : Members} (hkeys : (members.map Prod.fst).Nodup)
    (key : Text) :
    (key, (Json.obj members).field key) ∈ members ∨ (Json.obj members).field key = .null := by
  cases hget : members.get? key with
  | none => exact Or.inr (by rw [Json.field, hget]; rfl)
  | some w =>
    have hfield : (Json.obj members).field key = w := by rw [Json.field, hget]; rfl
    rw [hfield]
    exact Or.inl ((Members.get?_eq_some_iff hkeys).mp hget)

theorem field_eq_of_mem {members : Members} (hkeys : (members.map Prod.fst).Nodup)
    {key : Text} {w : Json} (h : (key, w) ∈ members) : (Json.obj members).field key = w := by
  rw [Json.field, (Members.get?_eq_some_iff hkeys).mpr h]
  rfl

/-- A canonical object was made from an object and has distinct keys. -/
theorem exists_checkMembers_of_canonical {c : Json} (hm : m.Distinct)
    (hc : m.shape.Canonical c) :
    ∃ o members, Storable (.obj o) ∧ c = .obj members ∧ m.checkMembers o = .ok members ∧
      (members.map Prod.fst).Nodup := by
  obtain ⟨v, hstorable, hv⟩ := hc
  obtain ⟨o, members, rfl, rfl, hmembers⟩ := check_shape_eq_ok_iff.mp hv
  refine ⟨o, members, hstorable, rfl, hmembers, ?_⟩
  rw [(checkMembers_eq_ok_iff.mp hmembers).2.2]
  exact nodup_keys_canonical hm (nodup_keys_of_storable hstorable)

theorem canonical_field_of_ne_null {c : Json} (hm : m.Distinct) (hc : m.shape.Canonical c)
    {f : Field} (hf : f ∈ m.fields) (hne : c.field f.name.camel ≠ .null) :
    f.shape.Canonical (c.field f.name.camel) := by
  obtain ⟨o, members, hstorable, rfl, hmembers, hkeys⟩ :=
    exists_checkMembers_of_canonical hm hc
  rcases mem_or_field_eq_null hkeys f.name.camel with hmem | hnull
  · exact canonical_field hm hstorable hmembers hf hmem
  · exact absurd hnull hne

/-- A field that an object gives has a canonical value. -/
theorem canonical_field_of_found {o members : Members} (hm : m.Distinct)
    (ho : Storable (.obj o)) (hmembers : m.checkMembers o = .ok members) {f : Field}
    (hf : f ∈ m.fields) (hfound : f.name.find? o ≠ none) :
    f.shape.Canonical ((Json.obj members).field f.name.camel) := by
  obtain ⟨-, hfields, hsplit⟩ := checkMembers_eq_ok_iff.mp hmembers
  rcases Field.check_eq_ok_cases (hfields f hf) with ⟨hfind, -⟩ | ⟨spelling, v, w, -, -, hg⟩
  · exact absurd hfind hfound
  · have hmem : ((f.name.camel : Text), w) ∈ members := by
      rw [hsplit]
      refine List.mem_append_left _ (mem_fieldMembers_iff.mpr ⟨f, hf, ?_⟩)
      rw [hg]
      exact List.mem_singleton_self _
    have hkeys : (members.map Prod.fst).Nodup := by
      rw [hsplit]
      exact nodup_keys_canonical hm (nodup_keys_of_storable ho)
    rw [field_eq_of_mem hkeys hmem]
    exact canonical_field hm ho hmembers hf hmem

/-- A field that has to be given has a canonical value. -/
theorem canonical_required {c : Json} (hm : m.Distinct) (hc : m.shape.Canonical c)
    {f : Field} (hf : f ∈ m.fields) (hrequired : f.default = none) :
    f.shape.Canonical (c.field f.name.camel) := by
  obtain ⟨o, members, hstorable, rfl, hmembers, -⟩ :=
    exists_checkMembers_of_canonical hm hc
  refine canonical_field_of_found hm hstorable hmembers hf fun hfind => ?_
  have hmissing := (checkMembers_eq_ok_iff.mp hmembers).2.1 f hf
  rw [Field.check, hfind, hrequired] at hmissing
  contradiction

/-- An object is restored if each of its fields is. -/
theorem restores_of_fields {c : Json} (hm : m.Distinct) (hc : m.shape.Canonical c)
    (h : ∀ f ∈ m.fields, f.shape.Canonical (c.field f.name.camel) →
      f.shape.Restores (c.field f.name.camel)) : m.shape.Restores c := by
  obtain ⟨o, members, hstorable, rfl, hmembers, hkeys⟩ :=
    exists_checkMembers_of_canonical hm hc
  refine restores_shape hm hstorable hmembers fun f hf w hw => ?_
  have hcanonical := canonical_field hm hstorable hmembers hf hw
  have hfield := h f hf
  rw [field_eq_of_mem hkeys hw] at hfield
  exact hfield hcanonical

/-- An object is refused if one of its fields is. -/
theorem refuses_of_field {c : Json} (hm : m.Distinct) (hc : m.shape.Canonical c) {f : Field}
    (hf : f ∈ m.fields) (hne : c.field f.name.camel ≠ .null)
    (h : f.shape.Refuses (c.field f.name.camel)) : m.shape.Refuses c := by
  obtain ⟨o, members, hstorable, rfl, hmembers, hkeys⟩ :=
    exists_checkMembers_of_canonical hm hc
  rcases mem_or_field_eq_null hkeys f.name.camel with hmem | hnull
  · exact refuses_shape hm hstorable hmembers hf hmem h
  · exact absurd hnull hne

theorem steady_shape (hm : m.Distinct) (h : ∀ f ∈ m.fields, f.shape.Steady) :
    m.shape.Steady :=
  fun _ hc => restores_of_fields hm hc fun f hf hcanonical => h f hf _ hcanonical

end Model

/-! ## Alternatives told apart by a tag -/

namespace Shape

variable {tags : List String} {models : String → Option Model}

theorem check_tagged_eq_ok_iff {v c : Json} :
    (tagged tags models).check v = .ok c ↔
      ∃ (o : Members) (tag : String) (m : Model), v = .obj o ∧
        Members.get? o "type" = some (.str tag) ∧ models tag = some m ∧
        m.shape.check v = .ok c := by
  constructor
  · intro h
    cases v with
    | obj o =>
      simp only [tagged] at h
      cases hget : Members.get? o "type" with
      | none =>
        rw [hget] at h
        contradiction
      | some value =>
        rw [hget] at h
        cases value with
        | str t =>
          cases t with
          | broken b => contradiction
          | proper tag =>
            dsimp only at h
            cases hmodel : models tag with
            | none =>
              rw [hmodel] at h
              contradiction
            | some m =>
              rw [hmodel] at h
              exact ⟨o, tag, m, rfl, hget, hmodel, Checked.under_eq_ok_iff.mp h⟩
        | _ => contradiction
    | _ => contradiction
  · rintro ⟨o, tag, m, rfl, hget, hmodel, hcheck⟩
    simp only [tagged, hget, hmodel]
    exact Checked.under_eq_ok_iff.mpr hcheck

end Shape

end WorkflowEngine.Schema
