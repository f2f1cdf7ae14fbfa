import WorkflowEngine.Proofs.Json.WriteRead
import WorkflowEngine.Proofs.Schema.LeafValues
import WorkflowEngine.Proofs.Schema.WrittenObjects
import WorkflowEngine.Proofs.Settings.OriginLists

/-!
# The origins setting from its two sources

A list of origins with commas between them can be given as an argument, but not in the
environment.  The environment is read first, and reads its value of this setting as JSON text;
what comes after that reading is the same for both sources.  So a text with commas reaches the
reader of origins only as an argument.
-/

namespace WorkflowEngine.Settings

open Schema

/-! ## Origins as an argument -/

theorem distinct_model : model.Distinct := ⟨by decide, by decide⟩

/-- The value of a setting where only the origins are given. -/
def originsOnly (origins : List Text) (name : String) : Option Json :=
  if name = originsName then some (.arr (origins.map .str)) else none

theorem takes_originsOnly {origins : List Text} {f : Field} (hf : f ∈ model.fields) :
    f.Takes (originsOnly origins f.name.camel) := by
  rw [originsOnly]
  split
  · next hname =>
    have hfield : f = .optional (.word originsName) (.leaf .textList)
        (.arr (defaultOrigins.map .str)) :=
      List.inj_on_of_nodup_map distinct_model.nodup hf (by simp [model]) hname
    rw [hfield]
    exact Leaf.check_textList_texts origins
  · exact (by decide : ∀ f ∈ model.fields, f.default.isSome = true) f hf

/-- An object that gives only the origins is accepted as it is. -/
theorem checkMembers_origins (origins : List Text) :
    model.checkMembers [(originsName, .arr (origins.map .str))] =
      .ok [(originsName, .arr (origins.map .str))] := by
  have hwritten : model.written (originsOnly origins) =
      ([(originsName, .arr (origins.map .str))] : Members) := rfl
  have hcheck : model.shape.check (.obj (model.written (originsOnly origins))) =
      .ok (.obj (model.written (originsOnly origins))) :=
    Model.check_written distinct_model rfl fun _ hf => takes_originsOnly hf
  rw [hwritten, Model.check_shape_eq_ok_iff] at hcheck
  obtain ⟨o, members, ho, hmembers, hsame⟩ := hcheck
  rw [Json.obj.injEq] at ho hmembers
  rw [ho, hsame, ← hmembers, ho]

/-- A value that is parsed to some origins sets these, and leaves the other settings alone. -/
theorem build_origins {v : Json} {origins : List Text}
    (h : parseOrigins v = .arr (origins.map .str)) :
    build [(originsName, v)] [] = .ok { defaults with allowedOrigins := origins } := by
  have htexts : (origins.map Json.str).map Json.text = origins := by
    rw [List.map_map]
    exact List.map_id origins
  have hvalues : ofValues [(originsName, v)] =
      (model.checkMembers [(originsName, parseOrigins v)]).map fun o =>
        ofComplete (.obj (model.completeMembers o)) := rfl
  have hbuild : build [(originsName, v)] [] =
      (ofValues [(originsName, v)]).mapError .badValues := rfl
  rw [hbuild, hvalues, h, checkMembers_origins]
  refine congrArg Except.ok ?_
  exact congrArg (fun allowed : List Text => { defaults with allowedOrigins := allowed }) htexts

/-! ## Origins in the environment -/

/-- The setting that one environment variable gives. -/
def memberOf (entry : String × String) : Except SettingsFailure (Text × Json) :=
  (ofVariable entry.1 entry.2).map (entry.1, ·)

theorem build_eq (args : Members) (env : List (String × String)) :
    build args env = env.mapM memberOf >>= fun fromEnv : Members =>
      (ofValues (fromEnv.merge args)).mapError .badValues :=
  rfl

theorem memberOf_origins (s : String) :
    memberOf (originsName, s) = ((Json.read s).mapError fun _ => .unreadable originsName).map
      (Text.proper originsName, ·) :=
  rfl

/-- No other variable than that of the origins is refused. -/
theorem eq_of_memberOf_eq_error {entry : String × String} {failure : SettingsFailure}
    (h : memberOf entry = .error failure) : failure = .unreadable originsName := by
  obtain ⟨name, s⟩ := entry
  by_cases hname : name = originsName
  · subst hname
    rw [memberOf_origins] at h
    cases hread : Json.read s with
    | error fault =>
      rw [hread] at h
      exact (Except.error.inj h).symm
    | ok v =>
      rw [hread] at h
      contradiction
  · rw [memberOf, ofVariable, if_neg hname] at h
    contradiction

/-- A value that is no JSON text stops the environment, whatever else is given. -/
theorem build_of_unreadable {s : String} {fault : ReadFault} (hread : Json.read s = .error fault)
    (args : Members) {env : List (String × String)} (hs : (originsName, s) ∈ env) :
    build args env = .error (.unreadable originsName) := by
  have hstop : env.mapM memberOf = .error (.unreadable originsName) := by
    induction env with
    | nil => contradiction
    | cons entry env ih =>
      rw [List.mapM_cons]
      cases hentry : memberOf entry with
      | error failure =>
        rw [eq_of_memberOf_eq_error hentry]
        rfl
      | ok member =>
        rcases List.mem_cons.mp hs with rfl | hs
        · rw [memberOf_origins, hread] at hentry
          contradiction
        · rw [ih hs]
          rfl
  rw [build_eq, hstop]
  rfl

/-- A value that is JSON text counts as the value it spells. -/
theorem build_of_readable {s : String} {v : Json} (hread : Json.read s = .ok v) :
    build [] [(originsName, s)] = build [(originsName, v)] [] := by
  have hvalue : [(originsName, s)].mapM memberOf = .ok [(originsName, v)] := by
    rw [List.mapM_cons, memberOf_origins, hread]
    rfl
  rw [build_eq, hvalue]
  rfl

/-- A text that begins as web addresses do is no JSON text: no value begins with that letter. -/
theorem read_address (rest : List Char) :
    Json.read (String.ofList ('h' :: rest)) = .error (.malformed 0) := by
  have hstarts : Json.StartsLeaf ('h' :: rest) :=
    ⟨'h', rest, rfl, by decide, by decide, by decide, by decide⟩
  have hstop : Json.readPlain ('h' :: rest) = Json.stopAt ('h' :: rest) := by
    simp [Json.readPlain, Json.words, Json.after?, Json.readNumber, Json.integerPart, Json.isDigit]
  rw [Json.read_ofList_of_readPlain hstarts hstop]
  simp [Json.Stop.fault]

/-! ## Both sources -/

/-- A text sets the same origins as an argument and in the environment: those that it spells. -/
def SetsAlike (s : String) : Prop :=
  ∃ origins, (∀ o ∈ origins, IsOrigin o) ∧ Spells s origins ∧
    build [(originsName, .str s)] [] = .ok { defaults with allowedOrigins := origins } ∧
    build [] [(originsName, s)] = .ok { defaults with allowedOrigins := origins }

theorem not_setsAlike_of_unreadable {s : String} {fault : ReadFault}
    (hread : Json.read s = .error fault) : ¬ SetsAlike s := by
  rintro ⟨origins, -, -, -, henv⟩
  rw [build_of_unreadable hread [] (List.mem_singleton_self _)] at henv
  contradiction

/-- As an argument every text sets the origins that it spells.  In the environment a text that
is no JSON text sets none, whatever else is given, so it does not set the same origins from both
sources; a JSON text counts there as the value that it spells. -/
theorem origins_by_source (s : String) :
    (∃ origins, (∀ o ∈ origins, IsOrigin o) ∧ Spells s origins ∧
      build [(originsName, .str s)] [] = .ok { defaults with allowedOrigins := origins }) ∧
    (∀ fault, Json.read s = .error fault →
      (∀ (args : Members) (env : List (String × String)), (originsName, s) ∈ env →
        build args env = .error (.unreadable originsName)) ∧ ¬ SetsAlike s) ∧
    (∀ v, Json.read s = .ok v → build [] [(originsName, s)] = build [(originsName, v)] []) := by
  obtain ⟨horigins, hspells⟩ := splitOrigins_eq_iff.mp (Eq.refl (splitOrigins s))
  have hargument := build_origins (parseOrigins_str_eq_iff.mpr (Eq.refl (splitOrigins s)))
  refine ⟨⟨splitOrigins s, horigins, hspells, hargument⟩, ?_, ?_⟩
  · intro fault hread
    exact ⟨fun args _ => build_of_unreadable hread args, not_setsAlike_of_unreadable hread⟩
  · intro v hread
    exact build_of_readable hread

/-- Two origins with a comma between them are no JSON text.  They are set by an argument and not
by the environment. -/
theorem origins_by_source_commas :
    Json.read "http://a.test, http://b.test" = .error (.malformed 0) ∧
    ¬ SetsAlike "http://a.test, http://b.test" ∧
    build [(originsName, .str "http://a.test, http://b.test")] [] =
      .ok { defaults with allowedOrigins := ["http://a.test", "http://b.test"] } ∧
    build [] [(originsName, "http://a.test, http://b.test")] =
      .error (.unreadable originsName) := by
  have hopen : "http://a.test, http://b.test" =
      String.ofList ('h' :: "ttp://a.test, http://b.test".toList) := rfl
  have hread : Json.read "http://a.test, http://b.test" = .error (.malformed 0) := by
    rw [hopen, read_address]
  have hsplit : splitOrigins "http://a.test, http://b.test" =
      ["http://a.test", "http://b.test"] := by decide
  exact ⟨hread, not_setsAlike_of_unreadable hread,
    build_origins (parseOrigins_str_eq_iff.mpr hsplit),
    build_of_unreadable hread [] (List.mem_singleton_self _)⟩

end WorkflowEngine.Settings
