import WorkflowEngine.Proofs.Http.RoundTrip

/-!
# Names of downloads

An export names its download in a header, between quotes.  A client that reads the header takes a
backslash for an escape and a bare quote for the end of the name, but the name is put between the
quotes as it is.  So the client finds the name if it has no such characters, and another name or
none otherwise; and a name outside Latin-1 cannot be sent at all.  A document that cannot be saved
is not sent under any name.
-/

namespace WorkflowEngine

namespace Document

/-- The name of an export ends as the names of JSON files do, whatever name was asked for. -/
theorem exists_exportFilename_eq (name? : Option String) :
    ∃ stem, exportFilename name? = stem ++ ".json" := by
  rw [exportFilename.eq_def]
  split
  · exact ⟨"workflow", rfl⟩
  · exact ⟨"workflow", rfl⟩
  · split
    · next name _ hend =>
      rw [← String.endsWith_toSlice, String.Slice.endsWith_string_iff] at hend
      obtain ⟨stem, hstem⟩ := hend
      refine ⟨String.ofList stem, String.toList_inj.mp ?_⟩
      rw [String.toList_append, String.toList_ofList, hstem, String.copy_toSlice]
    · exact ⟨_, rfl⟩

end Document

namespace Http

open Log

/-! ## Quoted strings -/

/-- Read what follows the opening quote of a quoted string.  A backslash stands before a character
that is meant as it is, and nothing may follow the closing quote. -/
def readQuoted : List Char → Option (List Char)
  | [] => none
  | '"' :: rest => if rest = [] then some [] else none
  | '\\' :: c :: rest => (readQuoted rest).map (c :: ·)
  | c :: rest => (readQuoted rest).map (c :: ·)

theorem readQuoted_quote (rest : List Char) :
    readQuoted ('"' :: rest) = if rest = [] then some [] else none := by
  rw [readQuoted]

theorem readQuoted_backslash (c : Char) (rest : List Char) :
    readQuoted ('\\' :: c :: rest) = (readQuoted rest).map (c :: ·) := by
  rw [readQuoted]

theorem readQuoted_cons {c : Char} (hquote : c ≠ '"') (hbackslash : c ≠ '\\') (rest : List Char) :
    readQuoted (c :: rest) = (readQuoted rest).map (c :: ·) := by
  rw [readQuoted]
  · exact hquote
  · exact fun _ _ hc _ => hbackslash hc

/-- What is read is shorter than the text by the closing quote at least. -/
theorem length_lt_of_readQuoted {cs name : List Char} (h : readQuoted cs = some name) :
    name.length < cs.length := by
  induction cs using readQuoted.induct generalizing name with
  | case1 => cases h
  | case2 =>
    rw [readQuoted_quote, if_pos rfl] at h
    rw [← Option.some.inj h]
    exact Nat.zero_lt_one
  | case3 rest hrest =>
    rw [readQuoted_quote, if_neg hrest] at h
    cases h
  | case4 c rest ih =>
    rw [readQuoted_backslash, Option.map_eq_some_iff] at h
    obtain ⟨name, hname, rfl⟩ := h
    exact Nat.lt_succ_of_lt (Nat.succ_lt_succ (ih hname))
  | case5 c rest hquote hbackslash ih =>
    rw [readQuoted, Option.map_eq_some_iff] at h
    · obtain ⟨name, hname, rfl⟩ := h
      exact Nat.succ_lt_succ (ih hname)
    · exact hquote
    · exact hbackslash

/-- A name between quotes is read as it is if no character of it means anything else. -/
theorem readQuoted_append_quote_iff (name : List Char) :
    readQuoted (name ++ ['"']) = some name ↔ '"' ∉ name ∧ '\\' ∉ name := by
  induction name with
  | nil => simp [readQuoted_quote]
  | cons c name ih =>
    rw [List.cons_append]
    by_cases hquote : c = '"'
    · simp [hquote, readQuoted_quote]
    · by_cases hbackslash : c = '\\'
      · refine iff_of_false (fun h => ?_) fun h => h.2 (hbackslash ▸ List.mem_cons_self ..)
        -- The backslash takes the next character with it, and what is left is too short.
        have hnonempty : name ++ ['"'] ≠ [] := by simp
        obtain ⟨next, rest, hrest⟩ := List.exists_cons_of_ne_nil hnonempty
        rw [hbackslash, hrest, readQuoted_backslash, Option.map_eq_some_iff] at h
        obtain ⟨found, hfound, heq⟩ := h
        have hlt := length_lt_of_readQuoted hfound
        have hlength := congrArg List.length hrest
        rw [(List.cons.inj heq).2] at hlt
        rw [List.length_append, List.length_singleton, List.length_cons] at hlength
        omega
      · rw [readQuoted_cons hquote hbackslash, List.mem_cons, List.mem_cons, not_or, not_or,
          and_iff_right (Ne.symm hquote), and_iff_right (Ne.symm hbackslash), ← ih]
        refine ⟨fun h => ?_, fun h => by rw [h, Option.map_some]⟩
        obtain ⟨found, hfound, heq⟩ := Option.map_eq_some_iff.mp h
        rw [hfound, (List.cons.inj heq).2]

/-! ## The header -/

/-- The header that names a download. -/
def dispositionHeader : String := "content-disposition"

/-- What stands before the name in the header. -/
def opening : String := "attachment; filename=\""

theorem attachment_eq (name : String) : attachment name = opening ++ name ++ "\"" := rfl

theorem toList_attachment (name : String) :
    (attachment name).toList = opening.toList ++ (name.toList ++ ['"']) := by
  have hquote : "\"".toList = ['"'] := rfl
  rw [attachment_eq, String.toList_append, String.toList_append, List.append_assoc, hquote]

/-- A header value names a download: it is an attachment whose file name is a quoted string. -/
def NamesDownload (value name : String) : Prop :=
  ∃ cs, value.toList = opening.toList ++ cs ∧ readQuoted cs = some name.toList

theorem namesDownload_attachment_iff (name : String) :
    NamesDownload (attachment name) name ↔ '"' ∉ name.toList ∧ '\\' ∉ name.toList := by
  simp only [NamesDownload, toList_attachment, List.append_cancel_left_eq, exists_eq_left',
    readQuoted_append_quote_iff]

/-- The marks around a name can be sent, so it depends on the name whether the header can. -/
theorem isSendable_attachment (name : String) :
    isSendable (attachment name) = isSendable name := by
  have hopening : isSendable opening = true := by decide +kernel
  have hclosing : (['"'].all fun c => c.toNat < 0x100) = true := by decide
  rw [isSendable] at hopening
  rw [isSendable, toList_attachment, List.all_append, List.all_append, hopening, hclosing,
    Bool.true_and, Bool.and_true, isSendable]

/-- A response is a download that a client stores under a name: of its headers just one names the
download, and this is the name that it gives. -/
def Response.Downloads (response : Response) (name : String) : Prop :=
  response.status = 200 ∧
    ∃ value, response.headers.filter (·.1 = dispositionHeader) = [(dispositionHeader, value)] ∧
      NamesDownload value name

theorem filter_complete (s : Settings) (r : Request) (response : Response) :
    (complete s r response).headers.filter (·.1 = dispositionHeader) =
      response.headers.filter (·.1 = dispositionHeader) := by
  obtain ⟨more, hheaders, hmore⟩ := headers_complete s r response
  have hnone : more.filter (·.1 = dispositionHeader) = [] := by
    rw [List.filter_eq_nil_iff]
    intro header hheader
    have hne : ∀ key ∈ originHeaderNames, key ≠ dispositionHeader := by decide
    simpa using hne _ (hmore header hheader)
  rw [hheaders, List.filter_append, hnone, List.append_nil]

section Export

variable {s : Settings} {r : Request} {d : Document}

/-- An export within the limits has one header that names it, in which the name stands as it is, or
breaks off if the name lies outside Latin-1 or a text of the document is no string. -/
theorem Sends.export_header (h : Sends s r .exportDocument d) (hfits : ¬ d.Exceeds s)
    {name : String} (hname : Document.exportFilename (r.parameter? "filename") = name) :
    if d.content.isProper && isSendable name then
      (handle s r).result.status = 200 ∧
        (handle s r).result.headers.filter (·.1 = dispositionHeader) =
          [(dispositionHeader, attachment name)]
    else
      (handle s r).result.status = 500 ∧
        (handle s r).result.headers.filter (·.1 = dispositionHeader) = [] := by
  have hresult : (handle s r).result = complete s r (serve .standard s r .exportDocument).result :=
    congrArg Logged.result (handleWith_of_route .standard h.leads)
  rw [hresult, status_complete, filter_complete, h.serve_export hfits hname]
  rw [isSendable_attachment]
  split
  · exact ⟨rfl, rfl⟩
  · exact ⟨rfl, rfl⟩

theorem Sends.downloads_iff (h : Sends s r .exportDocument d) (hfits : ¬ d.Exceeds s)
    {name : String} (hname : Document.exportFilename (r.parameter? "filename") = name) :
    (handle s r).result.Downloads name ↔
      (d.content.isProper && isSendable name) = true ∧ '"' ∉ name.toList ∧
        '\\' ∉ name.toList := by
  have hheader := h.export_header hfits hname
  by_cases hsendable : (d.content.isProper && isSendable name) = true
  · rw [if_pos hsendable] at hheader
    obtain ⟨hstatus, hone⟩ := hheader
    have hnames : (handle s r).result.Downloads name ↔ NamesDownload (attachment name) name := by
      refine ⟨?_, fun hnamed => ⟨hstatus, _, hone, hnamed⟩⟩
      rintro ⟨-, value, hvalue, hnamed⟩
      rw [hone] at hvalue
      rwa [(Prod.mk.inj (List.singleton_inj.mp hvalue)).2]
    rw [hnames, namesDownload_attachment_iff, and_iff_right hsendable]
  · rw [if_neg hsendable] at hheader
    refine iff_of_false (fun hdownload => ?_) fun hplain => hsendable hplain.1
    have hstatus := hdownload.1
    rw [hheader.1] at hstatus
    cases hstatus

/-- An export within the limits has a name that ends as those of JSON files do.  The name is sent in
one header if it lies in Latin-1 and the texts of the document are strings, and otherwise the
answer breaks off.  It is found in the header if and only if, besides, none of its characters is a
quote or a backslash. -/
theorem export_names (h : Sends s r .exportDocument d) (hfits : ¬ d.Exceeds s) :
    let name := Document.exportFilename (r.parameter? "filename")
    let response := (handle s r).result
    (∃ stem, name = stem ++ ".json") ∧
      (if d.content.isProper && isSendable name then
        response.status = 200 ∧
          response.headers.filter (·.1 = dispositionHeader) =
            [(dispositionHeader, attachment name)]
      else
        response.status = 500 ∧ response.headers.filter (·.1 = dispositionHeader) = []) ∧
      (response.Downloads name ↔
        (d.content.isProper && isSendable name) = true ∧ '"' ∉ name.toList ∧
          '\\' ∉ name.toList) :=
  ⟨Document.exists_exportFilename_eq _, h.export_header hfits rfl, h.downloads_iff hfits rfl⟩

end Export

/-- The request that has the document without nodes exported, with a query. -/
def emptyExport (query : String) : Request :=
  exportOf query (Document.bareDocument [] [])

theorem exists_sends_emptyExport : ∃ d, d.content.isProper = true ∧ ¬ d.Exceeds (limited 0 0) ∧
    ∀ query, Sends (limited 0 0) (emptyExport query) .exportDocument d := by
  obtain ⟨d, -, hproper, hfits, hsends⟩ :=
    exists_sends_exportOf (Document.bareDocument [] []) 0 0 true true (by decide +kernel)
  exact ⟨d, hproper, hfits, hsends⟩

theorem export_names_accented : ∃ d,
    Sends (limited 0 0) (emptyExport "filename=caf%C3%A9+1") .exportDocument d ∧
      ¬ d.Exceeds (limited 0 0) ∧
      (handle (limited 0 0) (emptyExport "filename=caf%C3%A9+1")).result.Downloads
        "café 1.json" := by
  obtain ⟨d, hproper, hfits, hsends⟩ := exists_sends_emptyExport
  have hname : Document.exportFilename
      ((emptyExport "filename=caf%C3%A9+1").parameter? "filename") = "café 1.json" := by
    decide +kernel
  obtain ⟨-, -, hdownloads⟩ := export_names (hsends "filename=caf%C3%A9+1") hfits
  rw [hname, hproper, Bool.true_and] at hdownloads
  exact ⟨d, hsends _, hfits, hdownloads.mpr (by decide +kernel)⟩

/-- A quote in the name ends it for the client, and the sign of the euro cannot be sent. -/
theorem export_names_lost : ∃ d, ¬ d.Exceeds (limited 0 0) ∧
    ∀ query ∈ ["filename=a%22b", "filename=%E2%82%AC"],
      Sends (limited 0 0) (emptyExport query) .exportDocument d ∧
        ¬ (handle (limited 0 0) (emptyExport query)).result.Downloads
          (Document.exportFilename ((emptyExport query).parameter? "filename")) := by
  obtain ⟨d, hproper, hfits, hsends⟩ := exists_sends_emptyExport
  refine ⟨d, hfits, fun query hquery => ⟨hsends query, ?_⟩⟩
  rw [(hsends query).downloads_iff hfits rfl, hproper, Bool.true_and]
  revert query
  decide +kernel

end Http

end WorkflowEngine
