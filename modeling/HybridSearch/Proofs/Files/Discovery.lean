import HybridSearch.Files.Tree
import HybridSearch.Proofs.Attempt
import HybridSearch.Proofs.Ranking
import HybridSearch.Proofs.Store.Fields
import HybridSearch.Proofs.Text.Split
import HybridSearch.Service
import Mathlib.Data.List.Lex
import Mathlib.Data.String.Basic

/-!
# Files that are found and files that are ingested

A walk through a tree collects the files whose names end in a known extension. An ingestion asks for
the extension again, and compares it in another way. Both agree on every name: what a walk finds is
read, and what it leaves out is refused.

## Main definitions

* `Path.IsOfFormat` — the names with the extension of a format.
* `Tree.IsNamed` — trees in which no folder has two entries of one name.
* `Service.unsupported` — the refusal of a file.
* `Service.Reads` — how the ingestion of a file ends, from what it holds.

## Main results

* `Path.format?_eq_some_iff`, `Path.isDataFile_iff` — the names that each comparison accepts.
* `Tree.mem_files_iff`, `Tree.nodup_files` — a walk meets every file, and meets it once.
* `Tree.mem_dataFiles_iff`, `Tree.pairwise_dataFiles` — what is found, and in which order.
* `Service.reads_ingestAs` — a file is read in its format.
* `Service.ingests_dataFiles` — what is found is read, and what is left out is refused.
-/

namespace HybridSearch

/-! ### Extensions -/

namespace Path

def Format.ending : Format → String
  | csv => "csv"
  | json => "json"

/-- The name has the ending of the format after its last point, in any case of ASCII letters, and
something before it. -/
def IsOfFormat (name : String) (format : Format) : Prop :=
  ∃ stem ending, stem ≠ "" ∧ name = stem ++ "." ++ ending ∧
    Text.lowerAscii ending = format.ending

variable {name ending : String} {format : Format}

theorem extension?_eq_some_iff :
    extension? name = some ending ↔
      name ≠ ".." ∧ ∃ stem, stem ≠ "" ∧ name = stem ++ "." ++ ending ∧ '.' ∉ ending.toList := by
  rw [extension?]
  constructor
  · intro h
    split at h
    · cases h
    · rename_i hpoints
      split at h
      · rename_i chars before hcut
        obtain ⟨hname, hchars⟩ := Text.cutChars_eq_some_iff.mp hcut
        split at h
        · cases h
        · rename_i hbefore
          obtain rfl := Option.some.inj h
          refine ⟨hpoints, String.ofList before.reverse, ?_, ?_, by simpa using hchars⟩
          · simpa [← String.toList_eq_nil_iff] using hbefore
          · rw [← String.toList_inj, ← List.reverse_inj, hname]
            simp
      · cases h
  · rintro ⟨hpoints, stem, hstem, rfl, hending⟩
    have hname : (stem ++ "." ++ ending).toList.reverse =
        ending.toList.reverse ++ '.' :: stem.toList.reverse := by simp
    rw [if_neg hpoints, hname, Text.cutChars_append_cons (mt List.mem_reverse.mp hending)]
    simp [hstem]

theorem Format.point_notMem (h : Text.lowerAscii ending = format.ending) :
    '.' ∉ ending.toList := by
  intro hmem
  have hpoint : '.' ∈ format.ending.toList := by
    rw [← h, Text.lowerAscii, String.toList_ofList]
    exact List.mem_map_of_mem hmem
  cases format <;> simp [Format.ending] at hpoint

theorem isOfFormat_iff :
    IsOfFormat name format ↔
      ∃ ending, extension? name = some ending ∧ Text.lowerAscii ending = format.ending := by
  constructor
  · rintro ⟨stem, ending, hstem, rfl, hending⟩
    have hpoint := Format.point_notMem hending
    have hpoints : stem ++ "." ++ ending ≠ ".." := by
      intro hname
      have hlength : (stem ++ "." ++ ending).length = 2 := congrArg String.length hname
      have hword : ending.length = format.ending.length := by
        rw [← hending, Text.lowerAscii, String.length_ofList, List.length_map, String.length_toList]
      have hfour : 3 ≤ format.ending.length := by cases format <;> decide
      rw [String.length_append] at hlength
      omega
    exact ⟨ending, extension?_eq_some_iff.mpr ⟨hpoints, stem, hstem, rfl, hpoint⟩, hending⟩
  · rintro ⟨ending, hname, hending⟩
    obtain ⟨-, stem, hstem, hname, -⟩ := extension?_eq_some_iff.mp hname
    exact ⟨stem, ending, hstem, hname, hending⟩

theorem format?_eq_some_iff : format? name = some format ↔ IsOfFormat name format := by
  rw [isOfFormat_iff, format?]
  cases extension? name with
  | none => simp
  | some ending =>
    simp only [Option.map_some]
    split <;> cases format <;> simp_all [Format.ending]

theorem isDataFile_iff : isDataFile name = true ↔ ∃ format, IsOfFormat name format := by
  simp only [isOfFormat_iff, isDataFile]
  cases extension? name with
  | none => simp
  | some ending =>
    have hcsv : Text.sameWord ending "csv" = true ↔ Text.lowerAscii ending = Format.csv.ending :=
      beq_iff_eq
    have hjson : Text.sameWord ending "json" = true ↔ Text.lowerAscii ending = Format.json.ending :=
      beq_iff_eq
    simp only [dataExtensions, Option.any_some, List.any_cons, List.any_nil, Bool.or_false,
      Bool.or_eq_true, hcsv, hjson, Option.some.injEq, exists_eq_left']
    constructor
    · rintro (h | h)
      · exact ⟨.csv, h⟩
      · exact ⟨.json, h⟩
    · rintro ⟨_ | _, h⟩
      · exact Or.inl h
      · exact Or.inr h

/-- Two points lead upwards and have no extension, so a name that is no file's has no format. -/
theorem bind_fileName? (path : String) :
    (fileName? path).bind format? = (names path).getLast?.bind format? := by
  rw [fileName?]
  split
  · rename_i hpoints
    rw [hpoints]
    rfl
  · rfl

end Path

/-! ### Trees -/

namespace Tree

/-- No folder has two entries of one name. -/
inductive IsNamed : Tree → Prop where
  | file : IsNamed file
  | other : IsNamed other
  | folder {entries : List (String × Tree)} (hnames : (entries.map Prod.fst).Nodup)
      (hentries : ∀ entry ∈ entries, IsNamed entry.2) : IsNamed (folder entries)

variable {tree sub : Tree} {base root path : List String}

theorem filesIn_eq_flatMap (path : List String) (entries : List (String × Tree)) :
    filesIn path entries = entries.flatMap fun entry => files (path ++ [entry.1]) entry.2 := by
  induction entries with
  | nil => rfl
  | cons entry entries ih => rw [filesIn, ih, List.flatMap_cons]

theorem at?_append (tree : Tree) (first rest : List String) :
    tree.at? (first ++ rest) = (tree.at? first).bind (·.at? rest) := by
  induction first generalizing tree with
  | nil => cases tree <;> rfl
  | cons name first ih =>
    cases tree with
    | folder entries =>
      rw [List.cons_append, at?, at?, Option.bind_assoc]
      exact Option.bind_congr fun sub _ => ih sub
    | file => rfl
    | other => rfl

theorem IsNamed.at? (h : tree.IsNamed) (hsub : tree.at? path = some sub) : sub.IsNamed := by
  induction path generalizing tree with
  | nil =>
    obtain rfl : tree = sub := by
      cases tree <;> exact Option.some.inj hsub
    exact h
  | cons name path ih =>
    cases h with
    | folder hnames hentries =>
      obtain ⟨inner, hinner, hsub⟩ := Option.bind_eq_some_iff.mp hsub
      exact ih (hentries _ (mem_of_lookup hinner)) hsub
    | file => cases hsub
    | other => cases hsub

theorem mem_files_iff (h : tree.IsNamed) :
    path ∈ files base tree ↔ ∃ below, path = base ++ below ∧ tree.at? below = some file := by
  induction h generalizing base with
  | file =>
    rw [files, List.mem_singleton]
    constructor
    · rintro rfl
      exact ⟨[], by simp, rfl⟩
    · rintro ⟨below, rfl, hbelow⟩
      cases below with
      | nil => exact List.append_nil base
      | cons name below => cases hbelow
  | other =>
    refine iff_of_false List.not_mem_nil ?_
    rintro ⟨below, -, hbelow⟩
    cases below <;> cases hbelow
  | @folder entries hnames hentries ih =>
    rw [files, filesIn_eq_flatMap, List.mem_flatMap]
    constructor
    · rintro ⟨entry, hentry, hpath⟩
      obtain ⟨below, rfl, hbelow⟩ := (ih entry hentry).mp hpath
      refine ⟨entry.1 :: below, by simp, ?_⟩
      rw [at?, (lookup_eq_some_iff_mem hnames).mpr hentry]
      exact hbelow
    · rintro ⟨below, rfl, hbelow⟩
      cases below with
      | nil => cases hbelow
      | cons name below =>
        obtain ⟨inner, hinner, hbelow⟩ := Option.bind_eq_some_iff.mp hbelow
        refine ⟨(name, inner), mem_of_lookup hinner, ?_⟩
        exact (ih _ (mem_of_lookup hinner)).mpr ⟨below, by simp, hbelow⟩

theorem nodup_files (h : tree.IsNamed) (base : List String) : (files base tree).Nodup := by
  induction h generalizing base with
  | file => exact List.nodup_singleton base
  | other => exact List.nodup_nil
  | @folder entries hnames hentries ih =>
    rw [files, filesIn_eq_flatMap, List.nodup_flatMap]
    refine ⟨fun entry hentry => ih entry hentry _, ?_⟩
    refine (List.pairwise_map.mp hnames).imp_of_mem fun {first second} hfirst hsecond hne => ?_
    intro path hpath hother
    obtain ⟨below, rfl, -⟩ := (mem_files_iff (hentries first hfirst)).mp hpath
    obtain ⟨below, hbelow, -⟩ := (mem_files_iff (hentries second hsecond)).mp hother
    exact hne (by simpa using And.left (by simpa using hbelow))

/-- **What is found:** the files at or below the root with the extension of a format. -/
theorem mem_dataFiles_iff (h : tree.IsNamed) :
    path ∈ tree.dataFiles root ↔ root <+: path ∧ tree.at? path = some file ∧
      ∃ name format, path.getLast? = some name ∧ Path.IsOfFormat name format := by
  have hfound : path ∈ ((tree.at? root).map (files root)).getD [] ↔
      root <+: path ∧ tree.at? path = some file := by
    have hbelow (below : List String) :
        tree.at? (root ++ below) = some file ↔
          ∃ sub, tree.at? root = some sub ∧ sub.at? below = some file := by
      rw [at?_append, Option.bind_eq_some_iff]
    constructor
    · intro hpath
      cases hsub : tree.at? root with
      | none =>
        rw [hsub] at hpath
        cases hpath
      | some sub =>
        rw [hsub] at hpath
        obtain ⟨below, rfl, hfile⟩ := (mem_files_iff (h.at? hsub)).mp hpath
        exact ⟨List.prefix_append root below, (hbelow below).mpr ⟨sub, hsub, hfile⟩⟩
    · rintro ⟨⟨below, rfl⟩, hfile⟩
      obtain ⟨sub, hsub, hfile⟩ := (hbelow below).mp hfile
      rw [hsub]
      exact (mem_files_iff (h.at? hsub)).mpr ⟨below, rfl, hfile⟩
  have hnamed : (path.getLast?.map Path.isDataFile).getD false = true ↔
      ∃ name format, path.getLast? = some name ∧ Path.IsOfFormat name format := by
    cases path.getLast? with
    | none => simp
    | some name => simpa using Path.isDataFile_iff
  rw [dataFiles, inOrder, mem_ranked, List.mem_filter, hfound, hnamed, and_assoc]

theorem pairwise_inOrder {paths : List (List String)} (h : paths.Nodup) :
    (inOrder paths).Pairwise (· < ·) := by
  have hle : (inOrder paths).Pairwise fun a b => id a ≤ id b :=
    ranked_pairwise fun _ _ _ _ => by simp
  have hnodup : (inOrder paths).Nodup := (ranked_perm _ paths).nodup_iff.mpr h
  exact hle.imp₂ (fun _ _ => lt_of_le_of_ne) hnodup

/-- **What is found stands in order**, and nothing stands there twice. -/
theorem pairwise_dataFiles (h : tree.IsNamed) (root : List String) :
    (tree.dataFiles root).Pairwise (· < ·) := by
  refine pairwise_inOrder (List.Nodup.filter _ ?_)
  cases hsub : tree.at? root with
  | none => exact List.nodup_nil
  | some sub => exact nodup_files (h.at? hsub) root

end Tree

/-! ### Ingestion -/

theorem Csv.exists_of_table?_eq_error {bytes : Bytes} {cause : IngestError}
    (h : Csv.table? bytes = .error cause) : ∃ details, cause = .csv details := by
  rw [Csv.table?] at h
  split at h
  · cases h
  · rename_i first rest _
    rw [Csv.row?] at h
    cases hfirst : first.mapM Text.decode? with
    | none =>
      rw [hfirst] at h
      cases h
      exact ⟨_, rfl⟩
    | some fields =>
      rw [hfirst] at h
      cases h

namespace Service

variable {σ : Type} [Store σ] {options : CoercionOptions} {index : String} {fields : FieldSet}
  {limit : Nat} {content : Option Bytes} {format : Path.Format} {path : String}

def unsupported (path : String) : IngestError :=
  .invalidArgument ("unsupported data file: " ++ path)

theorem documents?_ne_unsupported (document : Json) (other : String) :
    Ingest.documents? document ≠ .error (unsupported other) := by
  have hmessage (text : String) :
      "expected a document or an array of documents, got " ++ text ≠
        "unsupported data file: " ++ other := by
    intro h
    simpa using congrArg (fun text => text.toList.head?) h
  intro h
  cases document with
  | arr rows => cases h
  | obj members => cases h
  | null | bool _ | num _ | str _ =>
    exact hmessage _ (by simpa [Ingest.documents?, unsupported] using h)

/-- How the ingestion of a file in a format ends, from what the file holds. A file that is missing,
that is no table or no document, or whose document holds no rows, fails and changes nothing. The
rows of any other are ingested, those of a table with their places. -/
inductive Reads (options : CoercionOptions) (index : String) (fields : FieldSet) (limit : Nat)
    (workspace : Workspace σ) :
    Path.Format → Option Bytes → Except IngestError IngestReport × Workspace σ → Prop where
  | missing (format : Path.Format) (details : String) :
      Reads options index fields limit workspace format none (.error (.io details), workspace)
  | noTable {bytes : Bytes} {cause : IngestError} (htable : Csv.table? bytes = .error cause) :
      Reads options index fields limit workspace .csv (some bytes) (.error cause, workspace)
  | table {bytes : Bytes} {entries : List (Nat × Except IngestError Json)} {report : IngestReport}
      {after : Workspace σ} (htable : Csv.table? bytes = .ok entries)
      (hrun : (Ingest.table options index fields limit entries).run workspace = (report, after)) :
      Reads options index fields limit workspace .csv (some bytes) (.ok report, after)
  | noDocument {bytes : Bytes} (details : String)
      (hparse : (Text.decode? bytes).bind Json.parse? = none) :
      Reads options index fields limit workspace .json (some bytes)
        (.error (.json details), workspace)
  | noRows {bytes : Bytes} {document : Json} {cause : IngestError}
      (hparse : (Text.decode? bytes).bind Json.parse? = some document)
      (hrows : Ingest.documents? document = .error cause) :
      Reads options index fields limit workspace .json (some bytes) (.error cause, workspace)
  | rows {bytes : Bytes} {document : Json} {rows : List Json} {report : IngestReport}
      {after : Workspace σ} (hparse : (Text.decode? bytes).bind Json.parse? = some document)
      (hrows : Ingest.documents? document = .ok rows)
      (hrun : (Ingest.rows options index fields limit (Ingest.numbered rows)).run workspace =
        (report, after)) :
      Reads options index fields limit workspace .json (some bytes) (.ok report, after)

variable {workspace : Workspace σ}

/-- A reader fails for a content, and never for a name. -/
theorem Reads.ne_unsupported {outcome : Except IngestError IngestReport × Workspace σ}
    (h : Reads options index fields limit workspace format content outcome) (other : String) :
    outcome.1 ≠ .error (unsupported other) := by
  cases h with
  | missing format details => exact nofun
  | noTable htable =>
    obtain ⟨details, rfl⟩ := Csv.exists_of_table?_eq_error htable
    exact nofun
  | table htable hrun => exact nofun
  | noDocument details hparse => exact nofun
  | @noRows bytes document cause hparse hrows =>
    intro hcause
    obtain rfl := Except.error.inj hcause
    exact documents?_ne_unsupported document other hrows
  | rows hparse hrows hrun => exact nofun

theorem readJson_some (bytes : Bytes) :
    readJson (some bytes) =
      match (Text.decode? bytes).bind Json.parse? with
      | some document => .ok document
      | none => .error (.json "malformed document") := by
  rw [readJson, presentBytes]
  rfl

theorem ingestAs_csv_some (bytes : Bytes) :
    ingestAs (σ := σ) .csv options index fields limit (some bytes) =
      Ingest.csv options index fields limit bytes :=
  rfl

theorem ingestAs_json_some {bytes : Bytes} {document : Json}
    (hparse : (Text.decode? bytes).bind Json.parse? = some document) :
    ingestAs (σ := σ) .json options index fields limit (some bytes) =
      Ingest.documents options index fields limit document := by
  rw [ingestAs, readJson_some, hparse]
  rfl

/-- **A file is read in its format.** -/
theorem reads_ingestAs (options : CoercionOptions) (index : String) (fields : FieldSet)
    (limit : Nat) (format : Path.Format) (content : Option Bytes) (workspace : Workspace σ) :
    Reads options index fields limit workspace format content
      ((ingestAs format options index fields limit content).runFrom workspace) := by
  cases content with
  | none => cases format <;> exact .missing _ _
  | some bytes =>
    cases format with
    | csv =>
      rw [ingestAs_csv_some, Ingest.csv]
      cases htable : Csv.table? bytes with
      | error cause => exact .noTable htable
      | ok entries => exact .table htable rfl
    | json =>
      cases hparse : (Text.decode? bytes).bind Json.parse? with
      | none =>
        rw [ingestAs, readJson_some, hparse]
        exact .noDocument _ hparse
      | some document =>
        rw [ingestAs_json_some hparse, Ingest.documents]
        cases hrows : Ingest.documents? document with
        | error cause => exact .noRows hparse hrows
        | ok rows => exact .rows hparse hrows rfl

theorem ingestByExtension_of_isOfFormat {name : String}
    (hname : (Path.names path).getLast? = some name) (hformat : Path.IsOfFormat name format) :
    ingestByExtension (σ := σ) options index fields limit path content =
      ingestAs format options index fields limit content := by
  rw [ingestByExtension, Path.bind_fileName?, hname, Option.bind_some,
    Path.format?_eq_some_iff.mpr hformat]

theorem ingestByExtension_of_forall_not
    (h : ∀ name format, (Path.names path).getLast? = some name → ¬Path.IsOfFormat name format) :
    ingestByExtension (σ := σ) options index fields limit path content =
      throw (unsupported path) := by
  have hnone : (Path.names path).getLast?.bind Path.format? = none := by
    rw [Option.eq_none_iff_forall_ne_some]
    intro format hformat
    obtain ⟨name, hname, hformat⟩ := Option.bind_eq_some_iff.mp hformat
    exact h name format hname (Path.format?_eq_some_iff.mp hformat)
  rw [ingestByExtension, Path.bind_fileName?, hnone]
  rfl

/-- **What is found is read, and what is left out is refused.**

The files that are found below a root are those with the extension of a format, each once and in
the order of their paths. Ingested under its path, such a file is read in its format and not
refused, whatever it holds and wherever the ingestion starts; any other file is refused, and nothing
changes. -/
theorem ingests_dataFiles {tree : Tree} (h : tree.IsNamed) (root : List String) :
    (tree.dataFiles root).Pairwise (· < ·) ∧
    (∀ file, file ∈ tree.dataFiles root ↔ root <+: file ∧ tree.at? file = some .file ∧
      ∃ name format, file.getLast? = some name ∧ Path.IsOfFormat name format) ∧
    ∀ (options : CoercionOptions) (index : String) (fields : FieldSet) (limit : Nat) (path : String)
      (content : Option Bytes) (workspace : Workspace σ),
      (Path.names path ∈ tree.dataFiles root →
        ∃ name format, (Path.names path).getLast? = some name ∧ Path.IsOfFormat name format ∧
          Reads options index fields limit workspace format content
            ((ingestByExtension options index fields limit path content).runFrom workspace) ∧
          ∀ other, ((ingestByExtension options index fields limit path content).runFrom
            workspace).1 ≠ .error (unsupported other)) ∧
      (root <+: Path.names path → tree.at? (Path.names path) = some .file →
        Path.names path ∉ tree.dataFiles root →
          (ingestByExtension options index fields limit path content).runFrom workspace =
            (.error (unsupported path), workspace)) := by
  refine ⟨Tree.pairwise_dataFiles h root, fun file => Tree.mem_dataFiles_iff h,
    fun options index fields limit path content workspace => ⟨fun hfound => ?_,
      fun hbelow hfile hleft => ?_⟩⟩
  · obtain ⟨-, -, name, format, hname, hformat⟩ := (Tree.mem_dataFiles_iff h).mp hfound
    have hreads := reads_ingestAs options index fields limit format content workspace
    rw [ingestByExtension_of_isOfFormat hname hformat]
    exact ⟨name, format, hname, hformat, hreads, hreads.ne_unsupported⟩
  · rw [ingestByExtension_of_forall_not fun name format hname hformat =>
      hleft ((Tree.mem_dataFiles_iff h).mpr ⟨hbelow, hfile, name, format, hname, hformat⟩)]
    rfl

/-- A file is found by the last extension of its name, in capitals, and read as a table; a hidden
file without another point in its name is refused. -/
theorem ingests_dataFiles_of_nested :
    let tree := Tree.folder [("notes.txt", .file),
      ("rows", .folder [("all.tar.CSV", .file), (".csv", .file)]), ("more.json", .other)]
    let content := some (Text.encode "id\n7\n")
    let run := fun path => (ingestByExtension .standard "i" [] 1 path content).runFrom
    tree.IsNamed ∧ tree.dataFiles [] = [["rows", "all.tar.CSV"]] ∧
      ∀ start : Workspace MemoryStore,
        Reads .standard "i" [] 1 start .csv content (run "rows/all.tar.CSV" start) ∧
        (∀ other, (run "rows/all.tar.CSV" start).1 ≠ .error (unsupported other)) ∧
        run "rows/.csv" start = (.error (unsupported "rows/.csv"), start) := by
  intro tree content run
  have hnamed : tree.IsNamed := by
    have hrows : (Tree.folder [("all.tar.CSV", .file), (".csv", .file)]).IsNamed :=
      .folder (by decide) (by simp [Tree.IsNamed.file])
    exact .folder (by decide) (by simp [Tree.IsNamed.file, Tree.IsNamed.other, hrows])
  have hfound : tree.dataFiles [] = [["rows", "all.tar.CSV"]] := by rfl
  refine ⟨hnamed, hfound, fun start => ?_⟩
  obtain ⟨-, -, hruns⟩ := ingests_dataFiles (σ := MemoryStore) hnamed []
  obtain ⟨hread, -⟩ := hruns .standard "i" [] 1 "rows/all.tar.CSV" content start
  obtain ⟨-, hrefused⟩ := hruns .standard "i" [] 1 "rows/.csv" content start
  obtain ⟨name, format, hname, hformat, hreads, hnever⟩ := hread (by rw [hfound]; decide)
  obtain rfl : "all.tar.CSV" = name := Option.some.inj hname
  obtain rfl : .csv = format := Option.some.inj (Path.format?_eq_some_iff.mpr hformat)
  exact ⟨hreads, hnever, hrefused List.nil_prefix rfl (by rw [hfound]; decide)⟩

end Service

end HybridSearch
