import HybridSearch.Files.Archive
import HybridSearch.Proofs.Attempt
import HybridSearch.Proofs.Store.Lookup
import HybridSearch.Proofs.Text.Split

/-!
# What an archive keeps

An object stands at the names of its bucket and of its own name, one after the other, so different
pairs of a bucket and a name may stand at one place, and an object may be named like the sidecar of
another. An object and its sidecar are kept until something else is written where they stand.

## Main definitions

* `Archive.Put`, `Archive.Put.place` — an upload for a bucket and a name, and where it is kept.
* `Archive.Put.HasObject`, `Archive.Put.HasSidecar` — the archive has what a put has left.
* `Archive.putAll` — uploads one after another.

## Main results

* `Archive.objectPath?_eq_ok` — where an object with a valid name is kept.
* `Archive.Put.get?_of_node?`, `Archive.Put.get?_of_node?_eq_none` — what one put writes, and that
  all other files are as they were.
* `Archive.get?_of_last` — the last of the puts that write at a path.
* `Archive.putAll_keeps` — what is left of each put after all others.
* `Archive.not_putAll_keeps` — puts of other pairs that write over it.
-/

namespace HybridSearch

/-! ### Names -/

namespace Path

variable {path : String}

@[simp] theorem names_append_slash (before after : String) :
    names (before ++ "/" ++ after) = names before ++ names after := by
  rw [names, Text.split_append rfl, List.filter_append]
  rfl

@[simp] theorem names_empty : names "" = [] := rfl

@[simp] theorem names_slash (before : String) : names (before ++ "/") = names before := by
  have hnames := names_append_slash before ""
  rwa [String.append_empty, names_empty, List.append_nil] at hnames

/-- The first piece of a relative path is not empty. -/
theorem exists_split_eq_cons (hne : path ≠ "") (hrelative : isAbsolute path = false) :
    ∃ name rest, Text.split '/' path = name :: rest ∧ name ≠ "" := by
  cases hchars : path.toList with
  | nil => exact absurd (String.toList_eq_nil_iff.mp hchars) hne
  | cons c chars =>
    have hc : (c == '/') = false := by
      rw [isAbsolute, String.startsWith_string_eq_false_iff, hchars] at hrelative
      refine beq_eq_false_iff_ne.mpr ?_
      rintro rfl
      exact hrelative ⟨chars, rfl⟩
    rw [Text.split, hchars, Text.pieces, if_neg (Bool.eq_false_iff.mp hc)]
    cases Text.pieces (· == '/') chars with
    | nil => exact ⟨_, _, rfl, by simp⟩
    | cons piece more => exact ⟨_, _, rfl, by simp⟩

end Path

namespace Archive

variable {archive after : Archive} {target path : ArchivePath} {bucket object : String}

theorem names_ne_nil {path : String} (hne : path ≠ "") (hescapes : escapes path = false) :
    Path.names path ≠ [] := by
  rw [escapes, Bool.or_eq_false_iff, Bool.or_eq_false_iff] at hescapes
  obtain ⟨⟨hrelative, hpoint⟩, -⟩ := hescapes
  obtain ⟨name, rest, hsplit, hname⟩ := Path.exists_split_eq_cons hne hrelative
  rw [hsplit] at hpoint
  have hkept : (name != "" && name != ".") = true := by
    simpa [hname] using hpoint
  rw [Path.names, hsplit, List.filter_cons, if_pos hkept]
  exact List.cons_ne_nil _ _

/-- A slash stands between a bucket and a relative name. The bucket may end with it already. -/
theorem exists_joinedPath_eq (hbucket : bucket.isEmpty = false)
    (hrelative : Path.isAbsolute object = false) :
    ∃ before, joinedPath bucket object = before ++ "/" ++ object ∧
      (bucket = before ∨ bucket = before ++ "/") := by
  rw [joinedPath, hrelative, hbucket, Bool.or_false, if_neg Bool.false_ne_true]
  split
  · rename_i hslash
    rw [← String.endsWith_toSlice, String.Slice.endsWith_string_iff] at hslash
    obtain ⟨chars, hchars⟩ := hslash
    have hbefore : bucket = String.ofList chars ++ "/" :=
      String.toList_inj.mp (by simpa using hchars.symm)
    exact ⟨String.ofList chars, congrArg (· ++ object) hbefore, Or.inr hbefore⟩
  · exact ⟨bucket, rfl, Or.inl rfl⟩

/-- The names of an object are those of its bucket before those of its own name. -/
theorem names_joinedPath (hbucket : bucket.isEmpty = false)
    (hrelative : Path.isAbsolute object = false) :
    Path.names (joinedPath bucket object) = Path.names bucket ++ Path.names object := by
  obtain ⟨before, hjoined, rfl | rfl⟩ := exists_joinedPath_eq hbucket hrelative
  · rw [hjoined, Path.names_append_slash]
  · rw [hjoined, Path.names_append_slash, Path.names_slash]

theorem joinedPath_ne_empty (hobject : object ≠ "") : joinedPath bucket object ≠ "" := by
  rw [joinedPath]
  split
  · exact hobject
  · split <;> simp [hobject]

theorem objectPath?_eq_ok (h : objectPath? bucket object = .ok target) :
    target = Path.names bucket ++ Path.names object ∧ target ≠ [] := by
  rw [objectPath?] at h
  split at h
  · cases h
  · rename_i hvalid
    simp only [Bool.or_eq_true, not_or, Bool.not_eq_true] at hvalid
    obtain ⟨⟨hescapes, hbucket⟩, hobject⟩ := hvalid
    obtain rfl := Except.ok.inj h
    have hrelative : Path.isAbsolute object = false := by
      refine Bool.eq_false_iff.mpr fun habsolute => ?_
      rw [joinedPath, habsolute, Bool.true_or, if_pos rfl, escapes, habsolute] at hescapes
      cases hescapes
    have hne : object ≠ "" := by
      rintro rfl
      cases hobject
    exact ⟨names_joinedPath hbucket hrelative, names_ne_nil (joinedPath_ne_empty hne) hescapes⟩

@[simp] theorem sidecarPath_append (above : ArchivePath) (name : String) :
    sidecarPath (above ++ [name]) = above ++ [name ++ ".meta.json"] := by
  induction above with
  | nil => rfl
  | cons folder above ih =>
    have hne : above ++ [name] ≠ [] := List.append_ne_nil_of_right_ne_nil _ (List.cons_ne_nil _ _)
    rw [List.cons_append, sidecarPath, ih, List.cons_append]
    exact hne

/-- A sidecar stands beside its object, under another name. -/
theorem sidecarPath_ne (hne : target ≠ []) : sidecarPath target ≠ target := by
  obtain rfl | ⟨above, name, rfl⟩ := List.eq_nil_or_concat target
  · exact absurd rfl hne
  · simp

theorem sidecarPath_injective : Function.Injective sidecarPath := by
  intro left right h
  rcases List.eq_nil_or_concat left with rfl | ⟨above, name, rfl⟩
  · rcases List.eq_nil_or_concat right with rfl | ⟨above, name, rfl⟩
    · rfl
    · simp [sidecarPath] at h
  · rcases List.eq_nil_or_concat right with rfl | ⟨otherAbove, otherName, rfl⟩
    · simp [sidecarPath] at h
    · simpa using h

/-! ### Writing -/

/-- What keeps a node from being written at a path. -/
def writeFault? (archive : Archive) (path : ArchivePath) : Option String :=
  (archive.pathFault path).or <|
    if !(path.all isName) then some "File name too long"
    else if archive.isFolder path then some "Is a directory"
    else none

@[simp] theorem get?_set (archive : Archive) (written path : ArchivePath) (node : ArchiveNode) :
    (archive.set written node).get? path =
      if path = written then some node else archive.get? path := by
  rw [get?, get?, set, lookup_cons_ite, lookup_filter_name fun name => decide (name ≠ written)]
  split
  · rfl
  · rename_i hpath
    rw [if_pos (decide_eq_true hpath)]

theorem runFrom_checkPath (archive : Archive) (path : ArchivePath) :
    (checkPath path).runFrom archive =
      match archive.pathFault path with
      | some fault => (.error (.io fault), archive)
      | none => (.ok (), archive) := by
  rw [checkPath, Attempt.runFrom_bind_of_ok (Attempt.runFrom_get archive)]
  cases archive.pathFault path <;> rfl

theorem eq_of_runFrom_checkPath {u : Unit}
    (h : (checkPath path).runFrom archive = (.ok u, after)) : archive = after := by
  rw [runFrom_checkPath] at h
  cases hfault : archive.pathFault path with
  | some fault =>
    rw [hfault] at h
    cases h
  | none =>
    rw [hfault] at h
    exact congrArg Prod.snd h

theorem runFrom_write (archive : Archive) (path : ArchivePath) (node : ArchiveNode) :
    (write path node).runFrom archive =
      match archive.writeFault? path with
      | some fault => (.error (.io fault), archive)
      | none => (.ok (), archive.set path node) := by
  have hcheck := runFrom_checkPath archive path
  rw [write, writeFault?]
  cases hfault : archive.pathFault path with
  | some fault =>
    rw [hfault] at hcheck
    exact Attempt.runFrom_bind_of_error hcheck
  | none =>
    rw [hfault] at hcheck
    rw [Attempt.runFrom_bind_of_ok hcheck, Option.none_or]
    cases path.all isName with
    | false => rfl
    | true =>
      refine (Attempt.runFrom_bind_of_ok (Attempt.runFrom_get archive)).trans ?_
      cases archive.isFolder path <;> rfl

theorem eq_set_of_runFrom_write {node : ArchiveNode} {u : Unit}
    (h : (write path node).runFrom archive = (.ok u, after)) : archive.set path node = after := by
  rw [runFrom_write] at h
  cases hfault : archive.writeFault? path with
  | some fault =>
    rw [hfault] at h
    cases h
  | none =>
    rw [hfault] at h
    exact congrArg Prod.snd h

theorem runFrom_makeFolders_cons (archive : Archive) (above rest : ArchivePath) (name : String) :
    (makeFolders above (name :: rest)).runFrom archive =
      if isName name then
        match archive.get? (above ++ [name]) with
        | some .folder => (makeFolders (above ++ [name]) rest).runFrom archive
        | some _ => (.error (.io "Not a directory"), archive)
        | none =>
          (makeFolders (above ++ [name]) rest).runFrom (archive.set (above ++ [name]) .folder)
      else (.error (.io "File name too long"), archive) := by
  rw [makeFolders]
  cases isName name with
  | false => rfl
  | true =>
    refine (Attempt.runFrom_bind_of_ok (Attempt.runFrom_get archive)).trans ?_
    cases archive.get? (above ++ [name]) with
    | none => rfl
    | some node => cases node <;> rfl

/-- Nothing that there is already makes way for a folder. -/
theorem get?_of_runFrom_makeFolders {above : ArchivePath} {u : Unit} {node : ArchiveNode}
    (h : (makeFolders above target).runFrom archive = (.ok u, after))
    (hnode : archive.get? path = some node) : after.get? path = some node := by
  induction target generalizing above archive with
  | nil =>
    cases h
    exact hnode
  | cons name rest ih =>
    rw [runFrom_makeFolders_cons] at h
    split at h
    · split at h
      · exact ih h hnode
      · cases h
      · rename_i hnone
        refine ih h ?_
        rw [get?_set, if_neg, hnode]
        rintro rfl
        cases hnone.symm.trans hnode
    · cases h

/-! ### One put -/

/-- An upload for a bucket and a name. -/
structure Put where
  bucket : String
  object : String
  upload : Option Bytes
  metadata : Json.Members

namespace Put

variable {put : Put} {etag : String}

def run (put : Put) : Attempt IngestError Archive String :=
  Archive.put put.bucket put.object put.upload put.metadata

def place (put : Put) : ArchivePath := Path.names put.bucket ++ Path.names put.object

/-- What is written at a path. -/
def node? (put : Put) (path : ArchivePath) : Option ArchiveNode :=
  put.upload.bind fun bytes =>
    if path = put.place then some (.object bytes)
    else if path = sidecarPath put.place then some (.sidecar (Sha256.hex bytes) put.metadata)
    else none

/-- The uploaded bytes are kept. -/
def HasObject (put : Put) (archive : Archive) : Prop :=
  ∃ bytes, put.upload = some bytes ∧ archive.get? put.place = some (.object bytes)

/-- The digest of the uploaded bytes and the metadata are kept. -/
def HasSidecar (put : Put) (archive : Archive) : Prop :=
  ∃ bytes, put.upload = some bytes ∧
    archive.get? (sidecarPath put.place) = some (.sidecar (Sha256.hex bytes) put.metadata)

/-- A put that succeeds makes the folders of its place, and writes the upload and the sidecar. -/
theorem runFrom_eq_ok (h : put.run.runFrom archive = (.ok etag, after)) :
    objectPath? put.bucket put.object = .ok put.place ∧ put.place ≠ [] ∧
      ∃ bytes made, put.upload = some bytes ∧
        (makeFolders [] put.place.dropLast).runFrom archive = (.ok (), made) ∧
          after = (made.set put.place (.object bytes)).set (sidecarPath put.place)
            (.sidecar (Sha256.hex bytes) put.metadata) := by
  rw [run, Archive.put] at h
  obtain ⟨target, _, hpath, hrest⟩ := Attempt.runFrom_bind_eq_ok.mp h
  obtain ⟨htarget, rfl⟩ := Prod.mk.inj hpath
  obtain ⟨rfl, hne⟩ := objectPath?_eq_ok htarget
  obtain ⟨_, _, hcheck, hfolders⟩ := Attempt.runFrom_bind_eq_ok.mp hrest
  obtain rfl := eq_of_runFrom_checkPath hcheck
  obtain ⟨_, made, hmade, hwrites⟩ := Attempt.runFrom_bind_eq_ok.mp hfolders
  cases hupload : put.upload with
  | none =>
    rw [hupload] at hwrites
    cases hwrites
  | some bytes =>
    rw [hupload] at hwrites
    cases hfolder : namesFolder (joinedPath put.bucket put.object) with
    | true =>
      rw [hfolder] at hwrites
      cases hwrites
    | false =>
      rw [hfolder] at hwrites
      obtain ⟨_, written, hwritten, hsidecar⟩ := Attempt.runFrom_bind_eq_ok.mp hwrites
      obtain ⟨_, described, hdescribed, hend⟩ := Attempt.runFrom_bind_eq_ok.mp hsidecar
      obtain rfl := eq_set_of_runFrom_write hwritten
      obtain rfl := eq_set_of_runFrom_write hdescribed
      cases hend
      exact ⟨htarget, hne, bytes, made, rfl, hmade, rfl⟩

/-- What a put writes at a path is there when it has succeeded. -/
theorem get?_of_node? {node : ArchiveNode} (h : put.run.runFrom archive = (.ok etag, after))
    (hnode : put.node? path = some node) : after.get? path = some node := by
  obtain ⟨-, hne, bytes, made, hupload, -, rfl⟩ := runFrom_eq_ok h
  rw [node?, hupload, Option.bind_some] at hnode
  rw [get?_set, get?_set]
  by_cases hplace : path = put.place
  · subst hplace
    rw [if_pos rfl] at hnode
    rwa [if_neg (sidecarPath_ne hne).symm, if_pos rfl]
  · rw [if_neg hplace] at hnode ⊢
    by_cases hsidecar : path = sidecarPath put.place
    · rwa [if_pos hsidecar] at hnode ⊢
    · rw [if_neg hsidecar] at hnode
      cases hnode

/-- What a put does not write is as it was. -/
theorem get?_of_node?_eq_none {node : ArchiveNode}
    (h : put.run.runFrom archive = (.ok etag, after)) (hnone : put.node? path = none)
    (hnode : archive.get? path = some node) : after.get? path = some node := by
  obtain ⟨-, -, bytes, made, hupload, hmade, rfl⟩ := runFrom_eq_ok h
  rw [node?, hupload, Option.bind_some] at hnone
  have hkept := get?_of_runFrom_makeFolders hmade hnode
  rw [get?_set, get?_set]
  split at hnone
  · cases hnone
  · rename_i hplace
    split at hnone
    · cases hnone
    · rename_i hsidecar
      rw [if_neg hsidecar, if_neg hplace, hkept]

theorem node?_place {bytes : Bytes} (hupload : put.upload = some bytes) :
    put.node? put.place = some (.object bytes) := by
  rw [node?, hupload, Option.bind_some, if_pos rfl]

theorem node?_sidecarPath {bytes : Bytes} (hupload : put.upload = some bytes)
    (hne : put.place ≠ []) : put.node? (sidecarPath put.place) =
      some (.sidecar (Sha256.hex bytes) put.metadata) := by
  rw [node?, hupload, Option.bind_some, if_neg (sidecarPath_ne hne), if_pos rfl]

theorem node?_eq_none (hplace : path ≠ put.place) (hsidecar : path ≠ sidecarPath put.place) :
    put.node? path = none := by
  rw [node?]
  cases put.upload with
  | none => rfl
  | some bytes => rw [Option.bind_some, if_neg hplace, if_neg hsidecar]

end Put

/-! ### Many puts -/

/-- Uploads one after another, as long as each of them succeeds. -/
def putAll (puts : List Put) : Attempt IngestError Archive (List String) := puts.mapM Put.run

variable {before later : List Put} {put : Put} {etags : List String} {node : ArchiveNode}

theorem get?_of_runFrom_putAll (h : (putAll later).runFrom archive = (.ok etags, after))
    (hlater : ∀ other ∈ later, other.node? path = none) (hnode : archive.get? path = some node) :
    after.get? path = some node := by
  induction later generalizing archive etags with
  | nil =>
    cases h
    exact hnode
  | cons other later ih =>
    rw [putAll, List.mapM_cons] at h
    obtain ⟨_, next, hother, hrest⟩ := Attempt.runFrom_bind_eq_ok.mp h
    obtain ⟨_, _, hlast, hend⟩ := Attempt.runFrom_bind_eq_ok.mp hrest
    cases hend
    obtain ⟨hfirst, hothers⟩ := List.forall_mem_cons.mp hlater
    exact ih hlast hothers (Put.get?_of_node?_eq_none hother hfirst hnode)

/-- One put among others succeeds from what those before it have left. -/
theorem exists_runFrom_put
    (h : (putAll (before ++ put :: later)).runFrom archive = (.ok etags, after)) :
    ∃ start next etag rest, put.run.runFrom start = (.ok etag, next) ∧
      (putAll later).runFrom next = (.ok rest, after) := by
  rw [putAll, List.mapM_append] at h
  obtain ⟨_, start, -, hrest⟩ := Attempt.runFrom_bind_eq_ok.mp h
  obtain ⟨_, _, hputs, hend⟩ := Attempt.runFrom_bind_eq_ok.mp hrest
  cases hend
  rw [List.mapM_cons] at hputs
  obtain ⟨etag, next, hput, hlater⟩ := Attempt.runFrom_bind_eq_ok.mp hputs
  obtain ⟨rest, _, hlast, hend⟩ := Attempt.runFrom_bind_eq_ok.mp hlater
  cases hend
  exact ⟨start, next, etag, rest, hput, hlast⟩

/-- **What the last of the puts that write at a path has written** is there in the end. -/
theorem get?_of_last (h : (putAll (before ++ put :: later)).runFrom archive = (.ok etags, after))
    (hnode : put.node? path = some node) (hlater : ∀ other ∈ later, other.node? path = none) :
    after.get? path = some node := by
  obtain ⟨_, next, _, _, hput, hlast⟩ := exists_runFrom_put h
  exact get?_of_runFrom_putAll hlast hlater (Put.get?_of_node? hput hnode)

/-- **Archived objects keep their bytes.** Of each put in a row of successful ones the object stays
at the names of its bucket and its name as long as no later one is put at the same names or has its
sidecar there, and its sidecar stays, with the digest of the bytes and the metadata, as long as no
later one is put at the same names or under the name of the sidecar. -/
theorem putAll_keeps (h : (putAll (before ++ put :: later)).runFrom archive = (.ok etags, after)) :
    objectPath? put.bucket put.object = .ok put.place ∧
      ((∀ other ∈ later, other.place ≠ put.place ∧ sidecarPath other.place ≠ put.place) →
        put.HasObject after) ∧
      ((∀ other ∈ later, other.place ≠ put.place ∧ other.place ≠ sidecarPath put.place) →
        put.HasSidecar after) := by
  obtain ⟨_, next, _, _, hput, hlast⟩ := exists_runFrom_put h
  obtain ⟨hvalid, hne, bytes, -, hupload, -, -⟩ := Put.runFrom_eq_ok hput
  refine ⟨hvalid, fun hlater => ⟨bytes, hupload, ?_⟩, fun hlater => ⟨bytes, hupload, ?_⟩⟩
  · refine get?_of_last h (Put.node?_place hupload) fun other hother => ?_
    obtain ⟨hplace, hsidecar⟩ := hlater other hother
    exact Put.node?_eq_none hplace.symm hsidecar.symm
  · refine get?_of_last h (Put.node?_sidecarPath hupload hne) fun other hother => ?_
    obtain ⟨hplace, hsidecar⟩ := hlater other hother
    exact Put.node?_eq_none hsidecar.symm fun hsame => hplace (sidecarPath_injective hsame).symm

private def slashInName : Put := ⟨"a", "b/c", some [49], []⟩

private def slashInBucket : Put := ⟨"a/b", "c", some [50], []⟩

private def namedLikeSidecar : Put := ⟨"a", "c.meta.json", some [49], []⟩

private def besideSidecar : Put := ⟨"a", "c", some [50], []⟩

private theorem exists_runFrom_putAll {puts : List Put}
    (h : ((putAll puts).runFrom archive).1.toOption.isSome = true) :
    ∃ etags after, (putAll puts).runFrom archive = (.ok etags, after) := by
  rcases hrun : (putAll puts).runFrom archive with ⟨_ | etags, after⟩
  · rw [hrun] at h
    cases h
  · exact ⟨etags, after, rfl⟩

/-- Two objects with different names. -/
theorem putAll_keeps_of_two :
    ∃ etags after,
      (putAll [slashInName, besideSidecar]).runFrom (.empty "blobs") = (.ok etags, after) ∧
        after.get? ["a", "b", "c"] = some (.object [49]) ∧
        after.get? ["a", "b", "c.meta.json"] = some (.sidecar (Sha256.hex [49]) []) := by
  obtain ⟨etags, after, hrun⟩ : ∃ etags after,
      (putAll ([] ++ slashInName :: [besideSidecar])).runFrom (.empty "blobs") =
        (.ok etags, after) := exists_runFrom_putAll (by decide +kernel)
  obtain ⟨-, hobject, hsidecar⟩ := putAll_keeps hrun
  have hplace : besideSidecar.place ≠ slashInName.place := by decide
  obtain ⟨_, ⟨⟩, hbytes⟩ := hobject (List.forall_mem_singleton.mpr ⟨hplace, by decide⟩)
  obtain ⟨_, ⟨⟩, hdigest⟩ := hsidecar (List.forall_mem_singleton.mpr ⟨hplace, by decide⟩)
  exact ⟨etags, after, hrun, hbytes, hdigest⟩

/-- Each put in a row of successful ones has something kept in the end, if all later ones are apart
from it. -/
def KeepsApart (apart : Put → Put → Prop) (kept : Put → Archive → Prop) : Prop :=
  ∀ (before later : List Put) (put : Put) (etags : List String) (after : Archive),
    (putAll (before ++ put :: later)).runFrom (.empty "blobs") = (.ok etags, after) →
      (∀ other ∈ later, apart other put) → kept put after

private theorem not_keepsApart {apart : Put → Put → Prop} {kept : Put → Archive → Prop}
    (first second : Put)
    (hrun : ((putAll [first, second]).runFrom (.empty "blobs")).1.toOption.isSome = true)
    (hapart : apart second first) (hnode : second.node? path = some node)
    (hlost : ∀ after : Archive, after.get? path = some node → ¬kept first after) :
    ¬KeepsApart apart kept := by
  intro hall
  obtain ⟨etags, after, hboth⟩ : ∃ etags after,
      (putAll ([first] ++ second :: [])).runFrom (.empty "blobs") = (.ok etags, after) :=
    exists_runFrom_putAll hrun
  have hlast : after.get? path = some node := get?_of_last hboth hnode nofun
  exact hlost after hlast
    (hall [] [second] first etags after hboth (List.forall_mem_singleton.mpr hapart))

/-- A slash can stand in a bucket as well as in a name, so another pair may have the same place. At
another place, a sidecar may be written over an object and an object over a sidecar. -/
theorem not_putAll_keeps :
    ¬KeepsApart (fun other put => (other.bucket, other.object) ≠ (put.bucket, put.object))
        (fun put after => put.HasObject after ∧ put.HasSidecar after) ∧
      ¬KeepsApart (fun other put => other.place ≠ put.place) Put.HasObject ∧
      ¬KeepsApart (fun other put => other.place ≠ put.place) Put.HasSidecar := by
  refine ⟨?_, ?_, ?_⟩
  · refine not_keepsApart slashInName slashInBucket (by decide +kernel) (by decide)
      (Put.node?_place rfl) ?_
    rintro after hlast ⟨⟨_, ⟨⟩, hkept⟩, -⟩
    cases hlast.symm.trans hkept
  · refine not_keepsApart namedLikeSidecar besideSidecar (by decide +kernel) (by decide)
      (Put.node?_sidecarPath rfl (by decide)) ?_
    rintro after hlast ⟨_, ⟨⟩, hkept⟩
    cases hlast.symm.trans hkept
  · refine not_keepsApart besideSidecar namedLikeSidecar (by decide +kernel) (by decide)
      (Put.node?_place rfl) ?_
    rintro after hlast ⟨_, ⟨⟩, hkept⟩
    cases hlast.symm.trans hkept

end Archive

end HybridSearch
