import HybridSearch.Proofs.Files.Archive

/-!
# Puts that fail

A put makes the folders of its object before it writes the object, and the sidecar comes last. Up to
the object a failure leaves all files as they were. A sidecar that cannot be written makes the put
fail as well, and by then its object has been written.

## Main definitions

* `Archive.file?` — the object or the sidecar at a path.
* `Archive.Put.Admits` — the object of a put can be written.

## Main results

* `Archive.keeps_makeFolders`, `Archive.runFrom_makeFolders_eq_ok_iff` — what making folders leaves
  alone, and when it succeeds.
* `Archive.Put.run_cases` — how a put ends, by what it finds.
* `Archive.files_after_failure` — the files after a put that fails.
* `Archive.not_files_after_failure` — an object without its sidecar.
-/

namespace HybridSearch

/-! ### Files -/

/-- Folders hold nothing of their own. -/
def ArchiveNode.file? : ArchiveNode → Option ArchiveNode
  | folder => none
  | node => some node

namespace Archive

variable {archive after : Archive} {above target path : ArchivePath} {node : ArchiveNode}

def file? (archive : Archive) (path : ArchivePath) : Option ArchiveNode :=
  (archive.get? path).bind ArchiveNode.file?

@[simp] theorem file?_set (archive : Archive) (written path : ArchivePath) (node : ArchiveNode) :
    (archive.set written node).file? path =
      if path = written then node.file? else archive.file? path := by
  simp only [file?, get?_set]
  split <;> rfl

theorem file?_set_folder (h : archive.get? path = none) :
    (archive.set path .folder).file? = archive.file? := by
  funext other
  rw [file?_set]
  split
  · rename_i hother
    rw [hother, file?, h]
    rfl
  · rfl

/-! ### Places -/

theorem pathFault_eq_none_iff :
    archive.pathFault path = none ↔
      '\x00' ∉ (Text.joined "/" (archive.root :: path)).toList ∧
        (Text.joined "/" (archive.root :: path)).utf8ByteSize ≤ maxPath := by
  simp only [pathFault]
  split
  · rename_i hzero
    simp [List.contains_iff_mem.mp hzero]
  · rename_i hzero
    simp [mt List.contains_iff_mem.mpr hzero]

/-- The path of a folder is a part of those below it. -/
theorem pathFault_dropLast (h : archive.pathFault path = none) :
    archive.pathFault path.dropLast = none := by
  obtain rfl | ⟨above, name, rfl⟩ := List.eq_nil_or_concat path
  · exact h
  · rw [List.concat_eq_append, pathFault_eq_none_iff, ← List.cons_append,
      Text.joined_append _ (List.cons_ne_nil _ _) (List.cons_ne_nil _ _)] at h
    rw [List.concat_eq_append, List.dropLast_concat, pathFault_eq_none_iff]
    simp only [String.toList_append, List.mem_append, not_or, String.utf8ByteSize_append] at h
    exact ⟨h.1.1.1, by omega⟩

theorem writeFault?_eq_none_iff :
    archive.writeFault? path = none ↔
      archive.pathFault path = none ∧ (∀ name ∈ path, isName name = true) ∧
        archive.isFolder path = false := by
  rw [writeFault?, Option.or_eq_none_iff, ← List.all_eq_true]
  cases path.all isName <;> simp

/-- What is written elsewhere does not matter. -/
theorem writeFault?_set (hne : path ≠ target) (node : ArchiveNode) :
    (archive.set target node).writeFault? path = archive.writeFault? path := by
  have hfolder : (archive.set target node).isFolder path = archive.isFolder path := by
    rw [isFolder, get?_set, if_neg hne, isFolder]
  rw [writeFault?, hfolder]
  rfl

theorem length_sidecarPath (target : ArchivePath) :
    (sidecarPath target).length = target.length := by
  obtain rfl | ⟨above, name, rfl⟩ := List.eq_nil_or_concat target
  · rfl
  · simp

/-! ### Folders -/

/-- Making folders leaves alone whatever a new folder leaves alone. -/
theorem keeps_makeFolders {τ : Type} {part : Archive → τ}
    (h : ∀ archive below, below ≠ [] → below <+: target →
      archive.get? (above ++ below) = none →
        part (archive.set (above ++ below) .folder) = part archive) :
    (makeFolders above target).Keeps part := by
  induction target generalizing above with
  | nil => exact fun _ => rfl
  | cons name rest ih =>
    have hrest : (makeFolders (above ++ [name]) rest).Keeps part := by
      refine ih fun archive below _ hbelow hnone => ?_
      rw [List.append_assoc] at hnone ⊢
      exact h archive _ (List.cons_ne_nil _ _) (List.prefix_append_right_inj [name] |>.mpr hbelow)
        hnone
    intro archive
    rw [runFrom_makeFolders_cons]
    split
    · split
      · exact hrest archive
      · rfl
      · rename_i hnone
        have hfirst :=
          h archive [name] (List.cons_ne_nil _ _) (List.prefix_append [name] rest) hnone
        exact (hrest _).trans hfirst
    · rfl

theorem keeps_file?_makeFolders (above target : ArchivePath) :
    (makeFolders above target).Keeps file? :=
  keeps_makeFolders fun _ _ _ _ hnone => file?_set_folder hnone

/-- What may be written beside the last of some names does not change by making folders of the
others. -/
theorem keeps_writeFault?_makeFolders (hne : path ≠ []) (hlength : path.length = target.length) :
    (makeFolders [] target.dropLast).Keeps fun archive => archive.writeFault? path := by
  refine keeps_makeFolders fun archive below _ hbelow _ => writeFault?_set ?_ .folder
  rintro rfl
  have hpos := List.length_pos_iff.mpr hne
  have hshort := hbelow.length_le
  simp only [List.length_dropLast] at hpos hshort hlength
  omega

/-- Folders can be made if their names are not too long and no file stands in the way. -/
theorem runFrom_makeFolders_eq_ok_iff :
    (∃ made, (makeFolders above target).runFrom archive = (.ok (), made)) ↔
      (∀ name ∈ target, isName name = true) ∧
        ∀ below, below ≠ [] → below <+: target → archive.file? (above ++ below) = none := by
  induction target generalizing above archive with
  | nil =>
    refine iff_of_true ⟨archive, rfl⟩ ⟨nofun, fun below hne hbelow => ?_⟩
    exact absurd (List.prefix_nil.mp hbelow) hne
  | cons name rest ih =>
    have hbelow : (∀ below, below ≠ [] → below <+: name :: rest →
        archive.file? (above ++ below) = none) ↔
          archive.file? (above ++ [name]) = none ∧ ∀ below, below ≠ [] → below <+: rest →
            archive.file? (above ++ [name] ++ below) = none := by
      constructor
      · refine fun h => ⟨h [name] (by simp) (List.prefix_append [name] rest), ?_⟩
        intro below _ hbelow
        rw [List.append_assoc]
        exact h _ (by simp) (List.prefix_append_right_inj [name] |>.mpr hbelow)
      · rintro ⟨hfirst, hrest⟩ below hne hprefix
        obtain _ | ⟨next, below⟩ := below
        · exact absurd rfl hne
        obtain ⟨rfl, hmore⟩ := List.cons_prefix_cons.mp hprefix
        by_cases hbelow : below = []
        · rwa [hbelow]
        · simpa using hrest below hbelow hmore
    rw [runFrom_makeFolders_cons, List.forall_mem_cons, hbelow]
    cases hname : isName name with
    | false => simp
    | true =>
      rw [if_pos rfl]
      rcases hnode : archive.get? (above ++ [name]) with _ | _ | bytes | ⟨etag, metadata⟩
      · rw [ih, file?_set_folder hnode]
        simp [file?, hnode]
      · rw [ih]
        simp [file?, hnode, ArchiveNode.file?]
      · simp [file?, hnode, ArchiveNode.file?]
      · simp [file?, hnode, ArchiveNode.file?]

/-! ### One put -/

namespace Put

variable {put : Put} {bytes : Bytes}

/-- The object of a put can be written: its name is valid and that of a file, the upload is there, no
file stands where its folders are to be, and nothing keeps the object from its place. -/
structure Admits (put : Put) (archive : Archive) : Prop where
  valid : objectPath? put.bucket put.object = .ok put.place
  folders : ∀ above, above ≠ [] → above <+: put.place.dropLast → archive.file? above = none
  uploaded : put.upload.isSome
  namesFile : namesFolder (joinedPath put.bucket put.object) = false
  writable : archive.writeFault? put.place = none

/-- How a put ends once its folders are made and nothing keeps its object from being written: the
sidecar follows the object if it can be written as well. -/
def written (put : Put) (made : Archive) (bytes : Bytes) : Except IngestError String × Archive :=
  let stored := made.set put.place (.object bytes)
  match made.writeFault? (sidecarPath put.place) with
  | some fault => (.error (.io fault), stored)
  | none => (.ok (Sha256.hex bytes),
      stored.set (sidecarPath put.place) (.sidecar (Sha256.hex bytes) put.metadata))

/-- What is left of a put once its folders are made. -/
def store (put : Put) : Attempt IngestError Archive String :=
  match put.upload with
  | none => throw (.io "No such file or directory")
  | some bytes => do
    if namesFolder (joinedPath put.bucket put.object) then throw (.io "Is a directory")
    write put.place (.object bytes)
    let etag := Sha256.hex bytes
    write (sidecarPath put.place) (.sidecar etag put.metadata)
    return etag

theorem runFrom_run_of_valid (hvalid : objectPath? put.bucket put.object = .ok put.place)
    (archive : Archive) :
    put.run.runFrom archive =
      (checkPath put.place.dropLast >>= fun _ =>
        makeFolders [] put.place.dropLast >>= fun _ => put.store).runFrom archive := by
  rw [run, Archive.put, hvalid, Attempt.runFrom_bind_of_ok (Attempt.runFrom_ofExcept _ archive)]
  rfl

/-- Once the folders are made, either nothing is written or the object is. -/
theorem store_cases (hne : put.place ≠ []) (made : Archive) :
    (¬(put.upload.isSome ∧ namesFolder (joinedPath put.bucket put.object) = false ∧
        made.writeFault? put.place = none) ∧
      ∃ cause, put.store.runFrom made = (.error cause, made)) ∨
    ∃ bytes, put.upload = some bytes ∧ namesFolder (joinedPath put.bucket put.object) = false ∧
      made.writeFault? put.place = none ∧ put.store.runFrom made = put.written made bytes := by
  rw [store]
  cases put.upload with
  | none => exact Or.inl ⟨by simp, _, rfl⟩
  | some bytes =>
    cases namesFolder (joinedPath put.bucket put.object) with
    | true => exact Or.inl ⟨by simp, _, rfl⟩
    | false =>
      have hobject := runFrom_write made put.place (.object bytes)
      have hsidecar := runFrom_write (made.set put.place (.object bytes)) (sidecarPath put.place)
        (.sidecar (Sha256.hex bytes) put.metadata)
      rw [writeFault?_set (sidecarPath_ne hne)] at hsidecar
      cases hplace : made.writeFault? put.place with
      | some fault =>
        rw [hplace] at hobject
        exact Or.inl ⟨by simp, _, Attempt.runFrom_bind_of_error hobject⟩
      | none =>
        rw [hplace] at hobject
        refine Or.inr ⟨bytes, rfl, rfl, rfl, (Attempt.runFrom_bind_of_ok hobject).trans ?_⟩
        rw [written]
        cases hfault : made.writeFault? (sidecarPath put.place) with
        | some fault =>
          rw [hfault] at hsidecar
          exact Attempt.runFrom_bind_of_error hsidecar
        | none =>
          rw [hfault] at hsidecar
          exact Attempt.runFrom_bind_of_ok hsidecar

/-- Making the folders of an object matters neither to the files nor to what may be written beside
them. -/
theorem kept_of_makeFolders (hne : put.place ≠ []) {result : Except IngestError Unit}
    {made : Archive} (h : (makeFolders [] put.place.dropLast).runFrom archive = (result, made)) :
    made.file? = archive.file? ∧ made.writeFault? put.place = archive.writeFault? put.place ∧
      made.writeFault? (sidecarPath put.place) = archive.writeFault? (sidecarPath put.place) := by
  have hsidecar : sidecarPath put.place ≠ [] := by
    rwa [← List.length_pos_iff, length_sidecarPath, List.length_pos_iff]
  have hkept := keeps_file?_makeFolders [] put.place.dropLast archive
  have hobject := keeps_writeFault?_makeFolders hne rfl archive
  have hbeside := keeps_writeFault?_makeFolders hsidecar (length_sidecarPath put.place) archive
  rw [h] at hkept hobject hbeside
  exact ⟨hkept, hobject, hbeside⟩

/-- **How a put ends.** One that cannot write its object fails and leaves all files as they were.
One that can writes the object, and then the sidecar or nothing more. -/
theorem run_cases (put : Put) (archive : Archive) :
    (¬put.Admits archive ∧ ∃ (cause : IngestError) (made : Archive),
      put.run.runFrom archive = (.error cause, made) ∧ made.file? = archive.file?) ∨
    (put.Admits archive ∧ ∃ (bytes : Bytes) (made : Archive),
      put.upload = some bytes ∧ made.file? = archive.file? ∧
        made.writeFault? (sidecarPath put.place) = archive.writeFault? (sidecarPath put.place) ∧
          put.run.runFrom archive = put.written made bytes) := by
  cases hvalid : objectPath? put.bucket put.object with
  | error cause =>
    refine Or.inl ⟨fun h => ?_, cause, archive, ?_, rfl⟩
    · cases hvalid.symm.trans h.valid
    · rw [run, Archive.put, hvalid]
      rfl
  | ok target =>
    obtain ⟨rfl, hne⟩ := objectPath?_eq_ok hvalid
    rw [← place] at hvalid hne
    rw [runFrom_run_of_valid hvalid]
    have hcheck := runFrom_checkPath archive put.place.dropLast
    cases hfault : archive.pathFault put.place.dropLast with
    | some fault =>
      rw [hfault] at hcheck
      refine Or.inl ⟨fun h => ?_, _, archive, Attempt.runFrom_bind_of_error hcheck, rfl⟩
      cases hfault.symm.trans (pathFault_dropLast (writeFault?_eq_none_iff.mp h.writable).1)
    | none =>
      rw [hfault] at hcheck
      rw [Attempt.runFrom_bind_of_ok hcheck]
      have hmakes : (∃ made, (makeFolders [] put.place.dropLast).runFrom archive =
          (.ok (), made)) ↔ _ := runFrom_makeFolders_eq_ok_iff
      rcases hmake : (makeFolders [] put.place.dropLast).runFrom archive with ⟨cause | ⟨⟩, made⟩
      · obtain ⟨hkept, -, -⟩ := kept_of_makeFolders hne hmake
        refine Or.inl ⟨fun h => ?_, cause, made, Attempt.runFrom_bind_of_error hmake, hkept⟩
        have hnames := (writeFault?_eq_none_iff.mp h.writable).2.1
        obtain ⟨_, hok⟩ := hmakes.mpr
          ⟨fun name hname => hnames name (List.dropLast_subset _ hname), h.folders⟩
        cases hmake.symm.trans hok
      · obtain ⟨hkept, hobject, hsidecar⟩ := kept_of_makeFolders hne hmake
        rw [Attempt.runFrom_bind_of_ok hmake]
        rcases store_cases hne made with ⟨hrefused, cause, hrun⟩ |
          ⟨bytes, hupload, hfile, hplace, hrun⟩
        · refine Or.inl ⟨fun h => hrefused ⟨h.uploaded, h.namesFile, ?_⟩, cause, made, hrun, hkept⟩
          exact hobject.trans h.writable
        · refine Or.inr ⟨⟨hvalid, (hmakes.mp ⟨made, hmake⟩).2, ?_, hfile, ?_⟩, bytes, made, hupload,
            hkept, hsidecar, hrun⟩
          · rw [hupload]
            rfl
          · exact hobject.symm.trans hplace

end Put

variable {put : Put} {cause : IngestError}

/-- **The files after a failed put.** They are as they were if the object could not be written. If it
could, then the sidecar could not, and the object is there without it. -/
theorem files_after_failure (h : put.run.runFrom archive = (.error cause, after)) :
    (¬put.Admits archive → ∀ path, after.file? path = archive.file? path) ∧
      (put.Admits archive → (archive.writeFault? (sidecarPath put.place)).isSome ∧
        ∀ path, after.file? path =
          if path = put.place then put.upload.map .object else archive.file? path) := by
  rcases put.run_cases archive with ⟨hrefused, _, made, hrun, hkept⟩ |
    ⟨hadmits, bytes, made, hupload, hkept, hsidecar, hrun⟩
  · cases h.symm.trans hrun
    exact ⟨fun _ => congrFun hkept, fun hadmits => absurd hadmits hrefused⟩
  · refine ⟨fun hrefused => absurd hadmits hrefused, fun _ => ?_⟩
    rw [hrun, Put.written, hsidecar] at h
    cases hfault : archive.writeFault? (sidecarPath put.place) with
    | none =>
      rw [hfault] at h
      cases h
    | some fault =>
      rw [hfault] at h
      cases h
      refine ⟨rfl, fun path => ?_⟩
      rw [file?_set, hupload, hkept]
      rfl

/-- An object below a folder that has the name of a sidecar. -/
private def belowSidecarName : Put := ⟨"a", "x.meta.json/y", some [49], []⟩

private def besideFolder : Put := ⟨"a", "x", some [50], []⟩

private def withFolder : Archive := ((putAll [belowSidecarName]).runFrom (.empty "blobs")).2

private theorem exists_runFrom_belowSidecarName :
    ∃ etags, (putAll [belowSidecarName]).runFrom (.empty "blobs") = (.ok etags, withFolder) := by
  obtain ⟨etags, after, hrun, -⟩ := Attempt.exists_of_map_toOption
    (show (((putAll [belowSidecarName]).runFrom (.empty "blobs")).1.toOption.map List.length) =
      some 1 by decide +kernel)
  exact ⟨etags, by rw [withFolder, hrun]⟩

private theorem exists_runFrom_besideFolder :
    ∃ cause after, besideFolder.run.runFrom withFolder = (.error cause, after) := by
  have hfails : (besideFolder.run.runFrom withFolder).1.toOption.isNone = true := by
    decide +kernel
  rcases hrun : besideFolder.run.runFrom withFolder with ⟨cause | _, after⟩
  · exact ⟨cause, after, rfl⟩
  · rw [hrun] at hfails
    cases hfails

private theorem admits_besideFolder : besideFolder.Admits withFolder where
  valid := by
    rw [objectPath?, if_neg (by decide +kernel)]
    exact congrArg Except.ok (by decide +kernel)
  folders := by
    intro above hne hprefix
    have habove : above = ["a"] := by
      have hfirst : above <+: ["a"] := hprefix
      rw [List.prefix_cons_iff] at hfirst
      obtain rfl | ⟨rest, rfl, hrest⟩ := hfirst
      · exact absurd rfl hne
      · rw [List.prefix_nil.mp hrest]
    rw [habove, ← Option.isNone_iff_eq_none]
    decide +kernel
  uploaded := rfl
  namesFile := by decide +kernel
  writable := by decide +kernel

/-- A folder has the name of the sidecar. -/
theorem files_after_failure_of_blocked :
    ∃ etags archive cause after,
      (putAll [belowSidecarName]).runFrom (.empty "blobs") = (.ok etags, archive) ∧
        besideFolder.run.runFrom archive = (.error cause, after) ∧
          (archive.writeFault? ["a", "x.meta.json"]).isSome ∧
            ∀ path, after.file? path =
              if path = ["a", "x"] then some (.object [50]) else archive.file? path := by
  obtain ⟨etags, hearlier⟩ := exists_runFrom_belowSidecarName
  obtain ⟨cause, after, hrun⟩ := exists_runFrom_besideFolder
  obtain ⟨hfault, hfiles⟩ := (files_after_failure hrun).2 admits_besideFolder
  exact ⟨etags, withFolder, cause, after, hearlier, hrun, hfault, hfiles⟩

/-- The object of a put that fails may be there all the same. -/
theorem not_files_after_failure :
    ¬∀ (earlier : List Put) (put : Put) (etags : List String) (archive after : Archive)
      (cause : IngestError),
      (putAll earlier).runFrom (.empty "blobs") = (.ok etags, archive) →
        put.run.runFrom archive = (.error cause, after) →
          ∀ path, after.file? path = archive.file? path := by
  intro hall
  obtain ⟨etags, hearlier⟩ := exists_runFrom_belowSidecarName
  obtain ⟨cause, after, hrun⟩ := exists_runFrom_besideFolder
  have hsame := hall _ _ etags _ after cause hearlier hrun ["a", "x"]
  have hwritten : (after.file? ["a", "x"]).isSome = true := by
    rw [show after = (besideFolder.run.runFrom withFolder).2 from congrArg Prod.snd hrun.symm]
    decide +kernel
  have hmissing : (withFolder.file? ["a", "x"]).isSome = false := by decide +kernel
  rw [hsame, hmissing] at hwritten
  cases hwritten

end Archive

end HybridSearch
