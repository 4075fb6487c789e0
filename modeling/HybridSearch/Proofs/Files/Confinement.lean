import HybridSearch.Proofs.Files.Failure
import Mathlib.Data.List.Basic

/-!
# Objects stay below the root

A path is read as components: the root or a single point it may begin with, pairs of points that
lead upwards, and ordinary names. An object with a valid name consists of ordinary names alone, so
joined to the root it is the root followed by these, and so is its sidecar. A name that is not valid
is refused before anything is written.

## Main definitions

* `Path.Component`, `Path.components` — what a path consists of.
* `Path.LeadDown`, `Path.LeadsBelow` — ordinary names, and a path that follows a folder with them.
* `Archive.objectText`, `Archive.sidecarText` — the paths of an object and its sidecar.

## Main results

* `Archive.escapes_iff` — the names that are refused.
* `Archive.leadsBelow_joinedPath`, `Archive.leadsBelow_sidecar` — what is joined to a folder.
* `Archive.object_confined` — the object of every bucket and name.
* `Archive.Put.keeps_outside` — what no put changes.
-/

namespace HybridSearch

/-! ### Components -/

namespace Path

inductive Component where
  | root
  | current
  | parent
  | normal (name : String)
  deriving DecidableEq

def Component.ofName (name : String) : Component := if name = ".." then parent else normal name

/-- What a path begins with. A single point is a component nowhere else. -/
def start (path : String) : List Component :=
  if isAbsolute path then [.root]
  else if (Text.split '/' path).head? = some "." then [.current]
  else []

def components (path : String) : List Component := start path ++ (names path).map .ofName

/-- A name that leads to an entry of a folder. -/
structure IsOrdinary (name : String) : Prop where
  ne_empty : name ≠ ""
  ne_point : name ≠ "."
  ne_points : name ≠ ".."
  slash_notMem : '/' ∉ name.toList

/-- The names lead away from a folder, and down only. -/
structure LeadDown (below : List String) : Prop where
  ne_nil : below ≠ []
  isOrdinary : ∀ name ∈ below, IsOrdinary name

/-- The path is that of a folder with some ordinary names after it. -/
structure LeadsBelow (folder path : String) (below : List String) : Prop
    extends LeadDown below where
  components_eq : components path = components folder ++ below.map .normal

variable {path before after folder name : String} {below : List String}

theorem isOrdinary_of_mem_names (h : name ∈ names path) (hname : name ≠ "..") :
    IsOrdinary name := by
  obtain ⟨hmem, hkept⟩ := List.mem_filter.mp h
  obtain ⟨hempty, hpoint⟩ := Bool.and_eq_true_iff.mp hkept
  exact ⟨bne_iff_ne.mp hempty, bne_iff_ne.mp hpoint, hname, Text.not_mem_of_mem_split hmem⟩

theorem map_ofName (h : ".." ∉ below) : below.map Component.ofName = below.map .normal :=
  List.map_congr_left fun _ hname => if_neg (ne_of_mem_of_not_mem hname h)

theorem parent_mem_components_iff : .parent ∈ components path ↔ ".." ∈ names path := by
  have hstart : Component.parent ∉ start path := by
    rw [start]
    split
    · decide
    · split <;> decide
  rw [components, List.mem_append, or_iff_right hstart, List.mem_map]
  constructor
  · rintro ⟨name, hname, hparent⟩
    rw [Component.ofName] at hparent
    split at hparent
    · rename_i hpoints
      exact hpoints ▸ hname
    · cases hparent
  · exact fun h => ⟨"..", h, rfl⟩

theorem ofName_ne_current (name : String) : Component.ofName name ≠ .current := by
  rw [Component.ofName]
  split <;> exact nofun

theorem head?_components_iff (hrelative : isAbsolute path = false) :
    (components path).head? = some .current ↔ (Text.split '/' path).head? = some "." := by
  rw [components, start, hrelative, if_neg Bool.false_ne_true]
  split
  · rename_i hpoint
    exact iff_of_true rfl hpoint
  · rename_i hpoint
    refine iff_of_false (fun h => ?_) hpoint
    rw [List.nil_append, List.head?_map, Option.map_eq_some_iff] at h
    obtain ⟨name, -, hname⟩ := h
    exact ofName_ne_current name hname

/-! ### Joined paths -/

theorem isAbsolute_iff : isAbsolute path = true ↔ path.toList.head? = some '/' := by
  rw [isAbsolute, String.startsWith_string_iff]
  cases path.toList with
  | nil => simp
  | cons c chars => simp [eq_comm]

theorem isAbsolute_append (hne : before ≠ "") (after : String) :
    isAbsolute (before ++ after) = isAbsolute before := by
  have hchars : before.toList ≠ [] := mt String.toList_eq_nil_iff.mp hne
  rw [Bool.eq_iff_iff, isAbsolute_iff, isAbsolute_iff, String.toList_append,
    List.head?_append_of_ne_nil _ hchars]

theorem head?_split_append_slash (before after : String) :
    (Text.split '/' (before ++ "/" ++ after)).head? = (Text.split '/' before).head? := by
  rw [Text.split_append rfl, List.head?_append_of_ne_nil _ (Text.split_ne_nil '/' before)]

/-- What follows a slash does not change what a path begins with. -/
theorem start_append_slash (before after : String) :
    start (before ++ "/" ++ after) = start (before ++ "/") := by
  have hslash : before ++ "/" ≠ "" := by simp
  have hhead := head?_split_append_slash before ""
  rw [String.append_empty] at hhead
  rw [start, start, isAbsolute_append hslash, head?_split_append_slash, hhead]

theorem start_slash (hne : before ≠ "") : start (before ++ "/") = start before := by
  have hhead := head?_split_append_slash before ""
  rw [String.append_empty] at hhead
  rw [start, start, isAbsolute_append hne, hhead]

theorem isAbsolute_eq_false_of_start (h : start path = []) : isAbsolute path = false := by
  refine Bool.eq_false_iff.mpr fun habsolute => ?_
  rw [start, if_pos habsolute] at h
  cases h

/-- A path that begins with a name stands below the one it is joined to. -/
theorem components_joinedPath (h : start path = []) (folder : String) :
    components (Archive.joinedPath folder path) = components folder ++ components path := by
  have hrelative := isAbsolute_eq_false_of_start h
  by_cases hempty : folder = ""
  · subst hempty
    have hjoined : Archive.joinedPath "" path = path := if_pos (Bool.or_true _)
    rw [hjoined]
    rfl
  · have hfolder : folder.isEmpty = false := String.isEmpty_eq_false_iff.mpr hempty
    have hstart : start (Archive.joinedPath folder path) = start folder := by
      obtain ⟨before, hjoined, rfl | rfl⟩ := Archive.exists_joinedPath_eq hfolder hrelative
      · rw [hjoined, start_append_slash, start_slash hempty]
      · rw [hjoined, start_append_slash]
    rw [components, hstart, Archive.names_joinedPath hfolder hrelative, List.map_append, components,
      components, h, List.nil_append, List.append_assoc]

end Path

namespace Archive

open HybridSearch.Path

variable {path folder : String}

/-! ### Accepted names -/

/-- **Which names are refused:** absolute ones, those that begin with a single point and those that
lead upwards. -/
theorem escapes_iff :
    escapes path = true ↔ isAbsolute path = true ∨ (components path).head? = some .current ∨
      .parent ∈ components path := by
  rw [escapes, Bool.or_eq_true, Bool.or_eq_true, decide_eq_true_eq, List.contains_iff_mem,
    parent_mem_components_iff, or_assoc]
  cases habsolute : isAbsolute path with
  | true => exact iff_of_true (Or.inl rfl) (Or.inl rfl)
  | false => rw [head?_components_iff habsolute]

theorem start_eq_nil_of_escapes (h : escapes path = false) : start path = [] := by
  rw [escapes, Bool.or_eq_false_iff, Bool.or_eq_false_iff, decide_eq_false_iff_not] at h
  rw [start, if_neg (Bool.eq_false_iff.mp h.1.1), if_neg h.1.2]

theorem points_notMem_of_escapes (h : escapes path = false) : ".." ∉ names path := by
  rw [escapes, Bool.or_eq_false_iff] at h
  exact mt List.contains_iff_mem.mpr (Bool.eq_false_iff.mp h.2)

theorem components_of_escapes (h : escapes path = false) :
    components path = (names path).map .normal := by
  rw [components, start_eq_nil_of_escapes h, List.nil_append,
    map_ofName (points_notMem_of_escapes h)]

/-! ### Objects and sidecars -/

theorem leadsBelow_joinedPath (hne : path ≠ "") (h : escapes path = false) (folder : String) :
    LeadsBelow folder (joinedPath folder path) (names path) where
  ne_nil := names_ne_nil hne h
  isOrdinary _ hname :=
    isOrdinary_of_mem_names hname (ne_of_mem_of_not_mem hname (points_notMem_of_escapes h))
  components_eq := by
    rw [components_joinedPath (start_eq_nil_of_escapes h), components_of_escapes h]

/-- An ending that is put on a joined path is put on the name that was joined. -/
theorem joinedPath_append (hne : path ≠ "") (folder ending : String) :
    joinedPath folder path ++ ending = joinedPath folder (path ++ ending) := by
  rw [joinedPath, joinedPath, isAbsolute_append hne]
  split
  · rfl
  · split <;> simp only [String.append_assoc]

theorem ending_ne {short : String} (h : short.length < 10) (last : String) :
    last ++ ".meta.json" ≠ short := by
  rintro rfl
  rw [String.length_append] at h
  exact absurd h (Nat.not_lt.mpr (Nat.le_add_left 10 last.length))

/-- Whether a name says anything. -/
def isKept (name : String) : Bool := name != "" && name != "."

theorem isKept_ending (last : String) : isKept (last ++ ".meta.json") = true :=
  Bool.and_eq_true_iff.mpr
    ⟨bne_iff_ne.mpr (ending_ne (by decide) last), bne_iff_ne.mpr (ending_ne (by decide) last)⟩

/-- The ending of a sidecar is put on the last piece of the path, and so makes it a name. -/
theorem exists_split_sidecar (path : String) :
    ∃ front last, Text.split '/' path = front ++ [last] ∧
      Text.split '/' (path ++ ".meta.json") = front ++ [last ++ ".meta.json"] ∧
      names (path ++ ".meta.json") = front.filter isKept ++ [last ++ ".meta.json"] := by
  have hslash : '/' ∉ ".meta.json".toList := by decide
  obtain ⟨front, last, hsplit, hmore⟩ := Text.exists_split_append hslash path
  refine ⟨front, last, hsplit, hmore, ?_⟩
  have hlast : [last ++ ".meta.json"].filter isKept = [last ++ ".meta.json"] :=
    List.filter_cons_of_pos (isKept_ending last)
  rw [names, hmore, List.filter_append]
  exact congrArg (front.filter isKept ++ ·) hlast

theorem escapes_sidecar (hne : path ≠ "") (h : escapes path = false) :
    escapes (path ++ ".meta.json") = false := by
  obtain ⟨front, last, hsplit, hmore, hnames⟩ := exists_split_sidecar path
  have hpoints : ".." ∉ names (path ++ ".meta.json") := by
    rw [hnames, List.mem_append, List.mem_singleton]
    have hlast : ".." ≠ last ++ ".meta.json" := (ending_ne (by decide) last).symm
    refine not_or.mpr ⟨fun hmem => points_notMem_of_escapes h ?_, hlast⟩
    rw [names, hsplit, List.filter_append]
    exact List.mem_append_left _ hmem
  rw [escapes, Bool.or_eq_false_iff, Bool.or_eq_false_iff, decide_eq_false_iff_not] at h ⊢
  refine ⟨⟨(isAbsolute_append hne _).trans h.1.1, ?_⟩,
    Bool.eq_false_iff.mpr (mt List.contains_iff_mem.mp hpoints)⟩
  rw [hmore]
  cases front with
  | nil => exact fun hhead => ending_ne (by decide) last (Option.some.inj hhead)
  | cons name front =>
    rw [hsplit] at h
    exact h.1.2

/-- The sidecar of a file is named like the file. -/
theorem sidecarPath_names (h : namesFolder path = false) :
    sidecarPath (names path) = names (path ++ ".meta.json") := by
  obtain ⟨front, last, hsplit, -, hnames⟩ := exists_split_sidecar path
  have hkept : isKept last = true := by
    rw [namesFolder, hsplit, List.getLast?_concat] at h
    refine Bool.and_eq_true_iff.mpr ⟨bne_iff_ne.mpr ?_, bne_iff_ne.mpr ?_⟩
    · rintro rfl
      cases h
    · rintro rfl
      cases h
  have hlast : names path = front.filter isKept ++ [last] := by
    rw [names, hsplit, List.filter_append]
    exact congrArg (front.filter isKept ++ ·) (List.filter_cons_of_pos hkept)
  rw [hnames, hlast, sidecarPath_append]

theorem leadsBelow_sidecar (hne : path ≠ "") (h : escapes path = false) (folder : String) :
    LeadsBelow folder (joinedPath folder path ++ ".meta.json") (names (path ++ ".meta.json")) := by
  rw [joinedPath_append hne]
  exact leadsBelow_joinedPath (by simp) (escapes_sidecar hne h) folder

/-! ### Every bucket and name -/

variable {bucket object : String}

/-- The text of the path of an object. -/
def objectText (root bucket object : String) : String :=
  joinedPath root (joinedPath bucket object)

def sidecarText (root bucket object : String) : String :=
  objectText root bucket object ++ ".meta.json"

def invalidName (bucket object : String) : IngestError :=
  .invalidArgument ("invalid object name: " ++ bucket ++ "/" ++ object)

/-- The name is not one of an object. -/
def IsRefused (bucket object : String) : Prop :=
  escapes (joinedPath bucket object) = true ∨ bucket = "" ∨ object = ""

theorem objectPath?_cases (bucket object : String) :
    (IsRefused bucket object ∧ objectPath? bucket object = .error (invalidName bucket object)) ∨
      (¬IsRefused bucket object ∧
        objectPath? bucket object = .ok (names (joinedPath bucket object))) := by
  simp only [objectPath?]
  split
  · rename_i h
    rw [Bool.or_eq_true, Bool.or_eq_true, or_assoc, String.isEmpty_iff, String.isEmpty_iff] at h
    exact Or.inl ⟨h, rfl⟩
  · rename_i h
    rw [Bool.or_eq_true, Bool.or_eq_true, or_assoc, String.isEmpty_iff, String.isEmpty_iff] at h
    exact Or.inr ⟨h, rfl⟩

theorem leadsBelow_of_not_isRefused (h : ¬IsRefused bucket object) (root : String) :
    LeadsBelow root (objectText root bucket object) (names (joinedPath bucket object)) ∧
      LeadsBelow root (sidecarText root bucket object)
        (names (joinedPath bucket object ++ ".meta.json")) := by
  obtain ⟨hescapes, hnames⟩ := not_or.mp h
  have hne : joinedPath bucket object ≠ "" := joinedPath_ne_empty (not_or.mp hnames).2
  exact ⟨leadsBelow_joinedPath hne (Bool.eq_false_iff.mpr hescapes) root,
    leadsBelow_sidecar hne (Bool.eq_false_iff.mpr hescapes) root⟩

/-- **Objects stay below the root.** The path of an object and that of its sidecar lead from the
root down along ordinary names, or the name is refused and nothing is written. Refused is a name that
is empty or in no bucket, is absolute, begins with a single point or leads upwards. -/
theorem object_confined (archive : Archive) (bucket object : String) :
    ((∃ target, objectPath? bucket object = .ok target ∧
        LeadsBelow archive.root (objectText archive.root bucket object) target ∧
        ∃ sidecar, LeadsBelow archive.root (sidecarText archive.root bucket object) sidecar ∧
          (namesFolder (joinedPath bucket object) = false → sidecar = sidecarPath target)) ∨
      (objectPath? bucket object = .error (invalidName bucket object) ∧
        ∀ upload metadata, (put bucket object upload metadata).runFrom archive =
          (.error (invalidName bucket object), archive))) ∧
      ((∃ fault, objectPath? bucket object = .error fault) ↔
        bucket = "" ∨ object = "" ∨ isAbsolute (joinedPath bucket object) = true ∨
          (components (joinedPath bucket object)).head? = some .current ∨
          .parent ∈ components (joinedPath bucket object)) := by
  have hrefused : IsRefused bucket object ↔ bucket = "" ∨ object = "" ∨
      isAbsolute (joinedPath bucket object) = true ∨
        (components (joinedPath bucket object)).head? = some .current ∨
        .parent ∈ components (joinedPath bucket object) := by
    rw [IsRefused, escapes_iff, or_comm, or_assoc]
  rw [← hrefused]
  rcases objectPath?_cases bucket object with ⟨h, herror⟩ | ⟨h, hok⟩
  · refine ⟨Or.inr ⟨herror, fun upload metadata => Attempt.runFrom_bind_of_error ?_⟩,
      iff_of_true ⟨_, herror⟩ h⟩
    rw [herror, Attempt.runFrom_ofExcept]
  · obtain ⟨hobject, hsidecar⟩ := leadsBelow_of_not_isRefused h archive.root
    refine ⟨Or.inl ⟨_, hok, hobject, _, hsidecar, fun hfile => (sidecarPath_names hfile).symm⟩,
      iff_of_false ?_ h⟩
    rw [hok]
    exact nofun

/-! ### Writing -/

theorem leadDown_sidecarPath {target : ArchivePath} (h : LeadDown target) :
    LeadDown (sidecarPath target) := by
  obtain rfl | ⟨above, name, rfl⟩ := List.eq_nil_or_concat target
  · exact absurd rfl h.ne_nil
  · rw [List.concat_eq_append] at h ⊢
    rw [sidecarPath_append]
    refine ⟨List.append_ne_nil_of_right_ne_nil _ (List.cons_ne_nil _ _), fun other hother => ?_⟩
    rcases List.mem_append.mp hother with habove | hlast
    · exact h.isOrdinary other (List.mem_append_left _ habove)
    · obtain rfl := List.mem_singleton.mp hlast
      have hname := h.isOrdinary name (List.mem_append_right _ (List.mem_singleton_self _))
      have hne {short : String} (hshort : short.length < 10) := ending_ne hshort name
      refine ⟨hne (by decide), hne (by decide), hne (by decide), ?_⟩
      rw [String.toList_append, List.mem_append]
      exact not_or.mpr ⟨hname.slash_notMem, by decide⟩

variable {outside : ArchivePath}

theorem keeps_get?_write {written : ArchivePath} (hne : outside ≠ written) (node : ArchiveNode) :
    (write written node).Keeps fun archive => archive.get? outside := by
  intro archive
  rw [runFrom_write]
  cases archive.writeFault? written with
  | some fault => rfl
  | none => exact (get?_set archive written outside node).trans (if_neg hne)

theorem keeps_get?_checkPath (target : ArchivePath) :
    (checkPath target).Keeps fun archive => archive.get? outside := by
  intro archive
  rw [runFrom_checkPath]
  cases archive.pathFault target <;> rfl

namespace Put

theorem leadDown_place {put : Put} (h : objectPath? put.bucket put.object = .ok put.place) :
    LeadDown put.place := by
  rcases objectPath?_cases put.bucket put.object with ⟨-, herror⟩ | ⟨haccepted, hok⟩
  · cases herror.symm.trans h
  · obtain hplace := Except.ok.inj (hok.symm.trans h)
    exact hplace ▸ (leadsBelow_of_not_isRefused haccepted "").1.toLeadDown

/-- **A put changes nothing but what ordinary names below the root lead to,** however it ends. -/
theorem keeps_outside (put : Put) (h : ¬LeadDown outside) :
    put.run.Keeps fun archive => archive.get? outside := by
  cases hvalid : objectPath? put.bucket put.object with
  | error fault =>
    intro archive
    rw [run, Archive.put, hvalid]
    rfl
  | ok target =>
    obtain ⟨rfl, -⟩ := objectPath?_eq_ok hvalid
    have hplace : LeadDown put.place := leadDown_place hvalid
    have hfolders : (makeFolders [] put.place.dropLast).Keeps fun archive =>
        archive.get? outside := by
      refine keeps_makeFolders fun archive below hne hbelow _ => ?_
      rw [List.nil_append, get?_set, if_neg]
      rintro rfl
      exact h ⟨hne, fun name hname =>
        hplace.isOrdinary name (List.dropLast_subset _ (hbelow.subset hname))⟩
    have hstore : put.store.Keeps fun archive => archive.get? outside := by
      rw [store]
      cases put.upload with
      | none => exact fun _ => rfl
      | some bytes =>
        cases namesFolder (joinedPath put.bucket put.object) with
        | true => exact fun _ => rfl
        | false =>
          have hobject : outside ≠ put.place := by
            rintro rfl
            exact h hplace
          have hsidecar : outside ≠ sidecarPath put.place := by
            rintro rfl
            exact h (leadDown_sidecarPath hplace)
          exact (keeps_get?_write hobject _).bind fun _ =>
            (keeps_get?_write hsidecar _).bind fun _ => .pure _
    intro archive
    rw [runFrom_run_of_valid hvalid]
    exact (keeps_get?_checkPath _).bind (fun _ => hfolders.bind fun _ => hstore) archive

end Put

end Archive

end HybridSearch
