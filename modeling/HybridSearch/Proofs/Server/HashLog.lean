import HybridSearch.Proofs.Server.HashServer
import HybridSearch.Proofs.Store.Glob

/-!
# A log of fields as a server

A server that keeps what was written in one list, a field under a key at most once.

## Main definitions

* `HashLog` — the server, a link that understands five commands.
* `HashLog.server` — it keeps what a server of hashes promises.
-/

namespace HybridSearch

structure HashLog where
  /-- Fields by key and name, the last that was written first. -/
  entries : List ((Bytes × Bytes) × Bytes)
  distinct : (entries.map Prod.fst).Nodup

namespace HashLog

def empty : HashLog := ⟨[], List.nodup_nil⟩

def value (log : HashLog) (key name : Bytes) : Option Bytes := log.entries.lookup (key, name)

/-! ### Writing and removing -/

/-- The log without the fields that are not to be kept. -/
def keep (log : HashLog) (kept : Bytes × Bytes → Bool) : HashLog where
  entries := log.entries.filter fun entry => kept entry.1
  distinct := log.distinct.sublist (List.filter_sublist.map Prod.fst)

theorem value_keep (log : HashLog) (kept : Bytes × Bytes → Bool) (key name : Bytes) :
    (log.keep kept).value key name = if kept (key, name) then log.value key name else none :=
  lookup_filter_name kept log.entries (key, name)

def write (log : HashLog) (key : Bytes) (pair : Bytes × Bytes) : HashLog where
  entries := ((key, pair.1), pair.2) :: (log.keep fun field => field ≠ (key, pair.1)).entries
  distinct := by
    refine List.nodup_cons.mpr ⟨?_, (log.keep _).distinct⟩
    rw [List.mem_map]
    rintro ⟨entry, hentry, hfield⟩
    have hkept := (List.mem_filter.mp hentry).2
    rw [hfield, decide_eq_true_eq] at hkept
    exact hkept rfl

theorem value_write (log : HashLog) (key : Bytes) (pair : Bytes × Bytes) (other name : Bytes) :
    (log.write key pair).value other name =
      if other = key ∧ name = pair.1 then some pair.2 else log.value other name := by
  have hrest := log.value_keep (fun field => field ≠ (key, pair.1)) other name
  rw [value] at hrest
  rw [value, write, lookup_cons_ite, hrest]
  by_cases hfield : (other, name) = (key, pair.1)
  · rw [if_pos hfield, if_pos (Prod.mk.inj hfield)]
  · rw [if_neg hfield, if_neg (mt (Prod.mk.injEq ..).mpr hfield), if_pos (decide_eq_true hfield)]

def writeAll (log : HashLog) (key : Bytes) (pairs : List (Bytes × Bytes)) : HashLog :=
  pairs.foldl (fun log pair => log.write key pair) log

theorem value_writeAll (log : HashLog) (key : Bytes) (pairs : List (Bytes × Bytes))
    (other name : Bytes) :
    (log.writeAll key pairs).value other name =
      if other = key then (pairs.reverse.lookup name).or (log.value other name)
      else log.value other name := by
  induction pairs generalizing log with
  | nil => simp [writeAll]
  | cons pair pairs ih =>
    refine (ih (log.write key pair)).trans ?_
    rw [value_write, List.reverse_cons, List.lookup_append, lookup_cons_ite, List.lookup_nil,
      Option.or_assoc]
    by_cases hkey : other = key
    · by_cases hname : name = pair.1 <;> simp [hkey, hname]
    · simp [hkey]

/-! ### Commands -/

/-- Neighbours two by two. -/
def paired : List Bytes → List (Bytes × Bytes)
  | name :: bytes :: rest => (name, bytes) :: paired rest
  | _ => []

/-- The fields under a key. -/
def fields (log : HashLog) (key : Bytes) : List (Bytes × Bytes) :=
  (log.keep fun field => field.1 = key).entries.map fun entry => (entry.1.2, entry.2)

/-- Bytes as characters. -/
def spread (bytes : Bytes) : String := String.ofList (bytes.map fun byte => Char.ofNat byte.toNat)

def isMatch (pattern key : Bytes) : Bool := Glob.isMatch (spread pattern) (spread key)

/-- The keys that match, as often as they have fields. -/
def keysMatching (log : HashLog) (pattern : Bytes) : List Bytes :=
  (log.entries.map fun entry => entry.1.1).filter (isMatch pattern)

def execute (log : HashLog) : Command → Reply × HashLog
  | word :: key :: arguments =>
    if word = Text.encode "HSET" then
      (.int (paired arguments).length, log.writeAll key (paired arguments))
    else if word = Text.encode "HGET" then
      ((log.value key (arguments.headD [])).elim .nil .bulk, log)
    else if word = Text.encode "HGETALL" then
      (.array ((log.fields key).flatMap fun pair => [.bulk pair.1, .bulk pair.2]), log)
    else if word = Text.encode "DEL" then
      (.int (if log.fields key = [] then 0 else 1), log.keep fun field => field.1 ≠ key)
    else if word = Text.encode "SCAN" then
      (.page 0 (log.keysMatching (arguments.getD 1 [])), log)
    else (.error (.ofText "ERR unknown command"), log)
  | _ => (.error (.ofText "ERR wrong number of arguments"), log)

/-- All keys come on one page. -/
instance : Link HashLog where
  send command := ExceptT.mk fun log => (.ok (log.execute command).1, (log.execute command).2)
  replyBound _ := 1

theorem runFrom_send (command : Command) (log : HashLog) :
    (Link.send command).runFrom log = (.ok (log.execute command).1, (log.execute command).2) :=
  rfl

theorem paired_flatMap (pairs : List (Bytes × Bytes)) :
    paired (pairs.flatMap fun pair => [pair.1, pair.2]) = pairs := by
  induction pairs with
  | nil => rfl
  | cons pair pairs ih =>
    rw [List.flatMap_cons, List.cons_append, List.singleton_append, paired, ih]

theorem execute_hset (log : HashLog) (key : Bytes) (pairs : List (Bytes × Bytes)) :
    log.execute (Text.encode "HSET" :: key :: pairs.flatMap fun pair => [pair.1, pair.2]) =
      (.int pairs.length, log.writeAll key pairs) := by
  rw [execute, if_pos rfl, paired_flatMap]

/-! ### The fields under a key -/

theorem key_eq_of_mem {log : HashLog} {key : Bytes} {entry : (Bytes × Bytes) × Bytes}
    (h : entry ∈ (log.keep fun field => field.1 = key).entries) : entry.1.1 = key :=
  of_decide_eq_true (List.mem_filter.mp h).2

theorem lookup_map_name {key : Bytes} {entries : List ((Bytes × Bytes) × Bytes)}
    (h : ∀ entry ∈ entries, entry.1.1 = key) (name : Bytes) :
    (entries.map fun entry => (entry.1.2, entry.2)).lookup name = entries.lookup (key, name) := by
  induction entries with
  | nil => rfl
  | cons entry entries ih =>
    obtain ⟨hkey, hrest⟩ := List.forall_mem_cons.mp h
    rw [List.map_cons, lookup_cons_ite, lookup_cons_ite, ih hrest, ← hkey]
    simp only [Prod.ext_iff, true_and]

theorem lookup_fields (log : HashLog) (key name : Bytes) :
    (log.fields key).lookup name = log.value key name := by
  have hkept := log.value_keep (fun field => field.1 = key) key name
  rw [if_pos (decide_eq_true rfl)] at hkept
  rw [← hkept, value, fields, lookup_map_name fun _ => key_eq_of_mem]

theorem nodup_fields (log : HashLog) (key : Bytes) : ((log.fields key).map Prod.fst).Nodup := by
  have hnames : (log.fields key).map Prod.fst =
      ((log.keep fun field => field.1 = key).entries.map Prod.fst).map Prod.snd := by
    rw [fields, List.map_map, List.map_map]
    rfl
  rw [hnames]
  refine List.Nodup.map_on ?_ (log.keep _).distinct
  intro field hfield other hother hname
  obtain ⟨_, hentry, rfl⟩ := List.mem_map.mp hfield
  obtain ⟨_, hentry', rfl⟩ := List.mem_map.mp hother
  exact Prod.ext ((key_eq_of_mem hentry).trans (key_eq_of_mem hentry').symm) hname

theorem exists_value_iff (log : HashLog) (key : Bytes) :
    (∃ name, (log.value key name).isSome) ↔ ∃ entry ∈ log.entries, entry.1.1 = key := by
  simp only [value, List.lookup_isSome_iff, beq_iff_eq]
  constructor
  · rintro ⟨name, entry, hentry, hfield⟩
    exact ⟨entry, hentry, by rw [← hfield]⟩
  · rintro ⟨entry, hentry, rfl⟩
    exact ⟨entry.1.2, entry, hentry, rfl⟩

theorem fields_eq_nil_iff (log : HashLog) (key : Bytes) :
    log.fields key = [] ↔ ¬∃ name, (log.value key name).isSome := by
  rw [exists_value_iff, fields, List.map_eq_nil_iff, keep, List.filter_eq_nil_iff]
  simp only [decide_eq_true_eq, not_exists, not_and]

/-! ### Patterns -/

theorem injective_spread : Function.Injective fun byte : UInt8 => Char.ofNat byte.toNat := by
  intro left right h
  have hnat (byte : UInt8) : (Char.ofNat byte.toNat).toNat = byte.toNat := by
    have hbyte := byte.toNat_lt
    rw [Char.toNat_ofNat, if_pos (Or.inl (by omega))]
  rw [← UInt8.toNat_inj, ← hnat left, ← hnat right]
  exact congrArg Char.toNat h

theorem spread_star (plain : Bytes) : spread (plain ++ Text.encode "*") = spread plain ++ "*" := by
  rw [← String.toList_inj, String.toList_append, spread, spread, String.toList_ofList,
    String.toList_ofList, List.map_append]
  rfl

theorem isPlain_spread {plain : Bytes} (h : ∀ byte ∈ plain, byte ∉ Text.encode "*?[\\") :
    Glob.IsPlain (spread plain) := by
  intro c hc
  rw [spread, String.toList_ofList, List.mem_map] at hc
  obtain ⟨byte, hbyte, rfl⟩ := hc
  have hne (sign : UInt8) (hsign : sign ∈ Text.encode "*?[\\") :
      Char.ofNat byte.toNat ≠ Char.ofNat sign.toNat := by
    intro heq
    exact h byte hbyte (injective_spread heq ▸ hsign)
  exact ⟨hne 42 (by decide +kernel), hne 63 (by decide +kernel), hne 92 (by decide +kernel)⟩

theorem isMatch_star {plain key : Bytes} (h : ∀ byte ∈ plain, byte ∉ Text.encode "*?[\\") :
    isMatch (plain ++ Text.encode "*") key = true ↔ plain <+: key := by
  rw [isMatch, spread_star, Glob.isMatch_append_star (isPlain_spread h),
    ← List.prefix_map_iff_of_injective injective_spread]
  constructor
  · rintro ⟨rest, hkey⟩
    refine ⟨rest.toList, ?_⟩
    have hlist := congrArg String.toList hkey
    rw [String.toList_append, spread, spread, String.toList_ofList, String.toList_ofList] at hlist
    exact hlist.symm
  · rintro ⟨rest, hkey⟩
    refine ⟨String.ofList rest, ?_⟩
    rw [← String.toList_inj, String.toList_append, spread, spread, String.toList_ofList,
      String.toList_ofList, String.toList_ofList]
    exact hkey.symm

/-- **The log keeps its promises.** -/
def server : HashServer HashLog where
  value := value
  isMatch := isMatch
  set := by
    intro log key pairs _
    refine ⟨pairs.length, log.writeAll key pairs, ?_, log.value_writeAll key pairs⟩
    rw [runFrom_send, execute_hset]
  get := by
    intro log key name
    exact ⟨log, rfl, rfl⟩
  getAll := by
    intro log key
    exact ⟨log.fields key, _, log, rfl, Or.inl rfl, log.nodup_fields key, log.lookup_fields key,
      rfl⟩
  delete := by
    intro log key
    refine ⟨_, log.keep fun field => field.1 ≠ key, rfl, ?_, fun other name => ?_⟩
    · rw [← not_iff_not, ← fields_eq_nil_iff]
      split
      · simpa
      · simpa
    · rw [value_keep]
      simp only [decide_eq_true_eq, ne_eq, ite_not]
  scan := by
    intro log pattern count _
    refine ⟨log.keysMatching pattern, log, .last rfl, fun key => ?_, rfl⟩
    rw [exists_value_iff, keysMatching, List.mem_filter, List.mem_map]
  isMatch_star _ _ := isMatch_star

end HashLog

end HybridSearch
