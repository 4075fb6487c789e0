import HybridSearch.Proofs.Number.RoundTrip
import HybridSearch.Proofs.Server.Pairs
import HybridSearch.Proofs.Store.Calls
import HybridSearch.Proofs.Text.Utf8
import HybridSearch.Server.Store
import Mathlib.Data.Set.List

/-!
# Servers of hashes

What a server of hashes promises of five commands, byte for byte, and what a store behind such a
server does with them.

## Main definitions

* `HashServer` — the promises.
* `HashServer.Reflects` — a server after some calls.

## Main results

* `HashServer.Reflects.run`, `HashServer.Reflects.runFrom_mapM` — a call and many to the store behind
  a server.
* `HashServer.Reflects.hashGet`, `HashServer.Reflects.hashGetAll`, `HashServer.Reflects.scans` — what
  the store reads.
-/

namespace HybridSearch

/-! ### Replies -/

namespace Reply

/-- The cursor of the next page and the keys of this one. -/
def page (next : Nat) (keys : List Bytes) : Reply :=
  array [bulk (Text.encode (toString next)), array (keys.map bulk)]

theorem mapM_value_bulk (values : List Bytes) :
    (values.map bulk).mapM value = .ok (values.map bulk) := by
  induction values with
  | nil => rfl
  | cons bytes values ih =>
    rw [List.map_cons, List.mapM_cons, ih]
    rfl

theorem mapM_word_bulk (texts : List String) :
    ((texts.map Text.encode).map bulk).mapM word = .ok texts := by
  induction texts with
  | nil => rfl
  | cons text texts ih =>
    have hword : word (bulk (Text.encode text)) = .ok text := by
      rw [word, Text.decode?_encode]
    rw [List.map_cons, List.map_cons, List.mapM_cons, ih, hword]
    rfl

theorem texts_array (texts : List String) :
    (array ((texts.map Text.encode).map bulk)).texts = .ok texts := by
  have hitems : (array ((texts.map Text.encode).map bulk)).items? =
      .ok (some ((texts.map Text.encode).map bulk)) := by
    rw [items?, mapM_value_bulk]
    rfl
  rw [Reply.texts, hitems]
  · exact mapM_word_bulk texts
  · exact nofun
  · exact nofun

theorem natural_toString {n : Nat} (h : n < 0x10000000000000000) :
    (bulk (Text.encode (toString n))).natural = .ok n := by
  have hbounds : 0 ≤ (n : Int) ∧ (n : Int) < 0x10000000000000000 := by omega
  have hspelled : (bulk (Text.encode (toString n))).spelled? = some (n : Int) := by
    rw [spelled?, Text.decode?_encode, Option.bind_some, Decimal.integer?_toString]
  have hvalue : (bulk (Text.encode (toString n))).value = .ok (bulk (Text.encode (toString n))) :=
    rfl
  simp only [natural, hvalue, bind, Except.bind, hspelled]
  rw [if_pos hbounds, Int.toNat_natCast]
  rfl

theorem cursorAndKeys_page {next : Nat} (h : next < 0x10000000000000000) (texts : List String) :
    (page next (texts.map Text.encode)).cursorAndKeys = .ok (next, texts) := by
  change (do return (← natural _, ← Reply.texts _)) = _
  rw [natural_toString h, texts_array]
  rfl

/-- The fields of a record come in a row, or as a map. -/
theorem fields_ofPairs_bulk (layout : PairLayout) (fields : List (String × Bytes)) :
    (ofPairs layout (fields.map fun field => (bulk (Text.encode field.1), bulk field.2))).fields =
      fields := by
  rw [Reply.fields, pairs_ofPairs, List.filterMap_map]
  refine (List.filterMap_eq_map_iff_forall_eq_some.mpr fun field _ => ?_).trans (List.map_id fields)
  simp [text?, bytes?]

end Reply

/-! ### The commands of a server -/

def Link.pageCommand (pattern : Bytes) (count cursor : Nat) : Command :=
  [Text.encode "SCAN", Text.encode (toString cursor), Text.encode "MATCH", pattern,
    Text.encode "COUNT", Text.encode (toString count)]

/-- The pages that a server gives from a cursor on up to the last, their keys and the state they
leave. Cursors have 64 bits. -/
inductive Link.Iterates {κ : Type} [Link κ] (pattern : Bytes) (count : Nat) :
    (cursor : Nat) → κ → List Bytes → κ → Prop
  | last {cursor s keys t}
      (h : (Link.send (pageCommand pattern count cursor)).runFrom s = (.ok (.page 0 keys), t)) :
      Iterates pattern count cursor s keys t
  | page {cursor s next keys t rest u}
      (h : (Link.send (pageCommand pattern count cursor)).runFrom s = (.ok (.page next keys), t))
      (hnext : next ≠ 0) (hbound : next < 0x10000000000000000)
      (hrest : Iterates pattern count next t rest u) :
      Iterates pattern count cursor s (keys ++ rest) u

/-- **A server of hashes.** It answers commands as documented: `HSET` gives each of the named fields
the last of its values and keeps the others, `HGET` and `HGETALL` read fields, `DEL` removes a key
with all its fields, and `SCAN`, as long as nothing is written, comes to each key that matches and to
no other. There is a key just if it has a field. A star at the end of a pattern stands for any rest.
-/
structure HashServer (κ : Type) [Link κ] where
  value : κ → (key name : Bytes) → Option Bytes
  isMatch : (pattern key : Bytes) → Bool
  set : ∀ s key (pairs : List (Bytes × Bytes)), pairs ≠ [] → ∃ added t,
    (Link.send (Text.encode "HSET" :: key ::
        pairs.flatMap fun pair => [pair.1, pair.2])).runFrom s = (.ok (.int added), t) ∧
      ∀ other name, value t other name =
        if other = key then (pairs.reverse.lookup name).or (value s other name)
        else value s other name
  get : ∀ s key name, ∃ t,
    (Link.send [Text.encode "HGET", key, name]).runFrom s =
        (.ok ((value s key name).elim .nil .bulk), t) ∧
      value t = value s
  getAll : ∀ s key, ∃ (pairs : List (Bytes × Bytes)) (reply : Reply) (t : κ),
    (Link.send [Text.encode "HGETALL", key]).runFrom s = (.ok reply, t) ∧
      (reply = .array (pairs.flatMap fun pair => [.bulk pair.1, .bulk pair.2]) ∨
        reply = .map (pairs.map fun pair => (.bulk pair.1, .bulk pair.2))) ∧
      (pairs.map Prod.fst).Nodup ∧ (∀ name, pairs.lookup name = value s key name) ∧
      value t = value s
  delete : ∀ s key, ∃ removed t,
    (Link.send [Text.encode "DEL", key]).runFrom s = (.ok (.int removed), t) ∧
      (0 < removed ↔ ∃ name, (value s key name).isSome) ∧
      ∀ other name, value t other name = if other = key then none else value s other name
  scan : ∀ s pattern count, 0 < count → ∃ keys t, Link.Iterates pattern count 0 s keys t ∧
    (∀ key, key ∈ keys ↔ (∃ name, (value s key name).isSome) ∧ isMatch pattern key = true) ∧
      value t = value s
  isMatch_star : ∀ plain key : Bytes, (∀ byte ∈ plain, byte ∉ Text.encode "*?[\\") →
    (isMatch (plain ++ Text.encode "*") key = true ↔ plain <+: key)

theorem lookup_map_encode {α β : Type} (f : α → β) (pairs : List (String × α)) (name : String) :
    (pairs.map fun pair => (Text.encode pair.1, f pair.2)).lookup (Text.encode name) =
      (pairs.lookup name).map f := by
  induction pairs with
  | nil => rfl
  | cons pair pairs ih =>
    rw [List.map_cons, lookup_cons_ite, lookup_cons_ite, ih]
    simp only [Text.encode_inj]
    split <;> rfl

theorem exists_eq_map_encode {α : Type} {pairs : List (Bytes × α)}
    (h : ∀ pair ∈ pairs, ∃ name, pair.1 = Text.encode name) :
    ∃ fields : List (String × α),
      pairs = fields.map fun field => (Text.encode field.1, field.2) := by
  have hrange : pairs ∈ Set.range
      (List.map fun field : String × α => (Text.encode field.1, field.2)) := by
    rw [Set.range_list_map]
    intro pair hpair
    obtain ⟨name, hname⟩ := h pair hpair
    exact ⟨(name, pair.2), Prod.ext hname.symm rfl⟩
  obtain ⟨fields, rfl⟩ := hrange
  exact ⟨fields, rfl⟩

/-- The end of a command that is answered. -/
theorem ServerStore.runFrom_ask {κ α : Type} [Link κ] {command : Command} {s t : κ} {reply : Reply}
    (h : (Link.send command).runFrom s = (.ok reply, t))
    (read : Reply → Except SearchError α) :
    (ask command read).runFrom ⟨s⟩ = (read reply, ⟨t⟩) := by
  have hsend : ((Link.send command).within link fun _ link => ⟨link⟩).runFrom
      (⟨s⟩ : ServerStore κ) = (.ok reply, ⟨t⟩) := by
    rw [Attempt.runFrom_within, h]
  rw [ask, Attempt.runFrom_bind_of_ok hsend, Attempt.runFrom_ofExcept]

/-- The pages of a scan are those of the server. -/
theorem ServerStore.scans_of_iterates {κ : Type} [Link κ] {pattern : String} {cursor : Nat}
    {s t : κ} {found : List Bytes} {keys : List String}
    (h : Link.Iterates (Text.encode pattern) Command.scanCount cursor s found t)
    (hkeys : found = keys.map Text.encode) :
    Store.Scans pattern cursor (⟨s⟩ : ServerStore κ) keys ⟨t⟩ := by
  induction h generalizing keys with
  | last hpage =>
    subst hkeys
    refine .last ((ServerStore.runFrom_ask hpage _).trans ?_)
    rw [Reply.cursorAndKeys_page (by decide)]
    rfl
  | page hpage hnext hbound _ ih =>
    obtain ⟨first, rest, rfl, rfl, hrest⟩ := List.map_eq_append_iff.mp hkeys.symm
    refine .page ((ServerStore.runFrom_ask hpage _).trans ?_) hnext (ih hrest.symm)
    rw [Reply.cursorAndKeys_page hbound]
    rfl

namespace HashServer

open HashCall

variable {κ : Type} [Link κ] (server : HashServer κ) {calls : List HashCall} {s : κ}

/-- A server after some calls. All keys and names are texts. -/
structure Reflects (calls : List HashCall) (s : κ) : Prop where
  value_encode : ∀ key name, server.value s (Text.encode key) (Text.encode name) =
    ((given key calls).reverse.lookup name).map FieldValue.toBytes
  isText : ∀ key name, (server.value s key name).isSome →
    (∃ text, key = Text.encode text) ∧ ∃ text, name = Text.encode text

namespace Reflects

variable {server}

theorem of_empty (h : ∀ key name, server.value s key name = none) : server.Reflects [] s := by
  constructor
  · intro key name
    exact h _ _
  · intro key name hsome
    rw [h key name] at hsome
    cases hsome

/-- There is a key just if a field was given for it. -/
theorem exists_value_iff (h : server.Reflects calls s) {key : String} :
    (∃ name, (server.value s (Text.encode key) name).isSome) ↔ given key calls ≠ [] := by
  constructor
  · rintro ⟨_, hsome⟩ hnone
    obtain ⟨-, name, rfl⟩ := h.isText _ _ hsome
    rw [h.value_encode, hnone] at hsome
    cases hsome
  · intro hne
    obtain ⟨fields, field, hlast⟩ := List.exists_cons_of_ne_nil (List.reverse_ne_nil_iff.mpr hne)
    refine ⟨Text.encode fields.1, ?_⟩
    rw [h.value_encode, hlast, lookup_cons_ite, if_pos rfl]
    rfl

/-! ### Writing and removing -/

theorem set (h : server.Reflects calls s) (key : String) (fields : List (String × FieldValue)) :
    ∃ t, (Store.hashSet key fields).runFrom (⟨s⟩ : ServerStore κ) = (.ok (), ⟨t⟩) ∧
      server.Reflects (calls ++ [.set key fields]) t := by
  by_cases hnone : fields = []
  · subst hnone
    -- nothing is sent
    refine ⟨s, rfl, ?_, h.isText⟩
    intro other name
    rw [given_concat_set, List.append_nil, ite_self, h.value_encode]
  · have hpairs : (fields.map fun field => (Text.encode field.1, field.2.toBytes)) ≠ [] := by
      simpa using hnone
    obtain ⟨added, t, hsend, hvalue⟩ := server.set s (Text.encode key) _ hpairs
    have hcommand : Command.hashSet key fields = Text.encode "HSET" :: Text.encode key ::
        (fields.map fun field => (Text.encode field.1, field.2.toBytes)).flatMap
          fun pair => [pair.1, pair.2] := by
      rw [Command.hashSet, List.flatMap_map]
      rfl
    rw [← hcommand] at hsend
    refine ⟨t, ?_, ?_, ?_⟩
    · change (ServerStore.hashSet key fields).runFrom _ = _
      rw [ServerStore.hashSet, if_neg (by simpa using hnone), ServerStore.runFrom_ask hsend]
      rfl
    · intro other name
      rw [hvalue, given_concat_set]
      simp only [Text.encode_inj]
      split
      · rw [← List.map_reverse, lookup_map_encode, h.value_encode, List.reverse_append,
          List.lookup_append, Option.map_or]
      · exact h.value_encode other name
    · intro other name hsome
      rw [hvalue] at hsome
      split at hsome
      · rename_i hkey
        rw [Option.isSome_or, Bool.or_eq_true] at hsome
        rcases hsome with hnew | hold
        · obtain ⟨pair, hpair, hname⟩ := List.lookup_isSome_iff.mp hnew
          rw [List.mem_reverse, List.mem_map] at hpair
          obtain ⟨field, -, rfl⟩ := hpair
          exact ⟨⟨key, hkey⟩, field.1, beq_iff_eq.mp hname⟩
        · exact h.isText other name hold
      · exact h.isText other name hsome

theorem delete (h : server.Reflects calls s) (key : String) :
    ∃ t, (Store.delete key).runFrom (⟨s⟩ : ServerStore κ) =
        (.ok !(given key calls).isEmpty, ⟨t⟩) ∧
      server.Reflects (calls ++ [.delete key]) t := by
  obtain ⟨removed, t, hsend, hremoved, hvalue⟩ := server.delete s (Text.encode key)
  rw [h.exists_value_iff] at hremoved
  refine ⟨t, ?_, ?_, ?_⟩
  · have htold : decide (0 < removed) = !(given key calls).isEmpty := by
      rw [Bool.eq_iff_iff, decide_eq_true_eq, hremoved]
      simp
    rw [← htold]
    exact ServerStore.runFrom_ask hsend _
  · intro other name
    rw [hvalue, given_concat_delete]
    simp only [Text.encode_inj]
    split
    · rfl
    · exact h.value_encode other name
  · intro other name hsome
    rw [hvalue] at hsome
    split at hsome
    · cases hsome
    · exact h.isText other name hsome

/-- **A call to the store behind a server.** What is removed was there if a field had been given for
it. -/
theorem run (h : server.Reflects calls s) (call : HashCall) :
    ∃ t, call.run.runFrom (⟨s⟩ : ServerStore κ) =
        (.ok (call.answer fun key => !(given key calls).isEmpty), ⟨t⟩) ∧
      server.Reflects (calls ++ [call]) t := by
  cases call with
  | set key fields =>
    obtain ⟨t, hrun, hnext⟩ := h.set key fields
    refine ⟨t, ?_, hnext⟩
    rw [HashCall.run, Attempt.runFrom_map, hrun]
    rfl
  | delete key =>
    obtain ⟨t, hrun, hnext⟩ := h.delete key
    refine ⟨t, ?_, hnext⟩
    rw [HashCall.run, Attempt.runFrom_map, hrun]
    rfl

theorem runFrom_mapM (h : ∀ key name, server.value s key name = none) (calls : List HashCall) :
    ∃ t, (calls.mapM HashCall.run).runFrom (⟨s⟩ : ServerStore κ) =
        (.ok (answers (fun done key => !(given key done).isEmpty) [] calls), ⟨t⟩) ∧
      server.Reflects calls t := by
  have hstep (done : List HashCall) (call : HashCall) (store : ServerStore κ)
      (hstore : server.Reflects done store.link) :
      ∃ next, call.run.runFrom store =
          (.ok (call.answer fun key => !(given key done).isEmpty), next) ∧
        server.Reflects (done ++ [call]) next.link := by
    obtain ⟨t, hrun, hnext⟩ := hstore.run call
    exact ⟨⟨t⟩, hrun, hnext⟩
  obtain ⟨store, hrun, hstore⟩ := HashCall.runFrom_mapM hstep calls (of_empty h)
  exact ⟨store.link, hrun, hstore⟩

/-! ### Reading -/

theorem hashGet (h : server.Reflects calls s) (key name : String) :
    ∃ t, (Store.hashGet key name).runFrom (⟨s⟩ : ServerStore κ) =
      (.ok (((given key calls).reverse.lookup name).map FieldValue.toBytes), ⟨t⟩) := by
  obtain ⟨t, hsend, -⟩ := server.get s (Text.encode key) (Text.encode name)
  refine ⟨t, (ServerStore.runFrom_ask hsend _).trans ?_⟩
  rw [h.value_encode]
  cases (given key calls).reverse.lookup name <;> rfl

theorem hashGetAll (h : server.Reflects calls s) (key : String) :
    ∃ (fields : List (String × Bytes)) (t : κ),
      (Store.hashGetAll key).runFrom (⟨s⟩ : ServerStore κ) = (.ok fields, ⟨t⟩) ∧
        (fields.map Prod.fst).Nodup ∧ ∀ name, fields.lookup name =
          ((given key calls).reverse.lookup name).map FieldValue.toBytes := by
  obtain ⟨pairs, reply, t, hsend, hreply, hnodup, hlookup, -⟩ :=
    server.getAll s (Text.encode key)
  have hnames (pair : Bytes × Bytes) (hpair : pair ∈ pairs) :
      ∃ name, pair.1 = Text.encode name := by
    have hsome : (pairs.lookup pair.1).isSome :=
      List.lookup_isSome_iff.mpr ⟨pair, hpair, BEq.rfl⟩
    rw [hlookup] at hsome
    exact (h.isText _ _ hsome).2
  obtain ⟨fields, rfl⟩ := exists_eq_map_encode hnames
  have hread : reply.value.map Reply.fields = .ok fields := by
    rcases hreply with rfl | rfl
    · have hrow := Reply.fields_ofPairs_bulk .row fields
      rw [Reply.ofPairs, Reply.alternating, List.flatMap_map] at hrow
      rw [List.flatMap_map]
      exact congrArg Except.ok hrow
    · rw [List.map_map]
      exact congrArg Except.ok (Reply.fields_ofPairs_bulk .map fields)
  refine ⟨fields, t, (ServerStore.runFrom_ask hsend _).trans (by rw [hread]), ?_, fun name => ?_⟩
  · rw [List.map_map] at hnodup
    exact List.Nodup.of_map Text.encode (by rwa [List.map_map])
  · have hname := lookup_map_encode id fields name
    rw [Option.map_id, id] at hname
    rw [← h.value_encode, ← hlookup, ← hname]
    rfl

theorem scans (h : server.Reflects calls s) (pattern : String) :
    ∃ keys t, Store.Scans pattern 0 (⟨s⟩ : ServerStore κ) keys ⟨t⟩ ∧
      ∀ key, key ∈ keys ↔ given key calls ≠ [] ∧
        server.isMatch (Text.encode pattern) (Text.encode key) = true := by
  obtain ⟨found, t, hpages, hfound, -⟩ :=
    server.scan s (Text.encode pattern) Command.scanCount (by decide)
  have htexts (key : Bytes) (hkey : key ∈ found) : key ∈ Set.range Text.encode := by
    obtain ⟨⟨name, hsome⟩, -⟩ := (hfound key).mp hkey
    obtain ⟨⟨text, htext⟩, -⟩ := h.isText key name hsome
    exact ⟨text, htext.symm⟩
  obtain ⟨keys, rfl⟩ : found ∈ Set.range (List.map Text.encode) :=
    (Set.range_list_map _).symm ▸ htexts
  refine ⟨keys, t, ServerStore.scans_of_iterates hpages rfl, fun key => ?_⟩
  rw [← h.exists_value_iff, ← hfound]
  simp

end Reflects

end HashServer

end HybridSearch
