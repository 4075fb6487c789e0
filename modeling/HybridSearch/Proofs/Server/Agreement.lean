import HybridSearch.Proofs.Server.HashLog

/-!
# Records in memory and behind a server

The same calls are made to an empty store in memory and to an empty server. What is read from the two
is the same but for keys that were written without a field: in memory there is a record, behind a
server there is none.

## Main definitions

* `Store.ReadAlike` — two stores hold the same fields.

## Main results

* `HashServer.isMatch_append_star` — a server reads the pattern of a plain text and a star as the
  memory does.
* `HashServer.memory_agrees` — what the memory answers and lists, compared with a server.
* `HashServer.not_memory_agrees` — a record without fields.
-/

namespace HybridSearch

open HashCall

/-- Two stores hold the same fields under each key. -/
structure Store.ReadAlike {σ τ : Type} [Store σ] [Store τ] (s : σ) (t : τ) : Prop where
  hashGet : ∀ key name, ∃ value,
    ((Store.hashGet key name).runFrom s).1 = .ok value ∧
      ((Store.hashGet key name).runFrom t).1 = .ok value
  /-- All fields are told in any order, each under a name of its own. -/
  hashGetAll : ∀ key, ∃ fields fields',
    ((Store.hashGetAll key).runFrom s).1 = .ok fields ∧
      ((Store.hashGetAll key).runFrom t).1 = .ok fields' ∧
        fields.Perm fields' ∧ (fields.map Prod.fst).Nodup ∧
          ∀ name, ((Store.hashGet key name).runFrom s).1 = .ok (fields.lookup name)

namespace HashServer

variable {κ : Type} [Link κ] (server : HashServer κ) {calls : List HashCall}

theorem readAlike {memory : MemoryStore} {s : κ} (hmemory : memory.Reflects calls)
    (hserver : server.Reflects calls s) :
    Store.ReadAlike memory (⟨s⟩ : ServerStore κ) := by
  constructor
  · intro key name
    obtain ⟨t, hrun⟩ := hserver.hashGet key name
    exact ⟨_, congrArg Except.ok (hmemory.get?_hash key name), by rw [hrun]⟩
  · intro key
    obtain ⟨fields, t, hrun, hnodup, hlookup⟩ := hserver.hashGetAll key
    refine ⟨memory.hash key, fields, rfl, by rw [hrun], ?_, hmemory.nodup_hash key, fun _ => rfl⟩
    exact perm_of_lookup (hmemory.nodup_hash key) hnodup fun name =>
      (hmemory.get?_hash key name).trans (hlookup name).symm

/-! ### Patterns -/

/-- A server reads a plain text with a star after it as the memory does. -/
theorem isMatch_append_star {plain : String} (h : ∀ c ∈ plain.toList, c ∉ "*?[\\".toList)
    (key : String) :
    server.isMatch (Text.encode (plain ++ "*")) (Text.encode key) =
      Glob.isMatch (plain ++ "*") key := by
  have hplain : Glob.IsPlain plain := by
    intro c hc
    have hsigns := h c hc
    simp only [String.reduceToList, List.mem_cons, not_or] at hsigns
    exact ⟨hsigns.1, hsigns.2.1, hsigns.2.2.2.1⟩
  have hbytes (byte : UInt8) (hbyte : byte ∈ Text.encode plain) :
      byte ∉ Text.encode "*?[\\" := by
    intro hsign
    have hsmall : ∀ sign ∈ Text.encode "*?[\\", sign.toNat < 0x80 := by decide +kernel
    exact h _ (Text.ofNat_mem_of_mem_encode (hsmall byte hsign) hbyte)
      (Text.ofNat_mem_of_mem_encode (hsmall byte hsign) hsign)
  rw [Bool.eq_iff_iff, Glob.isMatch_append_star hplain, Text.encode_append,
    server.isMatch_star _ _ hbytes, Text.encode_prefix_iff]

/-! ### The same calls -/

/-- **Memory and server agree** but for keys that were written without a field. They answer alike
just if no such key is removed, they hold the same fields, and they list the same keys just if no such
key matches. -/
theorem memory_agrees {start : κ} (hstart : ∀ key name, server.value start key name = none)
    (calls : List HashCall) :
    ∃ (answers answers' : List (Option Bool)) (memory : MemoryStore) (store : ServerStore κ),
      (calls.mapM run).runFrom MemoryStore.empty = (.ok answers, memory) ∧
      (calls.mapM run).runFrom (⟨start⟩ : ServerStore κ) = (.ok answers', store) ∧
      (answers = answers' ↔
        ∀ before key later, calls = before ++ .delete key :: later → ¬Hollow key before) ∧
      Store.ReadAlike memory store ∧
      ∀ pattern,
        (∀ key, server.isMatch (Text.encode pattern) (Text.encode key) = Glob.isMatch pattern key) →
          ∃ keys memory' keys' store', Store.Scans pattern 0 memory keys memory' ∧
            Store.Scans pattern 0 store keys' store' ∧
            ((∀ key, key ∈ keys ↔ key ∈ keys') ↔
              ∀ key, Hollow key calls → Glob.isMatch pattern key = false) := by
  obtain ⟨memory, hmemory, hreflects⟩ := MemoryStore.Reflects.runFrom_mapM calls
  obtain ⟨s, hserver, hreflects'⟩ := Reflects.runFrom_mapM hstart calls
  refine ⟨_, _, memory, ⟨s⟩, hmemory, hserver, ?_, server.readAlike hreflects hreflects', ?_⟩
  · rw [answers_eq_answers_iff]
    refine forall₄_congr fun before key later _ => ?_
    rw [List.nil_append, not_hollow_iff, Bool.eq_iff_iff]
    simp only [Bool.not_eq_true', List.isEmpty_eq_false_iff]
  · intro pattern hpattern
    obtain ⟨keys, t, hscans, hkeys⟩ := hreflects'.scans pattern
    refine ⟨_, memory, keys, ⟨t⟩, memory.scans pattern, hscans, forall_congr' fun key => ?_⟩
    rw [hreflects.mem_keysMatching_iff, hkeys, hpattern]
    cases Glob.isMatch pattern key with
    | false => simp
    | true => simpa using not_hollow_iff.symm

private def rewritten : List HashCall :=
  [.set "k" [("f", .text "1"), ("g", .text "2"), ("f", .text "3")], .delete "k",
    .set "j" [("f", .text "4")]]

private theorem not_hollow_rewritten (key : String) : ¬Hollow key rewritten := by
  rintro ⟨hwrites, hgiven⟩
  have hafter : writes key rewritten = if key = "j" then [[("f", .text "4")]] else [] := by
    by_cases hkey : key = "k"
    · subst hkey
      rfl
    · simp [writes, rewritten, follow, hkey]
  rw [given, hafter] at hgiven
  rw [hafter] at hwrites
  split at hwrites
  · rename_i hkey
    rw [if_pos hkey] at hgiven
    cases hgiven
  · exact hwrites rfl

/-- A record that is written, removed and not written again. -/
theorem memory_agrees_of_log :
    ∃ (answers : List (Option Bool)) (memory : MemoryStore) (store : ServerStore HashLog),
      (rewritten.mapM run).runFrom MemoryStore.empty = (.ok answers, memory) ∧
      (rewritten.mapM run).runFrom (⟨.empty⟩ : ServerStore HashLog) = (.ok answers, store) ∧
      Store.ReadAlike memory store ∧
      ∃ keys memory' keys' store', Store.Scans "*" 0 memory keys memory' ∧
        Store.Scans "*" 0 store keys' store' ∧ ∀ key, key ∈ keys ↔ key ∈ keys' := by
  obtain ⟨answers, answers', memory, store, hmemory, hserver, hanswers, halike, hscans⟩ :=
    HashLog.server.memory_agrees
      (show ∀ key name, HashLog.server.value HashLog.empty key name = none from fun _ _ => rfl)
      rewritten
  have hsame : answers = answers' := by
    refine hanswers.mpr fun before key later hsplit => ?_
    rcases before with _ | ⟨first, _ | ⟨second, _ | ⟨third, rest⟩⟩⟩
    · cases hsplit
    · cases hsplit
      rintro ⟨-, hgiven⟩
      cases hgiven
    · cases hsplit
    · simp [rewritten] at hsplit
  have hstar (key : String) := HashLog.server.isMatch_append_star
    (show ∀ c ∈ "".toList, c ∉ "*?[\\".toList from by simp) key
  rw [String.empty_append] at hstar
  obtain ⟨keys, memory', keys', store', hkeys, hkeys', hlist⟩ := hscans "*" hstar
  refine ⟨answers, memory, store, hmemory, hsame ▸ hserver, halike, keys, memory', keys', store',
    hkeys, hkeys', hlist.mpr fun key hhollow => absurd hhollow (not_hollow_rewritten key)⟩

private def hollowed : List HashCall := [.set "k" [], .delete "k"]

/-- A record that was written without a field is there in memory, and not behind a server. -/
theorem not_memory_agrees :
    ¬∀ (κ : Type) (_ : Link κ) (server : HashServer κ) (start : κ),
      (∀ key name, server.value start key name = none) → ∀ calls : List HashCall,
        ((calls.mapM run).runFrom MemoryStore.empty).1 =
          ((calls.mapM run).runFrom (⟨start⟩ : ServerStore κ)).1 := by
  intro hall
  have hsame := hall HashLog inferInstance HashLog.server HashLog.empty (fun _ _ => rfl) hollowed
  have hmemory : ((hollowed.mapM run).runFrom MemoryStore.empty).1.toOption =
      some [none, some true] := by
    decide +kernel
  have hserver : ((hollowed.mapM run).runFrom (⟨.empty⟩ : ServerStore HashLog)).1.toOption =
      some [none, some false] := by
    decide +kernel
  rw [hsame, hserver] at hmemory
  cases hmemory

end HashServer

end HybridSearch
