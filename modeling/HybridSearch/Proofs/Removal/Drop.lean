import HybridSearch.Proofs.Search.Isolation
import HybridSearch.Proofs.Store.Glob

/-!
# Dropping an index with its records

The records are swept by a pattern that is made from the name of the index. The sweep removes what
the index has stored and nothing else exactly when the pattern tells the keys of the index from the
others; for a name that is plain in a pattern, when no other index intrudes.

## Main definitions

* `Session.DropsExactly` — what is stored for an index is gone, and all else is as it was.

## Main results

* `Service.dropIndex_eq_ok` — the store after an index was dropped with its records.
* `Session.dropIndex_exact` — when this removes exactly what the index has stored.
-/

namespace HybridSearch

theorem Service.dropIndex_eq_ok {α : Type} {service after : Service MemoryStore α}
    {cancelled : MemoryStore → Bool} {name : String} {report : SweepReport}
    (h : (dropIndex cancelled name true).runFrom service = (.ok (some report), after))
    (hfinished : report.cancelled = false) :
    after.store.indexes = service.store.indexes.erase name ∧
      ∀ key, after.store.get? key =
        if Glob.isMatch (Key.pattern name) key then none else service.store.get? key := by
  rw [runFrom_dropIndex] at h
  split at h
  · cases h
  · rename_i changed hdrop
    obtain ⟨-, rfl⟩ := MemoryStore.dropIndex_eq_ok_iff.mp hdrop
    obtain ⟨done, _, hrun, -, hdone⟩ :=
      runFrom_sweep (service.withStore _) cancelled (Key.pattern name)
    rw [if_pos rfl, Attempt.runFrom_map, hrun] at h
    cases h
    refine ⟨MemoryStore.indexes_eraseAll .., fun key => ?_⟩
    rw [store_withStore, hdone hfinished]
    exact MemoryStore.get?_eraseAll_keysMatching _ _ key

namespace Session

variable {α : Type}

/-- After an index was dropped, nothing is left of what it had stored, and what any other index had
stored is as it was. -/
def DropsExactly (session : Session α) (name : String) (after : Service MemoryStore α) : Prop :=
  ∀ origin ∈ session.origins,
    (origin.index = name → after.store.get? origin.key = none) ∧
      (origin.index ≠ name → after.store.get? origin.key = session.store.get? origin.key)

/-- A name that is plain in a pattern is told from the others unless one of these intrudes. -/
theorem isMatch_pattern_iff_of_plain {name : String} (hplain : Glob.IsPlain name)
    (origin : Origin) :
    (Glob.isMatch (Key.pattern name) origin.key = true ↔ origin.index = name) ↔
      (origin.index ≠ name → ¬origin.Intrudes name) := by
  rw [Key.isMatch_pattern hplain]
  by_cases hindex : origin.index = name
  · refine iff_of_true (iff_of_true ⟨origin.name, ?_⟩ hindex) fun hne => absurd hindex hne
    rw [origin.key_eq, hindex]
  · rw [iff_false_right hindex, imp_iff_right hindex, not_congr]
    constructor
    · rintro ⟨id, hkey⟩
      refine (Origin.eq_record_or_intrudes hkey).resolve_left ?_
      rintro rfl
      exact hindex rfl
    · exact Origin.Intrudes.exists_key

/-- **When dropping an index is exact.** After an index was dropped with its records and the sweep
was not cancelled, its definition is gone, and its records and parents are gone with all others as
they were if and only if the pattern of its name matches their keys and no others. For a plain name
this is so if and only if the session holds nothing of another index that intrudes. -/
theorem dropIndex_exact (config : Config) (archive : Option α) (intake : Intake)
    (calls : List Call) (cancelled : MemoryStore → Bool) (name : String)
    (report : SweepReport) (after : Service MemoryStore α)
    (hdrop : (Service.dropIndex cancelled name true).runFrom
      ((start config archive intake).run calls).service = (.ok (some report), after))
    (hfinished : report.cancelled = false) :
    let session := (start config archive intake).run calls
    after.store.indexes = session.store.indexes.erase name ∧
      (session.DropsExactly name after ↔ ∀ origin ∈ session.origins,
        (Glob.isMatch (Key.pattern name) origin.key = true ↔ origin.index = name)) ∧
      (Glob.IsPlain name → (session.DropsExactly name after ↔ ∀ origin ∈ session.origins,
        origin.index ≠ name → ¬origin.Intrudes name)) := by
  intro session
  have hsound : session.Sound config := sound_run config archive intake calls
  obtain ⟨hindexes, hget⟩ := Service.dropIndex_eq_ok hdrop hfinished
  have hexact : session.DropsExactly name after ↔ ∀ origin ∈ session.origins,
      (Glob.isMatch (Key.pattern name) origin.key = true ↔ origin.index = name) := by
    refine forall₂_congr fun origin horigin => ?_
    obtain ⟨hash, hhash⟩ := Option.isSome_iff_exists.mp
      ((hsound.isSome_get?_iff origin.key).mpr ⟨origin, horigin, rfl⟩)
    have hstored : session.service.store.get? origin.key = some hash := hhash
    rw [hget, hhash, hstored]
    by_cases hmatch : Glob.isMatch (Key.pattern name) origin.key = true <;>
      by_cases hindex : origin.index = name <;> simp [hmatch, hindex]
  refine ⟨hindexes, hexact, fun hplain => hexact.trans ?_⟩
  exact forall₂_congr fun origin _ => isMatch_pattern_iff_of_plain hplain origin

private abbrev twoIndexes : List Call :=
  (Origin.record "a" "1").writing ++ (Origin.record "b" "2").writing

/-- Of two indexes with plain names one is dropped. -/
theorem dropIndex_exact_of_two :
    ((Service.dropIndex (fun _ => false) "a" true).runFrom
        (Probe.blank.run twoIndexes).service).1 = .ok (some ⟨"vs:a:*", 1, 1, 0, false⟩) ∧
      (Probe.blank.run twoIndexes).DropsExactly "a"
        ((Service.dropIndex (fun _ => false) "a" true).runFrom
          (Probe.blank.run twoIndexes).service).2 := by
  have hreport : ((Service.dropIndex (fun _ => false) "a" true).runFrom
      (Probe.blank.run twoIndexes).service).1 = .ok (some ⟨"vs:a:*", 1, 1, 0, false⟩) := by
    decide +kernel
  refine ⟨hreport, ?_⟩
  have horigins : (Probe.blank.run twoIndexes).origins = [.record "a" "1", .record "b" "2"] := by
    decide +kernel
  have hplain : Glob.IsPlain "a" := by simp [Glob.IsPlain]
  refine ((dropIndex_exact .standard none Probe.unloaded twoIndexes (fun _ => false) "a" _ _
    (Prod.ext hreport rfl) rfl).2.2 hplain).mpr ?_
  intro origin horigin hindex hintrudes
  have hstart := Key.isSome_startsWith?_space.mpr hintrudes.exists_key
  rw [horigins] at horigin
  rcases List.mem_pair.mp horigin with rfl | rfl
  · exact hindex rfl
  · exact absurd hstart (by decide)

private abbrev patternName : List Call :=
  (Origin.record "a*" "1").writing ++ (Origin.record "ab" "2").writing

/-- Dropping an index is not always exact: this name is a pattern for the keys of another. -/
theorem not_dropIndex_exact :
    ¬∀ calls cancelled name report after,
      (Service.dropIndex cancelled name true).runFrom (Probe.blank.run calls).service =
        (.ok (some report), after) →
      report.cancelled = false → (Probe.blank.run calls).DropsExactly name after := by
  intro hall
  have hreport : ((Service.dropIndex (fun _ => false) "a*" true).runFrom
      (Probe.blank.run patternName).service).1 =
        .ok (some ⟨"vs:a*:*", 2, 2, 0, false⟩) := by decide +kernel
  have hexact := hall patternName (fun _ => false) "a*" _ _ (Prod.ext hreport rfl) rfl
  have horigin : .record "ab" "2" ∈ (Probe.blank.run patternName).origins := by decide +kernel
  have hget := (hexact (.record "ab" "2") horigin).2 (by decide)
  have hbefore : ((Probe.blank.run patternName).store.get?
      (Origin.record "ab" "2").key).isSome = true := by decide +kernel
  have hafter : (((Service.dropIndex (fun _ => false) "a*" true).runFrom
      (Probe.blank.run patternName).service).2.store.get?
        (Origin.record "ab" "2").key).isSome = false := by decide +kernel
  rw [hget, hbefore] at hafter
  cases hafter

end Session

end HybridSearch
