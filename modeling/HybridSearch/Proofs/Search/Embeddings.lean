import HybridSearch.Proofs.Schema.Attributes
import HybridSearch.Proofs.Search.Membership
import HybridSearch.Proofs.Search.Parents
import HybridSearch.Proofs.Service.Journal

/-!
# Embeddings in answers

The bytes of a vector are left out of what a search answers: of a hit by the declarations that the
index has now, of a chunk by the name of the attribute. A record may outlive the declarations it was
written with, and then its vectors are read as texts.

## Main definitions

* `Journal.IsEmbedding` — the bytes under a name of a key were written as a vector.
* `Call.Drops` — a call that removes the definition of an index.
* `Session.Declared` — where the vectors of a session stand.

## Main results

* `Session.declared_journal` — every vector was written for a declared vector attribute.
* `Session.search_embeddings` — which embeddings a search can answer.
-/

namespace HybridSearch

/-! ### Where vectors stand -/

/-- The bytes under a name of a key were written as a vector. -/
def Journal.IsEmbedding (journal : Journal) (key name : String) : Prop :=
  ∃ vector, journal.value? key name = some (.vector vector)

/-- A call that removes the definition of the index. -/
def Call.Drops (index : String) : Call → Prop
  | dropIndex _ name _ => name = index
  | _ => False

/-- The attributes of an index stay as long as it is not dropped. -/
theorem Call.exists_definition_perform {α : Type} (call : Call) {service : Service MemoryStore α}
    {index : String} {definition : IndexDefinition} (hdrops : ¬call.Drops index)
    (h : service.store.indexes.get? index = some definition) :
    ∃ changed, (call.perform service).2.store.indexes.get? index = some changed ∧
      definition.attributes ⊆ changed.attributes := by
  have hsame {changed : MemoryStore} (hindexes : changed.indexes = service.store.indexes) :
      ∃ other, changed.indexes.get? index = some other ∧
        definition.attributes ⊆ other.attributes :=
    ⟨definition, hindexes ▸ h, List.Subset.refl _⟩
  cases call with
  | createIndex name fields =>
    rw [perform, Service.runFrom_createIndex]
    split
    · rename_i changed hcreate
      obtain ⟨hnone, rfl⟩ := MemoryStore.createIndex_eq_ok_iff.mp hcreate
      refine ⟨definition, (Dict.get?_insert ..).trans ?_, List.Subset.refl _⟩
      rw [if_neg, h]
      rintro rfl
      exact Option.some_ne_none definition (h.symm.trans hnone)
    · exact hsame rfl
  | alterIndex name fields =>
    rw [perform, Service.runFrom_alterIndex]
    split
    · rename_i changed halter
      obtain ⟨old, hold, -, rfl⟩ := MemoryStore.alterIndex_eq_ok_iff.mp halter
      by_cases hname : index = name
      · subst hname
        obtain rfl := Option.some.inj (h.symm.trans hold)
        exact ⟨_, (Dict.get?_insert ..).trans (if_pos rfl), List.subset_append_left _ _⟩
      · exact ⟨definition, (Dict.get?_insert ..).trans ((if_neg hname).trans h),
          List.Subset.refl _⟩
    · exact hsame rfl
  | dropIndex cancelled name deleteRecords =>
    rw [perform, Service.runFrom_dropIndex]
    split
    · exact hsame rfl
    · rename_i changed hdrop
      obtain ⟨-, rfl⟩ := MemoryStore.dropIndex_eq_ok_iff.mp hdrop
      have herased : (service.store.indexes.erase name).get? index = some definition :=
        (Dict.get?_erase ..).trans ((if_neg fun hname => hdrops hname.symm).trans h)
      split
      · obtain ⟨done, report, hrun, -⟩ := Service.runFrom_sweep
          (service.withStore { service.store with indexes := service.store.indexes.erase name })
          cancelled (Key.pattern name)
        rw [Attempt.runFrom_map, hrun]
        refine ⟨definition, ?_, List.Subset.refl _⟩
        rw [Service.store_withStore, MemoryStore.indexes_eraseAll]
        exact herased
      · exact ⟨definition, herased, List.Subset.refl _⟩
  | ingestDocuments name documents =>
    refine hsame ?_
    rw [(service.perform_ingestDocuments_eq name documents).2, MemoryStore.indexes_foldl_accept]
  | putParent name parent => exact hsame rfl
  | deleteDocuments name uids =>
    rw [perform, Service.run_deleteDocuments]
    exact hsame (MemoryStore.indexes_eraseAll ..)
  | sweep cancelled pattern =>
    obtain ⟨done, report, hrun, -⟩ := Service.runFrom_sweep service cancelled pattern
    rw [perform, hrun]
    exact hsame (MemoryStore.indexes_eraseAll ..)
  | search request =>
    obtain ⟨-, hstore⟩ := Prod.mk.inj (Service.keeps_search request service)
    exact hsame (congrArg MemoryStore.indexes hstore)

/-- A vector that a batch writes stands in a record that it reports, under the name of a declared
vector. -/
theorem Service.exists_of_mem_writes {α : Type} {service : Service MemoryStore α} {index : String}
    {documents : Json} {write : Write} {vector : Embedding}
    (hmem : write ∈ (Call.ingestDocuments index documents).writes service)
    (hvector : write.value = .vector vector) :
    ∃ id definition, write.key = Key.record index id ∧
      .record index id ∈ ((Call.ingestDocuments index documents).perform service).1 ∧
      service.store.indexes.get? index = some definition ∧
      definition.DeclaresVector write.name := by
  obtain ⟨⟨number, result⟩, houtcome, hmem⟩ := List.mem_flatMap.mp hmem
  cases hdefinition : service.store.indexes.get? index with
  | none =>
    rw [service.outcomes_eq_nil index documents hdefinition] at houtcome
    cases houtcome
  | some definition =>
    obtain ⟨after, hends⟩ := service.ends_outcomes index documents hdefinition
    cases result with
    | error cause => cases hmem
    | ok record =>
      obtain ⟨⟨name, value⟩, hfield, rfl⟩ := List.mem_map.mp hmem
      obtain ⟨source, before, since, hsource⟩ :=
        hends.exists_ofSource _ houtcome record rfl
      refine ⟨record.id, definition, hends.isAddressed _ houtcome record rfl, ?_, rfl, ?_⟩
      · rw [(service.perform_ingestDocuments_eq index documents).1]
        exact List.mem_map_of_mem
          (IngestReport.mem_written_ofOutcomes.mpr ⟨_, houtcome, record, rfl, rfl⟩)
      · obtain ⟨values, between, hvalues, hrecord⟩ := Record.of_ofSource hsource
        rw [hrecord] at hfield
        rcases List.mem_append.mp hfield with hfield | hid
        · obtain ⟨field, hdeclared, rfl, -, raw, _, _, -, hvalue⟩ :=
            Source.gives_of_mem_values hvalues _ hfield
          obtain ⟨a, ha, rfl⟩ := List.mem_map.mp hdeclared
          have hsuits := Source.suits_of_value hvalue
          rw [show value = .vector vector from hvector] at hsuits
          exact ⟨a, ha, rfl, hsuits.eq_vector⟩
        · obtain ⟨⟩ := List.mem_singleton.mp hid
          cases hvector

namespace Session

variable {α : Type}

/-- Where the vectors of a session stand: in records that were ingested, under names of vector
attributes. Unless it has been dropped, the index of the record declares the vector. -/
def Declared (kept : String → Prop) (session : Session α) (journal : Journal) : Prop :=
  ∀ write ∈ journal, ∀ vector, write.value = .vector vector → ∃ index id,
    write.key = Key.record index id ∧ .record index id ∈ session.origins ∧
      Key.isVectorAttribute write.name = true ∧
      (kept index → ∃ definition, session.store.indexes.get? index = some definition ∧
        definition.DeclaresVector write.name)

theorem Declared.noted {kept : String → Prop} {session : Session α} {journal : Journal}
    {config : Config} {call : Call} (h : session.Declared kept journal)
    (hsound : session.Sound config) (hkept : ∀ index, kept index → ¬call.Drops index) :
    (session.perform call).Declared kept (session.noted journal call) := by
  intro write hmem vector hvector
  obtain ⟨hmem, hkey⟩ := List.mem_filter.mp hmem
  rcases List.mem_append.mp hmem with hold | hnew
  · obtain ⟨index, id, hrecord, horigin, hname, hdeclared⟩ := h write hold vector hvector
    refine ⟨index, id, hrecord, ?_, hname, fun hindex => ?_⟩
    · rw [origins_perform]
      exact List.mem_append_left _ (List.mem_filter.mpr ⟨horigin, by rwa [hrecord] at hkey⟩)
    · obtain ⟨definition, hget, hvector⟩ := hdeclared hindex
      obtain ⟨changed, hchanged, hsub⟩ := call.exists_definition_perform (hkept index hindex) hget
      exact ⟨changed, hchanged, hvector.mono hsub⟩
  · cases call with
    | ingestDocuments index documents =>
      obtain ⟨id, definition, hrecord, hwritten, hget, hdeclares⟩ :=
        Service.exists_of_mem_writes hnew hvector
      refine ⟨index, id, hrecord, ?_, ?_, fun _ => ?_⟩
      · rw [origins_perform]
        exact List.mem_append_right _ hwritten
      · exact hdeclares.isVectorAttribute (hsound.catalogued index definition hget)
      · obtain ⟨changed, hchanged, hsub⟩ := Call.exists_definition_perform
          (.ingestDocuments index documents) not_false hget
        exact ⟨changed, hchanged, hdeclares.mono hsub⟩
    | putParent index parent =>
      rcases List.mem_cons.mp hnew with rfl | hnew
      · cases hvector
      · obtain rfl := List.mem_singleton.mp hnew
        cases hvector
    | _ => cases hnew

/-- **Every vector was written for a declared vector attribute.** -/
theorem declared_journal (config : Config) (archive : Option α) (intake : Intake)
    (calls : List Call) :
    ((start config archive intake).run calls).Declared
      (fun index => ∀ call ∈ calls, ¬call.Drops index)
      ((start config archive intake).journal [] calls) := by
  suffices h : ∀ (kept : String → Prop) (session : Session α) (before : Journal),
      session.Sound config → session.Declared kept before →
      (∀ index, kept index → ∀ call ∈ calls, ¬call.Drops index) →
      (session.run calls).Declared kept (session.journal before calls)
    from h _ _ [] (sound_start config archive intake) nofun fun _ hkept => hkept
  intro kept
  induction calls with
  | nil => exact fun _ _ _ h _ => h
  | cons call calls ih =>
    intro session before hsound h hkept
    exact ih _ _ (hsound.perform call)
      (h.noted hsound fun index hindex => hkept index hindex call List.mem_cons_self)
      fun index hindex other hother => hkept index hindex other (List.mem_cons_of_mem _ hother)

variable {config : Config} {session : Session α} {journal : Journal} {kept : String → Prop}
  {request : SearchRequest} {response : SearchResponse} {after : Service MemoryStore α}

/-- A chunk has no vectors, whatever the declarations were or are. -/
theorem Declared.get?_chunk (h : session.Declared kept journal) {key name : String}
    (hname : journal.IsEmbedding key name) (raw : StoredHash) :
    Entries.get? (Hit.readFields none raw) name = none := by
  obtain ⟨vector, hvalue⟩ := hname
  obtain ⟨_, _, -, -, hvector, -⟩ := h _ (Journal.mem_of_value?_eq_some hvalue) vector rfl
  rw [Hit.get?_readFields]
  exact if_pos hvector

/-- A hit has a vector only where the index does not declare it. Then the index was dropped, or what
stands under the key is no record of the index. -/
theorem Declared.of_mem_hits (h : session.Declared kept journal) (hsound : session.Sound config)
    (hsearch : (Service.search request).runFrom session.service = (.ok response, after))
    {hit : Hit} (hhit : hit ∈ response.hits) :
    ∃ definition, session.store.indexes.get? request.index = some definition ∧
      (session.store.get? (Key.record request.index hit.id)).isSome ∧
      ∀ name, journal.IsEmbedding (Key.record request.index hit.id) name →
        (hit.get? name).isSome → ¬definition.DeclaresVector name ∧
          (kept request.index → ∃ origin ∈ session.origins, origin.Intrudes request.index) := by
  obtain ⟨definition, document, hget, rfl, hstored, hstart⟩ :=
    Service.exists_document_of_mem_hits hsearch hhit
  have hwell := hsound.catalogued request.index definition hget
  rw [hwell.keySpace_eq] at hstart
  obtain ⟨id, hkey⟩ := Key.isSome_startsWith?_space.mp hstart
  have hid : (Hit.ofDocument (Key.space request.index) definition.fieldSet document).id = id := by
    rw [Hit.ofDocument, StoredDocument.id, Key.startsWith?_space.mpr hkey]
    rfl
  rw [hid, ← hkey]
  refine ⟨definition, hget, hstored, fun name hname hsome => ?_⟩
  have hvector : ¬definition.DeclaresVector name := by
    intro hdeclares
    rw [Hit.get?, Hit.ofDocument, Hit.get?_readFields,
      if_pos ((IndexDefinition.isVector_iff hwell).mpr hdeclares)] at hsome
    cases hsome
  refine ⟨hvector, fun hkept => ?_⟩
  obtain ⟨vector, hvalue⟩ := hname
  obtain ⟨index, other, hrecord, horigin, -, hdeclared⟩ :=
    h _ (Journal.mem_of_value?_eq_some hvalue) vector rfl
  have horiginKey : (Origin.record index other).key = Key.record request.index id :=
    hrecord.symm.trans hkey
  rcases Origin.eq_record_or_intrudes horiginKey with heq | hintrudes
  · cases heq
    obtain ⟨now, hnow, hdeclares⟩ := hdeclared hkept
    obtain rfl := Option.some.inj (hget.symm.trans hnow)
    exact absurd hdeclares hvector
  · exact ⟨_, horigin, hintrudes⟩

/-- **Which embeddings a search can answer.** The journal tells what the stored bytes were written
from. In every session no chunk of a parent has an attribute whose bytes were written as a vector. A
hit has such an attribute only where the index does not declare it as a vector now, and in an index
that was never dropped and on which nothing intrudes no hit has one. -/
theorem search_embeddings (config : Config) (archive : Option α) (intake : Intake)
    (calls : List Call) (request : SearchRequest) (response : SearchResponse)
    (after : Service MemoryStore α)
    (hsearch : (Service.search request).runFrom ((start config archive intake).run calls).service =
      (.ok response, after)) :
    let session := (start config archive intake).run calls
    let journal := (start config archive intake).journal [] calls
    journal.Explains session.store ∧
      (∀ view ∈ response.parents, ∀ chunk ∈ view.chunks, ∃ id,
        chunk = Hit.readFields none (session.store.hash (Key.record request.index id)) ∧
          ∀ name, journal.IsEmbedding (Key.record request.index id) name →
            Entries.get? chunk name = none) ∧
      ∀ hit ∈ response.hits, ∃ definition,
        session.store.indexes.get? request.index = some definition ∧
        (session.store.get? (Key.record request.index hit.id)).isSome ∧
        ∀ name, journal.IsEmbedding (Key.record request.index hit.id) name →
          (hit.get? name).isSome → ¬definition.DeclaresVector name ∧
            ((∀ call ∈ calls, ¬call.Drops request.index) →
              ∃ origin ∈ session.origins, origin.Intrudes request.index) := by
  have hsound := sound_run config archive intake calls
  have hdeclared := declared_journal config archive intake calls
  refine ⟨explains_journal config archive intake calls, fun view hview chunk hchunk => ?_,
    fun hit hhit => hdeclared.of_mem_hits hsound hsearch hhit⟩
  obtain ⟨id, rfl⟩ := Service.exists_of_mem_chunks hsearch hview hchunk
  exact ⟨id, rfl, fun name hname => hdeclared.get?_chunk hname _⟩

/-- A session in which every text has the same vector. -/
private def constant : Session Unit :=
  let model : Model := ⟨1, fun _ => .ok [Trigram.one]⟩
  .start { Config.standard with vector := ⟨1, .l2⟩ } none
    ⟨.ofLoader (fun _ => .ok model) 1, ⟨toString, 0⟩⟩

/-- A record with a vector and a tag. -/
private def tagged : List Call :=
  [.createIndex "i" [⟨"e", .vector, false⟩, ⟨"t", .tag, false⟩],
    .ingestDocuments "i" (.obj [("e", .str "x"), ("id", .str "1"), ("t", .str "x")])]

/-- The index is dropped without its records and created anew without the vector. -/
private def retagged : List Call :=
  tagged ++ [.dropIndex (fun _ => false) "i" false, .createIndex "i" [⟨"t", .tag, false⟩]]

private def tagRequest : SearchRequest :=
  { SearchRequest.ofIndex "i" with filters := [("t", .str "x")] }

private theorem isEmbedding_of_isSome {journal : Journal} {key name : String}
    (h : (journal.value? key name).any (fun | .vector _ => true | _ => false) = true) :
    journal.IsEmbedding key name := by
  rw [Option.any_eq_true] at h
  obtain ⟨value, hvalue, hvector⟩ := h
  cases value with
  | vector vector => exact ⟨vector, hvalue⟩
  | text text => cases hvector
  | number x => cases hvector

/-- In an index that was never dropped the vector is kept out of the hit. -/
theorem search_embeddings_of_tagged :
    (constant.journal [] tagged).IsEmbedding (Key.record "i" "1") "e_vec" ∧
      ∃ response after, (Service.search tagRequest).runFrom (constant.run tagged).service =
          (.ok response, after) ∧ response.hits.map Hit.id = ["1"] ∧
        ∀ hit ∈ response.hits, ∀ name,
          (constant.journal [] tagged).IsEmbedding (Key.record "i" hit.id) name →
            ¬(hit.get? name).isSome := by
  refine ⟨isEmbedding_of_isSome (by decide +kernel), ?_⟩
  obtain ⟨response, after, hsearch, hids⟩ := Attempt.exists_of_map_toOption
    (show (((Service.search tagRequest).runFrom (constant.run tagged).service).1.toOption.map
      fun response => response.hits.map Hit.id) = some ["1"] by decide +kernel)
  refine ⟨response, after, hsearch, hids, fun hit hhit name hname hsome => ?_⟩
  have hsafe := search_embeddings _ _ _ tagged tagRequest response after hsearch
  obtain ⟨_, -, -, hleak⟩ := hsafe.2.2 hit hhit
  obtain ⟨origin, horigin, hintrudes⟩ := (hleak name hname hsome).2
    (List.forall_mem_cons.mpr ⟨id, List.forall_mem_singleton.mpr id⟩)
  have horigins : (constant.run tagged).origins = [.record "i" "1"] := by decide +kernel
  obtain rfl := List.mem_singleton.mp (horigins ▸ horigin)
  exact hintrudes.ne_of_record rfl

/-- An embedding is answered where the declarations have changed since it was written. -/
theorem not_search_embeddings :
    ¬∀ calls request response after,
      (Service.search request).runFrom (constant.run calls).service = (.ok response, after) →
      (∀ hit ∈ response.hits, ∀ name,
        (constant.journal [] calls).IsEmbedding (Key.record request.index hit.id) name →
          hit.get? name = none) ∧
      ∀ view ∈ response.parents, ∀ chunk ∈ view.chunks, ∀ id name,
        chunk = Hit.readFields none
            ((constant.run calls).store.hash (Key.record request.index id)) →
          (constant.journal [] calls).IsEmbedding (Key.record request.index id) name →
            Entries.get? chunk name = none := by
  intro hall
  obtain ⟨response, after, hsearch, hhits⟩ := Attempt.exists_of_map_toOption
    (show (((Service.search tagRequest).runFrom (constant.run retagged).service).1.toOption.map
      fun response => response.hits.map fun hit => (hit.id, (hit.get? "e_vec").isSome)) =
        some [("1", true)] by decide +kernel)
  obtain ⟨hit, hhit, hread⟩ := List.mem_map.mp (hhits ▸ List.mem_singleton_self ("1", true))
  obtain ⟨hid, hsome⟩ := Prod.mk.inj hread
  have hnone := (hall retagged tagRequest response after hsearch).1 hit hhit "e_vec"
    (hid ▸ isEmbedding_of_isSome (by decide +kernel))
  rw [hnone] at hsome
  cases hsome

end Session

end HybridSearch
