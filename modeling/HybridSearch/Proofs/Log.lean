import HybridSearch.Proofs.Attempt

/-!
# Logs

A log notes what is done to a state, move by move. What a state has come through is told by a log
that leads to it.

## Main definitions

* `Log` — moves one after the other, by what is noted of each.
* `Attempt.Tries` — a step for an entry, by how it ends.
* `Attempt.Succeeds` — a step that never fails in a region.

## Main results

* `Log.append`, `Log.map` — logs put together and written in other words.
* `Attempt.exists_log_mapM` — steps for the entries of a list, none of which ends the others.
* `Log.unique`, `Log.of_settles` — how the steps of a log end, by the entries and by a region.
-/

namespace HybridSearch

/-- Moves of a state one after the other, by what is noted of each. -/
inductive Log {ν σ : Type} (move : ν → σ → σ → Prop) : σ → List ν → σ → Prop
  | nil (s : σ) : Log move s [] s
  | cons {note : ν} {notes : List ν} {s t u : σ} (h : move note s t) (hrest : Log move t notes u) :
      Log move s (note :: notes) u

namespace Log

variable {μ ν σ : Type} {move : ν → σ → σ → Prop} {s t u : σ}

theorem append {first last : List ν} (h : Log move s first t) (hlast : Log move t last u) :
    Log move s (first ++ last) u := by
  induction h with
  | nil => exact hlast
  | cons h _ ih => exact .cons h (ih hlast)

theorem map {move' : μ → σ → σ → Prop} {f : ν → μ} {notes : List ν} (h : Log move s notes t)
    (hmove : ∀ note s t, move note s t → move' (f note) s t) : Log move' s (notes.map f) t := by
  induction h with
  | nil => exact .nil _
  | cons h _ ih => exact .cons (hmove _ _ _ h) ih

end Log

namespace Attempt

variable {δ ε σ α β γ : Type}

/-- The step for an entry leads from one state to the other, and ends as it is noted. -/
def Tries (step : α → Attempt ε σ β) (note : α × Except ε β) (s t : σ) : Prop :=
  (step note.1).runFrom s = (note.2, t)

/-- From every state of a region the step ends with a value, and in a state of the region. -/
def Succeeds (region : σ → Prop) (step : Attempt ε σ α) : Prop :=
  ∀ s, region s → ∃ a t, step.runFrom s = (.ok a, t) ∧ region t

theorem Settles.succeeds {region : σ → Prop} {step : Attempt ε σ α} {a : α}
    (h : step.Settles region (.ok a)) : step.Succeeds region :=
  fun s hs => ⟨a, (step.runFrom s).2, Prod.ext (h s hs).1 rfl, (h s hs).2⟩

/-- Steps for the entries of a list, where something is made of each end, the bad ones included. -/
theorem exists_log_mapM (read : α × Except ε β → γ) {region : σ → Prop} {step : α → Attempt ε σ β}
    {next : α → Attempt δ σ γ}
    (h : ∀ a s, region s → ∃ result t, (step a).runFrom s = (result, t) ∧ region t ∧
      (next a).runFrom s = (.ok (read (a, result)), t))
    (l : List α) {s : σ} (hs : region s) :
    ∃ notes t, Log (Tries step) s notes t ∧ notes.map Prod.fst = l ∧ region t ∧
      (l.mapM next).runFrom s = (.ok (notes.map read), t) := by
  induction l generalizing s with
  | nil => exact ⟨[], s, .nil s, rfl, hs, rfl⟩
  | cons a l ih =>
    obtain ⟨result, m, hstep, hm, hnext⟩ := h a s hs
    obtain ⟨notes, t, hlog, hentries, ht, hrun⟩ := ih hm
    refine ⟨(a, result) :: notes, t, .cons hstep hlog, ?_, ht, ?_⟩
    · rw [List.map_cons, hentries]
    · rw [List.mapM_cons, runFrom_bind_of_ok hnext, runFrom_bind_of_ok hrun]
      rfl

end Attempt

namespace Log

variable {ε σ α β : Type} {step : α → Attempt ε σ β}

/-- Steps for the same entries from the same state end alike. -/
theorem unique {notes notes' : List (α × Except ε β)} {s t t' : σ}
    (h : Log (Attempt.Tries step) s notes t) (h' : Log (Attempt.Tries step) s notes' t')
    (hentries : notes.map Prod.fst = notes'.map Prod.fst) : notes = notes' ∧ t = t' := by
  induction h generalizing notes' with
  | nil =>
    obtain rfl := List.map_eq_nil_iff.mp hentries.symm
    cases h'
    exact ⟨rfl, rfl⟩
  | @cons note notes s t u htries _ ih =>
    cases h' with
    | nil => cases hentries
    | @cons note' notes' _ t' _ htries' hrest' =>
      obtain ⟨hentry, hentries⟩ := List.cons.inj hentries
      rw [Attempt.Tries, ← hentry, htries] at htries'
      obtain ⟨hresult, rfl⟩ := Prod.mk.inj htries'
      obtain ⟨rfl, rfl⟩ := ih hrest' hentries
      exact ⟨by rw [Prod.ext hentry hresult], rfl⟩

/-- Steps that always end alike in a region are noted with these ends. -/
theorem of_settles {answer : α → Except ε β} {region : σ → Prop}
    (h : ∀ a, (step a).Settles region (answer a)) {notes : List (α × Except ε β)} {s t : σ}
    (hlog : Log (Attempt.Tries step) s notes t) (hs : region s) :
    (∀ note ∈ notes, note.2 = answer note.1) ∧ region t := by
  induction hlog with
  | nil => exact ⟨nofun, hs⟩
  | @cons note notes s t u htries _ ih =>
    obtain ⟨hresult, hregion⟩ := h note.1 s hs
    rw [htries] at hresult hregion
    obtain ⟨hnotes, hlast⟩ := ih hregion
    exact ⟨List.forall_mem_cons.mpr ⟨hresult, hnotes⟩, hlast⟩

end Log

end HybridSearch
