/-
  Members taken in one by one.

  * `Exchange`: steps whose order does not matter, up to a relation of states.
  * `foldlM_perm`, `foldlM_insert`, `foldlM_replace`: steps in another order, with
    one more step, and with another step in one place.
-/
import NearestHost.Proofs.Json.Fault

namespace NearestHost.Json

variable {α δ ε : Type} {step : δ → α → Except ε δ} {R : δ → δ → Prop} {as as' : List α}
  {a a' : α} {d d' e : δ}

/-- Steps whose order does not matter, up to a relation of states. -/
structure Exchange (step : δ → α → Except ε δ) (R : δ → δ → Prop) : Prop where
  refl : ∀ d, R d d
  trans : ∀ {d e i}, R d e → R e i → R d i
  related : ∀ {d d' e a}, R d d' → step d a = .ok e → ∃ e', step d' a = .ok e' ∧ R e e'
  swap : ∀ {d e i a a'}, step d a = .ok e → step e a' = .ok i →
    ∃ e' i', step d a' = .ok e' ∧ step e' a = .ok i' ∧ R i i'

theorem foldlM_cons_ok : (a :: as).foldlM step d = .ok e ↔
    ∃ i, step d a = .ok i ∧ as.foldlM step i = .ok e := by
  rw [List.foldlM_cons]
  exact bind_eq_ok

theorem foldlM_append_ok : (as ++ as').foldlM step d = .ok e ↔
    ∃ i, as.foldlM step d = .ok i ∧ as'.foldlM step i = .ok e := by
  rw [List.foldlM_append]
  exact bind_eq_ok

/-- Steps that may fail have one outcome in one place whenever they have it in the other. -/
theorem foldlM_replace (h : ∀ d i, step d a = .ok i → step d a' = .ok i)
    (hfold : (as ++ a :: as').foldlM step d = .ok e) :
    (as ++ a' :: as').foldlM step d = .ok e := by
  obtain ⟨i, hi, hrest⟩ := foldlM_append_ok.1 hfold
  obtain ⟨j, hj, hrest⟩ := foldlM_cons_ok.1 hrest
  exact foldlM_append_ok.2 ⟨i, hi, foldlM_cons_ok.2 ⟨j, h i j hj, hrest⟩⟩

variable (h : Exchange step R)
include h

theorem foldlM_related (hd : R d d') (hfold : as.foldlM step d = .ok e) :
    ∃ e', as.foldlM step d' = .ok e' ∧ R e e' := by
  induction as generalizing d d' with
  | nil =>
    cases hfold
    exact ⟨d', rfl, hd⟩
  | cons a as ih =>
    obtain ⟨i, hi, hfold⟩ := foldlM_cons_ok.1 hfold
    obtain ⟨i', hi', hR⟩ := h.related hd hi
    obtain ⟨e', hfold', he⟩ := ih hR hfold
    exact ⟨e', foldlM_cons_ok.2 ⟨i', hi', hfold'⟩, he⟩

theorem foldlM_perm (hperm : as.Perm as') (hfold : as.foldlM step d = .ok e) :
    ∃ e', as'.foldlM step d = .ok e' ∧ R e e' := by
  induction hperm generalizing d e with
  | nil => exact ⟨e, hfold, h.refl e⟩
  | cons a _ ih =>
    obtain ⟨i, hi, hfold⟩ := foldlM_cons_ok.1 hfold
    obtain ⟨e', hfold', he⟩ := ih hfold
    exact ⟨e', foldlM_cons_ok.2 ⟨i, hi, hfold'⟩, he⟩
  | swap a a' as =>
    obtain ⟨i, hi, hfold⟩ := foldlM_cons_ok.1 hfold
    obtain ⟨j, hj, hfold⟩ := foldlM_cons_ok.1 hfold
    obtain ⟨i', j', hi', hj', hR⟩ := h.swap hi hj
    obtain ⟨e', hfold', he⟩ := foldlM_related h hR hfold
    exact ⟨e', foldlM_cons_ok.2 ⟨i', hi', foldlM_cons_ok.2 ⟨j', hj', hfold'⟩⟩, he⟩
  | trans _ _ ih ih' =>
    obtain ⟨e', hfold', he⟩ := ih hfold
    obtain ⟨e'', hfold'', he'⟩ := ih' hfold'
    exact ⟨e'', hfold'', h.trans he he'⟩

theorem foldlM_insert (ha : ∀ d, ∃ d', step d a = .ok d' ∧ R d d')
    (hfold : (as ++ as').foldlM step d = .ok e) :
    ∃ e', (as ++ a :: as').foldlM step d = .ok e' ∧ R e e' := by
  obtain ⟨i, hi, hrest⟩ := foldlM_append_ok.1 hfold
  obtain ⟨i', hi', hR⟩ := ha i
  obtain ⟨e', hrest', he⟩ := foldlM_related h hR hrest
  exact ⟨e', foldlM_append_ok.2 ⟨i, hi, foldlM_cons_ok.2 ⟨i', hi', hrest'⟩⟩, he⟩

end NearestHost.Json
