/-
  What a builder keeps is kept by a whole read.

  Only events change the state of a builder, so a property of its states that
  every event keeps holds at the end of a source too.

  * `Keeps`: a part of the reader that ends in such states.
  * `keeps_step`: one byte.
  * `read_keeps`: a whole source.
-/
import NearestHost.Json.Reader
import Mathlib.Tactic.SplitIfs

namespace NearestHost.Json

variable {σ : Type} {b : Builder σ} {P : σ → Prop}

/-- Every event keeps a property of the states of a builder. -/
def Builder.Keeps (b : Builder σ) (P : σ → Prop) : Prop :=
  ∀ s e s', P s → b.accept? s e = some s' → P s'

namespace Reader

/-- A reader that the property holds of, unless there is a fault. -/
def Keeps (P : σ → Prop) (x : Except Fault (Reader σ)) : Prop := ∀ r, x = .ok r → P r.state

theorem keeps_error (f : Fault) : Keeps P (.error f : Except Fault (Reader σ)) :=
  fun _ h => nomatch h

theorem keeps_ok {r : Reader σ} (h : P r.state) : Keeps P (.ok r) := by
  rintro r' ⟨⟩; exact h

/-- What follows a part of the reader starts from its state. -/
theorem Keeps.map {x : Except Fault (Reader σ)} (h : Keeps P x) {f : Reader σ → Reader σ}
    (hf : ∀ r, (f r).state = r.state) : Keeps P (x.map f) := by
  cases x with
  | error e => exact keeps_error e
  | ok r => exact keeps_ok (hf r ▸ h r rfl)

theorem Keeps.bind {x : Except Fault (Reader σ)} (h : Keeps P x)
    {f : Reader σ → Except Fault (Reader σ)} (hf : ∀ r, P r.state → Keeps P (f r)) :
    Keeps P (x.bind f) := by
  cases x with
  | error e => exact keeps_error e
  | ok r => exact hf r (h r rfl)

section

variable (hb : b.Keeps P) {r : Reader σ} (hr : P r.state)
include hb hr

theorem keeps_emit (e : Event) : Keeps P (r.emit b e) := by
  unfold emit
  cases h : b.accept? r.state e with
  | none => exact keeps_error _
  | some s => exact keeps_ok (hb _ _ _ hr h)

theorem keeps_endKept (e : Event) : Keeps P (r.endKept b e) :=
  (keeps_emit hb hr e).map fun _ => rfl

theorem keeps_endPassed : Keeps P (r.endPassed b) := by
  unfold endPassed
  split
  · exact keeps_ok hr
  · exact keeps_endKept hb hr _

theorem keeps_enter (k : Bracket) : Keeps P (r.enter b k) := by
  unfold enter
  dsimp only
  split_ifs with hp
  · exact keeps_ok hr
  · generalize hx : r.emit b _ = x
    cases x with
    | error f => exact keeps_error f
    | ok r' =>
      have hr' := keeps_emit hb hr _ r' hx
      dsimp only
      split_ifs
      · exact keeps_ok hr'
      · exact keeps_error _

theorem keeps_leave : Keeps P (r.leave b) := by
  unfold leave
  split
  · exact keeps_error _
  · dsimp only
    split_ifs
    · refine keeps_endPassed hb ?_; exact hr
    · refine keeps_endKept hb ?_ _; exact hr

theorem keeps_startValue (c : UInt8) : Keeps P (r.startValue b c) := by
  unfold startValue
  dsimp only
  split_ifs
  · exact keeps_ok hr
  · exact keeps_enter hb hr _
  · exact keeps_enter hb hr _
  · split
    · exact keeps_ok hr
    · exact keeps_ok hr
    · exact keeps_error _

theorem keeps_separate (c : UInt8) : Keeps P (r.separate b c) := by
  unfold separate
  split
  · exact keeps_error _
  · split_ifs
    · unfold next
      split
      · exact keeps_ok hr
      · split_ifs
        · exact keeps_error _
        · exact keeps_ok hr
    · exact keeps_leave hb hr
    · exact keeps_error _

theorem keeps_stepBetween (e : Expecting) (c : UInt8) : Keeps P (r.stepBetween b e c) := by
  have hkey : Keeps P (r.startKey c) := by
    unfold startKey
    split_ifs
    · exact keeps_ok hr
    · exact keeps_error _
  unfold stepBetween
  by_cases hs : isSpace c = true
  · rw [if_pos hs]; exact keeps_ok hr
  rw [if_neg hs]
  cases e with
  | value => exact keeps_startValue hb hr c
  | firstElement =>
    dsimp only
    split_ifs
    · exact keeps_leave hb hr
    · exact keeps_startValue hb hr c
  | separator => exact keeps_separate hb hr c
  | firstKey =>
    dsimp only
    split_ifs
    · exact keeps_leave hb hr
    · exact hkey
  | key => exact hkey
  | colon =>
    dsimp only
    split_ifs
    · exact keeps_ok hr
    · exact keeps_error _
  | nothing => exact keeps_error _

theorem keeps_endQuoted (isKey : Bool) (gathered : Option Gathered) :
    Keeps P (r.endQuoted b isKey gathered) := by
  unfold endQuoted
  split
  · split_ifs
    · exact keeps_ok hr
    · exact keeps_endPassed hb hr
  · split
    · exact keeps_error _
    · split_ifs
      · exact (keeps_emit hb hr _).map fun _ => rfl
      · exact keeps_endKept hb hr _

theorem keeps_endNumber (tally : Option Tally) : Keeps P (r.endNumber b tally) := by
  unfold endNumber
  split
  · exact keeps_endPassed hb hr
  · split
    · exact keeps_error _
    · exact keeps_endKept hb hr _

theorem keeps_stepQuoted (isKey : Bool) (escape : Escape) (gathered : Option Gathered) (c : UInt8) :
    Keeps P (r.stepQuoted b isKey escape gathered c) := by
  unfold stepQuoted
  split
  · exact keeps_error _
  · exact keeps_endQuoted hb hr isKey gathered
  · split
    · exact keeps_ok hr
    · split
      · exact keeps_error _
      · exact keeps_ok hr

theorem keeps_stepNumber (part : Part) (tally : Option Tally) (c : UInt8) :
    Keeps P (r.stepNumber b part tally c) := by
  unfold stepNumber
  split
  · exact keeps_error _
  · cases hx : r.endNumber b tally with
    | error f => exact keeps_error f
    | ok r' => exact keeps_stepBetween hb (keeps_endNumber hb hr tally r' hx) _ c
  · split
    · exact keeps_ok hr
    · split
      · exact keeps_error _
      · exact keeps_ok hr

theorem keeps_stepWord (rest : List UInt8) (w : Word) (kept : Bool) (c : UInt8) :
    Keeps P (r.stepWord b rest w kept c) := by
  unfold stepWord
  split
  · exact keeps_error _
  · split_ifs
    · exact keeps_error _
    · exact keeps_ok hr
    · exact keeps_endKept hb hr _
    · exact keeps_endPassed hb hr

/-- **One byte.** -/
theorem keeps_step (c : UInt8) : Keeps P (r.step b c) := by
  unfold step
  split
  · exact keeps_stepBetween hb hr _ c
  · exact keeps_stepQuoted hb hr _ _ _ c
  · exact keeps_stepNumber hb hr _ _ c
  · exact keeps_stepWord hb hr _ _ _ c

end

theorem keeps_run (hb : b.Keeps P) {r : Reader σ} (hr : P r.state) (cs : List UInt8) :
    Keeps P (r.run b cs) := by
  induction cs generalizing r with
  | nil => exact keeps_ok hr
  | cons c cs ih =>
    rw [run_cons]
    exact (keeps_step hb hr c).bind fun r' hr' => ih hr'

theorem state_of_whole {r : Reader σ} {s : σ} (h : r.whole = .ok s) : s = r.state := by
  unfold whole at h
  split at h
  · exact (Except.ok.inj h).symm
  · cases h

theorem finish_keeps (hb : b.Keeps P) {r : Reader σ} (hr : P r.state) {s : σ}
    (h : r.finish b = .ok s) : P s := by
  unfold finish at h
  split at h
  · split_ifs at h
    cases hx : r.endNumber b _ with
    | error f => rw [hx] at h; cases h
    | ok r' =>
      rw [hx] at h
      exact state_of_whole h ▸ keeps_endNumber hb hr _ r' hx
  · exact state_of_whole h ▸ hr

end Reader

/-- **A whole source.** -/
theorem read_keeps (hb : b.Keeps P) {s s' : σ} (hs : P s) {source : Source}
    (h : read b s source = .ok s') : P s' := by
  have hrun := Reader.keeps_run hb (r := Reader.start s) hs source.bytes
  unfold read at h
  split at h
  · cases h
  · rename_i r hr
    split at h
    · exact Reader.finish_keeps hb (hrun r hr) h
    · cases h

end NearestHost.Json
