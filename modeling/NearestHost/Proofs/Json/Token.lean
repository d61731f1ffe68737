/-
  The bytes of single tokens.

  Bytes are told by what they lead to: the builder's state at the end of the
  text, from a reader on.

  * `Reader.outcome`: this state.
  * `outcome_blank`: white space leads nowhere.
  * `outcome_quoted`, `outcome_word`, `outcome_number`: the rest of a text, a word
    and a number.
-/
import NearestHost.Proofs.Json.Fault
import NearestHost.Proofs.Json.Numeral

namespace NearestHost.Json

variable {σ : Type} {b : Builder σ}

/-- A number that ends a part stops in front of bytes. -/
def Part.Stops (p : Part) (bs : List UInt8) : Prop := ∀ c ∈ bs.head?, p.next c = .ended

namespace Reader

/-- What the reader expects, if it stands between two tokens. -/
def expecting (r : Reader σ) : Expecting :=
  match r.token with
  | .between e => e
  | _ => .nothing

/-- A reader between two tokens. -/
def IsBetween (r : Reader σ) : Prop := r.token = .between r.expecting

/-- The builder's state at the end of a text, from a reader on. -/
def outcome (b : Builder σ) (r : Reader σ) (bs : List UInt8) : Except Category σ := do
  (← categorized (r.run b bs)).finish b

end Reader

theorem read_complete (b : Builder σ) (s : σ) (bs : List UInt8) :
    read b s ⟨bs, .complete⟩ = (Reader.start s).outcome b bs := by
  rw [read, Reader.outcome]
  cases (Reader.start s).run b bs <;> rfl

namespace Reader

variable {r r' : Reader σ} {e : Expecting} {c : UInt8} {bs cs : List UInt8}

theorem outcome_nil (b : Builder σ) (r : Reader σ) : r.outcome b [] = r.finish b := rfl

theorem outcome_cons (b : Builder σ) (r : Reader σ) (c : UInt8) (bs : List UInt8) :
    r.outcome b (c :: bs) = categorized (r.step b c) >>= (·.outcome b bs) := by
  rw [outcome, run_cons]
  cases r.step b c <;> rfl

/-! ## Between two tokens -/

theorem isBetween_afterValue (r : Reader σ) : r.afterValue.IsBetween := rfl

theorem IsBetween.expect_eq (h : r.IsBetween) : r.expect r.expecting = r := by
  rw [expect, ← h]

theorem IsBetween.step_eq (h : r.IsBetween) (c : UInt8) :
    r.step b c = r.stepBetween b r.expecting c := by
  rw [step, h]

theorem IsBetween.finish_eq (h : r.IsBetween) : r.finish b = r.whole := by
  rw [finish, h]

theorem endKept_ok {e : Event} (h : r.endKept b e = .ok r') :
    ∃ s, r' = { r with state := s }.afterValue := by
  obtain ⟨a, ha, rfl⟩ := map_eq_ok.1 h
  unfold emit at ha
  split at ha
  · cases ha; exact ⟨_, rfl⟩
  · cases ha

theorem endPassed_ok (h : r.endPassed b = .ok r') : ∃ s, r' = { r with state := s }.afterValue := by
  unfold endPassed at h
  split at h
  · cases h; exact ⟨r.state, rfl⟩
  · exact endKept_ok h

theorem endKept_token (r : Reader σ) (t : Token) (e : Event) :
    { r with token := t }.endKept b e = r.endKept b e := by
  unfold endKept emit
  dsimp only
  cases b.accept? r.state e <;> rfl

theorem endPassed_token (r : Reader σ) (t : Token) :
    { r with token := t }.endPassed b = r.endPassed b := by
  unfold endPassed
  rw [endKept_token]
  rfl

/-! ## White space -/

theorem IsBetween.outcome_blank (h : r.IsBetween) {ws : List UInt8} (hws : Blank ws) :
    r.outcome b (ws ++ bs) = r.outcome b bs := by
  induction ws with
  | nil => rfl
  | cons w ws ih =>
    obtain ⟨hw, hws⟩ := List.forall_mem_cons.1 hws
    have hstep : r.step b w = .ok r := by
      rw [h.step_eq]
      unfold stepBetween
      rw [if_pos hw, h.expect_eq]
    rw [List.cons_append, outcome_cons, hstep]
    exact ih hws

/-! ## What is gathered -/

/-- A step on what is gathered, where anything is. -/
def onKept? {α : Type} (f : α → Option α) : Option α → Option (Option α)
  | none => some none
  | some a => (f a).map some

theorem onKept?_some {α : Type} (x : Option α) : onKept? some x = some x := by
  cases x <;> rfl

theorem onKept?_bind {α : Type} (f g : α → Option α) (x : Option α) :
    onKept? (fun a => (f a).bind g) x = (onKept? f x).bind (onKept? g) := by
  cases x with
  | none => rfl
  | some a => cases h : f a <;> simp [onKept?, h]

theorem orGrammar_bind {α β : Type} (x : Option α) (f : α → Option β) :
    orGrammar (x.bind f) = orGrammar x >>= fun a => orGrammar (f a) := by
  cases x <;> rfl

/-! ## Texts -/

/-- The reader inside a text. -/
def quoting (r : Reader σ) (isKey : Bool) (escape : Escape) (g : Option Gathered) : Reader σ :=
  { r with token := .quoted isKey escape g }

variable {isKey : Bool} {escape escape' : Escape} {g : Option Gathered}

theorem step_quoting {p : Piece} (h : escape.step? c = some (escape', p)) (hp : p ≠ .close) :
    (r.quoting isKey escape g).step b c =
      (orGrammar (onKept? (·.add? p) g)).map (r.quoting isKey escape') := by
  change stepQuoted b _ isKey escape g c = _
  unfold stepQuoted
  rw [h]
  cases p with
  | close => exact absurd rfl hp
  | nothing => cases g <;> rfl
  | byte _ | unit _ =>
    cases g with
    | none => rfl
    | some g => dsimp only [onKept?]; cases g.add? _ <;> rfl

theorem outcome_nothing (h : escape.step? c = some (escape', .nothing)) :
    (r.quoting isKey escape g).outcome b (c :: bs) =
      (r.quoting isKey escape' g).outcome b bs := by
  rw [outcome_cons, step_quoting h nofun]
  cases g <;> rfl

theorem outcome_piece {p : Piece} (h : escape.step? c = some (.none, p)) (hp : p ≠ .close) :
    (r.quoting isKey escape g).outcome b (c :: bs) =
      categorized (orGrammar (onKept? (·.add? p) g)) >>= fun g =>
        (r.quoting isKey .none g).outcome b bs := by
  rw [outcome_cons, step_quoting h hp]
  cases onKept? (·.add? p) g <;> rfl

theorem outcome_fragment (f : Fragment) :
    (r.quoting isKey .none g).outcome b (f.bytes ++ bs) =
      categorized (orGrammar (onKept? (·.add? f.piece) g)) >>= fun g =>
        (r.quoting isKey .none g).outcome b bs := by
  cases f with
  | byte c plain =>
    obtain ⟨hquote, hslash, hcontrol⟩ := plain
    exact outcome_piece (by simp [Escape.step?, hquote, hslash, hcontrol, Fragment.piece]) nofun
  | escape letter c ok =>
    have hu : letter ≠ byteOf 'u' := by rintro rfl; cases ok
    refine (outcome_nothing rfl).trans (outcome_piece ?_ nofun)
    simp [Escape.step?, hu, ok, Fragment.piece]
  | unit x y z w u ok =>
    simp only [codeUnit?, Option.bind_eq_bind, Option.bind_eq_some_iff] at ok
    obtain ⟨x', hx, y', hy, z', hz, w', hw, hu⟩ := ok
    have hvalue := Option.some.inj hu
    refine (outcome_nothing rfl).trans <| (outcome_nothing rfl).trans <| (outcome_nothing rfl).trans
      <| (outcome_nothing rfl).trans <| (outcome_nothing rfl).trans <| outcome_piece ?_ nofun
    simp [Escape.step?, hx, hy, hz, hw, Fragment.piece, ← hvalue]

theorem outcome_inner (q : Quoted) :
    (r.quoting isKey .none g).outcome b (q.inner ++ bs) =
      categorized (orGrammar (onKept? (·.through q) g)) >>= fun g =>
        (r.quoting isKey .none g).outcome b bs := by
  induction q generalizing g with
  | nil => simp only [Gathered.through, onKept?_some]; rfl
  | cons f q ih =>
    have happend : Quoted.inner (f :: q) ++ bs = f.bytes ++ (Quoted.inner q ++ bs) := by
      simp [Quoted.inner]
    simp only [happend, outcome_fragment, ih, Gathered.through, onKept?_bind, orGrammar_bind,
      categorized_bind, bind_assoc]

theorem outcome_quoted (q : Quoted) :
    (r.quoting isKey .none g).outcome b (q.inner ++ byteOf '"' :: bs) =
      categorized (orGrammar (onKept? (·.through q) g) >>= fun g =>
        (r.quoting isKey .none g).endQuoted b isKey g) >>= (·.outcome b bs) := by
  rw [outcome_inner, categorized_bind, bind_assoc]
  congr 1
  funext g
  rw [outcome_cons]
  rfl

/-! ## Words -/

theorem outcome_word {w : Word} {kept : Bool} {rest : List UInt8} (hne : rest ≠ []) :
    { r with token := .word rest w kept }.outcome b (rest ++ bs) =
      categorized (if kept then r.endKept b (.word w) else r.endPassed b) >>=
        (·.outcome b bs) := by
  induction rest with
  | nil => exact absurd rfl hne
  | cons d rest ih =>
    rw [List.cons_append, outcome_cons]
    change categorized (stepWord b _ (d :: rest) w kept d) >>= _ = _
    unfold stepWord
    by_cases hrest : rest = []
    · subst hrest
      rw [endKept_token, endPassed_token]
      simp
    · simp only [ne_eq, not_true_eq_false, if_false, hrest, not_false_eq_true, if_true]
      exact ih hrest

/-! ## Numbers -/

theorem endNumber_token (r : Reader σ) (t : Token) (x : Option Tally) :
    { r with token := t }.endNumber b x = r.endNumber b x := by
  unfold endNumber
  cases x with
  | none => exact endPassed_token r t
  | some x =>
    dsimp only
    cases x.number? with
    | none => rfl
    | some n => exact endKept_token r t _

theorem endNumber_ok {x : Option Tally} (h : r.endNumber b x = .ok r') :
    ∃ s, r' = { r with state := s }.afterValue := by
  unfold endNumber at h
  cases x with
  | none => exact endPassed_ok h
  | some x =>
    dsimp only at h
    cases hn : x.number? with
    | none => rw [hn] at h; cases h
    | some n => rw [hn] at h; exact endKept_ok h

/-- A number ends at the end of the text, or with the byte that follows it. -/
theorem outcome_ended {p : Part} {x : Option Tally} (hp : p.isComplete = true)
    (hbs : p.Stops bs) :
    { r with token := .number p x }.outcome b bs =
      categorized (r.endNumber b x) >>= (·.outcome b bs) := by
  cases bs with
  | nil =>
    rw [outcome_nil]
    unfold finish
    dsimp only
    rw [if_pos hp, endNumber_token]
    cases h : r.endNumber b x with
    | error f => rfl
    | ok r' =>
      obtain ⟨s, rfl⟩ := endNumber_ok h
      exact ((isBetween_afterValue _).finish_eq (b := b)).symm
  | cons c cs =>
    have hnext : p.next c = .ended := hbs c rfl
    rw [outcome_cons]
    change categorized (stepNumber b _ p x c) >>= _ = _
    unfold stepNumber
    rw [hnext, endNumber_token]
    cases h : r.endNumber b x with
    | error f => rfl
    | ok r' =>
      obtain ⟨s, rfl⟩ := endNumber_ok h
      rw [categorized_ok, ok_bind, outcome_cons, (isBetween_afterValue _).step_eq]
      rfl

/-- The end of a number, once all its bytes are there. -/
theorem outcome_number {p q : Part} {x : Option Tally} {ds : List UInt8}
    (hds : p.through ds = some q) (hq : q.isComplete = true) (hbs : q.Stops bs) :
    { r with token := .number p x }.outcome b (ds ++ bs) =
      categorized (orGrammar (onKept? (·.through p ds) x) >>= r.endNumber b) >>=
        (·.outcome b bs) := by
  induction ds generalizing p x with
  | nil =>
    obtain rfl := Option.some.inj hds
    simp only [Tally.through, onKept?_some]
    exact outcome_ended hq hbs
  | cons d ds ih =>
    rw [List.cons_append, outcome_cons]
    change categorized (stepNumber b _ p x d) >>= _ = _
    unfold stepNumber
    cases hp : p.next d with
    | ended => simp [Part.through, hp] at hds
    | refused => simp [Part.through, hp] at hds
    | part p' =>
      rw [Part.through, hp] at hds
      cases x with
      | none => exact ih hds
      | some t =>
        simp only [onKept?, Tally.through, hp]
        cases t.add? p' d with
        | none => rfl
        | some t' => exact ih hds

end Reader

end NearestHost.Json
