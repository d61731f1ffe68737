/-
  Texts read lexeme by lexeme.

  A reader between two tokens takes in a lexeme at once, and the bytes of a text
  that is written in lexemes do the same one by one.

  * `Reader.take`, `Reader.takes`: the reader after a lexeme, and after many.
  * `outcome_lexeme`: the bytes of one lexeme.
  * `outcome_written`: all the bytes of a text in which scalars stand apart.
-/
import NearestHost.Proofs.Json.Token
import Mathlib.Tactic.SplitIfs

namespace NearestHost.Json

/-! ## First and last bytes -/

/-- Whether a byte starts a scalar. -/
def startsScalar (c : UInt8) : Bool :=
  c == byteOf '"' || (Word.start? c).isSome || (Part.start? c).isSome

theorem Sign.not_startsScalar (s : Sign) : startsScalar s.byte = false := by cases s <;> rfl

theorem space_cases {c : UInt8} (h : isSpace c = true) :
    c = byteOf ' ' ∨ c = byteOf '\t' ∨ c = byteOf '\n' ∨ c = byteOf '\r' := by
  simpa [isSpace, or_assoc] using h

theorem not_startsScalar_of_space {c : UInt8} (h : isSpace c = true) : startsScalar c = false := by
  rcases space_cases h with rfl | rfl | rfl | rfl <;> rfl

theorem not_space_of_startsScalar {c : UInt8} (h : startsScalar c = true) : isSpace c = false := by
  cases hc : isSpace c with
  | false => rfl
  | true => rw [not_startsScalar_of_space hc] at h; cases h

theorem Sign.ne_of_startsScalar {c : UInt8} (h : startsScalar c = true) (s : Sign) : c ≠ s.byte := by
  rintro rfl
  rw [s.not_startsScalar] at h
  cases h

theorem Word.start_eq_some {c : UInt8} {w : Word} (h : Word.start? c = some w) : c = w.head := by
  unfold Word.start? at h
  split_ifs at h with hn ht hf
  · cases h; exact hn
  · cases h; exact ht
  · cases h; exact hf

theorem Word.start_eq_none {c : UInt8} {p : Part} (h : Part.start? c = some p) :
    Word.start? c = none := by
  cases hw : Word.start? c with
  | none => rfl
  | some w =>
    obtain rfl := Word.start_eq_some hw
    cases w <;> cases h

theorem Part.start_startsScalar {c : UInt8} {p : Part} (h : Part.start? c = some p) :
    startsScalar c = true := by
  simp [startsScalar, h]

theorem Numeral.bytes_cons (n : Numeral) :
    ∃ c cs p q, n.bytes = c :: cs ∧ Part.start? c = some p ∧ p.through cs = some q ∧
      q.isComplete = true := by
  obtain ⟨q, hq, hcomplete⟩ := numeral_iff.1 ⟨n, rfl⟩
  cases hn : n.bytes with
  | nil => rw [hn] at hq; cases hq
  | cons c cs =>
    rw [hn] at hq
    obtain ⟨p, hp, hthrough⟩ := Option.bind_eq_some_iff.1 hq
    exact ⟨c, cs, p, q, rfl, hp, hthrough, hcomplete⟩

theorem Scalar.bytes_cons (s : Scalar) :
    ∃ c cs, s.bytes = c :: cs ∧ startsScalar c = true ∧ (c = byteOf '"' → ∃ q, s = .text q) := by
  cases s with
  | word w =>
    refine ⟨w.head, w.tail, rfl, by cases w <;> rfl, fun h => ?_⟩
    cases w <;> exact absurd h (by decide)
  | number n =>
    obtain ⟨c, cs, p, q, hn, hp, -⟩ := n.bytes_cons
    refine ⟨c, cs, hn, Part.start_startsScalar hp, ?_⟩
    rintro rfl
    cases hp
  | text q => exact ⟨_, _, rfl, rfl, fun _ => ⟨q, rfl⟩⟩

/-- A lexeme stops in front of bytes: only a number could go on. -/
def Lexeme.Stops : Lexeme → List UInt8 → Prop
  | .scalar (.number n), bs => ∀ q, Part.of? n.bytes = some q → q.Stops bs
  | _, _ => True

/-- A number stops at white space and at every sign. -/
theorem Part.next_ended {p : Part} {c : UInt8} (hp : p.isComplete = true)
    (hc : isSpace c = true ∨ ∃ s : Sign, c = s.byte) : p.next c = .ended := by
  rcases hc with hc | ⟨s, rfl⟩
  · rcases space_cases hc with rfl | rfl | rfl | rfl <;> cases p <;> first | rfl | cases hp
  · cases s <;> cases p <;> first | rfl | cases hp

/-! ## Lexemes at once -/

namespace Reader

variable {σ : Type} {b : Builder σ}

/-- The reader after a scalar at the place of a value. -/
def takeValue (b : Builder σ) (r : Reader σ) (c : Scalar) : Except Fault (Reader σ) :=
  if r.passesNext b then r.endPassed b else do r.endKept b (← orGrammar c.event?)

/-- The reader after a text at the place of a name. -/
def takeName (b : Builder σ) (r : Reader σ) (q : Quoted) : Except Fault (Reader σ) :=
  if r.inPassed then .ok (r.expect .colon)
  else do (r.emit b (.key (← orGrammar q.text?))).map (·.expect .colon)

def takeScalar (b : Builder σ) (r : Reader σ) : Expecting → Scalar → Except Fault (Reader σ)
  | .value, c | .firstElement, c => r.takeValue b c
  | .key, .text q | .firstKey, .text q => r.takeName b q
  | _, _ => .error .grammar

def take (b : Builder σ) (r : Reader σ) (e : Expecting) : Lexeme → Except Fault (Reader σ)
  | .sign s => r.stepBetween b e s.byte
  | .scalar c => r.takeScalar b e c

/-- The reader after lexemes. -/
def takes (b : Builder σ) (r : Reader σ) : List Lexeme → Except Fault (Reader σ)
  | [] => .ok r
  | l :: ls => do (← r.take b r.expecting l).takes b ls

variable {r r' : Reader σ} {e : Expecting} {c : UInt8} {bs cs : List UInt8}

theorem endQuoted_value (r : Reader σ) (q : Quoted) :
    (orGrammar (onKept? (·.through q) (keeping (r.passesNext b) .empty)) >>= fun g =>
      (r.quoting false .none g).endQuoted b false g) = r.takeValue b (.text q) := by
  unfold takeValue keeping
  split
  · exact endPassed_token r _
  · simp only [onKept?, Scalar.event?, Quoted.text?]
    cases Gathered.empty.through q with
    | none => rfl
    | some g =>
      simp only [Option.map_some, Option.bind_some, orGrammar, ok_bind, endQuoted]
      cases g.text? with
      | none => rfl
      | some s => exact endKept_token r _ _

theorem endQuoted_name (r : Reader σ) (q : Quoted) :
    (orGrammar (onKept? (·.through q) (keeping r.inPassed .empty)) >>= fun g =>
      (r.quoting true .none g).endQuoted b true g) = r.takeName b q := by
  unfold takeName keeping
  split
  · rfl
  · simp only [onKept?, Quoted.text?]
    cases Gathered.empty.through q with
    | none => rfl
    | some g =>
      simp only [Option.map_some, Option.bind_some, orGrammar, ok_bind, endQuoted]
      cases g.text? with
      | none => rfl
      | some s =>
        simp only [quoting, emit, ok_bind]
        cases b.accept? r.state (.key s) <;> rfl

/-! ## Scalars -/

theorem stepBetween_misplaced (hc : startsScalar c = true) (hvalue : e ≠ .value)
    (hfirst : e ≠ .firstElement) (hkey : c = byteOf '"' → e ≠ .key ∧ e ≠ .firstKey) :
    r.stepBetween b e c = .error .grammar := by
  have hspace := not_space_of_startsScalar hc
  have hsign := Sign.ne_of_startsScalar hc
  have hstart (h : e = .key ∨ e = .firstKey) : r.startKey c = .error .grammar := by
    unfold startKey
    rw [if_neg]
    intro hq
    exact h.elim (hkey hq).1 (hkey hq).2
  unfold stepBetween
  rw [hspace]
  cases e with
  | value => exact absurd rfl hvalue
  | firstElement => exact absurd rfl hfirst
  | separator =>
    dsimp only [Bool.false_eq_true, if_false]
    unfold separate
    cases r.levels with
    | nil => rfl
    | cons l ls =>
      have hclosing : c ≠ l.bracket.closing := by
        cases l.bracket with
        | array => exact hsign .closeArray
        | object => exact hsign .closeObject
      have hcomma : c ≠ byteOf ',' := hsign .comma
      simp [hclosing, hcomma]
  | firstKey =>
    have hclose : c ≠ byteOf '\x7d' := hsign .closeObject
    simpa [hclose] using hstart (Or.inr rfl)
  | key => exact hstart (Or.inl rfl)
  | colon =>
    have hcolon : c ≠ byteOf ':' := hsign .colon
    simp [hcolon]
  | nothing => rfl

theorem stepBetween_value (hc : startsScalar c = true) (he : e = .value ∨ e = .firstElement) :
    r.stepBetween b e c = r.startValue b c := by
  have hspace := not_space_of_startsScalar hc
  have hclose : c ≠ byteOf ']' := Sign.ne_of_startsScalar hc .closeArray
  unfold stepBetween
  rcases he with rfl | rfl <;> simp [hspace, hclose]

theorem endNumber_value {n : Numeral} {p : Part} (hn : n.bytes = c :: cs)
    (hp : Part.start? c = some p) :
    (orGrammar (onKept? (·.through p cs) (keeping (r.passesNext b) (Tally.first p c))) >>=
      r.endNumber b) = r.takeValue b (.number n) := by
  unfold takeValue keeping
  split
  · rfl
  · have hnumber : n.number? = ((Tally.first p c).through p cs).bind (·.number?) := by
      rw [Numeral.number?, hn]
      simp [hp]
    simp only [onKept?, Scalar.event?, hnumber]
    cases (Tally.first p c).through p cs with
    | none => rfl
    | some t =>
      simp only [Option.map_some, Option.bind_some, orGrammar, ok_bind, endNumber]
      cases t.number? <;> rfl

theorem outcome_value (hr : r.IsBetween) (s : Scalar)
    (he : r.expecting = .value ∨ r.expecting = .firstElement) (hstop : (Lexeme.scalar s).Stops bs) :
    r.outcome b (s.bytes ++ bs) = categorized (r.takeValue b s) >>= (·.outcome b bs) := by
  cases s with
  | word w =>
    have hstart : r.step b w.head =
        .ok { r with token := .word w.tail w (!r.passesNext b) } := by
      rw [hr.step_eq, stepBetween_value (by cases w <;> rfl) he]
      cases w <;> rfl
    have htail : w.tail ≠ [] := by cases w <;> exact nofun
    rw [Scalar.bytes, List.cons_append, outcome_cons, hstart, categorized_ok, ok_bind,
      outcome_word htail]
    unfold takeValue
    cases r.passesNext b <;> rfl
  | number n =>
    obtain ⟨c, cs, p, q, hn, hp, hq, hcomplete⟩ := n.bytes_cons
    have hsign := Sign.ne_of_startsScalar (Part.start_startsScalar hp)
    have hword : Word.start? c = none := Word.start_eq_none hp
    have hquote : c ≠ byteOf '"' := by rintro rfl; cases hp
    have hopenArray : c ≠ byteOf '[' := hsign .openArray
    have hopenObject : c ≠ byteOf '\x7b' := hsign .openObject
    have hstart : r.step b c =
        .ok { r with token := .number p (keeping (r.passesNext b) (Tally.first p c)) } := by
      rw [hr.step_eq, stepBetween_value (Part.start_startsScalar hp) he]
      simp [startValue, hquote, hopenArray, hopenObject, hword, hp]
    have hstops : q.Stops bs := hstop q (by rw [hn, Part.of?, hp]; exact hq)
    rw [Scalar.bytes, hn, List.cons_append, outcome_cons, hstart, categorized_ok, ok_bind,
      outcome_number hq hcomplete hstops, endNumber_value hn hp]
  | text q =>
    have hstart : r.step b (byteOf '"') =
        .ok (r.quoting false .none (keeping (r.passesNext b) .empty)) := by
      rw [hr.step_eq, stepBetween_value rfl he]
      rfl
    have hbytes : q.bytes ++ bs = byteOf '"' :: (q.inner ++ byteOf '"' :: bs) := by
      simp [Quoted.bytes]
    rw [Scalar.bytes, hbytes, outcome_cons, hstart, categorized_ok, ok_bind, outcome_quoted,
      endQuoted_value]

theorem outcome_name (hr : r.IsBetween) (q : Quoted)
    (he : r.expecting = .key ∨ r.expecting = .firstKey) :
    r.outcome b (q.bytes ++ bs) = categorized (r.takeName b q) >>= (·.outcome b bs) := by
  have hstart : r.step b (byteOf '"') =
      .ok (r.quoting true .none (keeping r.inPassed .empty)) := by
    rw [hr.step_eq]
    rcases he with he | he <;> rw [he] <;> rfl
  have hbytes : q.bytes ++ bs = byteOf '"' :: (q.inner ++ byteOf '"' :: bs) := by
    simp [Quoted.bytes]
  rw [hbytes, outcome_cons, hstart, categorized_ok, ok_bind, outcome_quoted, endQuoted_name]

theorem outcome_misplaced (hr : r.IsBetween) (s : Scalar) (hvalue : r.expecting ≠ .value)
    (hfirst : r.expecting ≠ .firstElement)
    (hkey : (∃ q, s = .text q) → r.expecting ≠ .key ∧ r.expecting ≠ .firstKey) :
    r.outcome b (s.bytes ++ bs) = .error .grammar := by
  obtain ⟨c, cs, hs, hc, hquote⟩ := s.bytes_cons
  rw [hs, List.cons_append, outcome_cons, hr.step_eq,
    stepBetween_misplaced hc hvalue hfirst fun hq => hkey (hquote hq)]
  rfl

/-! ## Lexemes -/

/-- **The bytes of one lexeme** do what it does at once. -/
theorem outcome_lexeme (hr : r.IsBetween) (l : Lexeme) (hstop : l.Stops bs) :
    r.outcome b (l.bytes ++ bs) =
      categorized (r.take b r.expecting l) >>= (·.outcome b bs) := by
  cases l with
  | sign s => rw [Lexeme.bytes, List.singleton_append, outcome_cons, hr.step_eq, take]
  | scalar s =>
    rw [Lexeme.bytes, take]
    -- A text fits where a name is expected, and any scalar where a value is.
    cases he : r.expecting with
    | value => exact outcome_value hr s (Or.inl he) hstop
    | firstElement => exact outcome_value hr s (Or.inr he) hstop
    | key =>
      cases s with
      | text q => exact outcome_name hr q (Or.inl he)
      | word _ | number _ => exact outcome_misplaced hr _ (by simp [he]) (by simp [he]) (by simp)
    | firstKey =>
      cases s with
      | text q => exact outcome_name hr q (Or.inr he)
      | word _ | number _ => exact outcome_misplaced hr _ (by simp [he]) (by simp [he]) (by simp)
    | separator | colon | nothing =>
      exact outcome_misplaced hr s (by simp [he]) (by simp [he]) (by simp [he])

theorem isBetween_endKept {ev : Event} (h : r.endKept b ev = .ok r') : r'.IsBetween := by
  obtain ⟨s, rfl⟩ := endKept_ok h
  exact isBetween_afterValue _

theorem isBetween_endPassed (h : r.endPassed b = .ok r') : r'.IsBetween := by
  obtain ⟨s, rfl⟩ := endPassed_ok h
  exact isBetween_afterValue _

theorem isBetween_enter {k : Bracket} (h : r.enter b k = .ok r') : r'.IsBetween := by
  unfold enter at h
  dsimp only at h
  split_ifs at h with hp
  · cases h; cases k <;> rfl
  · generalize r.emit b _ = x at h
    cases x with
    | error f => cases h
    | ok r'' =>
      dsimp only at h
      split_ifs at h
      cases h; cases k <;> rfl

theorem isBetween_leave (h : r.leave b = .ok r') : r'.IsBetween := by
  unfold leave at h
  split at h
  · cases h
  · dsimp only at h
    split_ifs at h
    · exact isBetween_endPassed h
    · exact isBetween_endKept h

theorem isBetween_separate (h : r.separate b c = .ok r') : r'.IsBetween := by
  unfold separate at h
  split at h
  · cases h
  · split_ifs at h
    · unfold next at h
      split at h
      · cases h; rfl
      · split_ifs at h; cases h; rfl
    · exact isBetween_leave h

theorem stepBetween_sign (e : Expecting) (s : Sign) : r.stepBetween b e s.byte =
    match e, s with
    | .value, .openArray | .firstElement, .openArray => r.enter b .array
    | .value, .openObject | .firstElement, .openObject => r.enter b .object
    | .firstElement, .closeArray | .firstKey, .closeObject => r.leave b
    | .separator, s => r.separate b s.byte
    | .colon, .colon => .ok (r.expect .value)
    | _, _ => .error .grammar := by
  cases e <;> cases s <;> rfl

theorem isBetween_stepBetween {s : Sign} (h : r.stepBetween b e s.byte = .ok r') :
    r'.IsBetween := by
  rw [stepBetween_sign] at h
  split at h
  · exact isBetween_enter h
  · exact isBetween_enter h
  · exact isBetween_enter h
  · exact isBetween_enter h
  · exact isBetween_leave h
  · exact isBetween_leave h
  · exact isBetween_separate h
  · cases h; rfl
  · cases h

theorem isBetween_takeScalar {s : Scalar} (h : r.takeScalar b e s = .ok r') : r'.IsBetween := by
  have hvalue (h : r.takeValue b s = .ok r') : r'.IsBetween := by
    unfold takeValue at h
    split at h
    · exact isBetween_endPassed h
    · obtain ⟨ev, -, hev⟩ := bind_eq_ok.1 h
      exact isBetween_endKept hev
  have hname (q : Quoted) (h : r.takeName b q = .ok r') : r'.IsBetween := by
    unfold takeName at h
    split at h
    · cases h; rfl
    · obtain ⟨k, -, hk⟩ := bind_eq_ok.1 h
      obtain ⟨r'', -, rfl⟩ := map_eq_ok.1 hk
      rfl
  unfold takeScalar at h
  split at h
  · exact hvalue h
  · exact hvalue h
  · exact hname _ h
  · exact hname _ h
  · cases h

/-- After a lexeme the reader is between two tokens again. -/
theorem isBetween_take {l : Lexeme} (h : r.take b e l = .ok r') : r'.IsBetween := by
  cases l with
  | sign s => exact isBetween_stepBetween h
  | scalar s => exact isBetween_takeScalar h

end Reader

/-! ## Texts in lexemes -/

/-- No scalar stands right behind another one. -/
def Apart : List Lexeme → Prop
  | [] => True
  | .sign _ :: ls => Apart ls
  | .scalar _ :: ls => (∀ l ∈ ls.head?, ∃ s, l = .sign s) ∧ Apart ls

theorem Apart.tail {l : Lexeme} {ls : List Lexeme} (h : Apart (l :: ls)) : Apart ls := by
  cases l with
  | sign s => exact h
  | scalar s => exact h.2

/-- Where scalars stand apart, each of them stops. -/
theorem Apart.stops {l : Lexeme} {ls : List Lexeme} {bs : List UInt8} (h : Apart (l :: ls))
    (hw : Written ls bs) : l.Stops bs := by
  unfold Lexeme.Stops
  split
  · rename_i n
    intro q hq c hc
    obtain ⟨q', hq', hcomplete⟩ := numeral_iff.1 ⟨n, rfl⟩
    obtain rfl : q' = q := Option.some.inj (hq'.symm.trans hq)
    refine Part.next_ended hcomplete ?_
    cases hw with
    | nil blank => exact Or.inl (blank c (List.mem_of_mem_head? hc))
    | @cons l ls ws bs blank rest =>
      cases ws with
      | nil =>
        obtain ⟨s, rfl⟩ := h.1 l rfl
        exact Or.inr ⟨s, (Option.some.inj hc).symm⟩
      | cons w ws =>
        obtain rfl := Option.some.inj hc
        exact Or.inl (blank w List.mem_cons_self)
  · trivial

namespace Reader

/-- **The bytes of a text in lexemes** do what the lexemes do one by one. -/
theorem outcome_written {ls : List Lexeme} {bs : List UInt8} (hw : Written ls bs) (hls : Apart ls)
    {r : Reader σ} (hr : r.IsBetween) :
    r.outcome b bs = categorized (r.takes b ls) >>= whole := by
  induction hw generalizing r with
  | @nil ws blank =>
    have h : r.outcome b (ws ++ []) = r.outcome b [] := hr.outcome_blank blank
    rw [List.append_nil] at h
    rw [h, outcome_nil, hr.finish_eq]
    rfl
  | @cons l ls ws bs blank rest ih =>
    rw [hr.outcome_blank blank, outcome_lexeme hr l (hls.stops rest), takes, categorized_bind,
      bind_assoc]
    cases h : r.take b r.expecting l with
    | error f => rfl
    | ok r' => exact ih hls.tail (isBetween_take h)

end Reader

end NearestHost.Json
