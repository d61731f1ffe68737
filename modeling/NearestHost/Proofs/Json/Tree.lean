/-
  Values taken in by a builder.

  * `Tree.feed`: the state of a builder after a value, below some open brackets.
  * `takes_tree`: the lexemes of a value lead there.
  * `read_tree`: so a text that is written in the lexemes of a value is read as
    that value, whatever white space it has.
-/
import NearestHost.Proofs.Json.Lexeme

namespace NearestHost.Json

open Reader (orGrammar)

variable {σ : Type}

/-- The state of a builder after an event. -/
def Builder.put (b : Builder σ) (s : σ) (e : Event) : Except Fault σ := orData (b.accept? s e)

mutual

/-- The state of a builder after a value below `depth` open brackets. -/
def Tree.feed (b : Builder σ) (depth : Nat) (s : σ) : Tree → Except Fault σ
  | .scalar c => if b.passes s then b.put s .passed else do b.put s (← orGrammar c.event?)
  | .array ts =>
    if b.passes s then b.put s .passed
    else do
      let s ← b.put s .openArray
      if depth < maxDepth then
        b.put (← feedElements b (depth + 1) true s ts) .closeArray
      else
        .error .grammar
  | .object ms =>
    if b.passes s then b.put s .passed
    else do
      let s ← b.put s .openObject
      if depth < maxDepth then
        b.put (← feedMembers b (depth + 1) s ms) .closeObject
      else
        .error .grammar

def feedElements (b : Builder σ) (depth : Nat) (first : Bool) (s : σ) :
    List Tree → Except Fault σ
  | [] => .ok s
  | t :: ts =>
    if !first && b.full s then .error .grammar
    else do feedElements b depth false (← t.feed b depth s) ts

def feedMembers (b : Builder σ) (depth : Nat) (s : σ) : List (Quoted × Tree) → Except Fault σ
  | [] => .ok s
  | (k, v) :: ms => do
    let s ← b.put s (.key (← orGrammar k.text?))
    feedMembers b depth (← v.feed b depth s) ms

end

theorem feed_passed {b : Builder σ} {s : σ} (h : b.passes s = true) (depth : Nat) (t : Tree) :
    t.feed b depth s = b.put s .passed := by
  cases t <;> rw [Tree.feed, if_pos h]

theorem scalar_event {c : Scalar} {e : Event} (h : c.event? = some e) :
    (∃ w, e = .word w) ∨ (∃ n, e = .number n) ∨ ∃ s, e = .text s := by
  cases c with
  | word w => cases h; exact Or.inl ⟨w, rfl⟩
  | number n =>
    obtain ⟨x, -, rfl⟩ := Option.map_eq_some_iff.1 h
    exact Or.inr (Or.inl ⟨x, rfl⟩)
  | text q =>
    obtain ⟨x, -, rfl⟩ := Option.map_eq_some_iff.1 h
    exact Or.inr (Or.inr ⟨x, rfl⟩)

/-! ## Values that are read to their end -/

/-- Whether a value below `depth` open brackets can be read to its end: all of its scalars have a
    value, and not too many brackets are open at once. -/
def Tree.fits (depth : Nat) (t : Tree) : Bool :=
  t.readable Numeral.reads && decide (depth + t.height ≤ maxDepth)

def elementsFit (depth : Nat) (ts : List Tree) : Bool :=
  elementsReadable Numeral.reads ts && decide (depth + elementHeight ts ≤ maxDepth)

def membersFit (depth : Nat) (ms : List (Quoted × Tree)) : Bool :=
  membersReadable Numeral.reads ms && decide (depth + memberHeight ms ≤ maxDepth)

variable {depth : Nat}

theorem Scalar.readable_reads (c : Scalar) : c.readable Numeral.reads = c.event?.isSome := by
  cases c <;> simp [Scalar.readable, Scalar.event?, Numeral.reads]

theorem fits_scalar (h : depth ≤ maxDepth) (c : Scalar) :
    (Tree.scalar c).fits depth = c.event?.isSome := by
  simp [Tree.fits, Tree.readable, Tree.height, Scalar.readable_reads, h]

theorem fits_array (ts : List Tree) : (Tree.array ts).fits depth = elementsFit (depth + 1) ts := by
  rw [Tree.fits, elementsFit, Tree.readable, Tree.height, Nat.add_right_comm, Nat.add_assoc]

theorem fits_object (ms : List (Quoted × Tree)) :
    (Tree.object ms).fits depth = membersFit (depth + 1) ms := by
  rw [Tree.fits, membersFit, Tree.readable, Tree.height, Nat.add_right_comm, Nat.add_assoc]

theorem add_max_le {d a b m : Nat} : d + max a b ≤ m ↔ d + a ≤ m ∧ d + b ≤ m := by omega

theorem elementsFit_nil (h : depth ≤ maxDepth) : elementsFit depth [] = true := by
  simp [elementsFit, elementsReadable, elementHeight, h]

theorem elementsFit_cons (t : Tree) (ts : List Tree) :
    elementsFit depth (t :: ts) = (t.fits depth && elementsFit depth ts) := by
  rw [Bool.eq_iff_iff]
  simp only [elementsFit, elementsReadable, elementHeight, Tree.fits, Bool.and_eq_true,
    decide_eq_true_eq, add_max_le]
  rw [and_and_and_comm]

theorem not_elementsFit (h : ¬ depth < maxDepth) (ts : List Tree) :
    elementsFit (depth + 1) ts = false := by
  simp only [elementsFit, Bool.and_eq_false_iff, decide_eq_false_iff_not]
  omega

theorem not_membersFit (h : ¬ depth < maxDepth) (ms : List (Quoted × Tree)) :
    membersFit (depth + 1) ms = false := by
  simp only [membersFit, Bool.and_eq_false_iff, decide_eq_false_iff_not]
  omega

theorem membersFit_nil (h : depth ≤ maxDepth) : membersFit depth [] = true := by
  simp [membersFit, membersReadable, memberHeight, h]

theorem membersFit_cons (k : Quoted) (v : Tree) (ms : List (Quoted × Tree)) :
    membersFit depth ((k, v) :: ms) = (k.text?.isSome && v.fits depth && membersFit depth ms) := by
  rw [Bool.eq_iff_iff]
  simp only [membersFit, membersReadable, memberHeight, Tree.fits, Bool.and_eq_true,
    decide_eq_true_eq, add_max_le]
  rw [and_and_and_comm, and_assoc (c := depth + v.height ≤ maxDepth)]

/-! ## Scalars stand apart -/

@[simp] theorem apart_sign {s : Sign} {ls : List Lexeme} : Apart (.sign s :: ls) ↔ Apart ls :=
  Iff.rfl

theorem array_lexemes (ts : List Tree) (ls : List Lexeme) : (Tree.array ts).lexemes ++ ls =
    .sign .openArray :: (elementLexemes true ts ++ .sign .closeArray :: ls) := by
  simp [Tree.lexemes]

theorem object_lexemes (ms : List (Quoted × Tree)) (ls : List Lexeme) :
    (Tree.object ms).lexemes ++ ls =
      .sign .openObject :: (memberLexemes true ms ++ .sign .closeObject :: ls) := by
  simp [Tree.lexemes]

/-- Lexemes that do not start with a scalar. -/
def Signed (ls : List Lexeme) : Prop := ∀ l ∈ ls.head?, ∃ s, l = .sign s

theorem signed_cons (s : Sign) (ls : List Lexeme) : Signed (.sign s :: ls) := by
  rintro l hl
  exact ⟨s, (Option.some.inj hl).symm⟩

theorem Signed.separated {ls : List Lexeme} (ts : List Tree) (h : Signed ls) :
    Signed (elementLexemes false ts ++ ls) := by
  cases ts with
  | nil => exact h
  | cons t ts => rw [elementLexemes]; exact signed_cons _ _

mutual

theorem apart_tree (t : Tree) {ls : List Lexeme} (hs : Signed ls) (h : Apart ls) :
    Apart (t.lexemes ++ ls) :=
  match t with
  | .scalar c => ⟨hs, h⟩
  | .array ts => by
    have hrest := apart_elements true ts (signed_cons .closeArray ls) h
    simpa [Tree.lexemes] using hrest
  | .object ms => by
    have hrest := apart_members true ms (signed_cons .closeObject ls) h
    simpa [Tree.lexemes] using hrest

theorem apart_elements (first : Bool) (ts : List Tree) {ls : List Lexeme} (hs : Signed ls)
    (h : Apart ls) : Apart (elementLexemes first ts ++ ls) :=
  match ts with
  | [] => h
  | t :: ts => by
    have hrest := apart_tree t (hs.separated ts) (apart_elements false ts hs h)
    cases first <;> simpa [elementLexemes, separator] using hrest

theorem apart_members (first : Bool) (ms : List (Quoted × Tree)) {ls : List Lexeme}
    (hs : Signed ls) (h : Apart ls) : Apart (memberLexemes first ms ++ ls) :=
  match ms with
  | [] => h
  | (k, v) :: ms => by
    have hsigned : Signed (memberLexemes false ms ++ ls) := by
      cases ms with
      | nil => exact hs
      | cons m ms => exact signed_cons _ _
    have hrest := apart_tree v hsigned (apart_members false ms hs h)
    have hname : Apart (.scalar (.text k) :: .sign .colon ::
        (v.lexemes ++ (memberLexemes false ms ++ ls))) := ⟨signed_cons _ _, hrest⟩
    cases first <;> simpa [memberLexemes, separator] using hname

end

/-! ## Lexemes below open brackets -/

def Bracket.opener : Bracket → Sign
  | .array => .openArray
  | .object => .openObject

def Bracket.closer : Bracket → Sign
  | .array => .closeArray
  | .object => .closeObject

def Bracket.openEvent : Bracket → Event
  | .array => .openArray
  | .object => .openObject

def Bracket.closeEvent : Bracket → Event
  | .array => .closeArray
  | .object => .closeObject

/-- What is expected in front of a part of an array or object, its separator left aside. -/
def Bracket.part : Bracket → Bool → Expecting
  | .array, true => .firstElement
  | .array, false => .value
  | .object, true => .firstKey
  | .object, false => .key

/-- What is expected after a bracket, or after one of its parts. -/
def Bracket.inside (k : Bracket) (first : Bool) : Expecting :=
  if first then k.part true else .separator

/-- Where a value is expected. -/
def Expecting.TakesValue (e : Expecting) : Prop := e = .value ∨ e = .firstElement

theorem takesValue_part (first : Bool) : (Bracket.array.part first).TakesValue := by
  cases first
  · exact Or.inl rfl
  · exact Or.inr rfl

namespace Reader

variable {b : Builder σ} {ls : List Lexeme} {levels : List Level} {e : Expecting} {s : σ}

/-- A reader below open brackets, between two tokens. -/
def below (levels : List Level) (e : Expecting) (s : σ) : Reader σ := ⟨levels, .between e, s⟩

/-- A reader below open brackets, after a value. -/
def past (levels : List Level) (s : σ) : Reader σ :=
  below levels (if levels.isEmpty then .nothing else .separator) s

/-- Whether the innermost bracket is passed over. -/
def passed (levels : List Level) : Bool := levels.head?.any Level.passed

theorem takes_scalar (he : e.TakesValue) (c : Scalar) :
    (below levels e s).takes b (.scalar c :: ls) =
      (below levels e s).takeValue b c >>= (·.takes b ls) := by
  rcases he with rfl | rfl <;> rfl

theorem takes_opener (he : e.TakesValue) (k : Bracket) :
    (below levels e s).takes b (.sign k.opener :: ls) =
      (below levels e s).enter b k >>= (·.takes b ls) := by
  rcases he with rfl | rfl <;> cases k <;> rfl

theorem endKept_below (t : Token) (e : Event) :
    endKept b ⟨levels, t, s⟩ e = b.put s e >>= fun s => .ok (past levels s) := by
  unfold endKept emit Builder.put
  dsimp only
  cases b.accept? s e <;> rfl

theorem endPassed_outside (h : passed levels = false) (t : Token) :
    endPassed b ⟨levels, t, s⟩ = b.put s .passed >>= fun s => .ok (past levels s) := by
  unfold endPassed
  rw [if_neg (by simpa [inPassed, passed] using h), endKept_below]

theorem endPassed_inside (h : passed levels = true) (t : Token) :
    endPassed b ⟨levels, t, s⟩ = .ok (past levels s) := by
  unfold endPassed
  rw [if_pos (by simpa [inPassed, passed] using h)]
  rfl

theorem enter_passed (t : Token) (k : Bracket) (h : passesNext b ⟨levels, t, s⟩ = true) :
    enter b ⟨levels, t, s⟩ k = .ok (below (⟨k, true⟩ :: levels) (k.inside true) s) := by
  unfold enter
  rw [h]
  cases k <;> rfl

theorem enter_kept (t : Token) (k : Bracket) (h : passesNext b ⟨levels, t, s⟩ = false) :
    enter b ⟨levels, t, s⟩ k = b.put s k.openEvent >>= fun s =>
      if levels.length < maxDepth then .ok (below (⟨k, false⟩ :: levels) (k.inside true) s)
      else .error .grammar := by
  unfold enter emit Builder.put
  rw [h]
  cases k with
  | array =>
    dsimp only [Bracket.openEvent]
    cases b.accept? s .openArray <;> rfl
  | object =>
    dsimp only [Bracket.openEvent]
    cases b.accept? s .openObject <;> rfl

theorem takes_closer (k : Bracket) (first keeps : Bool) :
    (below (⟨k, !keeps⟩ :: levels) (k.inside first) s).takes b (.sign k.closer :: ls) =
      (if keeps then b.put s k.closeEvent >>= fun s => .ok (past levels s)
        else (past levels s).endPassed b) >>= (·.takes b ls) := by
  have htake : (below (⟨k, !keeps⟩ :: levels) (k.inside first) s).takes b (.sign k.closer :: ls) =
      (below (⟨k, !keeps⟩ :: levels) (k.inside first) s).leave b >>= (·.takes b ls) := by
    cases k <;> cases first <;> rfl
  rw [htake]
  congr 1
  cases keeps with
  | true => cases k <;> exact endKept_below _ _
  | false => cases k <;> exact endPassed_token (past levels s) _

theorem takes_array_separator (first keeps : Bool) :
    (below (⟨.array, !keeps⟩ :: levels) (Bracket.array.inside first) s).takes b
        (separator first ++ ls) =
      if !first && keeps && b.full s then .error .grammar
      else (below (⟨.array, !keeps⟩ :: levels) (Bracket.array.part first) s).takes b ls := by
  cases first with
  | true => rfl
  | false =>
    change (if !(!keeps) && b.full s then Except.error Fault.grammar else .ok _) >>= _ = _
    rw [Bool.not_not, Bool.not_false, Bool.true_and]
    split <;> rfl

theorem takes_object_separator (first keeps : Bool) :
    (below (⟨.object, !keeps⟩ :: levels) (Bracket.object.inside first) s).takes b
        (separator first ++ ls) =
      (below (⟨.object, !keeps⟩ :: levels) (Bracket.object.part first) s).takes b ls := by
  cases first <;> rfl

theorem takeName_below (e : Expecting) (k : Quoted) :
    (below levels e s).takeName b k =
      if passed levels then .ok (below levels .colon s)
      else orGrammar k.text? >>= fun k => b.put s (.key k) >>= fun s =>
        .ok (below levels .colon s) := by
  change (if passed levels = true then _ else _) = _
  by_cases h : passed levels = true
  · rw [if_pos h, if_pos h]
    rfl
  · rw [if_neg h, if_neg h]
    cases k.text? with
    | none => rfl
    | some k =>
      simp only [orGrammar, ok_bind, emit, Builder.put, below]
      cases b.accept? s (.key k) <;> rfl

theorem takes_name (first : Bool) (k : Quoted) :
    (below levels (Bracket.object.part first) s).takes b (.scalar (.text k) :: .sign .colon :: ls) =
      if passed levels then (below levels .value s).takes b ls
      else orGrammar k.text? >>= fun k => b.put s (.key k) >>= fun s =>
        (below levels .value s).takes b ls := by
  have htake : (below levels (Bracket.object.part first) s).takes b
      (.scalar (.text k) :: .sign .colon :: ls) =
        (below levels (Bracket.object.part first) s).takeName b k >>=
          (·.takes b (.sign .colon :: ls)) := by
    cases first <;> rfl
  rw [htake, takeName_below]
  split
  · rfl
  · simp only [bind_assoc, ok_bind]
    rfl

/-! ## Values -/

theorem passesNext_below (e : Expecting) :
    (below levels e s).passesNext b = (passed levels || b.passes s) := rfl

mutual

/-- Inside what is passed over, a value leads nowhere. -/
theorem takes_passed (t : Tree) {levels : List Level} {e : Expecting}
    (h : passed levels = true) (he : e.TakesValue) (ls : List Lexeme) :
    (below levels e s).takes b (t.lexemes ++ ls) = (past levels s).takes b ls := by
  have hnext : (below levels e s).passesNext b = true := by rw [passesNext_below, h, Bool.true_or]
  have hend (t : Token) : endPassed b ⟨levels, t, s⟩ = .ok (past levels s) := endPassed_inside h t
  match t with
  | .scalar c =>
    rw [Tree.lexemes, List.singleton_append, takes_scalar he, takeValue, if_pos hnext, below, hend]
    rfl
  | .array ts =>
    rw [array_lexemes]
    refine (takes_opener he .array).trans ?_
    rw [below, enter_passed _ _ hnext, ok_bind]
    refine (takes_passed_elements true ts ls).trans ?_
    rw [past, below, hend, ok_bind]
    rfl
  | .object ms =>
    rw [object_lexemes]
    refine (takes_opener he .object).trans ?_
    rw [below, enter_passed _ _ hnext, ok_bind]
    refine (takes_passed_members true ms ls).trans ?_
    rw [past, below, hend, ok_bind]
    rfl

theorem takes_passed_elements (first : Bool) (ts : List Tree) {levels : List Level}
    (ls : List Lexeme) :
    (below (⟨.array, true⟩ :: levels) (Bracket.array.inside first) s).takes b
        (elementLexemes first ts ++ .sign .closeArray :: ls) =
      (past levels s).endPassed b >>= (·.takes b ls) := by
  match ts with
  | [] => exact takes_closer .array first false
  | t :: ts =>
    rw [elementLexemes, List.append_assoc, List.append_assoc]
    refine (takes_array_separator first false).trans ?_
    rw [Bool.and_false, Bool.false_and, if_neg Bool.false_ne_true]
    refine (takes_passed t rfl (takesValue_part first) _).trans ?_
    exact takes_passed_elements false ts ls

theorem takes_passed_members (first : Bool) (ms : List (Quoted × Tree)) {levels : List Level}
    (ls : List Lexeme) :
    (below (⟨.object, true⟩ :: levels) (Bracket.object.inside first) s).takes b
        (memberLexemes first ms ++ .sign .closeObject :: ls) =
      (past levels s).endPassed b >>= (·.takes b ls) := by
  match ms with
  | [] => exact takes_closer .object first false
  | (k, v) :: ms =>
    rw [memberLexemes, List.append_assoc, List.cons_append, List.cons_append, List.append_assoc]
    refine (takes_object_separator first false).trans ((takes_name first k).trans ?_)
    refine (if_pos rfl).trans ?_
    refine (takes_passed v rfl (Or.inl rfl) _).trans ?_
    exact takes_passed_members false ms ls

end

mutual

/-- **The lexemes of a value** lead to the state after it. -/
theorem takes_tree (t : Tree) {levels : List Level} {e : Expecting} (h : passed levels = false)
    (he : e.TakesValue) (s : σ) (ls : List Lexeme) :
    (below levels e s).takes b (t.lexemes ++ ls) =
      t.feed b levels.length s >>= fun s => (past levels s).takes b ls := by
  have hnext : (below levels e s).passesNext b = b.passes s := by
    rw [passesNext_below, h, Bool.false_or]
  have hend (t : Token) :
      endPassed b ⟨levels, t, s⟩ = b.put s .passed >>= fun s => .ok (past levels s) :=
    endPassed_outside h t
  match t with
  | .scalar c =>
    rw [Tree.lexemes, List.singleton_append, takes_scalar he, takeValue, Tree.feed, hnext]
    split
    · rw [below, hend, bind_assoc]
      rfl
    · simp only [below, endKept_below, bind_assoc, ok_bind]
  | .array ts =>
    rw [array_lexemes, Tree.feed]
    refine (takes_opener he .array).trans ?_
    -- What the builder passes over reaches it as one event, when its last bracket is closed.
    by_cases hp : b.passes s = true
    · rw [if_pos hp, below, enter_passed _ _ (hnext.trans hp), ok_bind]
      refine (takes_passed_elements true ts ls).trans ?_
      rw [past, below, hend, bind_assoc]
      rfl
    · rw [if_neg hp, below, enter_kept _ _ (hnext.trans (Bool.eq_false_iff.2 hp)), bind_assoc,
        bind_assoc]
      congr 1
      funext s
      split
      · exact takes_elements true ts s ls
      · rfl
  | .object ms =>
    rw [object_lexemes, Tree.feed]
    refine (takes_opener he .object).trans ?_
    by_cases hp : b.passes s = true
    · rw [if_pos hp, below, enter_passed _ _ (hnext.trans hp), ok_bind]
      refine (takes_passed_members true ms ls).trans ?_
      rw [past, below, hend, bind_assoc]
      rfl
    · rw [if_neg hp, below, enter_kept _ _ (hnext.trans (Bool.eq_false_iff.2 hp)), bind_assoc,
        bind_assoc]
      congr 1
      funext s
      split
      · exact takes_members true ms s ls
      · rfl

theorem takes_elements (first : Bool) (ts : List Tree) {levels : List Level} (s : σ)
    (ls : List Lexeme) :
    (below (⟨.array, false⟩ :: levels) (Bracket.array.inside first) s).takes b
        (elementLexemes first ts ++ .sign .closeArray :: ls) =
      (feedElements b (levels.length + 1) first s ts >>= fun s => b.put s .closeArray) >>= fun s =>
        (past levels s).takes b ls := by
  match ts with
  | [] =>
    refine (takes_closer .array first true).trans ?_
    rw [if_pos rfl, bind_assoc, feedElements]
    rfl
  | t :: ts =>
    rw [elementLexemes, List.append_assoc, List.append_assoc, feedElements]
    refine (takes_array_separator first true).trans ?_
    rw [Bool.and_true]
    split
    · rfl
    · refine (takes_tree t rfl (takesValue_part first) s _).trans ?_
      rw [bind_assoc, bind_assoc]
      congr 1
      funext s
      exact (takes_elements false ts s ls).trans (bind_assoc ..)

theorem takes_members (first : Bool) (ms : List (Quoted × Tree)) {levels : List Level} (s : σ)
    (ls : List Lexeme) :
    (below (⟨.object, false⟩ :: levels) (Bracket.object.inside first) s).takes b
        (memberLexemes first ms ++ .sign .closeObject :: ls) =
      (feedMembers b (levels.length + 1) s ms >>= fun s => b.put s .closeObject) >>= fun s =>
        (past levels s).takes b ls := by
  match ms with
  | [] =>
    refine (takes_closer .object first true).trans ?_
    rw [if_pos rfl, bind_assoc, feedMembers]
    rfl
  | (k, v) :: ms =>
    rw [memberLexemes, List.append_assoc, List.cons_append, List.cons_append, List.append_assoc,
      feedMembers]
    refine (takes_object_separator first true).trans ((takes_name first k).trans ?_)
    refine (if_neg Bool.false_ne_true).trans ?_
    simp only [bind_assoc]
    congr 1
    funext k
    congr 1
    funext s
    refine (takes_tree v rfl (Or.inl rfl) s _).trans ?_
    congr 1
    funext s
    exact (takes_members false ms s ls).trans (bind_assoc ..)

end

end Reader

/-- **A text in the lexemes of a value** is read as that value, whatever white space it has. -/
theorem read_tree (b : Builder σ) (s : σ) {t : Tree} {bs : List UInt8}
    (h : Written t.lexemes bs) :
    read b s ⟨bs, .complete⟩ = categorized (t.feed b 0 s) := by
  have hapart : Apart t.lexemes := by
    have happend : Apart (t.lexemes ++ []) := apart_tree t nofun trivial
    rwa [List.append_nil] at happend
  have htakes : (Reader.start s).takes b t.lexemes =
      t.feed b 0 s >>= fun s => .ok (Reader.past [] s) := by
    have happend : (Reader.below [] .value s).takes b (t.lexemes ++ []) =
        t.feed b 0 s >>= fun s => (Reader.past [] s).takes b [] :=
      Reader.takes_tree t rfl (Or.inl rfl) s []
    rwa [List.append_nil] at happend
  have hstart : (Reader.start s).IsBetween := rfl
  rw [read_complete, Reader.outcome_written h hapart hstart, htakes, categorized_bind, bind_assoc]
  cases t.feed b 0 s <;> rfl

end NearestHost.Json
