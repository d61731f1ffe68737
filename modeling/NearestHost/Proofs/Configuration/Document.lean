/-
  Configurations read from JSON values.

  * `Field.read`: what the value of a field gives.
  * `Draft.member`, `Draft.elements`: the members of an object, and the elements of
    an array in their order.
  * `configurationOf`: the configuration that a value gives.
  * `decode_tree`: a text in the lexemes of a value gives that configuration.
-/
import NearestHost.Configuration.Reading
import NearestHost.Proofs.Host.Document

namespace NearestHost.Configuration

open Json (Event Builder Fault Form Scalar Quoted Tree Written maxDepth orData categorized
  feedElements feedMembers)
open Json.Reader (orGrammar)

/-! ## Fields -/

/-- What is given to a field. -/
inductive Given
  | name (n : Dns.Name)
  | ttl (seconds : Nat)
  | generatedAt (t : Instant)
  | hosts (hs : List Host)

def Given.field : Given → Field
  | .name _ => .name
  | .ttl _ => .ttl
  | .generatedAt _ => .generatedAt
  | .hosts _ => .hosts

def Draft.give (d : Draft) : Given → Draft
  | .name n => { d with name := some n }
  | .ttl k => { d with ttl := some k }
  | .generatedAt t => { d with generatedAt := some t }
  | .hosts hs => { d with hosts := some hs }

/-- What a scalar gives to a field. -/
def Field.readScalar : Field → Event → Except Fault Given
  | .name, .text s => (orData (Dns.Name.ofString? s)).map .name
  | .ttl, .number (.natural n) => .ok (.ttl n)
  | .generatedAt, .text s => (orData (Rfc3339.read? s)).map .generatedAt
  | _, _ => .error .data

/-- What the value of a field gives to it.  The hosts are below two open brackets. -/
def Field.read : Field → Tree → Except Fault Given
  | f, .scalar c => do f.readScalar (← orGrammar c.event?)
  | .hosts, .array ts => do return .hosts (← ts.mapM (Host.hostOf 2))
  | _, _ => .error .data

/-! ## Configurations -/

namespace Draft

/-- The draft with a member.  The value of a member of another name is passed over. -/
def member (d : Draft) (m : Quoted × Tree) : Except Fault Draft := do
  match Field.ofKey? (← orGrammar m.1.text?) with
  | none => return d
  | some f => if d.has f then .error .data else do return d.give (← f.read m.2)

/-- The draft with the elements of an array, of which `i` stand in front. -/
def elements (d : Draft) (i : Nat) : List Tree → Except Fault Draft
  | [] => .ok d
  | t :: ts =>
    match Field.ofIndex? i with
    | none => .error .grammar
    | some f => do (d.give (← f.read t)).elements (i + 1) ts

end Draft

/-- The fields that a value gives. -/
def draftOf : Tree → Except Fault Draft
  | .object ms => ms.foldlM Draft.member .empty
  | .array ts => Draft.empty.elements 0 ts
  | .scalar c => do
    let _ ← orGrammar c.event?
    .error .data

/-- The configuration that a value gives, read at the time `now`. -/
def configurationOf (now : Instant) (t : Tree) : Except Fault Configuration := do
  orData ((← draftOf t).configuration? now)

/-! ## What the builder takes in -/

variable {now : Instant} {form : Form} {d : Draft} {hs : List Host}

theorem embeds_host (now : Instant) (form : Form) (d : Draft) (hs : List Host) :
    Host.Embeds (builder now) (.hosts form d hs) (Progress.afterHost form d hs) where
  passes_start := rfl
  passes p := by cases p <;> rfl
  full p := by cases p <;> rfl
  start e he := by
    cases e with
    | closeArray => exact absurd rfl he
    | _ => rfl
  accept p e hp := by
    cases p with
    | done h => exact absurd rfl (hp h)
    | _ => rfl

theorem feedElements_hosts (ts : List Tree) (first : Bool) :
    feedElements (builder now) 2 first (.hosts form d hs) ts =
      (ts.mapM (Host.hostOf 2)).map fun new => .hosts form d (hs ++ new) := by
  induction ts generalizing first hs with
  | nil =>
    change Except.ok (Progress.hosts form d hs) = .ok (.hosts form d (hs ++ []))
    rw [List.append_nil]
  | cons t ts ih =>
    have hfull : (builder now).full (.hosts form d hs) = false := rfl
    rw [feedElements, hfull, Bool.and_false, if_neg Bool.false_ne_true,
      Host.feed_host (embeds_host now form d hs), List.mapM_cons]
    cases Host.hostOf 2 t with
    | error e => rfl
    | ok h =>
      refine (ih false).trans ?_
      rw [Json.ok_bind]
      cases ts.mapM (Host.hostOf 2) with
      | error e => rfl
      | ok new =>
        change Except.ok (Progress.hosts form d (hs ++ [h] ++ new)) =
          .ok (.hosts form d (hs ++ (h :: new)))
        rw [List.append_assoc, List.singleton_append]

theorem put_scalar {f : Field} {c : Scalar} {e : Event} (h : c.event? = some e) :
    orData (Progress.put? form d f e) =
      (f.readScalar e).map fun g => .between form.advance (d.give g) := by
  rcases Json.scalar_event h with ⟨w, rfl⟩ | ⟨x, rfl⟩ | ⟨t, rfl⟩
  · cases f <;> rfl
  · cases x <;> cases f <;> rfl
  · cases f with
    | name =>
      simp only [Progress.put?, Field.readScalar]
      cases Dns.Name.ofString? t <;> rfl
    | generatedAt =>
      simp only [Progress.put?, Field.readScalar]
      cases Rfc3339.read? t <;> rfl
    | ttl => rfl
    | hosts => rfl

/-- The value of a field, in an object or in an array. -/
theorem feed_field (form : Form) {p : Progress} {f : Field} (hp : p.passes = false)
    (hput : ∀ e, e ≠ .closeArray → p.accept? now e = Progress.put? form d f e) (t : Tree) :
    t.feed (builder now) 1 p = (f.read t).map fun g => .between form.advance (d.give g) := by
  have hpasses : (builder now).passes p = false := hp
  have hevent (e : Event) (he : e ≠ .closeArray) :
      (builder now).put p e = orData (Progress.put? form d f e) := congrArg orData (hput e he)
  cases t with
  | scalar c =>
    rw [Tree.feed, hpasses, if_neg Bool.false_ne_true, Field.read]
    cases hc : c.event? with
    | none => rfl
    | some e =>
      have he : e ≠ .closeArray := by
        rcases Json.scalar_event hc with ⟨w, rfl⟩ | ⟨x, rfl⟩ | ⟨t, rfl⟩ <;> exact nofun
      exact (hevent e he).trans (put_scalar hc)
  | array ts =>
    rw [Tree.feed, hpasses, if_neg Bool.false_ne_true, hevent .openArray nofun]
    cases f with
    | hosts =>
      change feedElements (builder now) 2 true (.hosts form d []) ts >>=
        ((builder now).put · .closeArray) = _
      rw [feedElements_hosts, Field.read]
      cases ts.mapM (Host.hostOf 2) <;> rfl
    | name | ttl | generatedAt => rfl
  | object ms =>
    rw [Tree.feed, hpasses, if_neg Bool.false_ne_true, hevent .openObject nofun]
    cases f <;> rfl

theorem feedMembers_between (ms : List (Quoted × Tree)) :
    feedMembers (builder now) 1 (.between .members d) ms =
      (ms.foldlM Draft.member d).map fun d => .between .members d := by
  induction ms generalizing d with
  | nil => rfl
  | cons m ms ih =>
    obtain ⟨q, v⟩ := m
    rw [feedMembers, List.foldlM_cons, Draft.member]
    cases q.text? with
    | none => rfl
    | some k =>
      have hkey : (builder now).put (.between .members d) (.key k) =
        orData (Progress.name? d k) := rfl
      simp only [orGrammar, Json.ok_bind, hkey, Progress.name?]
      cases Field.ofKey? k with
      | none =>
        rw [orData, Json.ok_bind, Json.feed_passed rfl]
        exact ih
      | some f =>
        dsimp only
        split
        · rfl
        · rw [orData, Json.ok_bind, feed_field .members rfl fun _ _ => rfl]
          cases f.read v with
          | error e => rfl
          | ok g => exact ih

theorem feedElements_between (ts : List Tree) (i : Nat) :
    feedElements (builder now) 1 (decide (i = 0)) (.between (.elements i) d) ts =
      (d.elements i ts).map fun d => .between (.elements (i + ts.length)) d := by
  induction ts generalizing d i with
  | nil => rfl
  | cons t ts ih =>
    rw [feedElements, Draft.elements]
    have hfull : (builder now).full (.between (.elements i) d) = (Field.ofIndex? i).isNone := rfl
    rw [hfull]
    cases hi : Field.ofIndex? i with
    | none =>
      have hne : i ≠ 0 := by rintro rfl; cases hi
      simp [hne]
    | some f =>
      have hput (e : Event) (he : e ≠ .closeArray) :
          Progress.accept? now (.between (.elements i) d) e =
            Progress.put? (.elements i) d f e := by
        cases e <;> first | exact absurd rfl he | simp [Progress.accept?, hi]
      rw [Option.isNone_some, Bool.and_false, if_neg Bool.false_ne_true,
        feed_field (.elements i) rfl hput]
      dsimp only
      cases f.read t with
      | error e => rfl
      | ok g =>
        refine (ih (d := d.give g) (i + 1)).trans ?_
        rw [List.length_cons, Nat.add_right_comm, Nat.add_assoc]
        rfl

theorem put_between_close (e : Event) (form : Form) (d : Draft)
    (h : Progress.accept? now (.between form d) e = (d.configuration? now).map .done) :
    (builder now).put (.between form d) e = (orData (d.configuration? now)).map .done := by
  rw [Builder.put, show (builder now).accept? (.between form d) e = _ from h, Json.orData_map]

theorem feed_start (t : Tree) :
    t.feed (builder now) 0 .start = (configurationOf now t).map .done := by
  have hpasses : (builder now).passes .start = false := rfl
  rw [configurationOf]
  cases t with
  | scalar c =>
    rw [Tree.feed, hpasses, if_neg Bool.false_ne_true, draftOf]
    cases hc : c.event? with
    | none => rfl
    | some e => rcases Json.scalar_event hc with ⟨w, rfl⟩ | ⟨x, rfl⟩ | ⟨t, rfl⟩ <;> rfl
  | array ts =>
    change feedElements (builder now) 1 (decide (0 = 0)) (.between (.elements 0) .empty) ts >>=
      ((builder now).put · .closeArray) = _
    rw [feedElements_between, draftOf]
    cases Draft.empty.elements 0 ts with
    | error e => rfl
    | ok d => exact put_between_close .closeArray _ d rfl
  | object ms =>
    change feedMembers (builder now) 1 (.between .members .empty) ms >>=
      ((builder now).put · .closeObject) = _
    rw [feedMembers_between, draftOf]
    cases ms.foldlM Draft.member .empty with
    | error e => rfl
    | ok d => exact put_between_close .closeObject _ d rfl

/-- **A text in the lexemes of a value** gives the configuration that the value gives. -/
theorem decode_tree {t : Tree} {bs : List UInt8} (h : Written t.lexemes bs) (now : Instant) :
    decode now ⟨bs, .complete⟩ = categorized (configurationOf now t) := by
  rw [decode, Json.read_tree _ _ h, feed_start]
  cases configurationOf now t <;> rfl

end NearestHost.Configuration
