/-
  Hosts read from JSON values.

  * `Field.read`: what the value of a member gives.
  * `Draft.member`: one member of a host, with its value.
  * `hostOf`: the host that a value gives, below some open brackets.
  * `Embeds`: a builder that hands on what is inside of it to a host.
  * `feed_host`: such a builder takes a host in as `hostOf` says.
-/
import NearestHost.Host.Reading
import NearestHost.Proofs.Json.Tree

namespace NearestHost.Host

open Json (Event Builder Fault Scalar Quoted Tree maxDepth orData feedElements feedMembers
  elementsFit membersFit)
open Json.Reader (orGrammar)

/-! ## Members -/

/-- What is given to a member. -/
inductive Given
  | name (s : String)
  | address (a : Address)
  | other (key : String) (x : Option Float)

def Given.field : Given → Field
  | .name _ => .name
  | .address _ => .address
  | .other k _ => .other k

def Draft.give (d : Draft) : Given → Draft
  | .name s => { d with name := some s }
  | .address a => { d with address := some a }
  | .other k x => d.addOther k x

def numberOf : Event → Option Float
  | .number n => some n.toFloat
  | _ => none

/-- What a scalar gives to a member. -/
def Field.readScalar : Field → Event → Except Fault Given
  | .name, .text s => .ok (.name s)
  | .address, .text s => (orData (Address.ofString? s)).map .address
  | .other k, e => .ok (.other k (numberOf e))
  | _, _ => .error .data

/-- What a value below `depth` open brackets gives to a member.  One in brackets is read to its
    end, but it is no number. -/
def Field.read (depth : Nat) : Field → Tree → Except Fault Given
  | fld, .scalar c => do fld.readScalar (← orGrammar c.event?)
  | .other k, t => if t.fits depth then .ok (.other k none) else .error .grammar
  | _, _ => .error .data

/-- The draft with a member, below `depth` open brackets. -/
def Draft.member (depth : Nat) (d : Draft) (m : Quoted × Tree) : Except Fault Draft := do
  let fld := Field.ofKey (← orGrammar m.1.text?)
  if d.has fld then .error .data else do return d.give (← fld.read depth m.2)

/-- The host that a value gives, below `depth` open brackets. -/
def hostOf (depth : Nat) : Tree → Except Fault Host
  | .object ms =>
    if depth < maxDepth then do
      orData (← ms.foldlM (Draft.member (depth + 1)) .empty).host?
    else .error .grammar
  | .scalar c => do
    let _ ← orGrammar c.event?
    .error .data
  | .array _ => .error .data

/-! ## Builders around hosts -/

/-- A builder that hands what is inside of it on to a host, from the state `s` on. -/
structure Embeds {σ : Type} (b : Builder σ) (s : σ) (f : Progress → σ) : Prop where
  passes_start : b.passes s = false
  passes : ∀ p, b.passes (f p) = false
  full : ∀ p, b.full (f p) = false
  start : ∀ e, e ≠ .closeArray → b.accept? s e = (Progress.accept? .start e).map f
  accept : ∀ p e, (∀ h, p ≠ .done h) → b.accept? (f p) e = (p.accept? e).map f

theorem embeds_self : Embeds builder .start id where
  passes_start := rfl
  passes _ := rfl
  full _ := rfl
  start e _ := by rw [Option.map_id]; rfl
  accept p e _ := by rw [Option.map_id]; rfl

variable {σ : Type} {b : Builder σ} {s : σ} {f : Progress → σ} {d : Draft} {k : String} {depth : Nat}

theorem Embeds.put_between (h : Embeds b s f) (d : Draft) (e : Event) :
    b.put (f (.between d)) e = (orData (Progress.accept? (.between d) e)).map f := by
  rw [Builder.put, h.accept _ _ (fun _ => Progress.noConfusion), Json.orData_map]

theorem Embeds.put_field (h : Embeds b s f) (d : Draft) (fld : Field) (e : Event) :
    b.put (f (.field d fld)) e = (orData (Progress.put? d fld e)).map f := by
  rw [Builder.put, h.accept _ _ (fun _ => Progress.noConfusion), Json.orData_map]
  rfl

theorem Embeds.put_nested (h : Embeds b s f) (d : Draft) (k : String) (n : Nat) (e : Event) :
    b.put (f (.nested d k n)) e = .ok (f (Progress.inside d k n e)) := by
  rw [Builder.put, h.accept _ _ (fun _ => Progress.noConfusion)]
  rfl

/-! ## Values inside other members -/

theorem inside_scalar {n : Nat} {c : Scalar} {e : Event} (h : c.event? = some e) :
    Progress.inside d k n e = .nested d k n := by
  rcases Json.scalar_event h with ⟨w, rfl⟩ | ⟨x, rfl⟩ | ⟨t, rfl⟩ <;> rfl

theorem put_scalar {fld : Field} {c : Scalar} {e : Event} (h : c.event? = some e) :
    orData (Progress.put? d fld e) = (fld.readScalar e).map fun g => .between (d.give g) := by
  rcases Json.scalar_event h with ⟨w, rfl⟩ | ⟨x, rfl⟩ | ⟨t, rfl⟩
  · cases fld <;> rfl
  · cases fld <;> rfl
  · cases fld with
    | name => rfl
    | address =>
      simp only [Progress.put?, Field.readScalar]
      cases Address.ofString? t <;> rfl
    | other k => rfl

theorem feed_array {p q : σ} {n : Nat} {ts : List Tree} (hp : b.passes p = false)
    (hopen : b.put p .openArray = .ok (f (.nested d k n)))
    (hclose : b.put (f (.nested d k n)) .closeArray = .ok q)
    (hts : depth < maxDepth → feedElements b (depth + 1) true (f (.nested d k n)) ts =
      if elementsFit (depth + 1) ts then .ok (f (.nested d k n)) else .error .grammar) :
    (Tree.array ts).feed b depth p =
      if (Tree.array ts).fits depth then .ok q else .error .grammar := by
  rw [Tree.feed, hp, if_neg Bool.false_ne_true, hopen, Json.ok_bind, Json.fits_array]
  by_cases hlt : depth < maxDepth
  · rw [if_pos hlt, hts hlt]
    split
    · exact hclose
    · rfl
  · rw [if_neg hlt, Json.not_elementsFit hlt]
    rfl

theorem feed_object {p q : σ} {n : Nat} {ms : List (Quoted × Tree)} (hp : b.passes p = false)
    (hopen : b.put p .openObject = .ok (f (.nested d k n)))
    (hclose : b.put (f (.nested d k n)) .closeObject = .ok q)
    (hms : depth < maxDepth → feedMembers b (depth + 1) (f (.nested d k n)) ms =
      if membersFit (depth + 1) ms then .ok (f (.nested d k n)) else .error .grammar) :
    (Tree.object ms).feed b depth p =
      if (Tree.object ms).fits depth then .ok q else .error .grammar := by
  rw [Tree.feed, hp, if_neg Bool.false_ne_true, hopen, Json.ok_bind, Json.fits_object]
  by_cases hlt : depth < maxDepth
  · rw [if_pos hlt, hms hlt]
    split
    · exact hclose
    · rfl
  · rw [if_neg hlt, Json.not_membersFit hlt]
    rfl

section

variable (h : Embeds b s f)
include h

mutual

/-- A value inside another member is read to its end, and nothing of it stays. -/
theorem feed_nested (t : Tree) {depth : Nat} (hd : depth ≤ maxDepth) (n : Nat) :
    t.feed b depth (f (.nested d k n)) =
      if t.fits depth then .ok (f (.nested d k n)) else .error .grammar := by
  match t with
  | .scalar c =>
    rw [Tree.feed, h.passes, if_neg Bool.false_ne_true, Json.fits_scalar hd]
    cases hc : c.event? with
    | none => rfl
    | some e =>
      refine (h.put_nested d k n e).trans ?_
      rw [inside_scalar hc]
      rfl
  | .array ts =>
    exact feed_array (h.passes _) (h.put_nested d k n .openArray)
      (h.put_nested d k (n + 1) .closeArray) fun hlt => feedElements_nested ts hlt
  | .object ms =>
    exact feed_object (h.passes _) (h.put_nested d k n .openObject)
      (h.put_nested d k (n + 1) .closeObject) fun hlt => feedMembers_nested ms hlt

theorem feedElements_nested (ts : List Tree) {depth : Nat} (hd : depth ≤ maxDepth)
    {first : Bool} {n : Nat} :
    feedElements b depth first (f (.nested d k n)) ts =
      if elementsFit depth ts then .ok (f (.nested d k n)) else .error .grammar := by
  match ts with
  | [] => rw [Json.elementsFit_nil hd]; rfl
  | t :: ts =>
    rw [feedElements, h.full, Bool.and_false, if_neg Bool.false_ne_true, feed_nested t hd,
      Json.elementsFit_cons]
    cases t.fits depth with
    | false => rfl
    | true => exact feedElements_nested ts hd

theorem feedMembers_nested (ms : List (Quoted × Tree)) {depth : Nat} (hd : depth ≤ maxDepth)
    {n : Nat} :
    feedMembers b depth (f (.nested d k n)) ms =
      if membersFit depth ms then .ok (f (.nested d k n)) else .error .grammar := by
  match ms with
  | [] => rw [Json.membersFit_nil hd]; rfl
  | (q, v) :: ms =>
    rw [feedMembers, Json.membersFit_cons]
    cases q.text? with
    | none => rfl
    | some name =>
      rw [orGrammar, Json.ok_bind, h.put_nested, Json.ok_bind, Progress.inside, feed_nested v hd]
      · cases v.fits depth with
        | false => rfl
        | true => exact feedMembers_nested ms hd
      all_goals nofun

end

/-! ## Hosts -/

theorem feed_field (fld : Field) (v : Tree) :
    v.feed b depth (f (.field d fld)) =
      (fld.read depth v).map fun g => f (.between (d.give g)) := by
  cases v with
  | scalar c =>
    rw [Tree.feed, h.passes, if_neg Bool.false_ne_true, Field.read]
    cases hc : c.event? with
    | none => rfl
    | some e =>
      refine (h.put_field d fld e).trans ?_
      rw [put_scalar hc, orGrammar, Json.ok_bind]
      cases fld.readScalar e <;> rfl
  | array ts =>
    cases fld with
    | name | address => rw [Tree.feed, h.passes, if_neg Bool.false_ne_true, h.put_field]; rfl
    | other k =>
      refine (feed_array (h.passes _) (h.put_field d (.other k) .openArray)
        (h.put_nested d k 0 .closeArray) fun hlt => feedElements_nested h ts hlt).trans ?_
      rw [Field.read]
      · split <;> rfl
      · exact fun _ => nofun
  | object ms =>
    cases fld with
    | name | address => rw [Tree.feed, h.passes, if_neg Bool.false_ne_true, h.put_field]; rfl
    | other k =>
      refine (feed_object (h.passes _) (h.put_field d (.other k) .openObject)
        (h.put_nested d k 0 .closeObject) fun hlt => feedMembers_nested h ms hlt).trans ?_
      rw [Field.read]
      · split <;> rfl
      · exact fun _ => nofun

theorem feedMembers_between (ms : List (Quoted × Tree)) :
    feedMembers b depth (f (.between d)) ms =
      (ms.foldlM (Draft.member depth) d).map fun d => f (.between d) := by
  induction ms generalizing d with
  | nil => rfl
  | cons m ms ih =>
    obtain ⟨q, v⟩ := m
    rw [feedMembers, List.foldlM_cons, Draft.member]
    cases q.text? with
    | none => rfl
    | some key =>
      have hkey : b.put (f (.between d)) (.key key) =
          if d.has (Field.ofKey key) then .error .data
          else .ok (f (.field d (Field.ofKey key))) := by
        rw [h.put_between]
        simp only [Progress.accept?]
        split <;> rfl
      simp only [orGrammar, Json.ok_bind, hkey]
      split
      · rfl
      · rw [Json.ok_bind, feed_field h]
        cases (Field.ofKey key).read depth v with
        | error e => rfl
        | ok g => exact ih

/-- **A host is taken in** as the value says. -/
theorem feed_host (t : Tree) : t.feed b depth s = (hostOf depth t).map fun x => f (.done x) := by
  have hstart (e : Event) (he : e ≠ .closeArray) :
      b.put s e = (orData (Progress.accept? .start e)).map f := by
    rw [Builder.put, h.start e he, Json.orData_map]
  cases t with
  | scalar c =>
    rw [Tree.feed, h.passes_start, if_neg Bool.false_ne_true, hostOf]
    cases hc : c.event? with
    | none => rfl
    | some e =>
      rcases Json.scalar_event hc with ⟨w, rfl⟩ | ⟨x, rfl⟩ | ⟨t, rfl⟩ <;> exact hstart _ (by simp)
  | array ts =>
    rw [Tree.feed, h.passes_start, if_neg Bool.false_ne_true, hstart .openArray (by simp)]
    rfl
  | object ms =>
    rw [Tree.feed, h.passes_start, if_neg Bool.false_ne_true, hstart .openObject (by simp), hostOf]
    change (if depth < maxDepth then
      feedMembers b (depth + 1) (f (.between .empty)) ms >>= (b.put · .closeObject)
      else .error .grammar) = _
    split
    · rw [feedMembers_between h]
      cases ms.foldlM (Draft.member (depth + 1)) .empty with
      | error e => rfl
      | ok d =>
        rw [Json.ok_map, Json.ok_bind, h.put_between, Json.ok_bind]
        simp only [Progress.accept?]
        cases d.host? <;> rfl
    · rfl

end

end NearestHost.Host
