/-
  What JSON texts say.

  * `Datum`: what a text says, with the members of its objects in their order.
  * `collector`: the builder that refuses nothing and gathers what is said.
  * `decode`: what a source says.
  * `Tree.datum?`: what a value says, provided that all of its scalars do.
  * `feed_collector`: the collector gathers what a value says.
  * `decode_written`: so a text in the lexemes of a value is decoded to what the
    value says.
-/
import NearestHost.Proofs.Json.Tree

namespace NearestHost.Json

/-- What a JSON text says. -/
inductive Datum
  | word (w : Word)
  | number (n : Number)
  | text (s : String)
  | array (elements : List Datum)
  | object (members : List (String × Datum))

/-! ## Decoding -/

/-- The parts of an open array or object so far, the last one first. -/
inductive Frame
  | elements (before : List Datum)
  | members (before : List (String × Datum)) (name : Option String)

/-- Something said inside the innermost bracket. -/
def put? : List Frame → Datum → Option (List Frame)
  | .elements ds :: fs, d => some (.elements (d :: ds) :: fs)
  | .members ms (some k) :: fs, d => some (.members ((k, d) :: ms) none :: fs)
  | _, _ => none

/-- The open brackets after an event. -/
def collect? (fs : List Frame) (e : Event) : Option (List Frame) :=
  match e, fs with
  | .word w, fs => put? fs (.word w)
  | .number n, fs => put? fs (.number n)
  | .text s, fs => put? fs (.text s)
  | .key k, .members ms none :: fs => some (.members ms (some k) :: fs)
  | .openArray, fs => some (.elements [] :: fs)
  | .closeArray, .elements ds :: fs => put? fs (.array ds.reverse)
  | .openObject, fs => some (.members [] none :: fs)
  | .closeObject, .members ms none :: fs => put? fs (.object ms.reverse)
  | _, _ => none

/-- Gathers everything that is said.  Outside of all brackets stands the frame of the whole. -/
def collector : Builder (List Frame) := ⟨fun _ => false, fun _ => false, collect?⟩

/-- The one thing that is said outside of all brackets. -/
def said? : List Frame → Option Datum
  | [.elements [d]] => some d
  | _ => none

/-- What a source says. -/
def decode (source : Source) : Except Category Datum := do
  match said? (← read collector [.elements []] source) with
  | some d => .ok d
  | none => .error .unfinished

/-! ## What values say -/

/-- What a scalar says, unless it has no value. -/
def Scalar.datum? : Scalar → Option Datum
  | .word w => some (.word w)
  | .number n => n.number?.map .number
  | .text q => q.text?.map .text

mutual

/-- What a value says, unless one of its scalars has no value. -/
def Tree.datum? : Tree → Option Datum
  | .scalar c => c.datum?
  | .array ts => (elementData? ts).map .array
  | .object ms => (memberData? ms).map .object

def elementData? : List Tree → Option (List Datum)
  | [] => some []
  | t :: ts => do return (← t.datum?) :: (← elementData? ts)

def memberData? : List (Quoted × Tree) → Option (List (String × Datum))
  | [] => some []
  | (k, v) :: ms => do return (← k.text?, ← v.datum?) :: (← memberData? ms)

end

theorem event_of_datum {c : Scalar} {d : Datum} (h : c.datum? = some d) :
    ∃ e, c.event? = some e ∧ ∀ fs, collect? fs e = put? fs d := by
  cases c with
  | word w =>
    obtain rfl := Option.some.inj h
    exact ⟨.word w, rfl, fun _ => rfl⟩
  | number n =>
    obtain ⟨x, hx, rfl⟩ := Option.map_eq_some_iff.1 h
    exact ⟨.number x, by rw [Scalar.event?, hx]; rfl, fun _ => rfl⟩
  | text q =>
    obtain ⟨s, hs, rfl⟩ := Option.map_eq_some_iff.1 h
    exact ⟨.text s, by rw [Scalar.event?, hs]; rfl, fun _ => rfl⟩

theorem put_ok {fs fs' : List Frame} {e : Event} (h : collect? fs e = some fs') :
    collector.put fs e = .ok fs' := congrArg orData h

theorem not_passes (fs : List Frame) : ¬ collector.passes fs = true := Bool.noConfusion

mutual

/-- **The collector gathers what a value says.** -/
theorem feed_collector (t : Tree) {d : Datum} (hd : t.datum? = some d) {depth : Nat}
    (hdepth : depth + t.height ≤ maxDepth) (fs : List Frame) :
    t.feed collector depth fs = orData (put? fs d) := by
  match t with
  | .scalar c =>
    obtain ⟨e, he, hcollect⟩ := event_of_datum hd
    rw [Tree.feed, if_neg (not_passes fs), he, ← hcollect fs]
    rfl
  | .array ts =>
    obtain ⟨data, hdata, rfl⟩ := Option.map_eq_some_iff.1 hd
    rw [Tree.height] at hdepth
    rw [Tree.feed, if_neg (not_passes fs), put_ok rfl, ok_bind, if_pos (by omega),
      feed_elements true ts hdata (by omega), ok_bind, List.append_nil]
    change orData (put? fs (.array data.reverse.reverse)) = _
    rw [List.reverse_reverse]
  | .object ms =>
    obtain ⟨data, hdata, rfl⟩ := Option.map_eq_some_iff.1 hd
    rw [Tree.height] at hdepth
    rw [Tree.feed, if_neg (not_passes fs), put_ok rfl, ok_bind, if_pos (by omega),
      feed_members ms hdata (by omega), ok_bind, List.append_nil]
    change orData (put? fs (.object data.reverse.reverse)) = _
    rw [List.reverse_reverse]

theorem feed_elements (first : Bool) (ts : List Tree) {data : List Datum}
    (hdata : elementData? ts = some data) {depth : Nat}
    (hdepth : depth + elementHeight ts ≤ maxDepth) {ds : List Datum} {fs : List Frame} :
    feedElements collector depth first (.elements ds :: fs) ts =
      .ok (.elements (data.reverse ++ ds) :: fs) := by
  match ts with
  | [] =>
    obtain rfl := Option.some.inj hdata
    rfl
  | t :: ts =>
    obtain ⟨d, hd, htail⟩ := Option.bind_eq_some_iff.1 hdata
    obtain ⟨data, hrest, hcons⟩ := Option.bind_eq_some_iff.1 htail
    obtain rfl := Option.some.inj hcons
    rw [elementHeight, add_max_le] at hdepth
    have hfull : ¬ (!first && collector.full (.elements ds :: fs)) = true := by
      rw [Bool.and_comm]
      exact Bool.noConfusion
    rw [feedElements, if_neg hfull, feed_collector t hd hdepth.1]
    -- the first element joins those before it, and the rest go on from there
    change feedElements collector depth false (.elements (d :: ds) :: fs) ts = _
    rw [feed_elements false ts hrest hdepth.2, List.reverse_cons, List.append_assoc]
    rfl

theorem feed_members (ms : List (Quoted × Tree)) {data : List (String × Datum)}
    (hdata : memberData? ms = some data) {depth : Nat}
    (hdepth : depth + memberHeight ms ≤ maxDepth) {ds : List (String × Datum)} {fs : List Frame} :
    feedMembers collector depth (.members ds none :: fs) ms =
      .ok (.members (data.reverse ++ ds) none :: fs) := by
  match ms with
  | [] =>
    obtain rfl := Option.some.inj hdata
    rfl
  | (k, v) :: ms =>
    obtain ⟨name, hname, htail⟩ := Option.bind_eq_some_iff.1 hdata
    obtain ⟨d, hd, htail⟩ := Option.bind_eq_some_iff.1 htail
    obtain ⟨data, hrest, hcons⟩ := Option.bind_eq_some_iff.1 htail
    obtain rfl := Option.some.inj hcons
    rw [memberHeight, add_max_le] at hdepth
    rw [feedMembers, hname]
    have hkey : collector.put (.members ds none :: fs) (.key name) =
        .ok (.members ds (some name) :: fs) := put_ok rfl
    simp only [Reader.orGrammar, ok_bind, hkey, feed_collector v hd hdepth.1]
    change feedMembers collector depth (.members ((name, d) :: ds) none :: fs) ms = _
    rw [feed_members ms hrest hdepth.2, List.reverse_cons, List.append_assoc]
    rfl

end

/-- **A text in the lexemes of a value** is decoded to what the value says. -/
theorem decode_written {t : Tree} {d : Datum} (hd : t.datum? = some d)
    (hheight : t.height ≤ maxDepth) {bs : List UInt8} (h : Written t.lexemes bs) :
    decode ⟨bs, .complete⟩ = .ok d := by
  have hread : read collector [.elements []] ⟨bs, .complete⟩ = .ok [.elements [d]] := by
    rw [read_tree collector _ h, feed_collector t hd (by omega)]
    rfl
  rw [decode, hread]
  rfl

end NearestHost.Json
