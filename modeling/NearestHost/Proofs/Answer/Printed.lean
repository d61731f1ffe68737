/-
  The printed answer carries the answer.

  * `datum`: what the JSON of an answer says, record by record.
  * `ofDatum?`: the answer that is said so.
  * `Carries`: a text that is JSON, and is decoded to what an answer says.
  * `carries_render`: the text of an answer is, in any layout of white space.
  * `text_carries`: so both layouts carry an answer, no two answers share a text,
    and the layouts differ in their white space only.
-/
import NearestHost.Answer
import NearestHost.Proofs.Address.Text
import NearestHost.Proofs.Json.Bare
import Mathlib.Logic.Function.Basic

namespace NearestHost.Answer

open Json (Datum Denotes Layout Source Tree Written decode withoutBlanks)

/-! ## What an answer says -/

/-- What the JSON of a record says: its kind, and its text or the text of its address. -/
def Record.datum : Record → Datum
  | .address x => .array [.text "A", .text x.toString]
  | .text s => .array [.text "TXT", .text s]
  | .fail => .array [.text "fail"]

/-- What the JSON of an answer says: one array for each record, in their order. -/
def datum (a : Answer) : Datum := .array (a.map Record.datum)

/-- The record that is said by an array. -/
def Record.ofDatum? : Datum → Option Record
  | .array [.text kind, .text s] =>
    if kind = "A" then (Address.ofString? s).map .address
    else if kind = "TXT" then some (.text s)
    else none
  | .array [.text kind] => if kind = "fail" then some .fail else none
  | _ => none

/-- The answer that is said by an array of arrays. -/
def ofDatum? : Datum → Option Answer
  | .array ds => ds.mapM Record.ofDatum?
  | _ => none

theorem Record.ofDatum?_datum (r : Record) : ofDatum? r.datum = some r := by
  cases r with
  | address x =>
    change (Address.ofString? x.toString).map Record.address = _
    rw [Address.ofString?_toString]
    rfl
  | text s => rfl
  | fail => rfl

/-- What an answer says is said by no other. -/
theorem ofDatum?_datum (a : Answer) : ofDatum? a.datum = some a := by
  change (a.map Record.datum).mapM Record.ofDatum? = some a
  induction a with
  | nil => rfl
  | cons r a ih => rw [List.map_cons, List.mapM_cons, Record.ofDatum?_datum, ih]; rfl

/-! ## The texts of an answer -/

/-- A text that is the JSON of what an answer says, and is decoded to it. -/
structure Carries (text : String) (a : Answer) : Prop where
  json : ∃ t : Tree, Written t.lexemes (Source.ofString text).bytes ∧ t.datum? = some a.datum
  decoded : decode (.ofString text) = .ok a.datum

variable {l : Layout} {a b : Answer} {text : String}

theorem denotes_record (hl : l.IsBlank) (depth : Nat) (r : Record) :
    Denotes 1 (r.toValue.render l depth) r.datum := by
  cases r with
  | address x =>
    exact Json.denotes_bracketed hl
      (.cons (Json.denotes_quoted "A") (.cons (Json.denotes_quoted x.toString) .nil))
  | text s =>
    exact Json.denotes_bracketed hl
      (.cons (Json.denotes_quoted "TXT") (.cons (Json.denotes_quoted s) .nil))
  | fail =>
    exact Json.denotes_bracketed hl (.cons (Json.denotes_quoted "fail") .nil)

theorem denotes_records (hl : l.IsBlank) (depth : Nat) (a : Answer) : List.Forall₂ (Denotes 1)
    (Json.renderElements l depth (a.map Record.toValue)) (a.map Record.datum) := by
  induction a with
  | nil => exact .nil
  | cons r a ih => exact .cons (denotes_record hl depth r) ih

/-- **The text of an answer carries it**, in any layout of white space. -/
theorem carries_render (hl : l.IsBlank) (a : Answer) :
    Carries (String.ofList (a.toValue.render l 0)) a := by
  have hdenotes : Denotes 2 (a.toValue.render l 0) a.datum :=
    Json.denotes_bracketed hl (denotes_records hl 1 a)
  refine ⟨?_, hdenotes.decode_eq (by decide)⟩
  obtain ⟨t, hwritten, hdatum, -⟩ := hdenotes
  rw [Json.source_ofList]
  exact ⟨t, hwritten, hdatum⟩

theorem carries_compact (a : Answer) : Carries a.toValue.compact a :=
  carries_render Json.isBlank_compact a

theorem carries_pretty (a : Answer) : Carries a.toValue.pretty a :=
  carries_render Json.isBlank_pretty a

/-- A text carries one answer. -/
theorem Carries.unique (ha : Carries text a) (hb : Carries text b) : a = b := by
  have hdatum : a.datum = b.datum := Except.ok.inj (ha.decoded.symm.trans hb.decoded)
  have hanswer : some a = some b := by rw [← ofDatum?_datum a, hdatum, ofDatum?_datum]
  exact Option.some.inj hanswer

theorem injective_of_carries {f : Answer → String} (h : ∀ a, Carries (f a) a) :
    Function.Injective f := fun a b hab => (h a).unique (hab ▸ h b)

/-- **The printed JSON carries the answer**: both layouts are JSON that is decoded to the records in
    their order, and without the white space outside quotes they are the same text.  An address is
    read from its text, and answers that differ have different texts in each layout. -/
theorem text_carries :
    (∀ a : Answer, Carries a.toValue.compact a ∧ Carries a.toValue.pretty a ∧
      withoutBlanks a.toValue.pretty = a.toValue.compact) ∧
    (∀ x : Address, Address.ofString? x.toString = some x) ∧
    Function.Injective (fun a : Answer => a.toValue.compact) ∧
    Function.Injective (fun a : Answer => a.toValue.pretty) := by
  refine ⟨fun a => ⟨carries_compact a, carries_pretty a, ?_⟩, Address.ofString?_toString,
    injective_of_carries carries_compact, injective_of_carries carries_pretty⟩
  exact Json.withoutBlanks_pretty a.toValue

end NearestHost.Answer
