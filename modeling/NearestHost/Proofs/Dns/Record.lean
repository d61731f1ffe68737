/-
  The records of an answer, and the answer that they stand for.

  * `Data.toAnswer?`: what data stands for.  Character-strings stand for the text
    whose bytes are theirs, one string after the other.
  * `Stands`: a record with a name and a time to live that stands for a record of
    an answer.
  * `records_stand`: nothing but the failures of an answer is lost.
-/
import NearestHost.Dns.Record
import NearestHost.Proofs.Dns.CharacterString
import NearestHost.Proofs.Text.Utf8
import Mathlib.Data.List.Forall2

namespace NearestHost.Dns

/-! ## Character-strings -/

/-- The bytes of character-strings, one after the other. -/
def joinBytes : List String → ByteArray
  | [] => ByteArray.empty
  | s :: r => s.toUTF8 ++ joinBytes r

theorem joinBytes_ofList (parts : List (List Char)) :
    joinBytes (parts.map String.ofList) = (String.ofList parts.flatten).toUTF8 := by
  induction parts with
  | nil => rfl
  | cons cs parts ih =>
    rw [List.map_cons, joinBytes, ih, List.flatten_cons, String.ofList_append]
    exact String.toByteArray_append.symm

/-- **The pieces of a text have its bytes.** -/
theorem joinBytes_pieces (s : String) : joinBytes (pieces s) = s.toUTF8 := by
  rw [pieces, joinBytes_ofList, flatten_piecesAfter, List.nil_append, String.ofList_toList]

/-! ## Data -/

/-- The record of an answer that data stands for, unless its character-strings are no text. -/
def Data.toAnswer? : Data → Option Answer.Record
  | .a x => some (.address (.v4 x))
  | .aaaa x => some (.address (.v6 x))
  | .txt ss => (String.fromUTF8? (joinBytes ss)).map .text

theorem Data.toAnswer_of_ofAnswer {x : Answer.Record} {d : Data} (h : ofAnswer? x = some d) :
    d.toAnswer? = some x := by
  unfold ofAnswer? at h
  split at h
  · cases h; rfl
  · cases h; rfl
  · cases h; rw [toAnswer?, joinBytes_pieces, Text.fromUTF8?_toUTF8]; rfl
  · cases h

theorem Data.ofAnswer_isSome {x : Answer.Record} (h : x ≠ .fail) : ∃ d, ofAnswer? x = some d := by
  cases x with
  | address a => cases a <;> exact ⟨_, rfl⟩
  | text s => exact ⟨_, rfl⟩
  | fail => exact absurd rfl h

/-! ## Records -/

/-- The records of an answer that are no failures. -/
def shown (a : Answer) : Answer := a.filter (· ≠ .fail)

/-- A record with a name and a time to live that stands for a record of an answer. -/
structure Stands (name : Name) (seconds : Nat) (r : Record) (x : Answer.Record) : Prop where
  name : r.name = name
  ttl : r.ttl.toNat = min seconds (2 ^ 32 - 1)
  data : r.data.toAnswer? = some x

theorem toNat_ttlOfSeconds (seconds : Nat) :
    (ttlOfSeconds seconds).toNat = min seconds (2 ^ 32 - 1) := by
  rw [ttlOfSeconds, UInt32.toNat_ofNat']
  omega

variable {name : Name} {seconds : Nat}

theorem records_cons_fail (a : Answer) : records name seconds (.fail :: a) = records name seconds a :=
  rfl

theorem records_cons {x : Answer.Record} (h : x ≠ .fail) (a : Answer) :
    ∃ r, Stands name seconds r x ∧ records name seconds (x :: a) = r :: records name seconds a := by
  obtain ⟨d, hd⟩ := Data.ofAnswer_isSome h
  refine ⟨⟨name, .internet, ttlOfSeconds seconds, d⟩,
    ⟨rfl, toNat_ttlOfSeconds seconds, Data.toAnswer_of_ofAnswer hd⟩, ?_⟩
  rw [records, List.filterMap_cons, hd]
  rfl

/-- Records stand for the answer without its failures, one for one. -/
theorem forall₂_stands (a : Answer) :
    List.Forall₂ (Stands name seconds) (records name seconds a) (shown a) := by
  induction a with
  | nil => exact .nil
  | cons x a ih =>
    by_cases hx : x = .fail
    · rw [hx, records_cons_fail, shown, List.filter_cons_of_neg (by simp)]
      exact ih
    · obtain ⟨r, hr, heq⟩ := records_cons hx a
      rw [heq, shown, List.filter_cons_of_pos (by simpa using hx)]
      exact .cons hr ih

/-- What records stand for is read off their data. -/
theorem mapM_toAnswer {rs : List Record} {a : Answer} (h : List.Forall₂ (Stands name seconds) rs a) :
    rs.mapM (fun r => r.data.toAnswer?) = some a := by
  induction h with
  | nil => rfl
  | cons hr _ ih => rw [List.mapM_cons, hr.data, ih]; rfl

theorem decode_records (name : Name) (seconds : Nat) (a : Answer) :
    (records name seconds a).mapM (fun r => r.data.toAnswer?) = some (shown a) :=
  mapM_toAnswer (forall₂_stands a)

theorem mem_records {r : Record} {a : Answer} : r ∈ records name seconds a ↔
    r.name = name ∧ r.dnsClass = .internet ∧ r.ttl = ttlOfSeconds seconds ∧
      ∃ x ∈ a, Data.ofAnswer? x = some r.data := by
  simp only [records, List.mem_filterMap, Option.map_eq_some_iff]
  constructor
  · rintro ⟨x, hx, d, hd, rfl⟩
    exact ⟨rfl, rfl, rfl, x, hx, hd⟩
  · rintro ⟨rfl, hclass, ht, x, hx, hd⟩
    exact ⟨x, hx, r.data, hd, by rw [← hclass, ← ht]⟩

theorem Data.ofAnswer_eq_aaaa {x : Answer.Record} {v : V6} :
    ofAnswer? x = some (.aaaa v) ↔ x = .address (.v6 v) := by
  constructor
  · intro h
    have hx := toAnswer_of_ofAnswer h
    exact (Option.some.inj hx).symm
  · rintro rfl; rfl

/-- An address of the longer family stays one, also where it embeds a shorter one. -/
theorem exists_aaaa_iff {a : Answer} {v : V6} :
    (∃ r ∈ records name seconds a, r.data = .aaaa v) ↔ .address (.v6 v) ∈ a := by
  constructor
  · rintro ⟨r, hr, hv⟩
    obtain ⟨-, -, -, x, hx, hd⟩ := mem_records.1 hr
    rw [hv] at hd
    exact Data.ofAnswer_eq_aaaa.1 hd ▸ hx
  · intro h
    exact ⟨⟨name, .internet, ttlOfSeconds seconds, .aaaa v⟩,
      mem_records.2 ⟨rfl, rfl, rfl, _, h, rfl⟩, rfl⟩

/-- **Nothing but the failures of an answer is lost in its records.**  They stand for the rest one
    for one, and two answers with the same records agree up to failures. -/
theorem records_stand (name : Name) (seconds : Nat) (a : Answer) :
    List.Forall₂ (Stands name seconds) (records name seconds a) (shown a) ∧
      (∀ r ∈ records name seconds a, r.name = name ∧ r.dnsClass.word = "IN" ∧
        r.ttl.toNat = min seconds 4294967295) ∧
      (records name seconds a).mapM (fun r => r.data.toAnswer?) = some (shown a) ∧
      (∀ v, (∃ r ∈ records name seconds a, r.data = .aaaa v) ↔ .address (.v6 v) ∈ a) ∧
      (∀ name' seconds' a', records name seconds a = records name' seconds' a' →
        shown a = shown a') := by
  refine ⟨forall₂_stands a, fun r hr => ?_, decode_records name seconds a, fun v => exists_aaaa_iff,
    fun name' seconds' a' h => ?_⟩
  · obtain ⟨hname, hclass, httl, -⟩ := mem_records.1 hr
    refine ⟨hname, ?_, ?_⟩
    · rw [hclass]
      rfl
    · rw [httl, toNat_ttlOfSeconds]
  · have hdecode := decode_records name seconds a
    rw [h, decode_records name' seconds' a'] at hdecode
    exact (Option.some.inj hdecode).symm

end NearestHost.Dns
