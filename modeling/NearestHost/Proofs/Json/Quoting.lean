/-
  Quoted texts say what was quoted.

  * `Spells`: fragments with the bytes of one text that say another.
  * `Spells.escaped`: what a character is written as says that character.
  * `exists_quoted`: so a text between quotes says the text, whatever its
    characters are.
-/
import NearestHost.Json.Value
import NearestHost.Proofs.Json.Document
import NearestHost.Proofs.Text.Utf8

namespace NearestHost.Json

open Text (utf8 utf8_cons utf8_append toNat_of_mem_utf8 fromUTF8?_utf8)

/-- The source of a text has the bytes of its characters. -/
theorem source_ofList (cs : List Char) :
    Source.ofString (String.ofList cs) = ⟨utf8 cs, .complete⟩ := by
  rw [Source.ofString, Text.toList_toUTF8]

/-! ## Fragments -/

/-- Fragments with the bytes of one text that say another. -/
structure Spells (q : Quoted) (written said : List UInt8) : Prop where
  inner : q.inner = written
  through : ∀ bs, Gathered.through ⟨bs, none⟩ q = some ⟨said.reverse ++ bs, none⟩

namespace Spells

theorem nil : Spells [] [] [] := ⟨rfl, fun _ => rfl⟩

theorem one {f : Fragment} {ss : List UInt8}
    (hf : ∀ bs, Gathered.add? ⟨bs, none⟩ f.piece = some ⟨ss.reverse ++ bs, none⟩) :
    Spells [f] f.bytes ss where
  inner := List.flatMap_singleton ..
  through bs := by rw [Gathered.through, hf]; rfl

theorem append {q q' : Quoted} {ws ws' ss ss' : List UInt8} (h : Spells q ws ss)
    (h' : Spells q' ws' ss') : Spells (q ++ q') (ws ++ ws') (ss ++ ss') where
  inner := by rw [← h.inner, ← h'.inner]; exact List.flatMap_append
  through bs := by
    have happend (g : Gathered) : g.through (q ++ q') = (g.through q).bind (·.through q') := by
      clear h
      induction q generalizing g with
      | nil => rfl
      | cons f q ih =>
        rw [List.cons_append, Gathered.through, Gathered.through, Option.bind_assoc]
        congr 1
        funext g
        exact ih g
    rw [happend, h.through, Option.bind_some, h'.through, List.reverse_append, List.append_assoc]

/-- A byte that needs no escape. -/
def Plain (b : UInt8) : Prop := b ≠ byteOf '"' ∧ b ≠ byteOf '\\' ∧ ¬ b < 0x20

theorem plain {bs : List UInt8} (h : ∀ b ∈ bs, Plain b) : ∃ q, Spells q bs bs := by
  induction bs with
  | nil => exact ⟨[], nil⟩
  | cons b bs ih =>
    obtain ⟨q, hq⟩ := ih fun c hc => h c (List.mem_cons_of_mem b hc)
    have hone : Spells [.byte b (h b List.mem_cons_self)] [b] [b] := one fun _ => rfl
    exact ⟨_, hone.append hq⟩

theorem simple {letter c : UInt8} (h : simpleEscape? letter = some c) :
    Spells [.escape letter c h] [byteOf '\\', letter] [c] := one fun _ => rfl

theorem control {n : Nat} (hn : n < 0x20) : ∃ q, Spells q
    (utf8 (['\\', 'u', '0', '0'] ++ hexPair n)) (utf8 [Char.ofNat n]) := by
  have hunit : ∀ n < 0x20, codeUnit? (byteOf '0') (byteOf '0')
      (byteOf (Nat.digitChar (n / 16))) (byteOf (Nat.digitChar (n % 16))) = some n := by decide
  have hbytes : ∀ n < 0x20, utf8 (['\\', 'u', '0', '0'] ++ hexPair n) =
      [byteOf '\\', byteOf 'u', byteOf '0', byteOf '0', byteOf (Nat.digitChar (n / 16)),
        byteOf (Nat.digitChar (n % 16))] := by decide
  rw [hbytes n hn]
  refine ⟨[.unit _ _ _ _ n (hunit n hn)], one fun bs => ?_⟩
  -- the code unit of a control character is no half of a pair
  have hsecond : Gathered.isSecondHalf n = false := by simp [Gathered.isSecondHalf]; omega
  have hfirst : Gathered.isFirstHalf n = false := by simp [Gathered.isFirstHalf]; omega
  simp only [Fragment.piece, Gathered.add?, Gathered.unit?, hsecond, hfirst, Bool.false_eq_true, if_false, Gathered.push, utf8,
    List.flatMap_cons, List.flatMap_nil, List.append_nil]

theorem plain_of_toNat {b : UInt8} (hquote : b.toNat ≠ 0x22) (hslash : b.toNat ≠ 0x5C)
    (hcontrol : 0x20 ≤ b.toNat) : Plain b := by
  refine ⟨fun h => hquote (congrArg UInt8.toNat h), fun h => hslash (congrArg UInt8.toNat h), ?_⟩
  rw [UInt8.lt_iff_toNat_lt]
  exact Nat.not_lt.2 hcontrol

theorem plain_utf8 {c : Char} (hquote : c ≠ '"') (hslash : c ≠ '\\') (hc : ¬ c.toNat < 0x20) :
    ∀ b ∈ utf8 [c], Plain b := by
  intro b hb
  have hne {d : Char} (h : c ≠ d) : c.toNat ≠ d.toNat := fun heq => h (Char.toNat_inj.1 heq)
  have hfirst : c.toNat ≠ 0x22 := hne hquote
  have hsecond : c.toNat ≠ 0x5C := hne hslash
  rcases toNat_of_mem_utf8 hb with h | h
  · exact plain_of_toNat (by omega) (by omega) (by omega)
  · exact plain_of_toNat (by omega) (by omega) (by omega)

/-- **What a character is written as says that character.** -/
theorem escaped (c : Char) : ∃ q, Spells q (utf8 (escaped c)) (utf8 [c]) := by
  unfold Json.escaped
  split_ifs with hquote hslash hb hf hn hr ht hcontrol
  · subst hquote; exact ⟨_, simple rfl⟩
  · subst hslash; exact ⟨_, simple rfl⟩
  · subst hb; exact ⟨_, simple rfl⟩
  · subst hf; exact ⟨_, simple rfl⟩
  · subst hn; exact ⟨_, simple rfl⟩
  · subst hr; exact ⟨_, simple rfl⟩
  · subst ht; exact ⟨_, simple rfl⟩
  · obtain ⟨q, hq⟩ := control hcontrol
    rw [Char.ofNat_toNat] at hq
    exact ⟨q, hq⟩
  · exact plain (plain_utf8 hquote hslash hcontrol)

theorem chars (cs : List Char) : ∃ q, Spells q (utf8 (cs.flatMap Json.escaped)) (utf8 cs) := by
  induction cs with
  | nil => exact ⟨[], nil⟩
  | cons c cs ih =>
    obtain ⟨q, hq⟩ := escaped c
    obtain ⟨q', hq'⟩ := ih
    rw [List.flatMap_cons, utf8_append, utf8_cons c cs]
    exact ⟨q ++ q', hq.append hq'⟩

end Spells

/-- **A text between quotes says the text.** -/
theorem exists_quoted (s : String) : ∃ q : Quoted, q.bytes = utf8 (quoted s) ∧ q.text? = some s := by
  obtain ⟨q, hq⟩ := Spells.chars s.toList
  refine ⟨q, ?_, ?_⟩
  · rw [Quoted.bytes, hq.inner, quoted, List.cons_append, utf8_cons, utf8_append]
    rfl
  · rw [Quoted.text?, Gathered.empty, hq.through, Option.bind_some, Gathered.text?,
      if_neg Bool.noConfusion, List.append_nil, List.reverse_reverse, fromUTF8?_utf8]

end NearestHost.Json
