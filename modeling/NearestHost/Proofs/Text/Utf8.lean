/-
  The bytes of texts.

  * `utf8`: the bytes of characters.
  * `toNat_of_mem_utf8`: those of ASCII characters are their own.
  * `toList_toUTF8`, `fromUTF8?_utf8`: a text has the bytes of its characters, and
    is read from them.
-/
import Mathlib.Tactic.SplitIfs

namespace NearestHost.Text

/-- The bytes of characters. -/
def utf8 (cs : List Char) : List UInt8 := cs.flatMap String.utf8EncodeChar

theorem utf8_cons (c : Char) (cs : List Char) : utf8 (c :: cs) = utf8 [c] ++ utf8 cs := by
  simp [utf8]

theorem utf8_append (cs ds : List Char) : utf8 (cs ++ ds) = utf8 cs ++ utf8 ds :=
  List.flatMap_append

/-- An ASCII character is its own byte, and the bytes of the others are beyond the ASCII ones. -/
theorem toNat_of_mem_utf8 {c : Char} {b : UInt8} (hb : b ∈ utf8 [c]) :
    b.toNat = c.toNat ∨ 128 ≤ b.toNat := by
  have hbyte {k : Nat} (hlow : 128 ≤ k) (hhigh : k < 256) : 128 ≤ (UInt8.ofNat k).toNat := by
    rwa [UInt8.toNat_ofNat_of_lt' hhigh]
  rw [utf8, List.flatMap_singleton, String.utf8EncodeChar] at hb
  split_ifs at hb with hone htwo hthree
  all_goals simp only [List.mem_cons, List.not_mem_nil, or_false] at hb
  · rw [hb, UInt8.toNat_ofNat_of_lt' (Nat.lt_of_le_of_lt hone (by decide))]
    exact Or.inl rfl
  · right
    rcases hb with rfl | rfl <;> exact hbyte (by omega) (by omega)
  · right
    rcases hb with rfl | rfl | rfl <;> exact hbyte (by omega) (by omega)
  · right
    rcases hb with rfl | rfl | rfl | rfl <;> exact hbyte (by omega) (by omega)

theorem toList_loop (bs : ByteArray) (i : Nat) (r : List UInt8) :
    ByteArray.toList.loop bs i r = r.reverse ++ bs.data.toList.drop i := by
  fun_induction ByteArray.toList.loop bs i r with
  | case1 i r hi ih =>
    have hlen : i < bs.data.toList.length := by simpa using hi
    rw [ih, List.drop_eq_getElem_cons hlen]
    simp [ByteArray.get!, hi]
  | case2 i r hi =>
    rw [List.drop_eq_nil_of_le (by simpa using Nat.le_of_not_lt hi), List.append_nil]

theorem toUTF8_ofList (cs : List Char) : (String.ofList cs).toUTF8 = (utf8 cs).toByteArray :=
  String.toByteArray_ofList

/-- A text has the bytes of its characters. -/
theorem toList_toUTF8 (cs : List Char) : (String.ofList cs).toUTF8.toList = utf8 cs := by
  rw [toUTF8_ofList, ByteArray.toList, toList_loop, List.drop_zero, List.reverse_nil,
    List.nil_append, List.toList_data_toByteArray]

theorem fromUTF8?_toUTF8 (s : String) : String.fromUTF8? s.toUTF8 = some s := by
  have hvalid : s.toUTF8.IsValidUTF8 := s.isValidUTF8
  rw [String.fromUTF8?, dif_pos hvalid]
  rfl

/-- A text is read from the bytes of its characters. -/
theorem fromUTF8?_utf8 (s : String) : String.fromUTF8? ⟨(utf8 s.toList).toArray⟩ = some s := by
  have hbytes : (⟨(utf8 s.toList).toArray⟩ : ByteArray) = s.toUTF8 := by
    have hlist := toUTF8_ofList s.toList
    rw [String.ofList_toList] at hlist
    rw [hlist]
    exact ByteArray.ext List.data_toByteArray.symm
  rw [hbytes, fromUTF8?_toUTF8]

end NearestHost.Text
