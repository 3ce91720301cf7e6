/-
Texts as bytes.

* `utf8`: the bytes that spell a text.
* `singleton_or_le_of_mem_utf8EncodeChar`: which bytes characters are spelled with.
* `utf8_lt`: bytes are in the order of the texts that they spell.
-/
import Mathlib.Data.String.Basic
import Mathlib.Tactic.Common

namespace LineRepl

/-- The bytes that spell a text in UTF-8. -/
def utf8 (text : String) : List UInt8 := text.toUTF8.data.toList

lemma utf8_eq_flatMap (text : String) : utf8 text = text.toList.flatMap String.utf8EncodeChar := by
  rw [utf8, String.toUTF8_eq_toByteArray, ← String.utf8Encode_toList, List.utf8Encode,
    List.data_toByteArray, List.toList_toArray]

/-- A byte of a character is the character's only one, or none of the first 128. -/
lemma singleton_or_le_of_mem_utf8EncodeChar {c : Char} {b : UInt8} :
    b ∈ String.utf8EncodeChar c →
      (String.utf8EncodeChar c = [b] ∧ b.toNat = c.toNat) ∨ 128 ≤ b.toNat := by
  fun_cases String.utf8EncodeChar c with
  | case1 v hv =>
      intro hb
      rw [List.mem_singleton] at hb
      subst hb
      exact .inl ⟨rfl, by rw [UInt8.toNat_ofNat', Nat.mod_eq_of_lt (by omega)]; rfl⟩
  | case2 v | case3 v | case4 v =>
      intro hb
      right
      simp only [List.mem_cons, List.not_mem_nil, or_false] at hb
      rcases hb with rfl | rfl | rfl | rfl <;> rw [UInt8.toNat_ofNat'] <;> omega

/-- The first bytes in which characters differ are in the order of the characters. -/
lemma utf8EncodeChar_append_lt {c d : Char} (h : c < d) (xs ys : List UInt8) :
    String.utf8EncodeChar c ++ xs < String.utf8EncodeChar d ++ ys := by
  have hlt : c.val.toNat < d.val.toNat := h
  have hd : d.val.toNat < 1114112 := by
    rcases d.valid with hd | ⟨-, hd⟩
    · exact Nat.lt_trans hd (by decide)
    · exact hd
  -- Each of both has one to four bytes, with the leading digits of the character in the first.
  fun_cases String.utf8EncodeChar c <;> fun_cases String.utf8EncodeChar d <;>
    simp (disch := omega) only [List.cons_append, List.nil_append, List.cons_lt_cons_iff,
      UInt8.lt_iff_toNat_lt, ← UInt8.toNat_inj, UInt8.toNat_ofNat', Nat.mod_eq_of_lt] <;>
    omega

lemma flatMap_utf8EncodeChar_lt {cs ds : List Char} (h : cs < ds) :
    cs.flatMap String.utf8EncodeChar < ds.flatMap String.utf8EncodeChar := by
  induction h with
  | @nil d ds =>
      obtain ⟨b, bs, hd⟩ := List.exists_cons_of_ne_nil (String.utf8EncodeChar_ne_nil (c := d))
      rw [List.flatMap_nil, List.flatMap_cons, hd]
      exact List.nil_lt_cons _ _
  | rel hlt => exact utf8EncodeChar_append_lt hlt _ _
  | @cons c cs ds h ih => exact List.Lex.append_left _ ih _

/-- Texts are ordered by their characters as they are by their bytes. -/
lemma utf8_lt {s t : String} (h : s < t) : utf8 s < utf8 t := by
  rw [utf8_eq_flatMap, utf8_eq_flatMap]
  exact flatMap_utf8EncodeChar_lt h

end LineRepl
