import Mathlib.Data.Char
import Mathlib.Data.List.Lex
import Mathlib.Tactic.SplitIfs

/-!
Contract: texts in the order of their characters are in the order of their bytes.

The UTF-8 forms of two characters differ first in a byte that is less for the lesser character,
whatever the lengths of the two forms. So both orders agree on texts.

Owns: the order of texts by bytes.
-/

namespace FunctionAtlas.Text

/-- The order of texts by the bytes of their UTF-8 forms. -/
def ByteBefore (left right : String) : Prop :=
  List.Lex (· < ·) left.toUTF8.data.toList right.toUTF8.data.toList

instance : Std.Asymm ByteBefore where
  asymm _ _ before := asymm_of (List.Lex (· < ·)) before

private theorem loop_toList (bytes : ByteArray) (index : Nat) (before : List UInt8) :
    ByteArray.toList.loop bytes index before = before.reverse ++ bytes.data.toList.drop index := by
  fun_induction ByteArray.toList.loop bytes index before with
  | case1 index before isInside inductionHypothesis =>
      have isIndex : index < bytes.data.toList.length := by simpa using isInside
      have isByte : bytes.get! index = bytes.data.toList.get ⟨index, isIndex⟩ := by
        simp [ByteArray.get!, getElem!_pos bytes.data index (by simpa using isInside)]
      rw [inductionHypothesis, List.drop_eq_getElem_cons isIndex, isByte]
      simp
  | case2 index before isOutside =>
      rw [List.drop_eq_nil_of_le (by simpa using isOutside), List.append_nil]

/-- The bytes one by one are the bytes that are stored. -/
theorem toList_eq_toList_data (bytes : ByteArray) : bytes.toList = bytes.data.toList :=
  loop_toList bytes 0 []

theorem toList_toUTF8 (text : String) :
    text.toUTF8.data.toList = text.toList.flatMap String.utf8EncodeChar := by
  have encoded : text.toUTF8 = text.toList.utf8Encode := (String.utf8Encode_toList).symm
  rw [encoded, List.utf8Encode, List.toList_data_toByteArray]

private theorem lt_ofNat {left right : Nat} (below : left < right) (fits : right < 256) :
    UInt8.ofNat left < UInt8.ofNat right := by
  rw [UInt8.lt_iff_toNat_lt, UInt8.toNat_ofNat_of_lt' (Nat.lt_trans below fits),
    UInt8.toNat_ofNat_of_lt' fits]
  exact below

/-- Where two bytes are given by numbers, the lesser number decides, and equal numbers leave the
decision to what follows. -/
private theorem lex_ofNat_cons {left right : Nat} {others more : List UInt8}
    (fits : right < 256) (ordered : left ≤ right)
    (following : left = right → List.Lex (· < ·) others more) :
    List.Lex (· < ·) (UInt8.ofNat left :: others) (UInt8.ofNat right :: more) := by
  rcases Nat.lt_or_eq_of_le ordered with below | rfl
  · exact .rel (lt_ofNat below fits)
  · exact .cons (following rfl)

/-- The forms of two characters are ordered like the characters, whatever stands after them. -/
theorem lex_utf8EncodeChar {left right : Char} (before : left < right) (others more : List UInt8) :
    List.Lex (· < ·) (String.utf8EncodeChar left ++ others)
      (String.utf8EncodeChar right ++ more) := by
  have below : left.val.toNat < right.val.toNat := before
  have small : right.val.toNat < 1114112 := by
    have valid := right.valid
    rcases valid with low | high
    · exact Nat.lt_trans low (by decide)
    · exact high.2
  unfold String.utf8EncodeChar
  generalize left.val.toNat = lesser at *
  generalize right.val.toNat = greater at *
  dsimp only
  -- Forms of different lengths differ in the first byte, and forms of one length are compared byte
  -- by byte. A lesser character never has the longer form.
  split_ifs <;> simp only [List.cons_append] <;> first
    | omega
    | repeat refine lex_ofNat_cons (by omega) (by omega) fun _ => ?_
      omega

/-- No form of a character is the beginning of that of another one. -/
theorem utf8EncodeChar_append_inj {left right : Char} {others more : List UInt8}
    (same : String.utf8EncodeChar left ++ others = String.utf8EncodeChar right ++ more) :
    left = right := by
  have differs : ∀ {first second : Char} {rest further : List UInt8}, first < second →
      String.utf8EncodeChar first ++ rest ≠ String.utf8EncodeChar second ++ further := by
    intro first second rest further before isSame
    have lesser := lex_utf8EncodeChar before rest further
    rw [isSame] at lesser
    exact irrefl_of (List.Lex (· < ·)) _ lesser
  rcases lt_trichotomy left right with before | isSame | after
  · exact absurd same (differs before)
  · exact isSame
  · exact absurd same.symm (differs after)

theorem lex_flatMap_utf8EncodeChar {left right : List Char}
    (before : List.Lex (· < ·) left right) :
    List.Lex (· < ·) (left.flatMap String.utf8EncodeChar)
      (right.flatMap String.utf8EncodeChar) := by
  induction before with
  | nil =>
      rename_i character rest
      rw [List.flatMap_nil, List.flatMap_cons]
      obtain ⟨first, others, split⟩ :=
        List.exists_cons_of_ne_nil (String.utf8EncodeChar_ne_nil (c := character))
      rw [split]
      exact .nil
  | cons _ inductionHypothesis =>
      rw [List.flatMap_cons, List.flatMap_cons]
      exact List.Lex.append_left _ inductionHypothesis _
  | rel isLess =>
      rw [List.flatMap_cons, List.flatMap_cons]
      exact lex_utf8EncodeChar isLess _ _

/-- A text that is less than another one is also less by its bytes. -/
theorem byteBefore_of_lt {left right : String} (before : left < right) :
    ByteBefore left right := by
  rw [ByteBefore, toList_toUTF8, toList_toUTF8]
  exact lex_flatMap_utf8EncodeChar (List.lt_iff_lex_lt _ _ |>.mp (String.lt_iff.mp before))

end FunctionAtlas.Text
