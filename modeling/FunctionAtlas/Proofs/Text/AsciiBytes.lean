import FunctionAtlas.Proofs.Text.ByteOrder

/-!
Contract: what the bytes of a text say about its characters.

A character below 128 has itself as its UTF-8 form, and the forms of all others begin with a byte
that is not below 128. So a text whose bytes are all below 128 has the characters that its bytes
number.

Owns: a check of the characters of a text by its bytes.
-/

namespace FunctionAtlas.Text

variable {accepts : Char → Bool} {text : String} {character : Char}

/-- Whether the bytes of a text number characters of a class, all of them below 128. The bytes of a
text are evaluated at once, its characters would have to be decoded one by one. -/
def hasAsciiOf (accepts : Char → Bool) (text : String) : Bool :=
  text.toUTF8.data.toList.all fun byte =>
    byte.toNat < 128 && accepts (Char.ofNat byte.toNat)

/-- A character whose bytes are all below 128 is the one that one of them numbers. -/
theorem exists_ofNat_eq_of_forall_lt
    (small : ∀ byte ∈ String.utf8EncodeChar character, byte.toNat < 128) :
    ∃ byte ∈ String.utf8EncodeChar character, Char.ofNat byte.toNat = character := by
  have below : ∀ number, number < 256 → (UInt8.ofNat number).toNat = number :=
    fun number fits => UInt8.toNat_ofNat_of_lt' fits
  have numbers : Char.ofNat character.val.toNat = character := Char.ofNat_toNat character
  unfold String.utf8EncodeChar at small ⊢
  generalize character.val.toNat = number at *
  dsimp only at small ⊢
  split_ifs at small ⊢ with isShort isMiddle isLong
  · refine ⟨_, List.mem_singleton_self _, ?_⟩
    rw [below number (by omega), numbers]
  all_goals
    -- The first byte of a longer form is not below 128.
    have first := small _ List.mem_cons_self
    rw [below _ (by omega)] at first
    omega

theorem accepts_of_hasAsciiOf (checked : hasAsciiOf accepts text = true) :
    ∀ character ∈ text.toList, accepts character = true := by
  intro character member
  have each : ∀ byte ∈ String.utf8EncodeChar character,
      byte.toNat < 128 ∧ accepts (Char.ofNat byte.toNat) = true := by
    intro byte isByte
    have inText : byte ∈ text.toUTF8.data.toList := by
      rw [toList_toUTF8]
      exact List.mem_flatMap.mpr ⟨character, member, isByte⟩
    simpa using List.all_eq_true.mp checked byte inText
  obtain ⟨byte, isByte, isCharacter⟩ :=
    exists_ofNat_eq_of_forall_lt fun byte isByte => (each byte isByte).1
  exact isCharacter ▸ (each byte isByte).2

end FunctionAtlas.Text
