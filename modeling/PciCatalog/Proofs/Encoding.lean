import PciCatalog.Text.Utf8
import Mathlib.Data.List.Basic

/-!
# Decoding undoes encoding

The lossy reading of the UTF-8 bytes of a text is the text.  A character takes one to four bytes;
the first byte tells how many and narrows the range of the second one, which keeps overlong forms
and surrogates out.
-/

namespace PciCatalog
namespace Text

/-- The UTF-8 bytes of a text. -/
def utf8 (text : List Char) : List UInt8 :=
  (String.ofList text).toUTF8.data.toList

theorem utf8_eq_flatMap (text : List Char) : utf8 text = text.flatMap String.utf8EncodeChar := by
  rw [utf8, String.toUTF8_eq_toByteArray, String.toByteArray_ofList, List.utf8Encode,
    List.data_toByteArray]

@[simp] theorem utf8_nil : utf8 [] = [] := by
  rw [utf8_eq_flatMap]
  rfl

theorem utf8_cons (c : Char) (text : List Char) :
    utf8 (c :: text) = String.utf8EncodeChar c ++ utf8 text := by
  rw [utf8_eq_flatMap, utf8_eq_flatMap, List.flatMap_cons]

theorem leadByte_one : ∀ k : Fin 128,
    leadByte (UInt8.ofNat k) = .single (Char.ofNat k) := by
  decide

theorem leadByte_two : ∀ k : Fin 32, 2 ≤ k.val →
    leadByte (UInt8.ofNat (k.val + 0xC0)) = .opens ⟨k, 1, 0x80, 0xBF⟩ := by
  decide

theorem leadByte_three : ∀ k : Fin 16,
    leadByte (UInt8.ofNat (k.val + 0xE0)) =
      .opens ⟨k, 2, if k.val = 0 then 0xA0 else 0x80, if k.val = 13 then 0x9F else 0xBF⟩ := by
  decide

theorem leadByte_four : ∀ k : Fin 5,
    leadByte (UInt8.ofNat (k.val + 0xF0)) =
      .opens ⟨k, 3, if k.val = 0 then 0x90 else 0x80, if k.val = 4 then 0x8F else 0xBF⟩ := by
  decide

/-- A continuation byte in the range that an open sequence allows adds its six bits. -/
theorem decodeFrom_continue {bits missing m : Nat} {low high : UInt8} (hm : m < 64)
    (hlow : low.toNat ≤ m + 0x80) (hhigh : m + 0x80 ≤ high.toNat) (rest : List UInt8) :
    decodeFrom (some ⟨bits, missing, low, high⟩) (UInt8.ofNat (m + 0x80) :: rest) =
      if missing ≤ 1 then
        some (Char.ofNat (bits * 64 + m)) :: decodeFrom none rest
      else
        decodeFrom (some ⟨bits * 64 + m, missing - 1, 0x80, 0xBF⟩) rest := by
  have hbyte : (UInt8.ofNat (m + 0x80)).toNat = m + 0x80 := by
    rw [UInt8.toNat_ofNat']
    omega
  have hadmits : PartialChar.admits ⟨bits, missing, low, high⟩ (UInt8.ofNat (m + 0x80)) = true := by
    simp only [PartialChar.admits, Bool.and_eq_true, decide_eq_true_eq, UInt8.le_iff_toNat_le,
      hbyte]
    exact ⟨hlow, hhigh⟩
  have hextend :
      PartialChar.extend ⟨bits, missing, low, high⟩ (UInt8.ofNat (m + 0x80)) = bits * 64 + m := by
    show bits * 64 + (UInt8.ofNat (m + 0x80)).toNat % 64 = bits * 64 + m
    rw [hbyte]
    omega
  rw [decodeFrom, if_pos hadmits, hextend]

/-- The last byte of a sequence may be any continuation byte. -/
theorem decodeFrom_last (bits : Nat) {m : Nat} (hm : m < 64) (rest : List UInt8) :
    decodeFrom (some ⟨bits, 1, 0x80, 0xBF⟩) (UInt8.ofNat (m + 0x80) :: rest) =
      some (Char.ofNat (bits * 64 + m)) :: decodeFrom none rest := by
  have hlow : (0x80 : UInt8).toNat ≤ m + 0x80 := Nat.le_add_left 128 m
  have hhigh : m + 0x80 ≤ (0xBF : UInt8).toNat := show m + 128 ≤ 191 by omega
  rw [decodeFrom_continue hm hlow hhigh, if_pos (Nat.le_refl 1)]

/-- The last but one may be any continuation byte too. -/
theorem decodeFrom_last_two (bits : Nat) {m n : Nat} (hm : m < 64) (hn : n < 64)
    (rest : List UInt8) :
    decodeFrom (some ⟨bits, 2, 0x80, 0xBF⟩)
        (UInt8.ofNat (m + 0x80) :: UInt8.ofNat (n + 0x80) :: rest) =
      some (Char.ofNat ((bits * 64 + m) * 64 + n)) :: decodeFrom none rest := by
  have hlow : (0x80 : UInt8).toNat ≤ m + 0x80 := Nat.le_add_left 128 m
  have hhigh : m + 0x80 ≤ (0xBF : UInt8).toNat := show m + 128 ≤ 191 by omega
  rw [decodeFrom_continue hm hlow hhigh, if_neg (show ¬ 2 ≤ 1 by omega)]
  exact decodeFrom_last _ hn rest

/-- No code point of a character is a surrogate or past the last one. -/
theorem toNat_of_char (c : Char) :
    (c.val.toNat < 0xD800 ∨ 0xDFFF < c.val.toNat) ∧ c.val.toNat < 0x110000 := by
  rcases c.valid with h | ⟨h, h'⟩
  · have hlow : c.val.toNat < 0xD800 := h
    exact ⟨.inl hlow, by omega⟩
  · exact ⟨.inr h, h'⟩

section Forms

variable {v : Nat} (rest : List UInt8)

theorem decodeFrom_two_bytes (hlow : 0x80 ≤ v) (hhigh : v < 0x800) :
    decodeFrom none (UInt8.ofNat (v / 64 % 32 + 0xC0) :: UInt8.ofNat (v % 64 + 0x80) :: rest) =
      some (Char.ofNat v) :: decodeFrom none rest := by
  have hlead := leadByte_two ⟨v / 64, by omega⟩ (by dsimp only; omega)
  dsimp only at hlead
  rw [Nat.mod_eq_of_lt (show v / 64 < 32 by omega), decodeFrom_of_opens _ hlead,
    decodeFrom_last _ (by omega), Nat.div_add_mod']

theorem decodeFrom_three_bytes (hlow : 0x800 ≤ v) (hhigh : v < 0x10000)
    (hsurrogate : v < 0xD800 ∨ 0xDFFF < v) :
    decodeFrom none (UInt8.ofNat (v / 4096 % 16 + 0xE0) :: UInt8.ofNat (v / 64 % 64 + 0x80) ::
        UInt8.ofNat (v % 64 + 0x80) :: rest) =
      some (Char.ofNat v) :: decodeFrom none rest := by
  have hlead := leadByte_three ⟨v / 4096, by omega⟩
  dsimp only at hlead
  rw [Nat.mod_eq_of_lt (show v / 4096 < 16 by omega), decodeFrom_of_opens _ hlead]
  -- Behind the lead byte of overlong forms and that of surrogates the second byte is restricted.
  have hsecond : (if v / 4096 = 0 then (0xA0 : UInt8) else 0x80).toNat ≤ v / 64 % 64 + 0x80 := by
    split
    · show 160 ≤ _
      omega
    · show 128 ≤ _
      omega
  have hsecond' : v / 64 % 64 + 0x80 ≤ (if v / 4096 = 13 then (0x9F : UInt8) else 0xBF).toNat := by
    split
    · show _ ≤ 159
      omega
    · show _ ≤ 191
      omega
  rw [decodeFrom_continue (by omega) hsecond hsecond', if_neg (show ¬ 2 ≤ 1 by omega),
    decodeFrom_last _ (by omega)]
  have hsum : (v / 4096 * 64 + v / 64 % 64) * 64 + v % 64 = v := by omega
  rw [hsum]

theorem decodeFrom_four_bytes (hlow : 0x10000 ≤ v) (hhigh : v < 0x110000) :
    decodeFrom none (UInt8.ofNat (v / 262144 % 8 + 0xF0) ::
        UInt8.ofNat (v / 4096 % 64 + 0x80) :: UInt8.ofNat (v / 64 % 64 + 0x80) ::
        UInt8.ofNat (v % 64 + 0x80) :: rest) =
      some (Char.ofNat v) :: decodeFrom none rest := by
  have hlead := leadByte_four ⟨v / 262144, by omega⟩
  dsimp only at hlead
  rw [Nat.mod_eq_of_lt (show v / 262144 < 8 by omega), decodeFrom_of_opens _ hlead]
  -- Behind the first and the last lead byte the second byte is restricted.
  have hsecond :
      (if v / 262144 = 0 then (0x90 : UInt8) else 0x80).toNat ≤ v / 4096 % 64 + 0x80 := by
    split
    · show 144 ≤ _
      omega
    · show 128 ≤ _
      omega
  have hsecond' :
      v / 4096 % 64 + 0x80 ≤ (if v / 262144 = 4 then (0x8F : UInt8) else 0xBF).toNat := by
    split
    · show _ ≤ 143
      omega
    · show _ ≤ 191
      omega
  rw [decodeFrom_continue (by omega) hsecond hsecond', if_neg (show ¬ 3 ≤ 1 by omega),
    decodeFrom_last_two _ (by omega) (by omega)]
  have hsum : ((v / 262144 * 64 + v / 4096 % 64) * 64 + v / 64 % 64) * 64 + v % 64 = v := by omega
  rw [hsum]

end Forms

/-- The bytes of a character decode as that character, whatever follows. -/
theorem decodeFrom_utf8EncodeChar (c : Char) (rest : List UInt8) :
    decodeFrom none (String.utf8EncodeChar c ++ rest) = some c :: decodeFrom none rest := by
  obtain ⟨hsurrogate, hmax⟩ := toNat_of_char c
  have hchar : Char.ofNat c.val.toNat = c := Char.ofNat_toNat c
  unfold String.utf8EncodeChar
  generalize c.val.toNat = v at *
  rw [← hchar]
  dsimp only
  -- The four lengths of a sequence, by the size of the code point.
  split
  · next hone =>
    have hlead := leadByte_one ⟨v, by omega⟩
    dsimp only at hlead
    rw [List.singleton_append, decodeFrom_of_single _ hlead]
  split
  · exact decodeFrom_two_bytes rest (by omega) (by omega)
  split
  · exact decodeFrom_three_bytes rest (by omega) (by omega) hsurrogate
  · exact decodeFrom_four_bytes rest (by omega) hmax

theorem decode_utf8 (text : List Char) : decode (utf8 text) = text.map some := by
  induction text with
  | nil => rw [utf8_nil]; rfl
  | cons c text ih =>
    rw [utf8_cons, decode, decodeFrom_utf8EncodeChar, List.map_cons]
    exact congrArg _ ih

/-- The lossy reading loses nothing of a text that was encoded. -/
theorem decodeLossy_utf8 (text : List Char) : decodeLossy (utf8 text) = text := by
  rw [decodeLossy, decode_utf8, List.map_map]
  exact List.map_id text

end Text
end PciCatalog
