import AccessPolicy.Number.Whole
import AccessPolicy.Proofs.Text.Pieces
import AccessPolicy.Standard.Library
import AccessPolicy.Text.FormEncoding
import Mathlib.Data.FinEnum

/-!
# Form encoding and back

Decoding a form encoding gives the encoded text back (`Text.formDecode?_formEncode`). The encoding
of each byte either has no percent sign or begins with its only one, so the replacement of encoded
spaces cannot hit anything that spans two bytes (`Text.replaceAll_encodeByte`), and a plus sign in
the encoding always stands for a space. The pipes `urlEncode` and `urlDecode` are this encoding and
its inverse (`Standard.urlDecode_urlEncode`).
-/

namespace AccessPolicy.Text

/-! ### Encoded bytes -/

/-- The digit for the upper half of a byte. -/
def highDigit (byte : UInt8) : Char :=
  (Nat.digitChar (byte.toNat / 16)).toUpper

/-- The digit for the lower half of a byte. -/
def lowDigit (byte : UInt8) : Char :=
  (Nat.digitChar (byte.toNat % 16)).toUpper

theorem percentByte_eq (byte : UInt8) :
    percentByte byte = ['%', highDigit byte, lowDigit byte] := rfl

/-- The digits of a byte are hexadecimal. -/
theorem isSome_hexDigit? (byte : UInt8) :
    (hexDigit? (highDigit byte)).isSome ∧ (hexDigit? (lowDigit byte)).isSome := by
  revert byte
  decide +kernel

theorem ne_of_isSome_hexDigit? {c : Char} (h : (hexDigit? c).isSome) : c ≠ '%' ∧ c ≠ '+' := by
  constructor
  · rintro rfl
    exact absurd h (by decide)
  · rintro rfl
    exact absurd h (by decide)

/-- Only a space is written as an encoded space. -/
theorem dropFront?_percentByte (byte : UInt8) :
    dropFront? ['%', '2', '0'] (percentByte byte) = if byte = 32 then some [] else none := by
  revert byte
  decide +kernel

/-- An unreserved byte is a character of its own, and no sign of the encoding. -/
theorem ne_of_isUnreserved {byte : UInt8} (h : isUnreserved byte) :
    Char.ofUInt8 byte ≠ '%' ∧ Char.ofUInt8 byte ≠ '+' ∧ byte ≠ 32 := by
  revert byte
  decide +kernel

/-! ### Replacing -/

/-- The form encoding of a byte. -/
def formByte (byte : UInt8) : List Char :=
  if byte = 32 then ['+'] else encodeByte byte

/-- Where an encoded space does not begin with the first character, that character is kept. -/
theorem replaceAll_cons_of_ne {c : Char} (hc : c ≠ '%') (cs : List Char) :
    replaceAll ['%', '2', '0'] ['+'] (c :: cs) = c :: replaceAll ['%', '2', '0'] ['+'] cs :=
  replaceAll_of_not_found (by simp [dropFront?, hc.symm])

/-- The replacement of encoded spaces replaces just what was written for a space. -/
theorem replaceAll_encodeByte (bytes : List UInt8) :
    replaceAll ['%', '2', '0'] ['+'] (bytes.flatMap encodeByte) = bytes.flatMap formByte := by
  induction bytes with
  | nil => simp
  | cons byte bytes ih =>
    rw [List.flatMap_cons, List.flatMap_cons, ← ih, formByte, encodeByte]
    have hfound := dropFront?_percentByte byte
    by_cases hunreserved : isUnreserved byte
    · obtain ⟨hpercent, -, hspace⟩ := ne_of_isUnreserved hunreserved
      rw [if_pos hunreserved, if_neg hspace]
      exact replaceAll_cons_of_ne hpercent _
    · rw [if_neg hunreserved]
      by_cases hspace : byte = 32
      · rw [if_pos hspace] at hfound ⊢
        exact replaceAll_of_found (dropFront?_append hfound)
      · -- Neither digit begins an encoded space, so only the percent sign could.
        obtain ⟨hhigh, hlow⟩ := isSome_hexDigit? byte
        rw [if_neg hspace] at hfound ⊢
        rw [percentByte_eq] at hfound ⊢
        have hnot : dropFront? ['%', '2', '0'] (['%', highDigit byte, lowDigit byte] ++
            bytes.flatMap encodeByte) = none :=
          dropFront?_append_of_none hfound (by simp)
        rw [List.cons_append] at hnot ⊢
        rw [replaceAll_of_not_found hnot, List.cons_append, List.cons_append,
          replaceAll_cons_of_ne (ne_of_isSome_hexDigit? hhigh).1,
          replaceAll_cons_of_ne (ne_of_isSome_hexDigit? hlow).1]
        rfl

/-- A byte with a space for itself in place of a plus sign. -/
def spacedByte (byte : UInt8) : List Char :=
  if byte = 32 then [' '] else encodeByte byte

/-- The replacement of plus signs replaces just what was written for a space. -/
theorem replaceAll_formByte (bytes : List UInt8) :
    replaceAll ['+'] [' '] (bytes.flatMap formByte) = bytes.flatMap spacedByte := by
  rw [replaceAll_singleton, List.flatMap_assoc]
  congr 1
  funext byte
  rw [formByte, spacedByte, encodeByte]
  by_cases hspace : byte = 32
  · simp [hspace]
  · by_cases hunreserved : isUnreserved byte
    · simp [hspace, hunreserved, (ne_of_isUnreserved hunreserved).2.1]
    · obtain ⟨hhigh, hlow⟩ := isSome_hexDigit? byte
      simp [hspace, hunreserved, percentByte_eq, (ne_of_isSome_hexDigit? hhigh).2,
        (ne_of_isSome_hexDigit? hlow).2]

/-! ### Decoding -/

/-- The bytes of a text are those of its characters. -/
theorem toList_toUTF8_ofList (cs : List Char) :
    (String.ofList cs).toUTF8.data.toList = cs.flatMap String.utf8EncodeChar := by
  rw [String.toUTF8_eq_toByteArray, String.toByteArray_ofList, List.utf8Encode,
    List.toList_data_toByteArray]

/-- The bytes of a digit pair behind a percent sign are those of the digits, which give the byte. -/
theorem utf8_percentByte (byte : UInt8) :
    ∃ high low, (percentByte byte).flatMap String.utf8EncodeChar = [37, high, low] ∧
      ∃ h l, hexValue? high = some h ∧ hexValue? low = some l ∧ 16 * h + l = byte := by
  refine ⟨UInt8.ofNat (highDigit byte).toNat, UInt8.ofNat (lowDigit byte).toNat, ?_, byte / 16,
    byte % 16, ?_⟩
  · revert byte
    decide +kernel
  · revert byte
    decide +kernel

/-- The bytes of an unreserved byte and of a space are that byte. -/
theorem utf8_ofUInt8 {byte : UInt8} (h : isUnreserved byte ∨ byte = 32) :
    String.utf8EncodeChar (Char.ofUInt8 byte) = [byte] ∧ byte ≠ 37 := by
  revert byte
  decide +kernel

theorem decodeBytes_cons_of_ne {byte : UInt8} (h : byte ≠ 37) (rest : List UInt8) :
    decodeBytes (byte :: rest) = byte :: decodeBytes rest := by
  rw [decodeBytes]
  intro high low rest' hbyte
  exact absurd hbyte h

/-- The encoding of bytes is decoded byte by byte. -/
theorem decodeBytes_spacedByte (bytes : List UInt8) :
    decodeBytes ((bytes.flatMap spacedByte).flatMap String.utf8EncodeChar) = bytes := by
  induction bytes with
  | nil => rfl
  | cons byte bytes ih =>
    rw [List.flatMap_cons, List.flatMap_append]
    by_cases hkept : isUnreserved byte ∨ byte = 32
    · -- The byte stands for itself and is no percent sign.
      have hspaced : spacedByte byte = [Char.ofUInt8 byte] := by
        rw [spacedByte, encodeByte]
        split
        next hspace =>
          rw [hspace]
          rfl
        next hspace => rw [if_pos (hkept.resolve_right hspace)]
      obtain ⟨hutf8, hpercent⟩ := utf8_ofUInt8 hkept
      rw [hspaced, List.flatMap_singleton, hutf8, List.singleton_append,
        decodeBytes_cons_of_ne hpercent, ih]
    · -- The digits behind the percent sign give the byte.
      obtain ⟨hunreserved, hspace⟩ := not_or.1 hkept
      obtain ⟨high, low, hutf8, h, l, hh, hl, hbyte⟩ := utf8_percentByte byte
      rw [spacedByte, if_neg hspace, encodeByte, if_neg hunreserved, hutf8]
      simp only [List.cons_append, List.nil_append, decodeBytes, hh, hl, hbyte, ih]

theorem fromUTF8?_toUTF8 (s : String) :
    String.fromUTF8? ⟨s.toUTF8.data.toList.toArray⟩ = some s := by
  rw [Array.toArray_toList]
  exact dif_pos s.isValidUTF8

/-- Decoding gives the encoded text back. -/
theorem formDecode?_formEncode (s : String) : formDecode? (formEncode s) = some s := by
  rw [formDecode?, formEncode, String.toList_ofList, replaceAll_encodeByte, replaceAll_formByte]
  simp only [toList_toUTF8_ofList, decodeBytes_spacedByte]
  exact fromUTF8?_toUTF8 s

/-! ### The form of an encoding -/

/-- A form encoding consists of letters, digits, `-._~`, plus signs, and percent signs with two
hexadecimal digits. -/
inductive IsFormEncoded : List Char → Prop
  | nil : IsFormEncoded []
  | plain {c : Char} {cs : List Char} (hc : c.isAlphanum ∨ c ∈ ['-', '.', '_', '~', '+'])
      (hcs : IsFormEncoded cs) : IsFormEncoded (c :: cs)
  | byte {high low : Char} {cs : List Char} (hhigh : (hexDigit? high).isSome)
      (hlow : (hexDigit? low).isSome) (hcs : IsFormEncoded cs) :
      IsFormEncoded ('%' :: high :: low :: cs)

theorem isFormEncoded_formByte (bytes : List UInt8) : IsFormEncoded (bytes.flatMap formByte) := by
  induction bytes with
  | nil => exact .nil
  | cons byte bytes ih =>
    rw [List.flatMap_cons, formByte, encodeByte]
    split
    next => exact .plain (by simp) ih
    next =>
      split
      next hunreserved =>
        refine .plain ?_ ih
        rw [isUnreserved, Bool.or_eq_true, decide_eq_true_eq] at hunreserved
        exact hunreserved.imp_right fun h => List.mem_append_left ['+'] h
      next => exact .byte (isSome_hexDigit? byte).1 (isSome_hexDigit? byte).2 ih

theorem isFormEncoded_formEncode (s : String) : IsFormEncoded (formEncode s).toList := by
  rw [formEncode, String.toList_ofList, replaceAll_encodeByte]
  exact isFormEncoded_formByte _

end AccessPolicy.Text

namespace AccessPolicy.Standard

/-- The pipe `urlDecode` undoes the pipe `urlEncode`, for texts and for lists of texts, and the
encoded texts have the form of an encoding. -/
theorem urlDecode_urlEncode :
    ∃ encode decode : Transform,
      pipes.find? "urlEncode" = some (.plain encode) ∧
      pipes.find? "urlDecode" = some (.plain decode) ∧
      ∀ scope : Scope,
        (∀ text : String, ∃ encoded, encode.value scope (.string text) = .string encoded ∧
          Text.IsFormEncoded encoded.toList ∧
          decode.value scope (.string encoded) = .string text) ∧
        ∀ texts : List String, ∃ encoded : List String,
          encode.value scope (.array (texts.map .string)) = .array (encoded.map .string) ∧
          (∀ text ∈ encoded, Text.IsFormEncoded text.toList) ∧
          decode.value scope (.array (encoded.map .string)) = .array (texts.map .string) := by
  refine ⟨eachText Text.formEncode, tryTexts Text.formDecode?, rfl, rfl, fun scope => ⟨?_, ?_⟩⟩
  · intro text
    refine ⟨Text.formEncode text, rfl, Text.isFormEncoded_formEncode text, ?_⟩
    change ((Text.formDecode? (Text.formEncode text)).map Value.string).getD .null = _
    rw [Text.formDecode?_formEncode]
    rfl
  · intro texts
    refine ⟨texts.map Text.formEncode, ?_, ?_, ?_⟩
    · simp [eachText, tryTexts, Transform.pure, Value.mapItems, Value.toText?]
    · intro encoded hencoded
      obtain ⟨text, -, rfl⟩ := List.mem_map.1 hencoded
      exact Text.isFormEncoded_formEncode text
    · simp [tryTexts, Transform.pure, Value.mapItems, Value.toText?, Text.formDecode?_formEncode]

end AccessPolicy.Standard
