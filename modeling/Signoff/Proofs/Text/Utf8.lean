import Signoff.Text.Utf8

/-!
# Text that was written as bytes

The bytes of a string are read as its characters, with no byte left over (`ofBytes_encode`), and are
UTF-8 for it (`decode?_encode`).
-/

namespace Signoff.Text

theorem extract_append (before after : Bytes) :
    (before ++ after).toByteArray.extract before.length (before ++ after).toByteArray.size =
      after.toByteArray := by
  rw [List.toByteArray_append, ByteArray.size_append]
  apply ByteArray.extract_append_eq_right <;> simp

/-- The bytes of characters from a place on are read as the characters. -/
theorem ofByteArray_append (before : Bytes) (cs : List Char) (acc : Text) :
    ofByteArray (before ++ encodeChars cs).toByteArray before.length acc =
      acc.reverse ++ ofChars cs := by
  induction cs generalizing before acc with
  | nil =>
    rw [ofByteArray, dif_neg (by simp [encodeChars])]
    simp [ofChars]
  | cons c cs ih =>
    have here : (before ++ encodeChars (c :: cs)).toByteArray.utf8DecodeChar? before.length =
        some c := by
      rw [ByteArray.utf8DecodeChar?_eq_utf8DecodeChar?_extract, extract_append, encodeChars,
        List.flatMap_cons, List.toByteArray_append]
      exact ByteArray.utf8DecodeChar?_utf8EncodeChar_append
    have inside : before.length < (before ++ encodeChars (c :: cs)).toByteArray.size :=
      ByteArray.lt_size_of_isSome_utf8DecodeChar? (by rw [here]; rfl)
    have next := ih (before ++ String.utf8EncodeChar c) (some c :: acc)
    rw [List.length_append, String.length_utf8EncodeChar, List.append_assoc] at next
    rw [ofByteArray, dif_pos inside, here]
    exact next.trans (by simp [ofChars])

theorem ofBytes_encode (s : String) : ofBytes (encode s) = ofString s :=
  ofByteArray_append [] s.toList []

end Signoff.Text

namespace Signoff

theorem decode?_encode (s : String) : decode? (encode s) = some s := by
  have bytes : (encode s).toByteArray = s.toByteArray := s.utf8Encode_toList
  rw [decode?, bytes, String.fromUTF8?, dif_pos s.isValidUTF8]
  rfl

end Signoff
