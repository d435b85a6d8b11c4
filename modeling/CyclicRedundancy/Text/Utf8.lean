/-!
# Texts as bytes

The bytes of a text in UTF-8 and the text of bytes, which exists only if they are well formed.
-/

namespace CyclicRedundancy.Text.Utf8

/-- The bytes of a text. -/
def encode (s : String) : List UInt8 := s.toUTF8.data.toList

/-- The text that the bytes encode, if they are well formed. -/
def decode? (bytes : List UInt8) : Option String := String.fromUTF8? bytes.toByteArray

theorem toByteArray_encode (s : String) : (encode s).toByteArray = s.toByteArray := by
  apply ByteArray.ext
  rw [List.data_toByteArray]
  rfl

/-- Bytes have a text if and only if they are its bytes. -/
theorem decode?_eq_some_iff {bytes : List UInt8} {s : String} :
    decode? bytes = some s ↔ bytes = encode s := by
  unfold decode? String.fromUTF8?
  constructor
  · intro h
    split at h
    next hvalid =>
      cases h
      exact List.toList_data_toByteArray.symm
    next => cases h
  · rintro rfl
    have hvalid : (encode s).toByteArray.IsValidUTF8 := by
      rw [toByteArray_encode]
      exact s.isValidUTF8
    rw [dif_pos hvalid]
    exact congrArg some (String.toByteArray_inj.mp (toByteArray_encode s))

end CyclicRedundancy.Text.Utf8
