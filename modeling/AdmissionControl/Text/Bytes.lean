/-!
# Bytes of text

Text travels as UTF-8. Decoding refuses every sequence that no text encodes to, and gives back any
text that was encoded.
-/

namespace AdmissionControl.Text

/-- The UTF-8 bytes of a text. -/
def encode (text : List Char) : List UInt8 := text.flatMap String.utf8EncodeChar

/-- The text that bytes encode, if they are valid UTF-8. -/
def decode? (bytes : List UInt8) : Option (List Char) :=
  (String.fromUTF8? bytes.toByteArray).map String.toList

/-- Decoding undoes encoding. -/
theorem decode?_encode (text : List Char) : decode? (encode text) = some text := by
  have whole : (encode text).toByteArray = (String.ofList text).toByteArray :=
    String.toByteArray_ofList.symm
  unfold decode?
  rw [whole, String.fromUTF8?, dif_pos (String.ofList text).isValidUTF8]
  exact congrArg some String.toList_ofList

end AdmissionControl.Text
