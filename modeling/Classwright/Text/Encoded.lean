import Classwright.Text.Lines

/-!
# Text — texts as bytes

Files hold bytes. A text is written in UTF-8 and read back the same way; bytes that are no UTF-8
are no text.

* `Text.encoded`, `Text.decoded?`: a text as bytes, and back.
* `Text.decoded?_encoded`: what is written is read back.
-/

namespace Classwright

/-- The content of a file. -/
abbrev Bytes := List UInt8

namespace Text

/-- The bytes of a text. -/
def encoded (t : Text) : Bytes := (String.ofList t).toUTF8.data.toList

/-- The text that the bytes are, if they are one. -/
def decoded? (bytes : Bytes) : Option Text :=
  (String.fromUTF8? ⟨bytes.toArray⟩).map String.toList

theorem decoded?_encoded (t : Text) : decoded? (encoded t) = some t := by
  have valid : (String.ofList t).toUTF8.IsValidUTF8 := (String.ofList t).isValidUTF8
  rw [decoded?, encoded, Array.toArray_toList, String.fromUTF8?, dif_pos valid]
  exact congrArg some String.toList_ofList

end Text

end Classwright
