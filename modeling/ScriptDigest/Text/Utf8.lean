import ScriptDigest.Text.Basic

/-!
# Texts as bytes

Files hold bytes, and a text is stored in them as UTF-8. Writing a text and reading it back gives the text again; bytes
that are not UTF-8 are no text.
-/

namespace ScriptDigest.Text

/-- The bytes of a text. -/
def toUtf8 (t : Text) : ByteArray := (String.ofList t).toUTF8

/-- The number of bytes of a text. -/
def byteCount (t : Text) : Nat := (toUtf8 t).size

/-- The text in bytes, if they are valid UTF-8. -/
def ofUtf8? (bytes : ByteArray) : Option Text := (String.fromUTF8? bytes).map String.toList

/-- A text is what its bytes hold. -/
theorem ofUtf8?_toUtf8 (t : Text) : ofUtf8? (toUtf8 t) = some t := by
  have h : String.fromUTF8? (String.ofList t).toUTF8 = some (String.ofList t) :=
    dif_pos (String.ofList t).isValidUTF8
  rw [ofUtf8?, toUtf8, h, Option.map_some, String.toList_ofList]

end ScriptDigest.Text
