/-!
# Text as bytes

Header values and request bodies are rows of bytes; text among them is UTF-8. `utf8` writes a
string as bytes and `ofUtf8?` reads it back: `ofUtf8?_utf8`.
-/

set_option autoImplicit false

namespace SessionAuth.Text

def utf8 (s : String) : List UInt8 := s.toList.flatMap String.utf8EncodeChar

/-- The string that some bytes write, if they are well formed. -/
def ofUtf8? (bytes : List UInt8) : Option String := String.fromUTF8? bytes.toByteArray

@[simp] theorem ofUtf8?_utf8 (s : String) : ofUtf8? (utf8 s) = some s := by
  have h : (utf8 s).toByteArray = s.toByteArray := by
    rw [← String.utf8Encode_toList]; rfl
  simp [ofUtf8?, h, String.fromUTF8?, String.fromUTF8, s.isValidUTF8]

end SessionAuth.Text
