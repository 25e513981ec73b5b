/-!
# Bytes

Byte strings as lists, and the passage between text and its UTF-8 form.

## Main Definitions

* `Bytes` — a finite sequence of bytes
* `Bytes.ofText` — the UTF-8 form of a text, character by character
* `Bytes.toText?` — the text whose UTF-8 form is given, if there is one

## Design Notes

`Bytes.ofText` is a `flatMap` over characters, so every statement about the bytes of a text can be
proved by induction on its characters.
-/

namespace PreviewSync

/-- A finite sequence of bytes. -/
abbrev Bytes := List UInt8

namespace Bytes

/-- The UTF-8 form of a text. -/
def ofText (text : String) : Bytes :=
  text.toList.flatMap String.utf8EncodeChar

/-- The text that has the given UTF-8 form; nothing is replaced or skipped, so bytes that are not
UTF-8 have no text. Whoever reads a file or a message has to say what that means for it. -/
def toText? (bytes : Bytes) : Option String :=
  String.fromUTF8? bytes.toByteArray

end Bytes

end PreviewSync
