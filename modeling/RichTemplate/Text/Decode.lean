/-!
# Text files

A text file is UTF-8, and every line end in it counts as a line feed.
-/

namespace RichTemplate

def normalizeLines : List Char → List Char
  | [] => []
  | '\r' :: '\n' :: cs => '\n' :: normalizeLines cs
  | '\r' :: cs => '\n' :: normalizeLines cs
  | c :: cs => c :: normalizeLines cs

def decodeText? (content : ByteArray) : Option (List Char) :=
  (String.fromUTF8? content).map fun s => normalizeLines s.toList

end RichTemplate
