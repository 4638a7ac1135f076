/-!
# Excerpts

Two ways of keeping a long text short: a preview counts characters and ends in an ellipsis, a
bounded message counts bytes and says how many there were.
-/

namespace AdminPanel.Text

/-- At most `max` characters: the text itself if it fits, else its start and an ellipsis (no
ellipsis where there is no room for one). -/
def previewChars (max : Nat) (cs : List Char) : List Char :=
  if cs.length ≤ max then cs
  else if max ≤ 3 then cs.take max
  else cs.take (max - 3) ++ ['.', '.', '.']

/-- `previewChars` on strings. -/
def preview (s : String) (max : Nat) : String :=
  String.ofList (previewChars max s.toList)

/-- The longest prefix of whole characters that takes at most `room` bytes. Bytes are those of UTF-8; a
character that would be cut is left out whole. -/
def takeBytes (room : Nat) : List Char → List Char
  | [] => []
  | c :: cs => if c.utf8Size ≤ room then c :: takeBytes (room - c.utf8Size) cs else []

/-- The text itself if it has at most `room` bytes; else its start, cut on a character boundary as
late as possible, and the size of the whole. -/
def bounded (room : Nat) (s : String) : String :=
  if s.utf8ByteSize ≤ room then s
  else String.ofList (takeBytes room s.toList)
    ++ "... (truncated, " ++ toString s.utf8ByteSize ++ " total bytes)"

end AdminPanel.Text
