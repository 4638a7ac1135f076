import AdminPanel.FileTree
import AdminPanel.Proofs.Text.Splitting

/-!
# The names of a path text

A path text is split at its slashes, character by character, so that what a path text leads to can be
computed (`pathOf_eq`).
-/

namespace AdminPanel.FileTree

/-- **What a path text leads to**, by the characters of the text. -/
theorem pathOf_eq (here : FilePath) (text : String) :
    pathOf here text =
      match (text.toList.splitOnP (· == '/')).map String.ofList with
      | "" :: rest => rest
      | names => here ++ names := by
  have split : text.splitOn "/" = (text.toList.splitOnP (· == '/')).map String.ofList :=
    Text.splitOn_char '/' text
  show (match text.splitOn "/" with
    | "" :: rest => rest
    | names => here ++ names) = _
  rw [split]

example : pathOf ["home"] "a/../b" = ["home", "a", "..", "b"] := by
  rw [pathOf_eq]
  decide

end AdminPanel.FileTree
