import AdminPanel.Settings.Document

/-!
# The settings file

A missing file holds the default settings. Saving makes the directories that are missing.
-/

namespace AdminPanel.Settings

/-- Why settings cannot be loaded. -/
inductive Fault where
  | io (fault : FileFault)
  | document (fault : Json.Fault)
  deriving Repr, DecidableEq

def Fault.message : Fault → String
  | .io f => f.message
  | .document f => f.message

/-- The settings of a file. Only a file that is not there counts as one with the defaults: one that cannot be
read, or is no document of settings, is a fault. -/
def load (files : FileTree) (path : FilePath) : Except Fault Settings :=
  if files.hasNode path then
    match files.readText path with
    | .error e => .error (.io e)
    | .ok text =>
      match ofDocument text with
      | .error e => .error (.document e)
      | .ok s => .ok s
  else .ok {}

/-- Writes settings to a file, below directories that are made if they are missing. The file is written in
place, and not by way of a temporary one. -/
def save (s : Settings) (files : FileTree) (path : FilePath) : Except FileFault FileTree := do
  (← files.makeDirs (FileTree.parentPath path)).write path s.document.toUTF8.toList

end AdminPanel.Settings
