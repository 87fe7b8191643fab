import Mathlib.Logic.Basic

/-!
# Atomic replacement of a file

A file is replaced by a rename, so it has its old contents or its new ones.  What is reported is
another matter: an error may come before the rename or after it.
-/

/-- What becomes of contents that are written beside a file and renamed into place. -/
inductive ReplaceAnswer
  | installed
  /-- An error before the rename, or by a rename that did nothing. -/
  | failed
  /-- An error by a rename that took effect, or by the sync of the directory after it. -/
  | failedInstalled
deriving DecidableEq

namespace ReplaceAnswer

/-- The new contents are in place. -/
def takesEffect : ReplaceAnswer → Bool
  | failed => false
  | _ => true

/-- No error is reported. -/
def isOk : ReplaceAnswer → Bool
  | installed => true
  | _ => false

end ReplaceAnswer
