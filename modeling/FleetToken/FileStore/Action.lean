import FleetToken.FileStore.Basic

/-!
# Actions on files

An action may fail halfway, and then what it did before stays done. Tokens are written by such
actions.

## Main definitions

- `FileAction`: an action on files that may fail.
- `FileAction.write`, `FileAction.remove`: put a file in its place and take it away.
- `FileAction.replace`: writes a file with given permission bits.
- `FileAction.expose`: reads a file whatever its permission bits.
-/

namespace FleetToken

/-- A file once other contents are written to it. It no longer lends rights to a program, for the
program may be another one. The bit of a group that may not run the file lends none, and members of
the group keep it. -/
def StoredFile.overwritten (file : StoredFile) (contents : Bytes) : StoredFile :=
  let bits := FileStore.unmasked FileStore.setUserBit file.mode
  let keepsGroup := (bits >>> 3) &&& Right.pass.bit = 0 && file.standing.inGroup
  { file with
    contents
    mode := if keepsGroup then bits else FileStore.unmasked FileStore.setGroupBit bits }

namespace FileStore

/-- The bit of the group, if a directory has it and passes its group on. -/
def passedOn (store : FileStore) (directory : List Text) : Nat :=
  ((store.directories.lookup directory).elim 0 (·.mode)) &&& setGroupBit

/-- How the user stands to what she makes in a directory. It is hers, and it belongs to one of her
groups unless the directory passes its own on. -/
def newStanding (store : FileStore) (directory : List Text) : Standing where
  inGroup := store.passedOn directory = 0
    || (store.directories.lookup directory).all (·.standing.inGroup)

/-- A new file in a directory, with those of some permission bits that the mask grants. -/
def newFile (store : FileStore) (directory : List Text) (bits : Nat) : StoredFile where
  contents := []
  mode := store.granted bits
  standing := store.newStanding directory

/-- The store with an empty file at a path, and the names that lead there. A file that is there is
emptied. -/
def emptied (store : FileStore) (path : Path) (bits : Nat) :
    Except FileFault (List Text × FileStore) := do
  let (names, old) ← store.writable path
  let file := (old.map (·.overwritten [])).getD (store.newFile names.dropLast bits)
  return (names, store.put names file)

/-- The store with an empty file at a path for a mode, and the names that lead there. An empty path
leads nowhere. -/
def opened (store : FileStore) (path : Text) (mode : Int) :
    Except Failure (List Text × FileStore) := do
  let path ← Path.ofText path
  let bits ← modeBits mode
  if path.isEmpty then throw (.file .notFound)
  (store.emptied path bits).mapError .file

/-- Whether the disk takes some contents. -/
def takes (store : FileStore) (contents : Bytes) : Bool :=
  store.limit.all (contents.length ≤ ·)

/-- As much of some contents as the disk takes. -/
def taken (store : FileStore) (contents : Bytes) : Bytes :=
  match store.limit with
  | some limit => contents.take limit
  | none => contents

/-- The store with other contents in the file under some names. -/
def filled (store : FileStore) (names : List Text) (contents : Bytes) : FileStore :=
  match store.files.lookup names with
  | some file => store.put names (file.overwritten contents)
  | none => store

/-- The permission bits that are set of those asked for. The bit that lends the rights of a group is
left out for those who are not in it. -/
def settled (standing : Standing) (bits : Nat) : Nat :=
  if standing.inGroup then bits else unmasked setGroupBit bits

/-- The store with other permission bits on what a path leads to. Only its owner can set them. -/
def permitted (store : FileStore) (path : Path) (bits : Nat) : Except FileFault FileStore := do
  match ← store.locate path with
  | .file names file =>
    if !file.standing.owns then throw .notPermitted
    return store.put names { file with mode := settled file.standing bits }
  | .directory names =>
    let found := (store.directories.lookup names).getD { mode := bits }
    if !found.standing.owns then throw .notPermitted
    let changed := { found with mode := settled found.standing bits }
    return { store with directories := store.directories.map fun entry =>
      if entry.1 = names then (names, changed) else entry }
  | .outside => throw .notPermitted
  | .vacant _ => throw .notFound

/-- The permission bits of what a path leads to; those of directories outside are the usual
ones. -/
def bits (store : FileStore) (path : Path) : Except FileFault Nat := do
  match ← store.locate path with
  | .file _ file => return file.mode
  | .directory names =>
    let found := store.directories.lookup names
    return (found.map (·.mode)).getD (store.granted usualDirectoryBits)
  | .outside => return store.granted usualDirectoryBits
  | .vacant _ => throw .notFound

/-- The store with a directory under some names, unless there is one. A file that is there is in
the way: it could be no directory, and nothing can be reached through it. -/
def withDirectory (store : FileStore) (names : List Text) (isLast : Bool) :
    Except FileFault FileStore := do
  match ← store.walk [] names with
  | .directory _ | .outside => return store
  | .file _ _ => throw (if isLast then .exists else .notDirectory)
  | .vacant names =>
    if !store.canAlter names.dropLast then throw .denied
    let made : StoredDirectory := {
      mode := store.granted usualDirectoryBits ||| store.passedOn names.dropLast
      standing := store.newStanding names.dropLast }
    return { store with directories := store.directories ++ [(names, made)] }

/-- The store without the file at a path. -/
def without (store : FileStore) (path : Path) : Except FileFault FileStore := do
  match ← store.locate path with
  | .file names _ =>
    if !store.canAlter names.dropLast then throw .denied
    return { store with files := store.files.filter (·.1 ≠ names) }
  | .directory _ | .outside => throw .isDirectory
  | .vacant _ => throw .notFound

end FileStore

/-- An action on files that may fail. What it did before it failed stays done. -/
abbrev FileAction := ExceptT Failure (StateM FileStore)

namespace FileAction

/-- An action that only looks at the files. -/
def look {α : Type} (f : FileStore → Except Failure α) : FileAction α :=
  ExceptT.mk fun store => (f store, store)

/-- An action that changes the files unless it fails. -/
def change {α : Type} (f : FileStore → Except Failure (α × FileStore)) : FileAction α :=
  ExceptT.mk fun store =>
    match f store with
    | .ok (value, changed) => (.ok value, changed)
    | .error failure => (.error failure, store)

/-- An action that changes the files unless a file cannot be used. -/
def update (f : FileStore → Except FileFault FileStore) : FileAction Unit :=
  change fun store => ((f store).map ((), ·)).mapError .file

/-- Fills the file under some names. If the disk does not take all of the contents, what it has
taken stays. -/
def fill (names : List Text) (contents : Bytes) : FileAction Unit :=
  ExceptT.mk fun store =>
    (if store.takes contents then .ok () else .error (.file .noSpace),
      store.filled names (store.taken contents))

/-- Writes a file with the permission bits of a mode, whatever was there before: the file is
emptied or made, filled, and given its bits. -/
def replace (path : Text) (contents : Bytes) (mode : Int) : FileAction Unit := do
  let names ← change fun store => store.opened path mode
  fill names contents
  let path ← look fun _ => Path.ofText path
  let bits ← look fun _ => FileStore.modeBits mode
  update (·.permitted path bits)

/-- Writes a file and makes the directories on the way to it. A file that is there is
overwritten. -/
def write (path : Text) (contents : Bytes) : FileAction Unit := do
  let path := (← look fun _ => Path.ofText path).normal
  let depth := path.names.length - 1
  if !path.absolute then
    (List.range depth).forM fun n =>
      update (·.withDirectory (path.names.take (n + 1)) (n + 1 == depth))
  let names ← change fun store => (store.emptied path FileStore.usualFileBits).mapError .file
  fill names contents

/-- Removes a file. -/
def remove (path : Text) : FileAction Unit := do
  let path ← look fun _ => Path.ofText path
  update (·.without path)

/-- The permission bits that a file has while it is exposed. -/
def exposedBits : Nat := 0o600

/-- Tells the permission bits and the text of a file, whatever the bits allow. The owner takes
other bits for the time of reading, and they stay if nothing can be read. -/
def expose (path : Text) : FileAction (Nat × Text) := do
  let path := (← look fun _ => Path.ofText path).normal
  let bits ← look fun store => (store.bits path).mapError .file
  update (·.permitted path exposedBits)
  let file ← look fun store => (store.file path).mapError .file
  match Text.ofUtf8? false file.contents with
  | some t =>
    update (·.permitted path bits)
    return (bits, t)
  | none => throw .undecodableText

end FileAction

end FleetToken
