import FleetToken.FileStore.Path

/-!
# File stores

The files below a working directory, with their contents, their permission bits and how the user who
handles them stands to them. Keys are read from them. Of the three groups of permission bits the
first holds for the owner of a file, the second for the other members of its group, and the third
for everyone else.

## Main definitions

- `Standing`: how the user stands to a file; `Standing.allows` tells what she may do with it.
- `FileStore`: files and directories.
- `FileStore.locate`: where a path leads.
- `FileStore.read`: the contents of a file.
- `FileStore.writable`: where a file can be written.
-/

namespace FleetToken

/-- How the user stands to a file or a directory. -/
structure Standing where
  /-- Whether it belongs to her. -/
  owns : Bool := true
  /-- Whether she is in the group that it belongs to. -/
  inGroup : Bool := true
deriving DecidableEq

/-- A file. -/
structure StoredFile where
  /-- What the file holds. -/
  contents : Bytes
  /-- The twelve permission bits. -/
  mode : Nat
  standing : Standing := {}
deriving DecidableEq

/-- A directory. -/
structure StoredDirectory where
  /-- The twelve permission bits. -/
  mode : Nat
  standing : Standing := {}
deriving DecidableEq

/-- The files below a working directory, by the names that lead to them. -/
structure FileStore where
  /-- The files with the names on the way to each. -/
  files : List (List Text × StoredFile)
  /-- The directories with the names on the way to each. No names lead to the working directory. -/
  directories : List (List Text × StoredDirectory)
  /-- The permission bits that new files and directories do not get. -/
  mask : Nat := 0o022
  /-- The most bytes that the disk takes for one file, if there is a limit. -/
  limit : Option Nat := none

/-- What may be done with a file or a directory. -/
inductive Right where
  | read
  | write
  /-- Run a file, or follow a name in a directory. -/
  | pass
deriving DecidableEq

/-- The bit of a right within its group of three. -/
def Right.bit : Right → Nat
  | .read => 4
  | .write => 2
  | .pass => 1

/-- Whether permission bits grant a right to the user. One group of the bits counts for her, and no
other. -/
def Standing.allows (standing : Standing) (bits : Nat) (right : Right) : Bool :=
  let group := if standing.owns then bits >>> 6 else if standing.inGroup then bits >>> 3 else bits
  group &&& right.bit != 0

/-- Where a path leads. -/
inductive Place where
  /-- To a file. -/
  | file (names : List Text) (file : StoredFile)
  /-- To a directory. -/
  | directory (names : List Text)
  /-- To a directory that the working directory is in. -/
  | outside
  /-- To a name in a directory that nothing has. -/
  | vacant (names : List Text)

namespace FileStore

/-- The twelve permission bits. -/
def allBits : Nat := 0o7777

/-- The permission bits that files are made with unless others are asked for. -/
def usualFileBits : Nat := 0o666

/-- The permission bits that directories are made with. -/
def usualDirectoryBits : Nat := 0o777

/-- The bit that lends the rights of its owner to a program. -/
def setUserBit : Nat := 0o4000

/-- The bit that lends the rights of its group to a program, and the group of a directory to the
files in it. -/
def setGroupBit : Nat := 0o2000

/-- The bits that something new gets of those asked for, where some are masked. -/
def unmasked (mask bits : Nat) : Nat :=
  bits &&& (allBits ^^^ mask)

/-- The permission bits that a new file or directory gets of those asked for. -/
def granted (store : FileStore) (bits : Nat) : Nat :=
  unmasked store.mask bits

/-- A store without files, where files and directories are made for others to read and for the
owner alone to write. -/
def empty : FileStore where
  files := []
  directories := [([], { mode := unmasked 0o022 usualDirectoryBits })]

/-- Follows names from above the working directory, where nothing is known but the directories
that lead to it. -/
def walkAbove (names : List Text) : Except FileFault Place :=
  if names.all fun name => name = Path.stay ∨ name = Path.parent then .ok .outside
  else .error .notFound

/-- Whether the user may pass through a directory. -/
def canPass (store : FileStore) (names : List Text) : Bool :=
  (store.directories.lookup names).any fun found => found.standing.allows found.mode .pass

/-- Whether the user may put new names into a directory and take names away. -/
def canAlter (store : FileStore) (names : List Text) : Bool :=
  (store.directories.lookup names).any fun found => found.standing.allows found.mode .write

/-- Follows names from a directory. -/
def walk (store : FileStore) (current : List Text) : List Text → Except FileFault Place
  | [] => .ok (.directory current)
  | name :: rest =>
    -- Also a step that stays in a directory passes through it.
    if !store.canPass current then .error .denied
    else if name = Path.stay then walk store current rest
    else if name = Path.parent then
      if current = [] then walkAbove rest else walk store current.dropLast rest
    else if Path.maxNameBytes < Path.byteCount name then .error .nameTooLong
    else
      let names := current ++ [name]
      -- Directories are looked for before files.
      if (store.directories.lookup names).isSome then walk store names rest
      else
        match store.files.lookup names with
        | some file => if rest = [] then .ok (.file names file) else .error .notDirectory
        | none => if rest = [] then .ok (.vacant names) else .error .notFound

/-- Where a path leads. Nothing is known outside the working directory but its root. -/
def locate (store : FileStore) (path : Path) : Except FileFault Place :=
  if Path.maxPathBytes < path.length then .error .nameTooLong
  else if path.absolute then if path.names = [] then .ok .outside else .error .notFound
  else store.walk [] path.names

/-- The file at a path, which the user may read. -/
def file (store : FileStore) (path : Path) : Except FileFault StoredFile := do
  match ← store.locate path with
  | .file _ file => if file.standing.allows file.mode .read then return file else throw .denied
  | .directory _ | .outside => throw .isDirectory
  | .vacant _ => throw .notFound

/-- The contents of the file at a path. -/
def read (store : FileStore) (path : Text) : Except Failure Bytes := do
  let path ← Path.ofText path
  ((store.file path.normal).map (·.contents)).mapError .file

/-- Where a file can be written at a path: the names that lead there, and the file that is there
now. A path that ends in a solidus names a directory. -/
def writable (store : FileStore) (path : Path) :
    Except FileFault (List Text × Option StoredFile) := do
  match ← store.locate path with
  | .directory _ | .outside => throw .isDirectory
  | .vacant names =>
    if path.endsInSolidus then throw .isDirectory
    else if store.canAlter names.dropLast then return (names, none)
    else throw .denied
  | .file names file =>
    if path.endsInSolidus then throw .isDirectory
    else if file.standing.allows file.mode .write then return (names, some file)
    else throw .denied

/-- Puts a file under some names, in the place of one that is there. -/
def put (store : FileStore) (names : List Text) (file : StoredFile) : FileStore :=
  if (store.files.lookup names).isSome then
    { store with files := store.files.map fun entry =>
        if entry.1 = names then (names, file) else entry }
  else { store with files := store.files ++ [(names, file)] }

/-- The permission bits that a mode asks for, if the system can be asked for it. -/
def modeBits? (mode : Int) : Option Nat :=
  if -0x80000000 ≤ mode ∧ mode < 0x80000000 then some (mode % (allBits + 1)).toNat else none

/-- The permission bits that a mode asks for. -/
def modeBits (mode : Int) : Except Failure Nat :=
  match modeBits? mode with
  | some bits => .ok bits
  | none => .error .outOfRange

end FileStore

end FleetToken
