import FleetToken.FileStore.Basic
import FleetToken.Key.Loading

/-!
# Key files

Keys kept in files. A seed file holds hexadecimal text; a key file holds that or a PEM document.

## Main definitions

- `FileStore.keyPair`: the pair of a key file.
- `FileStore.seedPair`: the pair of a seed file.
- `FileStore.signWithSeed`: the signature of bytes under a seed file.
-/

namespace FleetToken

namespace FileStore

/-- The pair of a key file. -/
def keyPair (store : FileStore) (path : Text) : Except Failure KeyPair := do
  KeyPair.ofFile (← store.read path)

/-- The seed of a seed file. -/
def seed (store : FileStore) (path : Text) : Except Failure Ed25519.Seed := do
  ((KeyMaterial.bytes (← store.read path)).seed).mapError .token

/-- The pair of a seed file. -/
def seedPair (store : FileStore) (path : Text) : Except Failure KeyPair :=
  (store.seed path).map fun seed => .ofPrivate (.ed25519 seed)

/-- The Ed25519 signature of some bytes under a seed file. -/
def signWithSeed (store : FileStore) (path : Text) (message : Bytes) : Except Failure Bytes :=
  (store.seed path).map fun seed => Ed25519.sign seed message

end FileStore

end FleetToken
