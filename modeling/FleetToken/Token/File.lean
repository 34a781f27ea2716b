import FleetToken.FileStore.Action
import FleetToken.Key.File
import FleetToken.Settings
import FleetToken.Token.Signing
import FleetToken.Token.Verification

/-!
# Tokens and files

Signing and verifying with keys kept in files, and saving tokens. A token is signed before its
file is touched.

## Main definitions

- `FileStore.signToken`, `FileStore.parseToken`: with a key file.
- `FileAction.saveToken`: signs claims and writes the token.
-/

namespace FleetToken

namespace FileStore

/-- The token of claims, signed with a key file. -/
def signToken (store : FileStore) (claims : Claims) (keyFile : Text) (zone : LocalZone := .utc) :
    Except Failure Text := do
  claims.sign (.pair (← store.keyPair keyFile)) zone

/-- The claims of a wanted kind in a token that is right under a key file. -/
def parseToken (store : FileStore) (token : TokenInput) (keyFile : Text) (clock : Clock)
    (kind : ClaimsType) (stack : Stack := {}) : Except Failure Claims := do
  FleetToken.parseToken token (.pair (← store.keyPair keyFile)) clock kind stack

/-- The mode of a token file: the wished one, or the one in the settings. -/
def tokenMode (environment : Environment) (wished : Option Int) : Except Failure Int :=
  match wished with
  | some mode => .ok mode
  | none =>
    ((Settings.ofEnvironment environment).map (·.tokenFileMode)).toExcept.mapError
      (.invalid .settings)

end FileStore

/-- Signs claims with a key file and writes the token to a file with the permission bits of a
mode. -/
def FileAction.saveToken (environment : Environment) (claims : Claims) (keyFile outFile : Text)
    (mode : Option Int) (zone : LocalZone := .utc) : FileAction Unit := do
  let mode ← look fun _ => FileStore.tokenMode environment mode
  let token ← look fun store => store.signToken claims keyFile zone
  replace outFile token.toUtf8 mode

end FleetToken
