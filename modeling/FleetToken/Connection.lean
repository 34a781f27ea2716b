import FleetToken.Digest.Md5
import FleetToken.Key.File
import FleetToken.Token.Inspection

/-!
# Broker connections

What a client or a server needs to connect to a broker: a private inbox for replies, its token, and
signatures of the broker's nonces. The token is inspected and not verified; the broker verifies it.

## Main definitions

- `inboxFor`: the inbox of an identity in a collective.
- `Connection`, made by `Connection.ofToken`.
- `Connection.sign`: the signature of a nonce.
-/

namespace FleetToken

/-- The inbox of an identity in a collective: the identity is hidden behind its digest. -/
def inboxFor (collective identity : Text) : Except Failure Text :=
  match identity.encodeUtf8? with
  | some bytes =>
    .ok (collective ++ Text.ofString ".reply." ++ Hex.encode (Digest.md5 bytes))
  | none => .error .unencodableText

/-- The identity that a token states: the caller of a client token or the identity of a server
token, neither of them empty. -/
def statedIdentity (token : TokenInput) (stack : Stack := {}) : Except Failure Text := do
  let inspected ← InspectedToken.ofInput token stack
  match inspected.purpose with
  | .client =>
    match ← inspected.claimsAs .client stack.purpose with
    | .client claims =>
      if claims.callerId = [] then throw (.token (.invalidClaims .noCaller))
      else return claims.callerId
    | _ => throw (.token (.invalidClaims .noCaller))
  | .server =>
    match ← inspected.claimsAs .server stack.purpose with
    | .server claims =>
      if claims.identity = [] then throw (.token (.invalidClaims .noServerIdentity))
      else return claims.identity
    | _ => throw (.token (.invalidClaims .noServerIdentity))
  | purpose => throw (.token (.unsupportedPurpose purpose))

/-- What is needed to connect. -/
structure Connection where
  /-- The subject that replies are sent to. -/
  inbox : Text
  /-- The token that is shown to the broker. -/
  token : TokenInput
  /-- The file with the seed that nonces are signed with. -/
  seedFile : Text

namespace Connection

/-- The connection of a token within a collective. The seed file is not read yet. -/
def ofToken (token : TokenInput) (collective seedFile : Text) (stack : Stack := {}) :
    Except Failure Connection := do
  if collective = [] then throw (.token (.missingParameter .collective))
  if seedFile = [] then throw (.token (.missingParameter .seedFile))
  return ⟨← inboxFor collective (← statedIdentity token stack), token, seedFile⟩

/-- The signature of a nonce. The seed file is read each time. -/
def sign (c : Connection) (store : FileStore) (nonce : Bytes) : Except Failure Bytes :=
  store.signWithSeed c.seedFile nonce

/-- The line that is logged when a connection is made. -/
def openingLine (c : Connection) : Text :=
  Text.ofString "Using inbox " ++ c.inbox

/-- The line that is logged before a nonce is signed. -/
def signingLine (c : Connection) : Text :=
  Text.ofString "Signing nonce using seed file " ++ c.seedFile

end Connection

end FleetToken
