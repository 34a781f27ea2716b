import FleetToken.Claims.Issue
import FleetToken.Claims.Types
import FleetToken.Key.Basic
import FleetToken.Text.Quoted

/-!
# Errors

Everything that can go wrong with a token, by its cause. The wording of an error is one function
of the cause. Beside the errors of tokens there are failures of the surroundings: settings that do
not parse, files that cannot be used, and values outside what can be represented.

## Main definitions

- `TokenError`, with `TokenError.message?`.
- `Failure`: an error of a token or of the surroundings.
-/

namespace FleetToken

/-- What lies behind an error whose message leaves it out. -/
inductive Cause where
  | malformedJson
  | undecodableText
  | unencodableText
  | malformedBase64
  /-- A value that is not acceptable. -/
  | badValue
  | wrongType
  | unusableKey
  /-- A date that has no wire form. -/
  | unserializable
deriving DecidableEq

/-- Why key material is refused. -/
inductive KeyMaterialFault where
  | seedNotAscii
  | seedEmpty
  /-- A seed has something other than a digit where a digit should be. -/
  | seedNotHex (position : Nat)
  | noPem
  /-- The PEM block holds no usable key. -/
  | pemUnreadable (cause : Cause)
deriving DecidableEq

def KeyMaterialFault.message : KeyMaterialFault → Text
  | .seedNotAscii => "seed is not hex encoded"
  | .seedEmpty => "seed is empty"
  | .seedNotHex position =>
    Text.ofString "seed is not hex encoded: non-hexadecimal number found in fromhex() arg "
      ++ Text.ofString "at position " ++ Text.ofNat position
  | .noPem => "no PEM data found"
  | .pemUnreadable _ => "could not parse PEM key"

/-- What is not supported about a key or an algorithm. -/
inductive UnsupportedKey where
  /-- The value handed in as a key. -/
  | keyType (typeName : String)
  | pemKeyType (typeName : String)
  | signingMethod (name : Text)
deriving DecidableEq

def UnsupportedKey.message : UnsupportedKey → Text
  | .keyType typeName => Text.ofString "unsupported key type " ++ Text.ofString typeName
  | .pemKeyType typeName => Text.ofString "unsupported PEM key type " ++ Text.ofString typeName
  | .signingMethod name => Text.ofString "unsupported signing method " ++ name

/-- Why claims are refused. -/
inductive ClaimsFault where
  /-- Members that do not fit the fields of a kind of claims. -/
  | payload (kind : ClaimsType) (issues : List Issue)
  | wrongPurpose (expected : Purpose)
  /-- A purpose that no kind of claims belongs to. -/
  | unknownPurpose
  /-- The end of validity is not after the time of issue. -/
  | emptyLifetime
  | validityNotPositive
  | purposeRequired
  /-- No place to be provisioned at. -/
  | brokerRequired
  | callerRequired
  | identityRequired
  /-- No collective, or one without a name. -/
  | collectiveRequired
  | organizationRequired
  | organizationInvalid (name : Text)
  | publicKeyRequired
  /-- A public key that cannot be embedded. -/
  | publicKeyUnsupported (typeName : String)
  /-- A client token that names no caller. -/
  | noCaller
  /-- A server token that names no identity. -/
  | noServerIdentity
deriving DecidableEq

def ClaimsFault.message : ClaimsFault → Text
  | .payload kind _ =>
    Text.ofString "invalid " ++ Text.ofString kind.name ++ Text.ofString " payload"
  | .wrongPurpose expected => Text.ofString "not a " ++ expected.text ++ Text.ofString " token"
  | .unknownPurpose => "unknown token purpose <Purpose.UNKNOWN: ''>"
  | .emptyLifetime => "expiry must be after issue time"
  | .validityNotPositive => "validity must be positive"
  | .purposeRequired => "purpose is required"
  | .brokerRequired => "srv domain or urls required"
  | .callerRequired => "caller id is required"
  | .identityRequired => "identity is required"
  | .collectiveRequired => "at least one collective is required"
  | .organizationRequired => "organization is required"
  | .organizationInvalid name => Text.ofString "invalid organization " ++ Text.quoted name
  | .publicKeyRequired => "public key is required"
  | .publicKeyUnsupported typeName =>
    Text.ofString "invalid public key: " ++ (UnsupportedKey.keyType typeName).message
  | .noCaller => "no caller in token"
  | .noServerIdentity => "no server identity in token"

/-- Why claims are not signed. -/
inductive SigningFault where
  | privateKeyRequired
  /-- The claims have no wire form or the key cannot sign. -/
  | couldNotSign (cause : Cause)
deriving DecidableEq

def SigningFault.message : SigningFault → Text
  | .privateKeyRequired => "private key required for signing"
  | .couldNotSign _ => "could not sign token"

/-- The segments of a token. -/
inductive Segment where
  | header
  | payload
  | signature
deriving DecidableEq

def Segment.word : Segment → String
  | .header => "header"
  | .payload => "payload"
  | .signature => "crypto"

/-- What is wrong with the structure or the header of a token. -/
inductive StructureFault where
  /-- The token is neither text nor bytes. -/
  | notText
  /-- There are fewer than two dots. -/
  | missingSegments
  /-- A segment is not written in strict Base64. -/
  | padding (segment : Segment)
  | headerUnreadable (cause : Cause)
  | headerNotObject
  /-- The header says that the payload is detached, and there is one. -/
  | payloadNotEmpty
  | keyIdNotText
  /-- The critical extensions are no list, or none are listed. -/
  | criticalNotList
  | criticalNotText
  | criticalUnknown (name : Text)
  /-- A critical extension is not in the header. -/
  | criticalAbsent (name : Text)
deriving DecidableEq

def StructureFault.message : StructureFault → Text
  | .notText => "Invalid token type. Token must be a <class 'bytes'>"
  | .missingSegments => "Not enough segments"
  | .padding segment =>
    Text.ofString "Invalid " ++ Text.ofString segment.word ++ Text.ofString " padding"
  | .headerUnreadable _ => "Invalid header string"
  | .headerNotObject => "Invalid header string: must be a json object"
  | .payloadNotEmpty => "Payload segment must be empty when 'b64' is false."
  | .keyIdNotText => "Key ID header parameter must be a string"
  | .criticalNotList => "Invalid 'crit' header: must be a non-empty list"
  | .criticalNotText => "Invalid 'crit' header: values must be strings"
  | .criticalUnknown name => Text.ofString "Unsupported critical extension: " ++ name
  | .criticalAbsent name =>
    Text.ofString "Critical extension '" ++ name ++ Text.ofString "' is missing from headers"

/-- The claims that bound the validity of a token in time. -/
inductive TimeClaim where
  | issuedAt
  | notBefore
  | expiresAt
deriving DecidableEq

namespace TimeClaim

def wire : TimeClaim → String
  | .issuedAt => "iat"
  | .notBefore => "nbf"
  | .expiresAt => "exp"

def title : TimeClaim → String
  | .issuedAt => "Issued At"
  | .notBefore => "Not Before"
  | .expiresAt => "Expiration Time"

end TimeClaim

/-- Why a token is refused apart from its signature, its expiry and its claims. -/
inductive InvalidTokenFault where
  | malformed (fault : StructureFault)
  /-- The payload is said to be detached. -/
  | detachedPayload
  /-- The payload is said to be detached, but not as a critical extension. -/
  | detachmentNotCritical
  /-- The key does not fit the algorithm although its label does. -/
  | unusableKey
  | payloadUnreadable (cause : Cause)
  | payloadNotObject
  | notInteger (claim : TimeClaim)
  | notYetValid (claim : TimeClaim)
  | subjectNotText
  | tokenIdNotText
  /-- The token does not have three segments. -/
  | notThreeSegments
  | segmentUnreadable (cause : Cause)
  | segmentNotObject
deriving DecidableEq

/-- The wording of a refusal; an unusable key has none. -/
def InvalidTokenFault.message? : InvalidTokenFault → Option Text
  | .malformed fault => some (Text.ofString "malformed token: " ++ fault.message)
  | .detachedPayload =>
    some (Text.ofString "It is required that you pass in a value for the \"detached_payload\" "
      ++ Text.ofString "argument to decode a message having the b64 header set to false.")
  | .detachmentNotCritical =>
    some "The 'b64' header parameter requires 'b64' to be listed in 'crit'."
  | .unusableKey => none
  | .payloadUnreadable _ => some "Invalid payload string"
  | .payloadNotObject => some "Invalid payload string: must be a json object"
  | .notInteger claim =>
    some (Text.ofString claim.title ++ Text.ofString " claim (" ++ Text.ofString claim.wire
      ++ Text.ofString ") must be an integer.")
  | .notYetValid claim =>
    some (Text.ofString "The token is not yet valid (" ++ Text.ofString claim.wire
      ++ Text.ofString ")")
  | .subjectNotText => some "Subject must be a string"
  | .tokenIdNotText => some "JWT ID must be a string"
  | .notThreeSegments => some "token must have three segments"
  | .segmentUnreadable _ => some "malformed token segment"
  | .segmentNotObject => some "token segment is not a JSON object"

/-- The parameters of a connection that must not be empty. -/
inductive ConnectionParameter where
  | collective
  | seedFile
deriving DecidableEq

def ConnectionParameter.word : ConnectionParameter → String
  | .collective => "collective"
  | .seedFile => "seedfile"

/-- An error of a token, its claims or its key. -/
inductive TokenError where
  /-- Key material cannot be read. -/
  | invalidKeyMaterial (fault : KeyMaterialFault)
  /-- A seed does not have thirty-two bytes. -/
  | invalidSeedLength
  /-- A key or an algorithm is neither Ed25519 nor RSA. -/
  | unsupportedKeyType (what : UnsupportedKey)
  /-- Claims are incomplete or not the expected ones. -/
  | invalidClaims (fault : ClaimsFault)
  /-- No token could be made. -/
  | signingFailure (fault : SigningFault)
  /-- There is no key to verify with. -/
  | missingKey
  /-- The family of the key is not that of the algorithm, which wants another. -/
  | keyTypeMismatch (required : KeyFamily)
  /-- The signature does not belong to the token under the key. -/
  | signatureInvalid (algorithm : Text)
  /-- The signature is right and the token has expired. -/
  | tokenExpired
  /-- The token is malformed or refused for another reason. -/
  | invalidToken (fault : InvalidTokenFault)
  /-- A parameter is empty. -/
  | missingParameter (parameter : ConnectionParameter)
  /-- Tokens of this purpose cannot be used to connect. -/
  | unsupportedPurpose (purpose : Purpose)
deriving DecidableEq

namespace TokenError

/-- The wording of an error, if it has one. -/
def message? : TokenError → Option Text
  | .invalidKeyMaterial fault => some fault.message
  | .invalidSeedLength => some "invalid seed length"
  | .unsupportedKeyType what => some what.message
  | .invalidClaims fault => some fault.message
  | .signingFailure fault => some fault.message
  | .missingKey => some "invalid public key"
  | .keyTypeMismatch required =>
    some (Text.ofString required.name ++ Text.ofString " public key required")
  | .signatureInvalid _ => some "Signature verification failed"
  | .tokenExpired => some "Signature has expired"
  | .invalidToken fault => fault.message?
  | .missingParameter parameter =>
    some (Text.ofString parameter.word ++ Text.ofString " is required")
  | .unsupportedPurpose purpose =>
    some (Text.ofString "unsupported token purpose: " ++ purpose.text)

/-- What lies behind an error whose message leaves it out. -/
def cause? : TokenError → Option Cause
  | .invalidKeyMaterial (.pemUnreadable cause) => some cause
  | .signingFailure (.couldNotSign cause) => some cause
  | .invalidToken (.malformed (.headerUnreadable cause)) => some cause
  | .invalidToken (.payloadUnreadable cause) => some cause
  | .invalidToken (.segmentUnreadable cause) => some cause
  | _ => none

end TokenError

/-- Why a file cannot be used. -/
inductive FileFault where
  /-- There is no such file. -/
  | notFound
  /-- The path leads to a directory. -/
  | isDirectory
  /-- The path leads through a file. -/
  | notDirectory
  /-- A name in the path is too long. -/
  | nameTooLong
  /-- The permission bits of a file, or of a directory on the way, forbid the use. -/
  | denied
  /-- A file is where a directory should be made. -/
  | exists
  /-- The permission bits belong to another user. -/
  | notPermitted
  /-- The disk does not take what is written. -/
  | noSpace
deriving DecidableEq

def FileFault.message : FileFault → String
  | .notFound => "No such file or directory"
  | .isDirectory => "Is a directory"
  | .notDirectory => "Not a directory"
  | .nameTooLong => "File name too long"
  | .denied => "Permission denied"
  | .exists => "File exists"
  | .notPermitted => "Operation not permitted"
  | .noSpace => "No space left on device"

/-- The models whose values are checked. -/
inductive CheckedModel where
  /-- Claims of some kind. -/
  | claims (kind : ClaimsType)
  /-- The settings. -/
  | settings
  /-- A key pair. -/
  | keyPair
deriving DecidableEq

/-- The name of a model. -/
def CheckedModel.name : CheckedModel → String
  | .claims kind => kind.name
  | .settings => "TokenSettings"
  | .keyPair => "KeyPair"

/-- An error of a token, or a failure of its surroundings. -/
inductive Failure where
  /-- An error of a token. -/
  | token (error : TokenError)
  /-- Values that do not fit a model. -/
  | invalid (model : CheckedModel) (issues : List Issue)
  /-- A file that cannot be used. -/
  | file (fault : FileFault)
  /-- A path that no file can have. -/
  | badPath
  /-- A date, a span or a mode out of range. -/
  | outOfRange
  /-- An instant and a naive reading that are to be compared. -/
  | incomparableDates
  /-- An algorithm name that is a list or an object. -/
  | unnamedAlgorithm
  /-- A key of the wrong kind under the label that an algorithm asks for. -/
  | wrongKeyKind
  /-- A date that has no wire form. -/
  | unserializable
  /-- A value that is nested too deeply to be written. -/
  | tooDeep
  /-- A value that is nested so deeply that the call stack is exhausted. -/
  | stackExhausted
  /-- A text with a lone surrogate where bytes are needed. -/
  | unencodableText
  /-- Bytes that are no text. -/
  | undecodableText
  /-- A key of an algorithm or on a curve that is not known. -/
  | unsupportedAlgorithm
  /-- A token that is no text where only text can be inspected. -/
  | notText
deriving DecidableEq

instance : Coe TokenError Failure := ⟨Failure.token⟩

end FleetToken
