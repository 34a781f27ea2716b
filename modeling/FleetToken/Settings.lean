import FleetToken.Claims.Issue
import FleetToken.Json.Reader
import FleetToken.Text.Blank

/-!
# Settings

Defaults for new tokens, which variables of the environment may change. A variable's name is
`CHORIA_TOKENS_` and the name of a setting, in any letter case.

## Main definitions

- `Settings`, with the defaults as field defaults.
- `Settings.ofEnvironment`: the settings under some variables.
-/

namespace FleetToken

/-- Defaults for building and saving tokens. -/
structure Settings where
  /-- The seconds that a token is valid. -/
  defaultValidity : Int := 3600
  /-- The issuer of tokens. -/
  defaultIssuer : Text := Text.ofString "Choria"
  /-- The permission bits of token files. -/
  tokenFileMode : Int := 0o600
deriving DecidableEq

/-- Variables with their values; of two names that differ only in letter case the later counts. -/
abbrev Environment := List (Text × Text)

namespace Settings

/-- The most characters that a plain numeral may have, its sign included. -/
def maxNumeralLength : Nat := 4300

/-- The integer of digits without leading zeros, with a minus sign before them if negative. The
length of the digits is judged before what follows them. -/
def plainInt (t : Text) : Except Json.Fault Int :=
  let minus := CodePoint.ofChar '-'
  let negative := t.head? = some minus
  let (digits, rest) := Json.spanDigits (if negative then t.drop 1 else t)
  if digits.head? = some (CodePoint.ofChar '0') ∧ digits.length ≠ 1 then .error .malformed
  else if maxNumeralLength < t.length - rest.length then .error .tooManyDigits
  else if digits ≠ [] ∧ rest = [] then .ok (Text.signed negative (Text.digitsValue digits))
  else .error .malformed

/-- The numeral without its leading zeros, of which one is kept if neither another digit nor a
minus sign follows. -/
def dropLeadingZeros (t : Text) : Option Text :=
  let isZero (c : CodePoint) : Bool := c == CodePoint.ofChar '0' || c == CodePoint.ofChar '_'
  match t with
  | [] => none
  | c :: _ =>
    if c = CodePoint.ofChar '0' then
      match t.dropWhile isZero with
      | [] => t.getLast?.map ([·])
      | d :: rest =>
        if d.isAsciiDigit ∨ d = CodePoint.ofChar '-' then some (d :: rest)
        else if d = CodePoint.ofChar '.' then
          (t.takeWhile isZero).getLast?.map (· :: d :: rest)
        else none
    else if c.isAsciiDigit then some t
    else none

/-- The numeral without a point that zeros and nothing else follow. -/
def dropZeroFraction (t : Text) : Text :=
  let isPoint (c : CodePoint) : Bool := c == CodePoint.ofChar '.'
  let whole := t.takeWhile (fun c => !isPoint c)
  let fraction := t.drop (whole.length + 1)
  if fraction ≠ [] ∧ fraction.all (· == CodePoint.ofChar '0') then whole else t

/-- The numeral without single low lines inside it; a text with any other low line is no
numeral. -/
def dropSeparators (t : Text) : Option Text :=
  let pieces := Text.split (CodePoint.ofChar '_') t
  if pieces.all (· ≠ []) then some pieces.flatten else none

/-- The numeral in plain form: without white space around it, a plus sign, leading zeros, a
fraction of zeros and single low lines. -/
def cleaned (t : Text) : Option Text := do
  let t := Text.trimBy (fun c => c.isBlank && !c.isInformationSeparator) t
  let minus := CodePoint.ofChar '-'
  let signed := t.head? = some minus ∨ t.head? = some (CodePoint.ofChar '+')
  let unsigned ← dropLeadingZeros (if signed then t.drop 1 else t)
  let plain ← dropSeparators (dropZeroFraction unsigned)
  return if t.head? = some minus then minus :: plain else plain

/-- The integer that a variable holds: a plain numeral, or one that is plain when cleaned. -/
def readInt (t : Text) : Checked Int :=
  match plainInt t with
  | .ok n => .ok n
  | .error .tooManyDigits => .fault .intParsingSize
  | .error _ =>
    match (cleaned t).map plainInt with
    | some (.ok n) => .ok n
    | _ => .fault .intParsing

/-- The name of a variable in small letters. The Kelvin sign is a capital K too. -/
def smallName (name : Text) : Text :=
  name.toAsciiLower.map fun c => if c.val = 0x212A then CodePoint.ofChar 'k' else c

/-- The value of the variable for a setting. -/
def lookup? (environment : Environment) (name : String) : Option Text :=
  let wanted := Text.ofString "choria_tokens_" ++ Text.ofString name
  -- The later of two variables counts.
  (environment.reverse.find? fun (key, _) => smallName key = wanted).map (·.2)

/-- A setting under its variable, or the default. -/
def setting {α : Type} (environment : Environment) (name : String) (default : α)
    (read : Text → Checked α) : Checked α :=
  match lookup? environment name with
  | some t => (read t).under (.key (Text.ofString name))
  | none => .ok default

/-- The settings under the variables of an environment. -/
def ofEnvironment (environment : Environment) : Checked Settings :=
  let defaults : Settings := {}
  Settings.mk <$> setting environment "default_validity" defaults.defaultValidity readInt
    <*> setting environment "default_issuer" defaults.defaultIssuer .ok
    <*> setting environment "token_file_mode" defaults.tokenFileMode readInt

end Settings

end FleetToken
