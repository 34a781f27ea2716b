import FleetToken.Claims.Building
import FleetToken.Connection
import FleetToken.Token.File
import FleetToken.Proofs.Bytes.Base64
import FleetToken.Proofs.Json.Number
import FleetToken.Proofs.Bytes.Number
import FleetToken.Proofs.Crypto.Rsa
import FleetToken.Proofs.Json.Members
import FleetToken.Proofs.Json.Room
import FleetToken.Proofs.Json.RoundTrip
import FleetToken.Proofs.Token.Authenticity
import FleetToken.Proofs.Token.Stack
import FleetToken.Proofs.Token.Signed
import FleetToken.Proofs.Binary64.Rounding
import FleetToken.Proofs.Claims.Portable
import FleetToken.Proofs.Claims.Purpose
import FleetToken.Proofs.Claims.RoundTrip
import FleetToken.Proofs.Claims.FixedPoint
import FleetToken.Proofs.Claims.TwoPhases
import FleetToken.Proofs.Token.Connection
import FleetToken.Proofs.Token.Containment
import FleetToken.Proofs.Token.Inspection
import FleetToken.Proofs.Token.PurposeSeparation
import FleetToken.Proofs.Token.RoundTrip
import FleetToken.Proofs.Text.Numeral
import FleetToken.Proofs.Time.Reader
import FleetToken.Proofs.Token.Expiry
import FleetToken.Proofs.Token.Lifetime
import FleetToken.Proofs.Token.SignedInspection
import FleetToken.Proofs.Token.Stages
import FleetToken.Proofs.Token.Validity
import FleetToken.Proofs.Token.Routing
import FleetToken.Proofs.Token.Indistinguishable
import FleetToken.Proofs.Claims.Issuance
import FleetToken.Proofs.Claims.Organization
import FleetToken.Proofs.Claims.Provisioning
import FleetToken.Proofs.Claims.Embedding
import FleetToken.Proofs.Key.SeedFile
import FleetToken.Proofs.FileStore.Action
import FleetToken.Proofs.Claims.BuildingContainment
import FleetToken.Proofs.Token.Saving
import FleetToken.Proofs.Token.SigningContainment
import FleetToken.Proofs.Key.SeedText
import FleetToken.Proofs.Claims.Recognition
import FleetToken.Proofs.Claims.BuiltPayload
import FleetToken.Proofs.Key.Containment
import FleetToken.Proofs.Claims.BrokerUrls
import FleetToken.Proofs.Token.Inbox
