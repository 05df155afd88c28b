import RelyingParty.Text.Blank
import RelyingParty.Text.Digits
import RelyingParty.Text.Case
import RelyingParty.Json.Printer
import RelyingParty.Json.Reader
import RelyingParty.Json.Record
import RelyingParty.Calendar.InstantText
import RelyingParty.Bytes.Hex
import RelyingParty.Bytes.Base64
import RelyingParty.Signing.Sha512
import RelyingParty.Signing.Ed25519
import RelyingParty.Assurance
import RelyingParty.Assertion.Draft
import RelyingParty.Assertion.Json
import RelyingParty.Response
import RelyingParty.Trust.Registry
import RelyingParty.Trust.Verifier
import RelyingParty.Confirmation
import RelyingParty.Schema.Check
import RelyingParty.Schema.Extract
import RelyingParty.Engine.Service
import RelyingParty.Config.Json
import RelyingParty.Config.Variables
import RelyingParty.Config.Wiring
import RelyingParty.Signing.Description
import RelyingParty.Proofs.Calendar.DateText
import RelyingParty.Proofs.Assertion.Signed
import RelyingParty.Proofs.Dataset.ReadBack
import RelyingParty.Proofs.Engine.Acceptance
import RelyingParty.Proofs.Engine.Authenticity
import RelyingParty.Proofs.Engine.Calls
import RelyingParty.Proofs.Engine.FirstFailure
import RelyingParty.Proofs.Engine.Disclosure
import RelyingParty.Proofs.Engine.Locality
import RelyingParty.Proofs.Signing.Transport
import RelyingParty.Proofs.Engine.Correlation
import RelyingParty.Proofs.Engine.Service
import RelyingParty.Proofs.Engine.Order
import RelyingParty.Proofs.Trust.Registry
import RelyingParty.Proofs.Config.ReadBack
import RelyingParty.Proofs.Calendar.Offset
import RelyingParty.Proofs.Json.Respelling
import RelyingParty.Proofs.Assertion.Respelling
import RelyingParty.Proofs.Response
import RelyingParty.Proofs.Engine.Signers
import RelyingParty.Proofs.Schema.Acceptance
import RelyingParty.Proofs.Schema.Extraction
import RelyingParty.Proofs.Confirmation.Window
import RelyingParty.Proofs.Trust.Answer
import RelyingParty.Proofs.Schema.DateOfBirth
import RelyingParty.Proofs.Config.Loading
import RelyingParty.Proofs.Dataset.Intervals
import RelyingParty.Proofs.Dataset.Legible
import RelyingParty.Proofs.Bytes.Base64
import RelyingParty.Proofs.Config.Material
import RelyingParty.Proofs.Config.KeyReadBack
import RelyingParty.Proofs.Names
import RelyingParty.Proofs.Config.Skew
