import SessionAuth.AccessToken.Algorithm
import SessionAuth.AccessToken.Claims
import SessionAuth.AccessToken.Error
import SessionAuth.AccessToken.Header
import SessionAuth.AccessToken.Signer
import SessionAuth.AccessToken.Verifier
import SessionAuth.Account.Email
import SessionAuth.Account.User
import SessionAuth.Argon2.Block
import SessionAuth.Argon2.Derive
import SessionAuth.Bytes.Base64
import SessionAuth.Bytes.ConstantTime
import SessionAuth.Config.EnvironmentFile
import SessionAuth.Config.Server
import SessionAuth.Config.Session
import SessionAuth.Database.Address
import SessionAuth.Database.Fault
import SessionAuth.Digest.Blake2b
import SessionAuth.Digest.Sha2
import SessionAuth.Event
import SessionAuth.Failure
import SessionAuth.Http.Cookie
import SessionAuth.Http.Exchange
import SessionAuth.Http.Header
import SessionAuth.Http.MediaType
import SessionAuth.Http.Message
import SessionAuth.Http.Site
import SessionAuth.Json.Number
import SessionAuth.Json.Quoted
import SessionAuth.Json.Reader
import SessionAuth.Json.Record
import SessionAuth.Json.Value
import SessionAuth.Key.Der
import SessionAuth.Key.Material
import SessionAuth.Key.Pem
import SessionAuth.Key.Tree
import SessionAuth.Log.Directive
import SessionAuth.Log.Filter
import SessionAuth.Log.Record
import SessionAuth.Main
import SessionAuth.Net.Domain
import SessionAuth.Net.SocketAddress
import SessionAuth.Net.Url
import SessionAuth.Net.UrlHost
import SessionAuth.Password.Basic
import SessionAuth.Password.Error
import SessionAuth.Password.Hasher
import SessionAuth.Password.Phc
import SessionAuth.Problem
import SessionAuth.Proofs.AccessToken.Claims
import SessionAuth.Proofs.AccessToken.RoundTrip
import SessionAuth.Proofs.AccessToken.Soundness
import SessionAuth.Proofs.Account.Grammar
import SessionAuth.Proofs.Account.Spelling
import SessionAuth.Proofs.Bytes.Base64
import SessionAuth.Proofs.Bytes.ConstantTime
import SessionAuth.Proofs.Config.Padding
import SessionAuth.Proofs.Config.Server
import SessionAuth.Proofs.Http.Availability
import SessionAuth.Proofs.Http.Bearer
import SessionAuth.Proofs.Http.Confirmation
import SessionAuth.Proofs.Http.Cookie
import SessionAuth.Proofs.Http.Enumeration
import SessionAuth.Proofs.Http.Lifetimes
import SessionAuth.Proofs.Http.Login
import SessionAuth.Proofs.Http.Lookup
import SessionAuth.Proofs.Http.ReadBack
import SessionAuth.Proofs.Http.Secrecy
import SessionAuth.Proofs.Json.Apply
import SessionAuth.Proofs.Json.Fields
import SessionAuth.Proofs.Json.Keeps
import SessionAuth.Proofs.Json.Members
import SessionAuth.Proofs.Json.Number
import SessionAuth.Proofs.Json.Object
import SessionAuth.Proofs.Json.Quoted
import SessionAuth.Proofs.Json.Resume
import SessionAuth.Proofs.Json.Skip
import SessionAuth.Proofs.Json.Walk
import SessionAuth.Proofs.Password.Hasher
import SessionAuth.Proofs.Password.Phc
import SessionAuth.Proofs.RefreshToken.Expiry
import SessionAuth.Proofs.RefreshToken.Lifetime
import SessionAuth.Proofs.Result
import SessionAuth.Proofs.Service.Admission
import SessionAuth.Proofs.Service.Alike
import SessionAuth.Proofs.Service.Alone
import SessionAuth.Proofs.Service.Atomicity
import SessionAuth.Proofs.Service.Authenticity
import SessionAuth.Proofs.Service.CleanUp
import SessionAuth.Proofs.Service.Completion
import SessionAuth.Proofs.Service.Conduct
import SessionAuth.Proofs.Service.Continuity
import SessionAuth.Proofs.Service.Effect
import SessionAuth.Proofs.Service.Exclusion
import SessionAuth.Proofs.Service.Follows
import SessionAuth.Proofs.Service.Interleaving
import SessionAuth.Proofs.Service.Isolation
import SessionAuth.Proofs.Service.Knowledge
import SessionAuth.Proofs.Service.Lineage
import SessionAuth.Proofs.Service.Means
import SessionAuth.Proofs.Service.Opening
import SessionAuth.Proofs.Service.Outage
import SessionAuth.Proofs.Service.Ownership
import SessionAuth.Proofs.Service.Permanence
import SessionAuth.Proofs.Service.Progress
import SessionAuth.Proofs.Service.Quota
import SessionAuth.Proofs.Service.Record
import SessionAuth.Proofs.Service.Redemption
import SessionAuth.Proofs.Service.Refusal
import SessionAuth.Proofs.Service.Registration
import SessionAuth.Proofs.Service.Rehearsal
import SessionAuth.Proofs.Service.Renewal
import SessionAuth.Proofs.Service.Return
import SessionAuth.Proofs.Service.Rotation
import SessionAuth.Proofs.Service.Scenarios
import SessionAuth.Proofs.Service.Seclusion
import SessionAuth.Proofs.Store.Consistency
import SessionAuth.Proofs.Store.Holdings
import SessionAuth.Proofs.Store.Journal
import SessionAuth.Proofs.Store.Locks
import SessionAuth.Proofs.Store.Part
import SessionAuth.Proofs.Store.Representation
import SessionAuth.Proofs.Store.Serial
import SessionAuth.Proofs.Store.Serialisation
import SessionAuth.Proofs.Store.Transaction
import SessionAuth.Proofs.Store.Undo
import SessionAuth.Proofs.Store.View
import SessionAuth.Proofs.Text.Blank
import SessionAuth.Proofs.Text.Compatibility
import SessionAuth.Proofs.Text.Decimal
import SessionAuth.Proofs.Text.LowerCase
import SessionAuth.Proofs.Text.Split
import SessionAuth.Proofs.Text.Utf8
import SessionAuth.Proofs.Uuid
import SessionAuth.RefreshToken.Basic
import SessionAuth.RefreshToken.Fingerprint
import SessionAuth.Service.Program
import SessionAuth.Service.Queue
import SessionAuth.Service.Session
import SessionAuth.Signature.Ecdsa
import SessionAuth.Signature.Ed25519
import SessionAuth.Signature.Modular
import SessionAuth.Signature.Rsa
import SessionAuth.Startup
import SessionAuth.Store.Backend
import SessionAuth.Store.Basic
import SessionAuth.Store.Request
import SessionAuth.Store.Vault
import SessionAuth.Text.Alphanumeric
import SessionAuth.Text.Blank
import SessionAuth.Text.CaseFold
import SessionAuth.Text.CodeRanges
import SessionAuth.Text.Compatibility
import SessionAuth.Text.Compatibility.Table
import SessionAuth.Text.Decimal
import SessionAuth.Text.Direction
import SessionAuth.Text.Escape
import SessionAuth.Text.Hexadecimal
import SessionAuth.Text.Joining
import SessionAuth.Text.LowerCase
import SessionAuth.Text.LowerCase.Table
import SessionAuth.Text.Mark
import SessionAuth.Text.Pattern
import SessionAuth.Text.Printable
import SessionAuth.Text.Punycode
import SessionAuth.Text.Quoted
import SessionAuth.Text.Split
import SessionAuth.Text.Utf8
import SessionAuth.Time.Calendar
import SessionAuth.Time.Instant
import SessionAuth.Time.Stamp
import SessionAuth.Uuid
