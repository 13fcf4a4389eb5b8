import TokenBinding.Authorization.Basic
import TokenBinding.Authorization.Scripted
import TokenBinding.Authorization.Simulated
import TokenBinding.Bundle
import TokenBinding.Bytes
import TokenBinding.CommandLine.Arguments
import TokenBinding.CommandLine.Command
import TokenBinding.CommandLine.Directory
import TokenBinding.CommandLine.Host
import TokenBinding.CommandLine.Output
import TokenBinding.CommandLine.Path
import TokenBinding.CommandLine.Run
import TokenBinding.Configuration.Basic
import TokenBinding.Configuration.Reader
import TokenBinding.Configuration.Template
import TokenBinding.Duration.Basic
import TokenBinding.Duration.Text
import TokenBinding.Fingerprint
import TokenBinding.Hash.Digest
import TokenBinding.Hash.Hmac
import TokenBinding.Hash.Sha2
import TokenBinding.Identity
import TokenBinding.Issuer
import TokenBinding.Json.Binary
import TokenBinding.Json.Document
import TokenBinding.Json.Node
import TokenBinding.Json.Number
import TokenBinding.Json.Printer
import TokenBinding.Json.Reading
import TokenBinding.Json.Real
import TokenBinding.Json.Token
import TokenBinding.Json.Value
import TokenBinding.Log
import TokenBinding.Main
import TokenBinding.Message
import TokenBinding.Metadata.Basic
import TokenBinding.Metadata.Http
import TokenBinding.Metadata.Table
import TokenBinding.Nonce.Basic
import TokenBinding.Nonce.Binder
import TokenBinding.Nonce.Compound
import TokenBinding.Nonce.Stretch
import TokenBinding.Preview
import TokenBinding.Proofs.Authorization.Family
import TokenBinding.Proofs.Authorization.History
import TokenBinding.Proofs.Authorization.IssuedToken
import TokenBinding.Proofs.Authorization.Redemption
import TokenBinding.Proofs.Bundle.Grammar
import TokenBinding.Proofs.Bundle.Wire
import TokenBinding.Proofs.CommandLine.Arguments
import TokenBinding.Proofs.CommandLine.NonceCommands
import TokenBinding.Proofs.CommandLine.ReportLines
import TokenBinding.Proofs.Conversation
import TokenBinding.Proofs.Except
import TokenBinding.Proofs.Fingerprint
import TokenBinding.Proofs.Json.Canonical
import TokenBinding.Proofs.Json.Count
import TokenBinding.Proofs.Json.Grammar
import TokenBinding.Proofs.Json.Integer
import TokenBinding.Proofs.Json.Lexemes
import TokenBinding.Proofs.Json.Literal
import TokenBinding.Proofs.Json.Members
import TokenBinding.Proofs.Json.Printed
import TokenBinding.Proofs.Json.Tree
import TokenBinding.Proofs.Metadata.Http
import TokenBinding.Proofs.Nonce.Cache
import TokenBinding.Proofs.Nonce.Separation
import TokenBinding.Proofs.Nonce.Sharing
import TokenBinding.Proofs.Nonce.Spelling
import TokenBinding.Proofs.Session.Commitment
import TokenBinding.Proofs.Session.Delivery
import TokenBinding.Proofs.Session.Honest
import TokenBinding.Proofs.Session.Queue
import TokenBinding.Proofs.Session.Transcript
import TokenBinding.Proofs.Session.Turns
import TokenBinding.Proofs.Text.Base64
import TokenBinding.Proofs.Text.Base64.Canonical
import TokenBinding.Proofs.Text.Blank
import TokenBinding.Proofs.Text.Hex
import TokenBinding.Proofs.Text.Lines
import TokenBinding.Proofs.Text.Segments
import TokenBinding.Proofs.Text.Utf8
import TokenBinding.Proofs.Token.Parts
import TokenBinding.Proofs.Token.ReadBack
import TokenBinding.Proofs.Token.Reading
import TokenBinding.Proofs.Token.Signed
import TokenBinding.Proofs.Token.Unverified
import TokenBinding.Proofs.Verification.Account
import TokenBinding.Proofs.Verification.Agreement
import TokenBinding.Proofs.Verification.Answers
import TokenBinding.Proofs.Verification.Decoding
import TokenBinding.Proofs.Verification.Evidence
import TokenBinding.Proofs.Verification.Expiry
import TokenBinding.Proofs.Verification.Fatal
import TokenBinding.Proofs.Verification.Foreign
import TokenBinding.Proofs.Verification.Isolation
import TokenBinding.Proofs.Verification.Issued
import TokenBinding.Proofs.Verification.Kept
import TokenBinding.Proofs.Verification.KeyChoice
import TokenBinding.Proofs.Verification.NamesNeither
import TokenBinding.Proofs.Verification.Replay
import TokenBinding.Proofs.Verification.Reporting
import TokenBinding.Proofs.Verification.Requests
import TokenBinding.Proofs.Verification.Schedule
import TokenBinding.Proofs.Verification.Stages
import TokenBinding.Proofs.Verification.Verdict
import TokenBinding.Proofs.Verification.Verified
import TokenBinding.Provider
import TokenBinding.Session.Basic
import TokenBinding.Session.Event
import TokenBinding.Text.Base64
import TokenBinding.Text.Blank
import TokenBinding.Text.Hex
import TokenBinding.Text.Printed
import TokenBinding.Text.Quoted
import TokenBinding.Text.Segments
import TokenBinding.Token.Algorithm
import TokenBinding.Token.Claims
import TokenBinding.Token.Compact
import TokenBinding.Token.Header
import TokenBinding.Token.Key
import TokenBinding.Token.Signature
import TokenBinding.Toml.Document
import TokenBinding.Toml.Literal
import TokenBinding.Toml.Scalar
import TokenBinding.Toml.Statement
import TokenBinding.Toml.Table
import TokenBinding.Toml.Value
import TokenBinding.Verification.Check
import TokenBinding.Verification.Event
import TokenBinding.Verification.Expiry
import TokenBinding.Verification.Failure
import TokenBinding.Verification.Pass
import TokenBinding.Verification.Report
import TokenBinding.Proofs.Authorization.History
