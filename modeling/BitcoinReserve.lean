import BitcoinReserve.Account
import BitcoinReserve.Authority
import BitcoinReserve.Bank.Attesting
import BitcoinReserve.Bank.Enforcing
import BitcoinReserve.Bank.Escalating
import BitcoinReserve.Bank.Governing
import BitcoinReserve.Bank.Redeeming
import BitcoinReserve.Bank.State
import BitcoinReserve.Bank.Syncing
import BitcoinReserve.Bank.Wallets
import BitcoinReserve.Bitcoin.Address
import BitcoinReserve.Bitcoin.Base58
import BitcoinReserve.Bitcoin.Bech32
import BitcoinReserve.Bitcoin.CompactSize
import BitcoinReserve.Bitcoin.Evidence
import BitcoinReserve.Bitcoin.Header
import BitcoinReserve.Bitcoin.Merkle
import BitcoinReserve.Bitcoin.Network
import BitcoinReserve.Bitcoin.Script
import BitcoinReserve.Bitcoin.Transaction
import BitcoinReserve.Bytes
import BitcoinReserve.Crypto.Der
import BitcoinReserve.Crypto.Ecdsa
import BitcoinReserve.Crypto.Hmac
import BitcoinReserve.Crypto.Secp256k1
import BitcoinReserve.Crypto.Sha256
import BitcoinReserve.Domain.Composition
import BitcoinReserve.Domain.Folding
import BitcoinReserve.Domain.Name
import BitcoinReserve.Domain.Preparation
import BitcoinReserve.Domain.Punycode
import BitcoinReserve.Http.Route
import BitcoinReserve.Http.Server
import BitcoinReserve.Http.Target
import BitcoinReserve.Http.View
import BitcoinReserve.Json.Binary64
import BitcoinReserve.Json.Encoding
import BitcoinReserve.Json.Printer
import BitcoinReserve.Json.Reader
import BitcoinReserve.Json.Value
import BitcoinReserve.Json.Wire
import BitcoinReserve.Ledger
import BitcoinReserve.Notice
import BitcoinReserve.Operation
import BitcoinReserve.Oracle
import BitcoinReserve.Parameters
import BitcoinReserve.Proofs.Ledger.Amendment
import BitcoinReserve.Proofs.Ledger.Readings
import BitcoinReserve.Proofs.Outcome
import BitcoinReserve.Proofs.Table
import BitcoinReserve.Redemption
import BitcoinReserve.Refusal
import BitcoinReserve.Role
import BitcoinReserve.SignedAttestation
import BitcoinReserve.Status
import BitcoinReserve.Table
import BitcoinReserve.Text.Basic
import BitcoinReserve.Text.Blank
import BitcoinReserve.Text.Cut
import BitcoinReserve.Text.Digit
import BitcoinReserve.Text.Hex
import BitcoinReserve.Text.Letter
import BitcoinReserve.Text.Printable
import BitcoinReserve.Text.Quoted
import BitcoinReserve.Text.Rows
import BitcoinReserve.Text.Utf8
import BitcoinReserve.Text.Wide
import BitcoinReserve.Token
import BitcoinReserve.Url.Ascii
import BitcoinReserve.Url.Escape
import BitcoinReserve.Url.Literal
import BitcoinReserve.Url.Split
import BitcoinReserve.Violation
import BitcoinReserve.Watch
import BitcoinReserve.Proofs.Ledger.Balance
import BitcoinReserve.Proofs.Bank.Moves
import BitcoinReserve.Proofs.Bank.Steps
import BitcoinReserve.Proofs.Bank.Runs
import BitcoinReserve.Proofs.Bank.Accounting
import BitcoinReserve.Proofs.Bitcoin.Branches
import BitcoinReserve.Proofs.Bitcoin.Vectors
import BitcoinReserve.Proofs.Bitcoin.Confirmation
import BitcoinReserve.Proofs.Bitcoin.Acceptance
import BitcoinReserve.Proofs.Bitcoin.Grammar
import BitcoinReserve.Proofs.Bitcoin.Inclusion
import BitcoinReserve.Proofs.Bitcoin.Serialization
import BitcoinReserve.Proofs.Bitcoin.Recovery
import BitcoinReserve.Proofs.Bank.Burns
import BitcoinReserve.Proofs.Redemption.Records
import BitcoinReserve.Proofs.Bank.Openings
import BitcoinReserve.Proofs.Bank.Lifecycle
import BitcoinReserve.Proofs.Bank.Payments
import BitcoinReserve.Proofs.Bank.Payouts
import BitcoinReserve.Proofs.Bank.Wallets
import BitcoinReserve.Proofs.Bytes
import BitcoinReserve.Proofs.Preimage
import BitcoinReserve.Proofs.Bitcoin.Work
import BitcoinReserve.Proofs.Ledger.Course
import BitcoinReserve.Proofs.Bank.Reviews
import BitcoinReserve.Proofs.Trail
import BitcoinReserve.Proofs.Bank.Statuses
import BitcoinReserve.Proofs.Oracle.Rounds
import BitcoinReserve.Proofs.Oracle.Acts
import BitcoinReserve.Proofs.Oracle.Journal
import BitcoinReserve.Proofs.Bank.Attestations
import BitcoinReserve.Proofs.Bank.Replays
import BitcoinReserve.Proofs.Bank.Reports
import BitcoinReserve.Proofs.Bank.Backing
import BitcoinReserve.Proofs.Bank.Motions
import BitcoinReserve.Proofs.Bank.Proposals
import BitcoinReserve.Proofs.Bank.Failures
import BitcoinReserve.Proofs.Bank.Freezes
import BitcoinReserve.Proofs.Bank.Privileges
import BitcoinReserve.Proofs.Bank.OpenRounds
import BitcoinReserve.Proofs.Bank.Cover
import BitcoinReserve.Proofs.Ledger.Isolation
import BitcoinReserve.Proofs.Oracle.Isolation
import BitcoinReserve.Proofs.Redemption.Isolation
import BitcoinReserve.Proofs.Bank.Isolation
import BitcoinReserve.Proofs.Bitcoin.RoundTrip
import BitcoinReserve.Proofs.Bitcoin.Scripts
import BitcoinReserve.Proofs.Bitcoin.Canonical
import BitcoinReserve.Proofs.Http.Reading
import BitcoinReserve.Proofs.Http.Answers
import BitcoinReserve.Proofs.Bank.Fulfilments
import BitcoinReserve.Proofs.Bank.Headroom
import BitcoinReserve.Proofs.Bank.Batches
import BitcoinReserve.Proofs.Bank.Syncs
import BitcoinReserve.Proofs.Bank.Spacing
import BitcoinReserve.Proofs.Oracle.Majority
import BitcoinReserve.Proofs.Bank.Consensus
import BitcoinReserve.Proofs.Bitcoin.Continuation
import BitcoinReserve.Proofs.Bitcoin.Payloads
import BitcoinReserve.Proofs.Bank.Enforcements
import BitcoinReserve.Proofs.Bank.Agenda
import BitcoinReserve.Proofs.Bank.Controls
import BitcoinReserve.Proofs.Bitcoin.Offsets
import BitcoinReserve.Proofs.Ledger.Journal
import BitcoinReserve.Proofs.Text.Hex
import BitcoinReserve.Proofs.Json.Wire
import BitcoinReserve.Proofs.Bank.Seeds
