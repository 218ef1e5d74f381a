import EscrowLedger.Job.Transport
import EscrowLedger.Main
import EscrowLedger.Proofs.Job.Artifacts
import EscrowLedger.Proofs.Job.Session
import EscrowLedger.Proofs.Job.HandOver
import EscrowLedger.Proofs.Ledger.History
import EscrowLedger.Proofs.Disk.Failure
import EscrowLedger.Proofs.Ledger.Refusal
import EscrowLedger.Proofs.Ledger.Race
import EscrowLedger.Proofs.Command.Forward
import EscrowLedger.Proofs.Ledger.Custody
import EscrowLedger.Proofs.Command.Options
import EscrowLedger.Proofs.Job.Life
import EscrowLedger.Proofs.Ledger.Canonical
import EscrowLedger.Proofs.Ledger.Neighbours
import EscrowLedger.Proofs.Command.Advance
import EscrowLedger.Proofs.Escrow.Conversion
import EscrowLedger.Proofs.Json.Members
import EscrowLedger.Proofs.Json.Agreement
import EscrowLedger.Proofs.Json.Shown
import EscrowLedger.Proofs.Escrow.Reading
import EscrowLedger.Proofs.Instant.Spelling
import EscrowLedger.Proofs.Json.Rearrangement
import EscrowLedger.Proofs.Job.Reading
import EscrowLedger.Proofs.Job.Decoding
import EscrowLedger.Proofs.Escrow.NormalForm
import EscrowLedger.Proofs.Job.Chain
import EscrowLedger.Proofs.Job.Defects
import EscrowLedger.Proofs.Job.NormalForm
import EscrowLedger.Instant.Clock
import EscrowLedger.Proofs.Job.Persistence
import EscrowLedger.Proofs.Job.Clocked
import EscrowLedger.Proofs.Disk.Shape
import EscrowLedger.Proofs.Ledger.Replacement
import EscrowLedger.Proofs.Ledger.Commutation
import EscrowLedger.Proofs.Escrow.Look
import EscrowLedger.Proofs.Job.Look
import EscrowLedger.Proofs.Ledger.Look
import EscrowLedger.Proofs.Escrow.Assignment
import EscrowLedger.Proofs.Command.Submission
