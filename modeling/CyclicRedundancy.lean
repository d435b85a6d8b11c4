import CyclicRedundancy.Main
import CyclicRedundancy.Command.Demonstration
import CyclicRedundancy.Stream.Checksumming
import CyclicRedundancy.Stream.Gathering
import CyclicRedundancy.Stream.Sink
import CyclicRedundancy.Files
import CyclicRedundancy.Proofs.View
import CyclicRedundancy.Proofs.Contribution
import CyclicRedundancy.Proofs.Feeding
import CyclicRedundancy.Proofs.Calculator
import CyclicRedundancy.Proofs.Textbook
import CyclicRedundancy.Proofs.Division
import CyclicRedundancy.Proofs.Burst
import CyclicRedundancy.Proofs.Linearity
import CyclicRedundancy.Proofs.Suffix
import CyclicRedundancy.Proofs.Frame
import CyclicRedundancy.Proofs.Mirror
import CyclicRedundancy.Proofs.History
import CyclicRedundancy.Proofs.Preset
import CyclicRedundancy.Proofs.Width
import CyclicRedundancy.Proofs.Scattered
import CyclicRedundancy.Proofs.Ledger
import CyclicRedundancy.Proofs.Calls
import CyclicRedundancy.Proofs.Reading
import CyclicRedundancy.Proofs.Writing
import CyclicRedundancy.Proofs.Draining
import CyclicRedundancy.Proofs.Contents
import CyclicRedundancy.Proofs.Inputs
import CyclicRedundancy.Proofs.Reports
import CyclicRedundancy.Proofs.Parity
import CyclicRedundancy.Proofs.Verification
import CyclicRedundancy.Proofs.Resuming
import CyclicRedundancy.Proofs.Restarting
import CyclicRedundancy.Proofs.Decimal
import CyclicRedundancy.Proofs.Naming
import CyclicRedundancy.Proofs.Environment
import CyclicRedundancy.Proofs.Building
import CyclicRedundancy.Proofs.Grammar
import CyclicRedundancy.Proofs.Display
import CyclicRedundancy.Proofs.Reflection
import CyclicRedundancy.Proofs.Tables
