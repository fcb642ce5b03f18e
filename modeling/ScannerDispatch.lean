import ScannerDispatch.Code.Machine
import ScannerDispatch.Main
import ScannerDispatch.Proofs.Dispatch.References
import ScannerDispatch.Proofs.Dispatch.Failures
import ScannerDispatch.Proofs.Dispatch.Interruption
import ScannerDispatch.Proofs.Code.Events
import ScannerDispatch.Proofs.Dispatch.IdentifierReads
import ScannerDispatch.Proofs.Dispatch.Reports
import ScannerDispatch.Proofs.Files.Contents
import ScannerDispatch.Proofs.Output.Programs
import ScannerDispatch.Proofs.Dispatch.IdentifierParts
import ScannerDispatch.Proofs.CommandLine.Outputs
import ScannerDispatch.Proofs.Trie.Order
import ScannerDispatch.Proofs.Dispatch.TokenOrder
import ScannerDispatch.Proofs.Enumeration.Listing
import ScannerDispatch.Proofs.Config.InPlace
