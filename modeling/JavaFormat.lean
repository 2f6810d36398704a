import JavaFormat.Main
import JavaFormat.Proofs.Charset.Bytes
import JavaFormat.Proofs.Charset.Formatted
import JavaFormat.Proofs.Check
import JavaFormat.Proofs.Disk.Listing
import JavaFormat.Proofs.Duplicates
import JavaFormat.Proofs.Patterns
import JavaFormat.Proofs.Report
import JavaFormat.Proofs.Selection
import JavaFormat.Proofs.Settings
import JavaFormat.Proofs.Source.InertBytes
import JavaFormat.Proofs.Source.LineStates
import JavaFormat.Proofs.Source.Locality
import JavaFormat.Proofs.Source.Profile
import JavaFormat.Proofs.Source.Settling
import JavaFormat.Proofs.Source.Stability
import JavaFormat.Proofs.Source.Terminators
import JavaFormat.Proofs.Source.TextBlocks
