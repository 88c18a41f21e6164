import CipherMeter.Cipher.Workspace
import CipherMeter.Main
import CipherMeter.World
import CipherMeter.Proofs.Mac.Lineage
import CipherMeter.Proofs.RoundTrip.Report
import CipherMeter.Proofs.FileMac.Report
import CipherMeter.Proofs.FileTree.Walk
import CipherMeter.Proofs.FileTree.Filling
import CipherMeter.Proofs.Inputs.Generation
import CipherMeter.Proofs.Inputs.Command
import CipherMeter.Proofs.FileTree.Likeness
import CipherMeter.Proofs.Secrecy.Relation
import CipherMeter.Proofs.Secrecy.RoundTrip
import CipherMeter.Proofs.Secrecy.FileMac
import CipherMeter.Proofs.Secrecy
import CipherMeter.Proofs.Text.Utf8
import CipherMeter.Proofs.Path
import CipherMeter.Proofs.Hex
import CipherMeter.Proofs.Text.Json
import CipherMeter.Proofs.RoundTrip.Settings
import CipherMeter.Proofs.FileMac.Settings
import CipherMeter.Proofs.Measurement
import CipherMeter.Proofs.RoundTrip.Command
import CipherMeter.Proofs.FileMac.Command
import CipherMeter.Proofs.Commands
import CipherMeter.Proofs.Mac.Requests
import CipherMeter.Proofs.Stats.Ranks
import CipherMeter.Proofs.FileMac.Keys
import CipherMeter.Proofs.Inputs.Feeding
import CipherMeter.Proofs.FileMac.Answer
import CipherMeter.Proofs.Generator
import CipherMeter.Proofs.Inputs.Seeding
import CipherMeter.Proofs.Checks
import CipherMeter.Proofs.RoundTrip.Refusal
import CipherMeter.Proofs.FileMac.Refusal
import CipherMeter.Proofs.Cipher.Calls
import CipherMeter.Proofs.Sampling.Rounds
import CipherMeter.Proofs.FileMac.Text
import CipherMeter.Proofs.Hex.Refusal
import CipherMeter.Proofs.Stats.Order
import CipherMeter.Proofs.Digest
