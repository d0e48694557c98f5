import LineShell.Main
import LineShell.Input.Script
import LineShell.Proofs.Expansion.Decomposition
import LineShell.Proofs.Expansion.Concatenation
import LineShell.Proofs.Prepare.Refinement
import LineShell.Proofs.Store.Equations
import LineShell.Proofs.Session.Equations
import LineShell.Proofs.Session.Reachability
import LineShell.Proofs.Session.Arguments
import LineShell.Proofs.Input.Readings
import LineShell.Proofs.Loop.Equations
import LineShell.Proofs.Loop.Correctness
import LineShell.Proofs.Session.Agreement
import LineShell.Proofs.Input.Lines
import LineShell.Proofs.Utf8.Characters
import LineShell.Proofs.Utf8.Lossy
import LineShell.Proofs.Loop.Reports
import LineShell.Proofs.Session.Variables
import LineShell.Proofs.Session.Canonical
import LineShell.Proofs.Session.Frame
import LineShell.Proofs.CommandLine.Contract
import LineShell.Proofs.Store.History
import LineShell.Proofs.Expansion.Locality
import LineShell.Proofs.Words.Tokenization
import LineShell.Proofs.Prepare.Scanning
import LineShell.Proofs.Session.Independence
import LineShell.Proofs.Expansion.Encoded.Semantics
import LineShell.Proofs.Expansion.Encoded.Correctness
import LineShell.Proofs.Expansion.Records
import LineShell.Proofs.Session.Assignment
import LineShell.Proofs.Input.Prompts
import LineShell.Proofs.Input.Segments
import LineShell.Proofs.CommandLine.Parsing
import LineShell.Proofs.Session.Account
