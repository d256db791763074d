import HeaderCheck.Command
import HeaderCheck.Main
import HeaderCheck.Proofs.Frame
import HeaderCheck.Proofs.Repair
import HeaderCheck.Proofs.Cuts
import HeaderCheck.Proofs.Prelude
import HeaderCheck.Proofs.Conversion
import HeaderCheck.Proofs.Commutation
import HeaderCheck.Proofs.Pairing
import HeaderCheck.Proofs.Discovery
import HeaderCheck.Proofs.Replacement
import HeaderCheck.Proofs.Survey
import HeaderCheck.Proofs.Convention
import HeaderCheck.Proofs.Memo
import HeaderCheck.Proofs.Validity
import HeaderCheck.Proofs.Yaml.Block
import HeaderCheck.Proofs.Yaml.Layout
import HeaderCheck.Proofs.Yaml.Tokens
import HeaderCheck.Proofs.Yaml.Document
import HeaderCheck.Proofs.Arrival
import HeaderCheck.Proofs.Stored
import HeaderCheck.Proofs.Template
import HeaderCheck.Proofs.Creation
import HeaderCheck.Proofs.Directory
import HeaderCheck.Proofs.SameWays
import HeaderCheck.Proofs.Shape
import HeaderCheck.Proofs.Spacing
import HeaderCheck.Proofs.Acceptance
import HeaderCheck.Proofs.Repeats
import HeaderCheck.Proofs.Spelling
import HeaderCheck.Proofs.Extension
import HeaderCheck.Proofs.Position
import HeaderCheck.Proofs.WalkRoot
import HeaderCheck.Proofs.Summary
import HeaderCheck.Proofs.Rejection
