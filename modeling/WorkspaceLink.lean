import WorkspaceLink.Command.Help
import WorkspaceLink.Proofs.Addressing
import WorkspaceLink.Proofs.Custody
import WorkspaceLink.Proofs.Discipline
import WorkspaceLink.Proofs.Recovery
import WorkspaceLink.Proofs.Refinement
import WorkspaceLink.Proofs.Stability
import WorkspaceLink.Table
import WorkspaceLink.Proofs.Spelling
import WorkspaceLink.Proofs.Decoding
import WorkspaceLink.Proofs.Consistency
import WorkspaceLink.Proofs.Update
import WorkspaceLink.LinkId.Parts
import WorkspaceLink.Proofs.Pattern
import WorkspaceLink.Proofs.Parts
import WorkspaceLink.Proofs.Caseless
import WorkspaceLink.Proofs.Placement
import WorkspaceLink.Proofs.Names
import WorkspaceLink.Proofs.Report
import WorkspaceLink.Proofs.Retraction
import WorkspaceLink.Proofs.Tags
import WorkspaceLink.Proofs.Rereading
import WorkspaceLink.Proofs.Comparison
import WorkspaceLink.Proofs.Listing
import WorkspaceLink.Proofs.Renaming
import WorkspaceLink.Proofs.Matching
import WorkspaceLink.Proofs.Shadowing
import WorkspaceLink.Proofs.Scanning
import WorkspaceLink.Proofs.Tokens
import WorkspaceLink.Proofs.Reading
import WorkspaceLink.Proofs.Merging
import WorkspaceLink.Proofs.Building
import WorkspaceLink.Proofs.Loading
