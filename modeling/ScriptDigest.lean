import ScriptDigest.Main
import ScriptDigest.Proofs.Text.Printing
import ScriptDigest.Proofs.LineForms
import ScriptDigest.Proofs.Synopsis.LookBack
import ScriptDigest.Proofs.Synopsis.Fragments
import ScriptDigest.Proofs.Synopsis.Callbacks
import ScriptDigest.Proofs.Synopsis.Signatures
import ScriptDigest.Proofs.Synopsis.Sections
import ScriptDigest.Proofs.Synopsis.Insertions
import ScriptDigest.Proofs.Declarations
import ScriptDigest.Proofs.Declarations.ReadBack
import ScriptDigest.Proofs.Synopsis.GlobalsBlock
import ScriptDigest.Proofs.Digest.LineEnds
import ScriptDigest.Proofs.Files.Listing
import ScriptDigest.Proofs.Synopsis.Concatenation
import ScriptDigest.Proofs.Files.Access
import ScriptDigest.Proofs.Run.Steps
import ScriptDigest.Proofs.Run.Effect
import ScriptDigest.Proofs.Run.Needs
import ScriptDigest.Proofs.HeadingNames
import ScriptDigest.Proofs.DocComments
import ScriptDigest.Proofs.LineTests
import ScriptDigest.Proofs.LineCounts
import ScriptDigest.Proofs.Profile
import ScriptDigest.Proofs.Unicode
import ScriptDigest.Proofs.Text.Lowercase
import ScriptDigest.Proofs.Contents
import ScriptDigest.Proofs.Digest.Rows
import ScriptDigest.Proofs.Digest.Table
import ScriptDigest.Proofs.Digest.Layout
import ScriptDigest.Proofs.Files.Segments
import ScriptDigest.Proofs.Files.Parts
import ScriptDigest.Proofs.Run.Again
import ScriptDigest.Proofs.Text.Bytes
import ScriptDigest.Proofs.Run.Index
