import PolicyLookup.Main
import PolicyLookup.Source.Memory
import PolicyLookup.Source.Script
import PolicyLookup.Proofs.Text.Cut
import PolicyLookup.Proofs.Lookup.Course
import PolicyLookup.Proofs.Lookup.RoundTrip
import PolicyLookup.Proofs.Location.Literal
import PolicyLookup.Proofs.Source.Folder
import PolicyLookup.Proofs.Config.Again
import PolicyLookup.Proofs.Lookup.Answers
import PolicyLookup.Proofs.Config.Layers
import PolicyLookup.Proofs.CommandLine.Outcome
import PolicyLookup.Proofs.CommandLine.Verbosity
import PolicyLookup.Proofs.CommandLine.Unlogged
import PolicyLookup.Proofs.Disk.Leads
import PolicyLookup.Proofs.Disk.Same
import PolicyLookup.Proofs.Source.Spelling
import PolicyLookup.Proofs.Source.Pattern
import PolicyLookup.Proofs.Source.Least
import PolicyLookup.Proofs.Source.History
import PolicyLookup.Proofs.Source.Copy
import PolicyLookup.Proofs.Lookup.Moved
import PolicyLookup.Proofs.Construct.Retouched
import PolicyLookup.Proofs.Construct.Exact
import PolicyLookup.Proofs.Lookup.Retouched
import PolicyLookup.Proofs.Declaration.Containment
import PolicyLookup.Proofs.Declaration.Keywords
import PolicyLookup.Proofs.Declaration.Wildcards
import PolicyLookup.Proofs.Declaration.Alternation
import PolicyLookup.Proofs.Location.Calls
import PolicyLookup.Proofs.Disk.Real
import PolicyLookup.Proofs.Glob.Reach
import PolicyLookup.Proofs.Glob.Skipped
import PolicyLookup.Proofs.Source.Real
import PolicyLookup.Proofs.CommandLine.Spelling
