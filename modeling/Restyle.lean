import Restyle.Main
import Restyle.Record
import Restyle.Proofs.Writing
import Restyle.Proofs.Indexing
import Restyle.Proofs.Replacement
import Restyle.Proofs.Segments
import Restyle.Proofs.Accounting
import Restyle.Proofs.Substitution
import Restyle.Proofs.Wear
import Restyle.Proofs.Convergence
import Restyle.Proofs.RoundTrip
import Restyle.Proofs.Octets
import Restyle.Proofs.Files
import Restyle.Proofs.Actions
import Restyle.Proofs.RenamedFile
import Restyle.Proofs.Locations
import Restyle.Proofs.Renamings
import Restyle.Proofs.Course
import Restyle.Proofs.ChangeLists
import Restyle.Proofs.Reported
import Restyle.Proofs.Linewise
import Restyle.Proofs.Failures
import Restyle.Proofs.JsonText
import Restyle.Proofs.ExitCode
import Restyle.Proofs.Cycles
import Restyle.Proofs.PathText
import Restyle.Proofs.JoinedPaths
import Restyle.Proofs.FoundAgain
import Restyle.Proofs.Resolved
import Restyle.Proofs.SecondRun
import Restyle.Proofs.Visits
import Restyle.Proofs.Results
import Restyle.Proofs.Listings
import Restyle.Proofs.Preview
import Restyle.Proofs.Loading
import Restyle.Proofs.Unusable
import Restyle.Proofs.Boundary
import Restyle.Proofs.FileOrder
import Restyle.Proofs.PathsBelow
import Restyle.Proofs.Endings
import Restyle.Proofs.Searches
import Restyle.Proofs.Confined
import Restyle.Proofs.Directories
import Restyle.Proofs.Documents
import Restyle.Proofs.SavedSettings
import Restyle.Proofs.Concatenation
import Restyle.Proofs.KeyPaths
import Restyle.Proofs.Expressible
import Restyle.Proofs.FailedSave
import Restyle.Proofs.Repeats
import Restyle.Proofs.Trimming
import Restyle.Proofs.Entries
import Restyle.Proofs.Agreement
import Restyle.Proofs.Patterns
import Restyle.Proofs.SummaryText
import Restyle.Proofs.Occurrences
import Restyle.Proofs.Rereading
import Restyle.Proofs.Alignment
