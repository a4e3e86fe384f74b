import CubeQuery.CommandLine.Run
import CubeQuery.Main
import CubeQuery.Proofs.CardIndex.Operations
import CubeQuery.Proofs.CommandLine.Configuring
import CubeQuery.Proofs.CommandLine.Editing
import CubeQuery.Proofs.Filter.Lookup
import CubeQuery.Proofs.CardIndex.Joining
import CubeQuery.Proofs.Files.Held
import CubeQuery.Proofs.Files.Path
import CubeQuery.Proofs.Files.Watched
import CubeQuery.Proofs.Store.Atomicity
import CubeQuery.Proofs.CommandLine.Presentation
import CubeQuery.Proofs.Json.Reading
import CubeQuery.Proofs.CommandLine.Log
import CubeQuery.Proofs.CommandLine.Answers
import CubeQuery.Proofs.Predicate.Faithful
import CubeQuery.Proofs.Text.Distance
import CubeQuery.Proofs.Clause.Positions
import CubeQuery.Proofs.Filter.Numbers
import CubeQuery.Proofs.Filter.Suggestions
import CubeQuery.Proofs.Filter.Usage
import CubeQuery.Proofs.Filter.Literal
import CubeQuery.Proofs.Store.Truncation
import CubeQuery.Proofs.CommandLine.Canonical
import CubeQuery.Proofs.CardIndex.Spellings
import CubeQuery.Proofs.CommandLine.Pages
