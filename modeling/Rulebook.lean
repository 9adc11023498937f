import Rulebook.Data.Sorted
import Rulebook.Main
import Rulebook.Proofs.BranchForms
import Rulebook.Proofs.CanonicalText
import Rulebook.Proofs.DecodePlaces
import Rulebook.Proofs.DispatchTable
import Rulebook.Proofs.DisplayedValues
import Rulebook.Proofs.EnoughLevels
import Rulebook.Proofs.EqualRuns
import Rulebook.Proofs.ExactIntegers
import Rulebook.Proofs.ExportedResults
import Rulebook.Proofs.HighlightedPath
import Rulebook.Proofs.IndependentCalculations
import Rulebook.Proofs.LazyScope
import Rulebook.Proofs.NestingLimit
import Rulebook.Proofs.ProjectConfig
import Rulebook.Proofs.PublishedResults
import Rulebook.Proofs.RaisedLimit
import Rulebook.Proofs.ReferentialTransparency
import Rulebook.Proofs.ReportedCycle
import Rulebook.Proofs.Respelling
import Rulebook.Proofs.ScopeWarnings
import Rulebook.Proofs.Slicing
import Rulebook.Proofs.StaticCheck
import Rulebook.Proofs.UnambiguousTrace
import Rulebook.Proofs.UnreadableFiles
import Rulebook.Proofs.UntakenArms
import Rulebook.Proofs.Untyped
import Rulebook.Session
