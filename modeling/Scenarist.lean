import Scenarist.Main
import Scenarist.Proofs.Comment.Declaration
import Scenarist.Proofs.Comment.Decomposition
import Scenarist.Proofs.Comment.LineComment
import Scenarist.Proofs.Excerpt.Embedding
import Scenarist.Proofs.Suite.Selection
import Scenarist.Proofs.Suite.Conversion
import Scenarist.Proofs.Tag.Printing
import Scenarist.Proofs.Text.LineSearch
import Scenarist.Proofs.Comment.Concatenation
import Scenarist.Proofs.Comment.SettledLines
import Scenarist.Proofs.Excerpt.Concatenation
import Scenarist.Proofs.Gherkin.Reading
import Scenarist.Proofs.Gherkin.Layout
import Scenarist.Proofs.Gherkin.Grammar
import Scenarist.Proofs.Gherkin.Tags
import Scenarist.Proofs.Gherkin.Parts
import Scenarist.Proofs.Excerpt.Provenance
import Scenarist.Proofs.Gherkin.Steps
import Scenarist.Proofs.Gherkin.PlainScenario
import Scenarist.Proofs.Suite.EmbeddedTest
import Scenarist.Proofs.Comment.LineEnds
import Scenarist.Proofs.Excerpt.LineEnds
import Scenarist.Proofs.Excerpt.Filtering
import Scenarist.Proofs.Excerpt.Addresses
import Scenarist.Proofs.Excerpt.Composition
import Scenarist.Proofs.Excerpt.CommentStyle
import Scenarist.Proofs.Pattern.Ends
import Scenarist.Proofs.Robot.ShortName
import Scenarist.Proofs.Robot.Titles
import Scenarist.Proofs.App.Writing
import Scenarist.Proofs.App.Events
import Scenarist.Proofs.App.Performance
import Scenarist.Proofs.App.Delivery
import Scenarist.Proofs.App.Reports
import Scenarist.Proofs.Attempts
import Scenarist.Proofs.Suite.Loading
import Scenarist.Proofs.Robot.Naming
import Scenarist.Proofs.Robot.Cases
import Scenarist.Proofs.App.Listing
import Scenarist.Proofs.App.FailedRender
import Scenarist.Proofs.App.Dump
import Scenarist.Proofs.Comment.Progress
import Scenarist.Proofs.Comment.SeparateLines
import Scenarist.Proofs.Tag.Wordings
import Scenarist.Proofs.Excerpt.Tagging
import Scenarist.Proofs.Robot.BaseName
import Scenarist.Proofs.Suite.Walking
import Scenarist.Proofs.Comment.SlashRuns
import Scenarist.Proofs.Robot.Documentation
import Scenarist.Proofs.App.WholeRuns
