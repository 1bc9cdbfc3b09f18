import ConsentWalker.Browser.Failure
import ConsentWalker.Browser.Finder
import ConsentWalker.Browser.PageCall
import ConsentWalker.Browser.Visit
import ConsentWalker.Css.Matching
import ConsentWalker.Css.Parser
import ConsentWalker.Css.Selector
import ConsentWalker.Css.Token
import ConsentWalker.Decimal.Binary
import ConsentWalker.Decimal.Shortest
import ConsentWalker.Decimal.Written
import ConsentWalker.Json.Basic
import ConsentWalker.Json.Parser
import ConsentWalker.Json.Printer
import ConsentWalker.Json.Shape
import ConsentWalker.Markup.Construction
import ConsentWalker.Markup.DocumentType
import ConsentWalker.Markup.Draft
import ConsentWalker.Markup.Embedding
import ConsentWalker.Markup.NamedReference
import ConsentWalker.Markup.Reading
import ConsentWalker.Markup.Token
import ConsentWalker.Markup.Vocabulary
import ConsentWalker.Page.Call
import ConsentWalker.Page.Geometry
import ConsentWalker.Page.Node
import ConsentWalker.Page.Page
import ConsentWalker.Page.Style
import ConsentWalker.Page.Tree
import ConsentWalker.Rules.Action
import ConsentWalker.Rules.Category
import ConsentWalker.Rules.Error
import ConsentWalker.Rules.Query
import ConsentWalker.Rules.Reader
import ConsentWalker.Rules.Vendor
import ConsentWalker.Text.Blank
import ConsentWalker.Text.CaseTables
import ConsentWalker.Text.Digit
import ConsentWalker.Text.DisplayTables
import ConsentWalker.Text.Lowercase
import ConsentWalker.Text.Quoted
import ConsentWalker.Walk.Finding
import ConsentWalker.Walk.Handling
import ConsentWalker.Walk.Notice
import ConsentWalker.Walk.Pace
import ConsentWalker.Walk.Routine
import ConsentWalker.Walk.Search
import ConsentWalker.Walk.Steps
import ConsentWalker.Walk.Task
import ConsentWalker.Walk.World
import ConsentWalker.Proofs.Walk.Course
import ConsentWalker.Proofs.Walk.Reading
import ConsentWalker.Proofs.Walk.Stepping
import ConsentWalker.Proofs.Walk.Concealment
import ConsentWalker.Proofs.Walk.Undoing
import ConsentWalker.Proofs.Walk.Trip
import ConsentWalker.Proofs.Walk.Checks
import ConsentWalker.Proofs.Walk.Ledger
import ConsentWalker.Proofs.Walk.Restraint
import ConsentWalker.Proofs.Page.Growth
import ConsentWalker.Proofs.Walk.Settled
import ConsentWalker.Proofs.Walk.Running
import ConsentWalker.Proofs.Walk.Beside
import ConsentWalker.Proofs.Page.Delivery
import ConsentWalker.Proofs.Walk.Vigil
import ConsentWalker.Proofs.Walk.Unmissed
import ConsentWalker.Proofs.Page.Identity
import ConsentWalker.Proofs.Page.Reached
import ConsentWalker.Proofs.Page.Switching
import ConsentWalker.Proofs.Walk.Sparing
import ConsentWalker.Proofs.Walk.Sight
import ConsentWalker.Proofs.Walk.Meaning
import ConsentWalker.Proofs.Walk.Effect
import ConsentWalker.Proofs.Walk.Entering
import ConsentWalker.Proofs.Walk.Consenting
import ConsentWalker.Proofs.Browser.Abstaining
import ConsentWalker.Proofs.Page.Cover
import ConsentWalker.Proofs.Walk.Uncovering
import ConsentWalker.Proofs.Browser.Ending
import ConsentWalker.Proofs.Browser.Leaving
import ConsentWalker.Proofs.Json.Fitting
import ConsentWalker.Proofs.Rules.Grammar
import ConsentWalker.Proofs.Page.Subscribers
import ConsentWalker.Proofs.Walk.Custody
import ConsentWalker.Proofs.Page.Outlines
import ConsentWalker.Proofs.Walk.Alone
import ConsentWalker.Proofs.Walk.Likeness
import ConsentWalker.Proofs.Walk.Painting
import ConsentWalker.Proofs.Page.Tables
import ConsentWalker.Proofs.Page.Twins
import ConsentWalker.Proofs.Walk.Twinning
import ConsentWalker.Proofs.Walk.TwinSteps
import ConsentWalker.Proofs.Walk.TwinWorlds
import ConsentWalker.Proofs.Walk.Bystander
import ConsentWalker.Proofs.Walk.Pauses
import ConsentWalker.Proofs.Walk.Waiting
import ConsentWalker.Proofs.Walk.Session
import ConsentWalker.Proofs.Walk.Isolation
import ConsentWalker.Proofs.Rules.Writing
import ConsentWalker.Proofs.Walk.Mention
import ConsentWalker.Proofs.Walk.Failing
import ConsentWalker.Proofs.Page.Closing
import ConsentWalker.Proofs.Walk.Closed
import ConsentWalker.Proofs.Walk.Closing
import ConsentWalker.Proofs.Page.Handles
import ConsentWalker.Proofs.Page.Atomicity
import ConsentWalker.Proofs.Browser.Timing
import ConsentWalker.Proofs.Walk.Passes
import ConsentWalker.Proofs.Page.Batches
import ConsentWalker.Proofs.Walk.FirstFailure
import ConsentWalker.Proofs.Walk.Resolution
import ConsentWalker.Proofs.Walk.Singular
import ConsentWalker.Proofs.Text.Occurrence
import ConsentWalker.Proofs.Walk.Account
import ConsentWalker.Proofs.Walk.Scoping
import ConsentWalker.Proofs.Walk.Rechecks
import ConsentWalker.Proofs.Walk.Allowance
import ConsentWalker.Proofs.Page.Activation
import ConsentWalker.Proofs.Page.Grafting
import ConsentWalker.Proofs.Walk.Unmoved
import ConsentWalker.Proofs.Walk.Abreast
import ConsentWalker.Proofs.Walk.AbreastSteps
import ConsentWalker.Proofs.Walk.Narrowing
import ConsentWalker.Proofs.Page.Order
import ConsentWalker.Proofs.Walk.Listing
import ConsentWalker.Proofs.Page.Journal
import ConsentWalker.Proofs.Rules.Vendors
import ConsentWalker.Proofs.Page.Declaring
import ConsentWalker.Proofs.Browser.Naming
import ConsentWalker.Proofs.Json.Steadiness
import ConsentWalker.Proofs.Json.Scalars
import ConsentWalker.Proofs.Json.RoundTrip
import ConsentWalker.Proofs.Browser.Calling
