import BranchingStory.Binary64.Basic
import BranchingStory.Channel
import BranchingStory.Cursor
import BranchingStory.Decimal.Basic
import BranchingStory.Decimal.Layout
import BranchingStory.Decimal.Shortest
import BranchingStory.Director
import BranchingStory.Effect
import BranchingStory.Event
import BranchingStory.Gate
import BranchingStory.Json.Basic
import BranchingStory.Json.Reader
import BranchingStory.Json.Record
import BranchingStory.Json.Writer
import BranchingStory.Loading
import BranchingStory.Main
import BranchingStory.Playing
import BranchingStory.Playtest.Arguments
import BranchingStory.Playtest.Screen
import BranchingStory.Playtest.Shell
import BranchingStory.Playthrough
import BranchingStory.Progress
import BranchingStory.Proofs.Bounding
import BranchingStory.Proofs.Checking
import BranchingStory.Proofs.Departure
import BranchingStory.Proofs.Depletion
import BranchingStory.Proofs.Draining
import BranchingStory.Proofs.Earning
import BranchingStory.Proofs.Ending
import BranchingStory.Proofs.Finishing
import BranchingStory.Proofs.Finiteness
import BranchingStory.Proofs.Following
import BranchingStory.Proofs.Indexing
import BranchingStory.Proofs.Listening
import BranchingStory.Proofs.Lookup
import BranchingStory.Proofs.Matching
import BranchingStory.Proofs.Navigating
import BranchingStory.Proofs.Numerals
import BranchingStory.Proofs.Offering
import BranchingStory.Proofs.Penalizing
import BranchingStory.Proofs.Phrasing
import BranchingStory.Proofs.Placing
import BranchingStory.Proofs.Playing
import BranchingStory.Proofs.Range
import BranchingStory.Proofs.Ranking
import BranchingStory.Proofs.Refusing
import BranchingStory.Proofs.Reordering
import BranchingStory.Proofs.Repeating
import BranchingStory.Proofs.Reporting
import BranchingStory.Proofs.Rereading
import BranchingStory.Proofs.Restarting
import BranchingStory.Proofs.Retelling
import BranchingStory.Proofs.Rounding
import BranchingStory.Proofs.Run
import BranchingStory.Proofs.Scanning
import BranchingStory.Proofs.Screen
import BranchingStory.Proofs.Search
import BranchingStory.Proofs.Settling
import BranchingStory.Proofs.Sourcing
import BranchingStory.Proofs.Spelling
import BranchingStory.Proofs.Stranding
import BranchingStory.Proofs.Subscribing
import BranchingStory.Proofs.Taking
import BranchingStory.Proofs.Throwing
import BranchingStory.Proofs.Timeless
import BranchingStory.Proofs.Turn
import BranchingStory.Proofs.Unfailing
import BranchingStory.Proofs.Validating
import BranchingStory.Random.Generator
import BranchingStory.Random.KeyStream
import BranchingStory.Ron.Basic
import BranchingStory.Ron.Reader
import BranchingStory.Ron.Settings
import BranchingStory.Rule
import BranchingStory.Session
import BranchingStory.Settings
import BranchingStory.Story
import BranchingStory.Text.Blank
import BranchingStory.Text.CaseTable
import BranchingStory.Text.Lowercase
import BranchingStory.Timestamp
import BranchingStory.Tour.Run
import BranchingStory.Tour.Sample
import BranchingStory.Variables
import BranchingStory.Wire.Event
import BranchingStory.Wire.Progress
import BranchingStory.Wire.Rule
import BranchingStory.Wire.Settings
import BranchingStory.Wire.Story
