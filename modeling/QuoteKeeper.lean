import QuoteKeeper.Feed.Response
import QuoteKeeper.Feed.Settings
import QuoteKeeper.Proofs.Cycle.Candidates
import QuoteKeeper.Proofs.Cycle.Placing
import QuoteKeeper.Proofs.Cycle.Reading
import QuoteKeeper.Proofs.Cycle.Withdrawing
import QuoteKeeper.Rehearsal.Polling
import QuoteKeeper.Rehearsal.Run
import QuoteKeeper.Settings.Check
import QuoteKeeper.Proofs.Cycle.Course
import QuoteKeeper.Proofs.Cycle.Plans
import QuoteKeeper.Proofs.Cycle.Shape
import QuoteKeeper.Proofs.Cycle.Breaches
import QuoteKeeper.Proofs.Venue.Serving
import QuoteKeeper.Proofs.Run.Moments
import QuoteKeeper.Proofs.Rehearsal.Serving
import QuoteKeeper.Proofs.Run.OneEach
import QuoteKeeper.Proofs.Cycle.Limits
import QuoteKeeper.Proofs.Run.Uncrossed
import QuoteKeeper.Proofs.Decimal.Rounding
import QuoteKeeper.Proofs.Decimal.Division
import QuoteKeeper.Proofs.Venue.Answering
import QuoteKeeper.Proofs.Venue.Solvency
import QuoteKeeper.Proofs.Venue.Affording
import QuoteKeeper.Proofs.Cycle.Affordable
import QuoteKeeper.Proofs.Rehearsal.Faultless
import QuoteKeeper.Proofs.Run.Fulfilled
import QuoteKeeper.Proofs.Cycle.Keeping
import QuoteKeeper.Proofs.Cycle.Rules
import QuoteKeeper.Proofs.Cycle.Effects
import QuoteKeeper.Proofs.Run.Settling
import QuoteKeeper.Proofs.Cycle.Stamps
import QuoteKeeper.Proofs.Run.Debounce
import QuoteKeeper.Proofs.Dialogue.Plain
import QuoteKeeper.Proofs.Cycle.Plainness
import QuoteKeeper.Proofs.Cycle.Accounts
import QuoteKeeper.Proofs.Cycle.Taking
import QuoteKeeper.Proofs.Cycle.OneTurn
import QuoteKeeper.Proofs.Cycle.Isolation
import QuoteKeeper.Proofs.Venue.Conservation
import QuoteKeeper.Proofs.Feed.Pace
import QuoteKeeper.Proofs.Feed.Turns
import QuoteKeeper.Proofs.Dialogue.Deeds
import QuoteKeeper.Proofs.Loop.Serving
import QuoteKeeper.Proofs.Loop.Ending
import QuoteKeeper.Proofs.Loop.Reckoning
import QuoteKeeper.Proofs.Rehearsal.Offering
import QuoteKeeper.Proofs.Rehearsal.Pipeline
import QuoteKeeper.Proofs.Cycle.Pricing
import QuoteKeeper.Proofs.Decimal.Middle
import QuoteKeeper.Proofs.Cycle.Crossing
import QuoteKeeper.Proofs.Venue.Budget
import QuoteKeeper.Proofs.Venue.Filling
import QuoteKeeper.Proofs.Cycle.Sides
import QuoteKeeper.Proofs.Cycle.Thresholds
import QuoteKeeper.Proofs.Feed.Booking
import QuoteKeeper.Proofs.Feed.Fidelity
import QuoteKeeper.Proofs.Venue.Faltering
import QuoteKeeper.Proofs.Loop.Clearing
import QuoteKeeper.Proofs.Cycle.Worth
import QuoteKeeper.Proofs.Text.Items
import QuoteKeeper.Proofs.Settings.Pairs
