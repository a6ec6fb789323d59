import Microclimate.Actor
import Microclimate.Calendar
import Microclimate.Chances
import Microclimate.Chances.Checked
import Microclimate.Clock
import Microclimate.Command
import Microclimate.Command.Perform
import Microclimate.Config
import Microclimate.Cycle
import Microclimate.Cycle.Regeneration
import Microclimate.Cycle.Update
import Microclimate.Decimal.Display
import Microclimate.Decimal.Literal
import Microclimate.Decimal.Numeral
import Microclimate.Decimal.Reading
import Microclimate.Decimal.Shortest
import Microclimate.Delivery
import Microclimate.Directory
import Microclimate.Engine
import Microclimate.Engine.Run
import Microclimate.Event
import Microclimate.Exact
import Microclimate.Fault
import Microclimate.Hooks
import Microclimate.Json
import Microclimate.Manager
import Microclimate.Manager.Update
import Microclimate.Proofs.Comparing
import Microclimate.Proofs.Departures
import Microclimate.Proofs.Informed
import Microclimate.Proofs.Members
import Microclimate.Proofs.Nearest
import Microclimate.Proofs.Outcome
import Microclimate.Proofs.Pass
import Microclimate.Proofs.Recording
import Microclimate.Proofs.Registry
import Microclimate.Proofs.Rolling
import Microclimate.Proofs.Rounding
import Microclimate.Proofs.Steps
import Microclimate.Proofs.StrayReports
import Microclimate.Proofs.Tables
import Microclimate.Proofs.Unsigned
import Microclimate.Proofs.Views
import Microclimate.Random.Dice
import Microclimate.Random.HalfNormal
import Microclimate.Random.Script
import Microclimate.Random.Source
import Microclimate.Random.Twister
import Microclimate.Record
import Microclimate.Rows
import Microclimate.Scene
import Microclimate.Season
import Microclimate.Setup
import Microclimate.Table
import Microclimate.Text
import Microclimate.Text.Blank
import Microclimate.Text.Digit
import Microclimate.Text.Printable
import Microclimate.Text.Quoted
import Microclimate.Timer
import Microclimate.Value
import Microclimate.Value.Key
import Microclimate.Value.Whole
import Microclimate.Weather
import Microclimate.World
import Microclimate.Proofs.Intensities
import Microclimate.Proofs.Climate
import Microclimate.Proofs.Upkeep
import Microclimate.Proofs.Bounded
import Microclimate.Proofs.ByChance
import Microclimate.Proofs.Repeats
import Microclimate.Proofs.Followers
import Microclimate.Proofs.Overtaking
import Microclimate.Proofs.Courses
import Microclimate.Proofs.Moves
import Microclimate.Proofs.Running
import Microclimate.Proofs.Agreement
import Microclimate.Proofs.Notifications
import Microclimate.Proofs.Journals
import Microclimate.Proofs.Sparing
import Microclimate.Proofs.Endless
import Microclimate.Proofs.Detached
import Microclimate.Proofs.InSeason
import Microclimate.Proofs.PlainLoop
import Microclimate.Proofs.TickLength
import Microclimate.Proofs.Punctual
import Microclimate.Proofs.Waiting
import Microclimate.Proofs.Pacing
import Microclimate.Proofs.CreationOrder
import Microclimate.Proofs.Separation
import Microclimate.Proofs.Decisions
import Microclimate.Proofs.Reports
import Microclimate.Proofs.Attempts
import Microclimate.Proofs.Sequence
import Microclimate.Proofs.Entering
import Microclimate.Proofs.Creations
import Microclimate.Proofs.Overriding
import Microclimate.Proofs.ZoneOverrides
import Microclimate.Proofs.SilentChanges
import Microclimate.Proofs.Selecting
import Microclimate.Proofs.Shares
import Microclimate.Proofs.Dates
import Microclimate.Proofs.SeasonStarts
import Microclimate.Proofs.DayByDay
import Microclimate.Proofs.Writable
import Microclimate.Proofs.Columns
import Microclimate.Proofs.StrayRows
import Microclimate.Proofs.Cells
import Microclimate.Proofs.Numerals
import Microclimate.Proofs.Filling
import Microclimate.Proofs.LastRow
import Microclimate.Proofs.Settings
import Microclimate.Proofs.Rejections
import Microclimate.Proofs.Unsubscribing
import Microclimate.Proofs.SingleRounding
import Microclimate.Proofs.Timekeeping
import Microclimate.Proofs.Roaming
import Microclimate.Proofs.Bands
