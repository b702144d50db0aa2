import Durak.Action
import Durak.Calendar.Date
import Durak.Calendar.Instant
import Durak.Calendar.Timestamp
import Durak.Card
import Durak.Card.Token
import Durak.Codec.Basic
import Durak.Codec.Card
import Durak.Codec.Event
import Durak.Codec.Fault
import Durak.Codec.Game
import Durak.Codec.Log
import Durak.Codec.Record
import Durak.Codec.View
import Durak.Command
import Durak.Config
import Durak.Deal
import Durak.Deal.Draws
import Durak.Deal.KeyStream
import Durak.Deal.Shuffle
import Durak.Deck
import Durak.Event
import Durak.Failure
import Durak.Game
import Durak.Json.Document
import Durak.Json.Reader
import Durak.Json.Value
import Durak.Keyed
import Durak.Log
import Durak.Main
import Durak.Memory
import Durak.Number.Double
import Durak.Number.Numeral
import Durak.Number.Reading
import Durak.Number.Rounding
import Durak.Number.Shortest
import Durak.Pack
import Durak.Proofs.Accepted
import Durak.Proofs.Advance
import Durak.Proofs.Answers
import Durak.Proofs.Clock
import Durak.Proofs.Confinement
import Durak.Proofs.Conservation
import Durak.Proofs.Covers
import Durak.Proofs.DeadEnd
import Durak.Proofs.Dealt
import Durak.Proofs.Destination
import Durak.Proofs.Disclosure
import Durak.Proofs.Echo
import Durak.Proofs.Effect
import Durak.Proofs.Encoded
import Durak.Proofs.Ending
import Durak.Proofs.GameEnd
import Durak.Proofs.Hands
import Durak.Proofs.Lanes
import Durak.Proofs.Linearizable
import Durak.Proofs.Members
import Durak.Proofs.Mirror
import Durak.Proofs.Moves
import Durak.Proofs.Needed
import Durak.Proofs.Numerals
import Durak.Proofs.Packs
import Durak.Proofs.Plays
import Durak.Proofs.Progress
import Durak.Proofs.Prospects
import Durak.Proofs.Questions
import Durak.Proofs.Refill
import Durak.Proofs.Rejection
import Durak.Proofs.Repetition
import Durak.Proofs.Replay
import Durak.Proofs.Reported
import Durak.Proofs.Restored
import Durak.Proofs.Rotation
import Durak.Proofs.RoundClose
import Durak.Proofs.Routing
import Durak.Proofs.Run
import Durak.Proofs.Seats
import Durak.Proofs.Secrecy
import Durak.Proofs.Sequence
import Durak.Proofs.Setup
import Durak.Proofs.Shown
import Durak.Proofs.Spelled
import Durak.Proofs.Start
import Durak.Proofs.Stored
import Durak.Proofs.Supply
import Durak.Proofs.Table
import Durak.Proofs.Timers
import Durak.Proofs.Timestamps
import Durak.Proofs.Transaction
import Durak.Proofs.Voting
import Durak.Proofs.WholeSeconds
import Durak.Proofs.Written
import Durak.Rules.Apply
import Durak.Rules.Check
import Durak.Rules.Round
import Durak.Scene
import Durak.Service
import Durak.Service.Lanes
import Durak.Session
import Durak.Spelling
import Durak.Store
import Durak.Text.Blank
import Durak.Text.Concealed
import Durak.Text.Quoted
import Durak.Text.Symbol
import Durak.Timer
import Durak.Transaction
import Durak.View
import Durak.Violation
import Durak.Voters
