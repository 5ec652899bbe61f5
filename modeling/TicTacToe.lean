import TicTacToe.Lib.FixedWindow
import TicTacToe.Lib.JsMap
import TicTacToe.Lib.JsNumber
import TicTacToe.Lib.Json
import TicTacToe.Lib.NumberedLog
import TicTacToe.Lib.Overwriting
import TicTacToe.Lib.Segments
import TicTacToe.Lib.Simulation
import TicTacToe.Lib.Table
import TicTacToe.Lib.Transition
import TicTacToe.Protocol.Types
import TicTacToe.Protocol.Errors
import TicTacToe.Protocol.Commands
import TicTacToe.Protocol.Events
import TicTacToe.Protocol.Guards
import TicTacToe.Protocol.Encoding
import TicTacToe.Game.Engine
import TicTacToe.Server.RoomStore
import TicTacToe.Server.SessionStore
import TicTacToe.Server.HistoryRepository
import TicTacToe.Server.HistoryFile
import TicTacToe.Server.EventFactory
import TicTacToe.Server.GameSession
import TicTacToe.Server.State
import TicTacToe.Server.CommandHandler
import TicTacToe.Server.MessageRouter
import TicTacToe.Server.RoomsRouter
import TicTacToe.Client.GameStore
import TicTacToe.Client.OptimisticEngine
import TicTacToe.Client.CommandBuilder
import TicTacToe.Client.WsClient
import TicTacToe.Client.Tab
import TicTacToe.Theorems.EngineInv
import TicTacToe.Theorems.EngineDecided
import TicTacToe.Theorems.LostConnections
import TicTacToe.Theorems.MoveLog
import TicTacToe.Theorems.BlindSpots
import TicTacToe.Theorems.Prevalidation
import TicTacToe.Theorems.ServerFrame
import TicTacToe.Theorems.SessionMethods
import TicTacToe.Theorems.Quiet
import TicTacToe.Theorems.RoomStep
import TicTacToe.Theorems.GameStep
import TicTacToe.Theorems.SlotStep
import TicTacToe.Theorems.RoomActs
import TicTacToe.Theorems.HandlerActs
import TicTacToe.Theorems.GameActs
import TicTacToe.Theorems.PresenceActs
import TicTacToe.Theorems.StepActs
import TicTacToe.Theorems.Runs
import TicTacToe.Theorems.ActiveGame
import TicTacToe.Theorems.Routing
import TicTacToe.Theorems.Retries
import TicTacToe.Theorems.MoveOnce
import TicTacToe.Theorems.ComingBack
import TicTacToe.Theorems.GameRecords
import TicTacToe.Theorems.Seats
import TicTacToe.Theorems.Windows
import TicTacToe.Theorems.HandlerScope
import TicTacToe.Theorems.Links
import TicTacToe.Theorems.Online
import TicTacToe.Theorems.Associations
import TicTacToe.Theorems.Attendance
import TicTacToe.Theorems.RoomRecords
import TicTacToe.Theorems.Emissions
import TicTacToe.Theorems.Starts
import TicTacToe.Theorems.Processing
import TicTacToe.Theorems.RunningGame
import TicTacToe.Theorems.ProposalLife
import TicTacToe.Theorems.StaleRematch
import TicTacToe.Theorems.Consent
import TicTacToe.Theorems.Outsiders
import TicTacToe.Theorems.OneRoom
import TicTacToe.Theorems.Coherence
import TicTacToe.Theorems.Cache
import TicTacToe.Theorems.Recall
import TicTacToe.Theorems.EventLog
import TicTacToe.Theorems.Replay
import TicTacToe.Theorems.Wire
import TicTacToe.Theorems.ReplayGaps
import TicTacToe.Theorems.Unbuffered
import TicTacToe.Theorems.DeadRooms
import TicTacToe.Theorems.RoomAge
import TicTacToe.Theorems.FailingSave
import TicTacToe.Theorems.CrashConsistency
import TicTacToe.Theorems.Postings
import TicTacToe.Theorems.Addressees
import TicTacToe.Theorems.RoomMail
import TicTacToe.Theorems.HandlerMail
import TicTacToe.Theorems.Letters
import TicTacToe.Theorems.Isolation
import TicTacToe.Theorems.Receipts
import TicTacToe.Theorems.FreshEvents
import TicTacToe.Theorems.ReadyMarks
import TicTacToe.Theorems.EventOrder
import TicTacToe.Theorems.ClientTab
import TicTacToe.Theorems.LeaveReasons
import TicTacToe.Theorems.LeftRoom
import TicTacToe.Theorems.ClientSends
import TicTacToe.Theorems.Rejoin
import TicTacToe.Theorems.StalePresence
import TicTacToe.Theorems.InFlight
import TicTacToe.Theorems.Orphans
import TicTacToe.Theorems.Envelopes
import TicTacToe.Theorems.CommandsDecode
import TicTacToe.Theorems.EventsDecode
import TicTacToe.Theorems.SoundSessions
import TicTacToe.Theorems.SoundServer
import TicTacToe.Theorems.Greetings
import TicTacToe.Theorems.ServerEvents
import TicTacToe.Theorems.Roster
import TicTacToe.Theorems.Unplayed
import TicTacToe.Theorems.Listeners
import TicTacToe.Theorems.RosterTurns
import TicTacToe.Theorems.HandlerTurns
import TicTacToe.Theorems.RosterAgreement
import TicTacToe.Theorems.LobbyAgreement
import TicTacToe.Theorems.ReadyResidue
import TicTacToe.Theorems.Standing
import TicTacToe.Theorems.Retelling
import TicTacToe.Theorems.Reports
import TicTacToe.Theorems.Following
import TicTacToe.Theorems.Straying
import TicTacToe.Theorems.GameAgreement
import TicTacToe.Theorems.StoreRuns
import TicTacToe.Theorems.Transport
import TicTacToe.Theorems.Cursors
import TicTacToe.Theorems.ReceivedSeq
import TicTacToe.Theorems.Duplicates
import TicTacToe.Theorems.DurableSaves
import TicTacToe.Theorems.RateLimits
import TicTacToe.Theorems.Purging
import TicTacToe.Theorems.EngineLog
import TicTacToe.Theorems.Authenticity
import TicTacToe.Theorems.SeatChanges
import TicTacToe.Theorems.ReadyConsent
import TicTacToe.Theorems.Chronology
import TicTacToe.Theorems.Progress
import TicTacToe.Theorems.Discretion
import TicTacToe.Theorems.Impersonation
import TicTacToe.Theorems.SessionLife
import TicTacToe.Theorems.Closing
import TicTacToe.Theorems.FrameRates
import TicTacToe.Theorems.Tables
import TicTacToe.Theorems.RoomTables
import TicTacToe.Theorems.Archive
import TicTacToe.Theorems.RoomPages
import TicTacToe.Theorems.RetriedSnapshots
import TicTacToe.Theorems.Matchmaking
