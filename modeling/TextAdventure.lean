import TextAdventure.Data.NameMap
import TextAdventure.Data.UpdateFirst
import TextAdventure.Dialogue
import TextAdventure.Display.Layout
import TextAdventure.Display.Response
import TextAdventure.Display.Style
import TextAdventure.Game
import TextAdventure.Json.Basic
import TextAdventure.Json.Printer
import TextAdventure.Json.Reader
import TextAdventure.Json.Record
import TextAdventure.Language.Action
import TextAdventure.Language.Intent
import TextAdventure.Language.Interpretation
import TextAdventure.Language.Speed
import TextAdventure.Language.Target
import TextAdventure.Language.Vocabulary
import TextAdventure.Main
import TextAdventure.PickleQuest
import TextAdventure.PickleQuest.Items
import TextAdventure.PickleQuest.Objectives
import TextAdventure.PickleQuest.Rooms
import TextAdventure.PickleQuest.Texts
import TextAdventure.Proofs.Acting
import TextAdventure.Proofs.Changes
import TextAdventure.Proofs.Checkpoint
import TextAdventure.Proofs.Choosing
import TextAdventure.Proofs.Commands
import TextAdventure.Proofs.Consent
import TextAdventure.Proofs.Course
import TextAdventure.Proofs.Custody
import TextAdventure.Proofs.Development
import TextAdventure.Proofs.Directories
import TextAdventure.Proofs.Discovery
import TextAdventure.Proofs.Ending
import TextAdventure.Proofs.Entering
import TextAdventure.Proofs.Events
import TextAdventure.Proofs.FailedSave
import TextAdventure.Proofs.FilePaths
import TextAdventure.Proofs.FreshGame
import TextAdventure.Proofs.Hints
import TextAdventure.Proofs.Holdings
import TextAdventure.Proofs.Inspecting
import TextAdventure.Proofs.JsonText
import TextAdventure.Proofs.LastMention
import TextAdventure.Proofs.LeftLying
import TextAdventure.Proofs.Locality
import TextAdventure.Proofs.LoneWords
import TextAdventure.Proofs.LongestSpans
import TextAdventure.Proofs.Lookup
import TextAdventure.Proofs.LowerCase
import TextAdventure.Proofs.MapRequests
import TextAdventure.Proofs.Markers
import TextAdventure.Proofs.Movement
import TextAdventure.Proofs.NamingOrder
import TextAdventure.Proofs.OpenExits
import TextAdventure.Proofs.Pairing
import TextAdventure.Proofs.Progress
import TextAdventure.Proofs.Reach
import TextAdventure.Proofs.Reading
import TextAdventure.Proofs.RealTargets
import TextAdventure.Proofs.RecordText
import TextAdventure.Proofs.Referents
import TextAdventure.Proofs.Rejection
import TextAdventure.Proofs.Repetition
import TextAdventure.Proofs.Resuming
import TextAdventure.Proofs.Revision
import TextAdventure.Proofs.SaveFormat
import TextAdventure.Proofs.SavedFiles
import TextAdventure.Proofs.SavingAgain
import TextAdventure.Proofs.Silence
import TextAdventure.Proofs.Spelling
import TextAdventure.Proofs.Standing
import TextAdventure.Proofs.StartingItems
import TextAdventure.Proofs.SynonymLookup
import TextAdventure.Proofs.Synonyms
import TextAdventure.Proofs.TakingBack
import TextAdventure.Proofs.Uniqueness
import TextAdventure.Proofs.Unsaved
import TextAdventure.Proofs.VerbChoice
import TextAdventure.Proofs.Victory
import TextAdventure.Proofs.Whereabouts
import TextAdventure.Session.Input
import TextAdventure.Session.Play
import TextAdventure.Session.Program
import TextAdventure.Session.Run
import TextAdventure.Settings.CommandLine
import TextAdventure.Settings.Configuration
import TextAdventure.Settings.Settings
import TextAdventure.Storage.Adventure
import TextAdventure.Storage.FileTable
import TextAdventure.Storage.GameFiles
import TextAdventure.Storage.Path
import TextAdventure.Text.AlphanumericTable
import TextAdventure.Text.Blank
import TextAdventure.Text.BreakClass
import TextAdventure.Text.Case
import TextAdventure.Text.CaseTable
import TextAdventure.Text.CasedTable
import TextAdventure.Text.LineBreak
import TextAdventure.Text.Ranges
import TextAdventure.Text.Width
import TextAdventure.Text.WidthTable
import TextAdventure.Text.Wrap
import TextAdventure.Turn.Carrying
import TextAdventure.Turn.Dispatch
import TextAdventure.Turn.Housekeeping
import TextAdventure.Turn.Interacting
import TextAdventure.Turn.Movement
import TextAdventure.World.Basic
import TextAdventure.World.Consistency
import TextAdventure.World.Format
import TextAdventure.World.Holding
import TextAdventure.World.Item
import TextAdventure.World.Objective
import TextAdventure.World.Player
import TextAdventure.World.Room
