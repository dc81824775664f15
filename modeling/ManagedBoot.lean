import ManagedBoot.ArgVector
import ManagedBoot.Boot.Error
import ManagedBoot.Boot.Platform
import ManagedBoot.Boot.Sequence
import ManagedBoot.CallbackTable
import ManagedBoot.Command.Line
import ManagedBoot.Command.Report
import ManagedBoot.Config.Basic
import ManagedBoot.Config.Reading
import ManagedBoot.Config.Resolution
import ManagedBoot.Config.Writing
import ManagedBoot.Decimal.Binary64
import ManagedBoot.Decimal.Shortest
import ManagedBoot.Fault
import ManagedBoot.FileTree
import ManagedBoot.Host
import ManagedBoot.Layout.Contract
import ManagedBoot.Layout.Object
import ManagedBoot.Literal
import ManagedBoot.Logging.Filter
import ManagedBoot.Logging.Record
import ManagedBoot.Main
import ManagedBoot.Module.List
import ManagedBoot.Module.Registry
import ManagedBoot.Module.Section
import ManagedBoot.Module.Source
import ManagedBoot.Pattern.Basic
import ManagedBoot.Pattern.Bracket
import ManagedBoot.Pattern.CharSet
import ManagedBoot.Pattern.Cursor
import ManagedBoot.Pattern.Error
import ManagedBoot.Pattern.Escape
import ManagedBoot.Pattern.Matcher
import ManagedBoot.Pattern.Meaning
import ManagedBoot.Pattern.Reading
import ManagedBoot.Process.Event
import ManagedBoot.Process.Run
import ManagedBoot.Process.Transition
import ManagedBoot.Program
import ManagedBoot.Proofs.ArgumentFidelity
import ManagedBoot.Proofs.ArraySizing
import ManagedBoot.Proofs.BetweenBookends
import ManagedBoot.Proofs.BookendArithmetic
import ManagedBoot.Proofs.ConfigRoundTrip
import ManagedBoot.Proofs.ContractTexts
import ManagedBoot.Proofs.Course
import ManagedBoot.Proofs.DecimalNumerals
import ManagedBoot.Proofs.EffectiveConfig
import ManagedBoot.Proofs.EntryReading
import ManagedBoot.Proofs.FaultBoundaries
import ManagedBoot.Proofs.FlatMemory
import ManagedBoot.Proofs.GatedStart
import ManagedBoot.Proofs.HeapRuns
import ManagedBoot.Proofs.HostSurroundings
import ManagedBoot.Proofs.LineReading
import ManagedBoot.Proofs.ListAcceptance
import ManagedBoot.Proofs.LoadFrames
import ManagedBoot.Proofs.LoadedLiterals
import ManagedBoot.Proofs.LossyWalk
import ManagedBoot.Proofs.ManagedStrings
import ManagedBoot.Proofs.ModuleListing
import ManagedBoot.Proofs.Moments
import ManagedBoot.Proofs.ObjectParts
import ManagedBoot.Proofs.PartialConfig
import ManagedBoot.Proofs.PendingQueueLaw
import ManagedBoot.Proofs.ProperDocuments
import ManagedBoot.Proofs.ProperTables
import ManagedBoot.Proofs.RegistryLaw
import ManagedBoot.Proofs.ReportDelivery
import ManagedBoot.Proofs.RunLaws
import ManagedBoot.Proofs.SectionReading
import ManagedBoot.Proofs.SectionTables
import ManagedBoot.Proofs.ShutdownLaw
import ManagedBoot.Proofs.SinkIndependence
import ManagedBoot.Proofs.StrategyAgreement
import ManagedBoot.Proofs.StringExtent
import ManagedBoot.Proofs.StringRoundTrip
import ManagedBoot.Proofs.SurrogatePairs
import ManagedBoot.Proofs.TransitionNesting
import ManagedBoot.Proofs.UnitHooks
import ManagedBoot.Proofs.Utf8Decoding
import ManagedBoot.Simulation.HostScript
import ManagedBoot.Simulation.Machine
import ManagedBoot.Sink
import ManagedBoot.Text.Basic
import ManagedBoot.Text.Excerpt
import ManagedBoot.Text.Letter
import ManagedBoot.Text.Quoted
import ManagedBoot.Text.Span
import ManagedBoot.Text.Unprintable
import ManagedBoot.Text.Utf16
import ManagedBoot.Text.Utf8
import ManagedBoot.Toml.Build
import ManagedBoot.Toml.Document
import ManagedBoot.Toml.Number
import ManagedBoot.Toml.StringForm
import ManagedBoot.Toml.Text
import ManagedBoot.Toml.Value
