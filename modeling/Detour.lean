import Detour.Addon.Script
import Detour.Hook.Catalog
import Detour.Log.Sink
import Detour.Log.Unhandled
import Detour.Main
import Detour.Settings.Watcher
import Detour.Signal.Named
import Detour.Tabs.Wait
import Detour.Proofs.Agenda
import Detour.Proofs.Effect
import Detour.Proofs.Guard.Entries
import Detour.Proofs.Guard.Chronicle
import Detour.Proofs.Engine.Course
import Detour.Proofs.Engine.Ledger
import Detour.Proofs.Engine.Upkeep
import Detour.Proofs.Engine.Redirect
import Detour.Proofs.Engine.Turn
import Detour.Proofs.Engine.Spacing
import Detour.Proofs.Engine.Commands
import Detour.Proofs.Engine.Navigation
import Detour.Proofs.Sending
import Detour.Proofs.Loading
import Detour.Proofs.Deferral
import Detour.Proofs.Settings.Table
import Detour.Proofs.Settings.Update
import Detour.Proofs.Settings.PutOff
import Detour.Proofs.Settings.Step
import Detour.Proofs.Engine.Configure
import Detour.Proofs.Engine.InStep
import Detour.Proofs.Engine.RuleFile
import Detour.Proofs.Engine.Deferral
import Detour.Proofs.Engine.Keeping
import Detour.Proofs.Engine.Replay
import Detour.Proofs.Engine.Shutdown
import Detour.Proofs.Chain.Way
import Detour.Proofs.Chain.Traffic
import Detour.Proofs.Chain.Flow
import Detour.Proofs.Chain.Removal
import Detour.Proofs.Settings.Latest
import Detour.Proofs.Numeral
import Detour.Proofs.Settings.Specs
import Detour.Proofs.Settings.Written
import Detour.Proofs.Signal
import Detour.Proofs.Settings.Audience
import Detour.Proofs.Path
import Detour.Proofs.Tool.Loaded
import Detour.Proofs.Tool.Precedence
import Detour.Proofs.Alarm.Timetable
import Detour.Proofs.Alarm.Keeping
import Detour.Proofs.Alarm.Punctual
import Detour.Proofs.Alarm.Change
import Detour.Proofs.Alarm.Clockwork
import Detour.Proofs.Alarm.Settling
import Detour.Proofs.Alarm.Schedule
import Detour.Proofs.Engine.Cleanup
import Detour.Proofs.Engine.Serving
import Detour.Proofs.Engine.Eviction
import Detour.Proofs.Pattern.Reading
import Detour.Proofs.Pattern.Wildcard
import Detour.Proofs.Respect
import Detour.Proofs.Engine.About
import Detour.Proofs.Engine.OneTab
import Detour.Proofs.Engine.Apart
import Detour.Proofs.Pattern.Literal
import Detour.Proofs.Rule.Collection
import Detour.Proofs.Rule.Precedence
import Detour.Proofs.Chain.Accord
import Detour.Proofs.Text.Utf8
import Detour.Proofs.FileTree
import Detour.Proofs.Yaml.Tidy
import Detour.Proofs.Store
import Detour.Proofs.Rule.Survival
import Detour.Proofs.Record.Line
import Detour.Proofs.Engine.Leading
import Detour.Proofs.Engine.Budget
import Detour.Proofs.Engine.Pace
import Detour.Proofs.Record.Playback
import Detour.Proofs.Engine.Lifetime
import Detour.Proofs.Chain.Table
import Detour.Proofs.Chain.Addition
import Detour.Proofs.Chain.Undo
import Detour.Proofs.Chain.Intact
import Detour.Proofs.Pattern.Blind
import Detour.Proofs.Pattern.LetterCase
import Detour.Proofs.Rule.Validation
import Detour.Proofs.Yaml.Keys
import Detour.Proofs.Settings.Misfit
import Detour.Proofs.Settings.Typed
import Detour.Proofs.Signal.Run
import Detour.Proofs.Signal.Course
import Detour.Proofs.Config
import Detour.Proofs.Store.Session
import Detour.Proofs.Store.Regular
import Detour.Proofs.Tabs.Waking
