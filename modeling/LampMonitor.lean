import LampMonitor.Ami
import LampMonitor.Application.Delivery
import LampMonitor.Application.Installation
import LampMonitor.Application.Lines
import LampMonitor.Application.Ping
import LampMonitor.Application.Presses
import LampMonitor.Application.Progress
import LampMonitor.Application.Reports
import LampMonitor.Application.Screens
import LampMonitor.Asterisk.EventHandlers
import LampMonitor.Asterisk.NotificationTrace
import LampMonitor.Asterisk.ParkStartup
import LampMonitor.Asterisk.ParkedCalls
import LampMonitor.Asterisk.ParkingHints
import LampMonitor.Asterisk.RegisterEventHandler
import LampMonitor.Asterisk.RegistrationPolicy
import LampMonitor.Asterisk.RepeatedButtons
import LampMonitor.Asterisk.Startup
import LampMonitor.Bridge.AorProvider
import LampMonitor.Bridge.Deskphone
import LampMonitor.Bridge.LedCommands
import LampMonitor.Bridge.NightButton
import LampMonitor.Bridge.NightPush
import LampMonitor.Bridge.ParkMenu
import LampMonitor.Bridge.ParkScreens
import LampMonitor.Bridge.PhoneUi
import LampMonitor.ButtonState.ButtonPlan
import LampMonitor.ButtonState.Interleaving
import LampMonitor.ButtonState.LampUpdates
import LampMonitor.ButtonState.Locks
import LampMonitor.ButtonState.PhoneButton
import LampMonitor.ButtonState.PlanOperations
import LampMonitor.ButtonState.RenderedStates
import LampMonitor.Cache.Endpoints
import LampMonitor.Cache.KnownPhones
import LampMonitor.Cache.Lifetimes
import LampMonitor.Cache.Refinement
import LampMonitor.Cache.Shutdown
import LampMonitor.Cache.StatementErrors
import LampMonitor.Cache.StoredRows
import LampMonitor.Cache.WriteThread
import LampMonitor.Config.Main
import LampMonitor.Config.PhoneCourse
import LampMonitor.Config.PhoneEntries
import LampMonitor.Config.PhoneLoop
import LampMonitor.Config.PhonePlans
import LampMonitor.Config.PhonebookEntries
import LampMonitor.Config.PlanEntries
import LampMonitor.Config.Privileges
import LampMonitor.Config.Reads
import LampMonitor.Config.References
import LampMonitor.Config.RenderedPlans
import LampMonitor.Config.Routes
import LampMonitor.Config.Schema
import LampMonitor.Config.StartUp
import LampMonitor.Config.TypedReads
import LampMonitor.Config.WiredPlans
import LampMonitor.Config.Yaml
import LampMonitor.Expiry
import LampMonitor.Fallible
import LampMonitor.KeyedTable
import LampMonitor.Locking
import LampMonitor.Match.CachedExpression
import LampMonitor.Match.JsonExpressionMatcher
import LampMonitor.Phonebook.CallerIds
import LampMonitor.Phonebook.Documents
import LampMonitor.Phonebook.Phonebook
import LampMonitor.Phonebook.Provider
import LampMonitor.Phonebook.SharedProvider
import LampMonitor.Script
import LampMonitor.Spans
import LampMonitor.Transition
import LampMonitor.Transition.BatchLog
import LampMonitor.Transition.Sampling
import LampMonitor.Xml
import LampMonitor.Xml.Encoding
import LampMonitor.Xml.Reader
