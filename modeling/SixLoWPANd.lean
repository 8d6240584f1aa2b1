import SixLoWPANd.Foundation.TracedMemory
import SixLoWPANd.Foundation.Histories
import SixLoWPANd.Foundation.GuardedRuns
import SixLoWPANd.Foundation.Loops
import SixLoWPANd.Foundation.Simulations
import SixLoWPANd.Foundation.KeyedWrites
import SixLoWPANd.Foundation.ByteStuffing
import SixLoWPANd.Foundation.ByteOrder
import SixLoWPANd.Foundation.Numerals
import SixLoWPANd.SerialLink.Checksum
import SixLoWPANd.SerialLink.Transmitter
import SixLoWPANd.SerialLink.Receiver
import SixLoWPANd.SerialLink.Reception
import SixLoWPANd.SerialLink.RoundTrip
import SixLoWPANd.SerialLink.FrameStream
import SixLoWPANd.SerialLink.FrameGrammar
import SixLoWPANd.SerialLink.Collecting
import SixLoWPANd.SerialLink.Delivery
import SixLoWPANd.SerialLink.BufferBounds
import SixLoWPANd.SerialLink.Corruption
import SixLoWPANd.SerialLink.SerialWrite
import SixLoWPANd.SerialLink.LossyDevice
import SixLoWPANd.SerialLink.BufferedWrite
import SixLoWPANd.JennicModule.Configuration
import SixLoWPANd.JennicModule.Daemon
import SixLoWPANd.JennicModule.Writers
import SixLoWPANd.JennicModule.StateMachine
import SixLoWPANd.JennicModule.Handlers
import SixLoWPANd.JennicModule.Outputs
import SixLoWPANd.JennicModule.Runs
import SixLoWPANd.JennicModule.ControlFrames
import SixLoWPANd.JennicModule.Remembering
import SixLoWPANd.JennicModule.AddressBudget
import SixLoWPANd.JennicModule.StartOrder
import SixLoWPANd.JennicModule.SecuredStart
import SixLoWPANd.JennicModule.RememberedNetwork
import SixLoWPANd.JennicModule.RememberedSecurity
import SixLoWPANd.JennicModule.Isolation
import SixLoWPANd.JennicModule.ReadBack
import SixLoWPANd.JennicModule.VersionAttempts
import SixLoWPANd.JennicModule.CompleteConfiguration
import SixLoWPANd.JennicModule.SupportedMessages
import SixLoWPANd.JennicModule.Communication
import SixLoWPANd.JennicModule.Probes
import SixLoWPANd.JennicModule.LiveModule
import SixLoWPANd.JennicModule.PingSupport
import SixLoWPANd.JennicModule.PingRate
import SixLoWPANd.JennicModule.Clearance
import SixLoWPANd.JennicModule.AlikeMessages
import SixLoWPANd.CommandLine.Strtoul
import SixLoWPANd.CommandLine.Options
import SixLoWPANd.CommandLine.NumericOptions
import SixLoWPANd.CommandLine.LastArguments
import SixLoWPANd.CommandLine.Notification
import SixLoWPANd.CommandLine.Relay
import SixLoWPANd.MainLoop.Loop
import SixLoWPANd.MainLoop.MessageBuffer
import SixLoWPANd.MainLoop.Watchdog
import SixLoWPANd.MainLoop.Bridge
import SixLoWPANd.MainLoop.InterfaceCalls
import SixLoWPANd.MainLoop.Discretion
import SixLoWPANd.MainLoop.Automaton
import SixLoWPANd.MainLoop.SilentModule
import SixLoWPANd.MainLoop.Recovery
import SixLoWPANd.MainLoop.Ending
import SixLoWPANd.MainLoop.PublishedAddress
import SixLoWPANd.MainLoop.Program
import SixLoWPANd.Zeroconf.Services
import SixLoWPANd.Zeroconf.Announcements
import SixLoWPANd.Zeroconf.ReportedAddress
import SixLoWPANd.Zeroconf.Registration
