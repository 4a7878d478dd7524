import MessagingConsole.Text.Utf8
import MessagingConsole.Text.Blank
import MessagingConsole.Text.Numeral
import MessagingConsole.Text.Pieces
import MessagingConsole.Text.Unprintable
import MessagingConsole.Text.Quoted
import MessagingConsole.Calendar
import MessagingConsole.Log
import MessagingConsole.Message
import MessagingConsole.FileTree
import MessagingConsole.Network.Endpoint
import MessagingConsole.Network.Address
import MessagingConsole.Network.Fault
import MessagingConsole.Network.Host
import MessagingConsole.Network.Link
import MessagingConsole.Network.Peer
import MessagingConsole.Requester.State
import MessagingConsole.Error
import MessagingConsole.Console.Source
import MessagingConsole.Console.LineReader
import MessagingConsole.Console.Sink
import MessagingConsole.Session.Operation
import MessagingConsole.Session.Basic
import MessagingConsole.Session.Dial
import MessagingConsole.Session.Terminal
import MessagingConsole.Session.Environment
import MessagingConsole.Publisher.Broadcast
import MessagingConsole.Publisher.Command
import MessagingConsole.Publisher
import MessagingConsole.Requester
import MessagingConsole.Subscriber
import MessagingConsole.CommandLine.App
import MessagingConsole.CommandLine.Scan
import MessagingConsole.CommandLine.Options
import MessagingConsole.Programs
import MessagingConsole.Main
import MessagingConsole.Proofs.Text.Utf8
import MessagingConsole.Proofs.Session.Replay
import MessagingConsole.Proofs.Session.Printing
import MessagingConsole.Proofs.Session.Traffic
import MessagingConsole.Proofs.Session.Surroundings
import MessagingConsole.Proofs.Publisher.Broadcast
import MessagingConsole.Proofs.Publisher.Turns
import MessagingConsole.Proofs.Publisher.Confirmation
import MessagingConsole.Proofs.Requester.Turns
import MessagingConsole.Proofs.Requester.Alternation
import MessagingConsole.Proofs.Requester.Failures
import MessagingConsole.Proofs.Console.Answers
import MessagingConsole.Proofs.Session.Provision
import MessagingConsole.Proofs.Requester.Dialogue
import MessagingConsole.Proofs.Publisher.Dialogue
import MessagingConsole.Proofs.Session.Lockstep
import MessagingConsole.Proofs.Session.Stopping
import MessagingConsole.Proofs.Session.Consumption
import MessagingConsole.Proofs.Requester.Endings
import MessagingConsole.Proofs.Publisher.Endings
import MessagingConsole.Proofs.Subscriber.Turns
import MessagingConsole.Proofs.Session.OutputLimits
import MessagingConsole.Proofs.Clients.Truncation
import MessagingConsole.Proofs.Console.Reading
import MessagingConsole.Proofs.Session.Continuation
import MessagingConsole.Proofs.Clients.Anticipation
import MessagingConsole.Proofs.Session.Dialing
import MessagingConsole.Proofs.Subscriber.Connection
import MessagingConsole.Proofs.Subscriber.Delivery
import MessagingConsole.Proofs.Text.Decoding
import MessagingConsole.Proofs.Console.Lines
import MessagingConsole.Proofs.Session.Closing
import MessagingConsole.Proofs.Clients.Exits
import MessagingConsole.Proofs.Text.Parts
import MessagingConsole.Proofs.Publisher.Publication
import MessagingConsole.Proofs.Text.Numerals
import MessagingConsole.Proofs.Clients.Broadcasting
import MessagingConsole.Proofs.CommandLine.Ports
import MessagingConsole.Proofs.CommandLine.Values
import MessagingConsole.Proofs.CommandLine.RoundTrip
import MessagingConsole.Proofs.CommandLine.Spelling
import MessagingConsole.Proofs.CommandLine.Operands
import MessagingConsole.Proofs.CommandLine.Outcomes
import MessagingConsole.Proofs.Session.Opening
import MessagingConsole.Proofs.Requester.Connection
import MessagingConsole.Proofs.Publisher.Binding
import MessagingConsole.Proofs.Programs.Reporting
import MessagingConsole.Proofs.Console.Remainder
import MessagingConsole.Proofs.Session.Responsiveness
import MessagingConsole.Proofs.Console.Taking
import MessagingConsole.Proofs.Clients.Termination
import MessagingConsole.Proofs.Session.Accounting
import MessagingConsole.Proofs.Requester.Accounting
import MessagingConsole.Proofs.Publisher.Accounting
import MessagingConsole.Proofs.Subscriber.Accounting
import MessagingConsole.Proofs.Clients.Accounting
import MessagingConsole.Proofs.Session.Restriction
import MessagingConsole.Proofs.Requester.Restriction
import MessagingConsole.Proofs.Publisher.Restriction
import MessagingConsole.Proofs.Subscriber.Restriction
import MessagingConsole.Proofs.CommandLine.Verbosity
import MessagingConsole.Proofs.Programs.Verbosity
import MessagingConsole.Proofs.Calendar.Gregorian
import MessagingConsole.Proofs.Calendar.Stamps
import MessagingConsole.Proofs.Subscriber.StampedLines
import MessagingConsole.Proofs.Text.Lossy
import MessagingConsole.Proofs.Subscriber.Rendering
import MessagingConsole.Proofs.Publisher.Acceptance
import MessagingConsole.Proofs.Text.Blanks
import MessagingConsole.Proofs.Publisher.Commands
import MessagingConsole.Proofs.CommandLine.Endpoints
import MessagingConsole.Proofs.Requester.Conversation
import MessagingConsole.Proofs.Subscriber.PrintedLines
import MessagingConsole.Proofs.Console.EndOfInput
import MessagingConsole.Proofs.CommandLine.Undecodable
import MessagingConsole.Proofs.Text.Digits
import MessagingConsole.Proofs.Network.Ipv4
import MessagingConsole.Proofs.Network.Ipv6
import MessagingConsole.Proofs.Network.Reported
import MessagingConsole.Proofs.Subscriber.Streaming
