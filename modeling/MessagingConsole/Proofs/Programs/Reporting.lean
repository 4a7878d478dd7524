import Mathlib.Data.String.Basic
import MessagingConsole.Programs
import MessagingConsole.Proofs.CommandLine.Outcomes
import MessagingConsole.Proofs.Publisher.Binding
import MessagingConsole.Proofs.Publisher.Endings
import MessagingConsole.Proofs.Requester.Connection
import MessagingConsole.Proofs.Requester.Endings

/-!
# What the programs report

A program adds little to its client.  A command line that leads to no run is turned down
before any socket is opened; otherwise the program prints some lines, lets its client print,
perhaps prints one more line, and ends with the error of its client, if that has one.

Each of these parts leaves an ending as it is: whatever comes in front of it only adds its
output, so that the report of a program is put together from the end to the front, with one
law for everything that can come first.

## Main Definitions

- `Program.Refuses` - how a program turns down a command line.
- `Program.Reports` - what a program has printed, and how it tells the error of its client.

## Main Results

- `Program.reports_client` - the three programs report their clients faithfully.
-/

namespace MessagingConsole

/-- Whether an exchange opens a socket. -/
def Exchange.opensSocket : Exchange → Bool
  | ⟨.dial _ _, _⟩ | ⟨.bind _, _⟩ => true
  | _ => false

/-- The error that a stop is.  A shutdown is none. -/
def Stop.failure? : Stop → Option Error
  | .shutdown => none
  | .failed error => some error

/-- The error that a run has ended with, if it has. -/
def Outcome.failure? {α : Type} (run : Outcome (Except Error α)) : Option Error :=
  match run.value with
  | .ok _ => none
  | .error error => some error

theorem Transcript.diagnostics_append (stamp : String) (t₁ t₂ : Transcript) :
    diagnostics stamp (t₁ ++ t₂) = diagnostics stamp t₁ ++ diagnostics stamp t₂ := by
  apply String.toList_injective
  simp [diagnostics, String.join_eq]

namespace Program

open CommandLine (App Options Refusal)
open Utf8 (IsText)

/-- Lines as a program prints them. -/
def lines (texts : List String) : Bytes :=
  texts.flatMap fun text => Utf8.encode (text ++ "\n")

/-- A program turns down a command line.  It prints what is wrong with it and fails, or it
prints the notice that was asked for, and it opens no socket. -/
def Refuses (refusal : Refusal) (run : Outcome ExitStatus) : Prop :=
  (∀ e ∈ run.transcript, ¬ e.opensSocket) ∧
    match refusal with
    | .error (.usage text) => run.transcript.output = lines [text] ∧ run.value.code = 1
    | .error (.notice (.help text)) | .error (.notice (.version text)) =>
      run.transcript.output = lines [text] ∧ run.value.code = 0
    | _ => False

/-- A program has printed these octets.  It succeeds, or it fails with an error, and then the
error output ends with a line of it. -/
structure Reports (printed : Bytes) (failure : Option Error) (run : Outcome ExitStatus) : Prop where
  output : run.transcript.output = printed
  code : run.value.code = if failure.isSome then 1 else 0
  told : ∀ error, failure = some error → ∀ stamp, ∃ front,
    run.transcript.diagnostics stamp = front ++ ("Error: " ++ error.message ++ "\n")

variable {env : Environment} {printed : Bytes} {failure : Option Error}

/-! ## From the end to the front -/

/-- What comes in front of an ending adds its output to it. -/
theorem Reports.after {α : Type} {s : Session α} {first : Outcome α}
    {next : α → Session ExitStatus} (ran : s.run env = first)
    (later : Reports printed failure ((next first.value).run first.env)) :
    Reports (first.transcript.output ++ printed) failure ((s >>= next).run env) := by
  subst ran
  change Reports _ _ ((s.bind next).run env)
  rw [Session.run_bind]
  refine ⟨?_, later.code, fun error failed stamp => ?_⟩
  · rw [Transcript.output_append, later.output]
  · obtain ⟨front, ending⟩ := later.told error failed stamp
    refine ⟨Transcript.diagnostics stamp (s.run env).transcript ++ front, ?_⟩
    rw [Transcript.diagnostics_append, ending]
    exact String.append_assoc.symm

/-- What prints nothing changes nothing about what is reported. -/
theorem Reports.after_silent {α : Type} {s : Session α} {first : Outcome α}
    {next : α → Session ExitStatus} (ran : s.run env = first)
    (silent : first.transcript.output = [])
    (later : Reports printed failure ((next first.value).run first.env)) :
    Reports printed failure ((s >>= next).run env) := by
  have reports := Reports.after ran later
  rwa [silent, List.nil_append] at reports

theorem Reports.after_note {next : Unit → Session ExitStatus} {logger : Log.Logger}
    {level : Log.Level} {message : String} {pairs : List Log.Pair}
    (later : Reports printed failure ((next ()).run env)) :
    Reports printed failure ((Session.note logger level message pairs >>= next).run env) := by
  have noted : (Session.note logger level message pairs).run env =
      ⟨(), env, logger.noted level message pairs⟩ :=
    Session.run_eq_iff.mpr ⟨Session.follows_note.mpr rfl, Environment.gives_noted ..⟩
  exact .after_silent noted (Log.Logger.output_noted ..) later

theorem lines_nil_append (printed : Bytes) : lines [] ++ printed = printed := rfl

theorem lines_cons (text : String) (texts : List String) :
    lines (text :: texts) = Utf8.encode (text ++ "\n") ++ lines texts :=
  List.flatMap_cons

theorem run_announce (text : String) (unlimited : env.sink = .unlimited) :
    (announce text).run env = ⟨(), env, [⟨.write (Utf8.encode (text ++ "\n")), .whole⟩]⟩ := by
  obtain ⟨source, reader, sink, files, network, link, shutdown⟩ := env
  cases unlimited
  rfl

/-- A line that is announced stands in front of everything else. -/
theorem Reports.after_announce {next : Unit → Session ExitStatus} {text : String}
    {texts : List String} (unlimited : env.sink = .unlimited)
    (later : Reports (lines texts ++ printed) failure ((next ()).run env)) :
    Reports (lines (text :: texts) ++ printed) failure ((announce text >>= next).run env) := by
  rw [lines_cons, List.append_assoc, ← List.append_nil (Utf8.encode _)]
  exact .after (run_announce text unlimited) later

theorem reports_success : Reports [] none ((pure .success : Session ExitStatus).run env) :=
  ⟨rfl, rfl, nofun⟩

/-- The error of a client is the last thing that is told. -/
theorem reports_exitWith (logger : Log.Logger) (error : Error) :
    Reports [] (some error) ((exitWith logger error).run env) := by
  refine .after_note ⟨rfl, rfl, ?_⟩
  rintro _ ⟨⟩ stamp
  exact ⟨"", rfl⟩

/-- A program that ends after its client fails with the error of that. -/
theorem reports_finish (logger : Log.Logger) (client : Outcome (Except Error Unit)) :
    Reports [] client.failure? ((finish logger client.value).run env) := by
  unfold Outcome.failure?
  cases client.value with
  | ok => exact reports_success
  | error error => exact reports_exitWith logger error

/-! ## Command lines that are turned down -/

/-- A refusal that is explained turns a command line down. -/
theorem refuses_of_explained {app : App} {caller : Option String} {refusal : Refusal}
    (unlimited : env.sink = .unlimited) (explained : CommandLine.Explained app caller refusal) :
    Refuses refusal ((refuse refusal).run env) := by
  have announces (text : String) (status : ExitStatus) :
      (do announce text; return status : Session ExitStatus).run env =
        ⟨status, env, [⟨.write (Utf8.encode (text ++ "\n")), .whole⟩]⟩ := by
    change ((announce text).bind fun _ => pure status).run env = _
    rw [Session.run_bind, run_announce text unlimited]
    rfl
  have opens (text : String) : ∀ e ∈ ([⟨.write (Utf8.encode (text ++ "\n")), .whole⟩] : Transcript),
      ¬ e.opensSocket :=
    List.forall_mem_singleton.mpr Bool.false_ne_true
  cases explained with
  | help =>
    rw [refuse, announces]
    exact ⟨opens _, rfl, rfl⟩
  | version =>
    rw [refuse, announces]
    exact ⟨opens _, rfl, rfl⟩
  | usage =>
    rw [refuse, announces]
    exact ⟨opens _, rfl, rfl⟩
  | fault plain =>
    rw [refuse, announces]
    exact ⟨opens _, rfl, rfl⟩

/-! ## The three programs -/

variable {commandLine : List Bytes}

theorem reports_subscriber (unlimited : env.sink = .unlimited) {options : Options Subscription}
    (read : Options.subscriber commandLine = .ok options) :
    let logger := Log.Logger.root options.logLevel App.subscriber.name
    let session := Subscriber.runIn logger options.config env
    Reports
      (lines ["Receiving updates from " ++ options.config.endpoint.text ++ "..."] ++
        session.transcript.output)
      session.failure? (runIn subscriber commandLine env) := by
  intro logger session
  unfold runIn subscriber
  rw [read]
  refine .after_announce unlimited ?_
  rw [← List.append_nil session.transcript.output]
  refine .after (show _ = session from rfl) ?_
  unfold Outcome.failure?
  cases session.value with
  | ok printed => exact .after_note reports_success
  | error error => exact reports_exitWith logger error

theorem reports_requester (unlimited : env.sink = .unlimited) {options : Options Endpoint}
    (read : Options.requester commandLine = .ok options) :
    let logger := Log.Logger.root options.logLevel App.requester.name
    let connecting := (Requester.connect logger options.config).run.run env
    let attempting := "Attempting to connect to " ++ options.config.host ++ " on port " ++
      Text.decimal options.config.port.toNat ++ "..."
    match connecting.value with
    | .error stop =>
      Reports (lines [attempting]) stop.failure? (runIn requester commandLine env)
    | .ok client =>
      let session := client.runIn connecting.env
      Reports
        (lines [attempting, "Connected.", "Type a request at the prompt, or quit to exit."] ++
          session.transcript.output)
        session.failure? (runIn requester commandLine env) := by
  intro logger connecting attempting
  have gives := Session.gives_run (Requester.connect logger options.config).run env
  have follows := Session.follows_run (Requester.connect logger options.config).run env
  have silent : connecting.transcript.output = [] :=
    (Requester.follows_connect_iff.mp follows).output
  have still : connecting.env.sink = .unlimited := gives.unlimited unlimited
  have fewer : connecting.env.budget ≤ env.budget := gives.budget_le
  unfold runIn requester
  rw [read]
  split
  case h_1 stop ends =>
    rw [← List.append_nil (lines [attempting])]
    refine .after_announce unlimited (.after_silent (show _ = connecting from rfl) silent ?_)
    rw [ends]
    cases stop with
    | shutdown => exact reports_success
    | failed error => exact reports_exitWith _ error
  case h_2 client ends =>
    intro session
    refine .after_announce unlimited (.after_silent (show _ = connecting from rfl) silent ?_)
    rw [ends]
    refine .after_announce still (.after_announce still ?_)
    have ran : (client.run env.budget).run connecting.env = session :=
      client.run_eq_runIn connecting.env fewer
    rw [lines_nil_append, ← List.append_nil session.transcript.output]
    exact .after ran (reports_finish _ session)

theorem reports_publisher (unlimited : env.sink = .unlimited) {options : Options Endpoint}
    (read : Options.publisher commandLine = .ok options) :
    let logger := Log.Logger.root options.logLevel App.publisher.name
    let binding := (Publisher.bind logger options.config).run.run env
    match binding.value with
    | .error stop => Reports [] stop.failure? (runIn publisher commandLine env)
    | .ok client =>
      let session := client.runIn binding.env
      Reports
        (lines ["Publishing on " ++ client.endpoint.text ++
            ". Type help for a list of commands."] ++
          session.transcript.output ++ lines ["Thanks for using pqpub! Exiting..."])
        session.failure? (runIn publisher commandLine env) := by
  intro logger binding
  have gives := Session.gives_run (Publisher.bind logger options.config).run env
  have follows := Session.follows_run (Publisher.bind logger options.config).run env
  have silent : binding.transcript.output = [] := (Publisher.follows_bind_iff.mp follows).output
  have still : binding.env.sink = .unlimited := gives.unlimited unlimited
  have fewer : binding.env.budget ≤ env.budget := gives.budget_le
  unfold runIn publisher
  rw [read]
  split
  case h_1 stop ends =>
    refine .after_silent (show _ = binding from rfl) silent ?_
    rw [ends]
    cases stop with
    | shutdown => exact reports_success
    | failed error => exact reports_exitWith _ error
  case h_2 client ends =>
    intro session
    refine .after_silent (show _ = binding from rfl) silent ?_
    rw [ends, List.append_assoc]
    have ran : (client.run env.budget).run binding.env = session :=
      client.run_eq_runIn binding.env fewer
    have open_still : session.env.sink = .unlimited :=
      (Session.gives_run (client.run binding.env.budget) binding.env).unlimited still
    refine .after_announce still ?_
    rw [lines_nil_append]
    refine .after ran ?_
    rw [← List.append_nil (lines _)]
    exact .after_announce open_still (reports_finish _ session)

/-- **The programs report their clients faithfully.**  A command line of texts that leads to
no run is answered with its explanation, which is a failure, or with the notice that was asked
for, and no socket is opened.  Otherwise a program prints its banner and exactly what its
client prints, and ends with the error of its client, which is then the last line of the error
output; it succeeds if there is none, be it that the client has ended well or was shut down.
The requester tells that it is connected only once it is, and the publisher takes its leave
however its run has ended, but prints nothing if it could not bind. -/
theorem reports_client (commandLine : List Bytes)
    (texts : ∀ argument ∈ commandLine, IsText argument) (env : Environment)
    (unlimited : env.sink = .unlimited) :
    (match Options.subscriber commandLine with
      | .error refusal => Refuses refusal (runIn subscriber commandLine env)
      | .ok options =>
        let logger := Log.Logger.root options.logLevel "pqsub"
        let session := Subscriber.runIn logger options.config env
        Reports
          (lines ["Receiving updates from " ++ options.config.endpoint.text ++ "..."] ++
            session.transcript.output)
          session.failure? (runIn subscriber commandLine env)) ∧
    (match Options.requester commandLine with
      | .error refusal => Refuses refusal (runIn requester commandLine env)
      | .ok options =>
        let logger := Log.Logger.root options.logLevel "pqreq"
        let connecting := (Requester.connect logger options.config).run.run env
        let attempting := "Attempting to connect to " ++ options.config.host ++ " on port " ++
          Text.decimal options.config.port.toNat ++ "..."
        match connecting.value with
        | .error stop =>
          Reports (lines [attempting]) stop.failure? (runIn requester commandLine env)
        | .ok client =>
          let session := client.runIn connecting.env
          Reports
            (lines [attempting, "Connected.", "Type a request at the prompt, or quit to exit."] ++
              session.transcript.output)
            session.failure? (runIn requester commandLine env)) ∧
    (match Options.publisher commandLine with
      | .error refusal => Refuses refusal (runIn publisher commandLine env)
      | .ok options =>
        let logger := Log.Logger.root options.logLevel "pqpub"
        let binding := (Publisher.bind logger options.config).run.run env
        match binding.value with
        | .error stop => Reports [] stop.failure? (runIn publisher commandLine env)
        | .ok client =>
          let session := client.runIn binding.env
          Reports
            (lines ["Publishing on " ++ client.endpoint.text ++
                ". Type help for a list of commands."] ++
              session.transcript.output ++ lines ["Thanks for using pqpub! Exiting..."])
            session.failure? (runIn publisher commandLine env)) := by
  refine ⟨?_, ?_, ?_⟩
  · have outcome := CommandLine.leadsTo_subscriber texts
    cases read : Options.subscriber commandLine with
    | error refusal =>
      rw [read] at outcome
      unfold runIn subscriber
      rw [read]
      exact refuses_of_explained unlimited outcome
    | ok options => exact reports_subscriber unlimited read
  · have outcome := CommandLine.leadsTo_requester texts
    cases read : Options.requester commandLine with
    | error refusal =>
      rw [read] at outcome
      unfold runIn requester
      rw [read]
      exact refuses_of_explained unlimited outcome
    | ok options => exact reports_requester unlimited read
  · have outcome := CommandLine.leadsTo_publisher texts
    cases read : Options.publisher commandLine with
    | error refusal =>
      rw [read] at outcome
      unfold runIn publisher
      rw [read]
      exact refuses_of_explained unlimited outcome
    | ok options => exact reports_publisher unlimited read

/-- A publisher whose first broadcast is not taken, and a subscriber that is given a host for
a port: one takes its leave and tells the error, the other explains what is wrong. -/
theorem reports_client_of_failures :
    let publishing := ["pqpub", "5556"].map Utf8.encode
    let subscribing := ["pqsub", "localhost"].map Utf8.encode
    let calm := Environment.calm "send motd\nYES\n"
      ⟨[([Utf8.encode "motd"], .file (Utf8.encode "hello\n"))]⟩ []
    let env := { calm with link := { calm.link with sendsAfter := .fault .brokenPipe } }
    let published := runIn publisher publishing env
    let subscribed := runIn subscriber subscribing env
    published.value.code = 1 ∧
      (∃ shown, published.transcript.output =
        lines ["Publishing on tcp://0.0.0.0:5556. Type help for a list of commands."] ++ shown ++
          lines ["Thanks for using pqpub! Exiting..."]) ∧
      (∃ front, published.transcript.diagnostics "now" =
        front ++ ("Error: " ++ (Error.send ⟨"0.0.0.0", 5556⟩ .brokenPipe).message ++ "\n")) ∧
      subscribed.value.code = 1 ∧ ∀ e ∈ subscribed.transcript, ¬ e.opensSocket := by
  intro publishing subscribing calm env published subscribed
  have isText (texts : List String) : ∀ argument ∈ texts.map Utf8.encode, IsText argument :=
    List.forall_mem_map.mpr fun text _ => Utf8.isText_encode text
  obtain ⟨-, -, reports⟩ := reports_client publishing (isText _) env rfl
  obtain ⟨refuses, -⟩ := reports_client subscribing (isText _) env rfl
  -- The publisher binds its port, and the client that it runs cannot send.
  let client : Publisher :=
    ⟨⟨"0.0.0.0", 5556⟩, Publisher.loggerFor (.root .warning "pqpub") ⟨"0.0.0.0", 5556⟩⟩
  let binding := (Publisher.bind (.root .warning "pqpub") ⟨"0.0.0.0", 5556⟩).run.run env
  have read : Options.publisher publishing = .ok ⟨⟨"0.0.0.0", 5556⟩, .warning⟩ := by
    decide +kernel
  have banner : "Publishing on " ++ client.endpoint.text ++ ". Type help for a list of commands." =
      "Publishing on tcp://0.0.0.0:5556. Type help for a list of commands." := by
    decide +kernel
  have failed : (client.runIn binding.env).failure? =
      some (.send ⟨"0.0.0.0", 5556⟩ .brokenPipe) := by
    decide +kernel
  rw [read] at reports
  have reports : Reports
      (lines ["Publishing on " ++ client.endpoint.text ++ ". Type help for a list of commands."] ++
        (client.runIn binding.env).transcript.output ++
        lines ["Thanks for using pqpub! Exiting..."])
      (client.runIn binding.env).failure? published := reports
  rw [banner, failed] at reports
  have refused : Options.subscriber subscribing = .error (.error (.usage
      ("invalid port \"localhost\": expected an integer between 1 and 65535\n" ++
        App.subscriber.usage))) := by
    decide +kernel
  rw [refused] at refuses
  obtain ⟨unopened, -, fails⟩ := refuses
  exact ⟨reports.code, ⟨_, reports.output⟩, reports.told _ rfl "now", fails, unopened⟩

end Program

end MessagingConsole
