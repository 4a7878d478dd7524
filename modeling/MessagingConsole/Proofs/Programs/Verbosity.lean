import MessagingConsole.Programs
import MessagingConsole.Proofs.CommandLine.Verbosity
import MessagingConsole.Proofs.Publisher.Restriction
import MessagingConsole.Proofs.Requester.Restriction
import MessagingConsole.Proofs.Session.Surroundings
import MessagingConsole.Proofs.Subscriber.Restriction

/-!
# Logging does not interfere

What a client prints, sends, receives and ends with does not depend on its logger.  A program
that is asked for more detail does what it did before, refusals and notices included, and only
hands on more records: those that it handed on before are among them, in the same order.

## Main Definitions

- `Program.LogsMore` - one more request for detail only adds records to the log of a program.

## Main Results

- `Program.logging_only_logs` - no client heeds its logger, and no program the detail.
-/

namespace MessagingConsole.Program

open CommandLine (App Louder Options Refusal verboseArgument)

variable {keep : Log.Record → Bool} {more less : Log.Logger}

/-! ## The parts of a program -/

theorem restrictsTo_announce (text : String) :
    (announce text).RestrictsTo keep Eq (announce text) :=
  .bind (Session.restrictsTo_perform fun _ => rfl) fun _ _ _ => .pure rfl

/-- Turning down a command line has nothing to do with a logger. -/
theorem restrictsTo_refuse (refusal : Refusal) :
    (refuse refusal).RestrictsTo keep Eq (refuse refusal) := by
  have announced (text : String) (status : ExitStatus) :
      (do announce text; return status : Session ExitStatus).RestrictsTo keep Eq
        (do announce text; return status) :=
    .bind (restrictsTo_announce text) fun _ _ _ => .pure rfl
  have reported (line : String) (status : ExitStatus) :
      (do Session.perform (.report line); return status : Session ExitStatus).RestrictsTo keep Eq
        (do Session.perform (.report line); return status) :=
    .bind (Session.restrictsTo_perform fun _ => rfl) fun _ _ _ => .pure rfl
  unfold refuse
  split
  case h_5 => exact .pure rfl
  case h_4 => exact reported _ _
  all_goals exact announced _ _

theorem restrictsTo_exitWith (restricts : more.RestrictsTo keep less) (error : Error) :
    (exitWith more error).RestrictsTo keep Eq (exitWith less error) :=
  .bind (Session.restrictsTo_note restricts _ _ _) fun _ _ _ =>
    .bind (Session.restrictsTo_perform fun _ => rfl) fun _ _ _ => .pure rfl

theorem restrictsTo_finish (restricts : more.RestrictsTo keep less) (value : Except Error Unit) :
    (finish more value).RestrictsTo keep Eq (finish less value) := by
  cases value with
  | ok => exact .pure rfl
  | error error => exact restrictsTo_exitWith restricts error

/-! ## The three programs -/

/-- Each request for more detail lowers the threshold, or leaves it. -/
theorem rank_ofVerbosity_le (verbosity : Nat) :
    (Log.Level.ofVerbosity verbosity).rank ≤ (Log.Level.ofVerbosity (verbosity + 1)).rank := by
  match verbosity with
  | 0 | 1 | 2 => decide
  | _ + 3 => exact Nat.le_refl _

variable {scanned : Except Refusal CommandLine.Scan} {commandLine verbose : List Bytes}

theorem restrictsTo_subscriber (budget : Nat)
    (louder : Louder scanned (Options.subscriber commandLine) (Options.subscriber verbose)) :
    ∃ keep, (subscriber verbose budget).RestrictsTo keep Eq (subscriber commandLine budget) := by
  unfold subscriber
  generalize Options.subscriber commandLine = fewer, Options.subscriber verbose = more at louder
  cases louder with
  | refused refusal => exact ⟨fun _ => true, restrictsTo_refuse refusal⟩
  | @read scan config read =>
    have restricts := Log.Logger.restrictsTo_root App.subscriber.name
      (rank_ofVerbosity_le scan.verbosity)
    refine ⟨Log.Level.admits (.ofVerbosity scan.verbosity), ?_⟩
    refine .bind (restrictsTo_announce _) fun _ _ _ => ?_
    refine .bind (Subscriber.restrictsTo_session restricts config budget) fun value _ same => ?_
    subst same
    cases value with
    | ok printed => exact .bind (Session.restrictsTo_note restricts _ _ _) fun _ _ _ => .pure rfl
    | error error => exact restrictsTo_exitWith restricts error

theorem restrictsTo_requester (budget : Nat)
    (louder : Louder scanned (Options.requester commandLine) (Options.requester verbose)) :
    ∃ keep, (requester verbose budget).RestrictsTo keep Eq (requester commandLine budget) := by
  unfold requester
  generalize Options.requester commandLine = fewer, Options.requester verbose = more at louder
  cases louder with
  | refused refusal => exact ⟨fun _ => true, restrictsTo_refuse refusal⟩
  | @read scan config read =>
    have restricts := Log.Logger.restrictsTo_root App.requester.name
      (rank_ofVerbosity_le scan.verbosity)
    refine ⟨Log.Level.admits (.ofVerbosity scan.verbosity), ?_⟩
    refine .bind (restrictsTo_announce _) fun _ _ _ => ?_
    refine .bind (Requester.restrictsTo_connect restricts config) fun _ _ alike => ?_
    cases alike with
    | stopped stop =>
      cases stop with
      | shutdown => exact .pure rfl
      | failed error => exact restrictsTo_exitWith restricts error
    | done thins =>
      -- The two clients are the same but for their loggers, so that the banners are the same.
      obtain ⟨endpoint, child⟩ := thins
      refine .bind (restrictsTo_announce _) fun _ _ _ => ?_
      refine .bind (restrictsTo_announce _) fun _ _ _ => ?_
      refine .bind (Requester.restrictsTo_run child endpoint budget) fun value _ same => ?_
      subst same
      exact restrictsTo_finish restricts value

theorem restrictsTo_publisher (budget : Nat)
    (louder : Louder scanned (Options.publisher commandLine) (Options.publisher verbose)) :
    ∃ keep, (publisher verbose budget).RestrictsTo keep Eq (publisher commandLine budget) := by
  unfold publisher
  generalize Options.publisher commandLine = fewer, Options.publisher verbose = more at louder
  cases louder with
  | refused refusal => exact ⟨fun _ => true, restrictsTo_refuse refusal⟩
  | @read scan config read =>
    have restricts := Log.Logger.restrictsTo_root App.publisher.name
      (rank_ofVerbosity_le scan.verbosity)
    refine ⟨Log.Level.admits (.ofVerbosity scan.verbosity), ?_⟩
    refine .bind (Publisher.restrictsTo_bind restricts config) fun _ _ alike => ?_
    cases alike with
    | stopped stop =>
      cases stop with
      | shutdown => exact .pure rfl
      | failed error => exact restrictsTo_exitWith restricts error
    | done thins =>
      obtain ⟨endpoint, child⟩ := thins
      refine .bind (restrictsTo_announce _) fun _ _ _ => ?_
      refine .bind (Publisher.restrictsTo_run child endpoint budget) fun value _ same => ?_
      subst same
      exact .bind (restrictsTo_announce _) fun _ _ _ => restrictsTo_finish restricts value

/-! ## More detail -/

/-- One more request for detail, right behind its name, changes nothing about a program but
its log.  The records that it handed on before are among the new ones in the same order, and
they are the same if it was asked for all detail before. -/
def LogsMore (app : App) (program : List Bytes → (budget : Nat) → Session ExitStatus) : Prop :=
  ∀ (name : Bytes) (arguments : List Bytes) (env : Environment),
    let fewer := runIn program (name :: arguments) env
    let more := runIn program (name :: verboseArgument :: arguments) env
    fewer.SameButLog more ∧ fewer.transcript.records.Sublist more.transcript.records ∧
      ((∀ scan, app.scan (name :: arguments) = .ok scan → 3 ≤ scan.verbosity) →
        more.transcript.records = fewer.transcript.records)

/-- A program whose verbose run restricts to the other one only logs more. -/
theorem logsMore_of_restrictsTo {app : App}
    {program : List Bytes → (budget : Nat) → Session ExitStatus}
    (restricts : ∀ name arguments budget, ∃ keep,
      (program (name :: verboseArgument :: arguments) budget).RestrictsTo keep Eq
        (program (name :: arguments) budget))
    (same : ∀ name arguments,
      (∀ scan, app.scan (name :: arguments) = .ok scan → 3 ≤ scan.verbosity) →
        program (name :: verboseArgument :: arguments) = program (name :: arguments)) :
    LogsMore app program := by
  intro name arguments env fewer more
  obtain ⟨keep, restricts⟩ := restricts name arguments env.budget
  refine ⟨restricts.sameButLog env, ?_, fun verbose => ?_⟩
  · have records : fewer.transcript.records = more.transcript.records.filter keep := by
      rw [show fewer = { more with transcript := more.transcript.keeping keep } from
        restricts.run_eq env]
      exact Transcript.records_keeping
    rw [records]
    exact List.filter_sublist
  · have program_eq := same name arguments verbose
    show ((program (name :: verboseArgument :: arguments) env.budget).run env).transcript.records =
      _
    rw [program_eq]
    rfl

theorem logsMore_subscriber : LogsMore App.subscriber subscriber := by
  refine logsMore_of_restrictsTo (fun _ _ budget => ?_) fun name arguments verbose => ?_
  · exact restrictsTo_subscriber budget CommandLine.louder_subscriber
  · have options := CommandLine.louder_subscriber.eq_of_verbose verbose
    funext budget
    unfold subscriber
    rw [options]

theorem logsMore_requester : LogsMore App.requester requester := by
  refine logsMore_of_restrictsTo (fun _ _ budget => ?_) fun name arguments verbose => ?_
  · exact restrictsTo_requester budget CommandLine.louder_requester
  · have options := CommandLine.louder_requester.eq_of_verbose verbose
    funext budget
    unfold requester
    rw [options]

theorem logsMore_publisher : LogsMore App.publisher publisher := by
  refine logsMore_of_restrictsTo (fun _ _ budget => ?_) fun name arguments verbose => ?_
  · exact restrictsTo_publisher budget CommandLine.louder_publisher
  · have options := CommandLine.louder_publisher.eq_of_verbose verbose
    funext budget
    unfold publisher
    rw [options]

/-- **Logging does not interfere.**  No client heeds what its logger keeps, be it silent or
not, neither in a whole session nor once its channel is open, and one more request for detail
only adds to the log of a program. -/
theorem logging_only_logs :
    ((∀ endpoint budget, LogBlind fun logger => Requester.session logger endpoint budget) ∧
      ∀ endpoint budget, LogBlind fun logger => Requester.run ⟨endpoint, logger⟩ budget) ∧
    ((∀ endpoint budget, LogBlind fun logger => Publisher.session logger endpoint budget) ∧
      ∀ endpoint budget, LogBlind fun logger => Publisher.run ⟨endpoint, logger⟩ budget) ∧
    ((∀ subscription budget, LogBlind fun logger => Subscriber.run logger subscription budget) ∧
      (∀ endpoint filter format budget printed, LogBlind fun logger =>
        Subscriber.printAll ⟨endpoint, filter, logger⟩ format budget printed) ∧
      ∀ endpoint filter budget count, LogBlind fun logger =>
        Subscriber.messages ⟨endpoint, filter, logger⟩ budget count) ∧
    LogsMore App.subscriber subscriber ∧ LogsMore App.requester requester ∧
    LogsMore App.publisher publisher := by
  refine ⟨⟨?_, ?_⟩, ⟨?_, ?_⟩, ⟨?_, ?_, ?_⟩, logsMore_subscriber, logsMore_requester,
    logsMore_publisher⟩
  · intro endpoint budget
    exact .of_restrictsTo fun logger =>
      Requester.restrictsTo_session logger.restrictsTo_silent endpoint budget
  · intro endpoint budget
    exact .of_restrictsTo fun logger =>
      Requester.restrictsTo_run logger.restrictsTo_silent endpoint budget
  · intro endpoint budget
    exact .of_restrictsTo fun logger =>
      Publisher.restrictsTo_session logger.restrictsTo_silent endpoint budget
  · intro endpoint budget
    exact .of_restrictsTo fun logger =>
      Publisher.restrictsTo_run logger.restrictsTo_silent endpoint budget
  · intro subscription budget
    exact .of_restrictsTo fun logger =>
      Subscriber.restrictsTo_session logger.restrictsTo_silent subscription budget
  · intro endpoint filter format budget printed
    exact .of_restrictsTo fun logger =>
      Subscriber.restrictsTo_printAll logger.restrictsTo_silent endpoint filter format budget
        printed
  · intro endpoint filter budget count
    exact .of_restrictsTo fun logger =>
      Subscriber.restrictsTo_messages logger.restrictsTo_silent endpoint filter budget count

/-- A subscriber that already logs everything is asked for more, and a requester is given a
logger that keeps everything in place of a silent one. -/
theorem logging_only_logs_of_verbose :
    let name := Utf8.encode "pqsub"
    let arguments := ["-vvv", "--filter=he", "localhost:5556"].map Utf8.encode
    let messages : List Message :=
      [⟨[Utf8.encode "hello"], ⟨0, 0, 0⟩⟩, ⟨[Utf8.encode "bye"], ⟨0, 0, 0⟩⟩]
    let env := Environment.calm "ping\nquit\n" ⟨[]⟩ messages
    let fewer := runIn subscriber (name :: arguments) env
    let more := runIn subscriber (name :: verboseArgument :: arguments) env
    let endpoint : Endpoint := ⟨"localhost", 5555⟩
    fewer.SameButLog more ∧ more.transcript.records = fewer.transcript.records ∧
      fewer.transcript.records.length = 7 ∧
      ((Requester.session .silent endpoint 4).run env).SameButLog
        ((Requester.session (.root .trace "pqreq") endpoint 4).run env) := by
  intro name arguments messages env fewer more endpoint
  obtain ⟨⟨blind, -⟩, -, -, logsMore, -, -⟩ := logging_only_logs
  obtain ⟨same, -, records⟩ := logsMore name arguments env
  have scanned : (App.subscriber.scan (name :: arguments)).map (·.verbosity) = .ok 3 := by
    decide +kernel
  have verbose : ∀ scan, App.subscriber.scan (name :: arguments) = .ok scan →
      3 ≤ scan.verbosity := by
    intro scan read
    rw [read] at scanned
    exact Nat.le_of_eq (Except.ok.inj scanned).symm
  exact ⟨same, records verbose, by decide +kernel, blind endpoint 4 .silent _ env⟩

end MessagingConsole.Program
