import CollectionTree.CommandLine.Command
import CollectionTree.LinkEstimate.Replay
import CollectionTree.Simulation.Summary

/-
  What the program answers to a command line.

  Key definitions include:
    * `CommandLine.Output`
    * `CommandLine.Complaint`
    * `CommandLine.Halt`
    * `CommandLine.Command.run`
    * `CommandLine.respond`

  Nothing is read or written here: the content of files is
  given, and the answer is text for the two output streams
  and an exit code.  Log lines are no part of the answer.
-/

namespace CollectionTree

namespace CommandLine

------------------------------------------------------------
-- Output
------------------------------------------------------------

/- What a program leaves behind. -/
structure Output where
  code : UInt32
  stdout : String
  stderr : String
  deriving DecidableEq, Repr

/- The output of a run that went well. -/
def Output.success
    (text : String) : Output :=
  ⟨0, text, ""⟩

/- The name and the version of the program. -/
def versionText : String :=
  "rimetree 0.1.0\n"

/- How the program is used. -/
def usageText : String :=
  "Usage: rimetree [-v]... simulate|etx|config|help\n"

/- The output when there is no command to run. -/
def Stop.output : Stop → Output
  | .help => ⟨0, "", usageText⟩
  | .version => .success versionText
  | .misuse => ⟨2, "", usageText⟩

------------------------------------------------------------
-- Complaints
------------------------------------------------------------

/- A failed run: what failed, and why, the nearest first. -/
structure Complaint where
  headline : String
  causes : List String
  deriving DecidableEq, Repr

namespace Complaint

/- A number in a column that is five characters wide. -/
def numberText
    (n : Nat) : String :=
  let shown := Whole.digits n
  String.ofList
    (List.replicate (5 - shown.length) ' ' ++ shown)

/- Causes with ascending numbers. -/
def numberedFrom :
    Nat → List String → List String
  | _, [] => []
  | n, cause :: causes =>
      (numberText n ++ ": " ++ cause) ::
        numberedFrom (n + 1) causes

/- The lines for the causes; a single one has no number. -/
def causeLines : List String → List String
  | [] => []
  | [cause] => ["", "Caused by:", "    " ++ cause]
  | causes => "" :: "Caused by:" :: numberedFrom 0 causes

/- The complaint as text. -/
def text
    (complaint : Complaint) : String :=
  Text.lines
    (("Error: " ++ complaint.headline) ::
      causeLines complaint.causes)

/- The output of a run that failed. -/
def output
    (complaint : Complaint) : Output :=
  ⟨1, "", complaint.text⟩

end Complaint

/- What ends a command before it has an answer. -/
inductive Halt
  | complaint (reason : Complaint)
  | noRoom
  deriving DecidableEq, Repr

/- The output of a command that ends early. -/
def Halt.output : Halt → Output
  | .complaint reason => reason.output
  | .noRoom => ⟨101, "", "capacity overflow\n"⟩

/- A failure and what caused it. -/
def causesOf
    (failure : Failure) : List String :=
  failure.message ::
    match failure with
    | .file fault => [fault.message]
    | _ => []

------------------------------------------------------------
-- Commands
------------------------------------------------------------

/- Settings from a file, if one is named. -/
def loadConfig
    (files : String → Option ByteArray)
    (path? : Option String) : Except Complaint Config :=
  match path? with
  | none => .ok Config.standard
  | some path =>
      match Config.ofFile (files path) with
      | .ok config => .ok config
      | .error failure =>
          .error
            ⟨"failed to load config " ++ path,
              causesOf failure⟩

/-
  Simulate, and report when the steps are done.  The machine
  is one that has room for all tables it can address.
-/
def runSimulation
    (files : String → Option ByteArray)
    (options : SimulateOptions) : Except Halt String := do
  let collect ←
    (loadConfig files options.configFile?).mapError
      Halt.complaint
  match
    Simulation.make Storage.addressable
      (options.setup collect) with
  | .error (.settings failure) =>
      .error
        (.complaint
          ⟨"invalid simulation parameters",
            causesOf failure⟩)
  | .error .noRoom => .error .noRoom
  | .ok s =>
      let final := s.run options.rounds.toNat
      .ok
        (if options.asJson then
          final.reportValue.pretty ++ "\n"
        else
          final.summary)

/- The complaint about a trial that cannot be read. -/
def complaintOf : Trial.Fault → Complaint
  | .unreadable token fault =>
      ⟨"invalid outcome '" ++ token ++ "'",
        [fault.message]⟩
  | .noTransmissions token =>
      ⟨"outcome '" ++ token ++
        "' needs at least one transmission", []⟩

/- Replay trials; nothing is shown unless all can be read. -/
def runReplay
    (outcomes : List Char) : Except Complaint String :=
  match Replay.parse outcomes with
  | .ok trials => .ok (Replay.text trials)
  | .error fault => .error (complaintOf fault)

/- Run a command. -/
def Command.run
    (files : String → Option ByteArray) :
    Command → Except Halt String
  | .simulate options => runSimulation files options
  | .replay outcomes =>
      (runReplay outcomes).mapError Halt.complaint
  | .showConfig => .ok (Config.standard.toJson ++ "\n")

/- The file that a command line asks for. -/
def requestedFile?
    (args : List String) : Option String :=
  match Command.parse args with
  | .ok command => command.file?
  | .error _ => none

/-
  The answer to a command line.  Log lines are left out at
  every level, though they go to the same stream: they bear
  the time of day.  A replay logs a line for each trial from
  the third level on, and nothing below it.
-/
def respond
    (files : String → Option ByteArray)
    (args : List String) : Output :=
  match Command.parse args with
  | .error stop => stop.output
  | .ok command =>
      match command.run files with
      | .ok text => Output.success text
      | .error halt => halt.output

end CommandLine

end CollectionTree
