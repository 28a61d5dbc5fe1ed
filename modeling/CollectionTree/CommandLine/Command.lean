import CollectionTree.CommandLine.Options
import CollectionTree.Decimal.RealReading
import CollectionTree.Simulation.Setup

/-
  The commands of the program.

  Key definitions include:
    * `CommandLine.SimulateOptions`
    * `CommandLine.Command`
    * `CommandLine.Command.parse`
    * `CommandLine.Command.file?`
-/

namespace CollectionTree

namespace CommandLine

------------------------------------------------------------
-- Values
------------------------------------------------------------

/- A value that is a 64-bit word. -/
def word?
    (value : List Char) : Option UInt64 :=
  match Whole.parse (Nat.pow 2 64 - 1) value with
  | .ok n => some n.toUInt64
  | .error _ => none

/- A value that names a kind of topology. -/
def placement?
    (value : List Char) : Option Setup.Placement :=
  if value = ['l', 'i', 'n', 'e'] then
    some .line
  else if value = ['g', 'r', 'i', 'd'] then
    some .grid
  else
    none

/- A value that names a file. -/
def path?
    (value : List Char) : Option String :=
  if value.isEmpty then
    none
  else
    some (String.ofList value)

------------------------------------------------------------
-- Simulating
------------------------------------------------------------

/- What a simulation is asked for with. -/
structure SimulateOptions where
  nodes : UInt64
  placement : Setup.Placement
  width : UInt64
  range : Float
  rounds : UInt64
  loss : Float
  seed : UInt64
  interval : UInt64
  configFile? : Option String
  asJson : Bool

namespace SimulateOptions

/- What holds when no option says otherwise. -/
def standard : SimulateOptions :=
  { nodes := 8
    placement := .line
    width := 4
    range := 1.0
    rounds := 200
    loss := 0.1
    seed := 42
    interval := 20
    configFile? := none
    asJson := false }

/- The parameters that options and settings amount to. -/
def setup
    (options : SimulateOptions)
    (collect : Config) : Setup :=
  { Setup.standard with
    nodeCount := options.nodes
    topology :=
      match options.placement with
      | .line => .line
      | .grid => .grid options.width
    radioRange := options.range
    linkLoss := options.loss
    messageInterval := options.interval
    seed := options.seed
    collect := collect }

end SimulateOptions

/- An option that asks for help. -/
def helpChoice
    (σ : Type) : Choice σ :=
  ⟨"help", some 'h', false, .stop .help⟩

/- The options of a simulation. -/
def simulateChoices : List (Choice SimulateOptions) :=
  [ ⟨"nodes", some 'n', false, .setting (fun o value =>
      (word? value).map (fun n => { o with nodes := n }))⟩,
    ⟨"topology", some 't', false, .setting (fun o value =>
      (placement? value).map
        (fun p => { o with placement := p }))⟩,
    ⟨"width", none, false, .setting (fun o value =>
      (word? value).map (fun n => { o with width := n }))⟩,
    ⟨"range", none, false, .setting (fun o value =>
      (RealReading.parse? value).map
        (fun x => { o with range := x }))⟩,
    ⟨"rounds", some 'r', false, .setting (fun o value =>
      (word? value).map
        (fun n => { o with rounds := n }))⟩,
    ⟨"loss", some 'l', false, .setting (fun o value =>
      (RealReading.parse? value).map
        (fun x => { o with loss := x }))⟩,
    ⟨"seed", some 's', false, .setting (fun o value =>
      (word? value).map (fun n => { o with seed := n }))⟩,
    ⟨"interval", none, false, .setting (fun o value =>
      (word? value).map
        (fun n => { o with interval := n }))⟩,
    ⟨"config", some 'c', false, .setting (fun o value =>
      (path? value).map
        (fun path =>
          { o with configFile? := some path }))⟩,
    ⟨"json", none, false,
      .flag (fun o => { o with asJson := true })⟩,
    helpChoice SimulateOptions ]

------------------------------------------------------------
-- Other Options
------------------------------------------------------------

/- The options of a replay. -/
def replayChoices : List (Choice (Option (List Char))) :=
  [ ⟨"outcomes", some 'o', false,
      .setting (fun _ value => some (some value))⟩,
    helpChoice (Option (List Char)) ]

/-
  The options before the command.  How much is to be logged
  is read and not kept, as log lines are left out.
-/
def generalChoices : List (Choice Unit) :=
  [ ⟨"verbose", some 'v', true, .flag id⟩,
    ⟨"version", some 'V', false, .stop .version⟩,
    helpChoice Unit ]

------------------------------------------------------------
-- Commands
------------------------------------------------------------

/- What the program is to do. -/
inductive Command
  | simulate (options : SimulateOptions)
  | replay (outcomes : List Char)
  | showConfig

namespace Command

/- The names of the commands. -/
def names : List String :=
  ["simulate", "etx", "config", "help"]

/- What becomes of a request for help on a command. -/
def helpOn
    (args : List String) : Stop :=
  match args with
  | [] => .help
  | [name] =>
      if names.contains name then .help else .misuse
  | _ => .misuse

/- Read the options of a command. -/
def parseNamed
    (name : String)
    (args : List String) : Except Stop Command :=
  if name = "simulate" then do
    let options ←
      readAll simulateChoices SimulateOptions.standard args
    .ok (.simulate options)
  else if name = "etx" then do
    match ← readAll replayChoices none args with
    | some outcomes => .ok (.replay outcomes)
    | none => .error .misuse
  else if name = "config" then do
    let () ← readAll [helpChoice Unit] () args
    .ok .showConfig
  else if name = "help" then
    .error (helpOn args)
  else
    .error .misuse

/- Read a command line. -/
def parse
    (args : List String) : Except Stop Command := do
  match ← readLeading generalChoices (Progress.start ())
      args with
  | ((), []) => .error .misuse
  | ((), name :: rest) => parseNamed name rest

/- The file that a command needs. -/
def file? : Command → Option String
  | .simulate options => options.configFile?
  | _ => none

end Command

end CommandLine

end CollectionTree
