import CollectionTree.Text.Blank

/-
  Options on a command line.

  Key definitions include:
    * `CommandLine.Argument`
    * `CommandLine.Choice`
    * `CommandLine.readLeading`
    * `CommandLine.readAll`

  An option has a long name and perhaps a letter.  Its value
  is attached to it or is the next argument, which must not
  look like an option.  Arguments are read from left to
  right, and the first one that ends the reading decides.
-/

namespace CollectionTree

namespace CommandLine

------------------------------------------------------------
-- Arguments
------------------------------------------------------------

/- Why there is no command to run. -/
inductive Stop
  | misuse
  | help
  | version
  deriving DecidableEq, Repr

/- The forms of an argument. -/
inductive Argument
  | terminator
  | long (name : List Char) (value? : Option (List Char))
  | short (letters : List Char)
  | plain (text : List Char)
  deriving DecidableEq, Repr

/- The form of an argument; a lone dash is a plain one. -/
def Argument.ofText
    (text : List Char) : Argument :=
  match text with
  | ['-', '-'] => .terminator
  | '-' :: '-' :: rest =>
      match Text.splitFirst? '=' rest with
      | none => .long rest none
      | some (name, value) => .long name (some value)
  | '-' :: c :: rest => .short (c :: rest)
  | _ => .plain text

------------------------------------------------------------
-- Options
------------------------------------------------------------

/- What an option does to what has been collected. -/
inductive Action (σ : Type)
  | flag (set : σ → σ)
  | setting (set : σ → List Char → Option σ)
  | stop (why : Stop)

/- An option. -/
structure Choice (σ : Type) where
  name : String
  letter? : Option Char
  isRepeatable : Bool
  action : Action σ

/-
  What has been collected, the options used so far, and the
  option whose value comes next.
-/
structure Progress (σ : Type) where
  state : σ
  used : List String
  awaiting? : Option (Choice σ)

variable {σ : Type}

namespace Progress

/- Nothing has been read yet. -/
def start
    (state : σ) : Progress σ :=
  ⟨state, [], none⟩

/- Note the use of an option. -/
def note
    (progress : Progress σ)
    (choice : Choice σ)
    (state : σ) : Except Stop (Progress σ) :=
  if !choice.isRepeatable &&
      progress.used.contains choice.name then
    .error .misuse
  else
    .ok ⟨state, choice.name :: progress.used, none⟩

/- Use an option with a value. -/
def useWith
    (progress : Progress σ)
    (choice : Choice σ)
    (value : List Char) : Except Stop (Progress σ) :=
  match choice.action with
  | .setting set =>
      match set progress.state value with
      | none => .error .misuse
      | some state => progress.note choice state
  | _ => .error .misuse

/- Use an option that has no value attached. -/
def use
    (progress : Progress σ)
    (choice : Choice σ) : Except Stop (Progress σ) :=
  match choice.action with
  | .flag set => progress.note choice (set progress.state)
  | .setting _ =>
      .ok { progress with awaiting? := some choice }
  | .stop why => .error why

/- The value attached to a letter, without its mark. -/
def attached
    (text : List Char) : List Char :=
  match text with
  | '=' :: value => value
  | _ => text

/- Use options given by their letters. -/
def useLetters
    (choices : List (Choice σ)) :
    List Char → Progress σ → Except Stop (Progress σ)
  | [], progress => .ok progress
  | c :: rest, progress =>
      match choices.find?
          (fun choice => choice.letter? == some c) with
      | none => .error .misuse
      | some choice =>
          match choice.action, rest with
          | .setting _, _ :: _ =>
              progress.useWith choice (attached rest)
          | _, _ => do
              let next ← progress.use choice
              useLetters choices rest next

/- Use an option given by its name. -/
def useName
    (choices : List (Choice σ))
    (name : List Char)
    (value? : Option (List Char))
    (progress : Progress σ) : Except Stop (Progress σ) :=
  match choices.find?
      (fun choice => choice.name.toList == name) with
  | none => .error .misuse
  | some choice =>
      match value? with
      | some value => progress.useWith choice value
      | none => progress.use choice

end Progress

------------------------------------------------------------
-- Reading
------------------------------------------------------------

/-
  Read options up to the first argument that is neither an
  option nor a value of one; it and the rest are returned.
-/
def readLeading
    (choices : List (Choice σ)) :
    Progress σ → List String →
      Except Stop (σ × List String)
  | progress, [] =>
      if progress.awaiting?.isSome then
        .error .misuse
      else
        .ok (progress.state, [])
  | progress, arg :: rest =>
      match progress.awaiting?,
          Argument.ofText arg.toList with
      | some choice, .plain value => do
          let next ← progress.useWith choice value
          readLeading choices next rest
      | some _, _ => .error .misuse
      | none, .long name value? => do
          let next ←
            progress.useName choices name value?
          readLeading choices next rest
      | none, .short letters => do
          let next ← progress.useLetters choices letters
          readLeading choices next rest
      | none, _ => .ok (progress.state, arg :: rest)

/- Read options only; two dashes may stand at the end. -/
def readAll
    (choices : List (Choice σ))
    (initial : σ)
    (args : List String) : Except Stop σ := do
  let (state, rest) ←
    readLeading choices (Progress.start initial) args
  if rest = [] ∨ rest = ["--"] then
    .ok state
  else
    .error .misuse

end CommandLine

end CollectionTree
