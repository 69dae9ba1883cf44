import Classwright.CommandLine.Help
import Classwright.Disk.Path
import Classwright.Error
import Classwright.Text.Case
import Classwright.Text.Digit

/-!
# CommandLine — arguments

Words on the command line are first told apart one by one and then taken from left to right. A
switch may be cut short as long as only one fits, and has its argument behind an equals sign or in
the next word. Behind two hyphens there are no more switches.

* `Word`, `words`: what the words are.
* `Misuse`: why they are refused.
* `Arguments.ofList`: the arguments that they give.
-/

namespace Classwright.CommandLine

/-! ### Words -/

/-- A word on the command line. -/
inductive Word where
  /-- A word that stands for itself. -/
  | plain (t : Text)
  /-- The mark behind which there are no switches. -/
  | mark
  /-- A switch, perhaps with an argument behind an equals sign. -/
  | switch (s : Switch) (argument : Option Text)
  /-- The short switch for help, with more behind it. -/
  | shortHelp (more : Text)
  /-- A word that looks like a switch and is none. -/
  | unknown (t : Text)
  deriving DecidableEq, Repr

/-- Why the words are refused. -/
inductive Misuse where
  /-- A switch cut too short. -/
  | ambiguous (word : Text) (candidates : List Switch)
  /-- A switch without its argument. -/
  | noArgument (s : Switch)
  /-- A switch with an argument it does not take. -/
  | unwantedArgument (s : Switch) (argument : Text)
  /-- A level that is none. -/
  | unknownLevel (name : Text)
  /-- No input file. -/
  | noInput
  /-- Words that nothing takes. -/
  | leftOver (words : List Text)
  deriving DecidableEq, Repr

/-- The wording of a misuse. -/
def Misuse.message : Misuse → Text
  | ambiguous word candidates =>
      "ambiguous option: " ++ word ++ " could match "
        ++ Text.join ", " (candidates.map (·.longName))
  | noArgument s => "argument " ++ s.label ++ ": expected one argument"
  | unwantedArgument s argument =>
      "argument " ++ s.label ++ ": ignored explicit argument " ++ argument.quoted
  | unknownLevel name =>
      "argument " ++ Switch.logLevel.label ++ ": invalid choice: " ++ name.quoted
        ++ " (choose from " ++ Text.join ", " (levels.map Text.quoted) ++ ")"
  | noInput => "the following arguments are required: input"
  | leftOver words => "unrecognized arguments: " ++ Text.join " " words

/-- Does a word write a negative number? -/
def isNegativeNumber (t : Text) : Bool :=
  match t with
  | '-' :: rest =>
      let rest := if rest.getLast? = some '\n' then rest.dropLast else rest
      let behind := rest.dropWhile isDigit
      match behind with
      | [] => !rest.isEmpty
      | '.' :: places => !places.isEmpty && places.all isDigit
      | _ => false
  | _ => false

/-- The part of a word in front of its first equals sign, and the part behind it. -/
def splitEquals (t : Text) : Text × Option Text :=
  match t.dropWhile (· != '=') with
  | [] => (t, none)
  | _ :: rest => (t.takeWhile (· != '='), some rest)

/-- The word for a text that begins with a hyphen and is no switch. -/
def strange (t : Text) : Word :=
  if isNegativeNumber t || t.contains ' ' then .plain t else .unknown t

/-- The switch that a text with two hyphens begins with. -/
def longWord (t : Text) : Except Misuse Word :=
  let (start, argument) := splitEquals t
  match Switch.all.find? fun s => s.longName == start with
  | some s => .ok (.switch s argument)
  | none =>
      match Switch.all.filter fun s => start.isPrefixOf s.longName with
      | [] => .ok (strange t)
      | [s] => .ok (.switch s argument)
      | candidates => .error (.ambiguous t candidates)

/-- What a text on the command line is, as long as there are switches. -/
def word (t : Text) : Except Misuse Word :=
  match t with
  | '-' :: '-' :: _ => longWord t
  | ['-', 'h'] => .ok (.switch .help none)
  | '-' :: 'h' :: more => .ok (.shortHelp more)
  | '-' :: _ :: _ => .ok (strange t)
  | _ => .ok (.plain t)

/-- What the texts on the command line are. -/
def words : List Text → Except Misuse (List Word)
  | [] => .ok []
  | t :: rest =>
      if t = "--" then .ok (.mark :: rest.map .plain)
      else do
        let first ← word t
        return first :: (← words rest)

/-! ### Arguments -/

/-- The arguments of the program. -/
structure Arguments where
  input : Path
  outputDirectory : Text := []
  logLevel : Text := []
  loggingConfig : Option Path := none
  deriving DecidableEq, Repr

/-- Why there are no arguments. -/
inductive Stop where
  /-- Help is asked for. -/
  | help
  | refused (misuse : Misuse)
  deriving DecidableEq, Repr

/-- What the words taken so far say. -/
structure Taken where
  input : Option Text := none
  outputDirectory : Text := []
  logLevel : Text := []
  loggingConfig : Option Path := none
  leftOver : List Text := []

namespace Taken

/-- With one more word that nothing takes. -/
def leave (taken : Taken) (t : Text) : Taken := { taken with leftOver := taken.leftOver ++ [t] }

/-- With the argument of a switch. -/
def set (taken : Taken) (s : Switch) (argument : Text) : Except Stop Taken :=
  match s with
  | .help => .error (.refused (.unwantedArgument .help argument))
  | .outputDirectory => .ok { taken with outputDirectory := argument }
  | .logLevel =>
      let level := Text.toUpper argument
      if level ∈ levels then .ok { taken with logLevel := level }
      else .error (.refused (.unknownLevel level))
  | .loggingConfig => .ok { taken with loggingConfig := some (.ofText argument) }

/-- What follows the short switch for help: it may be given again, but takes no argument. -/
def stopForHelp : Text → Stop
  | '=' :: argument => .refused (.unwantedArgument .help argument)
  | '-' :: rest => .refused (.unwantedArgument .help ('-' :: rest))
  | 'h' :: more => stopForHelp more
  | _ => .help

/-- The words taken from left to right. The first word that stands for itself is the input; a mark
beside it goes with it. -/
def take : Taken → List Word → Except Stop Taken
  | taken, [] => .ok taken
  | taken, .unknown t :: rest => (taken.leave t).take rest
  | taken, .plain t :: .mark :: rest =>
      if taken.input.isNone then { taken with input := some t }.take rest
      else (taken.leave t).take (.mark :: rest)
  | taken, .plain t :: rest =>
      if taken.input.isNone then { taken with input := some t }.take rest
      else (taken.leave t).take rest
  | taken, .mark :: .plain t :: rest =>
      if taken.input.isNone then { taken with input := some t }.take rest
      else (taken.leave "--").take (.plain t :: rest)
  | taken, .mark :: rest => (taken.leave "--").take rest
  | _, .shortHelp more :: _ => .error (stopForHelp more)
  | _, .switch .help none :: _ => .error .help
  | taken, .switch s none :: .plain t :: rest => do (← taken.set s t).take rest
  | _, .switch s none :: _ => .error (.refused (.noArgument s))
  | taken, .switch s (some argument) :: rest => do (← taken.set s argument).take rest

/-- The arguments that the words give in the end. -/
def finish (taken : Taken) : Except Stop Arguments :=
  match taken.input, taken.leftOver with
  | none, _ => .error (.refused .noInput)
  | some _, t :: rest => .error (.refused (.leftOver (t :: rest)))
  | some input, [] =>
      .ok {
        input := .ofText input
        outputDirectory := taken.outputDirectory
        logLevel := taken.logLevel
        loggingConfig := taken.loggingConfig }

end Taken

/-- The arguments that the texts on the command line give. -/
def Arguments.ofList (list : List Text) : Except Stop Arguments := do
  match words list with
  | .error misuse => throw (.refused misuse)
  | .ok words => (← Taken.take {} words).finish

end Classwright.CommandLine
