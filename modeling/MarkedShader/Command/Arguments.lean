import MarkedShader.Text.Basic

/-! Command-line arguments: options with one or two dashes, and the words between them. -/
namespace MarkedShader.Command
open Text

/-- An option by its letter, if it has one, and its word. -/
structure OptionSpec where
  short : Option Char
  long : Text
  takesValue : Bool

/-- The options that were given, by their long names, and the other words. -/
structure Arguments where
  options : List (Text × Text) := []
  words : List Text := []
  deriving DecidableEq, Repr

def Arguments.has (a : Arguments) (long : String) : Bool :=
  a.options.any fun (key, _) => key = long.toList

/-- The last value of an option. -/
def Arguments.value? (a : Arguments) (long : String) : Option Text :=
  a.options.reverse.lookup long.toList

def Arguments.add (a : Arguments) (long value : Text) : Arguments :=
  { a with options := a.options ++ [(long, value)] }

/-- The letters after a single dash. An option with a value takes the rest of the word, or else the
next word. The answer says whether the next word was taken. -/
def shortOptions (specs : List OptionSpec) (next : Option Text) (a : Arguments) :
    Text → Option (Arguments × Bool)
  | [] => some (a, false)
  | c :: r => match specs.find? fun s => s.short = some c with
    | none => none
    | some s =>
      if s.takesValue then
        if r.isEmpty then next.map fun value => (a.add s.long value, true)
          else some (a.add s.long r, false)
      else shortOptions specs next (a.add s.long []) r

/-- The option after two dashes, with its value after an equals sign or in the next word. -/
def longOption (specs : List OptionSpec) (next : Option Text) (a : Arguments) (t : Text) :
    Option (Arguments × Bool) :=
  let (name, value) := match upTo? '=' t with
    | some (name, value) => (name, some value)
    | none => (t, none)
  match specs.find? fun s => s.long = name with
  | none => none
  | some s => match s.takesValue, value with
    | true, some value => some (a.add s.long value, false)
    | true, none => next.map fun value => (a.add s.long value, true)
    | false, some _ => none
    | false, none => some (a.add s.long [], false)

/-- `none` for a word that is no option. -/
def dashed? (specs : List OptionSpec) (next : Option Text) (a : Arguments) :
    Text → Option (Option (Arguments × Bool))
  | '-' :: '-' :: t => some (longOption specs next a t)
  | '-' :: c :: t => some (shortOptions specs next a (c :: t))
  | _ => none

/-- Read arguments; `none` if an option is unknown or lacks its value. Options end at a double dash
and, unless words may come between them, at the first word. -/
def readArguments (specs : List OptionSpec) (mixed : Bool) (a : Arguments) :
    List Text → Option Arguments
  | [] => some a
  | t :: ts =>
    if t = ['-', '-'] then some { a with words := a.words ++ ts } else
    match dashed? specs ts.head? a t with
    | some none => none
    | some (some (a, false)) => readArguments specs mixed a ts
    | some (some (a, true)) => match ts with
      | [] => some a
      | _ :: ts => readArguments specs mixed a ts
    | none =>
      if mixed then readArguments specs mixed { a with words := a.words ++ [t] } ts
      else some { a with words := a.words ++ t :: ts }

end MarkedShader.Command
