import Sexpr.Session
/-!
The arguments of the program.
-/
namespace Sexpr.CommandLine

structure Options where
  settings : Session.Settings := {}
  fixture : Option String := none

inductive UsageFault where
  | unexpected (argument : String)
  | missingValue (option : String)
  deriving DecidableEq

def UsageFault.message : UsageFault → String
  | .unexpected argument => s!"error: unexpected argument '{argument}'"
  | .missingValue option => s!"error: option '{option}' needs a value"

def valueOf? (option argument : String) : Option String :=
  ((option ++ "=").toList.isPrefixOf? argument.toList).map String.ofList

def addTo (options : Options) : List String → Except UsageFault Options
  | [] => .ok options
  | "--no-repl" :: rest => addTo (withoutConversation options) rest
  | "-d" :: rest => addTo (describing options) rest
  | "--dump" :: rest => addTo (describing options) rest
  | "--fixture" :: path :: rest => addTo { options with fixture := some path } rest
  | "--prompt" :: prompt :: rest => addTo (prompting options prompt) rest
  | argument :: rest =>
    match valueOf? "--fixture" argument, valueOf? "--prompt" argument with
    | some path, _ => addTo { options with fixture := some path } rest
    | none, some prompt => addTo (prompting options prompt) rest
    | none, none =>
      if argument = "--fixture" ∨ argument = "--prompt" then .error (.missingValue argument)
      else .error (.unexpected argument)
where
  withoutConversation (options : Options) : Options :=
    { options with settings := { options.settings with converses := false } }
  describing (options : Options) : Options :=
    { options with settings := { options.settings with describes := true } }
  prompting (options : Options) (prompt : String) : Options :=
    { options with settings := { options.settings with prompt } }

def parse (arguments : List String) : Except UsageFault Options :=
  addTo {} arguments

end Sexpr.CommandLine
