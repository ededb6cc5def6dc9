/-!
The arguments of the command line: options, a command, and options again. Each side takes an option at
most once; where both give a file, the later one counts.
-/
set_option autoImplicit false

namespace TargetGraph.Command

inductive Action where
  | targets
  | top
  | show (reference : String)
deriving DecidableEq, Repr

structure Options where
  file : Option String
  json : Bool
  verbose : Bool
deriving DecidableEq, Repr

inductive Request where
  | version
  | run (action : Action) (options : Options)
deriving DecidableEq, Repr

def defaultFile : String := "targets.yml"

namespace Options

def none : Options := ⟨Option.none, false, false⟩

def setFile (options : Options) (file : String) : Option Options :=
  if options.file.isSome || file = "" then Option.none else some { options with file := some file }

def setJson (options : Options) : Option Options :=
  if options.json then Option.none else some { options with json := true }

def setVerbose (options : Options) : Option Options :=
  if options.verbose then Option.none else some { options with verbose := true }

def merge (before after : Options) : Options :=
  ⟨after.file.or before.file, before.json || after.json, before.verbose || after.verbose⟩

def fileName (options : Options) : String := options.file.getD defaultFile

end Options

inductive Argument where
  | word (text : String)
  | separator
  | long (name : String) (value : Option String)
  | short (letters : List Char)
deriving DecidableEq, Repr

/-- A lone hyphen is a word, and two are the separator. -/
def Argument.ofText (text : String) : Argument :=
  match text.toList with
  | ['-', '-'] => separator
  | '-' :: '-' :: rest =>
    let name := rest.takeWhile fun c => c != '='
    let value := (rest.drop name.length).tail?.map String.ofList
    long (String.ofList name) value
  | '-' :: c :: rest => short (c :: rest)
  | _ => word text

inductive Taken where
  | options (options : Options)
  | fileWanted (options : Options)
  | version
deriving DecidableEq, Repr

/-- Takes an option of two hyphens. Only the file has a value. The version is an option of the front
side alone. -/
def takeLong (inFront : Bool) (options : Options) (name : String) (value : Option String) :
    Option Taken :=
  match name, value with
  | "file", some file => (options.setFile file).map .options
  | "file", none => some (.fileWanted options)
  | "json", none => options.setJson.map .options
  | "verbose", none => options.setVerbose.map .options
  | "version", none => if inFront then some .version else none
  | _, _ => none

/-- Takes letters behind one hyphen. What follows the file's letter is its name, from which one equals
sign in front is dropped. -/
def takeShort (inFront : Bool) : Options → List Char → Option Taken
  | options, [] => some (.options options)
  | options, 'v' :: rest =>
    match options.setVerbose with
    | some options => takeShort inFront options rest
    | none => none
  | options, ['f'] => some (.fileWanted options)
  | options, 'f' :: '=' :: file => (options.setFile (String.ofList file)).map .options
  | options, 'f' :: file => (options.setFile (String.ofList file)).map .options
  | _, 'V' :: _ => if inFront then some .version else none
  | _, _ => none

/-- Arguments behind the command. Words are collected; the separator makes words of all that follows. -/
def takeBehind : List String → Options → List String → Option (Options × List String)
  | [], options, words => some (options, words)
  | argument :: rest, options, words =>
    let goOn (taken : Option Taken) : Option (Options × List String) :=
      match taken with
      | some (.options options) => takeBehind rest options words
      | some (.fileWanted options) =>
        match rest with
        | file :: rest =>
          match Argument.ofText file with
          | .word file => (options.setFile file).bind fun options => takeBehind rest options words
          | _ => none
        | [] => none
      | _ => none
    match Argument.ofText argument with
    | .word word => takeBehind rest options (words ++ [word])
    | .separator => some (options, words ++ rest)
    | .long name value => goOn (takeLong false options name value)
    | .short letters => goOn (takeShort false options letters)

def action? : String → List String → Option Action
  | "targets", [] => some .targets
  | "top", [] => some .top
  | "show", [reference] => some (.show reference)
  | _, _ => none

def takeFront : List String → Options → Option Request
  | [], _ => none
  | argument :: rest, options =>
    let goOn (taken : Option Taken) : Option Request :=
      match taken with
      | some .version => some .version
      | some (.options options) => takeFront rest options
      | some (.fileWanted options) =>
        match rest with
        | file :: rest =>
          match Argument.ofText file with
          | .word file => (options.setFile file).bind fun options => takeFront rest options
          | _ => none
        | [] => none
      | none => none
    match Argument.ofText argument with
    | .word command => do
      let (behind, words) ← takeBehind rest .none []
      let action ← action? command words
      some (.run action (options.merge behind))
    | .separator => none
    | .long name value => goOn (takeLong true options name value)
    | .short letters => goOn (takeShort true options letters)

/-- What arguments ask for; `none` for a mistake in their use. There is no help: `--help`, `-h` and `help`,
with which the program ends well, are mistakes here. -/
def Request.ofArguments (arguments : List String) : Option Request := takeFront arguments .none

end TargetGraph.Command
