import Passthrough.Text.Decimal

set_option autoImplicit false

/-! Options on a command line, each by a letter or by a word. Letters may be joined
behind one dash; a value stands behind its option, or is attached to it with or, for
a letter, without an equals sign. Options are read up to the first argument that the
caller names as the end. Each option may be given once, with a value it accepts. -/

namespace Passthrough.Tool

inductive OptionName where
  | container
  | verbose
  | debug
  | simulate
  | help
  | version
  | file
  | arguments
  | reset
  | time
  deriving DecidableEq

namespace OptionName

def letter? : OptionName → Option Char
  | .container => some 'g'
  | .verbose => some 'v'
  | .debug => some 'd'
  | .simulate => none
  | .help => some 'h'
  | .version => some 'V'
  | .file => some 'f'
  | .arguments => some 'a'
  | .reset => some 'r'
  | .time => some 't'

def word : OptionName → String
  | .container => "container"
  | .verbose => "verbose"
  | .debug => "debug"
  | .simulate => "simulate"
  | .help => "help"
  | .version => "version"
  | .file => "file"
  | .arguments => "args"
  | .reset => "reset"
  | .time => "tod"

def takesValue : OptionName → Bool
  | .container => true
  | .file => true
  | .arguments => true
  | .time => true
  | .verbose => false
  | .debug => false
  | .simulate => false
  | .help => false
  | .version => false
  | .reset => false

/-- Paths are not empty, and a time is a decimal of 64 bits. -/
def accepts : OptionName → String → Bool
  | .file, value => !value.isEmpty
  | .arguments, value => !value.isEmpty
  | .time, value => (Text.Decimal.parse? UInt64.size value.toList).isSome
  | _, _ => true

end OptionName

inductive Interruption where
  | help
  | version
  | refused
  deriving DecidableEq

/-- The options that were given, with their values; a switch has the empty value. -/
abbrev Settings := List (OptionName × String)

namespace Settings

def given (settings : Settings) (option : OptionName) : Bool :=
  (settings.lookup option).isSome

/-- Adds an option that takes effect only at the end. -/
def add (settings : Settings) (option : OptionName) (value : String) :
    Except Interruption Settings :=
  if settings.given option then .error .refused
  else if option.accepts value then .ok ((option, value) :: settings)
  else .error .refused

def switch (settings : Settings) (option : OptionName) : Except Interruption Settings :=
  match option with
  | .help => .error .help
  | .version => .error .version
  | option => settings.add option ""

end Settings

/-- Settings so far, and the option that waits for its value in the next argument. -/
structure Reading where
  settings : Settings
  waiting : Option OptionName
  deriving DecidableEq

def splitAtEquals : List Char → List Char × Option (List Char)
  | [] => ([], none)
  | character :: rest =>
      if character = '=' then ([], some rest)
      else
        let (front, value) := splitAtEquals rest
        (character :: front, value)

def readWord (scope : List OptionName) (settings : Settings) (text : List Char) :
    Except Interruption Reading :=
  let (word, value) := splitAtEquals text
  match scope.find? fun option => option.word.toList = word, value with
  | none, _ => .error .refused
  | some option, none =>
      if option.takesValue then .ok { settings := settings, waiting := some option }
      else (settings.switch option).map fun settings => { settings := settings, waiting := none }
  | some option, some value =>
      if option.takesValue then
        (settings.add option (String.ofList value)).map fun settings =>
          { settings := settings, waiting := none }
      else .error .refused

def attached : List Char → String
  | '=' :: value => String.ofList value
  | value => String.ofList value

/-- Reads options given by letters; what follows a letter that takes a value is the value. -/
def readLetters (scope : List OptionName) : Settings → List Char → Except Interruption Reading
  | settings, [] => .ok { settings := settings, waiting := none }
  | settings, letter :: rest =>
      match scope.find? fun option => option.letter? = some letter with
      | none => .error .refused
      | some option =>
          if option.takesValue then
            if rest.isEmpty then .ok { settings := settings, waiting := some option }
            else (settings.add option (attached rest)).map fun settings =>
              { settings := settings, waiting := none }
          else match settings.switch option with
            | .error interruption => .error interruption
            | .ok settings => readLetters scope settings rest

def readDashed (scope : List OptionName) (settings : Settings) :
    List Char → Except Interruption Reading
  | '-' :: '-' :: text => readWord scope settings text
  | '-' :: letters => readLetters scope settings letters
  | _ => .error .refused

def isPlain (argument : String) : Bool :=
  argument = "-" || !argument.startsWith "-"

/-- Reads options up to an argument that ends them; that argument and all behind it remain.
Two dashes alone say that no option follows, and then nothing may follow. -/
def readOptions (scope : List OptionName) (ends : String → Bool) :
    Reading → List String → Except Interruption (Settings × List String)
  | reading, [] =>
      match reading.waiting with
      | none => .ok (reading.settings, [])
      | some _ => .error .refused
  | reading, argument :: rest =>
      match reading.waiting with
      | some option =>
          if isPlain argument then do
            let settings ← reading.settings.add option argument
            readOptions scope ends { settings := settings, waiting := none } rest
          else .error .refused
      | none =>
          if ends argument then .ok (reading.settings, argument :: rest)
          else if argument = "--" then
            if rest.isEmpty then .ok (reading.settings, []) else .error .refused
          else if isPlain argument then .error .refused
          else do
            let reading ← readDashed scope reading.settings argument.toList
            readOptions scope ends reading rest

def Reading.start : Reading :=
  { settings := [], waiting := none }

end Passthrough.Tool
