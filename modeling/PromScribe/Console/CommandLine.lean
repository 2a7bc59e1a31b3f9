import PromScribe.Text.Literal

/-!
# Command lines

A grammar says which switches a program knows, how many words it takes, and which commands. The
arguments are taken one by one: a switch may stand in full behind two dashes or as a letter behind
one, its value behind an equals sign, directly behind the letter, or as the next argument; two dashes
alone end the switches. A switch whose value stands apart is settled only when the next one is taken,
so an unknown argument in between is noticed first.
-/

namespace PromScribe.CommandLine

/-- Why a command line is not taken, or what it asks to be told instead. -/
inductive Rejection where
  /-- An argument that the program does not know. -/
  | unknown
  /-- A value that is missing or not one of the choices. -/
  | badValue
  /-- A value that cannot be read. -/
  | unreadable
  /-- Switches that exclude each other, or one that stands twice. -/
  | conflict
  /-- A value for a switch that takes none. -/
  | superfluous
  /-- Something that has to be there is not. -/
  | incomplete
  | help
  | version
deriving DecidableEq, Repr

/-- Asking to be told something is no fault. -/
def Rejection.isFault (rejection : Rejection) : Bool :=
  rejection != .help && rejection != .version

/-- What a switch is for. -/
inductive Role where
  | flag
  /-- Takes a value, which may be refused. -/
  | valued (rejection? : String → Option Rejection)
  | tells (told : Rejection)

/-- A switch: its name, its letter, and what it is for. -/
structure Switch where
  name : String
  letter : Option Char
  role : Role

/-- The switch that asks for help. -/
def helpSwitch : Switch := ⟨"help", some 'h', .tells .help⟩

/-- The switch that asks for the version. -/
def versionSwitch : Switch := ⟨"version", some 'V', .tells .version⟩

/-- A switch that takes any value. -/
def freeSwitch (name : String) (letter : Option Char) : Switch :=
  ⟨name, letter, .valued fun _ => none⟩

/-- The rejection of a value that is not one of some choices. -/
def choiceRejection? (choices : List String) (value : String) : Option Rejection :=
  if choices.contains value then none else some .badValue

/-- What a program takes. -/
structure Grammar where
  switches : List Switch
  /-- How many words; nothing for any number. -/
  room : Option Nat
  commands : List String

/-- The switches taken with their values, those of flags empty, the words, and a switch whose value
stands apart or is still awaited. All are listed the latest first. -/
structure Progress where
  values : List (String × String)
  words : List String
  open? : Option (Switch × Option String)

namespace Progress

/-- Nothing is taken yet. -/
def initial : Progress := ⟨[], [], none⟩

/-- Takes a switch with its value, only once. -/
def put (progress : Progress) (switch : Switch) (value : String) : Except Rejection Progress :=
  if (progress.values.lookup switch.name).isSome then .error .conflict
  else
    let taken := { progress with values := (switch.name, value) :: progress.values }
    match switch.role with
    | .valued rejection? =>
        match rejection? value with
        | some rejection => .error rejection
        | none => .ok taken
    | .flag => .ok taken
    | .tells told => .error told

/-- Takes the open switch. -/
def settle (progress : Progress) : Except Rejection Progress :=
  match progress.open? with
  | none => .ok progress
  | some (_, none) => .error .badValue
  | some (switch, some value) => { progress with open? := none }.put switch value

/-- Settles the open switch and takes another one. -/
def close (progress : Progress) (switch : Switch) (value : String) : Except Rejection Progress :=
  progress.settle.bind fun settled => settled.put switch value

/-- Settles the open switch and opens another one, whose value is the next argument. -/
def await (progress : Progress) (switch : Switch) : Except Rejection Progress :=
  progress.settle.map fun settled => { settled with open? := some (switch, none) }

/-- A value is awaited. -/
def awaits (progress : Progress) : Option Switch :=
  match progress.open? with
  | some (switch, none) => some switch
  | _ => none

/-- Takes a word. -/
def word (grammar : Grammar) (progress : Progress) (text : String) : Except Rejection Progress :=
  if grammar.room.any fun room => room ≤ progress.words.length then .error .unknown
  else progress.settle.map fun settled => { settled with words := text :: settled.words }

/-- Takes a switch that is written in full. -/
def full (grammar : Grammar) (progress : Progress) (text : List Char) : Except Rejection Progress :=
  let name := text.takeWhile (· != '=')
  let attached? := if name.length < text.length then some (text.drop (name.length + 1)) else none
  match grammar.switches.find? fun switch => switch.name.toList == name with
  | none => .error .unknown
  | some switch =>
      match switch.role, attached? with
      | .valued _, some value => progress.close switch (String.ofList value)
      | .valued _, none => progress.await switch
      | _, some _ => .error .superfluous
      | _, none => progress.close switch ""

/-- Takes switches that are written as letters. -/
def letters (grammar : Grammar) (progress : Progress) : List Char → Except Rejection Progress
  | [] => .ok progress
  | c :: rest =>
      match grammar.switches.find? fun switch => switch.letter == some c with
      | none => .error .unknown
      | some switch =>
          match switch.role, rest with
          | .valued _, [] => progress.await switch
          | .valued _, '=' :: value => progress.close switch (String.ofList value)
          | .valued _, value => progress.close switch (String.ofList value)
          | _, _ => (progress.close switch "").bind fun closed => closed.letters grammar rest

/-- Takes an argument in front of the end of the switches. -/
def take (grammar : Grammar) (progress : Progress) (argument : String) :
    Except Rejection Progress :=
  match argument.toList with
  | '-' :: '-' :: text => progress.full grammar text
  | '-' :: c :: rest => progress.letters grammar (c :: rest)
  | _ =>
      match progress.awaits with
      | some switch => .ok { progress with open? := some (switch, some argument) }
      | none => progress.word grammar argument

end Progress

/-- A command line that was taken. Of a command, its arguments are left. -/
structure Taken where
  /-- The values of the switches, unless the last one is refused. -/
  values : Except Rejection (List (String × String))
  words : List String
  command : Option (String × List String)

/-- What was taken when the arguments end, or a command begins. -/
def Progress.finish (progress : Progress) (command : Option (String × List String)) : Taken :=
  ⟨progress.settle.map Progress.values, progress.words.reverse, command⟩

/-- Takes the arguments; behind the end of the switches every argument is a word. -/
def readFrom (grammar : Grammar) (switchesEnded : Bool) (progress : Progress) :
    List String → Except Rejection Taken
  | [] => .ok (progress.finish none)
  | argument :: rest =>
      if switchesEnded then
        (progress.word grammar argument).bind fun next => readFrom grammar true next rest
      else if progress.awaits.isNone && grammar.commands.contains argument then
        .ok (progress.finish (some (argument, rest)))
      else if argument = "--" then readFrom grammar true progress rest
      else (progress.take grammar argument).bind fun next => readFrom grammar false next rest

/-- What a grammar takes from arguments. -/
def read (grammar : Grammar) (arguments : List String) : Except Rejection Taken :=
  readFrom grammar false .initial arguments

end PromScribe.CommandLine
