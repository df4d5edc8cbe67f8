import CourierDispatch.Settings.Basic

/-!
# Command lines

A command line is a list of options, each with one value: in the same
argument behind an equals sign, or in the next one, which must not start
with a hyphen then. Nothing else may stand on it.

Arguments are read from left to right, and a value is checked when the next
option begins or the line ends. An argument that is no option is reported at
once, before the value in front of it is checked.
-/

namespace CourierDispatch.CommandLine

/-- What the reader needs to know of an option. -/
structure Spec where
  /-- The option, without the two hyphens before it. -/
  option : String
  /-- Refuses what is no value. -/
  check : String → Except Rejection Unit

/-- What the reader needs to know of a setting. -/
def Spec.ofSetting {α : Type} (s : Setting α) : Spec :=
  ⟨s.option, fun text => (s.read text).map fun _ => ()⟩

/-- **What the reader knows so far.** -/
structure Progress where
  /-- The options whose values have been checked. -/
  given : List (String × String) := []
  /-- The option that was read last, with its value if there is one yet. -/
  pending : Option (Spec × Option String) := none

/-- Takes in an option with its value. -/
def take (p : Progress) (spec : Spec) : Option String → Except Rejection Progress
  | none => .error .invalidValue
  | some text =>
    if (p.given.lookup spec.option).isSome then .error .repeated
    else
      match spec.check text with
      | .error e => .error e
      | .ok () => .ok ⟨p.given ++ [(spec.option, text)], none⟩

/-- Takes in the option that was read last. -/
def Progress.settle (p : Progress) : Except Rejection Progress :=
  match p.pending with
  | none => .ok p
  | some (spec, text) => take { p with pending := none } spec text

/-- The characters of an option, and its value if it has one, from what
follows the two hyphens. -/
def splitOption (cs : List Char) : String × Option String :=
  let name := cs.takeWhile (· ≠ '=')
  match cs.drop name.length with
  | [] => (String.ofList name, none)
  | _ :: value => (String.ofList name, some (String.ofList value))

/-- Reads an argument that starts with two hyphens. -/
def readOption (specs : List Spec) (p : Progress) (cs : List Char) :
    Except Rejection Progress :=
  let (name, value) := splitOption cs
  match specs.find? fun s => s.option = name with
  | some spec =>
    match p.settle with
    | .error e => .error e
    | .ok p =>
      match value with
      | some text => take p spec (some text)
      | none => .ok { p with pending := some (spec, none) }
  | none =>
    if name = "help" then
      if value.isSome then .error .tooManyValues
      else
        match p.settle with
        | .error e => .error e
        | .ok _ => .error .helpWanted
    else .error .unknownArgument

/-- Reads one argument. -/
def readArgument (specs : List Spec) (p : Progress) (arg : String) :
    Except Rejection Progress :=
  match arg.toList with
  | '-' :: '-' :: rest => readOption specs p rest
  | '-' :: 'h' :: _ =>
    match p.settle with
    | .error e => .error e
    | .ok _ => .error .helpWanted
  | '-' :: _ :: _ => .error .unknownArgument
  | _ =>
    match p.pending with
    | some (spec, none) => .ok { p with pending := some (spec, some arg) }
    | _ => .error .unknownArgument

/-- Reads the arguments; behind two hyphens alone nothing may stand. -/
def readArguments (specs : List Spec) (p : Progress) : List String → Except Rejection Progress
  | [] => p.settle
  | "--" :: [] => p.settle
  | "--" :: _ :: _ => .error .unknownArgument
  | arg :: rest =>
    match readArgument specs p arg with
    | .error e => .error e
    | .ok p => readArguments specs p rest

/-- **The options that a command line gives**, with values that have been
checked. -/
def read (specs : List Spec) (args : List String) : Except Rejection (List (String × String)) :=
  (readArguments specs {} args).map (·.given)

end CourierDispatch.CommandLine
