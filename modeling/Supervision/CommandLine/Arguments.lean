import Supervision.Text.Basic

/-!
The arguments of the command line. `render` and `generate` take the same options; flags that say
how much to log may stand anywhere.
-/

namespace Supervision.CommandLine

open Text

structure Input where
  optionsFile : Option Text
  overrides : List Text
  baseDir : Option Text
  name : Option Text
  deriving DecidableEq

inductive Command where
  | render (input : Input)
  | generate (input : Input) (json : Bool)
  deriving DecidableEq

structure Draft where
  input : Input
  json : Bool

namespace Draft

def start : Draft := ⟨⟨none, [], none, none⟩, false⟩

/-- Gives an option its value. Only overrides may be given more than once, and a path may not be
empty. -/
def assign (draft : Draft) (option value : Text) : Option Draft :=
  let input := draft.input
  if option = "--options".toList then
    if input.optionsFile.isSome || value.isEmpty then none
    else some { draft with input := { input with optionsFile := some value } }
  else if option = "--set".toList then
    some { draft with input := { input with overrides := input.overrides ++ [value] } }
  else if option = "--base-dir".toList then
    if input.baseDir.isSome || value.isEmpty then none
    else some { draft with input := { input with baseDir := some value } }
  else if option = "--name".toList then
    if input.name.isSome then none
    else some { draft with input := { input with name := some value } }
  else none

end Draft

def isVerbosity (argument : Text) : Bool :=
  argument == "--verbose".toList ||
    match argument with
    | '-' :: 'v' :: others => others.all (· = 'v')
    | _ => false

/-- A value of its own may not look like an option; a single dash does not. -/
def isValue (argument : Text) : Bool :=
  argument.head? != some '-' || argument == ['-']

def readOptions (allowJson : Bool) : Draft → List Text → Option Draft
  | draft, [] => some draft
  | draft, argument :: others =>
      if argument = "--".toList then
        if others.isEmpty then some draft else none
      else if isVerbosity argument then readOptions allowJson draft others
      else if argument = "--json".toList then
        if allowJson && !draft.json then readOptions allowJson { draft with json := true } others
        else none
      else
        match splitOnce '=' argument, others with
        | some (option, value), others =>
            match draft.assign option value with
            | some draft => readOptions allowJson draft others
            | none => none
        | none, value :: others =>
            if isValue value then
              match draft.assign argument value with
              | some draft => readOptions allowJson draft others
              | none => none
            else none
        | none, [] => none

def parse : List Text → Option Command
  | [] => none
  | argument :: others =>
      if isVerbosity argument then parse others
      else if argument = "render".toList then
        (readOptions false .start others).map fun draft => .render draft.input
      else if argument = "generate".toList then
        (readOptions true .start others).map fun draft => .generate draft.input draft.json
      else none

def verbosity (arguments : List Text) : Nat :=
  (arguments.filter isVerbosity).foldl (fun count argument =>
    if argument = "--verbose".toList then count + 1 else count + (argument.length - 1)) 0

end Supervision.CommandLine
