import Worksheet.Text.Basic

/-! Options among the words of a command line. An option begins with a hyphen; its value is the next word or follows
an equals sign. Behind a word of two hyphens there are no options. -/

namespace Worksheet.Command

structure OptionForm where
  name : Text
  takesValue : Bool

structure Words where
  options : List (Text × Text) := []
  others : List Text := []

inductive Misuse where
  | unknownOption (name : Text)
  | missingValue (name : Text)
  | uselessValue (name : Text)
  | missingArgument (name : Text)
  | extraArgument (word : Text)
  | unknownCommand (name : Text)
  | missingCommand
  | badChoice (name word : Text)
  | noSuchFile (path : Text)
  | noSuchFolder (path : Text)
  | notAFile (path : Text)
  | notAFolder (path : Text)

namespace Misuse

def message : Misuse → Text
  | unknownOption name => "No such option: ".toList ++ name
  | missingValue name => "Option '".toList ++ name ++ "' requires an argument.".toList
  | uselessValue name => "Option '".toList ++ name ++ "' does not take a value.".toList
  | missingArgument name => "Missing argument '".toList ++ name ++ "'.".toList
  | extraArgument word => "Got unexpected extra argument (".toList ++ word ++ ")".toList
  | unknownCommand name => "No such command '".toList ++ name ++ "'.".toList
  | missingCommand => "Missing command.".toList
  | badChoice name word => "Invalid value for '".toList ++ name ++ "': ".toList ++ word
  | noSuchFile path => "File '".toList ++ path ++ "' does not exist.".toList
  | noSuchFolder path => "Directory '".toList ++ path ++ "' does not exist.".toList
  | notAFile path => "File '".toList ++ path ++ "' is a directory.".toList
  | notAFolder path => "Directory '".toList ++ path ++ "' is a file.".toList

end Misuse

namespace Words

def isOption : Text → Bool
  | '-' :: _ :: _ => true
  | _ => false

def nameAndValue (word : Text) : Text × Option Text :=
  match word.dropWhile (· != '=') with
  | [] => (word, none)
  | _ :: value => (word.takeWhile (· != '='), some value)

def addOption (name value : Text) (words : Words) : Words :=
  { words with options := (name, value) :: words.options }

def addOther (word : Text) (words : Words) : Words :=
  { words with others := word :: words.others }

/-- Reads a command line. Options behind the first other word count only where `everywhere` says so. -/
def read (forms : List OptionForm) (everywhere : Bool) : List Text → Except Misuse Words
  | [] => .ok {}
  | word :: rest =>
    if word = ['-', '-'] then .ok { others := rest }
    else if isOption word then
      let (name, attached) := nameAndValue word
      match forms.find? (·.name == name), attached, rest with
      | none, _, _ => .error (.unknownOption name)
      | some ⟨_, false⟩, some _, _ => .error (.uselessValue name)
      | some ⟨_, false⟩, none, rest => (read forms everywhere rest).map (addOption name [])
      | some ⟨_, true⟩, some value, rest => (read forms everywhere rest).map (addOption name value)
      | some ⟨_, true⟩, none, value :: rest => (read forms everywhere rest).map (addOption name value)
      | some ⟨_, true⟩, none, [] => .error (.missingValue name)
    else if everywhere then (read forms everywhere rest).map (addOther word)
    else .ok { others := word :: rest }

def valueOf? (words : Words) (name : String) : Option Text :=
  (words.options.reverse.find? fun option => option.1 == name.toList).map (·.2)

def has (words : Words) (name : String) : Bool :=
  (words.valueOf? name).isSome

end Words

end Worksheet.Command
