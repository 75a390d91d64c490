import TableGraph.Text.Quoted
import TableGraph.Text.Similarity

/-!
Options on a command line.

An option is a word that starts with a dash. Long options carry their value after an equals sign or as
the next word; short options of one dash may share a word, the last of them taking the rest of the word
or the next word as its value. Two dashes alone end the options.
-/

namespace TableGraph.Command

inductive Setting where
  | help
  | strict (on : Bool)
  | verbose
  | output (directory : String)
  | schemaName (name : String)
  deriving DecidableEq, Repr

inductive OptionForm where
  | flag (names : List String) (setting : Setting)
  | valued (names : List String) (setting : String → Setting)

def OptionForm.names : OptionForm → List String
  | .flag names _ => names
  | .valued names _ => names

inductive OptionFault where
  | unknown (name : String) (meant : List String)
  | needsValue (name : String)
  | takesNoValue (name : String)
  deriving DecidableEq, Repr

def meantText : List String → String
  | [] => ""
  | [name] => " Did you mean " ++ Text.quoted name ++ "?"
  | names => " (Did you mean one of: " ++ ", ".intercalate (names.map Text.quoted) ++ "?)"

def OptionFault.message : OptionFault → String
  | .unknown name meant => "No such option " ++ Text.quoted name ++ "." ++ meantText meant
  | .needsValue name => "Option " ++ Text.quoted name ++ " requires an argument."
  | .takesNoValue name => "Option " ++ Text.quoted name ++ " does not take a value."

inductive WordReading where
  | complete (settings : List Setting)
  | takesNext (settings : List Setting) (name : String) (setting : String → Setting)

def find? (forms : List OptionForm) (name : String) : Option OptionForm :=
  forms.find? (·.names.contains name)

def longNames (forms : List OptionForm) : List String :=
  (forms.flatMap (·.names)).filter (·.startsWith "--")

def readShort (forms : List OptionForm) : List Char → Except OptionFault WordReading
  | [] => .ok (.complete [])
  | c :: rest =>
    let name := String.ofList ['-', c]
    match find? forms name with
    | none => .error (.unknown name [])
    | some (.valued _ setting) =>
      if rest.isEmpty then
        .ok (.takesNext [] name setting)
      else
        .ok (.complete [setting (String.ofList rest)])
    | some (.flag _ setting) =>
      match readShort forms rest with
      | .ok (.complete settings) => .ok (.complete (setting :: settings))
      | .ok (.takesNext settings name last) => .ok (.takesNext (setting :: settings) name last)
      | .error fault => .error fault

def splitValue (word : String) : String × Option String :=
  match word.toList.span (· != '=') with
  | (name, _ :: value) => (String.ofList name, some (String.ofList value))
  | (name, []) => (String.ofList name, none)

def readWord (forms : List OptionForm) (word : String) : Except OptionFault WordReading :=
  let (name, value?) := splitValue word
  match (if (longNames forms).contains name then find? forms name else none), value? with
  | some (.valued _ setting), some value => .ok (.complete [setting value])
  | some (.valued _ setting), none => .ok (.takesNext [] name setting)
  | some (.flag _ setting), none => .ok (.complete [setting])
  | some (.flag _ _), some _ => .error (.takesNoValue name)
  | none, _ =>
    if word.startsWith "--" then
      .error (.unknown name (Text.closeMatches name (longNames forms)))
    else
      readShort forms (word.toList.drop 1)

structure Words where
  settings : List Setting
  others : List String

def Words.addSettings (words : Words) (settings : List Setting) : Words :=
  { words with settings := settings ++ words.settings }

def Words.addOther (words : Words) (word : String) : Words :=
  { words with others := word :: words.others }

/-- Reads a command line. Unless `throughout`, options end at the first other word. -/
def readWords (forms : List OptionForm) (throughout : Bool) :
    List String → Except OptionFault Words
  | [] => .ok ⟨[], []⟩
  | word :: rest =>
    if word == "--" then
      .ok ⟨[], rest⟩
    else if word.startsWith "-" && 1 < word.length then
      match readWord forms word with
      | .error fault => .error fault
      | .ok (.complete settings) => (readWords forms throughout rest).map (·.addSettings settings)
      | .ok (.takesNext settings name setting) =>
        match rest with
        | [] => .error (.needsValue name)
        | value :: rest =>
          (readWords forms throughout rest).map (·.addSettings (settings ++ [setting value]))
    else if throughout then
      (readWords forms throughout rest).map (·.addOther word)
    else
      .ok ⟨[], word :: rest⟩

end TableGraph.Command
