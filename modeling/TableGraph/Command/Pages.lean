import TableGraph.Command.Options

/-!
The commands of the program: their options, their usage lines and their help pages.
-/

namespace TableGraph.Command

inductive Verb where
  | schema
  | build
  | tables
  deriving DecidableEq, Repr

namespace Verb

def name : Verb → String
  | .schema => "schema"
  | .build => "build"
  | .tables => "tables"

def all : List Verb := [.build, .schema, .tables]

def ofName? (name : String) : Option Verb :=
  all.find? (·.name == name)

end Verb

def helpForm : OptionForm := .flag ["--help"] .help

def verboseForm : OptionForm := .flag ["--verbose", "-v"] .verbose

def strictForms : List OptionForm :=
  [.flag ["--strict"] (.strict true), .flag ["--no-strict"] (.strict false)]

def outputForm : OptionForm := .valued ["--output", "-o"] .output

def schemaNameForm : OptionForm := .valued ["--schema-name"] .schemaName

def Verb.forms : Verb → List OptionForm
  | .schema => strictForms ++ [verboseForm, helpForm]
  | .build => outputForm :: strictForms ++ [verboseForm, helpForm]
  | .tables => [schemaNameForm, verboseForm, helpForm]

def lines (ls : List String) : String :=
  String.join (ls.map (· ++ "\n"))

abbrev Place := Option Verb

namespace Place

def words : Place → String
  | none => "cli"
  | some verb => "cli " ++ verb.name

def usage (place : Place) : String :=
  match place with
  | none => "Usage: cli [OPTIONS] COMMAND [ARGS]..."
  | some _ => "Usage: " ++ place.words ++ " [OPTIONS] DATABASE"

def helpPage (place : Place) : String :=
  match place with
  | none => lines [
      place.usage,
      "",
      "  RelQL - GraphQL schemas and resolvers from relational databases.",
      "",
      "Options:",
      "  --help  Show this message and exit.",
      "",
      "Commands:",
      "  build   Write the schema and resolver templates for a DuckDB database.",
      "  schema  Print the GraphQL schema generated for a DuckDB database.",
      "  tables  List tables and their column counts."]
  | some .schema => lines [
      place.usage,
      "",
      "  Print the GraphQL schema generated for a DuckDB database.",
      "",
      "Options:",
      "  --strict / --no-strict  Fail on tables without exactly one primary key",
      "  -v, --verbose           Verbose logging and error output",
      "  --help                  Show this message and exit."]
  | some .build => lines [
      place.usage,
      "",
      "  Write the schema and resolver templates for a DuckDB database.",
      "",
      "Options:",
      "  -o, --output DIRECTORY  Directory for schema.graphql and resolver templates",
      "  --strict / --no-strict  Fail on tables without exactly one primary key",
      "  -v, --verbose           Verbose logging and error output",
      "  --help                  Show this message and exit."]
  | some .tables => lines [
      place.usage,
      "",
      "  List tables and their column counts.",
      "",
      "Options:",
      "  --schema-name TEXT  Schema to list tables from",
      "  -v, --verbose       Verbose logging",
      "  --help              Show this message and exit."]

def usageError (place : Place) (message : String) : String :=
  lines [
    place.usage,
    "Try '" ++ place.words ++ " --help' for help.",
    "",
    "Error: " ++ message]

end Place

end TableGraph.Command
