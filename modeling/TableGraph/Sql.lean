import TableGraph.Text.Blank

/-!
The SQL statements of a table's resolvers. Names stand in backticks, values behind named placeholders.
-/

namespace TableGraph.Sql

def identifierChar (c : Char) : List Char :=
  if c == '\x60' then [c, c] else [c]

def identifier (name : String) : String :=
  String.ofList ('\x60' :: name.toList.flatMap identifierChar ++ ['\x60'])

def placeholder (name : String) : String :=
  ":" ++ name

/-- The marker as part of a statement, where a value without a name is bound by position. -/
def marker (name : String) : String :=
  if name.isEmpty then "?" else placeholder name

def statement (s : String) : String :=
  String.ofList (Text.trim s.toList)

def equation (column : String) : String :=
  identifier column ++ " = " ++ marker column

def selectAll (table : String) : String :=
  statement ("SELECT * FROM " ++ identifier table)

def selectByKey (table key : String) : String :=
  statement ("SELECT * FROM " ++ identifier table ++ " WHERE " ++ equation key)

def deleteByKey (table key : String) : String :=
  statement ("DELETE FROM " ++ identifier table ++ " WHERE " ++ equation key)

/-- The condition on the key, for statements that are finished when they are requested. -/
def keyClause (key : String) : String :=
  "WHERE " ++ statement (equation key)

def insertInto (table : String) : String :=
  "INSERT INTO " ++ identifier table

def updateSet (table : String) : String :=
  "UPDATE " ++ identifier table ++ " SET"

def assignment (column : String) : String :=
  identifier column ++ " = " ++ placeholder column

structure MissingKey where
  table : String
  deriving DecidableEq, Repr

def MissingKey.message (missing : MissingKey) : String :=
  "Table '" ++ missing.table ++ "' has no primary key"

def requireKey (table : String) : Option String → Except MissingKey String
  | some key => .ok key
  | none => .error ⟨table⟩

end TableGraph.Sql
