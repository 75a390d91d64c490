/-!
GraphQL names, and the names of everything that is generated for a table.
-/

namespace TableGraph

def isNameStart (c : Char) : Bool :=
  c.isAlpha || c == '_'

def isNameChar (c : Char) : Bool :=
  c.isAlphanum || c == '_'

def isName : List Char → Bool
  | [] => false
  | c :: rest => isNameStart c && rest.all isNameChar

/-- The names that tables and columns may have: GraphQL names, also with one line break at the end. -/
def isAcceptedName (name : String) : Bool :=
  isName name.toList || (name.toList.getLast? == some '\n' && isName name.toList.dropLast)

/-! The types of a table. -/

def connectionName (table : String) : String := table ++ "Connection"

def createInputName (table : String) : String := "Create" ++ table ++ "Input"

def updateInputName (table : String) : String := "Update" ++ table ++ "Input"

/-! The fields of a table in the root types. -/

def getFieldName (table : String) : String := "get" ++ table

def listFieldName (table : String) : String := "list" ++ table ++ "s"

def createFieldName (table : String) : String := "create" ++ table

def updateFieldName (table : String) : String := "update" ++ table

def deleteFieldName (table : String) : String := "delete" ++ table

def onCreateFieldName (table : String) : String := "onCreate" ++ table

/-! The arguments that carry the inputs of a table. -/

def createArgumentName (table : String) : String := "create" ++ table ++ "Input"

def updateArgumentName (table : String) : String := "update" ++ table ++ "Input"

end TableGraph
