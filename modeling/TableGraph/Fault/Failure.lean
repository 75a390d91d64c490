import TableGraph.Fault.Basic
import TableGraph.Text.Digit

/-!
Failures: everything that a call into a database can raise, faults and others, and how a build turns a
failed call into a fault of its own.
-/

namespace TableGraph

inductive Failure where
  | fault (f : Fault)
  | other (className : String) (text : String)
  deriving Repr

namespace Failure

def className : Failure → String
  | .fault f => f.kind.className
  | .other className _ => className

def text : Failure → String
  | .fault f => f.text
  | .other _ text => text

def missingEntry (name : String) : Failure :=
  .other "KeyError" (Text.quoted name)

/-- A number with too many digits. How many they are is told where the number is read. -/
def overlong (digits? : Option Nat) : Failure :=
  let found := digits?.elim "" fun digits => ": value has " ++ toString digits ++ " digits"
  .other "ValueError"
    ("Exceeds the limit (" ++ toString Text.maxDigits ++ " digits) for integer string conversion" ++ found ++
      "; use sys.set_int_max_str_digits() to increase the limit")

end Failure

def Fault.ofCall (failure : Failure) (operation message : String) (table? database? : Option String)
    (correlation? : Option String) : Fault :=
  Report.fault {
    kind := .introspection
    message := message
    details :=
      [("original_error", .text failure.text), ("error_type", .text failure.className)]
    operation? := some operation
    table? := table?
    database? := database?
    correlation? := correlation? }

end TableGraph
