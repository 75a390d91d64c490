import TableGraph.Fault.Basic

/-!
Records of details that several reports share. A report that is given such a record writes the details
of its own fault into it, so that they stand in every fault that refers to the record; only a record
that is still empty then is left to its owner, and the fault takes one of its own.
-/

namespace TableGraph

abbrev SharedDetails := List (String × Details)

namespace SharedDetails

def get (records : SharedDetails) (name : String) : Details :=
  (records.lookup name).getD []

def set (records : SharedDetails) (name : String) (details : Details) : SharedDetails :=
  records.map fun (other, old) => (other, if other == name then details else old)

end SharedDetails

/-- A fault whose details may be a shared record. -/
structure SharingFault where
  fault : Fault
  record? : Option String

def SharingFault.detailsIn (shared : SharingFault) (records : SharedDetails) : Details :=
  match shared.record? with
  | some name => records.get name
  | none => shared.fault.details

def Report.faultSharing (report : Report) (name : String) (records : SharedDetails) :
    SharingFault × SharedDetails :=
  let details := (records.get name).putAll report.entries
  let record? := if details.isEmpty then none else some name
  (⟨report.faultWith details, record?⟩, records.set name details)

end TableGraph
