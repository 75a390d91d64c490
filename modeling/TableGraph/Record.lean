/-!
Entries by name: each name once, in the place where it came first and with the value that came last.
-/

namespace TableGraph

def recordEntries (entries : List (String × α)) : List (String × α) :=
  (entries.map (·.1)).eraseDups.filterMap fun name => entries.reverse.find? (·.1 == name)

end TableGraph
