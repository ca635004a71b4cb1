import PaperFilter.Proofs.Cli.Check
import PaperFilter.Proofs.Document.Faults
import PaperFilter.Proofs.Filter.Batches

/-!
# Filtering a stream

The command that filters a stream shows nothing before it has read all of it.  A line that is
neither blank nor a document refuses the whole stream, under the number of the first such line;
otherwise the kept documents are shown in the order of the stream, up to a limit that the counts
know nothing of.
-/

namespace PaperFilter
namespace Cli

section

variable [PatternCompiler] {environment : Environment} {config : Config} {input query : Option Text}
  {fromAbstract : Bool} {limit : Option Nat} {format : OutputFormat} {filter : DocumentFilter}
  {bytes : ByteArray}

end

end Cli
end PaperFilter
