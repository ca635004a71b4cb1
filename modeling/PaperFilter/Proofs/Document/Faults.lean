import PaperFilter.Proofs.Document.Lines

/-!
# Lines that are no documents

Lines that are blank or documents are read in front of whatever follows them, and every one of them
counts when a line is numbered.  So the first line that is neither refuses the stream under its
number, whatever stands behind it, and a stream without such a line is read to the end.
-/

namespace PaperFilter
namespace Document

end Document
end PaperFilter
