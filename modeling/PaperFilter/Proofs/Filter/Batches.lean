import Mathlib.Data.List.Basic
import PaperFilter.Filter

/-!
# Batches

However a batch is shared among workers, every verdict ends up at the place of its document.  So the
report has the documents that the filter matches, in the order of the batch and with what is derived
from each, and counts the others.  It does not depend on whether the batch is shared at all, and two
batches that follow one another are reported one after the other.
-/

namespace PaperFilter

theorem Sharing.map_eq_map {α β : Type} (f : α → β) (sharing : Sharing) (batch : List α) :
    sharing.map f batch = batch.map f := by
  induction sharing generalizing batch with
  | whole => rfl
  | cut place front behind ihFront ihBehind =>
      rw [map, ihFront, ihBehind, ← List.map_append, List.take_append_drop]

namespace Report

/-- The report on a batch that is followed by another one. -/
def append (first second : Report) : Report :=
  ⟨first.kept ++ second.kept, first.dropped + second.dropped⟩

theorem ofVerdicts_append (first second : List Verdict) :
    ofVerdicts (first ++ second) = (ofVerdicts first).append (ofVerdicts second) := by
  induction first with
  | nil => rw [List.nil_append, ofVerdicts, append, List.nil_append, Nat.zero_add]
  | cons verdict first ih =>
      cases verdict with
      | keep document =>
          rw [List.cons_append, ofVerdicts, ofVerdicts, ih]
          rfl
      | drop reason =>
          rw [List.cons_append, ofVerdicts, ofVerdicts, ih, append, append, Nat.add_right_comm]

/-- The report loses, repeats, changes and moves no document of the batch. -/
structure IsOf (report : Report) (filter : DocumentFilter) (documents : List Document) : Prop where
  kept : report.kept.map KeptDocument.document = documents.filter filter.isMatch
  codeUrls : ∀ kept ∈ report.kept, kept.codeUrls =
    if filter.extractCodeUrls then links kept.document.abstractText else []
  matchedQuery : ∀ kept ∈ report.kept, kept.matchedQuery = filter.matchedQuery
  dropped : report.dropped = (documents.filter fun document => !filter.isMatch document).length
  total : report.total = documents.length

end Report

namespace DocumentFilter

variable (filter : DocumentFilter) (sharing : Sharing) (documents : List Document)

theorem runShared_eq_ofVerdicts :
    filter.runShared sharing documents = Report.ofVerdicts (documents.map filter.check) := by
  rw [runShared, verdicts, Sharing.map_eq_map, ite_self]

theorem runShared_eq :
    filter.runShared sharing documents =
      ⟨(documents.filter filter.isMatch).map filter.keep,
        (documents.filter fun document => !filter.isMatch document).length⟩ := by
  rw [runShared_eq_ofVerdicts]
  induction documents with
  | nil => rfl
  | cons document rest ih =>
      rw [List.map_cons, check]
      cases hmatch : filter.isMatch document with
      | true => simp [Report.ofVerdicts, ih, hmatch]
      | false => simp [Report.ofVerdicts, ih, hmatch]

theorem runShared_isOf : (filter.runShared sharing documents).IsOf filter documents := by
  rw [runShared_eq]
  constructor
  · rw [List.map_map]
    exact List.map_id _
  · intro kept hkept
    rcases List.mem_map.mp hkept with ⟨document, _, rfl⟩
    rfl
  · intro kept hkept
    rcases List.mem_map.mp hkept with ⟨document, _, rfl⟩
    rfl
  · rfl
  · rw [Report.total, List.length_map]
    exact (List.length_eq_length_filter_add filter.isMatch).symm

/--
A report keeps exactly the documents that the filter matches, in the order of the batch and with
what is derived from each, and counts the others, however the batch is shared and whatever the
settings say about that.  A batch that is followed by another one is reported first, whether or not
each of the two and both together are large enough to be shared.
-/
theorem runShared_reports :
    (filter.runShared sharing documents).IsOf filter documents ∧
      (∀ performance other,
        runShared { filter with performance := performance } other documents =
          filter.runShared sharing documents) ∧
      ∀ behind other another,
        filter.runShared other (documents ++ behind) =
          (filter.runShared sharing documents).append (filter.runShared another behind) := by
  refine ⟨filter.runShared_isOf sharing documents, fun performance other => ?_,
    fun behind other another => ?_⟩
  · rw [runShared_eq_ofVerdicts, runShared_eq_ofVerdicts]
    rfl
  · rw [runShared_eq_ofVerdicts, runShared_eq_ofVerdicts, runShared_eq_ofVerdicts, List.map_append,
      Report.ofVerdicts_append]

end DocumentFilter
end PaperFilter
