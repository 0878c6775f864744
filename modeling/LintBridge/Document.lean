-- SUMMARY: Open documents and the table that an editor keeps of them.

/-!
# Documents

A document is a text at a version, under the URI that names it. A table of documents has at most one
for each URI.
-/

namespace LintBridge

/-- The text and version of a document when it was read. -/
structure Document where
  uri : String
  text : String
  version : Int
  deriving DecidableEq, Repr

/-- Open documents. -/
abbrev DocumentTable := List Document

/-- The open document of a URI. -/
def openDocument? (docs : DocumentTable) (uri : String) : Option Document := docs.find? (·.uri == uri)

/-- The table without the document of a URI. -/
def closeDocument (docs : DocumentTable) (uri : String) : DocumentTable := docs.filter (·.uri != uri)

/-- The table with a document in the place of an earlier one of its URI. -/
def putDocument (docs : DocumentTable) (doc : Document) : DocumentTable :=
  doc :: closeDocument docs doc.uri

theorem openDocument?_closeDocument (docs : DocumentTable) (uri : String) :
    openDocument? (closeDocument docs uri) uri = none := by
  simp [openDocument?, closeDocument]

theorem openDocument?_putDocument (docs : DocumentTable) (doc : Document) :
    openDocument? (putDocument docs doc) doc.uri = some doc := by
  simp [openDocument?, putDocument]

theorem openDocument?_closeDocument_of_ne (docs : DocumentTable) {uri other : String} (h : other ≠ uri) :
    openDocument? (closeDocument docs other) uri = openDocument? docs uri := by
  induction docs with
  | nil => rfl
  | cons doc rest ih =>
    simp only [openDocument?, closeDocument] at ih ⊢
    by_cases hother : doc.uri = other
    · have huri : doc.uri ≠ uri := by
        rintro rfl
        exact h hother.symm
      simpa [hother, h] using ih
    · by_cases huri : doc.uri = uri
      · simp [huri, h.symm]
      · simpa [hother, huri] using ih

theorem openDocument?_putDocument_of_ne (docs : DocumentTable) {doc : Document} {uri : String}
    (h : doc.uri ≠ uri) : openDocument? (putDocument docs doc) uri = openDocument? docs uri := by
  rw [← openDocument?_closeDocument_of_ne docs h]
  simp [putDocument, openDocument?, h]

end LintBridge
