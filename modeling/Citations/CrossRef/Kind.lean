import Citations.Text.Basic

/-!
# Labelled elements

Figures, tables, equations, sections and listings can be labelled and referred to. The kind of
an element is written as a short tag before its label, as in `fig:cat`.
-/
namespace Citations

/-- What can be labelled. -/
inductive LabelKind where
  /-- An image. -/
  | figure
  /-- A table. -/
  | table
  /-- A displayed equation. -/
  | equation
  /-- A heading. -/
  | section
  /-- A block of code. -/
  | listing
  deriving DecidableEq, Repr

namespace LabelKind

/-- Every kind. -/
def all : List LabelKind := [figure, table, equation, .section, listing]

/-- The tag of a kind. -/
def tag : LabelKind → Text
  | figure => "fig".toList
  | table => "tbl".toList
  | equation => "eq".toList
  | .section => "sec".toList
  | listing => "lst".toList

/-- The kind of a tag. -/
def ofTag? (tag : Text) : Option LabelKind := all.find? (·.tag = tag)

end LabelKind

/-- A labelled element of a document. -/
structure CrossRef where
  /-- What is labelled. -/
  kind : LabelKind
  /-- The label without its tag. -/
  label : Text
  /-- A caption, a heading, or the label of an equation. -/
  detail : Text
  /-- A preview. -/
  documentation : Text
  deriving DecidableEq, Repr

/-- How an author refers to the element. -/
def CrossRef.reference (element : CrossRef) : Text := element.kind.tag ++ ':' :: element.label

/-- How much of a labelled element is reported. -/
inductive LabelMode where
  /-- Elements whose surroundings confirm their kind, with detail and preview. -/
  | full
  /-- Every label, and nothing else. -/
  | minimal
  /-- Nothing. -/
  | none
  deriving DecidableEq, Repr

end Citations
