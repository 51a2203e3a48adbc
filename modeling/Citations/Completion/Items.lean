import Citations.Bibliography.Entry
import Citations.CrossRef.Kind

/-!
# Completion items

What an editor offers while a citation or a reference is typed. A citation is found by any of
its field values, and inserts its key; a reference inserts the tag and label of an element.
-/
namespace Citations

/-- An item of a completion list. -/
structure CompletionItem where
  /-- What the list shows. -/
  label : Text
  /-- A short addition. -/
  detail? : Option Text
  /-- A longer text in Markdown. -/
  documentation? : Option Text
  /-- What typed text is compared with, if it is not the label. -/
  filterText? : Option Text
  /-- What is inserted. -/
  insertText : Text
  deriving DecidableEq, Repr

namespace CompletionItem

/-- A text, unless it is empty. -/
def nonempty? (text : Text) : Option Text := if text = [] then none else some text

/-- The item of an entry. -/
def ofEntry (entry : Entry) : CompletionItem where
  label := entry.key
  detail? := none
  documentation? := nonempty? entry.documentation
  filterText? := some (Text.join [' '] (entry.fields.map (·.2) ++ [entry.key]))
  insertText := entry.key

/-- The item of a labelled element. -/
def ofCrossRef (element : CrossRef) : CompletionItem where
  label := element.reference
  detail? := nonempty? element.detail
  documentation? := nonempty? element.documentation
  filterText? := none
  insertText := element.reference

end CompletionItem

/-- An entry as a list for browsing shows it. -/
structure BrowserItem where
  /-- The title. -/
  label : Text
  /-- The key. -/
  description : Text
  /-- The authors and where the entry was published. -/
  detail : Text
  deriving DecidableEq, Repr

namespace BrowserItem

/-- What is shown for a value that is not known. -/
def unknown : Text := "Unknown".toList

/-- The item of an entry. -/
def ofEntry (entry : Entry) : BrowserItem where
  label := (entry.field? "title".toList).getD []
  description := entry.key
  detail :=
    "Authors: ".toList ++ (entry.field? "author".toList).getD unknown ++
      ", publication: ".toList ++
      (["journal".toList, "journaltitle".toList, "publisher".toList].findSome?
        entry.field?).getD unknown

/-- What a search looks into. -/
def searched (item : BrowserItem) : Text :=
  item.label ++ ' ' :: item.description ++ ' ' :: item.detail

end BrowserItem

end Citations
