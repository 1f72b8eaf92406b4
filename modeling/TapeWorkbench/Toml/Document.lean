import TapeWorkbench.Toml.Expression

/-!
# TOML documents

The expressions of a document are carried out one after the other on the table
that the document stands for.  Keys belong to the table of the header above
them.
-/

namespace TapeWorkbench
namespace Toml

/-- A document under construction: what it holds so far, and the path of the table to
which keys belong now. -/
structure Draft where
  members : Members
  path : List String

namespace Draft

/-- Carry out one more expression. -/
def add (draft : Draft) : Expression → Option Draft
  | .assignment path value =>
    (Members.within (Members.assign value path true) draft.path draft.members).map
      fun members => { draft with members }
  | .tableHeader path => (draft.members.define path).map fun members => { members, path }
  | .elementHeader path => (draft.members.extend path).map fun members => { members, path }

end Draft

/-- The contents of a document, if it is one.  A byte order mark in front does not
count. -/
def read? (text : String) : Option Members :=
  let characters :=
    match text.toList with
    | '\ufeff' :: rest => rest
    | characters => characters
  match readExpressions (2 * characters.length + 2) [] characters with
  | none => none
  | some expressions =>
    (expressions.foldlM Draft.add ⟨[], []⟩).map Draft.members

end Toml
end TapeWorkbench
