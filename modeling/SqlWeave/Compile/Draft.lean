import SqlWeave.Compile.Database

/-!
# Drafts

A draft is a statement while it is being written: the context that its next
part stands in, and what has been written so far.  Whatever is appended to it
leaves the context and the earlier parts alone.
-/

namespace SqlWeave

/-- A statement that is being written. -/
structure Draft where
  context : Context
  fragments : List Fragment

namespace Draft

/-- The draft of which nothing has been written. -/
def start (database : Database) : Draft := ⟨database.context, []⟩

/-- The draft with a script at its end.  Of a script that fails, what stands
before the failure is appended. -/
def append (draft : Draft) (script : Script) : Draft :=
  { draft with fragments := draft.fragments ++ script.fragments }

/-- The draft with a node at its end. -/
def write (draft : Draft) (node : Node) : Draft :=
  draft.append (node.script draft.context)

/-- What has been written, as a statement. -/
def statement (draft : Draft) : Statement :=
  ⟨draft.context.dialect, draft.fragments⟩

end Draft

end SqlWeave
