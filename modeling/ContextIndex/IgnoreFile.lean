import ContextIndex.Text.Line

/-!
# The ignore file of a project

The index lies in a directory inside the project that version control has to ignore.  The entry is
added once: a file that has it on a line of its own stays as it is.
-/

namespace ContextIndex.IgnoreFile

/-- The entry for the directory of the index. -/
def entry : String := ".repoctx/"

/-- Whether a file has the entry on a line, white space aside. -/
def hasEntry (content : List Char) : Bool :=
  (Text.lines content).any fun l => Text.trim l == entry.toList

/-- The file with the entry, on a new line at its end unless it is there. -/
def ensure (content : String) : String :=
  let cs := content.toList
  if hasEntry cs then content
  else if cs.isEmpty || cs.getLast? == some '\n' then content ++ entry ++ "\n"
  else content ++ "\n" ++ entry ++ "\n"

end ContextIndex.IgnoreFile
