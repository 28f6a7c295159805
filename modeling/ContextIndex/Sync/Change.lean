import ContextIndex.Language

/-!
# What has changed

A full sync runs unless the stored revision is the head of the branch; without any stored file it
runs in any case, since then the last run cannot have finished.  Of a tree only regular files with
an indexable extension matter.
-/

namespace ContextIndex.Sync

/-- Whether a full sync has to run. -/
def needsSync (lastRevision : Option String) (fileCount : Nat) (head : String) (force : Bool) :
    Bool :=
  force || fileCount == 0 || lastRevision != some head

end ContextIndex.Sync
