import ContextIndex.Command.App
import ContextIndex.Sync.Push
import ContextIndex.Sync.Run

/-!
# Commands that sync

A sync of one repository or of all, and a push that a text describes.
-/

namespace ContextIndex.Command.App

variable (a : App)

/-- What a sync works with, unless the key of the language model is missing. -/
def setup? : Option (Sync.Setup Unit) :=
  (a.config.source? a.surroundings.transport).map fun source =>
    { service := a.service, source, options := a.config.syncOptions }

/-- The world of a sync. -/
def world : Sync.World Unit :=
  { store := a.store, host := (), now := a.surroundings.now }

/-- The answer after a sync: a run in which every file failed is a failure. -/
def finishSync (repo : RepoId) (before : List Line) (outcome : Sync.Outcome) : Answer where
  lines := if a.json then [successLine "sync" outcome.toJson]
    else before ++ Screen.outcome a.colored repo.fullName outcome ++ [.elapsed]
  failure := match outcome with
    | .completed r =>
      if r.status = .allFailed then some ("every file of " ++ repo.fullName ++ " failed to index")
      else none
    | _ => none

/-- The answer to the result of a sync, after the lines that announce it. -/
def syncAnswer (repo : RepoId) (title : Line) : Except Error Sync.Outcome → Answer
  | .error e => ⟨if a.json then [] else [title], some e.chain⟩
  | .ok outcome => a.finishSync repo [title] outcome

/-- Syncs a repository. -/
def syncOne (setup : Sync.Setup Unit) (repo : String) (force : Bool) : Answer × Store :=
  match repoOf repo with
  | .error e => (.ofError e, a.store)
  | .ok repo =>
    let (result, w) := Sync.fullSync setup repo force a.world
    (a.syncAnswer repo (Screen.header a.colored ("Syncing " ++ repo.fullName)) result, w.store)

/-- The result of the sync of one of several repositories, as JSON. -/
def sweepJson : String × Except Error Sync.Outcome → Json
  | (name, .ok outcome) => .object [("repo", .string name), ("result", outcome.toJson)]
  | (name, .error e) => .object [("repo", .string name), ("error", .string e.message)]

/-- The lines of the sync of one of several repositories. -/
def sweepLines : String × Except Error Sync.Outcome → List Line
  | (name, result) => Screen.heading a.colored (" " ++ name ++ " ") ++ match result with
    | .ok outcome => Screen.outcome a.colored name outcome
    | .error e => [Screen.failure a.colored e.message]

/-- Syncs every tracked repository. -/
def syncEvery (setup : Sync.Setup Unit) : Answer × Store :=
  match Sync.syncAll setup a.world with
  | (.error e, w) => (.ofError e, w.store)
  | (.ok results, w) =>
    (a.answer "sync" (.array (results.map sweepJson))
      (results.flatMap a.sweepLines ++ [.elapsed]), w.store)

/-- Does something with what a sync works with. -/
def withSetup (f : Sync.Setup Unit → Answer × Store) (before : List Line) : Answer × Store :=
  match a.setup? with
  | none => (⟨if a.json then [] else before, some Config.missingKeyText⟩, a.store)
  | some setup => f setup

/-- Syncs a repository, or every one that is tracked. -/
def sync (repo : Option String) (force : Bool) : Answer × Store :=
  a.withSetup (fun setup => match repo with
    | some repo => a.syncOne setup repo force
    | none => a.syncEvery setup) []

/-- Why a push is not applied, if it is not. -/
def ignoredReason? (repo : RepoId) (event : Sync.PushEvent) : Option String :=
  let branch := a.config.host.branch
  if event.changeSet.isEmpty then some ("push to " ++ repo.fullName ++ " changed no files")
  else if event.targetsBranch branch then none
  else some ("push to " ++ repo.fullName ++ " is not on " ++ branch)

/-- Applies a push. -/
def applyPush (repo : RepoId) (changes : Sync.ChangeSet) : Answer × Store :=
  let title := Screen.header a.colored ("Applying push to " ++ repo.fullName ++ " (" ++
    toString changes.changed.length ++ " changed, " ++ toString changes.deleted.length ++
    " removed)")
  a.withSetup (fun setup =>
    let (result, w) := Sync.partialSync setup repo changes a.world
    (a.syncAnswer repo title result, w.store)) [title]

/-- Applies the push that a text describes. -/
def webhook (payload : String) : Answer × Store :=
  match (do
    let event ← Sync.PushEvent.parse payload
    return (event, ← event.repoId)) with
  | .error e => (.ofError e, a.store)
  | .ok (event, repo) =>
    match a.ignoredReason? repo event with
    | some reason =>
      (a.answer "webhook" (.object [("ignored", .string reason)])
        [Screen.note a.colored "Ignored" reason], a.store)
    | none => a.applyPush repo event.changeSet

end ContextIndex.Command.App
