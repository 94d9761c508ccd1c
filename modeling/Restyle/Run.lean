import Restyle.Session
import Restyle.Summary

/-!
# Runs

The steps of a run, in order: the change list is fetched and indexed, the file set is resolved, the
selectors in each file are renamed, and the summary is written, or removed when nothing changed. The
first failure ends the run; what was done before it stays done.
-/

namespace Restyle

open Text

namespace Action

/-! ### The change list -/

/-- The entries of the change list at a URL. -/
def fetchEntries (url : String) (followRedirects : Bool) : Action (List (List Glyph)) := do
  log .info ("Fetching changes from: " ++ url)
  let web := (← get).web
  let (requests, result) := web.fetch followRedirects url
  modify fun s => { s with requests := s.requests ++ requests }
  let response ← ofExcept (.ofFetch url) result
  let text ← ofExcept (fun f => .unexplained (.unreadable f)) (response.text web.names)
  let entries := ChangeList.entries text
  log .info ("Found " ++ toString entries.length ++ " change entries")
  return entries

/-- The index of the change list at a URL. -/
def fetchIndex (url : String) (followRedirects : Bool) : Action Index := do
  let pairs := ChangeList.pairs (← fetchEntries url followRedirects)
  log .info ("Combined into " ++ toString pairs.length ++ " change pairs")
  let relevant := ChangeList.relevant pairs
  log .info ("Filtered to " ++ toString relevant.length ++ " relevant changes")
  return Index.ofList relevant

/-! ### The files -/

/-- The files that one pattern stands for. -/
def expandPattern (pattern : String) (endings : List String) : Action (List String) := do
  let found ← observe fun t => FileSet.ofPattern t pattern endings
  let files ← ofExcept (fun fault => .unexplained (.file pattern fault)) found
  log .debug ("Pattern " ++ quoted pattern ++ " matched " ++ toString files.length ++ " file(s)")
  return files

/-- The files that a list of patterns stands for. -/
def resolveFiles (input : String) (endings : List String) : Action (List String) := do
  let found ← (FileSet.patterns input).mapM fun pattern => expandPattern pattern endings
  let files := found.flatten
  log .info ("Found " ++ toString files.length ++ " files to check")
  return files

/-- The text of a file. -/
def readText (path : String) (explain : FileFault → Failure) : Action (List Glyph) := do
  let content ← ofExcept explain (← observe fun t => t.read path)
  return Glyph.ofOctets content

/-- Writes the text of a file. The file is emptied first, and stays so if the text has a lone
surrogate in it. -/
def writeText (path : String) (text : List Glyph) (explain : FileFault → Failure) :
    Action Unit := do
  change explain fun t => t.write path []
  match Glyph.encode? text with
  | some content => change explain fun t => t.write path content
  | none => fault .unencodable

/-- What is reported of a diff. -/
def diffText (d : Diff) : String :=
  d.file ++ ":" ++ toString d.line ++ ": ." ++ Glyph.shown d.old ++ " -> ." ++ Glyph.shown d.new

/-- Renames the selectors in a file. It is written only if something in it was renamed. -/
def renameInFile (index : Index) (path : String) : Action (List Diff) := do
  let text ← readText path (.ofRename path)
  let done := renameInContent path index text
  done.diffs.forM fun d => log .debug (diffText d)
  if done.diffs ≠ [] then
    writeText path done.text (.ofRename path)
    log .info ("Modified: " ++ path)
  return done.diffs

/-- Renames the selectors in files, one after the other. -/
def renameInFiles (index : Index) : List String → Action (List Diff)
  | [] => return []
  | path :: rest => do
    let diffs ← renameInFile index path
    let others ← renameInFiles index rest
    return diffs ++ others

/-! ### The summary -/

/-- Writes a summary and gives the normal form of its path. -/
def writeSummary (s : Summary) (path : String) : Action String := do
  let path := Path.normal path
  change (.ofSummary path) fun t => t.write path (octetsOf s.render)
  log .info ("Wrote summary to " ++ path)
  return path

/-- Removes the summary of an earlier run, and tells whether there was one. -/
def removeSummary (path : String) : Action Bool := do
  let path := Path.normal path
  match ← observe fun t => t.remove path with
  | .error .notFound => return false
  | .error fault => throw (.ofSummary path fault)
  | .ok tree =>
    modify fun s => { s with tree := tree }
    log .info ("Removed stale summary " ++ path)
    return true

/-- Writes the summary of a run, or removes an earlier one when nothing changed. Tells whether
anything changed. -/
def reportSummary (s : Summary) (path : String) : Action Bool := do
  log .info ("Total changes: " ++ toString s.total)
  log .info ("Modified files: " ++ toString s.modified.length)
  if s.hasChanges then
    let _ ← writeSummary s path
    return true
  else
    let _ ← removeSummary path
    return false

end Action

/-- What a run is to do: the change list, the files, and where the summary goes. -/
structure Run where
  url : String
  input : String
  summaryPath : String := Settings.defaultSummaryPath
  endings : List String := FileSet.defaultEndings
  followRedirects : Bool := true

/-- Does all steps of a run. -/
def Run.perform (r : Run) : Action Summary := do
  let index ← Action.fetchIndex r.url r.followRedirects
  let files ← Action.resolveFiles r.input r.endings
  let diffs ← Action.renameInFiles index files
  let summary := Summary.ofDiffs diffs
  let _ ← Action.reportSummary summary r.summaryPath
  return summary

end Restyle
