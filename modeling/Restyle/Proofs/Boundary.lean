import Restyle.Proofs.ExitCode
import Restyle.Proofs.Resolved
import Restyle.Proofs.Unusable

/-!
# The boundary of the program

A failure of a command reaches the user as an error line, or it gets out unexplained. With settings in
force the second happens in few cases only: a URL that is none, a change list in a charset that cannot be
read, NUL characters in patterns and in the path of the summary (`Run.Escapes`), and names with
surrogates, which come with the change list alone: such a name cannot always be written into a file, and
never printed in a listing. The first of them that a run comes to gets out
(`Run.Course.unexplained_iff`).

The names of files, the arguments and the environment are strings here, which can always be printed.
-/

namespace Restyle

open Text

/-! ## Kinds of failures -/

namespace Failure

end Failure

/-! ## Change lists -/

namespace Web

variable {web : Web} {followRedirects : Bool} {url : String}

/-- Why there is no change list without an explanation: the URL or the one that it is redirected to is
none or lacks a scheme, or the answer cannot be read in its charset. -/
inductive Unlisted (web : Web) (followRedirects : Bool) (url : String) : Fault → Prop
  | malformedUrl : (web.fetch followRedirects url).2 = .error .malformedUrl →
      Unlisted web followRedirects url .malformedUrl
  | schemeless : (web.fetch followRedirects url).2 = .error .schemeless →
      Unlisted web followRedirects url .schemeless
  | unreadable {response : Response} {fault : TextFault} :
      (web.fetch followRedirects url).2 = .ok response → response.text web.names = .error fault →
      Unlisted web followRedirects url (.unreadable fault)

end Web

/-! ## Runs -/

/-- Renaming in files comes to one that asks for a new name that cannot be written. -/
inductive Unwritable (index : Index) (files : List String) (t : Tree) : Prop
  | intro {done rest : List String} {path : String} {diffs : List Diff} {before : Tree}
      {l : Location} {content : Octets} {d : Diff} : files = done ++ path :: rest →
      Renamings index done t diffs before → before.walk path = .ok (.file l content) →
      d ∈ (renameInContent path index content).diffs → Glyph.encodes d.new = false →
      Unwritable index files t

/-- The faults of a run that get out: its change list cannot be had, or with one a pattern cannot be
searched for, or without such patterns a file asks for a new name that cannot be written, or after all
files the path of the summary has the NUL character. -/
inductive Run.Escapes (r : Run) (web : Web) (t : Tree) : Fault → Prop
  | list {f : Fault} : web.Unlisted r.followRedirects r.url f → Escapes r web t f
  | pattern {index : Index} {pattern : String} : web.index r.followRedirects r.url = .ok index →
      FileSet.unsearchable? r.input = some pattern → Escapes r web t (.file pattern .unusable)
  | name {index : Index} {files : List String} : web.index r.followRedirects r.url = .ok index →
      FileSet.resolve t r.input r.endings = .ok files → Unwritable index files t →
      Escapes r web t .unencodable
  | summary {index : Index} {files : List String} {diffs : List Diff} {renamed : Tree} :
      web.index r.followRedirects r.url = .ok index →
      FileSet.resolve t r.input r.endings = .ok files → Renamings index files t diffs renamed →
      Path.hasNul r.summaryPath = true →
      Escapes r web t (.file (Path.normal r.summaryPath) .unusable)

namespace Run

section Escapes

variable {r : Run} {web : Web} {t : Tree} {f : Fault}

variable {index : Index} {files : List String}

end Escapes

end Run

namespace CommandLine

/-! ## Refused command lines -/

/-- The faults that get out of a command that renames or shows files: those of its run, a plain report
of the run with names that are not made of characters, and a pattern that cannot be searched for. -/
inductive Escapes (r : Request) (settings : Settings) (s : Session) : Fault → Prop
  | run {url input : String} {f : Fault} : r.command = .run →
      ((changesUrl r.arguments).outcome s).1 = .ok url →
      ((filesInput r.arguments).outcome s).1 = .ok input →
      (runOf r settings url input).Escapes s.web s.tree f → Escapes r settings s f
  | report {summary : Summary} : r.command = .run → r.layout = .plain →
      Returns r settings s summary →
      (∃ d ∈ summary.changes, ¬ (Glyph.AreChars d.old ∧ Glyph.AreChars d.new)) →
      Escapes r settings s .unencodable
  | files {input pattern : String} : r.command = .files →
      ((filesInput r.arguments).outcome s).1 = .ok input →
      FileSet.unsearchable? input = some pattern →
      Escapes r settings s (.file pattern .unusable)

end CommandLine

end Restyle
