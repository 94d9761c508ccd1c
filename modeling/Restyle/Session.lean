import Restyle.Failure
import Restyle.Text.Terminal

/-!
# Sessions

What an action works on: the file tree, the environment and the web, and what it has sent, reported
and printed so far. A message is reported if its level is shown. An action may fail, and what it did
before the failure stays done.
-/

namespace Restyle

/-- What actions work on. The account of the user names a home directory, if there is an account. -/
structure Session where
  tree : Tree
  environment : List (String × String)
  account? : Option String
  web : Web
  requests : List String
  shown : Level
  messages : List String
  printed : String

/-- An action: it changes the session and gives a result or fails. -/
abbrev Action := ExceptT Failure (StateM Session)

namespace Session

/-- A session before anything was done, where warnings are shown, of a user whose account names the root
as home. -/
def start (tree : Tree) (environment : List (String × String)) (web : Web) : Session :=
  ⟨tree, environment, some "/", web, [], .warning, [], ""⟩

/-- The session with nothing sent, reported or printed yet. -/
def afresh (s : Session) : Session :=
  { start s.tree s.environment s.web with account? := s.account? }

/-- The value of an environment variable. -/
def env? (s : Session) (name : String) : Option String :=
  (s.environment.find? fun e => e.1 = name).map Prod.snd

/-- The session with an environment variable set. -/
def setEnv (s : Session) (name value : String) : Session :=
  { s with environment := (name, value) :: s.environment.filter fun e => e.1 ≠ name }

end Session

namespace Action

/-- A failure that no step explains. -/
def fault {β : Type} (f : Fault) : Action β :=
  throw (.unexplained f)

/-- A result, or the failure that an error stands for. -/
def ofExcept {ε β : Type} (explain : ε → Failure) : Except ε β → Action β
  | .ok b => pure b
  | .error e => throw (explain e)

/-- Reports a message, if its level is shown. -/
def log (level : Level) (text : String) : Action Unit :=
  modify fun s =>
    if s.shown.rank ≤ level.rank then { s with messages := s.messages ++ [text] } else s

/-- Prints a line, which has to be made of characters. -/
def print (line : List Text.Glyph) : Action Unit :=
  match Text.Glyph.string? line with
  | some text =>
    modify fun s => { s with printed := s.printed ++ Text.withoutSequences text ++ "\n" }
  | none => fault .unencodable

/-- What is the case in the tree. -/
def observe {β : Type} (f : Tree → β) : Action β := do
  return f (← get).tree

/-- Changes the tree by an operation on a path. -/
def change (explain : FileFault → Failure) (f : Tree → Except FileFault Tree) : Action Unit := do
  let tree ← ofExcept explain (f (← get).tree)
  modify fun s => { s with tree := tree }

end Action

end Restyle
