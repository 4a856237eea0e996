import Mathlib.Data.List.Sort

/-!
# Git repositories and the commands run in them

A repository is the branch it is on, the branches it knows and the uncommitted
changes of its working tree.  Every command may fail without an effect for a
reason outside this model; the failures git documents for the state it finds
are decided here.  Ignored files are not listed or added until they are no longer
ignored, and they and nested repositories are not discarded.
-/

namespace MultiAgents

inductive ChangeKind where
  | file
  | ignored
  | nestedRepository
  deriving DecidableEq

/-- An uncommitted change.  `entry` is what the status listing prints for it:
the path, a quoted form of it, or an enclosing directory with no tracked file.
`session` is the agent session that made it. -/
structure Change where
  path : String
  entry : String
  tracked : Bool
  staged : Bool
  session : String
  kind : ChangeKind := .file
  deriving DecidableEq

structure Repo where
  head : String
  branches : List String
  remote : List String
  changes : List Change
  deriving DecidableEq

inductive GitCommand where
  | fetch
  | checkout (branch : String)
  | checkoutNew (branch base : String)
  | abbrevRefHead
  | revParseHead
  | status
  | addAll
  | commit (message : String)
  | push (branch : String)
  | resetHard
  | cleanFd
  | diffHead
  | describeBranch (branch description : String)
  deriving DecidableEq

namespace Change

/-- The two status letters and the blank of a porcelain line. -/
def code (change : Change) : List Char :=
  match change.tracked, change.staged with
  | true, true => ['M', ' ', ' ']
  | true, false => [' ', 'M', ' ']
  | false, true => ['A', ' ', ' ']
  | false, false => ['?', '?', ' ']

def line (change : Change) : List Char := change.code ++ change.entry.toList

/-- Known to the index: listed before the untracked entries. -/
def indexed (change : Change) : Bool := change.tracked || change.staged

/-- What a commit takes. -/
def added (change : Change) : Bool := change.staged && change.kind != .ignored

/-- A command that discards changes takes it. -/
def discardable (change : Change) : Bool := change.kind == .file

end Change

namespace Repo

/-- The changes in the order in which the status listing prints them. -/
def listed (repo : Repo) : List Change :=
  let shown := repo.changes.filter fun change => change.kind != .ignored
  let sorted := shown.insertionSort fun a b => a.path ≤ b.path
  sorted.filter Change.indexed ++ sorted.filter fun change => !change.indexed

/-- `git status --porcelain`: one line for each entry. -/
def porcelain (repo : Repo) : List Char :=
  ['\n'].intercalate (repo.listed.map Change.line).dedup

/-- The effect and the standard output of a command, or the error it reports.
`output` is the text of the commands whose output is not determined here. -/
def run (repo : Repo) (output : String) : GitCommand → Except String (String × Repo)
  | .fetch => .ok ("", repo)
  | .checkout branch =>
      if branch ∈ repo.branches ∨ branch ∈ repo.remote then
        .ok ("", { repo with head := branch, branches := branch :: repo.branches })
      else .error s!"pathspec {branch} did not match any file(s) known to git"
  | .checkoutNew branch base =>
      if branch ∈ repo.branches then .error s!"a branch named {branch} already exists"
      else if base ∈ repo.remote then
        .ok ("", { repo with head := branch, branches := branch :: repo.branches })
      else .error s!"origin/{base} is not a commit"
  | .abbrevRefHead => .ok (repo.head, repo)
  | .revParseHead => .ok (output, repo)
  | .status => .ok (String.ofList repo.porcelain, repo)
  | .addAll =>
      .ok ("", { repo with
        changes := repo.changes.map fun c => { c with staged := c.kind != .ignored } })
  | .commit _ =>
      if repo.changes.any Change.added then
        .ok (output, { repo with changes := repo.changes.filter fun c => !c.added })
      else .error "nothing to commit"
  | .push branch =>
      if branch ∈ repo.branches then .ok ("", { repo with remote := branch :: repo.remote })
      else .error s!"src refspec {branch} does not match any"
  | .resetHard =>
      .ok ("", { repo with
        changes := (repo.changes.filter fun c => !(c.discardable && c.indexed)).map fun c =>
          { c with staged := false } })
  | .cleanFd =>
      .ok ("", { repo with
        changes := repo.changes.filter fun c => !c.discardable || c.indexed })
  | .diffHead => .ok (output, repo)
  | .describeBranch _ _ => .ok ("", repo)

end Repo

/-- What stands at each directory. -/
abbrev Repositories := String → Option Repo

inductive EditAction where
  | write (path entry : String) (tracked : Bool) (kind : ChangeKind := .file)
  | revert (path : String)
  | unignore (path : String)
  deriving DecidableEq

/-- A change to a working tree made by an agent in one of its sessions. -/
structure Edit where
  session : String
  directory : String
  action : EditAction
  deriving DecidableEq

namespace Repo

def edit (repo : Repo) (session : String) : EditAction → Repo
  | .write path entry tracked kind =>
      { repo with changes := repo.changes ++ [⟨path, entry, tracked, false, session, kind⟩] }
  | .revert path => { repo with changes := repo.changes.filter fun c => c.path != path }
  | .unignore path =>
      { repo with
        changes := repo.changes.map fun c =>
          if c.path = path ∧ c.kind = .ignored then { c with kind := .file } else c }

end Repo

namespace Repositories

def edit (repositories : Repositories) (edit : Edit) : Repositories :=
  Function.update repositories edit.directory
    ((repositories edit.directory).map fun repo => repo.edit edit.session edit.action)

def changes (repositories : Repositories) (directory : String) : List Change :=
  match repositories directory with
  | some repo => repo.changes
  | none => []

def head? (repositories : Repositories) (directory : String) : Option String :=
  (repositories directory).map Repo.head

end Repositories

end MultiAgents
