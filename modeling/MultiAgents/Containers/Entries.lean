import Mathlib.Data.List.Basic

/-!
# Directory trees

The entries of a directory come in the order in which they are listed, under
different names.  A directory that cannot be read is listed in the one above it,
without what is below it.  Files are found depth first, each with the directories
that lead to it, or by the names on the way to them.
-/

namespace Containers

inductive Entries (α : Type) where
  | nil
  | file (name : String) (data : α) (rest : Entries α)
  | directory (name : String) (readable : Bool) (contents rest : Entries α)
  | other (name : String) (rest : Entries α)

structure Found (α : Type) where
  directories : List String
  name : String
  data : α

namespace Entries

variable {α : Type}

def listing (above : List String) : Entries α → List (Found α)
  | .nil => []
  | .file name data rest => ⟨above, name, data⟩ :: listing above rest
  | .directory name readable contents rest =>
      (if readable then listing (above ++ [name]) contents else []) ++ listing above rest
  | .other _ rest => listing above rest

theorem above_prefix {entries : Entries α} {above : List String} {found : Found α}
    (membership : found ∈ entries.listing above) : above <+: found.directories := by
  induction entries generalizing above with
  | nil => cases membership
  | file name data rest ih =>
      rcases List.mem_cons.mp membership with rfl | later
      · exact List.prefix_rfl
      · exact ih later
  | directory name readable contents rest ihContents ih =>
      rcases List.mem_append.mp membership with inside | later
      · split at inside
        · exact (List.prefix_append above [name]).trans (ihContents inside)
        · cases inside
      · exact ih later
  | other name rest ih => exact ih membership

def names : Entries α → List String
  | .nil => []
  | .file name _ rest | .directory name _ _ rest | .other name rest => name :: rest.names

def Distinct : Entries α → Prop
  | .nil => True
  | .file name _ rest | .other name rest => name ∉ rest.names ∧ rest.Distinct
  | .directory name _ contents rest => name ∉ rest.names ∧ contents.Distinct ∧ rest.Distinct

/-- The file at a path. -/
def file? : Entries α → List String → Option α
  | .nil, _ => none
  | .file name data rest, path => if path = [name] then some data else rest.file? path
  | .directory name _ contents rest, path =>
      if path.head? = some name then contents.file? path.tail else rest.file? path
  | .other _ rest, path => rest.file? path

end Entries

end Containers
