import MultiAgents.Containers.Entries
import MultiAgents.Containers.Sums
import MultiAgents.Text.Path
import MultiAgents.Text.Regex

/-!
# The cache of project contexts

A context holds the files of a project that are of interest, with a tree of
them.  It is built by a scan; when it is asked for again it is compared with the
disk in the background and updated where it differs.  Contexts are objects that
their users keep, so the cache refers to them by number.  Other calls may come
between a call that misses and the end of its scan; a refresh is one step.
Relative paths are the lists of their names, none of which has a slash.  Times of
files and of cache entries, which nothing reads, are left out.
-/

namespace MultiAgents

open Containers Text

namespace ContextCacheService

def maxFileSize : Nat := 500 * 1024

def maxSizeBytes : Nat := 100 * 1024 * 1024

def defaultTtlMs : Nat := 30 * 60 * 1000

def ignorePatterns : List String :=
  ["node_modules", ".git", "dist", "build", ".next", "__pycache__", ".cache", "coverage", ".env",
    ".env.local", "*.log", "*.lock", "package-lock.json", "yarn.lock", "pnpm-lock.yaml"]

def includeExtensions : List String :=
  [".ts", ".tsx", ".js", ".jsx", ".mjs", ".cjs", ".py", ".pyw", ".go", ".rs", ".java", ".kt",
    ".cs", ".rb", ".php", ".swift", ".c", ".cpp", ".h", ".hpp", ".json", ".yaml", ".yml", ".toml",
    ".md", ".mdx", ".sql", ".graphql", ".gql", ".prisma", ".css", ".scss", ".sass", ".less",
    ".html", ".htm", ".vue", ".svelte"]

abbrev RelativePath := List String

/-- What the file system says about a file. -/
structure FileData where
  size : Nat
  content : String

/-- A file without data cannot be read. -/
abbrev Tree := Entries (Option FileData)

abbrev Directory := { tree : Tree // tree.Distinct }

structure CachedFile where
  hash : String
  content : String
  size : Nat
  deriving DecidableEq

abbrev Files := OrderedMap RelativePath CachedFile

inductive FileTree where
  | nil
  | file (name : String) (path : RelativePath) (size : Nat) (hash : String) (rest : FileTree)
  | directory (name : String) (path : RelativePath) (children rest : FileTree)

structure ProjectContext where
  files : Files
  fileTree : FileTree
  totalSize : Nat
  totalFiles : Nat
  lastUpdated : Nat
  ttlMs : Nat := defaultTtlMs

structure ContextDiff where
  added : List RelativePath := []
  modified : List RelativePath := []
  deleted : List RelativePath := []
  unchanged : List RelativePath := []

structure Runtime where
  toLowerCase : String → String
  hashContent : String → String

def shouldIgnore (name : String) (relativePath : RelativePath) : Bool :=
  ignorePatterns.any fun pattern =>
    if "*".toList.isPrefixOf pattern.toList then
      (pattern.toList.drop 1).isSuffixOf name.toList
    else name == pattern || includes ("/".intercalate relativePath) pattern

variable (runtime : Runtime)

def cache (data : FileData) : CachedFile where
  hash := runtime.hashContent data.content
  content := data.content
  size := data.size

/-- What a scan keeps of a file that is not ignored. -/
def scanFile (name : String) (data : Option FileData) : Option CachedFile :=
  if includeExtensions.contains (runtime.toLowerCase (String.ofList (Path.extname name.toList)))
  then (data.filter fun data => data.size ≤ maxFileSize).map (cache runtime)
  else none

def scanDirectory (dir : RelativePath) : Tree → Files → Files × FileTree
  | .nil, files => (files, .nil)
  | .file name data rest, files =>
      let relativePath := dir ++ [name]
      if shouldIgnore name relativePath then scanDirectory dir rest files
      else
        match scanFile runtime name data with
        | none => scanDirectory dir rest files
        | some file =>
            let (files, tree) := scanDirectory dir rest (files.set relativePath file)
            (files, .file name relativePath file.size file.hash tree)
  | .directory name readable contents rest, files =>
      let relativePath := dir ++ [name]
      if shouldIgnore name relativePath then scanDirectory dir rest files
      else
        let (files, children) :=
          if readable then scanDirectory relativePath contents files else (files, .nil)
        let (files, tree) := scanDirectory dir rest files
        (files, .directory name relativePath children tree)
  | .other _ rest, files => scanDirectory dir rest files

/-- The lighter scan, for hashes only. -/
def scanForChanges (dir : RelativePath) :
    Tree → OrderedMap RelativePath String → OrderedMap RelativePath String
  | .nil, files => files
  | .file name data rest, files =>
      let relativePath := dir ++ [name]
      if shouldIgnore name relativePath then scanForChanges dir rest files
      else
        match scanFile runtime name data with
        | none => scanForChanges dir rest files
        | some file => scanForChanges dir rest (files.set relativePath file.hash)
  | .directory name readable contents rest, files =>
      let relativePath := dir ++ [name]
      if shouldIgnore name relativePath then scanForChanges dir rest files
      else
        scanForChanges dir rest
          (if readable then scanForChanges relativePath contents files else files)
  | .other _ rest, files => scanForChanges dir rest files

/-- The root may be a directory that cannot be read. -/
def buildContext (root : Option Directory) (now : Nat) : ProjectContext :=
  let (files, fileTree) :=
    root.elim (.empty, .nil) fun directory => scanDirectory runtime [] directory.1 .empty
  { files, fileTree, totalSize := files.sum CachedFile.size, totalFiles := files.entries.length,
    lastUpdated := now }

/-- Compare a cached file with the disk. -/
def compare (state : ContextDiff × OrderedMap RelativePath String)
    (entry : RelativePath × CachedFile) : ContextDiff × OrderedMap RelativePath String :=
  let (diff, currentFiles) := state
  let (relativePath, cached) := entry
  let diff :=
    match currentFiles.get? relativePath with
    | none => { diff with deleted := diff.deleted ++ [relativePath] }
    | some hash =>
        if hash ≠ cached.hash then { diff with modified := diff.modified ++ [relativePath] }
        else { diff with unchanged := diff.unchanged ++ [relativePath] }
  (diff, currentFiles.erase relativePath)

def currentFiles (root : Option Directory) : OrderedMap RelativePath String :=
  root.elim .empty fun directory => scanForChanges runtime [] directory.1 .empty

def detectChanges (context : ProjectContext) (root : Option Directory) : ContextDiff :=
  let (diff, remaining) :=
    context.files.entries.foldl compare ({}, currentFiles runtime root)
  { diff with added := remaining.entries.map Prod.fst }

def updateFile (read : RelativePath → Option FileData) (files : Files)
    (relativePath : RelativePath) : Files :=
  match read relativePath with
  | some data => files.set relativePath (cache runtime data)
  | none => files

def applyDiff (context : ProjectContext) (read : RelativePath → Option FileData)
    (diff : ContextDiff) (now : Nat) : ProjectContext :=
  let files := diff.deleted.foldl OrderedMap.erase context.files
  let files := (diff.modified ++ diff.added).foldl (updateFile runtime read) files
  { context with
    files
    totalSize := files.sum CachedFile.size
    totalFiles := files.entries.length
    lastUpdated := now }

end ContextCacheService

open ContextCacheService

structure ContextCache where
  /-- The contexts that were built. -/
  contexts : List ProjectContext := []
  caches : OrderedMap String Nat := .empty
  /-- The keys whose contexts are being built. -/
  builds : List String := []
  /-- The contexts that are to be refreshed in the background. -/
  refreshes : List Nat := []
  hits : Nat := 0
  misses : Nat := 0
  evictions : Nat := 0

namespace ContextCache

variable (runtime : Runtime) (service : ContextCache)

def sizeOf (number : Nat) : Nat := (service.contexts[number]?.map ProjectContext.totalSize).getD 0

def lastUpdated (number : Nat) : Nat :=
  (service.contexts[number]?.map ProjectContext.lastUpdated).getD 0

def totalSize : Nat := service.caches.sum service.sizeOf

/-- The loop that evicts the oldest contexts. -/
def evict : List (String × Nat) → Nat → ContextCache → ContextCache
  | [], _, service => service
  | (key, number) :: sorted, totalSize, service =>
      if maxSizeBytes * 8 / 10 < totalSize then
        evict sorted (totalSize - service.sizeOf number)
          { service with
            caches := service.caches.erase key
            evictions := service.evictions + 1 }
      else service

def evictIfNeeded : ContextCache :=
  if maxSizeBytes < service.totalSize then
    evict (service.caches.entries.mergeSort fun first second =>
      service.lastUpdated first.2 ≤ service.lastUpdated second.2) service.totalSize service
  else service

def cacheKey (projectId taskId : String) : String := s!"{projectId}:{taskId}"

/-- The context in the cache that is not expired. -/
def valid? (key : String) (forceRefresh : Bool) (now : Nat) : Option Nat := do
  let number ← service.caches.get? key
  let existing ← service.contexts[number]?
  if forceRefresh || existing.lastUpdated + existing.ttlMs < now then none else some number

def getContext (projectId taskId : String) (forceRefresh : Bool) (now : Nat) : ContextCache :=
  let key := cacheKey projectId taskId
  match service.valid? key forceRefresh now with
  | some number =>
      { service with hits := service.hits + 1, refreshes := service.refreshes ++ [number] }
  | none => { service with misses := service.misses + 1, builds := service.builds ++ [key] }

/-- The rest of a call that missed, when its scan of the disk is done. -/
def contextBuilt (place now : Nat) (root : Option Directory) : ContextCache :=
  match service.builds[place]? with
  | none => service
  | some key =>
      evictIfNeeded
        { service with
          builds := service.builds.eraseIdx place
          contexts := service.contexts ++ [buildContext runtime root now]
          caches := service.caches.set key service.contexts.length }

/-- The refresh at a place among those that are to be done.  Files are read after the scan. -/
def refreshContext (place now : Nat) (root : Option Directory)
    (read : RelativePath → Option FileData) : ContextCache :=
  match service.refreshes[place]? with
  | none => service
  | some number =>
      let service := { service with refreshes := service.refreshes.eraseIdx place }
      match service.contexts[number]? with
      | none => service
      | some context =>
          let diff := detectChanges runtime context root
          if diff.added = [] ∧ diff.modified = [] ∧ diff.deleted = [] then service
          else
            { service with
              contexts := service.contexts.set number (applyDiff runtime context read diff now) }

def invalidate (projectId : String) (taskId : Option String) : ContextCache :=
  match taskId.filter fun id => id != "" with
  | some taskId => { service with caches := service.caches.erase (cacheKey projectId taskId) }
  | none =>
      { service with
        caches := service.caches.filter fun key _ =>
          !(projectId ++ ":").toList.isPrefixOf key.toList }

inductive Action where
  | getContext (projectId taskId : String) (forceRefresh : Bool) (now : Nat)
  | contextBuilt (place now : Nat) (root : Option Directory)
  | refresh (place now : Nat) (root : Option Directory) (read : RelativePath → Option FileData)
  | invalidate (projectId : String) (taskId : Option String)

def step : Action → ContextCache
  | .getContext projectId taskId forceRefresh now =>
      service.getContext projectId taskId forceRefresh now
  | .contextBuilt place now root => service.contextBuilt runtime place now root
  | .refresh place now root read => service.refreshContext runtime place now root read
  | .invalidate projectId taskId => service.invalidate projectId taskId

end ContextCache

end MultiAgents
