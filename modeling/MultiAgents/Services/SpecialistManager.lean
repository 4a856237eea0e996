import Mathlib.Algebra.Order.Field.Rat
import Mathlib.Data.List.Sort
import MultiAgents.Containers.OrderedMap

/-!
# Specialists for a task

A project's configuration makes specialists active, and so do words of the task.
The expressions are matched by an engine, and the scores are computed in the
arithmetic of the language; both are parameters.  The prompts that are built
from the active specialists are left out.
-/

namespace MultiAgents.SpecialistManager

open Containers

inductive Phase where
  | analysis
  | developer
  deriving DecidableEq

structure StackConfig where
  frontend : Option String := none
  backend : Option String := none
  database : Option String := none
  infrastructure : Option String := none

structure StandardSpecialistsConfig where
  contextManager : Bool := true
  taskDecomposition : Bool := true
  codeArchitect : Bool := true
  debugger : Bool := true
  testEngineer : Bool := true
  securityAuditor : Bool := true
  gitFlowManager : Bool := true

structure ProjectSpecialistsConfig where
  stack : StackConfig := {}
  standard : StandardSpecialistsConfig := {}
  domainSpecialists : List String := []

def stackToSpecialist : List (String × String) :=
  [("react", "react-expert"), ("vue", "vue-expert"), ("angular", "angular-expert"),
  ("nextjs", "nextjs-architect"), ("svelte", "svelte-expert"), ("nodejs", "nodejs-pro"),
  ("python", "python-pro"), ("go", "go-expert"), ("java", "java-specialist"),
  ("rust", "rust-expert"), ("dotnet", "dotnet-expert"), ("flutter", "flutter-dart-expert"),
  ("dart", "flutter-dart-expert"), ("postgresql", "postgresql-architect"),
  ("mongodb", "mongodb-expert"), ("mysql", "mysql-specialist"), ("redis", "redis-expert"),
  ("docker", "docker-expert"), ("kubernetes", "kubernetes-architect"), ("aws", "aws-specialist"),
  ("gcp", "gcp-expert"), ("azure", "azure-specialist"), ("vercel", "nextjs-architect")]

def standardConfigMap : List ((StandardSpecialistsConfig → Bool) × String) :=
  [((·.contextManager), "context-manager"), ((·.taskDecomposition), "task-decomposition"),
  ((·.codeArchitect), "code-architect"), ((·.debugger), "debugger"),
  ((·.testEngineer), "test-engineer"), ((·.securityAuditor), "security-auditor"),
  ((·.gitFlowManager), "git-flow-manager")]

def specialistRegistry : List String :=
  ["context-manager", "task-decomposition", "code-architect", "debugger", "test-engineer",
  "security-auditor", "git-flow-manager", "react-expert", "vue-expert", "angular-expert",
  "nextjs-architect", "svelte-expert", "nodejs-pro", "python-pro", "go-expert", "java-specialist",
  "rust-expert", "dotnet-expert", "flutter-dart-expert", "postgresql-architect", "mongodb-expert",
  "mysql-specialist", "redis-expert", "docker-expert", "kubernetes-architect", "aws-specialist",
  "gcp-expert", "azure-specialist", "ui-ux-designer", "api-designer", "performance-optimizer",
  "accessibility-expert", "fullstack-developer"]

/-- What every object has under a name of its own prototype counts as a definition, too. -/
def prototypeNames : List String :=
  ["constructor", "toString", "toLocaleString", "valueOf", "hasOwnProperty", "isPrototypeOf",
  "propertyIsEnumerable", "__proto__", "__defineGetter__", "__defineSetter__",
  "__lookupGetter__", "__lookupSetter__"]

/-- The phases a specialist is restricted to, if it is defined; none of the definitions has such
a restriction. -/
def activationPhases (specialist : String) : Option (Option (List Phase)) :=
  if specialist ∈ specialistRegistry ++ prototypeNames then some none else none

def getStackSpecialists (stack : StackConfig) : List String :=
  [stack.frontend, stack.backend, stack.database, stack.infrastructure].filterMap fun choice =>
    choice.bind fun name => stackToSpecialist.lookup name

def getActiveSpecialists (config : ProjectSpecialistsConfig) (phase : Phase) : List String :=
  let standard := (standardConfigMap.filter fun entry => entry.1 config.standard).map Prod.snd
  (standard ++ getStackSpecialists config.stack ++ config.domainSpecialists).filter fun id =>
    match activationPhases id with
    | none => false
    | some none => true
    | some (some phases) => phase ∈ phases

/-- The expressions of each specialist, with the weight of their matches. -/
def contextualPatterns : List (String × ℚ × List String) := [
  ("react-expert", 1, ["/\\breact\\b/i", "/\\bcomponent/i", "/\\bhook/i", "/\\buseState\\b/i",
    "/\\buseEffect\\b/i", "/\\bjsx\\b/i", "/\\btsx\\b/i", "/\\.tsx?\\b/"]),
  ("vue-expert", 1, ["/\\bvue\\b/i", "/\\bvuex\\b/i", "/\\bpinia\\b/i",
    "/\\bcomposition api\\b/i", "/\\.vue\\b/"]),
  ("nextjs-architect", 1, ["/\\bnext\\.?js\\b/i", "/\\bserver component/i", "/\\bapp router\\b/i",
    "/\\bgetServerSideProps\\b/i", "/\\bgetStaticProps\\b/i", "/\\buse server\\b/i"]),
  ("angular-expert", 1, ["/\\bangular\\b/i", "/\\bngModule\\b/i", "/\\binjectable\\b/i",
    "/\\.component\\.ts\\b/"]),
  ("svelte-expert", 1, ["/\\bsvelte\\b/i", "/\\bsveltekit\\b/i", "/\\.svelte\\b/"]),
  ("nodejs-pro", 1, ["/\\bnode\\.?js\\b/i", "/\\bexpress\\b/i", "/\\bfastify\\b/i",
    "/\\bnestjs\\b/i", "/\\bmiddleware\\b/i", "/\\broute/i"]),
  ("python-pro", 1, ["/\\bpython\\b/i", "/\\bfastapi\\b/i", "/\\bdjango\\b/i", "/\\bflask\\b/i",
    "/\\bpydantic\\b/i", "/\\.py\\b/"]),
  ("go-expert", 1, ["/\\bgolang\\b/i", "/\\bgo\\s+\\w+\\b/i", "/\\bgoroutine/i", "/\\bchannel/i",
    "/\\.go\\b/"]),
  ("java-specialist", 1, ["/\\bjava\\b/i", "/\\bspring\\s*boot\\b/i", "/\\bspring\\b/i",
    "/\\bmaven\\b/i", "/\\bgradle\\b/i", "/\\.java\\b/"]),
  ("rust-expert", 1, ["/\\brust\\b/i", "/\\bcargo\\b/i", "/\\bownership\\b/i", "/\\bborrow\\b/i",
    "/\\.rs\\b/"]),
  ("dotnet-expert", 1, ["/\\.net\\b/i", "/\\bcsharp\\b/i", "/\\bc#\\b/i", "/\\baspnet\\b/i",
    "/\\.cs\\b/"]),
  ("postgresql-architect", 1, ["/\\bpostgres/i", "/\\bpostgresql\\b/i", "/\\bprisma\\b/i",
    "/\\bdrizzle\\b/i", "/\\bSQL\\b/", "/\\bmigration/i", "/\\bschema\\b/i"]),
  ("mongodb-expert", 1, ["/\\bmongodb\\b/i", "/\\bmongoose\\b/i", "/\\bnosql\\b/i",
    "/\\baggregate/i", "/\\bcollection/i"]),
  ("mysql-specialist", 1, ["/\\bmysql\\b/i", "/\\bmariadb\\b/i"]),
  ("redis-expert", 1, ["/\\bredis\\b/i", "/\\bcach(e|ing)\\b/i", "/\\bpubsub\\b/i"]),
  ("docker-expert", 1, ["/\\bdocker\\b/i", "/\\bcontainer/i", "/\\bDockerfile\\b/i",
    "/\\bcompose\\b/i", "/\\bimage\\b/i"]),
  ("kubernetes-architect", 1, ["/\\bkubernetes\\b/i", "/\\bk8s\\b/i", "/\\bhelm\\b/i",
    "/\\bpod/i", "/\\bdeployment/i", "/\\bservice\\b/i", "/\\bingress\\b/i"]),
  ("aws-specialist", 1, ["/\\baws\\b/i", "/\\blambda\\b/i", "/\\bs3\\b/i", "/\\bec2\\b/i",
    "/\\bdynamodb\\b/i", "/\\bcognito\\b/i", "/\\bsqs\\b/i"]),
  ("gcp-expert", 1, ["/\\bgcp\\b/i", "/\\bgoogle cloud\\b/i", "/\\bcloud run\\b/i",
    "/\\bbigquery\\b/i", "/\\bfirestore\\b/i"]),
  ("azure-specialist", 1, ["/\\bazure\\b/i", "/\\bcosmosdb\\b/i", "/\\bazure function/i"]),
  ("context-manager", 1/2, ["/\\bunderstand/i", "/\\banalyze/i", "/\\bexplore/i",
    "/\\bresearch/i"]),
  ("task-decomposition", 1/2, ["/\\bcomplex\\b/i", "/\\bmultiple/i", "/\\bstep/i", "/\\bplan/i",
    "/\\bbreak down/i"]),
  ("code-architect", 4/5, ["/\\barchitect/i", "/\\bdesign/i", "/\\bstructure/i", "/\\bpattern/i",
    "/\\brefactor/i", "/\\borganiz/i"]),
  ("debugger", 9/10, ["/\\bbug\\b/i", "/\\bdebug/i", "/\\bfix\\b/i", "/\\berror\\b/i",
    "/\\bissue\\b/i", "/\\bcrash/i", "/\\bbroken/i", "/\\bnot working/i"]),
  ("test-engineer", 9/10, ["/\\btest/i", "/\\bjest\\b/i", "/\\bvitest\\b/i", "/\\bpytest\\b/i",
    "/\\bspec\\b/i", "/\\bcoverage\\b/i", "/\\bmock/i", "/\\bunit\\b/i", "/\\bintegration\\b/i",
    "/\\be2e\\b/i"]),
  ("security-auditor", 9/10, ["/\\bsecurity\\b/i", "/\\bvulnerabil/i", "/\\bauth/i",
    "/\\bencrypt/i", "/\\binjection/i", "/\\bxss\\b/i", "/\\bcsrf\\b/i", "/\\bcors\\b/i",
    "/\\bsanitiz/i"]),
  ("git-flow-manager", 7/10, ["/\\bgit\\b/i", "/\\bbranch/i", "/\\bmerge/i", "/\\bcommit/i",
    "/\\bpull request/i", "/\\bpr\\b/i", "/\\brebase/i"]),
  ("ui-ux-designer", 4/5, ["/\\bui\\b/i", "/\\bux\\b/i", "/\\bdesign/i", "/\\blayout/i",
    "/\\bresponsive/i", "/\\bstyle/i", "/\\bcss\\b/i", "/\\btailwind/i", "/\\bsass\\b/i",
    "/\\banimation/i"]),
  ("api-designer", 4/5, ["/\\bapi\\b/i", "/\\brest\\b/i", "/\\bgraphql\\b/i", "/\\bendpoint/i",
    "/\\broute/i", "/\\bhttp/i", "/\\brequest/i", "/\\bresponse\\b/i", "/\\bopenapi\\b/i",
    "/\\bswagger\\b/i"]),
  ("performance-optimizer", 4/5, ["/\\bperformance\\b/i", "/\\boptimiz/i", "/\\bslow\\b/i",
    "/\\bfast/i", "/\\bspeed/i", "/\\bcach/i", "/\\blatency/i", "/\\bbundle/i", "/\\blazy/i",
    "/\\bmemoiz/i"]),
  ("accessibility-expert", 9/10, ["/\\ba11y\\b/i", "/\\baccessib/i", "/\\baria\\b/i",
    "/\\bscreen reader/i", "/\\bwcag\\b/i", "/\\bkeyboard/i"]),
  ("fullstack-developer", 3/5, ["/\\bfullstack\\b/i", "/\\bfull-stack\\b/i",
    "/\\bfrontend and backend\\b/i", "/\\bend-to-end\\b/i"]),
  ("flutter-dart-expert", 1, ["/\\bflutter\\b/i", "/\\bdart\\b/i", "/\\bwidget/i",
    "/\\briverpod\\b/i", "/\\bbloc\\b/i", "/\\bprovider\\b/i", "/\\bpubspec\\b/i", "/\\.dart\\b/",
    "/\\bmobile app\\b/i"])]

/-- The text that an expression first matches. -/
abbrev Engine := String → String → Option String

/-- Numbers as the language computes with them. -/
structure Arithmetic (F : Type) where
  literal : ℚ → F
  divide : Nat → Nat → F
  times : F → F → F
  /-- `>=` -/
  atLeast : F → F → Bool
  /-- `Math.round(x * 100) / 100` -/
  round : F → F

structure ContextualMatch (F : Type) where
  specialist : String
  score : F
  matchedKeywords : List String

section
variable {F : Type} (arithmetic : Arithmetic F) (engine : Engine)

abbrev Scores (F : Type) := OrderedMap String (F × List String)

def scoreKeywords (taskContent : String) (scores : Scores F)
    (entry : String × ℚ × List String) : Scores F :=
  let (specialistId, weight, keywords) := entry
  let matchedKeywords := keywords.filterMap fun regex => engine regex taskContent
  if matchedKeywords.length > 0 then
    scores.set specialistId
      (arithmetic.times (arithmetic.divide matchedKeywords.length keywords.length)
        (arithmetic.literal weight), matchedKeywords.eraseDups)
  else scores

def boost (minScore : F) (scores : Scores F) (specialist : String) : Scores F :=
  match scores.get? specialist with
  | some (score, found) =>
      scores.set specialist (arithmetic.times score (arithmetic.literal 1.3), found)
  | none => scores.set specialist (minScore, ["from-config"])

def getContextualSpecialists (taskContent : String) (config : ProjectSpecialistsConfig)
    (maxSpecialists : Nat) (minScore : F) (phase : Phase) : List (ContextualMatch F) :=
  let scores := contextualPatterns.foldl (scoreKeywords arithmetic engine taskContent) .empty
  let activeFromConfig := (getActiveSpecialists config phase).eraseDups
  let scores := activeFromConfig.foldl (boost arithmetic minScore) scores
  let kept := scores.entries.filter fun entry => arithmetic.atLeast entry.2.1 minScore
  let sorted := kept.insertionSort fun a b => arithmetic.atLeast a.2.1 b.2.1
  (sorted.take maxSpecialists).map fun entry =>
    ⟨entry.1, arithmetic.round entry.2.1, entry.2.2⟩

structure SpecialistContext (F : Type) where
  activeSpecialists : List String
  contextualMatches : List (ContextualMatch F)

def buildContextualContext (taskContent : String) (config : ProjectSpecialistsConfig)
    (phase : Phase) : SpecialistContext F :=
  let contextualMatches := getContextualSpecialists arithmetic engine taskContent config 5
    (arithmetic.literal 0.1) phase
  let contextualIds := contextualMatches.map ContextualMatch.specialist
  let configActiveIds := getActiveSpecialists config phase
  { activeSpecialists := (contextualIds ++ configActiveIds).eraseDups, contextualMatches }

end

end MultiAgents.SpecialistManager
