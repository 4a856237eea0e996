import MultiAgents.Services.Crypto
import MultiAgents.Text.Record

/-!
# Environment variables

Variables that are submitted for a repository are validated, and those that are
marked as secrets are encrypted before they are stored.  A file is generated from
what is stored, with a line for each variable.
-/

namespace MultiAgents

open Text

/-- A variable as it is submitted and stored; the value may be missing. -/
structure EnvVariable where
  key : String
  value : Option String
  isSecret : Bool
  description : Option String := none
  deriving DecidableEq

namespace EnvService

/-- `/^[A-Z][A-Z0-9_]*$/`. -/
def isValidEnvKey (key : String) : Bool :=
  match key.toList with
  | first :: rest =>
      first.isUpper && rest.all fun char => char.isUpper || char.isDigit || char == '_'
  | [] => false

def variableErrors (envVar : EnvVariable) : List String :=
  if envVar.key = "" then ["Environment variable key cannot be empty"]
  else
    (if isValidEnvKey envVar.key then []
      else ["Invalid key format: " ++ envVar.key ++
        " (must be uppercase alphanumeric with underscores)"]) ++
    (if envVar.value.isNone then ["Value for " ++ envVar.key ++ " cannot be empty"] else [])

def validateEnvVariables (envVariables : List EnvVariable) : List String :=
  envVariables.flatMap variableErrors

def writtenValue (environment : CryptoEnvironment) (envVar : EnvVariable) :
    Except String String :=
  match envVar.value with
  | some value => if envVar.isSecret then CryptoService.decrypt environment value else .ok value
  | none => .ok "undefined"

def variableContent (key : String) (description : Option String) (value : String) : String :=
  match presentText description with
  | some description => "# " ++ description ++ "\n" ++ (key ++ "=" ++ value ++ "\n") ++ "\n"
  | none => key ++ "=" ++ value ++ "\n"

def fileHeader : String :=
  "# Environment Variables\n" ++ "# Generated automatically by Multi-Agent Platform\n" ++
    "# DO NOT COMMIT THIS FILE\n\n"

def generateEnvFileContent (environment : CryptoEnvironment) (envVariables : List EnvVariable) :
    Except String String :=
  match envVariables with
  | [] => .ok "# No environment variables configured for this repository\n"
  | _ => do
      let contents ← envVariables.mapM fun envVar => do
        let value ← writtenValue environment envVar
        return variableContent envVar.key envVar.description value
      return fileHeader ++ String.join contents

end EnvService

end MultiAgents
