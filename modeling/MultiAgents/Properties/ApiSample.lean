import MultiAgents.Database.Store

/-!
# Two users with a project each

A store with a project and a repository of each of two users, and a cipher that
knows the encryption of one password under the key of a development process.
-/

namespace MultiAgents.ApiSample

def key : String := "cabf231933930150a7be69eec2d13c559cd1cddc144f8038c2a69f7cb890f778"

def iv : String := "000102030405060708090a0b0c0d0e0f"

def authTag : String := "31a8761961374ac19b389760d0b80630"

def library : CryptoLibrary where
  encrypt cipherKey bytes plaintext :=
    if cipherKey = key ∧ bytes = iv ∧ plaintext = "hunter2" then .ok (authTag, "869dc893a59964")
    else .error "not in the sample"
  decrypt cipherKey bytes tag ciphertext :=
    if cipherKey = key ∧ bytes = iv ∧ tag = authTag ∧ ciphertext = "869dc893a59964" then
      .ok "hunter2"
    else .error "Unsupported state or unable to authenticate data"
  fromBase64 text := text
  scrypt _ _ := key

def crypto : CryptoEnvironment := { library }

def empty : Store where
  projects := .empty
  repositories := .empty
  tokens _ := none
  linked _ _ found := by cases found

def shop : ProjectRow where
  name := "Shop"
  userId := "ada"

def blog : ProjectRow where
  name := "Blog"
  userId := "ben"

def repository (name projectId : String) : RepositoryRow where
  name := name
  projectId := projectId
  githubRepoUrl := "https://github.com/acme/" ++ name
  githubRepoName := "acme/" ++ name

def projects : Store := (empty.putProject "shop" shop).putProject "blog" blog

def store : Store :=
  (projects.putRepository "shop-api" (repository "shop-api" "shop") (by decide)).putRepository
    "blog-api" (repository "blog-api" "blog") (by decide)

def choices : Nat → StoreChoice := fun _ => { now := 1, id := "new", bytes := iv }

def password : EnvVariable where
  key := "DB_PASSWORD"
  value := some "hunter2"
  isSecret := true

def port : EnvVariable where
  key := "PORT"
  value := some "8080"
  isSecret := false
  description := some "The server listens here"

end MultiAgents.ApiSample
