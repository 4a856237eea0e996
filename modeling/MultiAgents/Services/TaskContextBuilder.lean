import Mathlib.Data.List.Lex
import MultiAgents.Services.BridgeEvents

/-!
# The files a task has modified

For the continuation of a task the files it modified are read from its activity
log: the paths in the inputs of the tools that write, and what looks like a path
in the texts of the entries.
-/

namespace MultiAgents

open Text

namespace TaskContextBuilder

/-- What the class `\w` matches. -/
def isWord (char : Char) : Bool := char.isAlphanum || char == '_'

/-- At most that many characters, as many as possible. -/
def upTo (test : Char → Bool) : Nat → Regex
  | 0 => .empty
  | count + 1 => .alt (.seq (.char test) (upTo test count)) .empty

/-- `/(?:^|\s)((?:\.\/|\/)?[\w\-./]+\.\w{1,10})(?:\s|$|:)/`, for a text between two lines: its
start and its end are white space. -/
def pathPattern : Regex :=
  .all [.char isSpace, .alt (.alt (.text "./") (.text "/")) .empty,
    .atLeastOne fun char => isWord char || ['-', '.', '/'].contains char,
    .text ".", .char isWord, upTo isWord 9,
    .alt (.char isSpace) (.text ":")]

/-- `match.trim().replace(/:$/, '')`. -/
def matchedPath (found : List Char) : List Char :=
  let path := trim found
  if path.getLast? = some ':' then path.dropLast else path

def mentionedPaths (content : String) : List String :=
  if content = "" then []
  else
    let text := '\n' :: content.toList ++ ['\n']
    ((pathPattern.findAll text.length text).map matchedPath).filterMap fun path =>
      if path.contains '/' ∧ ¬ "http".toList.isPrefixOf path then some (String.ofList path)
      else none

def toolFile (entry : LogEntry) : Value :=
  if entry.tool.isText "Edit" || entry.tool.isText "Write" then
    (entry.toolInput.member? "file_path").filter Json.truthy
  else none

def entryFiles (entry : LogEntry) : List Json :=
  (toolFile entry).toList ++ (mentionedPaths entry.content).map .str

def utf16 (text : String) : List Nat :=
  text.toList.flatMap fun char =>
    let code := char.toNat
    if code < 0x10000 then [code]
    else [0xd800 + (code - 0x10000) / 0x400, 0xdc00 + (code - 0x10000) % 0x400]

/-- Each file once, in the order of their texts. -/
def extractFilesFromActivityLog (activityLog : List LogEntry) : List Json :=
  (activityLog.flatMap entryFiles).eraseDups.mergeSort fun first second =>
    utf16 first.display ≤ utf16 second.display

end TaskContextBuilder

end MultiAgents
