import ContextIndex.Http
import ContextIndex.Json.Printer
import ContextIndex.Url.Parser

/-!
# Asking a language model

The model is asked for the declarations of a file in one message, which quotes the beginning of the
file.  The message is a template with two places to fill; the language is filled in first, and
whatever it says is read as template too.
-/

namespace ContextIndex.Extract.Model

/-- How a language model is reached. -/
structure Access where
  /-- The address that completes chats. -/
  endpoint : String
  /-- The key; without one the model is not asked. -/
  key : String
  /-- The name of the model. -/
  name : String
deriving DecidableEq, Repr

/-- The most characters of a file that the message quotes. -/
def maxCode : Nat := 50000

/-- A text with a replacement for every occurrence of a pattern that is not empty; `skip` counts the
characters of an occurrence that are still to be passed over. -/
def replaceFrom (pattern replacement : List Char) : Nat → List Char → List Char
  | _, [] => []
  | skip + 1, _ :: cs => replaceFrom pattern replacement skip cs
  | 0, c :: cs =>
    if pattern.isPrefixOf (c :: cs) then
      replacement ++ replaceFrom pattern replacement (pattern.length - 1) cs
    else c :: replaceFrom pattern replacement 0 cs

/-- A text with a replacement for every occurrence of a pattern that is not empty. -/
def replaceAll (pattern replacement cs : List Char) : List Char :=
  replaceFrom pattern replacement 0 cs

/-- The place of the language in the template. -/
def languagePlace : List Char := "\x7blanguage\x7d".toList

/-- The place of the file in the template. -/
def codePlace : List Char := "\x7bcode\x7d".toList

/-- The message, with places for the language and the file. -/
def template : String :=
  String.intercalate "\n" [
    "Extract all functions, methods, classes, structs, interfaces, types, and enums from the " ++
      "code below.",
    "",
    "Rules:",
    "1. Return ONLY valid JSON in this exact format: \x7b\"symbols\": [...]\x7d",
    "2. Each symbol: \x7b\"name\": string, \"kind\": " ++
      "\"function|method|class|struct|interface|type|enum\", \"startLine\": number, " ++
      "\"endLine\": number, \"signature\": string\x7d",
    "3. Line numbers are 1-indexed and inclusive",
    "4. Never include control-flow statements (if, for, while, switch, case, return, ...)",
    "5. Only named declarations",
    "",
    "Language: \x7blanguage\x7d",
    "",
    "Code:",
    "\x7bcode\x7d"]

/-- The message about a file. -/
def prompt (content language : String) : String :=
  String.ofList (replaceAll codePlace (content.toList.take maxCode)
    (replaceAll languagePlace language.toList template.toList))

/-- What is sent to the model. -/
def chat (a : Access) (content language : String) : Json :=
  .object [("model", .string a.name),
    ("messages", .array [.object [("role", .string "user"),
      ("content", .string (prompt content language))]]),
    ("max_tokens", .nat 16000), ("temperature", .number "0.1"), ("stream", .bool false)]

/-- The request about a file, if the model can be asked. -/
def request? (a : Access) (content language : String) : Option Http.Request :=
  if a.key = "" then none
  else match Url.parse a.endpoint with
    | .error _ => none
    | .ok u =>
      if u.requested.isRequestable ∧ Http.isHeaderText a.key then
        some {
          method := .post
          address := u.requested.text
          target := String.ofList u.target
          headers := [Http.bearer a.key, ("content-type", "application/json")]
          body := some (chat a content language).compact }
      else none

end ContextIndex.Extract.Model
