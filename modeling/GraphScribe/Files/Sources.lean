import GraphScribe.Files.Tree
import GraphScribe.Schema.OfDocument
import GraphScribe.Schema.OfIntrospection

/-!
# Reading sources

`FileTree.readSchema` reads a schema from a path: an introspection result from a JSON file, else
the texts of all schema files taken together.  `FileTree.readDocuments` reads the operation
documents of several paths, and `FileTree.templatesIn` looks up the templates in a directory.
-/

namespace GraphScribe.FileTree

/-- The endings of files that declare types. -/
def schemaEndings : List String := [".graphql", ".graphqls", ".gql"]

/-- The endings of files with operations. -/
def documentEndings : List String := [".graphql", ".gql"]

/-- An introspection result, which may be wrapped as the data of a response. -/
def unwrap : Value → Value
  | .object entries => (Assoc.find? entries "data").getD (.object entries)
  | v => v

/-- The schema in the text of a JSON file. -/
def schemaOfJson (text : String) : Except Failure Schema := do
  Schema.ofIntrospection (unwrap (← Json.read text))

/-- The schema that a text declares; an invalid one is rejected as a whole. -/
def schemaOfText (text : String) : Except Failure Schema :=
  match Schema.ofText text with
  | .error .invalidSchema => .error .rejectedSchema
  | result => result

/-- The schema at a path. -/
def readSchema (t : FileTree) (path : String) : Except Failure Schema :=
  if t.hasFile path && Text.endsWith path ".json" then schemaOfJson ((t.read? path).getD "")
  else do
    let texts := (← t.collect path schemaEndings).filterMap t.read?
    if texts.isEmpty then throw (.noSchemaFiles path) else schemaOfText ("\n".intercalate texts)

/-- The documents at some paths, path by path. -/
def readDocuments (t : FileTree) (paths : List String) : Except Failure (List Document) := do
  let documents ← paths.mapM fun path => do
    ((← t.collect path documentEndings).filterMap t.read?).mapM Document.read
  return documents.flatten

/-- The template with a name in a directory, if both exist. -/
def templateFile (t : FileTree) (directory name : String) : Option String :=
  let path := Path.join directory name
  if t.hasDirectory directory && t.hasFile path then t.read? path else none

/-- A way to look up the templates in a directory, which need not exist but must have a name that
can. -/
def templatesIn (t : FileTree) (directory : String) : Except Failure (String → Option String) :=
  if t.meetsLongName directory then .error .nameTooLong else .ok (t.templateFile directory)

end GraphScribe.FileTree
