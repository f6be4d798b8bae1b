import GraphScribe.Shape.OfSelection

/-!
# Batches of documents

A batch is a list of documents that are transformed together.  `Batch.transform` gives every
fragment and every operation of the batch a namespace with the shapes it needs.  Namespaces are
named after what they hold, and no two of a batch share a name.
-/

namespace GraphScribe

/-- The shapes made for one fragment. -/
structure FragmentNamespace where
  name : String
  space : String
  on : String
  root : Shape
deriving Inhabited

/-- The variables and shapes made for one operation. -/
structure OperationNamespace where
  name : String
  space : String
  kind : OperationKind
  variableProperties : List Property
  root : Shape
  anonymous : Bool := false
deriving Inhabited

/-- The operations and fragments of a transformed batch. -/
structure Batch where
  operations : List OperationNamespace := []
  fragments : List FragmentNamespace := []
deriving Inhabited

namespace Batch

/-- The operation called `name`. -/
def operation? (b : Batch) (name : String) : Option OperationNamespace :=
  b.operations.find? fun o => o.name = name

/-- The fragment called `name`. -/
def fragment? (b : Batch) (name : String) : Option FragmentNamespace :=
  b.fragments.find? fun f => f.name = name

/-- The name of the root shape of a fragment. -/
def fragmentShapeName : String := "Fragment"

/-- The name of the type that holds the variables of an operation. -/
def variablesName : String := "Variables"

/-- Runs a walk from a table of names to its result. -/
def runWalk {α : Type} (walk : Walk α) (table : NameTable) : Except Failure α := (walk.run table).1

/-- The shapes of a fragment whose namespace is entered in `namespaces`. -/
def resolveFragment (model : Model) (namespaces : Assoc String) (f : Fragment) :
    Except Failure FragmentNamespace := do
  let some ns := namespaces.find? f.name | throw (.keyMissing f.name)
  if !model.isComposite f.on then
    throw (.mismatch (.fragmentOnLeaf f.name f.on) ns)
  let table ← NameTable.claim { scope := "fragment '" ++ f.name ++ "'" } fragmentShapeName
  let root ← runWalk (Walk.shape ⟨model, namespaces⟩ fragmentShapeName f.on f.selections ns) table
  return { name := f.name, space := ns, on := f.on, root }

/-- The shapes of a definition, which has to be a fragment.  What is no fragment but has a name
must at least have a namespace entered for it. -/
def resolveDefinition (model : Model) (namespaces : Assoc String) (d : Definition) :
    Except Failure FragmentNamespace := do
  match d, d.name? with
  | .fragment f, _ => resolveFragment model namespaces f
  | _, some name =>
    if namespaces.contains name then throw .attributeMissing else throw (.keyMissing name)
  | _, none => throw .attributeMissing

/-- The shapes of some definitions under their names, a repeated name with its last one. -/
def resolveDefinitions (model : Model) (namespaces : Assoc String) (ds : List Definition) :
    Except Failure (Assoc FragmentNamespace) := do
  let resolved ← ds.mapM (resolveDefinition model namespaces)
  return Assoc.ofList (resolved.map fun f => (f.name, f))

/-- The property for a variable of an operation. -/
def variableProperty (model : Model) (ns : String) (v : VariableDeclaration) :
    Except Failure Property :=
  let descriptor := v.type.descriptor
  match model.kindOf descriptor.name with
  | none =>
    .error (.mismatch (.unknownVariableType v.name descriptor.name) (ns ++ "." ++ variablesName))
  | some kind =>
    .ok { name := v.name, descriptor, kind, default := v.default.map Literal.text }

/-- The variables and shapes of an operation that is called `name`. -/
def transformOperation (model : Model) (namespaces : Assoc String) (o : Operation)
    (name : String) : Except Failure OperationNamespace := do
  let ns := Naming.capitalize name
  let keyword := o.kind.keyword
  let some root := model.rootType keyword | throw (.mismatch (.noRootType keyword) ns)
  let table ← NameTable.claim { scope := "operation '" ++ name ++ "'" } variablesName
  let variableProperties ← o.variableDeclarations.mapM (variableProperty model ns)
  let rootName := Naming.capitalize keyword
  let table ← table.claim rootName
  let root ← runWalk (Walk.shape ⟨model, namespaces⟩ rootName root o.selections ns) table
  return { name, space := ns, kind := o.kind, variableProperties, root, anonymous := o.name.isNone }

/-- Takes the namespace of each fragment, and lists the namespaces under the fragments' names. -/
def claimFragments (table : NameTable) (entered : Assoc String) :
    List Fragment → Except Failure (NameTable × Assoc String)
  | [] => .ok (table, entered)
  | f :: rest => do
    if entered.contains f.name then
      throw (.nameTaken f.name "fragment definitions")
    let ns := Naming.capitalize f.name
    let table ← table.claim ns
    claimFragments table (entered ++ [(f.name, ns)]) rest

/-- Takes all of some names. -/
def claimAll (table : NameTable) (names : List String) : Except Failure NameTable :=
  names.foldlM NameTable.claim table

/-- Transforms the operations and fragments of a batch. -/
def transform (model : Model) (documents : List Document) : Except Failure Batch := do
  let operations := documents.flatMap Document.operations
  let fragments := documents.flatMap Document.fragments
  let (table, namespaces) ← claimFragments { scope := "document batch" } [] fragments
  let names := Naming.operationNames (operations.map Operation.name)
  let _ ← claimAll table (names.map Naming.capitalize)
  let resolved ← resolveDefinitions model namespaces (fragments.map .fragment)
  let operations ← (operations.zip names).mapM fun o =>
    transformOperation model namespaces o.1 o.2
  return { operations, fragments := resolved.values }

end Batch

end GraphScribe
