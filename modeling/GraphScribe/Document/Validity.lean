import GraphScribe.Document.Traversal
import GraphScribe.Schema.Builtin

/-!
# Valid type-system documents

`Document.isValid` holds of the documents whose definitions can make up a schema: what is
defined is defined once, what is referred to is known, and every directive stands at one of its
places with the arguments it has.  The executable definitions of such a document are held to the
same rules, and refer to no type but those that the document defines.
-/

namespace GraphScribe.Document

variable (d : Document)

/-- The type definitions, without the extensions. -/
def typeDefinitions : List TypeDeclaration := d.filterMap fun
  | .type t => some t
  | _ => none

/-- The extensions of types. -/
def typeExtensions : List TypeDeclaration := d.filterMap fun
  | .extendType t => some t
  | _ => none

/-- The definitions and extensions of types, in order. -/
def typeParts : List TypeDeclaration := d.filterMap fun
  | .type t => some t
  | .extendType t => some t
  | _ => none

/-- The schema definitions, without the extensions. -/
def schemaDefinitions : List SchemaDeclaration := d.filterMap fun
  | .schema s => some s
  | _ => none

/-- The extensions of the schema. -/
def schemaExtensions : List SchemaDeclaration := d.filterMap fun
  | .extendSchema s => some s
  | _ => none

/-- The definitions of directives. -/
def directiveDefinitions : List DirectiveDeclaration := d.filterMap fun
  | .directive x => some x
  | _ => none

/-! ### What is defined is defined once -/

/-- There is at most one schema definition. -/
def hasLoneSchema : Bool := d.schemaDefinitions.length ≤ 1

/-- Each kind of operation has at most one root. -/
def hasDistinctRoots : Bool :=
  decide ((d.schemaDefinitions ++ d.schemaExtensions).flatMap fun s => s.roots.map Prod.fst).Nodup

/-- No two definitions define one type. -/
def hasDistinctTypes : Bool := decide (d.typeDefinitions.map TypeDeclaration.name).Nodup

/-- No two definitions define one directive. -/
def hasDistinctDirectives : Bool :=
  decide (d.directiveDefinitions.map DirectiveDeclaration.name).Nodup

/-- The names that `names` lists for the parts of one type, joined with the name of that type. -/
def partNames (names : TypeBody → List String) : List (String × String) :=
  d.typeParts.flatMap fun t => (names t.body).map fun n => (t.name, n)

/-- No type has two enum values, or two fields, of one name. -/
def hasDistinctParts : Bool :=
  decide (d.partNames fun b => b.values.map EnumValueDeclaration.name).Nodup &&
    decide (d.partNames fun b => b.fields.map FieldDeclaration.name ++
      b.inputFields.map InputDeclaration.name).Nodup

/-- No field and no directive declares two arguments of one name. -/
def hasDistinctDeclaredArguments : Bool :=
  (d.typeParts.all fun t => t.body.fields.all fun f =>
    decide (f.arguments.map InputDeclaration.name).Nodup) &&
  d.directiveDefinitions.all fun x => decide (x.arguments.map InputDeclaration.name).Nodup

/-- No field and no directive is given two arguments of one name. -/
def hasDistinctArguments : Bool :=
  d.argumentLists.all fun args => decide (args.map Prod.fst).Nodup

/-- No object names a field twice. -/
def hasDistinctObjectFields : Bool := d.literals.all Literal.hasDistinctFields

/-! ### What is referred to is known -/

/-- Every type that is referred to is defined; a definition of the type system may also refer
to the built-in types. -/
def knowsTypes : Bool :=
  let defined := d.typeDefinitions.map TypeDeclaration.name
  d.all fun x => x.typeNames.all fun n =>
    defined.contains n || (!x.isExecutable && Builtin.isType n)

/-- Every extension extends a type that is defined with the same kind. -/
def extendsDefinedTypes : Bool :=
  d.typeExtensions.all fun e =>
    d.typeDefinitions.any fun t => t.name = e.name && t.body.keyword = e.body.keyword

/-! ### Directives -/

/-- What is known of a directive: where it may stand, whether more than once, its arguments and
those it needs. -/
structure Known where
  name : String
  locations : List String
  repeatable : Bool
  arguments : List String
  required : List String

/-- What a definition of a directive says. -/
def known (x : DirectiveDeclaration) : Known :=
  { name := x.name
    locations := x.locations
    repeatable := x.repeatable
    arguments := x.arguments.map InputDeclaration.name
    required := (x.arguments.filter fun a => a.type.isNonNull && a.default.isNone).map
      InputDeclaration.name }

/-- What is known of the directive called `name`: its own definition comes first. -/
def known? (name : String) : Option Known :=
  let builtin : List Known :=
    Builtin.directives.map fun b => ⟨b.name, b.locations, false, b.arguments, b.required⟩
  (d.directiveDefinitions.map known ++ builtin).find? fun k => k.name = name

/-- Whether a directive may stand at a place with the arguments it is given. -/
def admits (location : String) (x : Directive) : Bool :=
  match d.known? x.name with
  | none => false
  | some k =>
    k.locations.contains location &&
      (x.arguments.all fun a => k.arguments.contains a.1) &&
      k.required.all fun r => x.arguments.any fun a => a.1 = r

/-- Every directive may stand where it stands. -/
def admitsDirectives : Bool := d.applied.all fun a => a.directives.all (d.admits a.location)

/-- Whether no directive that may stand once only is listed twice. -/
def repeatsNothing (ds : List Directive) : Bool :=
  decide ((ds.map Directive.name).filter fun n => (d.known? n).any fun k => !k.repeatable).Nodup

/-- The directives applied to the schema by its definitions and extensions together. -/
def schemaDirectives : List Directive := d.flatMap fun
  | .schema s => s.directives
  | .extendSchema s => s.directives
  | _ => []

/-- The directives applied to the type called `name` by its definitions and extensions together. -/
def typeDirectives (name : String) : List Directive :=
  (d.typeParts.filter fun t => t.name = name).flatMap TypeDeclaration.directives

/-- No directive that may stand once only is applied twice to one thing. -/
def repeatsNoDirective : Bool :=
  d.repeatsNothing d.schemaDirectives &&
    (d.typeParts.all fun t => d.repeatsNothing (d.typeDirectives t.name)) &&
    (d.all fun x => !x.isExecutable || d.repeatsNothing x.directives) &&
    (d.flatMap Definition.appliedBelow).all fun a => d.repeatsNothing a.directives

/-! ### All rules -/

/-- Whether the definitions of a document can make up a schema. -/
def isValid : Bool :=
  d.hasLoneSchema && d.hasDistinctRoots && d.hasDistinctTypes && d.hasDistinctDirectives &&
    d.hasDistinctParts && d.hasDistinctDeclaredArguments && d.hasDistinctArguments &&
    d.hasDistinctObjectFields && d.knowsTypes && d.extendsDefinedTypes && d.admitsDirectives &&
    d.repeatsNoDirective

end GraphScribe.Document
