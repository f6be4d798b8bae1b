import GraphScribe.Document.Basic
import GraphScribe.Failure
import GraphScribe.Model.Basic

/-!
# Directive usages

`Directive.usage` evaluates the arguments of an applied directive.  `DirectiveUsage.first?`
finds the first usage of a directive among several, and `DirectiveUsage.call` answers a block
that is to be rendered only where a directive is applied.
-/

namespace GraphScribe

/-- A directive as it is applied, with the values of its arguments. -/
def Directive.usage (d : Directive) : DirectiveUsage :=
  { name := d.name, arguments := Assoc.ofList (d.arguments.map fun a => (a.1, a.2.toValue)) }

namespace DirectiveUsage

/-- The usages of directives, in order. -/
def ofDirectives (ds : List Directive) : List DirectiveUsage := ds.map Directive.usage

/-- The first usage of the directive called `name`. -/
def first? (usages : List DirectiveUsage) (name : String) : Option DirectiveUsage :=
  usages.find? fun u => u.name = name

/-- Whether the directive called `name` is used. -/
def has (usages : List DirectiveUsage) (name : String) : Bool := (first? usages name).isSome

/-- What the arguments of a usage have under a name: the value of an argument, or one of the
operations that every mapping has. -/
inductive Attribute where
  | value (v : Value)
  | operation (name : String)

/-- The operations that every mapping has under plain names. -/
def mappingOperations : List String :=
  ["clear", "copy", "fromkeys", "get", "items", "keys", "pop", "popitem", "setdefault", "update",
    "values"]

/-- The operations that every mapping has under reserved names. -/
def reservedOperations : List String :=
  ["class", "class_getitem", "contains", "delattr", "delitem", "dict", "dir", "doc", "eq",
    "format", "ge", "getattribute", "getitem", "getstate", "gt", "hash", "init",
    "init_subclass", "ior", "iter", "le", "len", "lt", "module", "ne", "new", "or", "reduce",
    "reduce_ex", "repr", "reversed", "ror", "setattr", "setitem", "sizeof", "str",
    "subclasshook", "weakref", "getattr"]

/-- Whether every mapping has an operation called `name`. -/
def isOperation (name : String) : Bool :=
  mappingOperations.contains name || reservedOperations.any fun n => name = "__" ++ n ++ "__"

/-- What the arguments of a usage have under `name`: the operations of mappings come before the
arguments. -/
def argumentNamed (u : DirectiveUsage) (name : String) : Except Failure Attribute :=
  if isOperation name then .ok (.operation name)
  else
    match u.arguments.find? name with
    | some v => .ok (.value v)
    | none => .error .attributeMissing

/-- A block to be rendered: whether it takes the arguments of the usage, and its text for them. -/
structure Block (m : Type → Type) where
  takesArguments : Bool
  render : Option (Assoc Value) → m String

/-- The text of a block where the directive called `name` is used, nothing elsewhere.  A block
that takes arguments is given those of the first usage. -/
def call {m : Type → Type} [Monad m] (usages : List DirectiveUsage) (name : String)
    (block : Option (Block m)) : m String :=
  match first? usages name, block with
  | some u, some b => b.render (if b.takesArguments then some u.arguments else none)
  | _, _ => pure ""

end DirectiveUsage

end GraphScribe
