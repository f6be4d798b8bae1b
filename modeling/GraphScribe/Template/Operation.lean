import GraphScribe.Model.Usages
import GraphScribe.Template.Datum

/-!
# Operations

Data have operations under names of their own, which a template can name and ask for but hardly
use: they count as true and have no items.  `Datum.hasOperation` tells which names those are for
each sort of datum.
-/

namespace GraphScribe.Template

/-- The operations of texts. -/
def textOperations : List String :=
  ["capitalize", "casefold", "center", "count", "encode", "endswith", "expandtabs", "find",
    "format", "format_map", "index", "isalnum", "isalpha", "isascii", "isdecimal", "isdigit",
    "isidentifier", "islower", "isnumeric", "isprintable", "isspace", "istitle", "isupper",
    "join", "ljust", "lower", "lstrip", "maketrans", "partition", "removeprefix",
    "removesuffix", "replace", "rfind", "rindex", "rjust", "rpartition", "rsplit", "rstrip",
    "split", "splitlines", "startswith", "strip", "swapcase", "title", "translate", "upper",
    "zfill"]

/-- The operations of lists. -/
def listOperations : List String :=
  ["append", "clear", "copy", "count", "extend", "index", "insert", "pop", "remove", "reverse",
    "sort"]

/-- The operations of integers. -/
def integerOperations : List String :=
  ["as_integer_ratio", "bit_count", "bit_length", "conjugate", "from_bytes", "to_bytes"]

/-- The operations of other numbers. -/
def fractionOperations : List String :=
  ["as_integer_ratio", "conjugate", "fromhex", "hex", "is_integer"]

/-- The operations that a node has. -/
def Node.operations : Node → List String
  | model _ => ["get_type", "kind_of", "root_type", "possible_types", "all_names"]
  | descriptor _ => ["with_name"]
  | shape _ => ["iter_shapes"]
  | batch _ => ["get_operation", "get_fragment"]
  | _ => []

/-- The operations of a value under plain names. -/
def valueOperations : Value → List String
  | .bool _ => integerOperations
  | .int _ => integerOperations
  | .float _ => fractionOperations
  | .string _ => textOperations
  | .list _ => listOperations
  | .object _ => DirectiveUsage.mappingOperations
  | _ => []

/-- The operations of a datum under plain names. -/
def Datum.operations : Datum → List String
  | value v => valueOperations v
  | node n => n.operations
  | list _ => listOperations
  | row _ => ["count", "index"]
  | map _ => DirectiveUsage.mappingOperations
  | round _ _ _ _ => ["cycle", "changed"]
  | _ => []

/-- The operations that all data have, under reserved names. -/
def sharedOperations : List String :=
  ["class", "delattr", "dir", "doc", "eq", "format", "ge", "getattribute", "getstate", "gt",
    "hash", "init", "init_subclass", "le", "lt", "ne", "new", "reduce", "reduce_ex", "repr",
    "setattr", "sizeof", "str", "subclasshook"]

/-- Whether a datum has an operation under a name. -/
def Datum.hasOperation (d : Datum) (name : String) : Bool :=
  d.operations.contains name || sharedOperations.any fun n => name = "__" ++ n ++ "__"

end GraphScribe.Template
