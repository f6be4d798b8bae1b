import GraphScribe.Failure
import GraphScribe.Schema.Basic

/-!
# Reading literals at types

`Literal.readAt` reads a literal as a value of a type.  The `InputForm` of a named type says
which literals stand for its values.  A literal that does not fit has no value, which is no
failure; to read a literal at a type that is no input type is one.
-/

namespace GraphScribe

/-- Which literals stand for the values of a named type.  The fields of an input type are looked at
only where a literal names fields, and made once; `isChoice` says that exactly one of them is
given. -/
inductive InputForm where
  | int
  | float
  | string
  | boolean
  | id
  | any
  | enum (values : List String)
  | object (isChoice : Bool) (fields : Thunk (Except Failure (List InputValue)))
deriving Inhabited

/-- The forms of the types that take literals, under their names. -/
abbrev InputForms := Assoc InputForm

/-- The form of the type called `name`, which has to take literals. -/
def InputForms.at (forms : InputForms) (name : String) : Except Failure InputForm :=
  match forms.find? name with
  | some form => .ok form
  | none => .error .invalidSchema

/-- A way to read one literal at whatever type: the value, if it fits. -/
abbrev ReadAt := TypeRef → Except Failure (Option Value)

namespace InputForm

/-- The form of a built-in scalar. -/
def ofScalar : String → InputForm
  | "Int" => int
  | "Float" => float
  | "String" => string
  | "Boolean" => boolean
  | "ID" => id
  | _ => any

/-- Whether an integer fits into thirty-two bits. -/
def fitsWord (n : Int) : Bool := -0x80000000 ≤ n && n < 0x80000000

/-- The value of a literal without parts. -/
def read (form : InputForm) (l : Literal) : Option Value :=
  match form, l with
  | int, .int t =>
    match Numeral.intOfText? t with
    | some n => if fitsWord n then some (.int n) else none
    | none => none
  | float, .int t => some (.float (Numeral.doubleOfText t))
  | float, .float t => some (.float (Numeral.doubleOfText t))
  | string, .string t => some (.string t)
  | string, .block t => some (.string t)
  | boolean, .boolean b => some (.bool b)
  | id, .string t => some (.string t)
  | id, .block t => some (.string t)
  | id, .int t => some (.string t)
  | enum values, .enum name => if values.contains name then some (.string name) else none
  | any, l => some l.toValue
  | _, _ => none

end InputForm

namespace Literal

/-- Reads a single literal: at a list type it stands for the list of it. -/
def readSingle (read : String → Except Failure (Option Value)) : ReadAt
  | .named name => read name
  | .nonNull t => readSingle read t
  | .list t => do
    let v ← readSingle read t
    return v.map fun v => .list [v]

/-- Reads the items of a list; a variable, which has no reader, is null where null is admitted. -/
def readItems (item : TypeRef) : List (Option ReadAt) → Except Failure (Option (List Value))
  | [] => return some []
  | none :: rest =>
    if item.isNonNull then return none
    else return (← readItems item rest).map (.null :: ·)
  | some read :: rest => do
    match ← read item with
    | none => return none
    | some v => return (← readItems item rest).map (v :: ·)

/-- Reads a list literal.  The type of a list takes its items; else it is an untyped value. -/
def readList (forms : InputForms) (l : Literal) (items : List (Option ReadAt)) : ReadAt
  | .named name => do return (← forms.at name).read l
  | .nonNull t => readList forms l items t
  | .list t => do return (← readItems t items).map .list

/-- Reads the fields of an object in the order of their declarations.  A field that is absent,
or given by a variable, has its default; without one it must admit null. -/
def readFields (given : Assoc (Option ReadAt)) :
    List InputValue → Except Failure (Option (List (String × Value)))
  | [] => return some []
  | f :: rest => do
    match (given.find? f.name).join, f.default with
    | some read, _ =>
      match ← read f.type with
      | none => return none
      | some v => return (← readFields given rest).map ((f.name, v) :: ·)
    | none, some v => return (← readFields given rest).map ((f.name, v) :: ·)
    | none, none => if f.type.isNonNull then return none else readFields given rest

/-- Whether a single entry is given, and not null. -/
def isSingleChoice : List (String × Value) → Bool
  | [(_, v)] => !v.isNull
  | _ => false

/-- Reads an object at a named type. -/
def readObject (forms : InputForms) (l : Literal) (given : Assoc (Option ReadAt)) (name : String) :
    Except Failure (Option Value) := do
  match ← forms.at name with
  | .object isChoice fields =>
    let entries? ← readFields given (← fields.get)
    return (entries?.filter fun entries => !isChoice || isSingleChoice entries).map .object
  | form => return form.read l

mutual

/-- Reads a literal at a type.  A variable has no value. -/
def readAt (forms : InputForms) : Literal → ReadAt
  | var _ => fun _ => return none
  | null => fun t => return if t.isNonNull then none else some .null
  | list items => readList forms (list items) (itemReaders forms items)
  | object fields =>
    readSingle (readObject forms (object fields) (Assoc.ofList (fieldReaders forms fields)))
  | int t => readSingle fun name => return (← forms.at name).read (int t)
  | float t => readSingle fun name => return (← forms.at name).read (float t)
  | string t => readSingle fun name => return (← forms.at name).read (string t)
  | block t => readSingle fun name => return (← forms.at name).read (block t)
  | boolean b => readSingle fun name => return (← forms.at name).read (boolean b)
  | enum n => readSingle fun name => return (← forms.at name).read (enum n)

/-- A reader for each item that is no variable. -/
def itemReaders (forms : InputForms) : List Literal → List (Option ReadAt)
  | [] => []
  | var _ :: rest => none :: itemReaders forms rest
  | l :: rest => some (readAt forms l) :: itemReaders forms rest

/-- A reader for each field that is no variable. -/
def fieldReaders (forms : InputForms) : List (String × Literal) → List (String × Option ReadAt)
  | [] => []
  | (name, var _) :: rest => (name, none) :: fieldReaders forms rest
  | (name, l) :: rest => (name, some (readAt forms l)) :: fieldReaders forms rest

end

end Literal

end GraphScribe
