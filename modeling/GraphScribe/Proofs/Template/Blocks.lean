import GraphScribe.Proofs.Template.Nodes
import GraphScribe.Proofs.TypeScript.Styled
import GraphScribe.Template.Rendering

/-!
# Blocks for directives

A block that is called for a directive is rendered where the directive is applied
(`Template.run_block`).  Its parameter stands for the arguments of the first usage: it reads them
under their keys, and as parts unless their names are those of operations
(`Template.block_reads_arguments`).
-/

namespace GraphScribe.Template

open TypeScript Styled

/-! ### Variables of a block -/

namespace Scope

variable {vs rest : Assoc Datum} {name : String} {d : Datum}

theorem lastAlike?_eq_none (h : ∀ v ∈ vs, Text.alike v.1 name = false) :
  lastAlike? vs name = none
  := by
  rw [lastAlike?, Option.map_eq_none_iff, List.find?_eq_none]
  intro v hv
  simp [h v (List.mem_reverse.mp hv)]

theorem lastAlike?_cons (h : ∀ v ∈ rest, Text.alike v.1 name = false) :
  lastAlike? ((name, d) :: rest) name = some d
  := by
  have hrest := Option.map_eq_none_iff.mp (lastAlike?_eq_none h)
  rw [lastAlike?, List.reverse_cons, List.find?_append, hrest]
  simp [Text.alike_refl]

/-- A variable that is set first stands for what it is set to, unless one that looks like it is set
after it or looked up. -/
theorem datum_enter (scope : Scope) (remnant : Datum) {names : List String}
    (hrest : ∀ v ∈ rest, Text.alike v.1 name = false)
    (hnames : ∀ n ∈ names, Text.alike n name = true → n = name) :
  (scope.enter remnant ((name, d) :: rest) names []).datum name = d
  := by
  have hread : lastAlike? (scope.lookedUp (((name, d) :: rest ++ []).map Prod.fst) names ++ []) name
      = none := by
    rw [List.append_nil]
    apply lastAlike?_eq_none
    intro v hv
    obtain ⟨n, hn, rfl⟩ := List.mem_map.mp hv
    obtain ⟨hn, hnew⟩ := List.mem_filter.mp (List.mem_eraseDups.mp hn)
    rw [Bool.eq_false_iff]
    intro halike
    simp [hnames n hn halike] at hnew
  have hown : ownDatum remnant
        (scope.lookedUp (((name, d) :: rest ++ []).map Prod.fst) names ++ [])
        ((lastAlike? ((name, d) :: rest) name).getD d) name = d := by
    rw [ownDatum, hread, lastAlike?_cons hrest]
    rfl
  have hknown : (scope.enter remnant ((name, d) :: rest) names []).known.find? name
      = some d := by
    refine Eq.trans (if_pos rfl) ?_
    rw [hown]
  rw [datum, hknown]
  rfl

end Scope

/-- The parameter of a block stands for the arguments that the block is given. -/
theorem datum_blockScope {p : String} {ps : List String} {body : List Piece} (scope : Scope)
    (arguments : Assoc Value)
    (hdiffer : allDiffer (p :: ps ++ surplus (p :: ps) body) = true)
    (hreads : ∀ name ∈ ownReads body, Text.alike name p = true → name = p) :
  (blockScope scope (p :: ps) body (some arguments)).datum p = .value (.object arguments)
  := by
  rw [List.cons_append, allDiffer, Bool.and_eq_true, List.all_eq_true] at hdiffer
  apply Scope.datum_enter scope .missing _ hreads
  intro v hv
  have hmem : v.1 ∈ ps ++ surplus (p :: ps) body := by
    rcases List.mem_append.mp hv with hv | hv <;> obtain ⟨n, hn, rfl⟩ := List.mem_map.mp hv
    · apply List.mem_append_left _ hn
    · apply List.mem_append_right _ hn
  rw [Text.alike_comm]
  simpa using hdiffer.1 v.1 hmem

/-! ### Parts of arguments -/

variable {arguments : Assoc Value} {key : String} {v : Value}

theorem attribute?_object :
  (Datum.value (.object arguments)).attribute? key
    = if (Datum.value (.object arguments)).hasOperation key then
        some (.operation (.value (.object arguments)) key)
      else none
  := rfl

theorem member_object :
  (Datum.value (.object arguments)).member key
    = .ok (((Datum.value (.object arguments)).attribute? key
        <|> Datum.entry? (.value (.object arguments)) (.string key)).getD .missing)
  := rfl

theorem hasOperation_eq_false (h : DirectiveUsage.isOperation key = false) :
  (Datum.value (.object arguments)).hasOperation key = false
  := by
  rw [DirectiveUsage.isOperation, Bool.or_eq_false_iff, List.any_eq_false] at h
  rw [Datum.hasOperation, Bool.or_eq_false_iff, List.any_eq_false]
  use h.1
  intro n hn
  have hsubset : sharedOperations ⊆ DirectiveUsage.reservedOperations := by decide
  apply h.2 n (hsubset hn)

theorem keyed_arguments (h : arguments.find? key = some v) :
  Datum.entry? (.value (.object arguments)) (.string key) = some (.value v)
  := by
  change (arguments.find? key).map Datum.value = _
  rw [h]
  rfl

/-- Under a key arguments have the value that is entered there. -/
theorem item_arguments (h : arguments.find? key = some v) :
  (Datum.value (.object arguments)).item (.value (.string key)) = .ok (.value v)
  := by
  have hentry : Datum.entry? (.value (.object arguments)) (.value (.string key))
      = some (.value v) := keyed_arguments h
  simp [Datum.item, hentry]

/-- As a part arguments have the value that is entered there, unless it has the name of an operation
of mappings. -/
theorem member_arguments (h : arguments.find? key = some v)
    (hkey : DirectiveUsage.isOperation key = false) :
  (Datum.value (.object arguments)).member key = .ok (.value v)
  := by
  rw [member_object, attribute?_object, hasOperation_eq_false hkey, keyed_arguments h]
  rfl

/-- As a part arguments have the operations of mappings, whatever is entered. -/
theorem member_operation (hkey : key ∈ DirectiveUsage.mappingOperations) :
  (Datum.value (.object arguments)).member key
    = .ok (.operation (.value (.object arguments)) key)
  := by
  have hoperation : (Datum.value (.object arguments)).hasOperation key = true := by
    rw [Datum.hasOperation, Bool.or_eq_true]
    apply Or.inl (List.elem_eq_true_of_mem hkey)
  rw [member_object, attribute?_object, hoperation]
  rfl

/-- A variable stands for some arguments.  Under the key of an argument its value is read, and as a
part too unless the argument has the name of an operation of mappings, which is read instead. -/
structure ReadsArguments (env : Environment) (scope : Scope) (var : String)
    (arguments : Assoc Value) : Prop where
  datum : scope.datum var = .value (.object arguments)
  item : ∀ key v style, arguments.find? key = some v →
    ((Expr.item (.var var) (.constant (.string key))).eval env scope).run style
      = .ok (.value v, style)
  member : ∀ key v style, arguments.find? key = some v →
    DirectiveUsage.isOperation key = false →
    ((Expr.member (.var var) key).eval env scope).run style = .ok (.value v, style)
  operation : ∀ key ∈ DirectiveUsage.mappingOperations, ∀ style,
    ((Expr.member (.var var) key).eval env scope).run style
      = .ok (.operation (.value (.object arguments)) key, style)

theorem readsArguments_of_datum {env : Environment} {scope : Scope} {var : String}
    (h : scope.datum var = .value (.object arguments)) :
  ReadsArguments env scope var arguments
  := by
  have hlook : ∀ style, ((Expr.var var).eval env scope).run style
      = .ok (.value (.object arguments), style) := by
    intro style
    change Except.ok ((scope.datum var).settle style.primitives, style) = _
    rw [h]
    rfl
  have hmember : ∀ key style, ((Expr.member (.var var) key).eval env scope).run style
      = (fun d => (d, style)) <$> (Datum.value (.object arguments)).member key := by
    intro key style
    rw [Expr.eval, StateT.run_bind, hlook]
    rfl
  constructor
  case datum => apply h
  case item =>
    intro key v style hfind
    rw [Expr.eval, StateT.run_bind, hlook]
    change ((fun d => (d, style)) <$> (Datum.value (.object arguments)).item _) = _
    rw [item_arguments hfind]
    rfl
  case member =>
    intro key v style hfind hkey
    rw [hmember, member_arguments hfind hkey]
    rfl
  case operation =>
    intro key hkey style
    rw [hmember, member_operation hkey]
    rfl

/-! ### Blocks -/

section

variable {env : Environment} {scope : Scope} {ps : List String} {function : Expr}
  {arguments : List Expr} {body : List Piece} {n : Node} {directive : String}
  {style style₁ style₂ : Style}

/-- A block that is called for a directive on a node answers the usages of the node. -/
theorem run_block (hf : (function.eval env scope).run style = .ok (.function blockFunction, style₁))
    (ha : (evalAll env scope arguments).run style₁
      = .ok ([.node n, .value (.string directive)], style₂)) :
  ((Piece.block ps function arguments body).render env scope).run style
    = (DirectiveUsage.call n.usages directive (some
        { takesArguments := !ps.isEmpty
          render := fun given => render env (blockScope scope ps body given) body })).run style₂
  := by
  rw [Piece.render, StateT.run_bind, hf]
  change ((evalAll env scope arguments).run style₁ >>= _) = _
  rw [ha]
  rfl

/-- A block with a parameter that is called for a directive on a node of the model of a schema is
rendered with the arguments of the first directive of the name that the schema applies there.  Each
of them has the value that is given for it last, and the parameter reads it under its key, and as a
part unless an operation of mappings has its name. -/
theorem block_reads_arguments {s : Schema} {m : Model} (hs : Model.ofSchema s = .ok m)
    (hn : n ∈ m.nodes) {u : DirectiveUsage} (hu : DirectiveUsage.first? n.usages directive = some u)
    (hf : (function.eval env scope).run style = .ok (.function blockFunction, style₁))
    (ha : (evalAll env scope arguments).run style₁
      = .ok ([.node n, .value (.string directive)], style₂))
    {p : String} (hdiffer : allDiffer (p :: ps ++ surplus (p :: ps) body) = true)
    (hreads : ∀ name ∈ ownReads body, Text.alike name p = true → name = p) :
  (∃ ds ∈ s.placedDirectives, ∃ d, (ds.find? fun d => d.name = directive) = some d ∧ d.usage = u
      ∧ ∀ key, u.arguments.find? key = (Assoc.last? d.arguments key).map Literal.toValue)
    ∧ (∀ key v, u.arguments.find? key = some v →
      u.argumentNamed key
        = .ok (if DirectiveUsage.isOperation key then .operation key else .value v))
    ∧ ((Piece.block (p :: ps) function arguments body).render env scope).run style
      = (render env (blockScope scope (p :: ps) body (some u.arguments)) body).run style₂
    ∧ ReadsArguments env (blockScope scope (p :: ps) body (some u.arguments)) p u.arguments
  := by
  obtain ⟨ts, hts⟩ := Model.exists_describedBy hs
  refine ⟨?_, ?_, ?_, readsArguments_of_datum (datum_blockScope scope u.arguments hdiffer hreads)⟩
  · obtain ⟨ds, hds, d, hd, rfl⟩ := hts.exists_directive hn hu
    exact ⟨ds, hds, d, hd, rfl, d.find?_usage⟩
  · intro key v hv
    rw [DirectiveUsage.argumentNamed, hv]
    split_ifs <;> rfl
  · rw [run_block hf ha]
    simp [DirectiveUsage.call, hu]

end

/-- A directive with an argument that is given twice, and with one that has the name of an operation
of mappings. -/
def markDirective : Directive where
  name := "mark"
  arguments := [("label", .string "old"), ("keys", .boolean false), ("label", .string "new")]

/-- A schema with a type to which a directive is applied twice. -/
def markedSchema : Schema where
  types :=
    [{ name := "Query", content := .object [] [{ name := "id", type := .named "ID" }]
       directives := [markDirective, { name := "mark" }] }]
  distinct := by decide

/-- The type in the model of `markedSchema`. -/
def markedType : ObjectType where
  name := "Query"
  fields := [{ name := "id", descriptor := { name := "ID" }, kind := .scalar }]
  directives := DirectiveUsage.ofDirectives [markDirective, { name := "mark" }]

/-- The model of `markedSchema`. -/
def markedModel : Model where
  types := [("Query", markedType)]

/-- An environment without templates. -/
def bareEnvironment : Environment where
  load _ := .error .templateMissing

/-- A scope in which a variable stands for the type. -/
def markedScope : Scope where
  start := ("t", .node (.type (.object markedType))) :: globals []

/-- A block for the directive. -/
def markedBlock (body : List Piece) : Piece :=
  .block ["args"] (.var "if_directive") [.var "t", .constant (.string "mark")] body

/-- A body that writes the argument that is given twice. -/
def labelBody : List Piece := [.output (.member (.var "args") "label")]

theorem block_reads_arguments_repeated :
  Model.ofSchema markedSchema = .ok markedModel
    ∧ markDirective.usage.arguments.find? "label" = some (.string "new")
    ∧ ReadsArguments bareEnvironment
      (blockScope markedScope ["args"] labelBody (some markDirective.usage.arguments)) "args"
      markDirective.usage.arguments
    ∧ ((markedBlock labelBody).render bareEnvironment markedScope).run {} = .ok ("new", {})
  := by
  have hs : Model.ofSchema markedSchema = .ok markedModel := rfl
  have hn : .type (.object markedType) ∈ markedModel.nodes := .tail _ (.head _)
  have hu : DirectiveUsage.first? (Node.type (.object markedType)).usages "mark"
      = some markDirective.usage := rfl
  have hf : ((Expr.var "if_directive").eval bareEnvironment markedScope).run {}
      = .ok (.function blockFunction, {}) := rfl
  have ha : (evalAll bareEnvironment markedScope [.var "t", .constant (.string "mark")]).run {}
      = .ok ([.node (.type (.object markedType)), .value (.string "mark")], {}) := rfl
  have hdiffer : allDiffer (["args"] ++ surplus ["args"] labelBody) = true := by decide
  have hreads : ∀ name ∈ ownReads labelBody, Text.alike name "args" = true → name = "args" := by
    intro name hname _
    apply List.mem_singleton.mp hname
  obtain ⟨-, -, hrun, hreads⟩ := block_reads_arguments hs hn hu hf ha hdiffer hreads
  use hs, rfl, hreads
  apply hrun.trans
  rfl

/-- An argument that has the name of an operation of mappings is not read as a part: its value does
not count as true, but the operation that is read does. -/
theorem block_reads_operation :
  Model.ofSchema markedSchema = .ok markedModel
    ∧ .type (.object markedType) ∈ markedModel.nodes
    ∧ DirectiveUsage.first? (Node.type (.object markedType)).usages "mark"
      = some markDirective.usage
    ∧ markDirective.usage.arguments.find? "keys" = some (.bool false)
    ∧ markDirective.usage.argumentNamed "keys" = .ok (.operation "keys")
    ∧ ((markedBlock [.branch (.member (.var "args") "keys") [.text "yes"] [.text "no"]]).render
        bareEnvironment markedScope).run {} = .ok ("yes", {})
    ∧ ((markedBlock [.branch (.item (.var "args") (.constant (.string "keys"))) [.text "yes"]
        [.text "no"]]).render bareEnvironment markedScope).run {} = .ok ("no", {})
  := ⟨rfl, .tail _ (.head _), rfl, rfl, rfl, rfl, rfl⟩

end GraphScribe.Template
