import GraphScribe.Proofs.Output.Partials
import GraphScribe.Proofs.Table

/-!
# Rendering the statements of a generator

If a generator finds its own partials, and no function takes the place of a filter
(`Generator.Bundled`), then what it renders are its statements, written one after another
(`Generator.of_render_eq_ok`).
-/

namespace GraphScribe

open Result TypeScript Styled Template

/-! ### Scopes -/

namespace Template.Scope

/-- The variables that partials set. -/
def locals : List String := ["type", "enum", "document", "operation", "fragment", "shape"]

/-- All variables but those that partials set are those of `start`. -/
structure Sees (start : Assoc Datum) (scope : Scope) : Prop where
  known : ∀ name ∉ locals, scope.known.find? name = none
  own : ∀ name ∉ locals, scope.own.find? name = none
  start : ∀ name ∉ locals, scope.start.find? name = start.find? name

variable {start : Assoc Datum} {scope : Scope}

theorem sees_start :
  Sees start { start }
  := by
  constructor
  case known => intro name _; rfl
  case own => intro name _; rfl
  case start => intro name _; rfl

theorem Sees.datum_eq (h : Sees start scope) {name : String} (hname : name ∉ locals) :
  scope.datum name = (start.find? name).getD .missing
  := by
  rw [datum, h.known name hname, h.start name hname]
  rfl

theorem Sees.set (h : Sees start scope) {var : String} (hvar : var ∈ locals) (d : Datum) :
  Sees start (scope.set var d)
  := by
  have hne : ∀ name ∉ locals, var ≠ name := by
    rintro name hname rfl
    apply hname hvar
  constructor
  case known =>
    intro name hname
    rw [Scope.set, Assoc.find?_cons, if_neg (hne name hname)]
    apply h.known name hname
  case own =>
    intro name hname
    rw [Scope.set, Assoc.find?_cons, if_neg (hne name hname)]
    apply h.own name hname
  case start => apply h.start

/-- What is included sees the same variables. -/
theorem Sees.handed (h : Sees start scope) :
  Sees start { start := scope.handed }
  := by
  constructor
  case known => intro name _; rfl
  case own => intro name _; rfl
  case start =>
    intro name hname
    have hown := h.own name hname
    rw [Assoc.find?_eq_none_iff] at hown
    change (scope.handed).find? name = _
    rw [Scope.handed, Assoc.find?_append, Assoc.find?_eq_none_iff.mpr, Option.none_or,
      h.start name hname]
    intro hmem
    apply hown
    apply List.Sublist.subset (List.filter_sublist.map _) hmem

/-- A node in a variable is there in what is included. -/
theorem datum_handed_set (var : String) (n : Node) :
  ({ start := (scope.set var (.node n)).handed } : Scope).datum var = .node n
  := by
  simp [datum, Scope.set, Scope.handed, Assoc.find?_cons]

end Template.Scope

/-! ### Generators that find their partials -/

namespace Generator

variable {g : Generator}

/-- The generator finds its own partials, and no function takes the place of a filter. -/
structure Bundled (g : Generator) : Prop where
  found : ∀ p : Partial, g.find? p.templateName = some (.own p)
  kept : Filter.Kept g.helpers

/-- The helpers that a configuration gives are no functions. -/
theorem kept_of_helpersOf {v : Value} {helpers : Assoc Helper} (h : helpersOf v [] = .ok helpers) :
  Filter.Kept helpers
  := by
  intro name _ f hfind
  cases v <;> cases h
  case object.refl entries =>
    obtain ⟨e, -, heq⟩ := List.mem_map.mp (Assoc.mem_of_find?_eq_some hfind)
    cases heq

/-- A generator that is made without templates and functions of its own finds its own partials. -/
theorem bundled_of_make {m : Model} {c : Config} {batches : List Batch} {hooks : Hooks}
    {templatesIn : String → Except Failure (String → Option String)}
    (htemplates : c.templates.isTruthy = false) (hdirectory : c.templateDir.isTruthy = false)
    (h : make m c batches hooks [] templatesIn = .ok g) :
  g.Bundled
  := by
  have hsources : sourcesOf c.templates = .ok [] := by simp [sourcesOf, htemplates]
  have hfiles : filesOf templatesIn c.templateDir = .ok fun _ => none := by
    simp [filesOf, hdirectory]
  rw [make, hsources, hfiles] at h
  change (do
    let helpers ← helpersOf c.customHelpers []
    return ({ model := m, config := c, batches, hooks, helpers } : Generator)) = .ok g at h
  obtain ⟨helpers, hhelpers, h⟩ := bind_eq_ok_iff.mp h
  cases h
  constructor
  case found =>
    intro p
    have hown : partialNamed? p.templateName = some p := by cases p <;> decide
    simp [find?, hown]
  case kept =>
    apply kept_of_helpersOf hhelpers

/-- What templates are rendered with that include others at most `depth` deep. -/
def environment (g : Generator) (depth : Nat) : Environment :=
  { helpers := g.helpers, load := g.load depth }

theorem load_partial (hb : g.Bundled) (p : Partial) (depth : Nat) :
  g.load (depth + 1) p.templateName
    = do
      demand g.helpers p.needs
      return fun start => p.text (g.environment depth) { start }
  := by
  rw [load, hb.found p]
  rfl

/-- What is included is the partial itself. -/
theorem follows_included (hb : g.Bundled) (p : Partial) (depth : Nat) (scope : Scope) :
  Follows (p.included (g.environment (depth + 1)) scope)
    (p.text (g.environment depth) { start := scope.handed })
  := by
  change Follows (liftM (g.load (depth + 1) p.templateName) >>= fun write => write scope.handed) _
  rw [load_partial hb]
  cases demand g.helpers p.needs with
  | error e =>
    apply follows_of_error
    intro _
    exact ⟨_, rfl⟩
  | ok u => apply Follows.refl

end Generator

/-! ### Settings -/

/-- What is found is found as well when other values are put in place of some. -/
theorem Table.find?_map_eq_some {α : Type} {t : Table α} {f : Value × α → Value × α}
    (hkey : ∀ e, (f e).1 = e.1) {value : α} (hvalue : ∀ key, (f (key, value)).2 = value)
    {key : Value} (h : t.find? key = some value) :
  Table.find? (t.map f) key = some value
  := by
  induction t with
  | nil => cases h
  | cons e rest ih =>
    rw [find?_cons] at h
    rw [List.map_cons, find?_cons, hkey]
    split_ifs at h ⊢ with hfound
    · cases h
      rw [hvalue]
    · apply ih h

/-- A key that has an entry keeps one when others are entered, either its own or one of them. -/
theorem Table.exists_find?_insertAll {α : Type} {t : Table α} {key : Value} {value : α}
    (h : t.find? key = some value) (entries : List (Value × α)) :
  ∃ found, (t.insertAll entries).find? key = some found
    ∧ (found = value ∨ found ∈ entries.map Prod.snd)
  := by
  rw [Table.find?_insertAll, h]
  cases hlast : Table.last? entries key with
  | none => exact ⟨value, rfl, Or.inl rfl⟩
  | some found =>
    have hmem := Table.mem_of_find?_eq_some hlast
    rw [List.map_reverse, List.mem_reverse] at hmem
    exact ⟨found, rfl, Or.inr hmem⟩

/-- The layout that the settings ask for which templates see. -/
def Layout.ofSettings (exposed : Table Datum) (marker : String) : Layout where
  flatten := ((exposed.find? (.string "flatten_types")).getD .missing).isTruthy
  enumsAsTypes := ((exposed.find? (.string "enums_as_types")).getD .missing).isTruthy
  marker

/-- Among what templates see of the settings, the primitives alone are no values. -/
theorem Config.exists_of_expose {c : Config} {exposed : Table Datum}
    (h : c.expose Datum.primitives Datum.value = .ok exposed) {name : String}
    (hname : name ∈ ["flatten_types", "enums_as_types"]) :
  ∃ v, exposed.find? (.string name) = some (.value v)
  := by
  obtain ⟨options, -, h⟩ := bind_eq_ok_iff.mp h
  cases h
  have hsettings : ∃ v, (Table.ofNamed
      [("immutable_types", Datum.value c.immutableTypes),
        ("avoid_optionals", .value c.avoidOptionals), ("enums_as_types", .value c.enumsAsTypes),
        ("flatten_types", .value c.flattenTypes), ("primitives", .primitives),
        ("out_file", .value c.outFile)]).find? (.string name) = some (.value v) := by
    rcases List.mem_pair.mp hname with rfl | rfl
    · use c.flattenTypes
      rfl
    · use c.enumsAsTypes
      rfl
  obtain ⟨v, hv⟩ := hsettings
  obtain ⟨found, hfound, rfl | hmem⟩ :=
    Table.exists_find?_insertAll hv (options.mapValues Datum.value)
  · use v, hfound
  · obtain ⟨e, he, rfl⟩ := List.mem_map.mp hmem
    obtain ⟨e', -, rfl⟩ := List.mem_map.mp he
    use e'.2, hfound

/-- What has the name of no operation is looked up in the entries of a mapping. -/
theorem Datum.member_map {entries : Table Datum} {name : String}
    (hname : (Datum.map entries).hasOperation name = false) :
  (Datum.map entries).member name = .ok ((entries.find? (.string name)).getD .missing)
  := by
  change Except.ok ((((none : Option Datum) <|> if (Datum.map entries).hasOperation name then
    some (Datum.operation (.map entries) name) else none) <|> entries.find? (.string name)).getD
      .missing) = _
  rw [hname]
  rfl

/-- A setting that is a value does not depend on the primitives. -/
theorem Partial.setting_eq_pure {scope : Scope} {exposed : Table Datum}
    (hconfig : scope.datum "config" = .map exposed) {name : String} {v : Value}
    (hfind : exposed.find? (.string name) = some (.value v))
    (hname : (Datum.map exposed).hasOperation name = false) :
  Partial.setting scope name = pure (.value v)
  := by
  funext s
  have hsettled : ((Datum.map exposed).settle s.primitives).member name = .ok (.value v) := by
    rw [Datum.settle, Datum.member_map, Table.find?_map_eq_some ?_ ?_ hfind]
    · rfl
    · intro e
      rfl
    · intro key
      rfl
    · apply hname
  change (liftM (((scope.datum "config").settle s.primitives).member name) : Styled Datum) s = _
  rw [hconfig, hsettled]
  rfl

/-! ### The whole output -/

namespace Generator

open Partial

section

variable {g : Generator} {exposed : Table Datum} {whole : Bool} {scope : Scope}

/-- The layout of what a generator writes. -/
def layout (g : Generator) (exposed : Table Datum) : Layout :=
  .ofSettings exposed (Style.ofConfig g.config).readonly

/-- What the scope of a partial shows while a generator renders its index. -/
def Shows (g : Generator) (exposed : Table Datum) (whole : Bool) (scope : Scope) : Prop :=
  Scope.Sees (g.start g.model exposed whole) scope

theorem Shows.datum_eq (h : g.Shows exposed whole scope) {name : String} {d : Datum}
    (hname : name ∉ Scope.locals) (hd : (g.start g.model exposed whole).find? name = some d) :
  scope.datum name = d
  := by
  rw [Scope.Sees.datum_eq h hname, hd]
  rfl

theorem Shows.look_eq (h : g.Shows exposed whole scope) {name : String} {items : List Datum}
    (hname : name ∉ Scope.locals)
    (hd : (g.start g.model exposed whole).find? name = some (.list items)) :
  look scope name = pure (.list items)
  := by
  apply look_eq_pure (h.datum_eq hname hd)
  intro _
  rfl

theorem Shows.setting_eq (h : g.Shows exposed whole scope)
    (hexposed : g.config.expose Datum.primitives Datum.value = .ok exposed) (name : String)
    (hname : name ∈ ["flatten_types", "enums_as_types"]) :
  ∃ d, setting scope name = pure d
    ∧ d.isTruthy = ((exposed.find? (.string name)).getD .missing).isTruthy
  := by
  obtain ⟨v, hv⟩ := Config.exists_of_expose hexposed hname
  use .value v
  constructor
  · apply setting_eq_pure (h.datum_eq (by decide) rfl) hv
    rcases List.mem_pair.mp hname with rfl | rfl <;> rfl
  · rw [hv]
    rfl

/-- What is written for some nodes one after another are the statements for them. -/
theorem follows_joined_statements {α : Type} {node : α → Node} {statement : α → Statement}
    {xs : List α} {items : Datum} {write : Datum → Styled String} {l : Layout}
    (hitems : items.iterated = .ok (xs.map fun x => .node (node x)))
    (h : ∀ x, Follows (write (.node (node x))) (Statement.write l (statement x))) :
  Follows (joined items write) (Statement.writeAll l (xs.map statement))
  := by
  rw [joined, hitems, lift_ok, pure_bind, Statement.writeAll, List.mapM_map, List.mapM_map]
  apply Follows.bind
  · apply Follows.mapM
    intro x _
    apply h x
  · intro texts
    apply Follows.refl

/-- What is included for some nodes, each in a variable, are the statements for them. -/
theorem follows_includedFor {α : Type} {node : α → Node} {statements : α → List Statement}
    {xs : List α} {items : Datum} {p : Partial} {env : Environment} {var : String} {l : Layout}
    (hitems : items.iterated = .ok (xs.map fun x => .node (node x)))
    (h : ∀ x, Follows (p.included env (scope.set var (.node (node x))))
      (Statement.writeAll l (statements x))) :
  Follows (p.includedFor env scope var items) (Statement.writeAll l (xs.flatMap statements))
  := by
  rw [includedFor, hitems, lift_ok, pure_bind, List.mapM_map, bind_pure_comp,
    ← Statement.join_mapM_writeAll]
  apply Follows.map
  apply Follows.mapM
  intro x _
  apply h x

/-- An object, interface or input type is included as its statement. -/
theorem follows_included_type (hb : g.Bundled) (depth : Nat) {t : NamedType}
    (hkind : t.kind = .object ∨ t.kind = .interface ∨ t.kind = .inputObject) (l : Layout) :
  Follows (type.included (g.environment (depth + 1)) (scope.set "type" (.node (.type t))))
    (Statement.writeAll l [t.statement])
  := by
  rw [Statement.writeAll_singleton]
  apply (follows_included hb type depth _).trans
  apply follows_typeText_type hb.kept (Scope.datum_handed_set "type" _) hkind

theorem follows_included_arguments (hb : g.Bundled) (depth : Nat) (t : ArgumentsType)
    (l : Layout) :
  Follows (type.included (g.environment (depth + 1)) (scope.set "type" (.node (.arguments t))))
    (Statement.writeAll l [t.statement])
  := by
  rw [Statement.writeAll_singleton]
  apply (follows_included hb type depth _).trans
  apply follows_typeText_arguments hb.kept (Scope.datum_handed_set "type" _)

/-- The types of some kind are included as their statements. -/
theorem follows_types (hb : g.Bundled) (depth : Nat) {α : Type} (make : α → NamedType)
    {registry : Assoc α} {kind : Kind}
    (hregistry : g.model.registryOf kind = registry.mapValues make)
    (hkind : kind = .object ∨ kind = .interface ∨ kind = .inputObject)
    (hmake : ∀ x, (make x).kind = kind) (l : Layout) :
  Follows (type.includedFor (g.environment (depth + 1)) scope "type"
      (.nodes (fun x => .type (make x)) registry.values))
    (Statement.writeAll l (g.model.statementsOf kind))
  := by
  rw [Model.statementsOf, hregistry, Assoc.values_mapValues, List.map_map, List.map_eq_flatMap]
  apply follows_includedFor rfl
  intro x
  apply follows_included_type hb depth
  rw [hmake]
  apply hkind

/-- The items of a registry are written as the statements for their kind. -/
theorem follows_joined_types {α : Type} (make : α → NamedType) {registry : Assoc α} {kind : Kind}
    (hregistry : g.model.registryOf kind = registry.mapValues make) {write : Datum → Styled String}
    {l : Layout}
    (hwrite : ∀ x, Follows (write (.node (.type (make x))))
      (Statement.write l (make x).statement)) :
  Follows (joined (.nodes (fun x => .type (make x)) registry.values) write)
    (Statement.writeAll l (g.model.statementsOf kind))
  := by
  rw [Model.statementsOf, hregistry, Assoc.values_mapValues, List.map_map]
  apply follows_joined_statements rfl hwrite

section

variable (hb : g.Bundled) (hexposed : g.config.expose Datum.primitives Datum.value = .ok exposed)

include hb hexposed

/-- A shape is included as its definition. -/
theorem follows_included_shape (hscope : g.Shows exposed whole scope) (depth : Nat) (s : Shape) :
  Follows (selectionSet.included (g.environment (depth + 1))
      (scope.set "shape" (.node (.shape s))))
    (s.definitionText (g.layout exposed).flatten (g.layout exposed).marker)
  := by
  have hinside : g.Shows exposed whole
      { start := (scope.set "shape" (.node (.shape s))).handed } :=
    (Scope.Sees.set hscope (by decide) _).handed
  obtain ⟨flatten, hsetting, hflatten⟩ := hinside.setting_eq hexposed "flatten_types" (by decide)
  apply (follows_included hb selectionSet depth _).trans
  apply follows_selectionSetText (Scope.datum_handed_set "shape" (.shape s)) hsetting hflatten
  apply hinside.datum_eq (by decide) rfl

/-- The shapes of a namespace are written as its definitions. -/
theorem follows_shapesText (hscope : g.Shows exposed whole scope) (depth : Nat) (d : Datum)
    (root : Shape) (hshapes : d.member "shapes" = .ok (.nodeRow .shape root.shapes))
    (hroot : d.member "root" = .ok (.node (.shape root))) :
  Follows (shapesText (g.environment (depth + 1)) scope d)
    (String.join <$> root.definitionTexts (g.layout exposed).flatten (g.layout exposed).marker)
  := by
  obtain ⟨flatten, hsetting, hflatten⟩ := hscope.setting_eq hexposed "flatten_types" (by decide)
  have hlayout : flatten.isTruthy = (g.layout exposed).flatten := hflatten
  rw [shapesText, hsetting, pure_bind, hlayout, Shape.definitionTexts, hshapes, hroot]
  split_ifs with hflat
  · change Follows (String.join <$> (root.shapes.map fun s => Datum.node (.shape s)).mapM _) _
    rw [List.mapM_map]
    apply Follows.map
    apply Follows.mapM
    intro s _
    have hshape := follows_included_shape hb hexposed hscope depth s
    rw [hflat] at hshape
    apply hshape
  · have hshape := follows_included_shape hb hexposed hscope depth root
    rw [Bool.not_eq_true] at hflat
    rw [hflat] at hshape
    simp only [bind_pure_comp, Functor.map_map, String.join_cons, String.join_nil,
      String.append_empty, id_map']
    apply hshape

theorem follows_operationText (hscope : g.Shows exposed whole scope) (depth : Nat)
    (n : OperationNamespace) :
  Follows (operationText (g.environment (depth + 1)) scope (.node (.operation n)))
    (Statement.write (g.layout exposed)
      (.space n.space (some (n.variableProperties.map fun p => p.slot false)) n.root))
  := by
  have hlines : Follows
      (joined (.nodeRow (fun p => .property p none) n.variableProperties)
        (variableText (g.environment (depth + 1))))
      (String.join <$> (n.variableProperties.map fun p => p.slot false).mapM fun p => do
        return "    " ++ (← Style.declaration p) ++ "\n") := by
    change Follows (String.join <$> (n.variableProperties.map fun p =>
      Datum.node (.property p none)).mapM _) _
    rw [List.mapM_map, List.mapM_map]
    apply Follows.map
    apply Follows.mapM
    intro p _
    apply (follows_filtered hb.kept (by decide) (Filter.own_fieldDeclaration rfl)).bind
    intro declaration
    apply Follows.refl
  have hinside : g.Shows exposed whole (scope.set "operation" (.node (.operation n))) :=
    Scope.Sees.set hscope (by decide) _
  have hshapes := follows_shapesText hb hexposed hinside depth (.node (.operation n)) n.root rfl rfl
  change Follows (joined (.nodeRow (fun p => .property p none) n.variableProperties)
    (variableText (g.environment (depth + 1))) >>= fun lines =>
      shapesText (g.environment (depth + 1)) (scope.set "operation" (.node (.operation n)))
        (.node (.operation n)) >>= fun shapes =>
      pure (namespaceText n.space ("  export type " ++ Batch.variablesName ++ " = \x7b\n" ++
        lines ++ "  \x7d\n\n" ++ shapes))) _
  apply (hlines.bind fun _ => hshapes.bind fun _ => Follows.refl _).trans
  simp only [Statement.write, Statement.variablesText, bind_assoc, pure_bind, bind_map_left]
  apply Follows.refl

theorem follows_fragmentText (hscope : g.Shows exposed whole scope) (depth : Nat)
    (n : FragmentNamespace) :
  Follows (fragmentText (g.environment (depth + 1)) scope (.node (.fragment n)))
    (Statement.write (g.layout exposed) (.space n.space none n.root))
  := by
  rw [fragmentText]
  change Follows (shapesText (g.environment (depth + 1))
    (scope.set "fragment" (.node (.fragment n))) (.node (.fragment n)) >>= fun shapes =>
      pure (namespaceText n.space shapes)) _
  apply ((follows_shapesText hb hexposed (Scope.Sees.set hscope (by decide) _) depth _
    n.root rfl rfl).bind fun _ => Follows.refl _).trans
  rw [Statement.write, pure_bind, bind_map_left]
  simp only [String.empty_append]
  apply Follows.refl

/-- The namespaces of a batch, those of the fragments last. -/
theorem follows_documentsText {start : Assoc Datum} (hscope : g.Shows exposed whole { start })
    (depth : Nat) {b : Batch}
    (hdocument : ({ start } : Scope).datum "document" = .node (.batch b)) :
  Follows (documentsText (g.environment (depth + 2)) { start })
    (Statement.writeAll (g.layout exposed) b.statements)
  := by
  have hoperations : Follows (joined (.nodeRow .operation b.operations)
      (operationText (g.environment (depth + 2)) { start })) _ :=
    follows_joined_statements rfl fun n =>
      follows_operationText hb hexposed hscope (depth + 1) n
  have hfragments : Follows (joined (.nodeRow .fragment b.fragments)
      (fragmentText (g.environment (depth + 1)) { start })) _ :=
    follows_joined_statements rfl fun n => follows_fragmentText hb hexposed hscope depth n
  have hincluded : Follows (fragments.included (g.environment (depth + 2)) { start })
      (Statement.writeAll (g.layout exposed)
        (b.fragments.map fun n => .space n.space none n.root)) := by
    apply (follows_included hb fragments (depth + 1) _).trans
    change Follows (fragmentsText (g.environment (depth + 1)) { start }) _
    rw [fragmentsText, look_node hdocument, pure_bind]
    apply hfragments
  rw [documentsText, look_node hdocument, pure_bind, Batch.statements, Statement.writeAll_append,
    show (Datum.node (.batch b)).member "operations" = .ok (.nodeRow .operation b.operations)
      from rfl,
    lift_ok, pure_bind]
  exact hoperations.bind fun _ => hincluded.bind fun _ => Follows.refl _

/-- An enum is included as its statement. -/
theorem follows_included_enum (hscope : g.Shows exposed whole scope) (depth : Nat) (t : EnumType) :
  Follows (enum.included (g.environment (depth + 1)) (scope.set "enum" (.node (.type (.enum t)))))
    (Statement.writeAll (g.layout exposed) [(NamedType.enum t).statement])
  := by
  have hinside : g.Shows exposed whole
      { start := (scope.set "enum" (.node (.type (.enum t)))).handed } :=
    (Scope.Sees.set hscope (by decide) _).handed
  obtain ⟨asAlias, hsetting, hlayout⟩ := hinside.setting_eq hexposed "enums_as_types" (by decide)
  rw [Statement.writeAll_singleton]
  apply (follows_included hb enum depth _).trans
  apply follows_enumText hb.kept (Scope.datum_handed_set "enum" _) hsetting hlayout

theorem follows_enums (hscope : g.Shows exposed whole scope) (depth : Nat) :
  Follows (enum.includedFor (g.environment (depth + 1)) scope "enum"
      (.nodes (fun t => .type (.enum t)) g.model.enums.values))
    (Statement.writeAll (g.layout exposed) (g.model.statementsOf .enum))
  := by
  rw [Model.statementsOf, Model.registryOf, Assoc.values_mapValues, List.map_map,
    List.map_eq_flatMap]
  apply follows_includedFor rfl
  apply follows_included_enum hb hexposed hscope depth

/-- A batch is included as its statements. -/
theorem follows_included_batch (hscope : g.Shows exposed whole scope) (depth : Nat) (b : Batch) :
  Follows (documents.included (g.environment (depth + 3)) (scope.set "document" (.node (.batch b))))
    (Statement.writeAll (g.layout exposed) b.statements)
  := by
  apply (follows_included hb documents (depth + 2) _).trans
  apply follows_documentsText hb hexposed (Scope.Sees.set hscope (by decide) _).handed depth
  apply Scope.datum_handed_set "document" (.batch b)

/-- Everything that the schema declares is written as the statements for the model. -/
theorem follows_schemaText (hscope : g.Shows exposed whole scope) (depth : Nat) :
  Follows (schemaText (g.environment (depth + 1)) scope)
    (Statement.writeAll (g.layout exposed) g.model.statements)
  := by
  have harguments : Follows (type.includedFor (g.environment (depth + 1)) scope "type"
      (.nodes .arguments g.model.argumentTypes.values))
      (Statement.writeAll (g.layout exposed)
        (g.model.argumentTypes.values.map ArgumentsType.statement)) := by
    rw [List.map_eq_flatMap]
    apply follows_includedFor rfl
    intro t
    apply follows_included_arguments hb depth t
  rw [schemaText, hscope.look_eq (by decide) rfl, pure_bind, hscope.look_eq (by decide) rfl,
    hscope.look_eq (by decide) rfl, hscope.look_eq (by decide) rfl, hscope.look_eq (by decide) rfl,
    hscope.look_eq (by decide) rfl, hscope.look_eq (by decide) rfl, Model.statements]
  simp only [Statement.writeAll_append, bind_assoc, pure_bind]
  apply Follows.bind
  · apply follows_joined_types .scalar rfl
    apply follows_scalarText hb.kept (hscope.datum_eq (by decide) rfl)
  intro scalars
  apply Follows.bind
  · apply follows_types hb depth .interface rfl (by simp) fun _ => rfl
  intro interfaces
  apply Follows.bind
  · apply follows_types hb depth .object rfl (by simp) fun _ => rfl
  intro types
  apply Follows.bind
  · apply follows_types hb depth .input rfl (by simp) fun _ => rfl
  intro inputs
  apply harguments.bind
  intro arguments
  apply (follows_enums hb hexposed hscope depth).bind
  intro enums
  apply Follows.bind
  · apply follows_joined_types .union rfl
    apply follows_unionText hb.kept
  intro unions
  apply Follows.refl

/-- The whole output is written as the statements of the generator. -/
theorem follows_indexText (hscope : g.Shows exposed whole scope) (depth : Nat) :
  Follows (indexText (g.environment (depth + 3)) scope)
    (do return "/* tslint:disable */\n" ++
        (← Statement.writeAll (g.layout exposed) (g.statements whole)) : Styled String)
  := by
  have hwhole : look scope "generate_schema" = pure (.bool whole) := by
    apply look_eq_pure (hscope.datum_eq (by decide) rfl)
    intro _
    rfl
  have hbatches : Follows (documents.includedFor (g.environment (depth + 3)) scope "document"
      (.nodes .batch g.batches))
      (Statement.writeAll (g.layout exposed) (g.batches.flatMap Batch.statements)) := by
    apply follows_includedFor rfl
    apply follows_included_batch hb hexposed hscope depth
  have hrest : ∀ declarations : String, Follows
      (documents.includedFor (g.environment (depth + 3)) scope "document"
          (.nodes .batch g.batches) >>= fun batches =>
        pure ("/* tslint:disable */\n" ++ declarations ++ batches))
      (Statement.writeAll (g.layout exposed) (g.batches.flatMap Batch.statements)
        >>= fun batches => pure ("/* tslint:disable */\n" ++ (declarations ++ batches))) := by
    intro declarations
    simp only [String.append_assoc]
    apply hbatches.bind fun _ => Follows.refl _
  rw [indexText, hwhole, pure_bind, hscope.look_eq (by decide) rfl, hscope.look_eq (by decide) rfl,
    Generator.statements, Statement.writeAll_append]
  simp only [bind_assoc, pure_bind]
  cases whole
  · exact (follows_enums hb hexposed hscope (depth + 2)).bind hrest
  · exact ((follows_included hb schema (depth + 2) _).trans
      (follows_schemaText hb hexposed hscope.handed (depth + 1))).bind hrest

end

/-- The text that a generator renders is that of its statements. -/
theorem of_render_eq_ok (hb : g.Bundled) (hfilters : g.hooks.filters = []) {text : String}
    (h : g.render whole = .ok text) :
  ∃ exposed written, g.config.expose Datum.primitives Datum.value = .ok exposed
    ∧ (Statement.writeAll (g.layout exposed) (g.statements whole)).run' (Style.ofConfig g.config)
      = .ok written
    ∧ text = "/* tslint:disable */\n" ++ written
  := by
  obtain ⟨m, hm, h⟩ := bind_eq_ok_iff.mp h
  rw [Hooks.prepare, hfilters] at hm
  cases hm
  obtain ⟨exposed, hexposed, h⟩ := bind_eq_ok_iff.mp h
  obtain ⟨write, hwrite, h⟩ := bind_eq_ok_iff.mp h
  rw [inclusionLimit, load_partial hb index 249] at hwrite
  obtain ⟨_, -, hwrite⟩ := bind_eq_ok_iff.mp hwrite
  cases hwrite
  obtain ⟨s', h⟩ := run'_eq_ok_iff.mp h
  have hwritten := follows_indexText hb hexposed (Scope.sees_start) 246 _ _ _ h
  obtain ⟨written, s₁, hwritten, htext⟩ := run_bind_eq_ok_iff.mp hwritten
  use exposed, written, hexposed
  constructor
  · apply run'_eq_ok_iff.mpr ⟨s₁, hwritten⟩
  · apply (run_pure_eq_ok_iff.mp htext).1.symm

end

end Generator

end GraphScribe
