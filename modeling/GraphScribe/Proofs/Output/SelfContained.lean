import GraphScribe.Proofs.Batch.Linking
import GraphScribe.Proofs.Model.Plain
import GraphScribe.Proofs.Output.Rendering
import GraphScribe.Proofs.Output.Targets

/-!
# Self-contained output

The slots of all statements are known to the model (`Model.Knows`): they note the kind that the
model has under the name of their type.  So a name that stands in the output as a type is that of a
declared type, for which the whole output has a statement (`Generator.render_selfContained`).  The
output for documents alone declares nothing but enums, so that it declares the name in a slot
exactly if this is the name of an enum (`Generator.render_declares_iff`).
-/

namespace GraphScribe

open Result TypeScript Styled Template

/-! ### Slots that the model knows -/

/-- The kind that is noted in a slot is that of the type, unless a shape stands in its place. -/
def Model.Knows (m : Model) (p : Slot) : Prop :=
  p.isNested = false → m.kindOf p.descriptor.name = some p.kind

theorem NamedType.slots_statement (t : NamedType) :
  t.statement.slots = t.fields.map Field.slot
  := by
  cases t <;> simp [statement, Statement.slots, fields, Field.line, Function.comp_def]

theorem ArgumentsType.slots_statement (t : ArgumentsType) :
  t.statement.slots = t.fields.map Argument.slot
  := by
  simp [statement, Statement.slots, Argument.line, Function.comp_def]

theorem NamedType.declared_statement (t : NamedType) :
  t.statement.declared = [t.name]
  := by
  cases t <;> rfl

theorem NamedType.fields_of_owner? {t : NamedType} {o : FieldOwner} (h : t.owner? = some o) :
  o.fields = t.fields
  := by
  cases t <;> cases h <;> rfl

namespace Model

section

variable {s : Schema} {m : Model} {ts : List NamedType}

theorem DescribedBy.mem_statementsOf_iff (h : m.DescribedBy s ts) {kind : Kind} {x : Statement} :
  x ∈ m.statementsOf kind ↔ ∃ t ∈ ts, t.kind = kind ∧ t.statement = x
  := by
  simp only [statementsOf, List.mem_map, Assoc.mem_values_iff, h.lists.mem_registryOf_iff]
  grind

theorem DescribedBy.mem_statements_iff (h : m.DescribedBy s ts) {x : Statement} :
  x ∈ m.statements
    ↔ (∃ t ∈ ts, t.statement = x) ∨ ∃ t ∈ m.argumentTypes.values, t.statement = x
  := by
  simp only [statements, List.mem_append, h.mem_statementsOf_iff, List.mem_map]
  constructor
  · grind
  · rintro (⟨t, ht, rfl⟩ | hargument)
    · cases hkind : t.kind <;> grind
    · grind

theorem DescribedBy.knows_field (h : m.DescribedBy s ts) (hs : s.Plain) {t : NamedType}
    (ht : t ∈ ts) {f : Field} (hf : f ∈ t.fields) :
  m.Knows f.slot ∧ ∀ a ∈ f.arguments, m.Knows a.slot
  := by
  have hreferences : ∀ r ∈ f.references, m.kindOf r.1 = some r.2 := by
    intro r hr
    apply h.knows hs t ht
    apply List.mem_flatMap.mpr ⟨f, hf, hr⟩
  rw [Field.references, List.forall_mem_cons] at hreferences
  constructor
  · intro _
    apply hreferences.1
  · intro a ha _
    apply hreferences.2 _ (List.mem_map.mpr ⟨a, ha, rfl⟩)

/-- The slots of the statements for a model are known to it. -/
theorem DescribedBy.knows_statements (h : m.DescribedBy s ts) (hs : s.Plain) :
  ∀ x ∈ m.statements, ∀ p ∈ x.slots, m.Knows p
  := by
  intro x hx p hp
  rcases h.mem_statements_iff.mp hx with ⟨t, ht, rfl⟩ | ⟨t, ht, rfl⟩
  · rw [NamedType.slots_statement] at hp
    obtain ⟨f, hf, rfl⟩ := List.mem_map.mp hp
    apply (h.knows_field hs ht hf).1
  · obtain ⟨o, ho, hargument⟩ := h.argumentTypes t ht
    obtain ⟨nt, hnt, ho⟩ := List.mem_filterMap.mp ho
    obtain ⟨f, hf, rfl⟩ := List.mem_map.mp hargument
    rw [NamedType.fields_of_owner? ho] at hf
    rw [ArgumentsType.slots_statement] at hp
    obtain ⟨a, ha, rfl⟩ := List.mem_map.mp hp
    apply (h.knows_field hs hnt (List.mem_of_mem_filter hf)).2 a ha

/-- A name that stands in a known slot is that of a declared type. -/
theorem DescribedBy.exists_of_reference (h : m.DescribedBy s ts) {targets : List String}
    (htargets : builtinScalars ⊆ targets) {p : Slot} (hp : m.Knows p) {name : String}
    (hname : p.reference targets = some name) :
  ∃ t ∈ ts, t.name = name ∧ t.kind = p.kind
  := by
  obtain ⟨-, hnested, hscalar, rfl⟩ := Slot.reference_eq_some_iff.mp hname
  have hkind := hp hnested
  apply h.exists_of_kindOf hkind
  intro hmem
  rw [kindOf, if_pos hmem, Option.some.injEq] at hkind
  apply hscalar hkind.symm (htargets hmem)

theorem Lists.exists_of_mem_keys (h : m.Lists ts) (kind : Kind) {name : String}
    (hname : name ∈ (m.registryOf kind).keys) :
  ∃ t ∈ ts, t.name = name
  := by
  rw [h.keys_registryOf] at hname
  obtain ⟨t, ht, rfl⟩ := List.mem_map.mp hname
  use t, List.mem_of_mem_filter ht

/-- Interfaces that are extended and members of unions are declared types. -/
theorem DescribedBy.exists_of_named (h : m.DescribedBy s ts) (hs : s.Closed) (hplain : s.Plain)
    {x : Statement} (hx : x ∈ m.statements) {name : String} (hname : name ∈ x.named) :
  ∃ t ∈ ts, t.name = name
  := by
  have hconsistent := h.consistent hs
  rcases h.mem_statements_iff.mp hx with ⟨t, ht, rfl⟩ | ⟨t, ht, rfl⟩
  · have hentry := h.lists.mem_registryOf_iff.mpr ⟨ht, rfl, rfl⟩
    cases t <;> try cases hname
    case object t =>
      obtain ⟨t', ht', heq⟩ := Assoc.mem_mapValues_iff.mp hentry
      cases heq
      apply h.lists.exists_of_mem_keys .interface
      rw [registryOf, Assoc.keys_mapValues]
      apply hconsistent.interfaces _ t ht' name hname
    case union t =>
      obtain ⟨t', ht', heq⟩ := Assoc.mem_mapValues_iff.mp hentry
      cases heq
      apply h.lists.exists_of_mem_keys .object
      rw [registryOf, Assoc.keys_mapValues]
      apply hconsistent.members _ t ht' name hname (h.plain_members hplain ht' name hname)
  · cases hname

/-- A declared type is not built in. -/
theorem DescribedBy.name_not_mem (h : m.DescribedBy s ts) {t : NamedType} (ht : t ∈ ts) :
  t.name ∉ builtinScalars
  := by
  obtain ⟨st, hst, hdescribed⟩ := exists_of_forall₂ h.types ht
  have hbuiltin : Builtin.isType st.name = false := by
    simpa [Schema.declaredTypes] using (List.mem_filter.mp hst).2
  rw [(Schema.of_namedType_eq_ok hdescribed).1]
  apply (Builtin.isType_eq_false_iff.mp hbuiltin).1

end

end Model

/-! ### Slots of a batch -/

namespace Batch

variable {s : Schema} {m : Model} {ts : List NamedType} {documents : List Document} {b : Batch}

theorem knows_of_variableProperty {ns : String} {v : VariableDeclaration} {p : Property}
    (h : variableProperty m ns v = .ok p) :
  m.Knows (p.slot false)
  := by
  rw [variableProperty] at h
  split at h
  case h_1 => cases h
  case h_2 kind hkind =>
    cases h
    intro _
    apply hkind

theorem knows_of_isLeafOf (hm : m.DescribedBy s ts) (hs : s.Plain) {p : Property}
    (h : p.IsLeafOf m) :
  m.Knows (p.slot false)
  := by
  rcases h with ⟨T, key, rfl⟩ | ⟨T, name, f, key, hfield, -, rfl⟩
  · intro _
    exact if_pos (show "String" ∈ builtinScalars by decide)
  · obtain ⟨t, ht, hfind⟩ := Option.bind_eq_some_iff.mp hfield
    have hf : f ∈ t.fields := by
      have hmem := List.mem_of_find?_eq_some hfind
      cases t <;> first | exact hmem | cases hmem
    apply (hm.knows_field hs (hm.of_typeNamed?_eq_some ht).1 hf).1

/-- The slots of the statements for a batch are known to the model. -/
theorem knows_statements (hm : m.DescribedBy s ts) (hs : s.Plain)
    (h : transform m documents = .ok b) :
  ∀ x ∈ b.statements, ∀ p ∈ x.slots, m.Knows p
  := by
  have hshapes : ∀ root ∈ b.roots, ∀ p ∈ root.shapes.flatMap fun s =>
      s.properties.map fun p => p.1.slot p.2.isSome, m.Knows p := by
    intro root hroot p hp
    obtain ⟨s', hs', hp⟩ := List.mem_flatMap.mp hp
    obtain ⟨⟨q, _ | below⟩, hq, rfl⟩ := List.mem_map.mp hp
    · apply knows_of_isLeafOf hm hs ((madeBy_of_transform h root hroot s' hs').isLeafOf hq)
    · intro hnested
      cases hnested
  obtain ⟨-, -, hoperations⟩ := transform_eq_ok_iff.mp h
  intro x hx p hp
  rcases List.mem_append.mp hx with hx | hx
  · obtain ⟨n, hn, rfl⟩ := List.mem_map.mp hx
    rcases List.mem_append.mp hp with hp | hp
    · obtain ⟨o, -, ho⟩ := exists_of_forall₂ hoperations hn
      obtain ⟨-, -, -, -, hvariables, -⟩ := transformOperation_eq_ok_iff.mp ho
      obtain ⟨v, hv, rfl⟩ := List.mem_map.mp hp
      obtain ⟨d, -, hd⟩ := exists_of_forall₂ (mapM_eq_ok_iff.mp hvariables) hv
      apply knows_of_variableProperty hd
    · apply hshapes n.root _ p hp
      apply List.mem_append_right _ (List.mem_map.mpr ⟨n, hn, rfl⟩)
  · obtain ⟨n, hn, rfl⟩ := List.mem_map.mp hx
    apply hshapes n.root _ p hp
    apply List.mem_append_left _ (List.mem_map.mpr ⟨n, hn, rfl⟩)

end Batch

/-! ### Generators for a schema -/

/-- The generator is made for a schema: it finds its own partials and writes the model of the
schema as it is, with settings that were read and with batches that were transformed. -/
structure Generator.MadeFor (g : Generator) (s : Schema) : Prop where
  closed : s.Closed
  plain : s.Plain
  model : Model.ofSchema s = .ok g.model
  config : ∃ entries, Config.ofEntries entries = .ok g.config
  batches : ∀ b ∈ g.batches, ∃ documents, Batch.transform g.model documents = .ok b
  bundled : g.Bundled
  filters : g.hooks.filters = []

/-- The scalars that a generator writes as something else. -/
def Generator.targets (g : Generator) : List String := (Style.ofConfig g.config).primitives.keys

namespace Statement

/-- Some statements declare every name that stands in them as a type, in slots and elsewhere; what
stands in the other slots are targets, and in those of built-in scalars their own. -/
structure SelfContained (targets : List String) (xs : List Statement) : Prop where
  declared : ∀ x ∈ xs, ∀ name ∈ x.used targets, ∃ y ∈ xs, name ∈ y.declared
  unnamed : ∀ x ∈ xs, ∀ name ∈ x.used targets, name ∉ builtinScalars
  written : ∀ x ∈ xs, ∀ p ∈ x.slots, p.isNested = false → p.typenames = [] →
    ∀ style : Style, style.primitives.keys = targets →
      (∃ name ∈ x.used targets, style.baseType p = .string name)
        ∨ ∃ v, style.primitives.find? p.descriptor.name = some v ∧ style.baseType p = v
  replaced : ∀ x ∈ xs, ∀ p ∈ x.slots, p.isNested = false → p.typenames = [] →
    p.descriptor.name ∈ builtinScalars → ∀ style : Style, style.primitives.keys = targets →
      ∃ v, style.primitives.find? p.descriptor.name = some v ∧ style.baseType p = v

/-- A slot for neither a shape nor a discriminator is written as a name or as a target. -/
theorem baseType_of_slot {x : Statement} {p : Slot} (hp : p ∈ x.slots)
    (hnested : p.isNested = false) (htypenames : p.typenames = []) (style : Style) :
  (∃ name ∈ x.used style.primitives.keys, style.baseType p = .string name)
    ∨ ∃ v, style.primitives.find? p.descriptor.name = some v ∧ style.baseType p = v
  := by
  by_cases h : p.kind = .scalar ∧ p.descriptor.name ∈ style.primitives.keys
  · right
    apply Style.baseType_of_mem htypenames hnested h.1 h.2
  · left
    have hreference : p.reference style.primitives.keys = some p.descriptor.name := by
      apply Slot.reference_eq_some_iff.mpr ⟨htypenames, hnested, not_and.mp h, rfl⟩
    use p.descriptor.name
    constructor
    · apply List.mem_append_right _ (List.mem_filterMap.mpr ⟨p, hp, hreference⟩)
    · apply Style.baseType_of_reference hreference

end Statement

namespace Generator

variable {s : Schema} {g : Generator} {ts : List NamedType} {whole : Bool}

/-- The generator for some documents, with the settings that are there by default. -/
def forDocuments (s : Schema) (documents : List Document) : Except Failure Generator := do
  let m ← Model.ofSchema s
  let b ← Batch.transform m documents
  make m {} [b] {} [] fun _ => .ok fun _ => none

theorem madeFor_of_forDocuments {documents : List Document} (hclosed : s.Closed) (hplain : s.Plain)
    (h : forDocuments s documents = .ok g) :
  g.MadeFor s
  := by
  obtain ⟨m, hm, h⟩ := bind_eq_ok_iff.mp h
  obtain ⟨b, hb, hmake⟩ := bind_eq_ok_iff.mp h
  have hbundled := bundled_of_make rfl rfl hmake
  cases hmake
  constructor
  case closed => apply hclosed
  case plain => apply hplain
  case model => apply hm
  case config => exact ⟨[], rfl⟩
  case batches =>
    intro b' hb'
    obtain rfl := List.mem_singleton.mp hb'
    exact ⟨documents, hb⟩
  case bundled => apply hbundled
  case filters => rfl

theorem MadeFor.builtinScalars_subset (hg : g.MadeFor s) :
  builtinScalars ⊆ g.targets
  := by
  obtain ⟨entries, hentries⟩ := hg.config
  apply Config.builtinScalars_subset hentries

/-- A statement is one for the model or one for a batch. -/
theorem mem_statements {x : Statement} (hx : x ∈ g.statements whole) :
  x ∈ g.model.statements ∨ ∃ b ∈ g.batches, x ∈ b.statements
  := by
  rcases List.mem_append.mp hx with hx | hx
  · left
    cases whole with
    | true => apply hx
    | false => simp only [Model.statements, List.mem_append]; tauto
  · right
    apply List.mem_flatMap.mp hx

theorem MadeFor.knows (hg : g.MadeFor s) (hm : g.model.DescribedBy s ts) :
  ∀ x ∈ g.statements whole, ∀ p ∈ x.slots, g.model.Knows p
  := by
  intro x hx
  rcases mem_statements hx with hx | ⟨b, hb, hx⟩
  · apply hm.knows_statements hg.plain x hx
  · obtain ⟨documents, hdocuments⟩ := hg.batches b hb
    apply Batch.knows_statements hm hg.plain hdocuments x hx

/-- A name that stands in the output as a type is that of a declared type. -/
theorem MadeFor.exists_of_used (hg : g.MadeFor s) (hm : g.model.DescribedBy s ts) {x : Statement}
    (hx : x ∈ g.statements whole) {name : String} (hname : name ∈ x.used g.targets) :
  ∃ t ∈ ts, t.name = name
  := by
  rcases List.mem_append.mp hname with hname | hname
  · rcases mem_statements hx with hx | ⟨b, hb, hx⟩
    · apply hm.exists_of_named hg.closed hg.plain hx hname
    · rw [Batch.statements, List.mem_append, List.mem_map, List.mem_map] at hx
      rcases hx with ⟨n, -, rfl⟩ | ⟨n, -, rfl⟩ <;> cases hname
  · obtain ⟨p, hp, hname⟩ := List.mem_filterMap.mp hname
    obtain ⟨t, ht, htname, -⟩ := hm.exists_of_reference hg.builtinScalars_subset
      (hg.knows hm x hx p hp) hname
    use t

/-- The text is that of the statements of a generator, before each of which the scalars with targets
are those at the start. -/
def Prints (g : Generator) (whole : Bool) (text : String) : Prop :=
  ∃ exposed written, g.config.expose Datum.primitives Datum.value = .ok exposed
    ∧ (Statement.writeAll (g.layout exposed) (g.statements whole)).run' (Style.ofConfig g.config)
      = .ok written
    ∧ text = "/* tslint:disable */\n" ++ written
    ∧ ∀ before after, g.statements whole = before ++ after → ∀ above style,
      (Statement.writeAll (g.layout exposed) before).run (Style.ofConfig g.config)
        = .ok (above, style) → style.primitives.keys = g.targets

theorem MadeFor.prints (hg : g.MadeFor s) {text : String} (h : g.render whole = .ok text) :
  g.Prints whole text
  := by
  obtain ⟨exposed, written, hexposed, hwritten, htext⟩ := of_render_eq_ok hg.bundled hg.filters h
  use exposed, written, hexposed, hwritten, htext
  intro before after _ above style hstyle
  apply Statement.keepsTargets_writeAll _ _ _ _ _ hstyle

/-- The whole output is self-contained. -/
theorem render_selfContained (hg : g.MadeFor s) {text : String} (h : g.render true = .ok text) :
  g.Prints true text ∧ Statement.SelfContained g.targets (g.statements true)
  := by
  obtain ⟨ts, hm⟩ := Model.exists_describedBy hg.model
  use hg.prints h
  constructor
  case declared =>
    intro x hx name hname
    obtain ⟨t, ht, rfl⟩ := hg.exists_of_used hm hx hname
    use t.statement
    constructor
    · apply List.mem_append_left _ (hm.mem_statements_iff.mpr (Or.inl ⟨t, ht, rfl⟩))
    · rw [NamedType.declared_statement, List.mem_singleton]
  case unnamed =>
    intro x hx name hname
    obtain ⟨t, ht, rfl⟩ := hg.exists_of_used hm hx hname
    apply hm.name_not_mem ht
  case written =>
    rintro x - p hp hnested htypenames style hstyle
    rw [← hstyle]
    apply Statement.baseType_of_slot hp hnested htypenames
  case replaced =>
    intro x hx p hp hnested htypenames hname style hstyle
    apply Style.baseType_of_mem htypenames hnested
    · have hkind := hg.knows hm x hx p hp hnested
      rw [Model.kindOf, if_pos hname, Option.some.injEq] at hkind
      apply hkind.symm
    · rw [hstyle]
      apply hg.builtinScalars_subset hname

/-- A schema in which types of every kind refer to others. -/
def findingSchema : Schema where
  types :=
    [{ name := "Date", content := .scalar },
      { name := "Role", content := .enum [{ name := "ADMIN" }] },
      { name := "Node"
        content := .interface [] [{ name := "id", type := .nonNull (.named "ID") }] },
      { name := "User"
        content := .object ["Node"]
          [{ name := "id", type := .nonNull (.named "ID") },
            { name := "role", type := .named "Role" },
            { name := "born", type := .named "Date" }] },
      { name := "Team", content := .object [] [{ name := "lead", type := .named "User" }] },
      { name := "Found", content := .union ["User", "Team"] },
      { name := "Filter", content := .input [{ name := "role", type := .named "Role" }] },
      { name := "Query"
        content := .object []
          [{ name := "find"
             type := .list (.named "Found")
             arguments := [{ name := "where", type := .named "Filter" }] }] }]
  query := some "Query"
  distinct := by decide

theorem findingSchema_closed :
  findingSchema.Closed
  := by
  constructor <;> decide

theorem findingSchema_plain :
  findingSchema.Plain
  := by
  rw [Schema.Plain]
  decide

/-- A query with a variable that asks for members of a union. -/
def findingDocuments : List Document :=
  [[.operation
      { kind := .query, name := some "find"
        variableDeclarations := [{ name := "where", type := .named "Filter" }]
        selections :=
          [.field none "find" [] []
            [.inline (some "User") [] [.field none "role" [] [] []]]] }]]

theorem render_selfContained_finding :
  ∃ (g : Generator) (text : String), g.MadeFor findingSchema ∧ g.render true = .ok text
    ∧ g.Prints true text ∧ Statement.SelfContained g.targets (g.statements true)
  := by
  have hok : (forDocuments findingSchema findingDocuments >>= fun g => g.render true).isOk := by
    decide +kernel
  obtain ⟨text, hrendered⟩ := exists_of_isOk hok
  obtain ⟨g, hg, htext⟩ := bind_eq_ok_iff.mp hrendered
  have hmade := madeFor_of_forDocuments findingSchema_closed findingSchema_plain hg
  use g, text, hmade, htext
  apply render_selfContained hmade htext

/-- The output for documents alone declares the enums. -/
theorem exists_declared_iff (hm : g.model.DescribedBy s ts) {name : String} :
  (∃ x ∈ g.statements false, name ∈ x.declared) ↔ ∃ t ∈ ts, t.name = name ∧ t.kind = .enum
  := by
  constructor
  · rintro ⟨x, hx, hname⟩
    rcases List.mem_append.mp hx with hx | hx
    · obtain ⟨t, ht, hkind, rfl⟩ := hm.mem_statementsOf_iff.mp hx
      rw [NamedType.declared_statement, List.mem_singleton] at hname
      use t, ht, hname.symm, hkind
    · obtain ⟨b, -, hx⟩ := List.mem_flatMap.mp hx
      rw [Batch.statements, List.mem_append, List.mem_map, List.mem_map] at hx
      rcases hx with ⟨n, -, rfl⟩ | ⟨n, -, rfl⟩ <;> cases hname
  · rintro ⟨t, ht, rfl, hkind⟩
    use t.statement
    constructor
    · apply List.mem_append_left _ (hm.mem_statementsOf_iff.mpr ⟨t, ht, hkind, rfl⟩)
    · rw [NamedType.declared_statement, List.mem_singleton]

/-- The output for documents alone declares the names in the slots of its namespaces that are those
of enums, and no others. -/
theorem render_declares_iff (hg : g.MadeFor s) {text : String} (h : g.render false = .ok text) :
  g.Prints false text
    ∧ ∀ x ∈ g.statements false, ∀ p ∈ x.slots, ∀ name, p.reference g.targets = some name →
      (∀ style : Style, style.primitives.keys = g.targets → style.baseType p = .string name)
        ∧ g.model.kindOf name = some p.kind
        ∧ ((∃ y ∈ g.statements false, name ∈ y.declared) ↔ p.kind = .enum)
  := by
  obtain ⟨ts, hm⟩ := Model.exists_describedBy hg.model
  use hg.prints h
  intro x hx p hp name hname
  have hknows := hg.knows hm x hx p hp
  obtain ⟨t, ht, rfl, hkind⟩ := hm.exists_of_reference hg.builtinScalars_subset hknows hname
  obtain ⟨-, hnested, -, hdescriptor⟩ := Slot.reference_eq_some_iff.mp hname
  refine ⟨?_, ?_, ?_⟩
  · intro style hstyle
    rw [← hstyle] at hname
    apply Style.baseType_of_reference hname
  · rw [← hdescriptor]
    apply hknows hnested
  · rw [exists_declared_iff hm, ← hkind]
    constructor
    · rintro ⟨t', ht', heq, henum⟩
      obtain rfl := List.inj_on_of_nodup_map hm.distinct ht' ht heq
      apply henum
    · intro henum
      use t, ht, rfl, henum

theorem render_declares_iff_finding :
  ∃ (g : Generator) (text : String), g.MadeFor findingSchema ∧ g.render false = .ok text
    ∧ g.Prints false text
    ∧ ∀ x ∈ g.statements false, ∀ p ∈ x.slots, ∀ name, p.reference g.targets = some name →
      (∀ style : Style, style.primitives.keys = g.targets → style.baseType p = .string name)
        ∧ g.model.kindOf name = some p.kind
        ∧ ((∃ y ∈ g.statements false, name ∈ y.declared) ↔ p.kind = .enum)
  := by
  have hok : (forDocuments findingSchema findingDocuments >>= fun g => g.render false).isOk := by
    decide +kernel
  obtain ⟨text, hrendered⟩ := exists_of_isOk hok
  obtain ⟨g, hg, htext⟩ := bind_eq_ok_iff.mp hrendered
  have hmade := madeFor_of_forDocuments findingSchema_closed findingSchema_plain hg
  use g, text, hmade, htext
  apply render_declares_iff hmade htext

/-- A schema with a scalar type. -/
def datedSchema : Schema where
  types :=
    [{ name := "Date", content := .scalar },
      { name := "Query", content := .object [] [{ name := "at", type := .named "Date" }] }]
  query := some "Query"
  distinct := by decide

/-- A query that asks for a scalar. -/
def datedDocuments : List Document :=
  [[.operation
      { kind := .query, name := some "q", selections := [.field none "at" [] [] []] }]]

/-- The generator for `datedDocuments`. -/
def datedGenerator : Generator where
  model :=
    { types :=
        [("Query",
            { name := "Query"
              fields := [{ name := "at", descriptor := { name := "Date" }, kind := .scalar }] })]
      scalars := [("Date", { name := "Date" })]
      queryType := some "Query" }
  batches :=
    [{ operations :=
        [{ name := "q", space := "Q", kind := .query, variableProperties := []
           root :=
            .mk "Query" "Query" { literals := ["Query"] } false
              [.leaf { name := "at", descriptor := { name := "Date" }, kind := .scalar }] }] }]

/-- The scalar type is not declared beside the namespace in which its name stands. -/
theorem render_undeclared :
  datedGenerator.MadeFor datedSchema
    ∧ datedGenerator.render false = .ok ("/* tslint:disable */\nexport namespace Q \x7b\n" ++
      "  export type Variables = \x7b\n  \x7d\n\n" ++
      "  export type Query = \x7b\n    __typename?: \"Query\";\n    at?: Date | null;\n" ++
      "  \x7d\n\n\x7d\n\n")
    ∧ (∃ x ∈ datedGenerator.statements false, ∃ p ∈ x.slots,
      p.reference datedGenerator.targets = some "Date")
    ∧ ∀ x ∈ datedGenerator.statements false, "Date" ∉ x.declared
  := by
  have hmade : datedGenerator.MadeFor datedSchema := by
    have h : forDocuments datedSchema datedDocuments = .ok datedGenerator := rfl
    apply madeFor_of_forDocuments _ _ h
    · constructor <;> decide
    · rw [Schema.Plain]
      decide
  use hmade
  constructor
  · decide +kernel
  · decide

end Generator

end GraphScribe
