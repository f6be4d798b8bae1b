import GraphScribe.Proofs.Model.Filtering
import GraphScribe.Proofs.Output.SelfContained

/-!
# Filtered output

A generator whose hooks filter its model writes what a generator without filters writes of the
filtered model (`Generator.render_filtered`).  Of the schema it writes the statements that declare
names that are kept, as they are without filters (`Model.statements_restrict`).  So no type that has
been removed is declared, but it is still named where a type that stays mentions it
(`Model.ofSchema_filtered`).
-/

namespace GraphScribe

open Result TypeScript Styled Template

/-! ### Statements of filtered models -/

/-- Whether the names that a statement declares are kept. -/
def Statement.isKept (keeps : String → Bool) (x : Statement) : Bool := x.declared.all keeps

namespace Model

/-- Everything in a model stands under its own name. -/
structure Keyed (m : Model) : Prop where
  types : ∀ kind key t, (key, t) ∈ m.registryOf kind → t.name = key
  argumentTypes : ∀ key t, (key, t) ∈ m.argumentTypes → t.name = key

theorem keyed_of_ofSchema {s : Schema} {m : Model} (h : ofSchema s = .ok m) :
  m.Keyed
  := by
  obtain ⟨ts, -, hlists, harguments⟩ := of_ofSchema_eq_ok h
  constructor
  case types =>
    intro kind key t ht
    apply (hlists.mem_registryOf_iff.mp ht).2.2
  case argumentTypes =>
    intro key t ht
    apply name_of_mem_argumentTypes harguments ht

variable {m : Model} {keeps : String → Bool}

/-- The statements for the entries that stay are those that declare names that are kept. -/
theorem map_values_filter {α : Type} {statement : α → Statement} {registry : Assoc α}
    (h : ∀ key x, (key, x) ∈ registry → (statement x).declared = [key]) :
  (Assoc.values (registry.filter fun e => keeps e.1)).map statement
    = (registry.values.map statement).filter (Statement.isKept keeps)
  := by
  rw [Assoc.values, Assoc.values, List.map_map, List.map_map, List.filter_map]
  congr 1
  apply List.filter_congr
  rintro ⟨key, x⟩ hx
  simp [Statement.isKept, h key x hx]

theorem statementsOf_restrict (h : m.Keyed) (kind : Kind) :
  (m.restrict keeps).statementsOf kind = (m.statementsOf kind).filter (Statement.isKept keeps)
  := by
  rw [statementsOf, registryOf_restrict]
  apply map_values_filter
  intro key t ht
  rw [NamedType.declared_statement, h.types kind key t ht]

/-- The statements for a restricted model are those that declare names that are kept. -/
theorem statements_restrict (h : m.Keyed) :
  (m.restrict keeps).statements = m.statements.filter (Statement.isKept keeps)
  := by
  have harguments : (m.restrict keeps).argumentTypes.values.map ArgumentsType.statement
      = (m.argumentTypes.values.map ArgumentsType.statement).filter (Statement.isKept keeps) := by
    apply map_values_filter
    intro key t ht
    rw [← h.argumentTypes key t ht]
    rfl
  simp only [statements, statementsOf_restrict h, harguments, List.filter_append]

end Model

/-! ### Generators with filters -/

namespace Generator

/-- The generator for the model that the hooks leave, which they change no more. -/
def filtered (g : Generator) (m : Model) : Generator :=
  { g with model := m, hooks := { g.hooks with filters := [] } }

variable {g : Generator} {m : Model}

theorem load_filtered (depth : Nat) :
  (g.filtered m).load depth = g.load depth
  := by
  induction depth with
  | zero => rfl
  | succ depth ih =>
    funext name
    rw [load, load, ih]
    rfl

/-- The filters change nothing but the model. -/
theorem render_filtered (h : g.hooks.prepare g.model = .ok m) (whole : Bool) :
  g.render whole = (g.filtered m).render whole
  := by
  rw [render, h, render, load_filtered]
  rfl

theorem Bundled.filtered (h : g.Bundled) (m : Model) :
  (g.filtered m).Bundled
  := by
  constructor
  case found => apply h.found
  case kept => apply h.kept

/-- What a generator with filters renders is the text of the statements for the model that they
leave, and of those for the batches. -/
theorem of_render_filtered (hb : g.Bundled) (hm : g.hooks.prepare g.model = .ok m) {text : String}
    (h : g.render true = .ok text) :
  ∃ exposed written, g.config.expose Datum.primitives Datum.value = .ok exposed
    ∧ (Statement.writeAll (g.layout exposed)
        (m.statements ++ g.batches.flatMap Batch.statements)).run' (Style.ofConfig g.config)
      = .ok written
    ∧ text = "/* tslint:disable */\n" ++ written
  := by
  rw [render_filtered hm] at h
  apply of_render_eq_ok (hb.filtered m) rfl h

end Generator

namespace Model

/-- What is left of a model when names are filtered out: the entries whose names are kept are as
they were, in their order, and mention what they mentioned; nothing else is changed.  A name that is
not kept stands in no registry and is declared by no statement. -/
structure Filtered (m m' : Model) (keeps : String → Bool) : Prop where
  restricted : m' = m.restrict keeps
  names : m'.allNames = m.allNames.filter keeps
  mentions : m'.mentions = m.mentions.filter fun e => keeps e.1
  statements : m'.statements = m.statements.filter (Statement.isKept keeps)
  removed : ∀ name, keeps name = false →
    name ∉ m'.allNames ∧ ∀ x ∈ m'.statements, name ∉ x.declared

theorem Keyed.filtered {m : Model} (h : m.Keyed) (keeps : String → Bool) :
  m.Filtered (m.restrict keeps) keeps
  := by
  constructor
  case restricted => rfl
  case names => apply allNames_restrict
  case mentions => apply mentions_restrict
  case statements => apply statements_restrict h
  case removed =>
    intro name hname
    constructor
    · rw [allNames_restrict, List.mem_filter, hname]
      simp
    · intro x hx hdeclared
      rw [statements_restrict h, List.mem_filter] at hx
      have hkept := List.all_eq_true.mp hx.2 name hdeclared
      rw [hname] at hkept
      cases hkept

/-- Hooks with proper filters can be run on the model of every schema.  They leave the entries with
names that all filters keep, and what is written of the schema are the statements for these
entries, with every type that they mention. -/
theorem ofSchema_filtered {s : Schema} {m : Model} (h : ofSchema s = .ok m) (hooks : Hooks) :
  ((∀ f ∈ hooks.filters, f.Spelled) → ∃ m', hooks.prepare m = .ok m')
    ∧ ∀ m', hooks.prepare m = .ok m' → m.Filtered m' hooks.keeps
      ∧ ∀ (g : Generator) (text : String), g.model = m → g.hooks = hooks → g.Bundled →
        g.render true = .ok text →
          ∃ exposed written, g.config.expose Datum.primitives Datum.value = .ok exposed
            ∧ (Statement.writeAll (g.layout exposed)
                (m.statements.filter (Statement.isKept hooks.keeps)
                  ++ g.batches.flatMap Batch.statements)).run' (Style.ofConfig g.config)
              = .ok written
            ∧ text = "/* tslint:disable */\n" ++ written
  := by
  have hkeyed := keyed_of_ofSchema h
  constructor
  · intro hspelled
    use m.restrict hooks.keeps
    apply Hooks.prepare_of_spelled hspelled
  · intro m' hm'
    obtain rfl := Hooks.prepare_eq_ok hm'
    use hkeyed.filtered hooks.keeps
    rintro g text rfl rfl hbundled hrender
    rw [← statements_restrict hkeyed]
    apply Generator.of_render_filtered hbundled hm' hrender

/-- A schema with a union of two object types. -/
def teamSchema : Schema where
  types :=
    [{ name := "User", content := .object [] [{ name := "login", type := .named "String" }] },
      { name := "_Team", content := .object [] [{ name := "name", type := .named "String" }] },
      { name := "Found", content := .union ["User", "_Team"] }]
  distinct := by decide

/-- The object type that stays. -/
def userEntry : String × ObjectType :=
  ("User",
    { name := "User"
      fields := [{ name := "login", descriptor := { name := "String" }, kind := .scalar }] })

/-- The object type that is removed. -/
def teamEntry : String × ObjectType :=
  ("_Team",
    { name := "_Team"
      fields := [{ name := "name", descriptor := { name := "String" }, kind := .scalar }] })

/-- The model of `teamSchema`. -/
def teamModel : Model where
  types := [userEntry, teamEntry]
  unions := [("Found", { name := "Found", members := ["User", "_Team"] })]

/-- What hooks leave of `teamModel`. -/
def userModel : Model := { teamModel with types := [userEntry] }

/-- Hooks that remove the types whose names start with an underscore. -/
def underscoreHooks : Hooks where
  filters := [{ excludePrefix := .string "_" }]

/-- The output for `teamModel` and `underscoreHooks`. -/
def userText : String :=
  "/* tslint:disable */\nexport interface User \x7b\n  login?: string | null;\n\x7d\n" ++
    "export type Found = User | _Team;\n\n"

theorem ofSchema_filtered_team :
  ofSchema teamSchema = .ok teamModel ∧ underscoreHooks.prepare teamModel = .ok userModel
    ∧ teamModel.Filtered userModel underscoreHooks.keeps
    ∧ Generator.render { model := teamModel, hooks := underscoreHooks } true = .ok userText
    ∧ ∃ exposed written, Config.expose {} Datum.primitives Datum.value = .ok exposed
      ∧ (Statement.writeAll (.ofSettings exposed "")
          (teamModel.statements.filter (Statement.isKept underscoreHooks.keeps))).run'
            (Style.ofConfig {}) = .ok written
      ∧ userText = "/* tslint:disable */\n" ++ written
  := by
  have h : ofSchema teamSchema = .ok teamModel := rfl
  have hspelled : ∀ f ∈ underscoreHooks.filters, f.Spelled := by
    intro f hf
    obtain rfl := List.mem_singleton.mp hf
    constructor
    case excludePrefix => exact Or.inr ⟨"_", rfl⟩
    all_goals exact Or.inl rfl
  have hmake : Generator.make teamModel {} [] underscoreHooks [] (fun _ => .ok fun _ => none)
      = .ok { model := teamModel, hooks := underscoreHooks } := rfl
  have hrender : Generator.render { model := teamModel, hooks := underscoreHooks } true
      = .ok userText := by
    decide +kernel
  obtain ⟨hruns, hleaves⟩ := ofSchema_filtered h underscoreHooks
  obtain ⟨m', hprepare⟩ := hruns hspelled
  obtain rfl : userModel = m' := Except.ok.inj hprepare
  obtain ⟨hfiltered, hwritten⟩ := hleaves userModel hprepare
  use h, hprepare, hfiltered, hrender
  obtain ⟨exposed, written, hexposed, hwritten, htext⟩ := hwritten
    { model := teamModel, hooks := underscoreHooks } userText rfl rfl
    (Generator.bundled_of_make rfl rfl hmake) hrender
  use exposed, written, hexposed
  constructor
  · apply hwritten
  · apply htext

/-- The union still has the member that has been removed, and the output names it. -/
theorem ofSchema_stillMentioned :
  ofSchema teamSchema = .ok teamModel ∧ underscoreHooks.prepare teamModel = .ok userModel
    ∧ "_Team" ∈ teamModel.allNames ∧ "_Team" ∉ userModel.allNames
    ∧ (∃ t ∈ userModel.unions.values, "_Team" ∈ t.members)
    ∧ Generator.render { model := teamModel, hooks := underscoreHooks } true
      = .ok ("/* tslint:disable */\nexport interface User \x7b\n  login?: string | null;\n" ++
        "\x7d\nexport type Found = User | _Team;\n\n")
  := by
  use rfl, rfl, by decide, by decide
  constructor
  · exact ⟨_, List.mem_cons_self, by decide⟩
  · decide +kernel

end Model

end GraphScribe
