import GraphScribe.Proofs.Output.Filtering

/-!
# Aliases of scalars

The output declares each scalar as an alias of its target.  No target of a declared scalar comes
from the defaults: it is the primitive that is given for it, or else `any`
(`Generator.targetsGiven`).  So aliases lead in a circle exactly if the given primitives do, or if
they lead from a scalar called `any` to one without a primitive (`Generator.render_aliases`).
-/

namespace GraphScribe

open Result TypeScript Styled

/-! ### Writing aliases -/

/-- What a scalar is an alias of. -/
def aliasTarget (primitives : Assoc Value) (name : String) : String :=
  ((primitives.find? name).getD (.string "any")).text

namespace Statement

/-- The alias of a scalar, under its comment. -/
def aliasText (primitives : Assoc Value) (t : ScalarType) : String :=
  commentText t.description ++ "export type " ++ t.name ++ " = " ++ aliasTarget primitives t.name
    ++ ";\n\n"

theorem write_scalar (l : Layout) (t : ScalarType) (s : Style) :
  (write l (NamedType.scalar t).statement).run s = .ok (aliasText s.primitives t, s)
  := rfl

theorem mapM_write_scalars (l : Layout) (ts : List ScalarType) (s : Style) :
  (ts.mapM fun t => write l (NamedType.scalar t).statement).run s
    = .ok (ts.map (aliasText s.primitives), s)
  := by
  induction ts with
  | nil => rfl
  | cons t rest ih =>
    rw [List.mapM_cons]
    apply run_bind_eq_ok_iff.mpr
    use aliasText s.primitives t, s, write_scalar l t s
    apply run_bind_eq_ok_iff.mpr
    use rest.map (aliasText s.primitives), s, ih
    rfl

/-- The aliases of the scalars stand before everything else that is written of a model. -/
theorem exists_of_writeAll {m : Model} {l : Layout} {rest : List Statement} {s : Style}
    {written : String} (h : (writeAll l (m.statements ++ rest)).run' s = .ok written) :
  ∃ below, written = String.join (m.scalars.values.map (aliasText s.primitives)) ++ below
  := by
  have hscalars : m.statementsOf .scalar
      = m.scalars.values.map fun t => (NamedType.scalar t).statement := by
    rw [Model.statementsOf, Model.registryOf, Assoc.values_mapValues, List.map_map]
    rfl
  have hwritten : (writeAll l (m.statementsOf .scalar)).run s
      = .ok (String.join (m.scalars.values.map (aliasText s.primitives)), s) := by
    apply run_bind_eq_ok_iff.mpr
    rw [hscalars, List.mapM_map]
    exact ⟨_, _, mapM_write_scalars l _ s, rfl⟩
  obtain ⟨s', h⟩ := run'_eq_ok_iff.mp h
  simp only [Model.statements, List.append_assoc] at h
  rw [writeAll_append] at h
  obtain ⟨above, s₁, habove, h⟩ := run_bind_eq_ok_iff.mp h
  obtain ⟨below, s₂, -, h⟩ := run_bind_eq_ok_iff.mp h
  obtain ⟨rfl, -⟩ := run_pure_eq_ok_iff.mp h
  rw [hwritten] at habove
  cases habove
  use below

end Statement

/-! ### Where aliases lead -/

/-- Some name is reached again from itself. -/
def Circular (leads : String → String → Prop) : Prop := ∃ name, Relation.TransGen leads name name

namespace Model

/-- The names of the scalars that are declared. -/
def scalarNames (m : Model) : List String := m.scalars.values.map ScalarType.name

/-- A scalar is an alias of another one, or of itself. -/
def Leads (m : Model) (primitives : Assoc Value) (name other : String) : Prop :=
  name ∈ m.scalarNames ∧ other ∈ m.scalarNames ∧ aliasTarget primitives name = other

/-- A scalar is given another one, or itself, for its primitive. -/
def Gives (m : Model) (given : Assoc Value) (name other : String) : Prop :=
  name ∈ m.scalarNames ∧ other ∈ m.scalarNames ∧ ∃ v, given.last? name = some v ∧ v.text = other

/-- No primitive is given for a scalar. -/
def Unspecified (m : Model) (given : Assoc Value) (name : String) : Prop :=
  name ∈ m.scalarNames ∧ given.last? name = none

/-- Each scalar has the primitive that is given for it, or else `any`. -/
def TargetsGiven (m : Model) (primitives given : Assoc Value) : Prop :=
  ∀ name ∈ m.scalarNames,
    aliasTarget primitives name = ((given.last? name).getD (.string "any")).text

variable {m : Model} {primitives given : Assoc Value} {name other : String}

/-- An alias leads to the scalar that is given for it, or from one without a primitive to `any`. -/
theorem TargetsGiven.leads_iff (h : m.TargetsGiven primitives given) :
  m.Leads primitives name other
    ↔ m.Gives given name other
      ∨ m.Unspecified given name ∧ "any" ∈ m.scalarNames ∧ other = "any"
  := by
  constructor
  · rintro ⟨hname, hother, htarget⟩
    rw [h name hname] at htarget
    cases hlast : given.last? name with
    | none =>
      rw [hlast] at htarget
      obtain rfl : "any" = other := htarget
      exact Or.inr ⟨⟨hname, hlast⟩, hother, rfl⟩
    | some v =>
      rw [hlast] at htarget
      exact Or.inl ⟨hname, hother, v, hlast, htarget⟩
  · rintro (⟨hname, hother, v, hlast, hv⟩ | ⟨⟨hname, hlast⟩, hany, rfl⟩)
    · refine ⟨hname, hother, ?_⟩
      rw [h name hname, hlast]
      apply hv
    · refine ⟨hname, hany, ?_⟩
      rw [h name hname, hlast]
      rfl

theorem TargetsGiven.leads_of_gives (h : m.TargetsGiven primitives given) (name other : String)
    (hgives : m.Gives given name other) :
  m.Leads primitives name other
  := h.leads_iff.mpr (Or.inl hgives)

/-- Aliases lead on by given primitives only, or by them to the first scalar without one and from
there to `any`. -/
theorem TargetsGiven.gives_or_unspecified (h : m.TargetsGiven primitives given)
    (hleads : Relation.TransGen (m.Leads primitives) name other) :
  Relation.TransGen (m.Gives given) name other
    ∨ "any" ∈ m.scalarNames
      ∧ (∃ last, m.Unspecified given last ∧ Relation.ReflTransGen (m.Gives given) name last)
      ∧ Relation.ReflTransGen (m.Leads primitives) "any" other
  := by
  induction hleads using Relation.TransGen.head_induction_on with
  | single hstep =>
    rcases h.leads_iff.mp hstep with hgives | ⟨hunspecified, hany, rfl⟩
    · exact Or.inl (.single hgives)
    · exact Or.inr ⟨hany, ⟨_, hunspecified, .refl⟩, .refl⟩
  | head hstep hrest ih =>
    rcases h.leads_iff.mp hstep with hgives | ⟨hunspecified, hany, rfl⟩
    · rcases ih with hgiven | ⟨hany, ⟨last, hlast, hchain⟩, hafter⟩
      · exact Or.inl (.head hgives hgiven)
      · exact Or.inr ⟨hany, ⟨last, hlast, .head hgives hchain⟩, hafter⟩
    · exact Or.inr ⟨hany, ⟨_, hunspecified, .refl⟩, hrest.to_reflTransGen⟩

/-- Aliases lead in a circle exactly if the given primitives do, or if they lead from a scalar
called `any` to one without a primitive. -/
theorem TargetsGiven.circular_iff (h : m.TargetsGiven primitives given) :
  Circular (m.Leads primitives)
    ↔ Circular (m.Gives given)
      ∨ "any" ∈ m.scalarNames
        ∧ ∃ last, m.Unspecified given last ∧ Relation.ReflTransGen (m.Gives given) "any" last
  := by
  constructor
  · rintro ⟨name, hcircle⟩
    rcases h.gives_or_unspecified hcircle with hgiven | ⟨hany, ⟨last, hlast, hchain⟩, hafter⟩
    · exact Or.inl ⟨name, hgiven⟩
    · -- The circle passes through `any`, and is entered there.
      have hback : m.Leads primitives last "any" := h.leads_iff.mpr (Or.inr ⟨hlast, hany, rfl⟩)
      have hcircle : Relation.TransGen (m.Leads primitives) "any" "any" :=
        .tail' (hafter.trans (Relation.ReflTransGen.mono h.leads_of_gives _ _ hchain)) hback
      rcases h.gives_or_unspecified hcircle with hgiven | ⟨-, hlast, -⟩
      · exact Or.inl ⟨"any", hgiven⟩
      · exact Or.inr ⟨hany, hlast⟩
  · rintro (⟨name, hgiven⟩ | ⟨hany, last, hlast, hchain⟩)
    · exact ⟨name, Relation.TransGen.mono h.leads_of_gives _ _ hgiven⟩
    · have hback : m.Leads primitives last "any" := h.leads_iff.mpr (Or.inr ⟨hlast, hany, rfl⟩)
      exact ⟨"any", .tail' (Relation.ReflTransGen.mono h.leads_of_gives _ _ hchain) hback⟩

end Model

/-! ### Aliases in the output -/

namespace Generator

variable {s : Schema} {g : Generator} {m : Model} {entries : List (String × Value)}

/-- The primitives with which a generator starts to write. -/
def primitives (g : Generator) : Assoc Value := (Style.ofConfig g.config).primitives

/-- The defaults have primitives for the built-in scalars only. -/
theorem aliasTarget_eq (hconfig : Config.ofEntries entries = .ok g.config) {name : String}
    (hname : name ∉ builtinScalars) :
  aliasTarget g.primitives name
    = (((Config.givenPrimitives entries).last? name).getD (.string "any")).text
  := by
  have hprimitives : g.primitives
      = Assoc.insertAll defaultPrimitives (Config.givenPrimitives entries) := by
    change (g.config.primitives.entries?).getD [] = _
    rw [Config.primitives_of_ofEntries hconfig]
    rfl
  have hdefault : defaultPrimitives.find? name = none := Assoc.find?_eq_none_iff.mpr hname
  rw [aliasTarget, hprimitives, Assoc.find?_insertAll, hdefault, Option.or_none]

/-- A declared scalar has the primitive that is given for it, or else `any`. -/
theorem targetsGiven (hs : Model.ofSchema s = .ok g.model)
    (hconfig : Config.ofEntries entries = .ok g.config) (hm : g.hooks.prepare g.model = .ok m) :
  m.TargetsGiven g.primitives (Config.givenPrimitives entries)
  := by
  obtain ⟨ts, hts⟩ := Model.exists_describedBy hs
  obtain rfl := Hooks.prepare_eq_ok hm
  intro name hname
  obtain ⟨t, ht, rfl⟩ := List.mem_map.mp hname
  obtain ⟨key, hentry⟩ := Assoc.mem_values_iff.mp ht
  have hregistered : (key, NamedType.scalar t) ∈ g.model.registryOf .scalar :=
    List.mem_map_of_mem (List.mem_of_mem_filter hentry)
  obtain ⟨hdeclared, -, -⟩ := hts.lists.mem_registryOf_iff.mp hregistered
  apply aliasTarget_eq hconfig (hts.name_not_mem hdeclared)

/-- The schema is written with an alias for each scalar, of the primitive that is given for it or of
`any`.  The aliases lead in a circle exactly if the given primitives do, or if they lead from a
scalar called `any` to one without a primitive. -/
theorem render_aliases (hs : Model.ofSchema s = .ok g.model)
    (hconfig : Config.ofEntries entries = .ok g.config) (hb : g.Bundled)
    (hm : g.hooks.prepare g.model = .ok m) {text : String} (h : g.render true = .ok text) :
  (∃ below, text = "/* tslint:disable */\n"
      ++ String.join (m.scalars.values.map (Statement.aliasText g.primitives)) ++ below)
    ∧ m.TargetsGiven g.primitives (Config.givenPrimitives entries)
    ∧ (Circular (m.Leads g.primitives)
      ↔ Circular (m.Gives (Config.givenPrimitives entries))
        ∨ "any" ∈ m.scalarNames
          ∧ ∃ last, m.Unspecified (Config.givenPrimitives entries) last
            ∧ Relation.ReflTransGen (m.Gives (Config.givenPrimitives entries)) "any" last)
  := by
  have htargets := targetsGiven hs hconfig hm
  refine ⟨?_, htargets, htargets.circular_iff⟩
  obtain ⟨exposed, written, -, hwritten, rfl⟩ := of_render_filtered hb hm h
  obtain ⟨below, rfl⟩ := Statement.exists_of_writeAll hwritten
  use below
  rw [String.append_assoc]
  rfl

/-- A schema with two scalar types. -/
def scalarSchema : Schema where
  types := [{ name := "Date", content := .scalar }, { name := "Moment", content := .scalar }]
  distinct := by decide

/-- Settings that give one scalar for the other. -/
def chainedEntries : List (String × Value) :=
  [("primitives", .object [("Moment", .string "Date")])]

/-- The generator for `scalarSchema` and `chainedEntries`. -/
def chainedGenerator : Generator where
  model := { scalars := [("Date", { name := "Date" }), ("Moment", { name := "Moment" })] }
  config := { primitives := .object (defaultPrimitives ++ [("Moment", .string "Date")]) }

theorem render_aliases_chained :
  chainedGenerator.render true
      = .ok ("/* tslint:disable */\nexport type Date = any;\n\n" ++
        "export type Moment = Date;\n\n")
    ∧ aliasTarget chainedGenerator.primitives "Date" = "any"
    ∧ chainedGenerator.model.Leads chainedGenerator.primitives "Moment" "Date"
    ∧ ¬ Circular (chainedGenerator.model.Leads chainedGenerator.primitives)
  := by
  have hrender : chainedGenerator.render true
      = .ok ("/* tslint:disable */\nexport type Date = any;\n\n" ++
        "export type Moment = Date;\n\n") := by
    decide +kernel
  have hs : Model.ofSchema scalarSchema = .ok chainedGenerator.model := rfl
  have hconfig : Config.ofEntries chainedEntries = .ok chainedGenerator.config := rfl
  have hmake : Generator.make chainedGenerator.model chainedGenerator.config [] {} []
      (fun _ => .ok fun _ => none) = .ok chainedGenerator := rfl
  have hm : chainedGenerator.hooks.prepare chainedGenerator.model
      = .ok chainedGenerator.model := rfl
  obtain ⟨-, htargets, hcircular⟩ :=
    render_aliases hs hconfig (bundled_of_make rfl rfl hmake) hm hrender
  use hrender, htargets "Date" (by decide)
  have hgives : ∀ {name other}, chainedGenerator.model.Gives (Config.givenPrimitives chainedEntries)
      name other → name = "Moment" ∧ other = "Date" := by
    rintro name other ⟨hname, -, v, hlast, rfl⟩
    rcases List.mem_pair.mp hname with rfl | rfl
    · cases hlast
    · cases hlast
      exact ⟨rfl, rfl⟩
  constructor
  · exact htargets.leads_of_gives _ _ ⟨by decide, by decide, .string "Date", rfl, rfl⟩
  · rw [hcircular]
    rintro (⟨name, hcircle⟩ | ⟨hany, -⟩)
    · obtain ⟨_, hfirst, -⟩ := Relation.TransGen.head'_iff.mp hcircle
      obtain ⟨_, -, hlast⟩ := Relation.TransGen.tail'_iff.mp hcircle
      have hne : "Moment" ≠ "Date" := by decide
      apply hne
      rw [← (hgives hfirst).1, (hgives hlast).2]
    · revert hany
      decide

/-- The generator for a scalar that is given for itself. -/
def selfGenerator : Generator where
  model := { scalars := [("Date", { name := "Date" })] }
  config := { primitives := .object (defaultPrimitives ++ [("Date", .string "Date")]) }

/-- A scalar that is given for itself is an alias of itself. -/
theorem render_aliases_self :
  Model.ofSchema
      { types := [{ name := "Date", content := .scalar }], distinct := by decide }
      = .ok selfGenerator.model
    ∧ Config.ofEntries [("primitives", .object [("Date", .string "Date")])]
      = .ok selfGenerator.config
    ∧ selfGenerator.render true
      = .ok "/* tslint:disable */\nexport type Date = Date;\n\n"
    ∧ selfGenerator.model.Leads selfGenerator.primitives "Date" "Date"
    ∧ Circular (selfGenerator.model.Leads selfGenerator.primitives)
  := by
  have hleads : selfGenerator.model.Leads selfGenerator.primitives "Date" "Date" :=
    ⟨by decide, by decide, rfl⟩
  use rfl, rfl
  constructor
  · decide +kernel
  · exact ⟨hleads, "Date", .single hleads⟩

end Generator

end GraphScribe
