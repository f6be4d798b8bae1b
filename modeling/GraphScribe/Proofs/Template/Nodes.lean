import GraphScribe.Proofs.Model.References
import GraphScribe.Template.Parts

/-!
# Directives on nodes

Directives are applied to a schema, its types, their members and arguments.  Every node that
templates see of a model has the usages of the directives of one such place, in their order
(`Model.DescribedBy.usages_of_mem_nodes`).  So what is found on a node is the usage of the first
directive of a name (`Model.DescribedBy.exists_directive`), in which each argument has the value
that is given for it last (`Directive.find?_usage`).
-/

namespace GraphScribe

open Result

/-! ### Usages -/

/-- An argument has the value that is given for it last. -/
theorem Directive.find?_usage (d : Directive) (name : String) :
  d.usage.arguments.find? name = (Assoc.last? d.arguments name).map Literal.toValue
  := by
  change (Assoc.insertAll [] (Assoc.mapValues d.arguments Literal.toValue)).find? name = _
  rw [Assoc.find?_insertAll, Assoc.last?_mapValues]
  apply Option.or_none

/-- The first usage of a directive is that of the first directive of the name. -/
theorem DirectiveUsage.first?_ofDirectives (ds : List Directive) (name : String) :
  first? (ofDirectives ds) name = (ds.find? fun d => d.name = name).map Directive.usage
  := List.find?_map

/-! ### Where directives are applied -/

namespace Schema

/-- The directives of a field, and those of each of its arguments. -/
def fieldDirectives (f : OutputField) : List (List Directive) :=
  f.directives :: f.arguments.map InputValue.directives

/-- The directives of what a type consists of. -/
def contentDirectives : TypeContent → List (List Directive)
  | .object _ fields => fields.flatMap fieldDirectives
  | .interface _ fields => fields.flatMap fieldDirectives
  | .enum values => values.map EnumMember.directives
  | .input fields => fields.map InputValue.directives
  | _ => []

/-- The directives of a type, and those of what it consists of. -/
def typeDirectives (t : SchemaType) : List (List Directive) :=
  t.directives :: contentDirectives t.content

/-- The directives that are applied in a schema, by their places. -/
def placedDirectives (s : Schema) : List (List Directive) :=
  s.directives :: s.declaredTypes.flatMap typeDirectives
    ++ s.directiveDefinitions.flatMap fun d => d.arguments.map InputValue.directives

end Schema

/-! ### Nodes of a model -/

open Template

/-- The node of a field, and those of its arguments. -/
def Field.nodes (f : Field) : List Node := .field f :: f.arguments.map .argument

/-- The nodes of what a type consists of. -/
def NamedType.contentNodes : NamedType → List Node
  | object t => t.fields.flatMap Field.nodes
  | interface t => t.fields.flatMap Field.nodes
  | enum t => t.values.map .enumValue
  | input t => t.fields.flatMap Field.nodes
  | _ => []

/-- The node of a type, and those of what it consists of. -/
def NamedType.nodes (t : NamedType) : List Node := .type t :: t.contentNodes

/-- The nodes of a model that can have directives. -/
def Model.nodes (m : Model) : List Node :=
  .model m :: (searched.flatMap fun kind => (m.registryOf kind).values.flatMap NamedType.nodes)
    ++ (m.argumentTypes.values.flatMap fun t => .arguments t :: t.fields.map .argument)
    ++ m.definedDirectives.values.flatMap fun d => d.arguments.map .argument

/-- A node has the usages of some directives. -/
def Template.Node.Carries (ds : List Directive) (n : Node) : Prop :=
  n.usages = DirectiveUsage.ofDirectives ds

namespace Schema

variable {s : Schema}

theorem carries_arguments {vs : List InputValue} {as : List Argument}
    (h : vs.mapM s.argument = .ok as) :
  List.Forall₂ Node.Carries (vs.map InputValue.directives) (as.map Node.argument)
  := by
  rw [List.forall₂_map_left_iff, List.forall₂_map_right_iff]
  apply (mapM_eq_ok_iff.mp h).imp
  intro v a ha
  obtain ⟨_, _, -, -, rfl⟩ := argument_eq_ok_iff.mp ha
  rfl

theorem carries_field {f : OutputField} {f' : Field} (h : s.field f = .ok f') :
  List.Forall₂ Node.Carries (fieldDirectives f) f'.nodes
  := by
  obtain ⟨_, as, -, has, rfl⟩ := field_eq_ok_iff.mp h
  exact .cons rfl (carries_arguments has)

theorem carries_fields {fields : List OutputField} {fs : List Field}
    (h : fields.mapM s.field = .ok fs) :
  List.Forall₂ Node.Carries (fields.flatMap fieldDirectives) (fs.flatMap Field.nodes)
  := by
  apply List.rel_flatMap (mapM_eq_ok_iff.mp h)
  intro f f' hf
  apply carries_field hf

theorem carries_inputField {v : InputValue} {f : Field} (h : s.inputField v = .ok f) :
  List.Forall₂ Node.Carries [v.directives] f.nodes
  := by
  obtain ⟨_, _, -, -, rfl⟩ := inputField_eq_ok_iff.mp h
  exact .cons rfl .nil

/-- The nodes of a type have the usages of the directives of the type, place by place. -/
theorem carries_type {st : SchemaType} {t : NamedType} (h : s.namedType st = .ok t) :
  List.Forall₂ Node.Carries (typeDirectives st) t.nodes
  := by
  rcases namedType_cases h with ⟨hcontent, rfl⟩ | ⟨_, fields, fs, hcontent, hfields, rfl⟩
    | ⟨_, fields, fs, hcontent, hfields, rfl⟩ | ⟨_, hcontent, rfl⟩ | ⟨values, hcontent, rfl⟩
    | ⟨fields, fs, hcontent, hfields, rfl⟩
  all_goals
    rw [typeDirectives, hcontent]
    refine .cons rfl ?_
  case inl => exact .nil
  case inr.inl => apply carries_fields hfields
  case inr.inr.inl => apply carries_fields hfields
  case inr.inr.inr.inl => exact .nil
  case inr.inr.inr.inr.inl =>
    rw [contentDirectives, NamedType.contentNodes, List.map_map, List.forall₂_map_left_iff,
      List.forall₂_map_right_iff]
    apply List.forall₂_same.mpr
    intro v _
    rfl
  case inr.inr.inr.inr.inr =>
    rw [contentDirectives, List.map_eq_flatMap]
    apply List.rel_flatMap (mapM_eq_ok_iff.mp hfields)
    intro v f hf
    apply carries_inputField hf

end Schema

namespace Model

variable {s : Schema} {m : Model} {ts : List NamedType}

/-- A node of a model has the usages of the directives of a place in the schema, or none. -/
theorem DescribedBy.usages_of_mem_nodes (h : m.DescribedBy s ts) {n : Node} (hn : n ∈ m.nodes) :
  n.usages = [] ∨ ∃ ds ∈ s.placedDirectives, n.Carries ds
  := by
  have htypes : ∀ t ∈ ts, ∀ n ∈ t.nodes, ∃ ds ∈ s.placedDirectives, n.Carries ds := by
    intro t ht n hn
    obtain ⟨st, hst, hdescribed⟩ := exists_of_forall₂ h.types ht
    obtain ⟨ds, hds, hcarries⟩ := exists_of_forall₂ (Schema.carries_type hdescribed) hn
    refine ⟨ds, ?_, hcarries⟩
    apply List.mem_cons_of_mem
    apply List.mem_append_left
    apply List.mem_flatMap_of_mem hst hds
  rw [nodes, List.cons_append, List.cons_append, List.mem_cons, List.mem_append,
    List.mem_append] at hn
  rcases hn with rfl | (hn | hn) | hn
  · exact Or.inr ⟨s.directives, List.mem_cons_self, h.applied⟩
  · obtain ⟨kind, -, hn⟩ := List.mem_flatMap.mp hn
    obtain ⟨t, ht, hn⟩ := List.mem_flatMap.mp hn
    obtain ⟨key, ht⟩ := Assoc.mem_values_iff.mp ht
    apply Or.inr (htypes t (h.of_mem ht).1 n hn)
  · obtain ⟨t, ht, hn⟩ := List.mem_flatMap.mp hn
    obtain ⟨o, ho, ht⟩ := h.argumentTypes t ht
    obtain ⟨t', ht', howner⟩ := List.mem_filterMap.mp ho
    obtain ⟨f, hf, rfl⟩ := List.mem_map.mp ht
    rcases List.mem_cons.mp hn with rfl | hn
    · exact Or.inl rfl
    · apply Or.inr (htypes t' ht' n _)
      have hmem : n ∈ o.fields.flatMap Field.nodes :=
        List.mem_flatMap_of_mem (List.mem_of_mem_filter hf) (List.mem_cons_of_mem _ hn)
      cases t' <;> cases howner
      all_goals apply List.mem_cons_of_mem _ hmem
  · obtain ⟨d, hd, hn⟩ := List.mem_flatMap.mp hn
    obtain ⟨sd, hsd, hdefinition⟩ := h.directives d hd
    obtain ⟨as, has, hdefinition⟩ := bind_eq_ok_iff.mp hdefinition
    cases hdefinition
    obtain ⟨ds, hds, hcarries⟩ := exists_of_forall₂ (Schema.carries_arguments has) hn
    refine Or.inr ⟨ds, ?_, hcarries⟩
    apply List.mem_cons_of_mem
    apply List.mem_append_right
    apply List.mem_flatMap_of_mem hsd hds

/-- The usage of a directive that is found on a node is that of the first directive of the name at a
place in the schema. -/
theorem DescribedBy.exists_directive (h : m.DescribedBy s ts) {n : Node} (hn : n ∈ m.nodes)
    {name : String} {u : DirectiveUsage} (hu : DirectiveUsage.first? n.usages name = some u) :
  ∃ ds ∈ s.placedDirectives, ∃ d, (ds.find? fun d => d.name = name) = some d ∧ d.usage = u
  := by
  rcases h.usages_of_mem_nodes hn with hnone | ⟨ds, hds, hcarries⟩
  · rw [hnone] at hu
    cases hu
  · rw [hcarries, DirectiveUsage.first?_ofDirectives, Option.map_eq_some_iff] at hu
    exact ⟨ds, hds, hu⟩

end Model

end GraphScribe
