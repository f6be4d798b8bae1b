import GraphScribe.Proofs.Model.References
import GraphScribe.Proofs.Output.Rendering
import GraphScribe.Proofs.TypeScript.Comment

/-!
# Descriptions and deprecations

A `Remark` is what is said of a member of a type: a field, or a value of an enum.  The model of a
schema keeps the remarks of the schema, except that fields of input types lose their deprecations
(`Remark.inModel`).  Where an interface is rendered, each member stands under a comment with the
lines of its description and, if it is deprecated for a reason that is not empty, a line with the
reason (`Model.ofSchema_documents`).
-/

namespace GraphScribe

open Result TypeScript Styled

/-- What a member of a type is called, what describes it, and why it should not be used. -/
structure Remark where
  name : String
  description : Option String
  deprecation : Option String

/-! ### Remarks of schemas and models -/

/-- What is said of a field. -/
def OutputField.remark (f : OutputField) : Remark := ⟨f.name, f.description, f.deprecation⟩

/-- What is said of a field of an input type. -/
def InputValue.remark (v : InputValue) : Remark := ⟨v.name, v.description, v.deprecation⟩

/-- What is said of a value of an enum. -/
def EnumMember.remark (m : EnumMember) : Remark := ⟨m.name, m.description, m.deprecation⟩

/-- What is said of the members of a type. -/
def TypeContent.remarks : TypeContent → List Remark
  | object _ fields => fields.map OutputField.remark
  | interface _ fields => fields.map OutputField.remark
  | enum values => values.map EnumMember.remark
  | input fields => fields.map InputValue.remark
  | _ => []

/-- What is said of a field in a model. -/
def Field.remark (f : Field) : Remark := ⟨f.name, f.description, f.deprecation⟩

/-- What is said of a value of an enum in a model. -/
def EnumValue.remark (v : EnumValue) : Remark := ⟨v.name, v.description, v.deprecation⟩

/-- What is said of the members of a type in a model. -/
def NamedType.remarks : NamedType → List Remark
  | enum t => t.values.map EnumValue.remark
  | t => t.fields.map Field.remark

/-- What becomes of a remark in the model, for a member of a type of some kind: the deprecations of
fields of input types are left out. -/
def Remark.inModel (kind : Kind) (r : Remark) : Remark :=
  if kind = .inputObject then { r with deprecation := none } else r

namespace Schema

variable {s : Schema}

theorem remark_of_field {f : OutputField} {f' : Field} (h : s.field f = .ok f') :
  f'.remark = f.remark
  := by
  obtain ⟨kind, arguments, -, -, rfl⟩ := field_eq_ok_iff.mp h
  rfl

theorem remark_of_inputField {v : InputValue} {f : Field} (h : s.inputField v = .ok f) :
  f.remark = v.remark.inModel .inputObject
  := by
  obtain ⟨kind, default, -, -, rfl⟩ := inputField_eq_ok_iff.mp h
  rfl

/-- What is said of fields one by one is said of all of them. -/
theorem remarks_of_mapM {α : Type} {remark : α → Remark} {describe : α → Except Failure Field}
    {kind : Kind} {xs : List α} {fs : List Field} (h : xs.mapM describe = .ok fs)
    (hremark : ∀ x f, describe x = .ok f → f.remark = (remark x).inModel kind) :
  fs.map Field.remark = (xs.map remark).map (Remark.inModel kind)
  := by
  rw [List.map_map]
  apply map_eq_of_forall₂ (mapM_eq_ok_iff.mp h)
  intro x _ f hf
  apply hremark x f hf

/-- What is said of the members of a type is said of them in the model. -/
theorem remarks_of_namedType {st : SchemaType} {t : NamedType} (h : s.namedType st = .ok t) :
  t.remarks = st.content.remarks.map (Remark.inModel st.content.kind)
  := by
  rcases namedType_cases h with ⟨hcontent, rfl⟩ | ⟨_, _, _, hcontent, hfields, rfl⟩
    | ⟨_, _, _, hcontent, hfields, rfl⟩ | ⟨_, hcontent, rfl⟩ | ⟨_, hcontent, rfl⟩
    | ⟨_, _, hcontent, hfields, rfl⟩
  all_goals rw [hcontent]
  · rfl
  · apply remarks_of_mapM hfields fun _ _ => remark_of_field
  · apply remarks_of_mapM hfields fun _ _ => remark_of_field
  · rfl
  · simp [TypeContent.remarks, NamedType.remarks, Remark.inModel, TypeContent.kind,
      Function.comp_def, enumValue, EnumValue.remark, EnumMember.remark]
  · apply remarks_of_mapM hfields fun _ _ => remark_of_inputField

end Schema

/-! ### Remarks in the output -/

namespace Remark

/-- The lines that a remark makes: those of the description, and one for the deprecation unless its
reason is empty. -/
def lines (r : Remark) : List String :=
  Text.lines (r.description.getD "") ++
    match r.deprecation with
    | none => []
    | some reason => if reason = "" then [] else ["@deprecated " ++ reason]

/-- The comment above a member, if there is anything to say. -/
def comment (r : Remark) : String :=
  if r.lines = [] then "" else "  " ++ commentOfLines r.lines ++ "\n"

/-- A declaration of the member, under its comment. -/
def IsDeclaredBy (r : Remark) (line : String) : Prop :=
  ∃ marker ∈ ["", "readonly "], ∃ optional ∈ ["", "?"], ∃ type : String,
    line = r.comment ++ "  " ++ (marker ++ r.name ++ optional ++ ": " ++ type ++ ";") ++ "\n"

/-- The text holds an interface with the declarations of some members, in their order. -/
def InterfaceIn (text name : String) (rs : List Remark) : Prop :=
  ∃ (above extended below : String) (lines : List String), List.Forall₂ IsDeclaredBy rs lines
    ∧ text = above ++ ("export interface " ++ name ++ extended ++ " \x7b\n" ++ String.join lines
      ++ "\x7d\n") ++ below

end Remark

/-- What the line of an interface says of its member. -/
def InterfaceLine.remark (l : InterfaceLine) : Remark := ⟨l.slot.name, l.description, l.deprecation⟩

namespace Statement

variable {s s' : Style} {text : String}

/-- The lines of an interface. -/
def lines : Statement → List InterfaceLine
  | interface _ _ _ lines => lines
  | _ => []

theorem commentLines_eq (l : InterfaceLine) :
  commentLines l.description l.deprecation = l.remark.lines
  := by
  cases h : l.deprecation with
  | none => simp [commentLines, Remark.lines, InterfaceLine.remark, h]
  | some reason =>
    by_cases hreason : reason = "" <;>
      simp [commentLines, Remark.lines, InterfaceLine.remark, h, hreason]

theorem comment_eq (l : InterfaceLine) :
  (if (docComment l.description l.deprecation).isEmpty then ""
    else "  " ++ docComment l.description l.deprecation ++ "\n") = l.remark.comment
  := by
  rw [docComment, commentLines_eq, Remark.comment]
  simp [Comment.commentOfLines_eq_empty_iff]

/-- A line of an interface declares its member under the comment for it. -/
theorem isDeclaredBy_of_lineText {l : InterfaceLine} (h : (lineText l).run s = .ok (text, s')) :
  l.remark.IsDeclaredBy text
  := by
  obtain ⟨declaration, s₁, hdeclaration, h⟩ := run_bind_eq_ok_iff.mp h
  obtain ⟨rfl, -⟩ := run_pure_eq_ok_iff.mp h
  obtain ⟨s₂, _, hget, hdeclaration⟩ := run_bind_eq_ok_iff.mp hdeclaration
  obtain ⟨v, _, -, hdeclaration⟩ := run_bind_eq_ok_iff.mp hdeclaration
  obtain ⟨rfl, -⟩ := run_pure_eq_ok_iff.mp hdeclaration
  have hmarker : s₂.readonly ∈ ["", "readonly "] := by
    rw [Style.readonly]
    split_ifs <;> simp
  have hoptional : s₂.optionalMark l.slot ∈ ["", "?"] := by
    rw [Style.optionalMark]
    split_ifs <;> simp
  use s₂.readonly, hmarker, s₂.optionalMark l.slot, hoptional, v.text
  rw [comment_eq]
  rfl

/-- What is written behind one text, and before another one, is found in the whole. -/
theorem interfaceIn_append {name before after : String} {rs : List Remark}
    (h : Remark.InterfaceIn text name rs) :
  Remark.InterfaceIn (before ++ text ++ after) name rs
  := by
  obtain ⟨above, extended, below, ls, hls, rfl⟩ := h
  use before ++ above, extended, below ++ after, ls, hls
  simp only [String.append_assoc]

/-- An interface is written with a declaration for each of its lines. -/
theorem interfaceIn_of_write {l : Layout} {name : String} {description : Option String}
    {extended : List String} {ls : List InterfaceLine}
    (h : (write l (.interface name description extended ls)).run s = .ok (text, s')) :
  Remark.InterfaceIn text name (ls.map InterfaceLine.remark)
  := by
  obtain ⟨texts, s₁, htexts, h⟩ := run_bind_eq_ok_iff.mp h
  obtain ⟨rfl, -⟩ := run_pure_eq_ok_iff.mp h
  use commentText description, extendsText extended, "", texts
  constructor
  · rw [List.forall₂_map_left_iff]
    apply (forall₂_of_mapM htexts).imp
    rintro line text ⟨s₂, s₃, hline⟩
    apply isDeclaredBy_of_lineText hline
  · simp only [String.append_assoc, String.append_empty]

/-- What is written for one of some statements is found in what is written for all of them. -/
theorem interfaceIn_of_writeAll {l : Layout} {xs : List Statement} {name : String}
    {description : Option String} {extended : List String} {ls : List InterfaceLine}
    (hx : .interface name description extended ls ∈ xs)
    (h : (writeAll l xs).run s = .ok (text, s')) :
  Remark.InterfaceIn text name (ls.map InterfaceLine.remark)
  := by
  obtain ⟨texts, s₁, htexts, h⟩ := run_bind_eq_ok_iff.mp h
  obtain ⟨rfl, -⟩ := run_pure_eq_ok_iff.mp h
  obtain ⟨written, hwritten, s₂, s₃, hwrite⟩ := exists_of_forall₂_left (forall₂_of_mapM htexts) hx
  obtain ⟨before, after, rfl⟩ := List.append_of_mem hwritten
  rw [String.join_append, String.join_cons, ← String.append_assoc]
  apply interfaceIn_append (interfaceIn_of_write hwrite)

end Statement

namespace NamedType

/-- The types that are rendered as interfaces. -/
def interfaceKinds : List Kind := [.object, .interface, .inputObject]

/-- The statement for a type with fields is an interface with a line for each field. -/
theorem exists_statement_eq {t : NamedType} (h : t.kind ∈ interfaceKinds) :
  ∃ description extended ls, t.statement = .interface t.name description extended ls
    ∧ ls.map InterfaceLine.remark = t.remarks
  := by
  cases t with
  | object t => exact ⟨_, _, _, rfl, List.map_map⟩
  | interface t => exact ⟨_, _, _, rfl, List.map_map⟩
  | input t => exact ⟨_, _, _, rfl, List.map_map⟩
  | _ => simp [interfaceKinds, kind] at h

end NamedType

namespace Model

theorem mem_statements_of_mem {m : Model} {kind : Kind} {key : String} {t : NamedType}
    (ht : (key, t) ∈ m.registryOf kind) :
  t.statement ∈ m.statements
  := by
  have hkind : t.statement ∈ m.statementsOf kind :=
    List.mem_map_of_mem (Assoc.mem_values_iff.mpr ⟨key, ht⟩)
  simp only [statements, List.mem_append]
  cases kind <;> tauto

/-- What a model says of the members of the types of a schema: every declared type is there, and the
remarks of its members are those of the schema, less the deprecations of fields of input types. -/
structure Documents (m : Model) (s : Schema) : Prop where
  declared : ∀ st ∈ s.declaredTypes, ∃ t, (st.name, t) ∈ m.registryOf st.content.kind
  remarks : ∀ kind key t, (key, t) ∈ m.registryOf kind → ∃ st ∈ s.declaredTypes, st.name = key
    ∧ st.content.kind = kind ∧ t.remarks = st.content.remarks.map (Remark.inModel kind)

theorem DescribedBy.documents {s : Schema} {m : Model} {ts : List NamedType}
    (h : m.DescribedBy s ts) :
  m.Documents s
  := by
  constructor
  case declared =>
    intro st hst
    obtain ⟨t, ht, hdescribed⟩ := exists_of_forall₂_left h.types hst
    obtain ⟨hname, hkind⟩ := Schema.of_namedType_eq_ok hdescribed
    use t
    apply h.lists.mem_registryOf_iff.mpr ⟨ht, hkind, hname⟩
  case remarks =>
    intro kind key t ht
    obtain ⟨hts, rfl, rfl⟩ := h.lists.mem_registryOf_iff.mp ht
    obtain ⟨st, hst, hdescribed⟩ := exists_of_forall₂ h.types hts
    obtain ⟨hname, hkind⟩ := Schema.of_namedType_eq_ok hdescribed
    use st, hst, hname.symm, hkind.symm
    rw [hkind]
    apply Schema.remarks_of_namedType hdescribed

/-- The model of a schema keeps every description and every deprecation but those of the fields of
input types.  In the output of a generator for the schema each object, interface and input type has
an interface with a declaration for every member, under a comment with what the model says of it. -/
theorem ofSchema_documents {s : Schema} {m : Model} (h : ofSchema s = .ok m) :
  m.Documents s
    ∧ ∀ (g : Generator) (text : String), g.model = m → g.Bundled → g.hooks.filters = [] →
      g.render true = .ok text →
        ∀ st ∈ s.declaredTypes, st.content.kind ∈ NamedType.interfaceKinds →
          Remark.InterfaceIn text st.name
            (st.content.remarks.map (Remark.inModel st.content.kind))
  := by
  obtain ⟨ts, hts⟩ := exists_describedBy h
  have hdocuments := hts.documents
  use hdocuments
  rintro g text rfl hbundled hfilters hrender st hst hkind
  obtain ⟨exposed, written, -, hwritten, rfl⟩ :=
    Generator.of_render_eq_ok hbundled hfilters hrender
  obtain ⟨s', hwritten⟩ := run'_eq_ok_iff.mp hwritten
  obtain ⟨t, ht⟩ := hdocuments.declared st hst
  obtain ⟨st', hst', hname, -, hremarks⟩ := hdocuments.remarks _ _ _ ht
  -- No other declared type has the name, so that what is found under it is the type itself.
  obtain rfl := List.inj_on_of_nodup_map (s.distinct.sublist (List.filter_sublist.map _)) hst' hst
    hname
  obtain ⟨-, htkind, htname⟩ := hts.lists.mem_registryOf_iff.mp ht
  obtain ⟨description, extended, ls, hstatement, hls⟩ :=
    NamedType.exists_statement_eq (t := t) (by rwa [htkind])
  have hmem : t.statement ∈ g.statements true :=
    List.mem_append_left _ (mem_statements_of_mem ht)
  rw [hstatement, htname] at hmem
  rw [← hremarks, ← hls, ← String.append_empty (s := "/* tslint:disable */\n" ++ written)]
  apply Statement.interfaceIn_append (Statement.interfaceIn_of_writeAll hmem hwritten)

/-- The usage of the directive that deprecates something. -/
def deprecation : Directive := { name := "deprecated", arguments := [("reason", .string "gone")] }

/-- An object type with a deprecated field. -/
def remarkedQuery : SchemaType where
  name := "Query"
  content := .object []
    [{ name := "old", type := .named "String", description := some "Former\nname"
       deprecation := some "gone", directives := [deprecation] },
      { name := "name", type := .named "String", description := some "Name" }]

/-- An input type with a deprecated field. -/
def remarkedFilter : SchemaType where
  name := "Filter"
  content := .input
    [{ name := "since", type := .named "String", deprecation := some "gone"
       directives := [deprecation] }]

/-- A schema with deprecated fields in an object type and in an input type. -/
def remarkedSchema : Schema where
  types := [remarkedQuery, remarkedFilter]
  query := some "Query"
  distinct := by decide

/-- The usage of the directive in the model. -/
def deprecationUsage : DirectiveUsage :=
  { name := "deprecated", arguments := [("reason", .string "gone")] }

/-- The model of `remarkedSchema`. -/
def remarkedModel : Model :=
  { types :=
      [("Query",
          { name := "Query"
            fields :=
              [{ name := "old", descriptor := { name := "String" }, kind := .scalar
                 description := some "Former\nname", deprecation := some "gone"
                 directives := [deprecationUsage] },
                { name := "name", descriptor := { name := "String" }, kind := .scalar
                  description := some "Name" }] })]
    inputs :=
      [("Filter",
          { name := "Filter"
            fields :=
              [{ name := "since", descriptor := { name := "String" }, kind := .scalar
                 directives := [deprecationUsage] }] })]
    queryType := some "Query" }

/-- The output for `remarkedModel`. -/
def remarkedText : String :=
  "/* tslint:disable */\nexport interface Query \x7b\n" ++
    "  /**\n * Former\n * name\n * @deprecated gone\n */\n  old?: string | null;\n" ++
    "  /** Name */\n  name?: string | null;\n\x7d\n" ++
    "export interface Filter \x7b\n  since?: string | null;\n\x7d\n"

theorem ofSchema_documents_sample :
  ofSchema remarkedSchema = .ok remarkedModel ∧ remarkedModel.Documents remarkedSchema
    ∧ Generator.render { model := remarkedModel } true = .ok remarkedText
    ∧ Remark.InterfaceIn remarkedText "Query"
      [⟨"old", some "Former\nname", some "gone"⟩, ⟨"name", some "Name", none⟩]
    ∧ Remark.InterfaceIn remarkedText "Filter" [⟨"since", none, none⟩]
  := by
  have h : ofSchema remarkedSchema = .ok remarkedModel := rfl
  have hmake : Generator.make remarkedModel {} [] {} [] (fun _ => .ok fun _ => none)
      = .ok { model := remarkedModel } := rfl
  have hrender : Generator.render { model := remarkedModel } true = .ok remarkedText := by
    decide +kernel
  obtain ⟨hdocuments, hshown⟩ := ofSchema_documents h
  have hinterface := hshown { model := remarkedModel } remarkedText rfl
    (Generator.bundled_of_make rfl rfl hmake) rfl hrender
  use h, hdocuments, hrender
  constructor
  · apply hinterface remarkedQuery List.mem_cons_self (by decide)
  · apply hinterface remarkedFilter (List.mem_cons_of_mem _ List.mem_cons_self) (by decide)

/-- The model does not say that the field of the input type is deprecated. -/
theorem ofSchema_undocumented :
  ofSchema remarkedSchema = .ok remarkedModel
    ∧ (∃ st ∈ remarkedSchema.declaredTypes, st.name = "Filter"
      ∧ st.content.remarks = [⟨"since", none, some "gone"⟩])
    ∧ ∃ t, ("Filter", t) ∈ remarkedModel.registryOf .inputObject
      ∧ t.remarks = [⟨"since", none, none⟩]
  := by
  use rfl
  constructor
  · use remarkedFilter, List.mem_cons_of_mem _ List.mem_cons_self, rfl
    rfl
  · exact ⟨_, List.mem_cons_self, rfl⟩

end Model

end GraphScribe
