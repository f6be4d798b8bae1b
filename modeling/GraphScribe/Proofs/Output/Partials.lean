import GraphScribe.Proofs.Output.Statement

/-!
# Partials as statements

Each of the partials writes a statement from what is in scope.  A filter can be replaced by a value,
which cannot be called, so that a partial succeeds only where the statement does
(`Partial.follows_typeText`, `Partial.follows_enumText`, `Partial.follows_scalarText`,
`Partial.follows_unionText` and `Partial.follows_selectionSetText`), unless functions take the place
of filters (`Filter.Kept`).
-/

namespace GraphScribe

open TypeScript Styled Template

/-! ### Data -/

namespace Template

theorem lift_ok {α : Type} (a : α) :
  (liftM (Except.ok a : Except Failure α) : Styled α) = pure a
  := rfl

theorem Datum.isTruthy_string (text : String) :
  (Datum.string text).isTruthy = !text.isEmpty
  := rfl

theorem Datum.isTruthy_textOrNull (text : String) :
  (Datum.textOrNull (some text)).isTruthy = !text.isEmpty
  := rfl

/-- A variable whose datum does not depend on the primitives. -/
theorem look_eq_pure {scope : Scope} {name : String} {d : Datum} (h : scope.datum name = d)
    (hd : ∀ primitives, d.settle primitives = d) :
  look scope name = pure d
  := by
  funext s
  change Except.ok ((scope.datum name).settle s.primitives, s) = Except.ok (d, s)
  rw [h, hd]

namespace Filter

/-- No function takes the place of a filter that every template can use. -/
def Kept (helpers : Assoc Helper) : Prop :=
  ∀ name ∈ names, ∀ f, helpers.find? name ≠ some (.function f)

theorem follows_apply {helpers : Assoc Helper} (h : Kept helpers) {name : String}
    (hname : name ∈ names) (d : Datum) (arguments : List Datum) :
  Follows (apply helpers name d arguments) (own name d arguments)
  := by
  rw [apply]
  split
  case h_1 helper hfind =>
    apply follows_of_error
    intro s
    cases helper with
    | function f => cases h name hname f hfind
    | value v => exact ⟨_, rfl⟩
  case h_2 =>
    rw [if_pos (by simpa using hname)]
    apply Follows.refl

theorem own_docComment (description : Option String) :
  own "doc_comment" (.textOrNull description) [] = pure (.string (docComment description none))
  := by
  cases description <;> rfl

theorem own_docComment_reason (description reason : Option String) :
  own "doc_comment" (.textOrNull description) [.textOrNull reason]
    = pure (.string (docComment description reason))
  := by
  have hreason : docComment description (commentReason (.textOrNull reason))
      = docComment description reason := by
    cases reason with
    | none => rfl
    | some r =>
      by_cases hr : r = ""
      · subst hr
        rfl
      · rw [commentReason, Datum.isTruthy_textOrNull, if_pos (by simpa using hr)]
        rfl
  rw [← hreason]
  cases description <;> rfl

theorem own_join (ss : List String) (separator : String) :
  own "join" (.strings ss) [.string separator] = pure (.string (separator.intercalate ss))
  := by
  have htexts : ((ss.map Value.string).map Datum.value).map Datum.text = ss := by
    rw [List.map_map, List.map_map]
    apply List.map_id
  change (pure (Datum.string (separator.intercalate
    (((ss.map Value.string).map Datum.value).map Datum.text))) : Styled Datum) = _
  rw [htexts]

theorem own_fieldDeclaration {n : Node} {p : Slot} (h : n.slot? = some p) :
  own "field_declaration" (.node n) [] = Datum.string <$> Style.declaration p
  := by
  have hslot : slotOf (.node n) = .ok p := by
    rw [slotOf, h]
  change (do return Datum.string (← Style.declaration (← slotOf (.node n))) : Styled Datum) = _
  rw [hslot]
  rfl

end Filter

end Template

namespace Partial

variable {env : Environment}

/-! ### Parts of statements -/

theorem follows_filtered (hkept : Filter.Kept env.helpers) {filter : String}
    (hfilter : filter ∈ Filter.names) {d : Datum} {arguments : List Datum} {text : Styled String}
    (h : Filter.own filter d arguments = Datum.string <$> text) :
  Follows (filtered env filter d arguments) text
  := by
  have htext : Datum.text <$> Datum.string <$> text = text := by
    rw [← comp_map]
    apply id_map
  rw [filtered, bind_pure_comp, ← htext, ← h]
  apply (Filter.follows_apply hkept hfilter d arguments).map

theorem follows_filtered_pure (hkept : Filter.Kept env.helpers) {filter : String}
    (hfilter : filter ∈ Filter.names) {d : Datum} {arguments : List Datum} {text : String}
    (h : Filter.own filter d arguments = pure (.string text)) :
  Follows (filtered env filter d arguments) (pure text)
  := by
  apply follows_filtered hkept hfilter h

theorem follows_commentOf (hkept : Filter.Kept env.helpers) {d : Datum}
    (description : Option String) (h : d.member "description" = .ok (.textOrNull description)) :
  Follows (commentOf env d) (pure (Statement.commentText description))
  := by
  rw [commentOf, h, lift_ok, pure_bind]
  cases description with
  | none => apply Follows.refl
  | some text =>
    by_cases htext : text.isEmpty
    · rw [if_neg (by simp [Datum.isTruthy_textOrNull, htext])]
      simp only [Statement.commentText, htext, if_true]
      apply Follows.refl
    · rw [if_pos (by simp [Datum.isTruthy_textOrNull, htext]), bind_pure_comp]
      simp only [Statement.commentText, htext]
      exact (follows_filtered_pure hkept (by decide) (Filter.own_docComment (some text))).map
        fun comment => comment ++ "\n"

theorem follows_extendsClause (hkept : Filter.Kept env.helpers) (extended : List String) :
  Follows (extendsClause env (.strings extended)) (pure (Statement.extendsText extended))
  := by
  cases extended with
  | nil => apply Follows.refl
  | cons first rest =>
    exact (follows_filtered_pure hkept (by decide) (Filter.own_join (first :: rest) ", ")).map
      fun names => " extends " ++ names

/-- A field of an interface is written as its line. -/
theorem follows_fieldText (hkept : Filter.Kept env.helpers) {n : Node} {l : InterfaceLine}
    (hslot : n.slot? = some l.slot)
    (hdescription : (Datum.node n).member "description" = .ok (.textOrNull l.description))
    (hdeprecation : (Datum.node n).member "deprecation_reason" = .ok (.textOrNull l.deprecation)
      ∨ (Datum.node n).member "deprecation_reason" = .ok .missing ∧ l.deprecation = none) :
  Follows (fieldText env (.node n)) (Statement.lineText l)
  := by
  have hcomment : ∃ reason, (Datum.node n).member "deprecation_reason" = .ok reason
      ∧ Filter.own "doc_comment" (.textOrNull l.description) [reason]
        = pure (.string (docComment l.description l.deprecation)) := by
    rcases hdeprecation with h | ⟨h, hnone⟩
    · refine ⟨_, h, ?_⟩
      apply Filter.own_docComment_reason
    · refine ⟨_, h, ?_⟩
      rw [hnone]
      apply Filter.own_docComment_reason l.description none
  obtain ⟨reason, hreason, hown⟩ := hcomment
  rw [fieldText, hdescription, hreason, lift_ok, pure_bind, lift_ok, pure_bind]
  have happly := Filter.follows_apply hkept (show "doc_comment" ∈ Filter.names by decide)
    (.textOrNull l.description) [reason]
  rw [hown] at happly
  apply (happly.bind fun d => Follows.refl _).trans
  rw [pure_bind, Statement.lineText]
  have habove : ∀ comment, (if (Datum.string comment).isTruthy then "  " ++ comment ++ "\n" else "")
      = if comment.isEmpty then "" else "  " ++ comment ++ "\n" := by
    intro comment
    cases h : comment.isEmpty <;> simp [Datum.isTruthy_string, h]
  rw [← habove]
  apply (follows_filtered hkept (by decide) (Filter.own_fieldDeclaration hslot)).bind
  intro declaration
  apply Follows.refl

/-! ### Statements -/

section

variable {scope : Scope} {l : Layout}

theorem look_node {name : String} {n : Node} (h : scope.datum name = .node n) :
  look scope name = pure (.node n)
  := look_eq_pure h fun _ => rfl

theorem joined_nodes {α : Type} (node : α → Node) (xs : List α) (write : Datum → Styled String) :
  joined (.nodes node xs) write = String.join <$> (xs.map fun x => .node (node x)).mapM write
  := rfl

theorem follows_joined {α : Type} {node : α → Node} {line : α → InterfaceLine} {xs : List α}
    {write : Datum → Styled String} (h : ∀ x, Follows (write (.node (node x)))
      (Statement.lineText (line x))) :
  Follows (joined (.nodes node xs) write) (String.join <$> (xs.map line).mapM Statement.lineText)
  := by
  rw [joined_nodes, List.mapM_map, List.mapM_map]
  apply Follows.map
  apply Follows.mapM
  intro x _
  apply h x

/-- An interface is written from the parts of what has fields. -/
theorem follows_typeText (hkept : Filter.Kept env.helpers) {n : Node}
    (hscope : scope.datum "type" = .node n) {name : String} {description : Option String}
    {extended : List String} {lines : List InterfaceLine} {interfaces fields : Datum}
    (hname : (Datum.node n).member "name" = .ok (.string name))
    (hdescription : (Datum.node n).member "description" = .ok (.textOrNull description))
    (hinterfaces : (Datum.node n).member "interfaces" = .ok interfaces)
    (hclause : Follows (extendsClause env interfaces) (pure (Statement.extendsText extended)))
    (hfields : (Datum.node n).member "fields" = .ok fields)
    (hlines : Follows (joined fields (fieldText env))
      (String.join <$> lines.mapM Statement.lineText)) :
  Follows (typeText env scope) (Statement.write l (.interface name description extended lines))
  := by
  rw [typeText, look_node hscope, pure_bind]
  apply ((follows_commentOf hkept description hdescription).bind fun _ => Follows.refl _).trans
  rw [pure_bind, hname, lift_ok, pure_bind, hinterfaces, lift_ok, pure_bind]
  apply (hclause.bind fun _ => Follows.refl _).trans
  rw [pure_bind, hfields, lift_ok, pure_bind]
  apply (hlines.bind fun _ => Follows.refl _).trans
  rw [bind_map_left]
  apply Follows.refl

theorem follows_fieldText_field (hkept : Filter.Kept env.helpers) (f : Field) :
  Follows (fieldText env (.node (.field f))) (Statement.lineText f.line)
  := follows_fieldText hkept rfl rfl (Or.inl rfl)

theorem follows_fieldText_argument (hkept : Filter.Kept env.helpers) (a : Argument) :
  Follows (fieldText env (.node (.argument a))) (Statement.lineText a.line)
  := follows_fieldText hkept rfl rfl (Or.inr ⟨rfl, rfl⟩)

/-- Object, interface and input types are written as interfaces. -/
theorem follows_typeText_type (hkept : Filter.Kept env.helpers) {t : NamedType}
    (hscope : scope.datum "type" = .node (.type t))
    (hkind : t.kind = .object ∨ t.kind = .interface ∨ t.kind = .inputObject) :
  Follows (typeText env scope) (Statement.write l t.statement)
  := by
  cases t with
  | object t =>
    exact follows_typeText hkept hscope rfl rfl rfl (follows_extendsClause hkept t.interfaces) rfl
      (follows_joined (follows_fieldText_field hkept))
  | interface t =>
    exact follows_typeText hkept hscope rfl rfl rfl (Follows.refl _) rfl
      (follows_joined (follows_fieldText_field hkept))
  | input t =>
    exact follows_typeText hkept hscope rfl rfl rfl (Follows.refl _) rfl
      (follows_joined (follows_fieldText_field hkept))
  | _ => simp [NamedType.kind] at hkind

theorem follows_typeText_arguments (hkept : Filter.Kept env.helpers) {t : ArgumentsType}
    (hscope : scope.datum "type" = .node (.arguments t)) :
  Follows (typeText env scope) (Statement.write l t.statement)
  := follows_typeText hkept hscope rfl rfl rfl (Follows.refl _) rfl
      (follows_joined (follows_fieldText_argument hkept))

theorem look_primitives {name : String} (h : scope.datum name = .primitives) :
  look scope name = (do return .value (.object (← get).primitives) : Styled Datum)
  := by
  funext s
  change Except.ok ((scope.datum name).settle s.primitives, s) = _
  rw [h]
  rfl

/-- The target of a scalar is looked up among the primitives. -/
theorem call_get_primitives {β : Type} (h : scope.datum "primitives" = .primitives) (name : String)
    (f : Datum → Styled β) :
  (do
    let target ← call env.helpers (← (← look scope "primitives").member "get")
      [.string name, .string "any"]
    f target)
    = (do f (.value (((← get).primitives.find? name).getD (.string "any"))) : Styled β)
  := by
  have hentry : ∀ primitives : Assoc Value,
      ((primitives.find? name).map Datum.value).getD (.string "any")
        = .value ((primitives.find? name).getD (.string "any")) := by
    intro primitives
    cases primitives.find? name <;> rfl
  rw [look_primitives h]
  funext s
  change f (((s.primitives.find? name).map Datum.value).getD (.string "any")) s
    = f (.value ((s.primitives.find? name).getD (.string "any"))) s
  rw [hentry]

theorem follows_scalarText (hkept : Filter.Kept env.helpers)
    (hprimitives : scope.datum "primitives" = .primitives) (t : ScalarType) :
  Follows (scalarText env scope (.node (.type (.scalar t))))
    (Statement.write l (NamedType.scalar t).statement)
  := by
  rw [scalarText]
  apply ((follows_commentOf hkept t.description rfl).bind fun _ => Follows.refl _).trans
  rw [pure_bind,
    show (Datum.node (.type (.scalar t))).member "name" = .ok (.string t.name) from rfl,
    lift_ok, pure_bind, call_get_primitives hprimitives]
  apply Follows.refl

theorem follows_unionText (hkept : Filter.Kept env.helpers) (t : UnionType) :
  Follows (unionText env (.node (.type (.union t))))
    (Statement.write l (NamedType.union t).statement)
  := by
  rw [unionText]
  apply ((follows_commentOf hkept t.description rfl).bind fun _ => Follows.refl _).trans
  exact (follows_filtered_pure hkept (by decide) (Filter.own_join t.members " | ")).map
    fun members =>
      Statement.commentText t.description ++ "export type " ++ t.name ++ " = " ++ members ++ ";\n\n"

theorem mapM_nodes_eq_pure {α β : Type} {node : α → Node} {f : Datum → Styled β} {text : α → β}
    (h : ∀ x, f (.node (node x)) = pure (text x)) (xs : List α) :
  (xs.map fun x => Datum.node (node x)).mapM f = pure (xs.map text)
  := by
  induction xs with
  | nil => rfl
  | cons x rest ih => simp [List.mapM_cons, ih, h]

theorem follows_enumText (hkept : Filter.Kept env.helpers) {t : EnumType}
    (hscope : scope.datum "enum" = .node (.type (.enum t))) {asAlias : Datum}
    (hsetting : setting scope "enums_as_types" = pure asAlias)
    (hlayout : asAlias.isTruthy = l.enumsAsTypes) :
  Follows (enumText env scope) (Statement.write l (NamedType.enum t).statement)
  := by
  rw [enumText, look_node hscope, pure_bind]
  apply ((follows_commentOf hkept t.description rfl).bind fun _ => Follows.refl _).trans
  rw [pure_bind, hsetting, pure_bind, hlayout]
  have hliterals : (t.values.map fun v => Datum.node (.enumValue v)).mapM literalText
      = pure (t.values.map fun v => quoteName v.name) := by
    apply mapM_nodes_eq_pure
    intro v
    rfl
  have henumerators : (t.values.map fun v => Datum.node (.enumValue v)).mapM enumeratorText
      = pure (t.values.map fun v => "  " ++ v.name ++ " = " ++ quoteName v.name ++ ",\n") := by
    apply mapM_nodes_eq_pure
    intro v
    rfl
  rw [NamedType.statement, Statement.write, Statement.enumText, List.map_map, List.map_map]
  cases l.enumsAsTypes
  · change Follows ((t.values.map fun v => Datum.node (.enumValue v)).mapM enumeratorText
      >>= fun enumerators => pure (Statement.commentText t.description ++ "export enum " ++
        t.name ++ " \x7b\n" ++ String.join enumerators ++ "\x7d\n")) _
    rw [henumerators, pure_bind]
    simp only [String.append_assoc]
    apply Follows.refl
  · change Follows ((t.values.map fun v => Datum.node (.enumValue v)).mapM literalText
      >>= fun literals => pure (Statement.commentText t.description ++ "export type " ++ t.name ++
        " = " ++ unionOf literals ++ ";\n")) _
    rw [hliterals, pure_bind]
    simp only [String.append_assoc]
    apply Follows.refl

/-! ### Shapes -/

/-- The definition of a shape. -/
theorem follows_selectionSetText {s : Shape} (hscope : scope.datum "shape" = .node (.shape s))
    {flatten : Datum} (hsetting : setting scope "flatten_types" = pure flatten)
    (hlayout : flatten.isTruthy = l.flatten)
    (hmarker : scope.datum "readonly" = .string l.marker) :
  Follows (selectionSetText env scope) (s.definitionText l.flatten l.marker)
  := by
  rw [selectionSetText, hsetting, pure_bind, look_node hscope, pure_bind, hlayout,
    look_eq_pure hmarker fun _ => rfl]
  change Follows (liftM (demandOwn env (shapeFilters l.flatten s)) >>= fun _ =>
    s.definitionText l.flatten l.marker) _
  cases demandOwn env (shapeFilters l.flatten s) with
  | error e =>
    apply follows_of_error
    intro _
    exact ⟨_, rfl⟩
  | ok u => apply Follows.refl

end

end Partial

end GraphScribe
