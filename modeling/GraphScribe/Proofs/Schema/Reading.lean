import GraphScribe.Proofs.Result
import GraphScribe.Proofs.Schema.Closed
import GraphScribe.Schema.OfDocument
import GraphScribe.Schema.OfIntrospection

/-!
# Schemas that are read are closed

Both readers look up the interfaces and members that a type names before they put the schema
together.  A blueprint that does so (`Blueprint.Resolves`) gives a closed schema
(`Blueprint.closed_of_schema`), and so does every document (`Schema.closed_of_ofDocument`) and every
introspection result (`Schema.closed_of_ofIntrospection`).
-/

namespace GraphScribe

open Result

namespace PendingContent

/-- The kind of a type as declared. -/
def kind : PendingContent → Kind
  | scalar => .scalar
  | object _ _ => .object
  | interface _ _ => .interface
  | union _ => .union
  | enum _ => .enum
  | input _ _ => .inputObject

/-- The names that a type refers to, with the kind that each has to be of, once they have been
looked up: its interfaces, or the members of a union. -/
def Names (forms : InputForms) (kind : Kind) (names : List String) : PendingContent → Prop
  | object interfaces _ => kind = .interface ∧ interfaces forms = .ok names
  | interface interfaces _ => kind = .interface ∧ interfaces forms = .ok names
  | union members => kind = .object ∧ members forms = .ok names
  | _ => False

/-- What a type consists of names what it names as declared. -/
theorem of_settle_eq_ok {c : PendingContent} {forms : InputForms} {content : TypeContent}
    (h : c.settle forms = .ok content) :
  content.kind = c.kind
    ∧ (content.interfaces = [] ∨ c.Names forms .interface content.interfaces)
    ∧ (content.members = [] ∨ c.Names forms .object content.members)
  := by
  cases c with
  | scalar =>
    cases h
    exact ⟨rfl, Or.inl rfl, Or.inl rfl⟩
  | object interfaces fields =>
    obtain ⟨names, hnames, h⟩ := bind_eq_ok_iff.mp h
    obtain ⟨fields', -, h⟩ := bind_eq_ok_iff.mp h
    cases h
    exact ⟨rfl, Or.inr ⟨rfl, hnames⟩, Or.inl rfl⟩
  | interface interfaces fields =>
    obtain ⟨names, hnames, h⟩ := bind_eq_ok_iff.mp h
    obtain ⟨fields', -, h⟩ := bind_eq_ok_iff.mp h
    cases h
    exact ⟨rfl, Or.inr ⟨rfl, hnames⟩, Or.inl rfl⟩
  | union members =>
    obtain ⟨names, hnames, h⟩ := bind_eq_ok_iff.mp h
    cases h
    exact ⟨rfl, Or.inl rfl, Or.inr ⟨rfl, hnames⟩⟩
  | enum values =>
    cases h
    exact ⟨rfl, Or.inl rfl, Or.inl rfl⟩
  | input isChoice fields =>
    obtain ⟨fields', -, h⟩ := bind_eq_ok_iff.mp h
    cases h
    exact ⟨rfl, Or.inl rfl, Or.inl rfl⟩

end PendingContent

theorem PendingType.of_settle_eq_ok {t : PendingType} {forms : InputForms} {st : SchemaType}
    (h : t.settle forms = .ok st) :
  st.name = t.name ∧ t.content.settle forms = .ok st.content
  := by
  obtain ⟨content, hcontent, h⟩ := bind_eq_ok_iff.mp h
  cases h
  exact ⟨rfl, hcontent⟩

namespace Blueprint

/-- The blueprint has a type with a name and a kind, or every schema has one. -/
def Has (b : Blueprint) (name : String) (kind : Kind) : Prop :=
  Builtin.kindOf name = some kind ∨ ∃ t ∈ b.types, t.name = name ∧ t.content.kind = kind

/-- No type has the name of a built-in one, and what types name is there. -/
structure Resolves (b : Blueprint) : Prop where
  ordinary : ∀ t ∈ b.types, Builtin.isType t.name = false
  names : ∀ t ∈ b.types, ∀ forms kind names, t.content.Names forms kind names →
    ∀ n ∈ names, b.Has n kind

theorem of_schema_eq_ok {b : Blueprint} {s : Schema} (h : b.schema = .ok s) :
  List.Forall₂ (fun t st => t.settle b.forms = .ok st) b.types s.types
  := by
  obtain ⟨definitions, -, h⟩ := bind_eq_ok_iff.mp h
  obtain ⟨types, htypes, h⟩ := bind_eq_ok_iff.mp h
  split_ifs at h
  cases h
  apply mapM_eq_ok_iff.mp htypes

section

variable {b : Blueprint} {s : Schema}

theorem Resolves.ordinary_of_mem (hb : b.Resolves) (h : b.schema = .ok s) {st : SchemaType}
    (hst : st ∈ s.types) :
  Builtin.isType st.name = false
  := by
  obtain ⟨t, ht, hsettle⟩ := exists_of_forall₂ (of_schema_eq_ok h) hst
  rw [(PendingType.of_settle_eq_ok hsettle).1]
  apply hb.ordinary t ht

/-- What a blueprint has is found in the schema. -/
theorem Resolves.kindOf_eq (hb : b.Resolves) (h : b.schema = .ok s) {name : String} {kind : Kind}
    (hhas : b.Has name kind) :
  s.kindOf name = some kind
  := by
  rcases hhas with hbuiltin | ⟨t, ht, rfl, rfl⟩
  · rw [Schema.kindOf, hbuiltin]
    rfl
  · obtain ⟨st, hst, hsettle⟩ := exists_of_forall₂_left (of_schema_eq_ok h) ht
    obtain ⟨hname, hcontent⟩ := PendingType.of_settle_eq_ok hsettle
    rw [← hname, ← (PendingContent.of_settle_eq_ok hcontent).1]
    apply Schema.kindOf_eq_some_of_mem
    simp [Schema.declaredTypes, hst, hb.ordinary_of_mem h hst]

/-- A blueprint that looks up what its types name gives a closed schema. -/
theorem closed_of_schema (hb : b.Resolves) (h : b.schema = .ok s) :
  s.Closed
  := by
  constructor
  case interfaces =>
    intro st hst i hi
    obtain ⟨t, ht, hsettle⟩ := exists_of_forall₂ (of_schema_eq_ok h) hst
    obtain ⟨-, hnames, -⟩ := PendingContent.of_settle_eq_ok (PendingType.of_settle_eq_ok hsettle).2
    rcases hnames with hnone | hnames
    · rw [hnone] at hi
      cases hi
    · apply hb.kindOf_eq h (hb.names t ht _ _ _ hnames i hi)
  case members =>
    intro st hst n hn
    obtain ⟨t, ht, hsettle⟩ := exists_of_forall₂ (of_schema_eq_ok h) hst
    obtain ⟨-, -, hnames⟩ := PendingContent.of_settle_eq_ok (PendingType.of_settle_eq_ok hsettle).2
    rcases hnames with hnone | hnames
    · rw [hnone] at hn
      cases hn
    · apply hb.kindOf_eq h (hb.names t ht _ _ _ hnames n hn)
  case builtin =>
    intro st hst hbuiltin
    rw [hb.ordinary_of_mem h hst] at hbuiltin
    cases hbuiltin

end

end Blueprint

/-! ### Documents -/

namespace Document

variable {d : Document}

theorem demand_eq_ok_iff {holds : Bool} {cause : Failure} :
  demand holds cause = .ok () ↔ holds = true
  := by
  cases holds <;> simp [demand]

theorem of_namesOfKind_eq_ok {kind : Kind} {names found : List String} {forms : InputForms}
    (h : d.namesOfKind kind names forms = .ok found) :
  ∀ n ∈ found, d.kindOf n = some kind
  := by
  obtain ⟨_, hall, h⟩ := bind_eq_ok_iff.mp h
  cases h
  simpa using demand_eq_ok_iff.mp hall

/-- A type is of the kind that its definition says, and has looked up what it names. -/
theorem of_content_eq_ok {t : TypeDeclaration} {c : PendingContent} (h : d.content t = .ok c) :
  Kind.ofWord? t.body.keyword = some c.kind
    ∧ ∀ forms kind names, c.Names forms kind names → ∀ n ∈ names, d.kindOf n = some kind
  := by
  rw [content] at h
  cases hbody : t.body with
  | scalar =>
    rw [hbody] at h
    obtain ⟨_, -, h⟩ := bind_eq_ok_iff.mp h
    cases h
    exact ⟨rfl, fun _ _ _ hnames => hnames.elim⟩
  | object interfaces fields =>
    rw [hbody] at h
    cases h
    use rfl
    rintro forms kind names ⟨rfl, hnames⟩
    apply of_namesOfKind_eq_ok hnames
  | interface interfaces fields =>
    rw [hbody] at h
    cases h
    use rfl
    rintro forms kind names ⟨rfl, hnames⟩
    apply of_namesOfKind_eq_ok hnames
  | union members =>
    rw [hbody] at h
    cases h
    use rfl
    rintro forms kind names ⟨rfl, hnames⟩
    apply of_namesOfKind_eq_ok hnames
  | enum values =>
    rw [hbody] at h
    obtain ⟨_, -, h⟩ := bind_eq_ok_iff.mp h
    cases h
    exact ⟨rfl, fun _ _ _ hnames => hnames.elim⟩
  | input fields =>
    rw [hbody] at h
    cases h
    exact ⟨rfl, fun _ _ _ hnames => hnames.elim⟩

theorem of_pendingType_eq_ok {t : TypeDeclaration} {p : PendingType} (h : d.pendingType t = .ok p) :
  p.name = t.name ∧ d.content t = .ok p.content
  := by
  obtain ⟨content, hcontent, h⟩ := bind_eq_ok_iff.mp h
  cases h
  exact ⟨rfl, hcontent⟩

theorem types_of_blueprint {b : Blueprint} (h : d.blueprint = .ok b) :
  List.Forall₂ (fun t p => d.pendingType t = .ok p)
    (d.typeDefinitions.filter fun t => !Builtin.isType t.name) b.types
  := by
  obtain ⟨types, htypes, h⟩ := bind_eq_ok_iff.mp h
  cases h
  apply mapM_eq_ok_iff.mp htypes

/-- What a document has a kind for is there when the blueprint is made. -/
theorem has_of_kindOf {b : Blueprint} (h : d.blueprint = .ok b) {name : String} {kind : Kind}
    (hkind : d.kindOf name = some kind) :
  b.Has name kind
  := by
  rw [kindOf] at hkind
  cases hbuiltin : Builtin.kindOf name with
  | some k =>
    rw [hbuiltin] at hkind
    apply Or.inl
    rw [hbuiltin]
    apply hkind
  | none =>
    rw [hbuiltin] at hkind
    obtain ⟨t, ht, hword⟩ := Option.bind_eq_some_iff.mp hkind
    have hname : t.name = name := by simpa using List.find?_some ht
    have hmem : t ∈ d.typeDefinitions.filter fun t => !Builtin.isType t.name := by
      simp [List.mem_of_find?_eq_some ht, hname, Builtin.kindOf_eq_none_iff.mp hbuiltin]
    obtain ⟨p, hp, htp⟩ := exists_of_forall₂_left (types_of_blueprint h) hmem
    obtain ⟨hpname, hcontent⟩ := of_pendingType_eq_ok htp
    apply Or.inr
    use p, hp, hpname.trans hname
    have hword' := (of_content_eq_ok hcontent).1
    rw [hword] at hword'
    cases hword'
    rfl

theorem resolves_of_blueprint {b : Blueprint} (h : d.blueprint = .ok b) :
  b.Resolves
  := by
  constructor
  case ordinary =>
    intro p hp
    obtain ⟨t, ht, htp⟩ := exists_of_forall₂ (types_of_blueprint h) hp
    rw [(of_pendingType_eq_ok htp).1]
    simpa using List.of_mem_filter ht
  case names =>
    intro p hp forms kind names hnames n hn
    obtain ⟨t, ht, htp⟩ := exists_of_forall₂ (types_of_blueprint h) hp
    apply has_of_kindOf h
    apply (of_content_eq_ok (of_pendingType_eq_ok htp).2).2 forms kind names hnames n hn

end Document

/-- The schema of a document is closed. -/
theorem Schema.closed_of_ofDocument {d : Document} {s : Schema} (h : ofDocument d = .ok s) :
  s.Closed
  := by
  rw [ofDocument] at h
  split_ifs at h
  obtain ⟨b, hb, h⟩ := bind_eq_ok_iff.mp h
  apply Blueprint.closed_of_schema (Document.resolves_of_blueprint hb) h

/-! ### Introspection results -/

namespace Introspection

variable {kinds : Kinds}

theorem of_part_eq_ok {α : Type} {x : Pending α} {forms : InputForms} {a : α}
    (h : part x forms = .ok a) :
  x forms = .ok a
  := by
  rw [part] at h
  split at h
  case h_1 b hb =>
    cases h
    apply hb
  all_goals cases h

theorem of_typeOfKind_eq_ok {kind : Kind} {v : Value} {name : String}
    (h : typeOfKind kinds kind v = .ok name) :
  kinds.find? name = some kind
  := by
  obtain ⟨t, -, h⟩ := bind_eq_ok_iff.mp h
  cases t with
  | named n =>
    simp only at h
    split_ifs at h with hkind
    cases h
    apply hkind
  | list item => cases h
  | nonNull inner => cases h

/-- The types of a kind among some references are found under their names. -/
theorem of_mapM_typeOfKind_eq_ok {kind : Kind} {vs : List Value} {names : List String}
    {forms : InputForms}
    (h : (vs.mapM fun v => (typeOfKind kinds kind v : Pending String)) forms = .ok names) :
  ∀ n ∈ names, kinds.find? n = some kind
  := by
  induction vs generalizing names with
  | nil =>
    cases h
    simp
  | cons v rest ih =>
    rw [List.mapM_cons] at h
    obtain ⟨name, hname, h⟩ := bind_eq_ok_iff.mp h
    obtain ⟨others, hothers, h⟩ := bind_eq_ok_iff.mp h
    cases h
    rw [List.forall_mem_cons]
    use of_typeOfKind_eq_ok hname, ih hothers

/-- What a type names is found in the table of kinds. -/
def Finds (kinds : Kinds) (c : PendingContent) : Prop :=
  ∀ forms kind names, c.Names forms kind names → ∀ n ∈ names, kinds.find? n = some kind

theorem of_content_eq_ok {v : Value} {kind : Kind} {c : PendingContent}
    {second : Except Failure PendingContent} (h : content kinds v kind = .ok second)
    (hsecond : second = .ok c) :
  c.kind = kind ∧ Finds kinds c
  := by
  subst hsecond
  cases kind with
  | scalar =>
    cases h
    exact ⟨rfl, fun _ _ _ hnames => hnames.elim⟩
  | object =>
    cases h
    use rfl
    rintro forms kind names ⟨rfl, hnames⟩
    obtain ⟨vs, -, hnames⟩ := bind_eq_ok_iff.mp (of_part_eq_ok hnames)
    apply of_mapM_typeOfKind_eq_ok hnames
  | interface =>
    cases h
    use rfl
    rintro forms kind names ⟨rfl, hnames⟩
    obtain ⟨entry, -, hnames⟩ := bind_eq_ok_iff.mp (of_part_eq_ok hnames)
    cases entry with
    | none =>
      cases hnames
      simp
    | some x =>
      obtain ⟨vs, -, hnames⟩ := bind_eq_ok_iff.mp hnames
      apply of_mapM_typeOfKind_eq_ok hnames
  | union =>
    obtain ⟨members, -, h⟩ := bind_eq_ok_iff.mp h
    cases h
    use rfl
    rintro forms kind names ⟨rfl, hnames⟩
    obtain ⟨vs, -, hnames⟩ := bind_eq_ok_iff.mp (of_part_eq_ok hnames)
    apply of_mapM_typeOfKind_eq_ok hnames
  | enum =>
    obtain ⟨elements, -, h⟩ := bind_eq_ok_iff.mp h
    obtain ⟨entries, -, h⟩ := bind_eq_ok_iff.mp h
    cases hvalues : enumMembers entries with
    | error e =>
      rw [hvalues] at h
      cases h
    | ok values =>
      rw [hvalues] at h
      cases h
      exact ⟨rfl, fun _ _ _ hnames => hnames.elim⟩
  | inputObject =>
    obtain ⟨fields, -, h⟩ := bind_eq_ok_iff.mp h
    obtain ⟨choice, -, h⟩ := bind_eq_ok_iff.mp h
    cases h
    exact ⟨rfl, fun _ _ _ hnames => hnames.elim⟩

theorem of_declaredType_eq_ok {v name : Value} {kind : Kind} {t : PendingType}
    (h : declaredType kinds v kind name = .ok t) :
  name = .string t.name ∧ t.content.kind = kind ∧ Finds kinds t.content
  := by
  obtain ⟨second, hfirst, h⟩ := bind_eq_ok_iff.mp h
  obtain ⟨text, htext, h⟩ := bind_eq_ok_iff.mp h
  obtain ⟨_, -, h⟩ := bind_eq_ok_iff.mp h
  obtain ⟨description, -, h⟩ := bind_eq_ok_iff.mp h
  obtain ⟨c, hsecond, h⟩ := bind_eq_ok_iff.mp h
  have hname : name = .string text := by
    cases name <;> cases htext
    rfl
  have ht : t = { name := text, description, content := c } := by
    split_ifs at h
    · obtain ⟨_, -, h⟩ := bind_eq_ok_iff.mp h
      cases h
      rfl
    · cases h
      rfl
  subst ht
  use hname
  apply of_content_eq_ok hfirst hsecond

/-- What is known of a type that has been read as one of a kind. -/
def ReadAs (kinds : Kinds) (name : Value) (kind : Kind) (t : PendingType) : Prop :=
  name = .string t.name
    ∧ (Builtin.isType t.name = false → t.content.kind = kind ∧ Finds kinds t.content)

theorem readAs_of_declaredType {v name : Value} {kind : Kind} {t : PendingType}
    (h : declaredType kinds v kind name = .ok t) :
  ReadAs kinds name kind t
  := by
  obtain ⟨hname, hcontent⟩ := of_declaredType_eq_ok h
  use hname
  intro _
  apply hcontent

/-- A type has the name and the kind that it is given.  What it names is found, unless it is built
in. -/
theorem of_pendingType_eq_ok {v : Value} {t : PendingType} (h : pendingType kinds v = .ok t) :
  ∃ name kind, required v "name" = .ok name ∧ kindOf? v = some kind ∧ ReadAs kinds name kind t
  := by
  obtain ⟨name, hname, h⟩ := bind_eq_ok_iff.mp h
  cases hkind : kindOf? v with
  | none =>
    rw [hkind] at h
    cases h
  | some kind =>
    use name, kind, hname, rfl
    simp only [hkind] at h
    replace h := of_checked_eq_ok h
    split at h
    case h_1 text =>
      split_ifs at h with hbuiltin
      · cases h
        use rfl
        intro hordinary
        rw [hbuiltin] at hordinary
        cases hordinary
      · apply readAs_of_declaredType h
    case h_2 =>
      split_ifs at h
      apply readAs_of_declaredType h

/-- The kind that is entered for a type. -/
def entryKind (t : PendingType) : Kind := (Builtin.kindOf t.name).getD t.content.kind

theorem ReadAs.getD_eq {name : Value} {kind : Kind} {t : PendingType}
    (h : ReadAs kinds name kind t) :
  (Builtin.kindOf t.name).getD kind = entryKind t
  := by
  rw [entryKind]
  cases hbuiltin : Builtin.kindOf t.name with
  | some k => rfl
  | none => rw [(h.2 (Builtin.kindOf_eq_none_iff.mp hbuiltin)).1]

/-- The kinds that are entered are those of the types, where a later type of the same name takes the
place of an earlier one. -/
theorem kindsOf_eq {vs : List Value} {ts : List PendingType}
    (h : List.Forall₂ (fun v t => pendingType kinds v = .ok t) vs ts) :
  kindsOf vs = (Assoc.ofList (ts.map fun t => (t.name, t))).mapValues entryKind
  := by
  rw [Assoc.ofList, Assoc.mapValues_insertAll, kindsOf, Assoc.ofList]
  congr 1
  induction h with
  | nil => rfl
  | cons ht _ ih =>
    obtain ⟨name, kind, hname, hkind, hread⟩ := of_pendingType_eq_ok ht
    rw [hread.1] at hname
    rw [List.filterMap_cons]
    simp only [hname, hkind, hread.getD_eq, ih]
    rfl

/-- The types of a blueprint are read with the kinds of all types, and one is kept for each name. -/
theorem types_of_blueprint {v : Value} {b : Blueprint} (h : blueprint v = .ok b) :
  ∃ vs ts, List.Forall₂ (fun v t => pendingType (kindsOf vs) v = .ok t) vs ts
    ∧ b.types = (Assoc.ofList (ts.map fun t => (t.name, t))).values.filter
        fun t => !Builtin.isType t.name
  := by
  obtain ⟨types, -, h⟩ := bind_eq_ok_iff.mp h
  obtain ⟨listed, -, h⟩ := bind_eq_ok_iff.mp h
  obtain ⟨ts, hts, h⟩ := bind_eq_ok_iff.mp h
  obtain ⟨query, -, h⟩ := bind_eq_ok_iff.mp h
  obtain ⟨mutation, -, h⟩ := bind_eq_ok_iff.mp h
  obtain ⟨subscription, -, h⟩ := bind_eq_ok_iff.mp h
  cases h
  use listed, ts, mapM_eq_ok_iff.mp hts

theorem of_mem_ofList {ts : List PendingType} {name : String} {t : PendingType}
    (h : (name, t) ∈ Assoc.ofList (ts.map fun t => (t.name, t))) :
  t ∈ ts ∧ t.name = name
  := by
  rcases Assoc.mem_of_mem_insertAll h with h | h
  · cases h
  · obtain ⟨t', ht', heq⟩ := List.mem_map.mp h
    cases heq
    exact ⟨ht', rfl⟩

theorem has_of_find? {b : Blueprint} {vs : List Value} {ts : List PendingType}
    (hread : List.Forall₂ (fun v t => pendingType kinds v = .ok t) vs ts)
    (htypes : b.types = (Assoc.ofList (ts.map fun t => (t.name, t))).values.filter
      fun t => !Builtin.isType t.name)
    {name : String} {kind : Kind} (h : (kindsOf vs).find? name = some kind) :
  b.Has name kind
  := by
  rw [kindsOf_eq hread, Assoc.find?_mapValues, Option.map_eq_some_iff] at h
  obtain ⟨t, ht, rfl⟩ := h
  have hentry := Assoc.mem_of_find?_eq_some ht
  obtain ⟨-, rfl⟩ := of_mem_ofList hentry
  cases hbuiltin : Builtin.kindOf t.name with
  | some k =>
    apply Or.inl
    rw [hbuiltin, entryKind, hbuiltin]
    rfl
  | none =>
    apply Or.inr
    use t
    constructor
    · rw [htypes, List.mem_filter, Builtin.kindOf_eq_none_iff.mp hbuiltin]
      use Assoc.mem_values_iff.mpr ⟨t.name, hentry⟩
      rfl
    · simp [entryKind, hbuiltin]

theorem resolves_of_blueprint {v : Value} {b : Blueprint} (h : blueprint v = .ok b) :
  b.Resolves
  := by
  obtain ⟨vs, ts, hread, htypes⟩ := types_of_blueprint h
  have hordinary : ∀ t ∈ b.types, Builtin.isType t.name = false := by
    intro t ht
    rw [htypes] at ht
    simpa using List.of_mem_filter ht
  constructor
  case ordinary => apply hordinary
  case names =>
    intro t ht forms kind names hnames n hn
    have hmem := ht
    rw [htypes] at hmem
    obtain ⟨key, hkey⟩ := Assoc.mem_values_iff.mp (List.mem_of_mem_filter hmem)
    obtain ⟨v, -, hv⟩ := exists_of_forall₂ hread (of_mem_ofList hkey).1
    obtain ⟨_, _, -, -, -, hfinds⟩ := of_pendingType_eq_ok hv
    apply has_of_find? hread htypes
    apply (hfinds (hordinary t ht)).2 forms kind names hnames n hn

end Introspection

/-- The schema of an introspection result is closed. -/
theorem Schema.closed_of_ofIntrospection {v : Value} {s : Schema} (h : ofIntrospection v = .ok s) :
  s.Closed
  := by
  cases v <;> try cases h
  case object entries =>
    rw [ofIntrospection] at h
    split at h
    · obtain ⟨b, hb, h⟩ := bind_eq_ok_iff.mp h
      apply Blueprint.closed_of_schema (Introspection.resolves_of_blueprint hb) h
    · cases h

end GraphScribe
