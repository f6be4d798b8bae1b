import GraphScribe.Config
import GraphScribe.Proofs.Assoc
import GraphScribe.Proofs.Result
import GraphScribe.Proofs.Table
import Mathlib.Tactic.Use

/-!
# Layers of a configuration

A setting has the value of the last override that is not null, else the value that is given last
for it in either spelling, else the default (`Config.layered`).  What belongs to no setting becomes
an option (`Config.givenOptions`).  Templates see a setting under its name, unless an option has that
name, and every option under its key (`Config.exposed_layers`).
-/

namespace GraphScribe.Config

open Result

/-! ### Settings by name -/

/-- The names of all settings but the options. -/
def settingNames : List String := Assoc.keys (settings {})

/-- The names of all settings. -/
def fieldNames : List String := "options" :: settingNames

/-- The names of the settings that templates see. -/
def exposedNames : List String :=
  ["immutable_types", "avoid_optionals", "enums_as_types", "flatten_types", "primitives",
    "out_file"]

variable {name : String} {c c' : Config}

theorem exposedNames_subset :
  exposedNames ⊆ settingNames
  := by
  decide

theorem ne_options (hname : name ∈ settingNames) :
  "options" ≠ name
  := by
  rintro rfl
  revert hname
  decide

/-- A setting can be given a value, and nothing else changes. -/
theorem exists_set? (hname : name ∈ fieldNames) (c : Config) (v : Value) :
  ∃ c', c.set? name v = some c'
    ∧ (∀ other ∈ settingNames, c'.settings.find? other
      = if name = other then some v else c.settings.find? other)
    ∧ c'.options = if name = "options" then .ofValue v else c.options
  := by
  rcases List.mem_cons.mp hname with rfl | hsetting
  · refine ⟨_, rfl, ?_, rfl⟩
    intro other hother
    rw [if_neg (ne_options hother)]
    rfl
  · have hset : ∃ c', c.set? name v = some c' ∧ c'.settings = c.settings.insert name v
        ∧ c'.options = c.options := by
      simp only [settingNames, settings, Assoc.keys, List.map_cons, List.map_nil, List.mem_cons,
        List.not_mem_nil, or_false] at hsetting
      rcases hsetting with rfl | rfl | rfl | rfl | rfl | rfl | rfl | rfl | rfl
      all_goals exact ⟨_, rfl, rfl, rfl⟩
    obtain ⟨c', hc', hsettings, hoptions⟩ := hset
    refine ⟨c', hc', ?_, ?_⟩
    · intro other _
      rw [hsettings, Assoc.find?_insert]
    · rw [hoptions, if_neg (Ne.symm (ne_options hsetting))]

theorem set?_eq_none (hname : name ∉ fieldNames) (c : Config) (v : Value) :
  c.set? name v = none
  := by
  unfold set?
  split
  case h_11 => rfl
  all_goals
    exfalso
    apply hname
    decide

/-! ### Reading a mapping -/

/-- The entries of a mapping, with the first spellings of their names. -/
def canonicalEntries (entries : List (String × Value)) : Assoc Value :=
  entries.map fun e => (canonicalName e.1, e.2)

/-- The primitives that a mapping gives. -/
def givenPrimitives (entries : List (String × Value)) : Assoc Value :=
  ((Assoc.last? entries "primitives").bind Value.entries?).getD []

/-- The setting that a mapping gives: the value that is entered last for it in either spelling, or
else the default one.  Primitives are entered over the default ones. -/
def givenSetting (entries : List (String × Value)) (name : String) : Option Value :=
  if name = "primitives" then
    some (.object (Assoc.insertAll defaultPrimitives (givenPrimitives entries)))
  else (Assoc.last? (canonicalEntries entries) name).or (Assoc.find? (settings {}) name)

/-- The entries of a mapping that belong to no setting. -/
def freeEntries (entries : List (String × Value)) : Assoc Value :=
  entries.filter fun e => canonicalName e.1 ∉ fieldNames

/-- The options that a mapping gives: those among its settings, over which its other free entries are
entered. -/
def givenOptions (entries : List (String × Value)) : Except Failure (Table Value) := do
  let options ← tableOf ((Assoc.find? entries "options").getD (.object []))
  return options.insertAll (Table.ofNamed (freeEntries entries))

/-- Options and primitives have one spelling only. -/
theorem canonicalName_eq_iff (hname : name = "options" ∨ name = "primitives") {key : String} :
  canonicalName key = name ↔ key = name
  := by
  unfold canonicalName
  split
  case h_8 => rfl
  all_goals rcases hname with rfl | rfl <;> decide

theorem last?_canonicalEntries_cons (e : String × Value) (rest : List (String × Value))
    (name : String) :
  Assoc.last? (canonicalEntries (e :: rest)) name
    = (Assoc.last? (canonicalEntries rest) name).or
        (if canonicalName e.1 = name then some e.2 else none)
  := Assoc.last?_cons _ _ _

theorem last?_canonicalEntries_primitives (entries : List (String × Value)) :
  Assoc.last? (canonicalEntries entries) "primitives" = Assoc.last? entries "primitives"
  := by
  induction entries with
  | nil => rfl
  | cons e rest ih =>
    rw [last?_canonicalEntries_cons, ih, Assoc.last?_cons]
    simp only [canonicalName_eq_iff (Or.inr rfl)]

/-- An entry changes no setting but its own. -/
theorem find?_settings_enter (hname : name ∈ settingNames) (state : Config × Table Value)
    (e : String × Value) :
  (enter state e).1.settings.find? name
    = if canonicalName e.1 = name then some e.2 else state.1.settings.find? name
  := by
  by_cases hoptions : canonicalName e.1 = "options"
  · rw [enter, if_pos hoptions, hoptions, if_neg (ne_options hname)]
  · by_cases hfield : canonicalName e.1 ∈ fieldNames
    · obtain ⟨c, hc, hsettings, -⟩ := exists_set? hfield state.1 e.2
      rw [enter, if_neg hoptions, hc]
      apply hsettings name hname
    · have hne : canonicalName e.1 ≠ name := by
        rintro rfl
        apply hfield (List.mem_cons_of_mem _ hname)
      rw [enter, if_neg hoptions, set?_eq_none hfield, if_neg hne]

/-- After some entries a setting has the value of the last of them, or else its former value. -/
theorem find?_settings_foldl_enter (hname : name ∈ settingNames) (state : Config × Table Value)
    (entries : List (String × Value)) :
  (entries.foldl enter state).1.settings.find? name
    = (Assoc.last? (canonicalEntries entries) name).or (state.1.settings.find? name)
  := by
  induction entries generalizing state with
  | nil => rfl
  | cons e rest ih =>
    rw [List.foldl_cons, ih, find?_settings_enter hname, last?_canonicalEntries_cons,
      Option.or_assoc]
    congr 1
    split_ifs <;> rfl

/-- Entries that belong to no setting become options. -/
theorem options_foldl_enter (state : Config × Table Value) (entries : List (String × Value)) :
  (entries.foldl enter state).2 = state.2.insertAll (Table.ofNamed (freeEntries entries))
  := by
  induction entries generalizing state with
  | nil => rfl
  | cons e rest ih =>
    rw [List.foldl_cons, ih]
    by_cases hfield : canonicalName e.1 ∈ fieldNames
    · have hkept : (enter state e).2 = state.2 := by
        obtain ⟨c, hc, -⟩ := exists_set? hfield state.1 e.2
        rw [enter, hc]
        split_ifs <;> rfl
      rw [hkept, freeEntries, freeEntries, List.filter_cons_of_neg (by simpa using hfield)]
    · have hoptions : canonicalName e.1 ≠ "options" := by
        intro heq
        apply hfield
        rw [heq]
        apply List.mem_cons_self
      rw [enter, if_neg hoptions, set?_eq_none hfield, freeEntries, freeEntries,
        List.filter_cons_of_pos (by simpa using hfield)]
      rfl

/-- A configuration is what its entries make of the default one, with the primitives over the
default ones if there are any. -/
theorem of_ofEntries_eq_ok {entries : List (String × Value)} (h : ofEntries entries = .ok c) :
  ∃ options read primitives,
    tableOf ((Assoc.find? entries "options").getD (.object [])) = .ok options
    ∧ entries.foldl enter ({}, options) = read
    ∧ (if Assoc.contains entries "primitives" then overDefaults read.1.primitives
        else .ok read.1.primitives) = .ok primitives
    ∧ c = { read.1 with primitives, options := .table read.2 }
  := by
  obtain ⟨options, hoptions, h⟩ := bind_eq_ok_iff.mp h
  dsimp only at h
  use options, entries.foldl enter ({}, options)
  split_ifs at h ⊢ with hcontains
  · obtain ⟨primitives, hprimitives, h⟩ := bind_eq_ok_iff.mp h
    cases h
    use primitives, hoptions, rfl, hprimitives
  · cases h
    exact ⟨_, hoptions, rfl, rfl, rfl⟩

theorem primitives_foldl_enter (state : Config × Table Value) (entries : List (String × Value)) :
  (entries.foldl enter state).1.primitives
    = (Assoc.last? entries "primitives").getD state.1.primitives
  := by
  have h := find?_settings_foldl_enter (show "primitives" ∈ settingNames by decide) state entries
  rw [last?_canonicalEntries_primitives] at h
  change some (entries.foldl enter state).1.primitives
    = (Assoc.last? entries "primitives").or (some state.1.primitives) at h
  cases hgiven : Assoc.last? entries "primitives" with
  | none =>
    rw [hgiven] at h
    apply Option.some.inj h
  | some v =>
    rw [hgiven] at h
    apply Option.some.inj h

theorem overDefaults_eq_ok_iff {v w : Value} :
  overDefaults v = .ok w
    ↔ ∃ own, v = .object own ∧ w = .object (Assoc.insertAll defaultPrimitives own)
  := by
  cases v <;> simp [overDefaults, eq_comm]

/-- Primitives that are given are entered over the default ones. -/
theorem overDefaults_of_ofEntries {entries : List (String × Value)} (h : ofEntries entries = .ok c)
    {v : Value} (hv : Assoc.last? entries "primitives" = some v) :
  overDefaults v = .ok c.primitives
  := by
  obtain ⟨options, read, primitives, -, rfl, hprimitives, rfl⟩ := of_ofEntries_eq_ok h
  rw [Assoc.contains_eq_isSome_last?, primitives_foldl_enter, hv] at hprimitives
  apply hprimitives

/-- A configuration has the primitives that are given, over the default ones. -/
theorem primitives_of_ofEntries {entries : List (String × Value)} (h : ofEntries entries = .ok c) :
  c.primitives = .object (Assoc.insertAll defaultPrimitives (givenPrimitives entries))
  := by
  rw [givenPrimitives]
  cases hgiven : Assoc.last? entries "primitives" with
  | none =>
    obtain ⟨options, read, primitives, -, rfl, hprimitives, rfl⟩ := of_ofEntries_eq_ok h
    rw [Assoc.contains_eq_isSome_last?, primitives_foldl_enter, hgiven] at hprimitives
    cases hprimitives
    rfl
  | some v =>
    obtain ⟨own, rfl, hprimitives⟩ :=
      overDefaults_eq_ok_iff.mp (overDefaults_of_ofEntries h hgiven)
    apply hprimitives

/-- The settings of a configuration are those that its mapping gives. -/
theorem find?_settings_of_ofEntries {entries : List (String × Value)}
    (h : ofEntries entries = .ok c) (hname : name ∈ settingNames) :
  c.settings.find? name = givenSetting entries name
  := by
  rw [givenSetting]
  split_ifs with hprimitives
  · subst hprimitives
    change some c.primitives = _
    rw [primitives_of_ofEntries h]
  · obtain ⟨options, read, primitives, -, rfl, -, rfl⟩ := of_ofEntries_eq_ok h
    have hset : settings { (entries.foldl enter ({}, options)).1 with
          primitives, options := .table (entries.foldl enter ({}, options)).2 }
        = (entries.foldl enter ({}, options)).1.settings.insert "primitives" primitives := rfl
    rw [hset, Assoc.find?_insert, if_neg (Ne.symm hprimitives), find?_settings_foldl_enter hname]

/-- The options of a configuration are those that its mapping gives. -/
theorem options_of_ofEntries {entries : List (String × Value)} (h : ofEntries entries = .ok c) :
  ∃ given, givenOptions entries = .ok given ∧ c.options = .table given
  := by
  obtain ⟨options, _, primitives, hoptions, rfl, -, rfl⟩ := of_ofEntries_eq_ok h
  use options.insertAll (Table.ofNamed (freeEntries entries))
  rw [givenOptions, hoptions, options_foldl_enter]
  exact ⟨rfl, rfl⟩

/-! ### Overrides -/

/-- The overrides that have an effect. -/
def effective (overrides : List (String × Value)) : Assoc Value :=
  overrides.filter fun o => !o.2.isNull

/-- After some overrides a setting has the value of the last one for it that is not null, or else
the value that it had before. -/
structure Overridden (c : Config) (overrides : List (String × Value)) (c' : Config) : Prop where
  settings : ∀ name ∈ settingNames,
    c'.settings.find? name = (Assoc.last? (effective overrides) name).or (c.settings.find? name)
  options : c'.options
    = ((Assoc.last? (effective overrides) "options").map Options.ofValue).getD c.options

theorem Overridden.refl (c : Config) :
  Overridden c [] c
  := by
  constructor
  case settings =>
    intro name _
    rfl
  case options => rfl

theorem Overridden.trans {c'' : Config} {os os' : List (String × Value)} (h : Overridden c os c')
    (h' : Overridden c' os' c'') :
  Overridden c (os ++ os') c''
  := by
  have hlast : ∀ name, Assoc.last? (effective (os ++ os')) name
      = (Assoc.last? (effective os') name).or (Assoc.last? (effective os) name) := by
    intro name
    rw [effective, List.filter_append, Assoc.last?_append]
    rfl
  constructor
  case settings =>
    intro name hname
    rw [h'.settings name hname, h.settings name hname, hlast, Option.or_assoc]
  case options =>
    rw [h'.options, h.options, hlast]
    cases Assoc.last? (effective os') "options" <;> rfl

/-- An override of a setting can be made, and overrides nothing else. -/
theorem exists_replace (c : Config) {o : String × Value} (ho : o.1 ∈ fieldNames) :
  ∃ c', c.replace o = .ok c' ∧ Overridden c [o] c'
  := by
  rw [replace]
  split_ifs with hnull
  · use c, rfl
    have heffective : effective [o] = [] := by simp [effective, hnull]
    constructor
    case settings =>
      intro name _
      rw [heffective]
      rfl
    case options =>
      rw [heffective]
      rfl
  · have hlast : ∀ name, Assoc.last? (effective [o]) name
        = if o.1 = name then some o.2 else none := by
      intro name
      have heffective : effective [o] = [o] := by simp [effective, hnull]
      rw [heffective]
      rfl
    obtain ⟨c', hc', hsettings, hoptions⟩ := exists_set? ho c o.2
    rw [hc']
    use c', rfl
    constructor
    case settings =>
      intro name hname
      rw [hsettings name hname, hlast]
      split_ifs <;> rfl
    case options =>
      rw [hoptions, hlast]
      split_ifs <;> rfl

theorem exists_foldlM_replace (c : Config) {os : List (String × Value)}
    (hos : ∀ o ∈ os, o.1 ∈ fieldNames) :
  ∃ c', os.foldlM replace c = .ok c' ∧ Overridden c os c'
  := by
  induction os generalizing c with
  | nil => exact ⟨c, rfl, .refl c⟩
  | cons o rest ih =>
    rw [List.forall_mem_cons] at hos
    obtain ⟨c₁, hc₁, hfirst⟩ := exists_replace c hos.1
    obtain ⟨c', hc', hrest⟩ := ih c₁ hos.2
    use c'
    constructor
    · rw [List.foldlM_cons, hc₁]
      apply hc'
    · apply hfirst.trans hrest

theorem exists_merge (c : Config) {os : List (String × Value)}
    (hos : ∀ o ∈ os, o.1 ∈ fieldNames) :
  ∃ c', c.merge os = .ok c' ∧ Overridden c os c'
  := by
  have hown : Assoc.contains os ownName = false := by
    rw [Assoc.contains, Option.isSome_eq_false_iff, Option.isNone_iff_eq_none,
      Assoc.find?_eq_none_iff, Assoc.keys, List.mem_map]
    rintro ⟨o, ho, heq⟩
    have hfield := hos o ho
    rw [heq] at hfield
    revert hfield
    decide
  rw [merge, hown, if_neg (by simp)]
  apply exists_foldlM_replace c hos

/-- A sequence of overridings by name can be made, and is one overriding. -/
theorem exists_foldlM_merge (c : Config) {calls : List (List (String × Value))}
    (hcalls : ∀ o ∈ calls.flatten, o.1 ∈ fieldNames) :
  ∃ c', calls.foldlM merge c = .ok c' ∧ Overridden c calls.flatten c'
  := by
  induction calls generalizing c with
  | nil => exact ⟨c, rfl, .refl c⟩
  | cons os rest ih =>
    rw [List.flatten_cons, List.forall_mem_append] at hcalls
    obtain ⟨c₁, hc₁, hfirst⟩ := exists_merge c hcalls.1
    obtain ⟨c', hc', hrest⟩ := ih c₁ hcalls.2
    use c'
    constructor
    · rw [List.foldlM_cons, hc₁]
      apply hc'
    · rw [List.flatten_cons]
      apply hfirst.trans hrest

/-- Options stay a table as long as mappings take their place. -/
theorem Overridden.exists_table {os : List (String × Value)} (h : Overridden c os c')
    (hc : ∃ options, c.options = .table options)
    (hos : ∀ o ∈ os, o.1 = "options" → o.2.isNull ∨ o.2.entries?.isSome) :
  ∃ options, c'.options = .table options
  := by
  rw [h.options]
  cases hlast : Assoc.last? (effective os) "options" with
  | none => apply hc
  | some v =>
    have hmem := List.mem_reverse.mp (Assoc.mem_of_find?_eq_some hlast)
    obtain ⟨ho, heffective⟩ := List.mem_filter.mp hmem
    rcases hos _ ho rfl with hnull | hmapping
    · simp [hnull] at heffective
    · cases v <;> cases hmapping
      exact ⟨_, rfl⟩

/-! ### What templates see -/

/-- The settings that are for templates. -/
def shown (c : Config) : Assoc Value := c.settings.filter fun e => exposedNames.contains e.1

theorem find?_shown (c : Config) (hname : name ∈ exposedNames) :
  c.shown.find? name = c.settings.find? name
  := Assoc.find?_filter _ (List.elem_eq_true_of_mem hname)

/-- What templates see is the settings that are for them, with the options over them. -/
theorem exposed_eq_ok_iff {t : Table Value} :
  c.exposed = .ok t ↔ ∃ options, tableOfOptions c.options = .ok options
    ∧ Table.insertAll (Table.ofNamed c.shown) options = t
  := by
  have hshown : c.shown
      = [("immutable_types", c.immutableTypes), ("avoid_optionals", c.avoidOptionals),
        ("enums_as_types", c.enumsAsTypes), ("flatten_types", c.flattenTypes),
        ("primitives", c.primitives), ("out_file", c.outFile)] := rfl
  rw [exposed, expose, bind_eq_ok_iff, hshown]
  simp [Table.mapValues, pure, Except.pure]

/-- Templates see an option under its key, and a setting that is for them under its name unless an
option has it. -/
theorem find?_exposed {options t : Table Value} (hoptions : tableOfOptions c.options = .ok options)
    (h : c.exposed = .ok t) :
  (∀ name ∈ exposedNames, t.find? (.string name)
      = (options.last? (.string name)).or (c.settings.find? name))
    ∧ ∀ key : Value, (∀ name ∈ exposedNames, key.key? ≠ some (.text name)) →
      t.find? key = options.last? key
  := by
  obtain ⟨options', hoptions', rfl⟩ := exposed_eq_ok_iff.mp h
  obtain rfl : options = options' := Except.ok.inj (hoptions.symm.trans hoptions')
  constructor
  · intro name hname
    rw [Table.find?_insertAll, Table.find?_ofNamed, find?_shown c hname]
  · intro key hkey
    have hnone : (Table.ofNamed c.shown).find? key = none := by
      apply Table.find?_eq_none_iff.mpr
      intro e he
      obtain ⟨e', he', rfl⟩ := List.mem_map.mp he
      have hname := (List.mem_filter.mp he').2
      apply Ne.symm (hkey e'.1 (List.mem_of_elem_eq_true hname))
    rw [Table.find?_insertAll, hnone, Option.or_none]

/-- The value of a setting: that of the last override that is not null, or else what the mapping
gives. -/
def layered (entries : List (String × Value)) (calls : List (List (String × Value)))
    (name : String) : Option Value :=
  (Assoc.last? (effective calls.flatten) name).or (givenSetting entries name)

/-- A mapping that is read can be overridden by name any number of times.  Each setting then has the
value of its uppermost layer, and so have the options.  Under the name of a setting templates see its
value, unless an option has that name; under every other key they see the option. -/
theorem exposed_layers {entries : List (String × Value)} (h : ofEntries entries = .ok c)
    {calls : List (List (String × Value))} (hcalls : ∀ o ∈ calls.flatten, o.1 ∈ fieldNames) :
  ∃ c', calls.foldlM merge c = .ok c'
    ∧ (∀ name ∈ settingNames, c'.settings.find? name = layered entries calls name)
    ∧ (∃ given, givenOptions entries = .ok given
      ∧ c'.options = ((Assoc.last? (effective calls.flatten) "options").map Options.ofValue).getD
        (.table given))
    ∧ ((∀ o ∈ calls.flatten, o.1 = "options" → o.2.isNull ∨ o.2.entries?.isSome) →
      ∃ t, c'.exposed = .ok t)
    ∧ ∀ t, c'.exposed = .ok t → ∃ options, tableOfOptions c'.options = .ok options
      ∧ (∀ name ∈ exposedNames,
        t.find? (.string name) = (options.last? (.string name)).or (layered entries calls name))
      ∧ ∀ key : Value, (∀ name ∈ exposedNames, key.key? ≠ some (.text name)) →
        t.find? key = options.last? key
  := by
  obtain ⟨c', hc', hoverridden⟩ := exists_foldlM_merge c hcalls
  have hsettings : ∀ name ∈ settingNames, c'.settings.find? name = layered entries calls name := by
    intro name hname
    rw [hoverridden.settings name hname, find?_settings_of_ofEntries h hname]
    rfl
  obtain ⟨given, hgiven, htable⟩ := options_of_ofEntries h
  refine ⟨c', hc', hsettings, ⟨given, hgiven, ?_⟩, ?_, ?_⟩
  · rw [← htable]
    apply hoverridden.options
  · intro hmappings
    obtain ⟨options, hoptions⟩ := hoverridden.exists_table ⟨given, htable⟩ hmappings
    use Table.insertAll (Table.ofNamed c'.shown) options
    rw [exposed_eq_ok_iff, hoptions]
    use options, rfl
  · intro t ht
    obtain ⟨options, hoptions, -⟩ := exposed_eq_ok_iff.mp ht
    obtain ⟨hnames, hkeys⟩ := find?_exposed hoptions ht
    refine ⟨options, hoptions, ?_, hkeys⟩
    intro name hname
    rw [hnames name hname, hsettings name (exposedNames_subset hname)]

/-- A mapping with a setting in both spellings, primitives, an option and a mapping of options. -/
def layeredEntries : List (String × Value) :=
  [("immutable_types", .bool false), ("primitives", .object [("Date", .string "Date")]),
    ("options", .object [("custom", .string "A")]), ("immutableTypes", .bool true),
    ("theme", .string "dark")]

/-- Overrides of settings, one of which has no effect. -/
def layeredCalls : List (List (String × Value)) :=
  [[("out_file", .string "graphql.ts"), ("immutable_types", .null)],
    [("flatten_types", .bool false)]]

/-- What is read from `layeredEntries`. -/
def layeredConfig : Config where
  immutableTypes := .bool true
  primitives := .object (defaultPrimitives ++ [("Date", .string "Date")])
  options := .table [(.string "custom", .string "A"), (.string "theme", .string "dark")]

theorem exposed_layers_sample :
  ofEntries layeredEntries = .ok layeredConfig
    ∧ ∃ c' t, layeredCalls.foldlM merge layeredConfig = .ok c' ∧ c'.exposed = .ok t
      ∧ t.find? (.string "immutable_types") = some (.bool true)
      ∧ t.find? (.string "flatten_types") = some (.bool false)
      ∧ t.find? (.string "out_file") = some (.string "graphql.ts")
      ∧ t.find? (.string "custom") = some (.string "A")
      ∧ t.find? (.string "theme") = some (.string "dark")
  := by
  have hread : ofEntries layeredEntries = .ok layeredConfig := rfl
  obtain ⟨c', hc', -, -, hexposed, hshown⟩ :=
    exposed_layers hread (show ∀ o ∈ layeredCalls.flatten, o.1 ∈ fieldNames by decide)
  obtain ⟨t, ht⟩ := hexposed (by simp [layeredCalls])
  obtain ⟨options, hoptions, hnames, hkeys⟩ := hshown t ht
  cases hc'
  cases hoptions
  refine ⟨hread, _, t, rfl, ht, ?_, ?_, ?_, ?_, ?_⟩
  · apply hnames "immutable_types" (by decide)
  · apply hnames "flatten_types" (by decide)
  · apply hnames "out_file" (by decide)
  · apply hkeys (.string "custom") (by decide)
  · apply hkeys (.string "theme") (by decide)

/-- An option of the same name hides a setting from templates, even if it has been overridden. -/
theorem exposed_layers_hidden :
  ∃ c c' t, ofEntries [("options", .object [("enums_as_types", .bool false)])] = .ok c
    ∧ c.merge [("enums_as_types", .bool true)] = .ok c'
    ∧ c'.exposed = .ok t
    ∧ c'.enumsAsTypes = .bool true
    ∧ t.find? (.string "enums_as_types") = some (.bool false)
  := ⟨_, _, _, rfl, rfl, rfl, rfl, rfl⟩

end GraphScribe.Config
