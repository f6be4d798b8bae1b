import GraphScribe.Proofs.Config.Layers

/-!
# Reading a configuration

Every entry of a mapping is accounted for: a setting has the value that is given last for it, and an
entry that belongs to no setting is an option.  What has been read is in normal form: its settings
and options, as a mapping, are read as the same configuration (`Config.ofEntries_accounts`).
-/

namespace GraphScribe.Config

open Result

variable {name : String} {c c' : Config} {entries : List (String × Value)}

/-! ### Names -/

theorem canonicalName_of_mem (hname : name ∈ fieldNames) :
  canonicalName name = name
  := by
  revert name
  decide

theorem nodup_fieldNames :
  fieldNames.Nodup
  := by
  decide

theorem canonicalEntries_eq_self (h : ∀ e ∈ entries, e.1 ∈ fieldNames) :
  canonicalEntries entries = entries
  := by
  apply (List.map_congr_left _).trans (List.map_id entries)
  intro e he
  rw [canonicalName_of_mem (h e he)]
  rfl

theorem freeEntries_eq_nil (h : ∀ e ∈ entries, e.1 ∈ fieldNames) :
  freeEntries entries = []
  := by
  rw [freeEntries, List.filter_eq_nil_iff]
  intro e he
  simpa [canonicalName_of_mem (h e he)] using h e he

theorem nodup_keys_freeEntries (h : (Assoc.keys entries).Nodup) :
  (freeEntries entries).keys.Nodup
  := by
  apply List.Nodup.sublist _ h
  apply List.filter_sublist.map

/-! ### What is read -/

/-- What a setting becomes when a value is given for it: primitives are entered over the default
ones. -/
def stored (name : String) (v : Value) : Except Failure Value :=
  if name = "primitives" then overDefaults v else .ok v

/-- A setting that is given has what becomes of the value that is given for it last. -/
theorem exists_stored (h : ofEntries entries = .ok c) (hname : name ∈ settingNames) {v : Value}
    (hv : Assoc.last? (canonicalEntries entries) name = some v) :
  ∃ w, stored name v = .ok w ∧ c.settings.find? name = some w
  := by
  rw [stored]
  split_ifs with hprimitives
  · subst hprimitives
    rw [last?_canonicalEntries_primitives] at hv
    exact ⟨_, overDefaults_of_ofEntries h hv, rfl⟩
  · rw [find?_settings_of_ofEntries h hname, givenSetting, if_neg hprimitives, hv]
    exact ⟨v, rfl, rfl⟩

theorem exists_last?_canonicalEntries {key : String} {value : Value}
    (h : (key, value) ∈ entries) :
  ∃ v, Assoc.last? (canonicalEntries entries) (canonicalName key) = some v
  := by
  have hcanonical : (canonicalName key, value) ∈ canonicalEntries entries :=
    List.mem_map.mpr ⟨_, h, rfl⟩
  rw [← Option.ne_none_iff_exists', ne_eq, Assoc.last?_eq_none_iff, not_not]
  apply Assoc.mem_keys_of_mem hcanonical

/-- A mapping is read if its options stand for a table and its primitives are a mapping. -/
theorem exists_ofEntries {options : Table Value}
    (hoptions : tableOf ((Assoc.find? entries "options").getD (.object [])) = .ok options)
    (hprimitives : ∀ v, Assoc.last? entries "primitives" = some v → ∃ own, v = .object own) :
  ∃ c, ofEntries entries = .ok c
  := by
  rw [ofEntries, hoptions]
  cases hgiven : Assoc.last? entries "primitives" with
  | none =>
    simp only [Assoc.contains_eq_isSome_last?, hgiven]
    exact ⟨_, rfl⟩
  | some v =>
    obtain ⟨own, rfl⟩ := hprimitives v hgiven
    have hread : overDefaults (entries.foldl enter ({}, options)).1.primitives
        = .ok (.object (Assoc.insertAll defaultPrimitives own)) := by
      rw [primitives_foldl_enter, hgiven]
      rfl
    simp only [Assoc.contains_eq_isSome_last?, hgiven]
    exact ⟨_, bind_eq_ok_iff.mpr ⟨options, rfl, bind_eq_ok_iff.mpr ⟨_, hread, rfl⟩⟩⟩

/-! ### Reading again -/

theorem nodup_keys_settings (c : Config) :
  c.settings.keys.Nodup
  := (List.nodup_cons.mp nodup_fieldNames).2

/-- A configuration is determined by its settings and options. -/
theorem eq_of_settings (hoptions : c.options = c'.options)
    (hsettings : ∀ name ∈ settingNames, c.settings.find? name = c'.settings.find? name) :
  c = c'
  := by
  have h : c.settings = c'.settings :=
    Assoc.eq_of_find?_eq rfl (nodup_keys_settings c) hsettings
  cases c
  cases c'
  simp only [settings, List.cons.injEq, Prod.mk.injEq, true_and, and_true] at h
  simp_all

/-- All settings of a configuration under their names, with `v` for the options. -/
def fields (c : Config) (v : Value) : Assoc Value := ("options", v) :: c.settings

variable {again : List (String × Value)} {v : Value}

theorem mem_fieldNames_of_perm (hagain : again.Perm (c.fields v)) :
  ∀ e ∈ again, e.1 ∈ fieldNames
  := by
  intro e he
  apply Assoc.mem_keys_of_mem (hagain.mem_iff.mp he)

theorem nodup_keys_of_perm (hagain : again.Perm (c.fields v)) :
  (Assoc.keys again).Nodup
  := (hagain.map Prod.fst).nodup_iff.mpr nodup_fieldNames

/-- If a mapping gives all settings, each has one value. -/
theorem last?_of_perm (hagain : again.Perm (c.fields v)) (hname : name ∈ settingNames) :
  Assoc.last? again name = c.settings.find? name
  := by
  obtain ⟨e, he, rfl⟩ := List.mem_map.mp (show name ∈ c.settings.keys from hname)
  rw [Assoc.find?_of_mem (nodup_keys_settings c) he]
  apply Assoc.last?_of_mem (nodup_keys_of_perm hagain)
  apply hagain.mem_iff.mpr (List.mem_cons_of_mem _ he)

/-- A configuration that has been read has the primitives that are given by its own. -/
theorem givenSetting_of_perm (h : ofEntries entries = .ok c) (hagain : again.Perm (c.fields v))
    (hname : name ∈ settingNames) :
  givenSetting again name = c.settings.find? name
  := by
  have hlast := last?_of_perm hagain hname
  rw [givenSetting]
  split_ifs with hprimitives
  · -- The primitives stand over the default ones already.
    subst hprimitives
    change _ = some c.primitives at hlast
    change _ = some c.primitives
    rw [primitives_of_ofEntries h] at hlast ⊢
    rw [givenPrimitives, hlast, Option.bind_some]
    change some (Value.object (Assoc.insertAll defaultPrimitives
      (Assoc.insertAll defaultPrimitives (givenPrimitives entries)))) = _
    rw [Assoc.insertAll_insertAll (by decide)]
  · obtain ⟨e, he, rfl⟩ := List.mem_map.mp (show name ∈ c.settings.keys from hname)
    rw [canonicalEntries_eq_self (mem_fieldNames_of_perm hagain), hlast,
      Assoc.find?_of_mem (nodup_keys_settings c) he]
    rfl

/-- What has been read is read again as it is from its settings and options. -/
theorem ofEntries_of_perm (h : ofEntries entries = .ok c) {options : Table Value}
    (hoptions : c.options = .table options) (hv : tableOf v = .ok options)
    (hagain : again.Perm (c.fields v)) :
  ofEntries again = .ok c
  := by
  have hnested : tableOf ((Assoc.find? again "options").getD (.object [])) = .ok options := by
    rw [Assoc.find?_of_mem (nodup_keys_of_perm hagain) (hagain.mem_iff.mpr List.mem_cons_self)]
    apply hv
  obtain ⟨c', hc'⟩ : ∃ c', ofEntries again = .ok c' := by
    apply exists_ofEntries hnested
    intro w hw
    rw [last?_of_perm hagain (by decide)] at hw
    change some c.primitives = some w at hw
    rw [primitives_of_ofEntries h] at hw
    exact ⟨_, (Option.some.inj hw).symm⟩
  have heq : c' = c := by
    apply eq_of_settings
    · obtain ⟨given, hgiven, htable⟩ := options_of_ofEntries hc'
      rw [givenOptions, hnested, freeEntries_eq_nil (mem_fieldNames_of_perm hagain)] at hgiven
      cases hgiven
      rw [htable, hoptions]
      rfl
    · intro name hname
      rw [find?_settings_of_ofEntries hc' hname, givenSetting_of_perm h hagain hname]
  rw [hc', heq]

/-- A table over which names have been entered can be given by a value if it could before. -/
theorem exists_tableOf {w : Value} {nested : Table Value} (h : tableOf w = .ok nested)
    (free : Assoc Value) :
  ∃ v, tableOf v = .ok (nested.insertAll (Table.ofNamed free))
  := by
  cases w with
  | object own =>
    cases h
    exact ⟨.object (Assoc.insertAll own free), by rw [tableOf, Table.ofNamed_insertAll]⟩
  | list items =>
    obtain ⟨pairs, hpairs, h⟩ := bind_eq_ok_iff.mp h
    cases h
    refine ⟨.list (items ++ free.map fun e => .list [.string e.1, e.2]), bind_eq_ok_iff.mpr ?_⟩
    refine ⟨pairs ++ Table.ofNamed free, ?_, ?_⟩
    · rw [mapM_eq_ok_iff] at hpairs ⊢
      apply List.rel_append hpairs
      rw [Table.ofNamed, List.forall₂_map_left_iff, List.forall₂_map_right_iff, List.forall₂_same]
      intro e _
      rfl
    · rw [Table.ofList, Table.insertAll, List.foldl_append]
      rfl
  | string s =>
    rw [tableOf] at h
    split_ifs at h
    cases h
    exact ⟨.object (Assoc.ofList free), by rw [tableOf, Assoc.ofList, Table.ofNamed_insertAll]; rfl⟩
  | _ => cases h

/-! ### Accounting for every entry -/

/-- The options that have been read are the nested ones, over which the free entries are entered. -/
theorem exists_nested (h : ofEntries entries = .ok c) :
  ∃ nested, tableOf ((Assoc.find? entries "options").getD (.object [])) = .ok nested
    ∧ c.options = .table (nested.insertAll (Table.ofNamed (freeEntries entries)))
  := by
  obtain ⟨given, hgiven, hoptions⟩ := options_of_ofEntries h
  obtain ⟨nested, hnested, hgiven⟩ := bind_eq_ok_iff.mp hgiven
  cases hgiven
  exact ⟨nested, hnested, hoptions⟩

/-- A free entry is entered over whatever was there. -/
theorem find?_insertAll_of_mem (hmapping : (Assoc.keys entries).Nodup) {key : String}
    {value : Value} (h : (key, value) ∈ freeEntries entries) (nested : Table Value) :
  (nested.insertAll (Table.ofNamed (freeEntries entries))).find? (.string key) = some value
  := by
  rw [Table.find?_insertAll, Table.last?_ofNamed,
    Assoc.last?_of_mem (nodup_keys_freeEntries hmapping) h, Option.some_or]

theorem find?_insertAll_of_not_mem {key : Value}
    (h : ∀ e ∈ freeEntries entries, key.key? ≠ some (.text e.1)) (nested : Table Value) :
  (nested.insertAll (Table.ofNamed (freeEntries entries))).find? key = nested.find? key
  := by
  have hnone : Table.last? (Table.ofNamed (freeEntries entries)) key = none := by
    apply Table.find?_eq_none_iff.mpr
    intro e he
    obtain ⟨e', he', rfl⟩ := List.mem_map.mp (List.mem_reverse.mp he)
    apply Ne.symm (h e' he')
  rw [Table.find?_insertAll, hnone, Option.none_or]

/-- Every entry of a mapping that is read is accounted for.  If its name, in the first spelling, is
that of a setting, then the setting has what becomes of the value that is given last for it, where
primitives are entered over the default ones; otherwise the entry is an option, even over a nested
one.  There are no other options than these and the nested ones, which come first in their order.
The settings and options of the configuration, as a mapping in any order, are read as the same
configuration. -/
theorem ofEntries_accounts (hmapping : (Assoc.keys entries).Nodup) (h : ofEntries entries = .ok c) :
  ∃ nested options, tableOf ((Assoc.find? entries "options").getD (.object [])) = .ok nested
    ∧ c.options = .table options
    ∧ (∀ key value, (key, value) ∈ entries → key ≠ "options" →
      (canonicalName key ∈ settingNames
          ∧ ∃ v w, Assoc.last? (canonicalEntries entries) (canonicalName key) = some v
            ∧ stored (canonicalName key) v = .ok w
            ∧ c.settings.find? (canonicalName key) = some w)
        ∨ (canonicalName key ∉ fieldNames ∧ options.find? (.string key) = some value))
    ∧ options.keys = nested.keys
      ++ ((freeEntries entries).keys.map Value.string).filter (fun key => (nested.find? key).isNone)
    ∧ (∀ key : Value, (∀ e ∈ freeEntries entries, key.key? ≠ some (.text e.1)) →
      options.find? key = nested.find? key)
    ∧ (∃ v, tableOf v = .ok options)
    ∧ ∀ v again, tableOf v = .ok options → again.Perm (c.fields v) → ofEntries again = .ok c
  := by
  obtain ⟨nested, hnested, hoptions⟩ := exists_nested h
  use nested, nested.insertAll (Table.ofNamed (freeEntries entries)), hnested, hoptions
  refine ⟨?_, ?_, ?_, exists_tableOf hnested _, ?_⟩
  · intro key value hmem hkey
    by_cases hfield : canonicalName key ∈ fieldNames
    · have hsetting : canonicalName key ∈ settingNames :=
        (List.mem_cons.mp hfield).resolve_left (mt (canonicalName_eq_iff (Or.inl rfl)).mp hkey)
      obtain ⟨v, hv⟩ := exists_last?_canonicalEntries hmem
      obtain ⟨w, hstored, hfound⟩ := exists_stored h hsetting hv
      exact Or.inl ⟨hsetting, v, w, hv, hstored, hfound⟩
    · apply Or.inr
      use hfield
      apply find?_insertAll_of_mem hmapping
      simpa [freeEntries] using ⟨hmem, hfield⟩
  · apply Table.keys_insertAll_ofNamed _ (nodup_keys_freeEntries hmapping)
  · intro key hother
    apply find?_insertAll_of_not_mem hother
  · intro v again hv hagain
    apply ofEntries_of_perm h hoptions hv hagain

/-- A mapping with a setting in both spellings, primitives, an option of the same name as a nested
one, and a nested option with the name of a setting. -/
def sampleEntries : List (String × Value) :=
  [("theme", .string "dark"), ("outFile", .string "a.ts"),
    ("options", .object [("immutable_types", .bool true), ("theme", .string "light")]),
    ("primitives", .object [("Date", .string "Date"), ("ID", .string "number")]),
    ("out_file", .string "b.ts"), ("indent", .int 2)]

/-- The options in `sampleEntries`, in order. -/
def sampleOptions : List (String × Value) :=
  [("immutable_types", .bool true), ("theme", .string "dark"), ("indent", .int 2)]

/-- What is read from `sampleEntries`. -/
def sampleConfig : Config where
  primitives := .object
    [("String", .string "string"), ("Int", .string "number"), ("Float", .string "number"),
      ("Boolean", .string "boolean"), ("ID", .string "number"), ("Date", .string "Date")]
  outFile := .string "b.ts"
  options := .table (Table.ofNamed sampleOptions)

theorem ofEntries_accounts_sample :
  ofEntries sampleEntries = .ok sampleConfig
    ∧ sampleConfig.settings.find? "out_file" = some (.string "b.ts")
    ∧ sampleConfig.options = .table (Table.ofNamed sampleOptions)
    ∧ (Table.ofNamed sampleOptions).find? (.string "theme") = some (.string "dark")
    ∧ ofEntries (sampleConfig.fields (.object sampleOptions)) = .ok sampleConfig
  := by
  have hread : ofEntries sampleEntries = .ok sampleConfig := rfl
  obtain ⟨nested, options, -, hoptions, hentries, -, -, -, hagain⟩ :=
    ofEntries_accounts (by decide) hread
  cases hoptions
  refine ⟨hread, ?_, rfl, ?_, ?_⟩
  · rcases hentries "outFile" (.string "a.ts") (by simp [sampleEntries]) (by decide) with
      ⟨-, v, w, hv, hw, hfound⟩ | ⟨hfree, -⟩
    · cases hv
      cases hw
      apply hfound
    · exact absurd (by decide) hfree
  · rcases hentries "theme" (.string "dark") (by simp [sampleEntries]) (by decide) with
      ⟨hsetting, -⟩ | ⟨-, hfound⟩
    · exact absurd hsetting (by decide)
    · apply hfound
  · apply hagain (.object sampleOptions) _ rfl (List.Perm.refl _)

end GraphScribe.Config
