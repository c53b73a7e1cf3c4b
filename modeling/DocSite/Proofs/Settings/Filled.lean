import DocSite.Settings.Layers
import Mathlib.Data.List.Nodup

/-! Settings that are left out or null. Filling them in with the defaults shows only where the order
of the details is left out: reading has a default for every other setting, the same as the one that
is filled in, but takes an order that is left out for an empty one, which it refuses. -/
namespace DocSite.Settings
set_option autoImplicit false

/-! ## Filling in defaults -/

/-- The fields with those of the defaults, each made from its default and what the field holds. -/
def fillWith (choose : Value → Value → Value) (standard fields : Fields) : Fields :=
  standard.foldl (fun fields p => Table.put p.1 (choose p.2 (Value.field fields p.1)) fields) fields

/-- A setting, or its default if it is null. -/
def orDefault (standard : Value) : Value → Value
  | .null => standard
  | v => v

/-- A section with its defaults filled in, or all its defaults if it is null. What is no mapping
stays as it is. -/
def fillSection : Value → Value → Value
  | standard, .null => standard
  | .mapping standard, .mapping inner => .mapping (fillWith orDefault standard inner)
  | _, v => v

/-- Settings with every section and every setting that is left out or null as in the defaults. -/
def filled (fields : Fields) : Fields := fillWith fillSection defaults fields

theorem field_put (key other : String) (v : Value) (fields : Fields) :
    Value.field (Table.put key v fields) other =
      if other == key then v else Value.field fields other := by
  rw [Value.field, Table.lookup_put]
  split <;> rfl

theorem field_fillWith {choose : Value → Value → Value} {standard : Fields} (key : String)
    (h : (standard.map (·.1)).Nodup) (fields : Fields) :
    Value.field (fillWith choose standard fields) key =
      match standard.lookup key with
      | some v => choose v (Value.field fields key)
      | none => Value.field fields key := by
  unfold fillWith
  induction standard generalizing fields with
  | nil => rfl
  | cons p rest ih =>
    obtain ⟨name, v⟩ := p
    rw [List.map_cons, List.nodup_cons] at h
    rw [List.foldl_cons, ih h.2, field_put, List.lookup_cons]
    cases hkey : key == name with
    | false => rfl
    | true =>
      have hlater : rest.lookup key = none := by
        rw [beq_iff_eq.mp hkey, List.lookup_eq_none_iff]
        intro p hp
        exact bne_iff_ne.mpr fun he => h.1 (List.mem_map.mpr ⟨p, hp, he.symm⟩)
      obtain rfl := beq_iff_eq.mp hkey
      simp [hlater]

/-! ## Reading a section -/

/-- One section is another one with some settings that are null filled in as in the defaults. -/
def Filled (standard inner inner' : Fields) : Prop :=
  ∀ key, Value.field inner' key = Value.field inner key ∨
    Value.field inner key = .null ∧ standard.lookup key = some (Value.field inner' key)

theorem filled_fillWith {standard : Fields} (h : (standard.map (·.1)).Nodup) (inner : Fields) :
    Filled standard inner (fillWith orDefault standard inner) := by
  intro key
  rw [field_fillWith key h]
  split
  · rename_i v hv
    cases hinner : Value.field inner key with
    | null => exact .inr ⟨rfl, hv⟩
    | _ => exact .inl rfl
  · exact .inl rfl

theorem filled_standard {standard : Fields} : Filled standard [] standard := by
  intro key
  unfold Value.field
  cases h : standard.lookup key with
  | none => exact .inl rfl
  | some v => exact .inr ⟨rfl, rfl⟩

theorem Filled.cases {standard inner inner' : Fields} (h : Filled standard inner inner')
    {key : String} {v : Value} (hv : standard.lookup key = some v) :
    Value.field inner' key = Value.field inner key ∨
      Value.field inner key = .null ∧ Value.field inner' key = v := by
  refine (h key).imp id fun ⟨hnull, hkey⟩ => ⟨hnull, ?_⟩
  exact Option.some.inj (hkey.symm.trans hv)

/-! Every reader has the default that is filled in, but for the order of the details. -/

section
variable {standard inner inner' : Fields} {place key : String}

theorem readBool_filled (h : Filled standard inner inner') {fallback : Bool}
    (hkey : standard.lookup key = some (.bool fallback)) :
    readBool inner' place key fallback = readBool inner place key fallback := by
  unfold readBool
  rcases h.cases hkey with he | ⟨hnull, hfilled⟩
  · rw [he]
  · rw [hnull, hfilled]

theorem readText_filled (h : Filled standard inner inner')
    (hkey : standard.lookup key = some .null) :
    readText inner' place key = readText inner place key := by
  unfold readText
  rcases h.cases hkey with he | ⟨hnull, hfilled⟩
  · rw [he]
  · rw [hnull, hfilled]

theorem readTextOr_filled (h : Filled standard inner inner') {fallback : String}
    (hkey : standard.lookup key = some (.text fallback)) :
    readTextOr inner' place key fallback = readTextOr inner place key fallback := by
  unfold readTextOr readText
  rcases h.cases hkey with he | ⟨hnull, hfilled⟩
  · rw [he]
  · rw [hnull, hfilled]
    by_cases hempty : fallback = ""
    · subst hempty
      rfl
    · simp [Option.filter, hempty]

theorem mapM_asText? (texts : List String) : (texts.map Value.text).mapM asText? = some texts := by
  induction texts with
  | nil => rfl
  | cons first rest ih =>
    rw [List.map_cons, List.mapM_cons, ih]
    rfl

theorem readTexts_filled (h : Filled standard inner inner') {fallback : List String}
    (hkey : standard.lookup key = some (.list (fallback.map .text))) :
    readTexts inner' place key fallback = readTexts inner place key fallback := by
  unfold readTexts
  rcases h.cases hkey with he | ⟨hnull, hfilled⟩
  · rw [he]
  · rw [hnull, hfilled]
    dsimp only
    rw [mapM_asText?]

theorem readSectionOrder_filled (h : Filled standard inner inner')
    (hkey : standard.lookup "section_order" =
      some (.list (Section.all.map fun s => .text s.title))) :
    readSectionOrder inner' = readSectionOrder inner := by
  unfold readSectionOrder
  rw [readTexts_filled h (by rw [hkey, List.map_map]; rfl)]

theorem readDetailsFilter_filled (h : Filled standard inner inner')
    (hkey : standard.lookup "details_filter" = some .null) :
    readDetailsFilter inner' = readDetailsFilter inner := by
  unfold readDetailsFilter
  rcases h.cases hkey with he | ⟨hnull, hfilled⟩
  · rw [he]
  · rw [hnull, hfilled]

theorem readMenu_filled (h : Filled standard inner inner')
    (hkey : standard.lookup "menu" = some (.mapping [])) : readMenu inner' = readMenu inner := by
  unfold readMenu
  rcases h.cases hkey with he | ⟨hnull, hfilled⟩
  · rw [he]
  · rw [hnull, hfilled]
    rfl

theorem readQuoteRule_filled (h : Filled standard inner inner')
    (hkey : standard.lookup "remove_quotes" = some .null) :
    readQuoteRule inner' = readQuoteRule inner := by
  unfold readQuoteRule
  rcases h.cases hkey with he | ⟨hnull, hfilled⟩
  · rw [he]
  · rw [hnull, hfilled]

/-- An order of the details that is given reads the same. -/
theorem readDetailsOrder_filled (h : Filled standard inner inner')
    (horder : Value.field inner "details_order" ≠ .null) :
    readDetailsOrder inner' = readDetailsOrder inner := by
  rcases h "details_order" with he | ⟨hnull, -⟩
  · unfold readDetailsOrder readText
    rw [he]
  · exact absurd hnull horder

/-- An order that is left out is refused. -/
theorem readDetailsOrder_of_null (h : Value.field inner "details_order" = .null) :
    readDetailsOrder inner = .error .noDetailsOrder := by
  have hempty : (OrderField.listOfString "").isEmpty = true := by decide
  unfold readDetailsOrder readText
  rw [h]
  simp [hempty, throw, throwThe, MonadExceptOf.throw, bind, Except.bind]

end

/-! ## Reading sections -/

theorem readSection_of_null {fields : Fields} {name : String}
    (h : Value.field fields name = .null) : readSection fields name = .ok [] := by
  unfold readSection
  rw [h]
  rfl

theorem readSection_of_mapping {fields inner : Fields} {name : String}
    (h : Value.field fields name = .mapping inner) : readSection fields name = .ok inner := by
  unfold readSection
  rw [h]
  cases inner <;> rfl

theorem fillSection_cases (standard : Fields) (v : Value) :
    v = .null ∨ (∃ inner, v = .mapping inner) ∨ fillSection (.mapping standard) v = v := by
  cases v with
  | null => exact .inl rfl
  | mapping inner => exact .inr (.inl ⟨inner, rfl⟩)
  | _ => exact .inr (.inr rfl)

/-- A section is refused with its defaults filled in as it is without, or it reads as a mapping in
which they are filled in. -/
theorem readSection_filled {name : String} {standard : Fields}
    (hname : defaults.lookup name = some (.mapping standard))
    (hstandard : (standard.map (·.1)).Nodup) (fields : Fields) :
    (∃ e, readSection fields name = .error e ∧ readSection (filled fields) name = .error e) ∨
      ∃ inner inner', readSection fields name = .ok inner ∧
        readSection (filled fields) name = .ok inner' ∧ Filled standard inner inner' := by
  have hread : Value.field (filled fields) name =
      fillSection (.mapping standard) (Value.field fields name) := by
    rw [filled, field_fillWith name (by decide), hname]
  rcases fillSection_cases standard (Value.field fields name) with hv | ⟨inner, hv⟩ | hv
  · rw [hv] at hread
    exact .inr ⟨[], standard, readSection_of_null hv, readSection_of_mapping hread, filled_standard⟩
  · rw [hv] at hread
    exact .inr ⟨inner, fillWith orDefault standard inner, readSection_of_mapping hv,
      readSection_of_mapping hread, filled_fillWith hstandard inner⟩
  · have hsame : readSection (filled fields) name = readSection fields name := by
      unfold readSection
      rw [hread, hv]
    rw [hsame]
    cases readSection fields name with
    | error e => exact .inl ⟨e, rfl, rfl⟩
    | ok inner => exact .inr ⟨inner, inner, rfl, rfl, fun key => .inl rfl⟩

/-! ## Reading everything -/

theorem bind_eq_bind {α β : Type} {first first' : Except SettingsError α}
    {second second' : α → Except SettingsError β} (h : first' = first)
    (hs : ∀ a, second' a = second a) : first' >>= second' = first >>= second := by
  rw [h]
  exact bind_congr hs

/-- Reading goes on alike after a section if it does with the defaults filled in. -/
theorem readSection_bind {β : Type} {name : String} {standard : Fields}
    (hname : defaults.lookup name = some (.mapping standard))
    (hstandard : (standard.map (·.1)).Nodup) {fields : Fields}
    {second second' : Fields → Except SettingsError β}
    (hs : ∀ inner inner', readSection fields name = .ok inner → Filled standard inner inner' →
      second' inner' = second inner) :
    readSection (filled fields) name >>= second' = readSection fields name >>= second := by
  rcases readSection_filled hname hstandard fields with ⟨e, h, h'⟩ | ⟨inner, inner', h, h', hfilled⟩
  · rw [h, h']
    rfl
  · rw [h, h']
    exact hs inner inner' h hfilled

/-- Whether an order of the details is given. -/
def GivesOrder (fields : Fields) : Prop :=
  ∃ nav, Value.field fields "navigation" = .mapping nav ∧ Value.field nav "details_order" ≠ .null

/-- With the order of the details given, nothing that is left out or null makes a difference. -/
theorem ofFields_filled {fields : Fields} (h : GivesOrder fields) :
    ofFields (filled fields) = ofFields fields := by
  obtain ⟨given, hgiven, horder⟩ := h
  refine readSection_bind rfl (by decide) fun nav nav' hnav fnav => ?_
  have hnav : given = nav := Except.ok.inj ((readSection_of_mapping hgiven).symm.trans hnav)
  rw [hnav] at horder
  refine readSection_bind rfl (by decide) fun sorting sorting' _ fsorting => ?_
  refine readSection_bind rfl (by decide) fun types types' _ ftypes => ?_
  refine readSection_bind rfl (by decide) fun doclets doclets' _ fdoclets => ?_
  refine readSection_bind rfl (by decide) fun output output' _ foutput => ?_
  refine readSection_bind rfl (by decide) fun templates templates' _ ftemplates => ?_
  refine bind_eq_bind (readSectionOrder_filled fnav rfl) fun sectionOrder => ?_
  refine bind_eq_bind (readDetailsOrder_filled fnav horder) fun detailsOrder => ?_
  refine bind_eq_bind (readDetailsFilter_filled fnav rfl) fun detailsFilter => ?_
  refine bind_eq_bind (readMenu_filled fnav rfl) fun menu => ?_
  refine bind_eq_bind (readQuoteRule_filled fdoclets rfl) fun quoteRule => ?_
  refine bind_eq_bind (readBool_filled fnav rfl) fun groupByPath => ?_
  refine bind_eq_bind (readBool_filled fnav rfl) fun showDetails => ?_
  refine bind_eq_bind (readBool_filled fnav rfl) fun skipEmptyGroups => ?_
  refine bind_eq_bind (readBool_filled fnav rfl) fun listByLongname => ?_
  refine bind_eq_bind (readBool_filled fnav rfl) fun listTypedefs => ?_
  refine bind_eq_bind (readBool_filled fsorting rfl) fun sorts => ?_
  refine bind_eq_bind (readText_filled fsorting rfl) fun sortFields => ?_
  refine bind_eq_bind (readBool_filled ftypes rfl) fun compactLongTypes => ?_
  refine bind_eq_bind (readBool_filled ftypes rfl) fun expandShortTypes => ?_
  refine bind_eq_bind (readBool_filled fdoclets rfl) fun includePrivate => ?_
  refine bind_eq_bind (readBool_filled foutput rfl) fun listSources => ?_
  refine bind_eq_bind (readTextOr_filled foutput rfl) fun encoding => ?_
  refine bind_eq_bind (readTexts_filled foutput rfl) fun staticFiles => ?_
  refine bind_eq_bind (readTextOr_filled foutput rfl) fun siteTitle => ?_
  refine bind_eq_bind (readTextOr_filled foutput rfl) fun mainPageTitle => ?_
  refine bind_eq_bind (readText_filled foutput rfl) fun readme => ?_
  refine bind_eq_bind (readText_filled ftemplates rfl) fun templatesDirectory => ?_
  exact bind_eq_bind (readText_filled ftemplates rfl) fun layoutFile => rfl

theorem bind_refused {α β : Type} {first : Except SettingsError α}
    {second : α → Except SettingsError β}
    (h : ∀ a, first = .ok a → ∃ e, second a = .error e) : ∃ e, first >>= second = .error e := by
  cases first with
  | error e => exact ⟨e, rfl⟩
  | ok a => exact h a rfl

theorem field_eq_null_of_not_givesOrder {fields nav : Fields} (h : ¬ GivesOrder fields)
    (hnav : readSection fields "navigation" = .ok nav) :
    Value.field nav "details_order" = .null := by
  by_contra horder
  have hempty : nav ≠ [] := fun he => horder (by rw [he]; rfl)
  unfold readSection at hnav
  dsimp only at hnav
  split at hnav
  · exact hempty (Except.ok.inj hnav).symm
  · split at hnav
    · rename_i inner hinner
      cases hnav
      exact h ⟨nav, hinner, horder⟩
    · cases hnav

/-- Without an order of the details settings are refused, whatever else they hold. -/
theorem ofFields_of_not_givesOrder {fields : Fields} (h : ¬ GivesOrder fields) :
    ∃ e, ofFields fields = .error e := by
  refine bind_refused fun nav hnav => ?_
  refine bind_refused fun sorting _ => bind_refused fun types _ => ?_
  refine bind_refused fun doclets _ => bind_refused fun output _ => ?_
  refine bind_refused fun templates _ => bind_refused fun sectionOrder _ => ?_
  refine bind_refused fun detailsOrder hrefused => ?_
  rw [readDetailsOrder_of_null (field_eq_null_of_not_givesOrder h hnav)] at hrefused
  cases hrefused

/-- Settings with all that is left out or null filled in as in the defaults come to the same as they
are, with the one exception that an order of the details is not filled in when they are read: then
they are refused, however the defaults would do. -/
theorem ofFields_filled_iff (fields : Fields) :
    ((ofFields fields).toOption = (ofFields (filled fields)).toOption ↔
      GivesOrder fields ∨ (ofFields (filled fields)).toOption = none) ∧
    (GivesOrder fields → ofFields fields = ofFields (filled fields)) ∧
    (¬ GivesOrder fields → ∃ e, ofFields fields = .error e) := by
  have hrefused : ¬ GivesOrder fields → (ofFields fields).toOption = none := by
    intro h
    obtain ⟨e, he⟩ := ofFields_of_not_givesOrder h
    rw [he]
    rfl
  refine ⟨⟨fun hsame => ?_, ?_⟩, fun h => (ofFields_filled h).symm, ofFields_of_not_givesOrder⟩
  · by_cases h : GivesOrder fields
    · exact .inl h
    · exact .inr (hsame.symm.trans (hrefused h))
  · rintro (h | hnone)
    · rw [ofFields_filled h]
    · by_cases h : GivesOrder fields
      · rw [ofFields_filled h]
      · rw [hrefused h, hnone]

/-- Without any settings the defaults do not hold: the order of the details is missing. It is
missing as well once a layer leaves the navigation empty. -/
theorem nothing_not_filled :
    ofFields [] = .error .noDetailsOrder ∧ (ofFields (filled [])).toOption.isSome = true ∧
      (ofFields []).toOption ≠ (ofFields (filled [])).toOption ∧
      ∃ e, ofFields (Value.mergeFields defaults [("navigation", .null)]) = .error e := by
  have hrefused : ofFields [] = .error .noDetailsOrder := by rfl
  have hfilled : (ofFields (filled [])).toOption.isSome = true := by decide
  refine ⟨hrefused, hfilled, fun hsame => ?_, (ofFields_filled_iff _).2.2 ?_⟩
  · rcases (ofFields_filled_iff []).1.mp hsame with ⟨nav, hnav, -⟩ | hnone
    · cases hnav
    · rw [hnone] at hfilled
      cases hfilled
  · rintro ⟨nav, hnav, -⟩
    cases hnav

end DocSite.Settings
