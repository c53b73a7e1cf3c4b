import DocSite.Groups
import DocSite.Proofs.Text.Trim
import DocSite.Type.Linker

/-! When two linkers write a type in the same way. The markup of a type can be read back token by
token: a link starts with a bracket, its address ends at a quote and its label at the next bracket,
and none of these marks occurs in escaped text. So two linkers agree on a type only where they agree
on every name in it. -/
namespace DocSite
set_option autoImplicit false

namespace Html

/-! ## Reading markup back -/

/-- A link to an address under a label, both of them plain text. -/
def IsAnchor (h : Html) : Prop :=
  ∃ address label, h.markup.toList = "<a href=\"".toList ++ (escape address ++
    '"' :: '>' :: (escape label ++ '<' :: "/a>".toList))

/-- The two pieces end at the same place wherever the texts that start with them are the same. -/
def Separable (a b : Html) : Prop :=
  ∀ us vs, a.markup.toList ++ us = b.markup.toList ++ vs → a.markup = b.markup ∧ us = vs

section
variable {a b : Html}

theorem Separable.refl (a : Html) : Separable a a :=
  fun _ _ h => ⟨rfl, List.append_cancel_left h⟩

/-- What stands before the first occurrence of a mark is settled by the whole text. -/
theorem cut_inj {mark : Char} {xs ys us vs : List Char} (hx : mark ∉ xs) (hy : mark ∉ ys)
    (h : xs ++ mark :: us = ys ++ mark :: vs) : xs = ys ∧ us = vs := by
  have hcut := congrArg (Text.cutFirst? mark) h
  rw [Text.cutFirst?_append hx, Text.cutFirst?_append hy] at hcut
  exact Prod.mk.inj (Option.some.inj hcut)

theorem IsAnchor.separable (ha : a.IsAnchor) (hb : b.IsAnchor) : Separable a b := by
  obtain ⟨address, label, ha⟩ := ha
  obtain ⟨address', label', hb⟩ := hb
  intro us vs h
  have hquote : ∀ cs : List Char, '"' ∉ escape cs := not_mem_escape (by decide)
  have hbracket : ∀ cs : List Char, '<' ∉ escape cs := not_mem_escape (by decide)
  have hopen : escape address ++ '"' :: ('>' :: (escape label ++ '<' :: ("/a>".toList ++ us))) =
      escape address' ++ '"' :: ('>' :: (escape label' ++ '<' :: ("/a>".toList ++ vs))) := by
    rw [ha, hb] at h
    simp only [List.append_assoc, List.cons_append] at h
    exact List.append_cancel_left h
  obtain ⟨haddress, hrest⟩ := cut_inj (hquote _) (hquote _) hopen
  obtain ⟨hlabel, hrest⟩ := cut_inj (hbracket _) (hbracket _) (List.cons.inj hrest).2
  refine ⟨String.toList_injective ?_, List.append_cancel_left hrest⟩
  rw [ha, hb, haddress, hlabel]

/-- A link and a text that is not empty differ in their first characters. -/
theorem IsAnchor.not_text (ha : a.IsAnchor) {s : String} (hs : s.toList ≠ []) (us vs : List Char) :
    a.markup.toList ++ us ≠ (text s).markup.toList ++ vs := by
  obtain ⟨address, label, ha⟩ := ha
  intro h
  obtain ⟨c, rest, hc⟩ := List.exists_cons_of_ne_nil hs
  have hnonempty : ∃ d ds, escape s.toList = d :: ds := by
    refine List.exists_cons_of_ne_nil ?_
    rw [hc, escape, List.flatMap_cons]
    unfold escapeChar
    split <;> simp
  obtain ⟨d, ds, hd⟩ := hnonempty
  have hbracket : '<' ∉ escape s.toList := not_mem_escape (by decide) _
  have hmarkup : (text s).markup.toList = d :: ds := String.toList_ofList.trans hd
  rw [ha, hmarkup] at h
  have hhead : '<' = d := Option.some.inj (congrArg List.head? h)
  exact hbracket (hd ▸ hhead ▸ List.mem_cons_self)

/-- A link or a text that is not empty. -/
theorem separable_of_anchors {s : String} (hs : s.toList ≠ []) (ha : a.IsAnchor ∨ a = text s)
    (hb : b.IsAnchor ∨ b = text s) : Separable a b := by
  rcases ha with ha | rfl <;> rcases hb with hb | rfl
  · exact ha.separable hb
  · exact fun us vs h => absurd h (ha.not_text hs us vs)
  · exact fun us vs h => absurd h.symm (hb.not_text hs vs us)
  · exact .refl _

/-- Pieces that can be told apart are the same one by one where they are the same together. -/
theorem markup_each_eq_iff {α : Type} {items : List α} {f g : α → Html}
    (h : ∀ x ∈ items, Separable (f x) (g x)) :
    (each items f).markup = (each items g).markup ↔ ∀ x ∈ items, (f x).markup = (g x).markup := by
  induction items with
  | nil => exact ⟨fun _ x hx => absurd hx List.not_mem_nil, fun _ => rfl⟩
  | cons x rest ih =>
    obtain ⟨hx, hrest⟩ := List.forall_mem_cons.mp h
    have heach : ∀ k : α → Html, (each (x :: rest) k).markup = (k x).markup ++ (each rest k).markup :=
      fun _ => rfl
    rw [heach, heach, List.forall_mem_cons, ← ih hrest]
    constructor
    · intro he
      have hl := congrArg String.toList he
      rw [String.toList_append, String.toList_append] at hl
      obtain ⟨hfirst, hlater⟩ := hx _ _ hl
      exact ⟨hfirst, String.toList_injective hlater⟩
    · rintro ⟨hfirst, hlater⟩
      rw [hfirst, hlater]

end

end Html

/-! ## Tokens -/

namespace TypeToken

theorem nameAt_ne_nil {cs : List Char} (h : cs.head?.any Text.isWord = true) :
    nameAt cs ≠ [] := by
  cases cs with
  | nil => cases h
  | cons c rest =>
    have hc : Text.isWord c = true := h
    unfold nameAt
    rw [List.takeWhile_cons_of_pos hc]
    dsimp only
    split <;> simp

theorem mem_memberTail {cs tail : List Char} (h : memberTail? cs = some tail) {c : Char}
    (hc : c ∈ tail) : c = ':' ∨ c = '/' ∨ isMark c = true ∨ Text.isWord c = true := by
  unfold memberTail? at h
  split at h
  · rename_i rest
    dsimp only at h
    split at h
    · split at h
      · rename_i mark after _
        split at h
        · rename_i hmark
          cases h
          rw [List.cons_append, List.mem_cons, List.mem_append, List.mem_cons] at hc
          rcases hc with rfl | hc | rfl | hc
          · exact .inl rfl
          · have hpath := List.mem_takeWhile_imp hc
            simp only [Bool.or_eq_true, beq_iff_eq] at hpath
            exact hpath.elim (.inr ∘ .inr ∘ .inr) (.inr ∘ .inl)
          · rw [Bool.and_eq_true] at hmark
            exact .inr (.inr (.inl hmark.1))
          · exact .inr (.inr (.inr (List.mem_takeWhile_imp hc)))
        · cases h
      · cases h
    · cases h
  · cases h

/-- There is no quote in a name. -/
theorem quote_not_mem_nameAt (cs : List Char) : '"' ∉ nameAt cs := by
  have hword : Text.isWord '"' = false := by decide
  have hnot : ∀ cs : List Char, '"' ∉ cs.takeWhile Text.isWord := fun cs h => by
    have := List.mem_takeWhile_imp h
    rw [hword] at this
    cases this
  intro h
  unfold nameAt at h
  dsimp only at h
  split at h
  · rcases List.mem_append.mp h with h | h
    · exact hnot _ h
    · cases htail : memberTail? (cs.drop (cs.takeWhile Text.isWord).length) with
      | none =>
        rw [htail] at h
        cases h
      | some tail =>
        rw [htail] at h
        have := mem_memberTail htail h
        rw [hword] at this
        revert this
        decide
  · exact hnot _ h

theorem mem_list_isName {cs : List Char} {t : TypeToken} (h : t ∈ list cs) (hn : t.isName = true) :
    ∃ rest, rest.head?.any Text.isWord = true ∧ t.text = nameAt rest := by
  have hall : ∀ (steps : Nat) (cs : List Char), t ∈ listWithin steps cs →
      ∃ rest, rest.head?.any Text.isWord = true ∧ t.text = nameAt rest := by
    intro steps
    induction steps with
    | zero =>
      intro cs h
      cases h
    | succ steps ih =>
      intro cs h
      cases cs with
      | nil => cases h
      | cons c rest =>
        rcases List.mem_cons.mp h with rfl | h
        · unfold first at hn ⊢
          split
          · rename_i hword
            exact ⟨c :: rest, hword, rfl⟩
          · rename_i hword
            rw [if_neg hword] at hn
            cases hn
        · exact ih _ h
  exact hall _ _ h

/-- Names are not empty. -/
theorem text_ne_nil {cs : List Char} {t : TypeToken} (h : t ∈ list cs) (hn : t.isName = true) :
    t.text ≠ [] := by
  obtain ⟨rest, hword, he⟩ := mem_list_isName h hn
  exact he ▸ nameAt_ne_nil hword

end TypeToken

/-! ## Links to types -/

namespace Registry

section
variable {r r' : Registry} {name : String}

theorem isAnchor_anchorWith (address label : String) :
    (anchorWith (.text address) .empty (.text label)).IsAnchor := by
  refine ⟨address.toList, label.toList, ?_⟩
  simp only [anchorWith, Html.attr, Html.markup_append, Html.raw, Html.empty, Html.text,
    String.toList_append, String.toList_ofList]
  simp

theorem isAnchor_linkTo {url : String} (hu : r.url? name = some url) (hne : url ≠ "") (s : String) :
    (r.linkTo (some name) (.text s)).IsAnchor := by
  have hlabel : ∀ other : String, ∃ label,
      (if (Html.text s).isEmpty then Html.text other else .text s) = .text label := by
    intro other
    split <;> exact ⟨_, rfl⟩
  have hsome : ((some name).bind r.url?).filter (· != "") = some url := by
    simp [hu, hne]
  unfold linkTo linkWith
  dsimp only
  rw [hsome]
  split
  · obtain ⟨label, h⟩ := hlabel (String.ofList
      (Text.trimWhere (fun c => c == '<' || c == '>') ((some name).getD "").toList))
    rw [h]
    exact isAnchor_anchorWith _ _
  · obtain ⟨label, h⟩ := hlabel ((some name).getD "")
    rw [h]
    exact isAnchor_anchorWith _ _

/-- A link depends on the address of its name alone. -/
theorem linkTo_congr (h : r'.url? name = r.url? name) (label : Html) :
    r'.linkTo (some name) label = r.linkTo (some name) label := by
  unfold linkTo linkWith
  rw [Option.bind_some, Option.bind_some, h]

end

end Registry

namespace TypeLinker

/-- Every longname that a linker links has an address. -/
def Known (l : TypeLinker) (r : Registry) : Prop :=
  ∀ longname, l.index.isUnique longname = true → ∃ url, r.url? longname = some url ∧ url ≠ ""

/-- Whether a name is linked. -/
def links (l : TypeLinker) (name : String) : Bool := l.index.isUnique (l.meant name)

/-- The link of a name. -/
def link (l : TypeLinker) (r : Registry) (name : String) : Html :=
  r.linkTo (some (l.meant name)) (l.shown (l.meant name))

/-- Two linkers write a name in the same way: neither links it, or both do so alike. -/
def LinkedAlike (r : Registry) (l l' : TypeLinker) (name : String) : Prop :=
  l.links name = l'.links name ∧
    (l.links name = true → (l.link r name).markup = (l'.link r name).markup)

section
variable {l l' : TypeLinker} {r r' : Registry} {name : String} {t : TypeToken}

theorem token_of_not_isName (h : t.isName = false) :
    l.token r t = .text (String.ofList t.text) := by
  rw [token, h]
  rfl

theorem token_of_links (hn : t.isName = true) (h : l.links (String.ofList t.text) = true) :
    l.token r t = l.link r (String.ofList t.text) := by
  have hunique : l.index.isUnique (l.meant (String.ofList t.text)) = true := h
  rw [token, hn, hunique]
  exact if_pos rfl

theorem token_of_not_links (h : l.links (String.ofList t.text) = false) :
    l.token r t = .text (String.ofList t.text) := by
  have hunique : l.index.isUnique (l.meant (String.ofList t.text)) = false := h
  rw [token, hunique, Bool.and_false]
  rfl

theorem isAnchor_link (hl : l.Known r) (h : l.links name = true) : (l.link r name).IsAnchor := by
  obtain ⟨url, hu, hne⟩ := hl _ h
  exact Registry.isAnchor_linkTo hu hne _

theorem isAnchor_or_text (hl : l.Known r) (hn : t.isName = true) :
    (l.token r t).IsAnchor ∨ l.token r t = .text (String.ofList t.text) := by
  cases h : l.links (String.ofList t.text) with
  | true => exact .inl (token_of_links hn h ▸ isAnchor_link hl h)
  | false => exact .inr (token_of_not_links h)

theorem token_markup_eq_iff (hl : l.Known r) (hl' : l'.Known r) (hn : t.isName = true)
    (hne : t.text ≠ []) :
    (l.token r t).markup = (l'.token r t).markup ↔
      LinkedAlike r l l' (String.ofList t.text) := by
  have hne' : (String.ofList t.text).toList ≠ [] := by rwa [String.toList_ofList]
  unfold LinkedAlike
  cases h : l.links (String.ofList t.text) <;> cases h' : l'.links (String.ofList t.text)
  · rw [token_of_not_links h, token_of_not_links h']
    simp
  · rw [token_of_not_links h, token_of_links hn h']
    refine iff_of_false (fun he => ?_) (by simp)
    exact (isAnchor_link hl' h').not_text hne' [] [] (by rw [← he])
  · rw [token_of_links hn h, token_of_not_links h']
    refine iff_of_false (fun he => ?_) (by simp)
    exact (isAnchor_link hl h).not_text hne' [] [] (by rw [he])
  · rw [token_of_links hn h, token_of_links hn h']
    simp

/-- Two linkers agree on a type where they agree on the names in it, and only there. -/
theorem expression_markup_eq_iff (hl : l.Known r) (hl' : l'.Known r) (text : String) :
    (l.expression r text).markup = (l'.expression r text).markup ↔
      ∀ t ∈ TypeToken.list text.toList, t.isName = true →
        LinkedAlike r l l' (String.ofList t.text) := by
  have hsep : ∀ t ∈ TypeToken.list text.toList, Html.Separable (l.token r t) (l'.token r t) := by
    intro t ht
    cases hn : t.isName with
    | true =>
      refine Html.separable_of_anchors ?_ (isAnchor_or_text hl hn) (isAnchor_or_text hl' hn)
      rw [String.toList_ofList]
      exact TypeToken.text_ne_nil ht hn
    | false =>
      rw [token_of_not_isName hn, token_of_not_isName hn]
      exact .refl _
  unfold expression
  rw [Html.markup_each_eq_iff hsep]
  refine forall₂_congr fun t ht => ?_
  cases hn : t.isName with
  | true => simp [token_markup_eq_iff hl hl' hn (TypeToken.text_ne_nil ht hn)]
  | false => simp [token_of_not_isName hn]

theorem linkedAlike_of_meant (hindex : l'.index.isUnique = l.index.isUnique)
    (hcompact : l'.compact = l.compact) (h : l'.meant name = l.meant name) :
    LinkedAlike r l l' name := by
  refine ⟨?_, fun _ => ?_⟩
  · rw [links, links, h, hindex]
  · rw [link, link, h, shown, shown, hcompact]

/-- A registry that keeps the addresses of the linked names gives the same markup. -/
theorem expression_congr
    (h : ∀ longname, l.index.isUnique longname = true → r'.url? longname = r.url? longname)
    (text : String) : l.expression r' text = l.expression r text := by
  have htoken : l.token r' = l.token r := by
    funext t
    cases hn : t.isName with
    | false => rw [token_of_not_isName hn, token_of_not_isName hn]
    | true =>
      cases hl : l.links (String.ofList t.text) with
      | false => rw [token_of_not_links hl, token_of_not_links hl]
      | true =>
        rw [token_of_links hn hl, token_of_links hn hl]
        exact Registry.linkTo_congr (h _ hl) _
  rw [expression, expression, htoken]

end

end TypeLinker

/-! ## Types of a store -/

theorem Store.find_map {s : Store} {f : Doclet → Doclet} {p : Doclet → Bool}
    (h : ∀ d ∈ s.doclets, p (f d) = p d) : (s.map f).find p = (s.find p).map f := by
  rw [find, map, List.filter_map]
  exact congrArg (List.map f) (List.filter_congr h)

theorem Text.unwrap_of_not_mem {head tail : Char} {cs : List Char} (h : head ∉ cs) (h' : tail ∉ cs) :
    unwrap head tail cs = cs := by
  have hlast : cs.getLast? ≠ some tail := fun he => h' (List.mem_of_getLast? he)
  cases cs with
  | nil => rfl
  | cons c rest =>
    have hc : c ≠ head := fun he => h (he ▸ List.mem_cons_self)
    simp only [unwrap, beq_iff_eq, hc, hlast, if_false]

/-- A name in a type has no quotes to lose. -/
theorem TypeToken.unquoted_text {cs : List Char} {t : TypeToken} (h : t ∈ list cs)
    (hn : t.isName = true) : unquoted (String.ofList t.text) = String.ofList t.text := by
  obtain ⟨rest, -, he⟩ := mem_list_isName h hn
  have hquote : '"' ∉ t.text := he ▸ quote_not_mem_nameAt rest
  rw [unquoted, String.toList_ofList, Text.unwrap_of_not_mem hquote hquote]

namespace TypeIndex

section
variable {s : Store} {f : Doclet → Doclet} {name : String}

/-- Of the types with a name only the longnames count. -/
theorem longnameFor_congr {index index' : TypeIndex}
    (h : (index'.entries.filter (·.1 == name)).map Prod.snd =
      (index.entries.filter (·.1 == name)).map Prod.snd) :
    index'.longnameFor name = index.longnameFor name := by
  unfold longnameFor
  generalize index.entries.filter (·.1 == name) = found at h ⊢
  generalize index'.entries.filter (·.1 == name) = found' at h ⊢
  rcases found with _ | ⟨⟨_, longname⟩, _ | ⟨_, _⟩⟩ <;>
    rcases found' with _ | ⟨⟨_, longname'⟩, _ | ⟨_, _⟩⟩ <;>
    simp only [List.map_nil, List.map_cons, List.cons.injEq, reduceCtorEq, and_false] at h
  · rfl
  · rw [h.1]
    cases longname <;> rfl
  · cases longname <;> cases longname' <;> rfl

/-- The types under their names without the quotes of externals. -/
theorem entries_unquoteExternals (s : Store) :
    (ofStore s.unquoteExternals).entries =
      (s.find fun d => kinds.contains d.kind).map fun d =>
        (if d.kind == "external" then unquoted d.name else d.name, d.longname) := by
  rw [ofStore, Store.unquoteExternals, Store.find_map fun d _ => by split <;> rfl, List.map_map]
  refine List.map_congr_left fun d _ => ?_
  rw [Function.comp_apply]
  split <;> rfl

/-- Doclets that are changed in other fields are the same types. -/
theorem ofStore_unquoteExternals_map
    (hkind : ∀ d ∈ s.doclets, kinds.contains (f d).kind = kinds.contains d.kind ∧
      ((f d).kind == "external") = (d.kind == "external"))
    (hname : ∀ d ∈ s.doclets, (f d).name = d.name ∧ (f d).longname = d.longname) :
    ofStore (s.map f).unquoteExternals = ofStore s.unquoteExternals := by
  refine congrArg TypeIndex.mk ?_
  change (ofStore (s.map f).unquoteExternals).entries = (ofStore s.unquoteExternals).entries
  rw [entries_unquoteExternals, entries_unquoteExternals,
    Store.find_map fun d hd => (hkind d hd).1, List.map_map]
  refine List.map_congr_left fun d hd => ?_
  have hmem := (List.mem_filter.mp hd).1
  rw [Function.comp_apply, (hkind d hmem).2, (hname d hmem).1, (hname d hmem).2]

theorem isUnique_unquoteExternals (s : Store) :
    (ofStore s.unquoteExternals).isUnique = (ofStore s).isUnique := by
  funext longname
  unfold isUnique
  rw [entries_unquoteExternals, ofStore, List.filter_map, List.filter_map, List.length_map,
    List.length_map]
  rfl

/-- A name that no external bears in quotes alone means the same without the quotes. -/
theorem longnameFor_unquoteExternals (hname : unquoted name = name)
    (h : ∀ d ∈ s.doclets, d.kind = "external" → unquoted d.name = name → d.name = name) :
    (ofStore s.unquoteExternals).longnameFor name = (ofStore s).longnameFor name := by
  have hfilter : (s.find fun d => kinds.contains d.kind).filter
      (fun d => (if d.kind == "external" then unquoted d.name else d.name) == name) =
        (s.find fun d => kinds.contains d.kind).filter fun d => d.name == name := by
    refine List.filter_congr fun d hd => ?_
    split
    · rename_i hk
      have hiff : unquoted d.name = name ↔ d.name = name :=
        ⟨h d (List.mem_filter.mp hd).1 (by simpa using hk), fun he => he ▸ hname⟩
      simp only [beq_eq_beq, hiff]
    · rfl
  refine longnameFor_congr ?_
  rw [entries_unquoteExternals, ofStore, List.filter_map, List.filter_map, List.map_map,
    List.map_map]
  exact congrArg _ hfilter

/-- A longname that is linked is that of a documented type. -/
theorem exists_of_isUnique {longname : String} (h : (ofStore s).isUnique longname = true) :
    longname ≠ "" ∧
      ∃ d ∈ s.doclets, kinds.contains d.kind = true ∧ d.longname = some longname := by
  rw [isUnique, Bool.and_eq_true, bne_iff_ne, beq_iff_eq] at h
  obtain ⟨hne, hlength⟩ := h
  obtain ⟨entry, hentry⟩ := List.length_eq_one_iff.mp hlength
  have hmem : entry ∈ (ofStore s).entries.filter (·.2 == some longname) := by
    rw [hentry]
    exact List.mem_singleton.mpr rfl
  obtain ⟨hentries, hlongname⟩ := List.mem_filter.mp hmem
  obtain ⟨d, hd, rfl⟩ := List.mem_map.mp hentries
  obtain ⟨hd, hkind⟩ := List.mem_filter.mp hd
  exact ⟨hne, d, hd, hkind, beq_iff_eq.mp hlongname⟩

end

end TypeIndex
end DocSite
