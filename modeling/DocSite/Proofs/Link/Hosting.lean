import DocSite.Proofs.Link.Address

/-! The page that a doclet stands on. Computing an address asks for one page alone, the one of the
longname that hosts the doclet, and gives that longname its file and its address if it has none. -/
namespace DocSite
set_option autoImplicit false

/-! ## Hosts -/

namespace Doclet

/-- Whether a doclet has a page of its own. -/
def ownsPage (d : Doclet) : Bool := d.isContainer || d.isModuleExports

/-- The longname whose page a doclet stands on; none for those among the globals. -/
def host? (d : Doclet) : Option String :=
  if d.ownsPage then some d.linkName
  else if namesContainer d.linkName then some (d.container?.getD d.linkName)
  else d.container?

/-- Whether the address of a doclet may have a fragment. -/
def standsWithin (d : Doclet) : Bool :=
  if d.ownsPage then false
  else if namesContainer d.linkName then d.name != d.linkName
  else d.name != d.linkName || d.scope == some "global"

theorem host?_of_ownsPage {d : Doclet} (h : d.ownsPage = true) : d.host? = some d.linkName := by
  rw [host?, if_pos h]

end Doclet

namespace Registry

/-- The page of a host, which is the page of globals where there is none. -/
def hostPage (r : Registry) : Option String → String × Registry
  | some host => r.pageOf host
  | none => (r.globalUrl, r)

theorem urlFor_eq (r : Registry) (d : Doclet) :
    r.urlFor d =
      (r.hostPage d.host?).2.within (r.hostPage d.host?).1 d d.standsWithin := by
  unfold urlFor Doclet.host? Doclet.standsWithin Doclet.ownsPage
  dsimp only
  split
  · rfl
  · split
    · rfl
    · cases d.container? <;> rfl

theorem urlFor_alone {d : Doclet} (h : d.standsWithin = false) (r : Registry) :
    r.urlFor d = r.hostPage d.host? := by
  rw [urlFor_eq, h]
  rfl

theorem urlFor_within {d : Doclet} (h : d.standsWithin = true) (r : Registry) :
    r.urlFor d =
      (Address.withFragment (r.hostPage d.host?).1
        ((r.hostPage d.host?).2.fragmentOf (r.hostPage d.host?).1 d.linkName d.fragmentName).1,
        ((r.hostPage d.host?).2.fragmentOf (r.hostPage d.host?).1 d.linkName d.fragmentName).2) := by
  rw [urlFor_eq, h]
  rfl

/-! ## The page of a longname -/

section
variable {r : Registry} {host l : String}

theorem pageOf_of_some {url : String} (h : r.url? host = some url) : r.pageOf host = (url, r) := by
  rw [pageOf, show r.urls.get? host = some url from h]

theorem pageOf_of_none (h : r.url? host = none) :
    r.pageOf host =
      ((r.allocate host host).1,
        ((r.allocate host host).2.register host (r.allocate host host).1).1) := by
  rw [pageOf, show r.urls.get? host = none from h]

theorem pageOf_self (r : Registry) (host : String) :
    (r.pageOf host).2.url? host = some (r.pageOf host).1 := by
  cases h : r.url? host with
  | some url => rw [pageOf_of_some h, h]
  | none =>
    have hn : (r.allocate host host).2.url? host = none := by
      rw [url?, allocate_urls]
      exact h
    rw [pageOf_of_none h, register_get?, if_pos rfl, hn]
    rfl

theorem pageOf_other (r : Registry) (h : l ≠ host) : (r.pageOf host).2.url? l = r.url? l := by
  cases hu : r.url? host with
  | some url => rw [pageOf_of_some hu]
  | none =>
    rw [pageOf_of_none hu, register_get?, if_neg h, url?, allocate_urls]
    rfl

theorem pageOf_file (h : r.url? host = none) :
    (r.pageOf host).2.files.get? host = some (r.pageOf host).1 := by
  rw [pageOf_of_none h, register_files]
  exact allocate_get?_self r host host

end

theorem pageOf_ids (r : Registry) (longname : String) :
    (r.pageOf longname).2.fragments = r.fragments ∧
      (r.pageOf longname).2.takenIds = r.takenIds := by
  unfold pageOf
  split <;> simp

theorem hostPage_ids (r : Registry) (host : Option String) :
    (r.hostPage host).2.fragments = r.fragments ∧ (r.hostPage host).2.takenIds = r.takenIds := by
  cases host with
  | some host => exact pageOf_ids r host
  | none => exact ⟨rfl, rfl⟩

/-! ## Addresses -/

section
variable (r : Registry) (page : String) (d : Doclet) (named : Bool)

theorem within_eq : ∃ fragment,
    (r.within page d named).1 = Address.withFragment page fragment := by
  unfold within
  split
  · exact ⟨_, rfl⟩
  · exact ⟨"", rfl⟩

@[simp] theorem within_urls : (r.within page d named).2.urls = r.urls := by
  unfold within
  split
  · exact fragmentOf_urls r ..
  · rfl

@[simp] theorem within_files : (r.within page d named).2.files = r.files := by
  unfold within
  split
  · exact fragmentOf_files r ..
  · rfl

end

section
variable (r : Registry) (d : Doclet)

/-- An address lies on the page of its host. -/
theorem page_urlFor : Address.page (r.urlFor d).1 = Address.page (r.hostPage d.host?).1 := by
  rw [urlFor_eq]
  obtain ⟨fragment, h⟩ := within_eq (r.hostPage d.host?).2 (r.hostPage d.host?).1 d d.standsWithin
  rw [h, Address.page_withFragment]

theorem urlFor_urls : (r.urlFor d).2.urls = (r.hostPage d.host?).2.urls := by
  rw [urlFor_eq, within_urls]

theorem urlFor_files : (r.urlFor d).2.files = (r.hostPage d.host?).2.files := by
  rw [urlFor_eq, within_files]

theorem urlFor_of_ownsPage {d : Doclet} (h : d.ownsPage = true) :
    r.urlFor d = r.pageOf d.linkName := by
  rw [urlFor_eq, Doclet.host?_of_ownsPage h, Doclet.standsWithin, if_pos h]
  rfl

theorem urlFor_url?_of_ne {l : String} (h : d.host? ≠ some l) :
    (r.urlFor d).2.url? l = r.url? l := by
  rw [url?, urlFor_urls]
  cases hh : d.host? with
  | none => rfl
  | some host => exact pageOf_other r fun e => h (e ▸ hh)

theorem urlFor_host_of_none {l : String} (h : d.host? = some l) (hu : r.url? l = none) :
    ∃ file, (r.urlFor d).2.files.get? l = some file ∧ (r.urlFor d).2.url? l = some file := by
  refine ⟨(r.pageOf l).1, ?_, ?_⟩
  · rw [urlFor_files, h]
    exact pageOf_file hu
  · rw [url?, urlFor_urls, h]
    exact pageOf_self r l

end

end Registry
end DocSite
