import DocSite.Proofs.Link.Address
import DocSite.Proofs.Nav.Filter
import DocSite.Proofs.Nav.Groups
import DocSite.Proofs.Nav.Listed
import DocSite.Proofs.Nav.Prefixes

/-! What building a section lists, and where. The items are fixed before they are placed: each new
entry gives one, in the order of the entries, and whether names are split into groups decides only
under which path it is put in. -/
namespace DocSite
set_option autoImplicit false

/-! ## Entries -/

/-- A link that is made from the longname and the label alone and leaves the registry as it is. -/
def LinkMaker.plain (f : String → String → Html) : LinkMaker :=
  fun r longname label => (f longname label, r)

namespace NavGroup

section
variable {seen seen' : List String} {entry : NavEntry}

end

/-! ## Items -/

/-- The item of an entry that is listed. -/
inductive Shows (s : Store) (settings : Settings) (r : Registry) (f : String → String → Html) :
    NavEntry → NavItem → Prop where
  | named (entry : NavEntry) : entry.longname = "" →
      Shows s settings r f entry { link := f "" entry.name }
  | listed {d : Doclet} {details : List NavGroup} : d.longnameOrEmpty ≠ "" →
      shownDetails s settings r d.longnameOrEmpty = .ok details →
      Shows s settings r f (.symbol d)
        { link := f d.longnameOrEmpty (d.navLabel settings), doclet := some d, details := details }

section
variable {s : Store} {settings : Settings} {r : Registry} {f : String → String → Html}

end

/-! ## Places -/

section
variable {settings : Settings} {d : Doclet} {name title : String} {g : NavGroup}

end

/-! ## Sections -/

section
variable {s : Store} {settings : Settings} {r : Registry} {f : String → String → Html}
  {seen : List String} {entries : List NavEntry}

end

end NavGroup
end DocSite
