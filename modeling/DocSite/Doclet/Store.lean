import DocSite.Doclet.Order
import DocSite.Doclet.Query

/-! The doclets of one run, in order. -/
namespace DocSite
set_option autoImplicit false

structure Store where
  doclets : List Doclet := []
deriving Inhabited

namespace Store

def find (s : Store) (p : Doclet → Bool) : List Doclet := s.doclets.filter p

def ofKind (s : Store) (kind : String) : List Doclet := s.find (·.kind == kind)

def removeWhere (s : Store) (p : Doclet → Bool) : Store := ⟨s.doclets.filter (!p ·)⟩

def map (s : Store) (f : Doclet → Doclet) : Store := ⟨s.doclets.map f⟩

def sort (s : Store) (spec : String) : Store := ⟨orderByText spec s.doclets⟩

/-- Doclets that are never published: undocumented, ignored, members of anonymous code, and
private ones unless they are wanted. -/
def isHidden (includePrivate : Bool) (d : Doclet) : Bool :=
  d.isUndocumented || d.isIgnored || d.memberof == some "<anonymous>" ||
    (!includePrivate && d.access == some "private")

/-- The store without the doclets that are never published. -/
def prune (s : Store) (includePrivate : Bool) : Store := s.removeWhere (isHidden includePrivate)

def listenersOf (s : Store) (event : String) : List String :=
  ((s.find (·.listens.contains event)).filterMap (·.longname)).filter (· != "")

/-- Notes on every event with a longname who listens to it. -/
def addListeners (s : Store) : Store :=
  s.map fun d =>
    if d.kind == "event" && d.longnameOrEmpty != "" then
      { d with listeners := s.listenersOf d.longnameOrEmpty }
    else d

/-- The store with doclets that have no places. -/
def unplaced (s : Store) : Store := s.map Doclet.unplaced

end Store
end DocSite
