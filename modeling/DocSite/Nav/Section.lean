/-! The sections of the sidebar. -/
namespace DocSite
set_option autoImplicit false

inductive Section where
  | classes
  | modules
  | externals
  | events
  | namespaces
  | mixins
  | tutorials
  | interfaces
deriving DecidableEq, Repr, Inhabited

namespace Section

/-- The heading of a section, which is also its name in the settings. -/
def title : Section → String
  | classes => "Classes"
  | modules => "Modules"
  | externals => "Externals"
  | events => "Events"
  | namespaces => "Namespaces"
  | mixins => "Mixins"
  | tutorials => "Tutorials"
  | interfaces => "Interfaces"

/-- All sections in the order of the sidebar when no other order is set. It is also the order in
which they claim the symbols they list. -/
def all : List Section :=
  [classes, modules, externals, events, namespaces, mixins, tutorials, interfaces]

/-- The section of a heading. -/
def ofTitle? (title : String) : Option Section := all.find? (·.title == title)

end Section
end DocSite
