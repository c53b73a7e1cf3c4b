import DocSite.Value.Json

/-! Readers of YAML documents. What a reader makes of a document is its own affair; the one here
reads documents in flow style that are JSON as well. -/
namespace DocSite.Yaml
set_option autoImplicit false

/-- A reader of YAML documents. -/
abbrev Reader := String → Except JsonError Value

/-- Reads a document in flow style that is JSON as well; one without content is null. -/
def readFlow : Reader := fun s =>
  if (Json.skipBlanks s.toList).isEmpty then .ok .null else Json.read s

end DocSite.Yaml
