import DocSite.Text.Split

/-! Addresses: links that lead out of the site, and the fragment of an address. -/
namespace DocSite.Address
set_option autoImplicit false

/-- The schemes that make a text an address of its own. -/
def schemes : List String := ["http://", "https://", "ftp://", "ftps://", "file:", "mailto:"]

/-- Whether a text is an address that leads out of the site. -/
def isExternal (s : String) : Bool := schemes.any fun scheme => s.startsWith scheme

/-- The fragment of an address: what follows its last number sign. -/
def fragment? (url : String) : Option String := Text.afterLast? '#' url

/-- The page of an address: what stands before its first number sign. -/
def page (url : String) : String := Text.beforeFirst '#' url

/-- An address with a fragment, unless the fragment is empty. -/
def withFragment (page fragment : String) : String :=
  if fragment == "" then page else page ++ "#" ++ fragment

end DocSite.Address
