import MenuOutline.Text.CaseFold

-- References found in pages: files of the site, other hosts, embedded data and links that go
-- nowhere.

namespace MenuOutline.Link

-- Drops the steps that lead to the root of the site.
def dropRelative : List Char → List Char
  | '.' :: '/' :: cs => dropRelative cs
  | '.' :: '.' :: '/' :: cs => dropRelative cs
  | '/' :: cs => dropRelative cs
  | cs => cs

-- The path of a file below the root of the site, with forward slashes.
def assetPath (path : String) : String :=
  .ofList (dropRelative (path.toList.map fun c => if c = '\\' then '/' else c))

-- Whether a reference leads to another host.
def isExternal (path : String) : Bool :=
  let cs := path.toList
  "//".toList.isPrefixOf cs || Text.startsWithAnyCase "http://".toList cs ||
    Text.startsWithAnyCase "https://".toList cs

def isData (path : String) : Bool :=
  Text.startsWithAnyCase "data:".toList path.toList

-- Whether a link stays on its page: an anchor or a script.
def isSpecial (path : String) : Bool :=
  path.toList.head? == some '#' || Text.startsWithAnyCase "javascript:".toList path.toList

end MenuOutline.Link
