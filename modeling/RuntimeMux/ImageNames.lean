import RuntimeMux.TextMap

/-!
# Names of images

A digest does not tell which runtime holds the image. For every digest that came along, the table
remembers the name under which callers last saw the image, which is qualified by the scope of its
runtime.
-/

namespace RuntimeMux

/-- The last known name of each image, by the id of the image. -/
structure ImageNames where
  names : TextMap
  deriving DecidableEq

namespace ImageNames

/-- The table that knows no image. -/
def empty : ImageNames := ⟨.empty⟩

/-- Remembers the name of an image. An empty id or name says nothing, and neither does an id that
is its own name. -/
def record (t : ImageNames) (id name : String) : ImageNames :=
  if id.isEmpty || name.isEmpty || id == name then t else ⟨t.names.insert id name⟩

/-- The name of an image. -/
def lookup (t : ImageNames) (id : String) : Option String :=
  t.names.get? id

/-- Forgets the name of an image. -/
def forget (t : ImageNames) (id : String) : ImageNames :=
  ⟨t.names.erase id⟩

/-- Forgets every image that has the name. -/
def forgetName (t : ImageNames) (name : String) : ImageNames :=
  ⟨t.names.filter fun _ known => known != name⟩

/-- The number of images whose names are known. -/
def size (t : ImageNames) : Nat :=
  t.names.size

end ImageNames

end RuntimeMux
