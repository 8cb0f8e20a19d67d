/-! # Class metadata

The host's class metadata as far as handles are concerned: a name, and whether its class loader has
died. A `Catalog` holds all metadata ever made; a `MetadataId` is a place in it. -/

namespace CompilerLink

/-- What is known of one piece of class metadata. -/
structure Metadata where
  name : String
  /-- Set when the class loader dies; never cleared. -/
  unloaded : Bool := false
  deriving Repr, DecidableEq

/-- The place of metadata in the catalog. -/
abbrev MetadataId := Nat

/-- All metadata the host has made, in order. -/
structure Catalog where
  entries : List Metadata := []
  deriving Repr, DecidableEq

namespace Catalog

/-- Make new metadata. -/
def add (c : Catalog) (name : String) : MetadataId × Catalog :=
  (c.entries.length, ⟨c.entries ++ [{ name := name }]⟩)

/-- The class loader of some metadata dies. -/
def markUnloaded (c : Catalog) (m : MetadataId) : Catalog :=
  ⟨c.entries.modify m fun e => { e with unloaded := true }⟩

/-- Whether the class loader of some metadata has died. -/
def isUnloaded (c : Catalog) (m : MetadataId) : Bool :=
  (c.entries[m]?).elim false (·.unloaded)

/-- The name of some metadata; empty for a place that holds none. -/
def nameOf (c : Catalog) (m : MetadataId) : String := (c.entries[m]?).elim "" (·.name)

end Catalog

end CompilerLink
