import CompilerLink.Handle.Metadata
import CompilerLink.Outcome
import CompilerLink.Text.Dump

/-! # Handle tables

A handle is a slot number. `HandleTable.allocate` takes the lowest empty slot and adds a slot only
if none is empty; `release` empties a slot and `sweep` empties every slot whose metadata is
unloaded. Looking up or releasing a handle that names no slot does nothing. -/

namespace CompilerLink

open Text (Dump)

/-- The number of a slot in a handle table. -/
structure Handle where
  slot : Nat
  deriving Repr, DecidableEq

/-- A handle laid out for inspection. -/
def Handle.dump (h : Handle) : Dump := .wrapped "MetadataHandle" (.number h.slot)

/-- Slots that hold metadata or are empty. -/
structure HandleTable where
  slots : List (Option MetadataId) := []
  deriving Repr, DecidableEq

namespace HandleTable

/-- Put metadata into the lowest empty slot, or into a new one behind all others. -/
def allocate (t : HandleTable) (m : MetadataId) : Handle × HandleTable :=
  match t.slots.findIdx? Option.isNone with
  | some i => (⟨i⟩, ⟨t.slots.set i (some m)⟩)
  | none => (⟨t.slots.length⟩, ⟨t.slots ++ [some m]⟩)

/-- The metadata that a handle leads to. -/
def get? (t : HandleTable) (h : Handle) : Option MetadataId := (t.slots[h.slot]?).join

/-- Empty the slot of a handle. -/
def release (t : HandleTable) (h : Handle) : HandleTable := ⟨t.slots.set h.slot none⟩

/-- Number of slots in use. -/
def liveCount (t : HandleTable) : Nat := t.slots.countP Option.isSome

/-- The metadata in use, in slot order. -/
def live (t : HandleTable) : List MetadataId := t.slots.filterMap id

/-- Whether a slot holds metadata that is unloaded. -/
def isStale (catalog : Catalog) (slot : Option MetadataId) : Bool := slot.any catalog.isUnloaded

/-- Empty every slot whose metadata is unloaded. -/
def sweep (t : HandleTable) (catalog : Catalog) : Outcome HandleTable Unit :=
  ⟨(), ⟨t.slots.map fun slot => if isStale catalog slot then none else slot⟩,
    [.remark {
      severity := .debug
      component := .endpoint
      message := "Cleared unloaded metadata handles"
      fields := [("cleared", .number (t.slots.countP (isStale catalog)))] }]⟩

end HandleTable

end CompilerLink
