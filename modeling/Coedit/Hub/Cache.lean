import Coedit.Document
import Coedit.Table

/-!
# Loaded documents

The documents a hub has in memory.  A register leads from a document to the cell
that holds it; whoever works on the document keeps the cell, so a document that is
forgotten meanwhile can still be written, without effect on the register.
-/

namespace Coedit

/-- Which cell. -/
abbrev CellId := Nat

/-- The place of one loaded document. -/
inductive Cell where
  | holding (document : Document)
  /-- A merge broke down while it had the document in its hands; nobody may use
  the document any more. -/
  | poisoned
  deriving DecidableEq, Repr

structure Cache where
  /-- All cells, those included that are no longer registered. -/
  cells : Table CellId Cell
  register : Table DocumentId CellId
  nextCell : CellId

namespace Cache

def empty : Cache := ⟨.empty, .empty, 0⟩

instance : Inhabited Cache := ⟨empty⟩

/-- The cell of a loaded document. -/
def find? (cache : Cache) (document : DocumentId) : Option CellId :=
  cache.register.get? document

/-- What a cell holds, unless it is poisoned. -/
def look? (cache : Cache) (cell : CellId) : Option Document :=
  match cache.cells.get? cell with
  | some (.holding document) => some document
  | _ => none

/-- Register a document, unless it is registered already; the answer is its cell. -/
def place (cache : Cache) (target : DocumentId) (document : Document) : CellId × Cache :=
  match cache.find? target with
  | some cell => (cell, cache)
  | none =>
      let cell := cache.nextCell
      (cell, ⟨cache.cells.insert cell (.holding document), cache.register.insert target cell,
        cell + 1⟩)

/-- Change what a cell holds: was it allowed to? -/
def revise (cache : Cache) (cell : CellId) (change : Document → Document) : Bool × Cache :=
  match cache.look? cell with
  | some document =>
      (true, { cache with cells := cache.cells.insert cell (.holding (change document)) })
  | none => (false, cache)

/-- Poison a cell. -/
def poison (cache : Cache) (cell : CellId) : Cache :=
  { cache with cells := cache.cells.insert cell .poisoned }

/-- Take a document off the register. -/
def forget (cache : Cache) (document : DocumentId) : Cache :=
  { cache with register := cache.register.erase document }

/-- How many documents are loaded. -/
def size (cache : Cache) : Nat := cache.register.size

/-- The loaded documents. -/
def documents (cache : Cache) : List DocumentId := cache.register.keys

end Cache

end Coedit
