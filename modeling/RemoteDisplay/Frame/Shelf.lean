import RemoteDisplay.Frame.Basic

/-!
# Handles under names

A client of a session keeps its frames, views and commands on shelves, under names. Each of them may
hold a block of pixel memory, and a shelf keeps the count of holders right: a value that is replaced
or thrown away gives up its hold.
-/

namespace RemoteDisplay

/-- Values under names, at most one for each name. -/
structure Shelf (α : Type) where
  entries : List (String × α) := []

namespace Shelf

variable {α : Type}

/-- The value under a name. -/
def get? (shelf : Shelf α) (name : String) : Option α := shelf.entries.lookup name

/-- Frees a name; its value keeps its hold. -/
def erase (shelf : Shelf α) (name : String) : Shelf α :=
  { entries := shelf.entries.filter (·.1 ≠ name) }

/-- Takes the value under a name away, with its hold. -/
def take? (shelf : Shelf α) (name : String) : Option (α × Shelf α) :=
  (shelf.get? name).map fun a => (a, shelf.erase name)

/-- Puts a value under a name; the one that was there keeps its hold. -/
def insert (shelf : Shelf α) (name : String) (a : α) : Shelf α :=
  { entries := (name, a) :: (shelf.erase name).entries }

variable [Holder α]

/-- Puts a value under a name and gives up the one that was there. -/
def put (shelf : Shelf α) (s : PixelStore) (name : String) (a : α) : Shelf α × PixelStore :=
  match shelf.get? name with
  | some old => (shelf.insert name a, s.giveUp old)
  | none => (shelf.insert name a, s)

/-- Gives up the value under a name; the answer says whether there was one. -/
def drop (shelf : Shelf α) (s : PixelStore) (name : String) : Bool × Shelf α × PixelStore :=
  match shelf.get? name with
  | some old => (true, shelf.erase name, s.giveUp old)
  | none => (false, shelf, s)

end Shelf

end RemoteDisplay
