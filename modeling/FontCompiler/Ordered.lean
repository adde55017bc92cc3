/-!
# Ordered maps

A map that remembers the order in which its keys arrived, kept as the list of
its entries.  Writing an existing key changes its value where it stands, and a
new key goes to the end.  There are two ways to erase a key: closing the gap,
or moving the last entry into it.
-/

namespace FontCompiler.Ordered

universe u v

variable {κ : Type u} {α : Type v}

/-- The keys in order. -/
def keys (entries : List (κ × α)) : List κ :=
  entries.map Prod.fst

variable [BEq κ]

/-- The value under a key. -/
def get? (key : κ) : List (κ × α) → Option α
  | [] => none
  | (other, value) :: entries => if other == key then some value else get? key entries

/-- Whether a key is present. -/
def contains (key : κ) (entries : List (κ × α)) : Bool :=
  (get? key entries).isSome

/-- Writes a value under a key. -/
def insert (key : κ) (value : α) : List (κ × α) → List (κ × α)
  | [] => [(key, value)]
  | (other, old) :: entries =>
    if other == key then (other, value) :: entries else (other, old) :: insert key value entries

/-- Writes a row of values under their keys. -/
def insertAll (writes entries : List (κ × α)) : List (κ × α) :=
  writes.foldl (fun entries write => insert write.1 write.2 entries) entries

/-- The map that a row of writes leaves behind. -/
def ofList (writes : List (κ × α)) : List (κ × α) :=
  insertAll writes []

/-- Puts an entry in the place of a key. -/
def replaceEntry (key : κ) (entry : κ × α) : List (κ × α) → List (κ × α)
  | [] => []
  | (other, value) :: entries =>
    if other == key then entry :: entries else (other, value) :: replaceEntry key entry entries

/-- Erases a key and moves the last entry into the gap. -/
def swapErase (key : κ) (entries : List (κ × α)) : List (κ × α) :=
  if contains key entries then
    match entries.getLast? with
    | some last =>
      if last.1 == key then entries.dropLast else replaceEntry key last entries.dropLast
    | none => entries
  else entries

end FontCompiler.Ordered
