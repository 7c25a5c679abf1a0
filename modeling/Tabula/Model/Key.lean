import Tabula.Text.Blank
/-! # Keys

    Every workspace, table, column and row is named by a key: a text that is neither empty
    nor made of blank characters only.  Keys are compared and ordered as texts, and kept
    verbatim, blanks around them included.

    * `Key.parse` checks a text and reports `KeyError.empty` or `KeyError.blank`;
    * `KeyMap` is a map from keys kept sorted by key, with one entry per key. -/

namespace Tabula

/-- The name of a workspace, table, column or row. -/
structure Key where
  text : String
  deriving DecidableEq, BEq, Hashable, Inhabited

/-- Keys compare equal exactly when they are equal. -/
theorem Key.beq_iff_eq {a b : Key} : (a == b) = true ↔ a = b := by
  obtain ⟨a⟩ := a
  obtain ⟨b⟩ := b
  change (a == b) = true ↔ _
  simp

instance : LawfulBEq Key where
  eq_of_beq h := Key.beq_iff_eq.1 h
  rfl := Key.beq_iff_eq.2 rfl

/-- Why a text is no key. -/
inductive KeyError where
  | empty
  | blank
  deriving DecidableEq, BEq

/-- The words for a key error. -/
def KeyError.message : KeyError → String
  | .empty => "id must not be empty"
  | .blank => "id must not be whitespace only"

/-- A text as a key: it must not be empty, and not blank only. -/
def Key.parse (s : String) : Except KeyError Key :=
  if s.isEmpty then .error .empty
  else if Text.isBlankText s then .error .blank
  else .ok ⟨s⟩

/-- Keys are ordered as their texts. -/
instance : LT Key := ⟨fun a b => a.text < b.text⟩

instance (a b : Key) : Decidable (a < b) :=
  inferInstanceAs (Decidable (a.text < b.text))

/-- A map from keys, its entries sorted by key with each key once. -/
abbrev KeyMap (α : Type) := List (Key × α)

namespace KeyMap

/-- The value of a key. -/
def get? {α : Type} (m : KeyMap α) (k : Key) : Option α := m.lookup k

/-- Adds an entry, replacing the value of an equal key. -/
def insert {α : Type} (k : Key) (v : α) : KeyMap α → KeyMap α
  | [] => [(k, v)]
  | (k', w) :: rest =>
    if k < k' then (k, v) :: (k', w) :: rest
    else if k = k' then (k, v) :: rest
    else (k', w) :: insert k v rest

/-- Removes the entry of a key. -/
def erase {α : Type} (k : Key) (m : KeyMap α) : KeyMap α :=
  m.filter fun e => e.1 ≠ k

/-- Whether a key has an entry. -/
def contains {α : Type} (m : KeyMap α) (k : Key) : Bool := (m.get? k).isSome

/-- The map of the given entries, a later key replacing an earlier one. -/
def ofList {α : Type} (entries : List (Key × α)) : KeyMap α :=
  entries.foldl (fun m (k, v) => insert k v m) []

end KeyMap

end Tabula
