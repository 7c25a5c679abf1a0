import Mathlib.Order.Basic
import Mathlib.Data.String.Basic
import Tabula.Model.Table
/-! # Maps kept sorted by key

    A `KeyMap` keeps its entries in increasing order of key, so each key once (`Sorted`).
    Inserting and erasing keep the order, and an entry after an insertion is the inserted
    one or an entry from before (`mem_insert`).  Hence the map built from a list is sorted
    and holds entries of the list only, and a sorted list is its own map
    (`ofList_of_sorted`).

    A row's cells are such a map.  Setting a cell keeps them sorted and never stores
    `null`: a `null` empties the cell (`Row.mem_cells_set`). -/

namespace Tabula

namespace KeyMap

variable {α : Type}

/-- Entries in increasing order of key, so each key once: the form a map keeps. -/
def Sorted (m : KeyMap α) : Prop := (m.map (·.1)).Pairwise (· < ·)

instance (m : KeyMap α) : Decidable m.Sorted :=
  inferInstanceAs (Decidable (List.Pairwise _ _))

theorem sorted_cons {e : Key × α} {m : KeyMap α} :
    Sorted (e :: m) ↔ (∀ x ∈ m, e.1 < x.1) ∧ m.Sorted := by
  simp [Sorted]

/-- An entry after inserting is the inserted one or an entry from before. -/
theorem mem_insert {k : Key} {v : α} {e : Key × α} :
    ∀ {m : KeyMap α}, e ∈ insert k v m → e = (k, v) ∨ e ∈ m
  | [], h => by simpa [insert] using h
  | (k', w) :: rest, h => by
      unfold insert at h
      split_ifs at h
      · simpa using h
      · simp only [List.mem_cons] at h
        rcases h with h | h
        · exact .inl h
        · exact .inr (List.mem_cons_of_mem _ h)
      · rcases List.mem_cons.1 h with h | h
        · exact .inr (h ▸ List.mem_cons_self)
        · rcases mem_insert h with h | h
          · exact .inl h
          · exact .inr (List.mem_cons_of_mem _ h)

/-- Inserting keeps a map sorted. -/
theorem Sorted.insert (k : Key) (v : α) : ∀ {m : KeyMap α}, m.Sorted → (insert k v m).Sorted
  | [], _ => by simp [KeyMap.insert, Sorted]
  | (k', w) :: rest, hs => by
      obtain ⟨hlt, hrest⟩ := sorted_cons.1 hs
      unfold KeyMap.insert
      split_ifs with hkk hke
      · -- the key goes first
        refine sorted_cons.2 ⟨fun x hx => ?_, hs⟩
        rcases List.mem_cons.1 hx with rfl | hx
        · exact hkk
        · exact String.lt_trans hkk (hlt x hx)
      · -- the key's value is replaced
        subst hke
        exact sorted_cons.2 ⟨hlt, hrest⟩
      · -- the key goes further on, past `k'`
        have hk'k : k' < k := lt_of_le_of_ne (not_lt.1 hkk) (fun h => hke (congrArg Key.mk h).symm)
        refine sorted_cons.2 ⟨fun x hx => ?_, hrest.insert k v⟩
        rcases mem_insert hx with rfl | hx
        · exact hk'k
        · exact hlt x hx

/-- Erasing keeps a map sorted. -/
theorem Sorted.erase (k : Key) {m : KeyMap α} (hs : m.Sorted) : (erase k m).Sorted :=
  hs.sublist ((List.filter_sublist).map _)

theorem mem_erase {k : Key} {m : KeyMap α} {e : Key × α} : e ∈ erase k m ↔ e ∈ m ∧ e.1 ≠ k := by
  simp [erase]

/-- A key past every key of a map goes at its end. -/
theorem insert_of_lt {k : Key} {v : α} :
    ∀ {m : KeyMap α}, (∀ e ∈ m, e.1 < k) → insert k v m = m ++ [(k, v)]
  | [], _ => rfl
  | (k', w) :: rest, h => by
      have hlt : k'.text < k.text := h (k', w) List.mem_cons_self
      have hnlt : ¬ k < k' := String.lt_asymm hlt
      have hne : k ≠ k' := fun he => String.lt_irrefl k.text (he ▸ hlt)
      rw [insert, if_neg hnlt, if_neg hne, insert_of_lt fun e he => h e (List.mem_cons_of_mem _ he)]
      rfl

/-- The keys of a sorted map ending in `e` come before `e`'s key. -/
theorem lt_of_sorted_append {acc : KeyMap α} {e : Key × α} {l : KeyMap α}
    (hs : (acc ++ e :: l).Sorted) : ∀ x ∈ acc, x.1 < e.1 := by
  intro x hx
  unfold Sorted at hs
  rw [List.map_append, List.pairwise_append] at hs
  exact hs.2.2 x.1 (List.mem_map_of_mem hx) e.1 (by simp)

/-- Inserting sorted entries in order appends them. -/
theorem foldl_insert :
    ∀ (l acc : KeyMap α), (acc ++ l).Sorted →
      l.foldl (fun m (e : Key × α) => insert e.1 e.2 m) acc = acc ++ l
  | [], acc, _ => by simp
  | e :: l, acc, hs => by
      rw [List.foldl_cons, insert_of_lt (lt_of_sorted_append hs),
        foldl_insert l (acc ++ [e]) (by simpa using hs)]
      simp

/-- A sorted map is the map of its entries. -/
theorem ofList_of_sorted {m : KeyMap α} (h : m.Sorted) : ofList m = m :=
  foldl_insert m [] h

/-- The map of a list is sorted and holds entries of the list only. -/
theorem ofList_sorted_of_mem (l : KeyMap α) :
    (ofList l).Sorted ∧ ∀ e ∈ ofList l, e ∈ l := by
  -- the invariant of the fold: the map so far is sorted, its entries from the list
  suffices h : ∀ (l' acc : KeyMap α), acc.Sorted → (∀ e ∈ acc, e ∈ l) → l'.Sublist l →
      (l'.foldl (fun m (e : Key × α) => insert e.1 e.2 m) acc).Sorted ∧
        ∀ e ∈ l'.foldl (fun m (e : Key × α) => insert e.1 e.2 m) acc, e ∈ l from
    h l [] (by simp [Sorted]) (by simp) (List.Sublist.refl l)
  intro l'
  induction l' with
  | nil => exact fun acc hs hmem _ => ⟨hs, hmem⟩
  | cons e l' ih =>
      intro acc hs hmem hsub
      refine ih _ (hs.insert e.1 e.2) (fun x hx => ?_) (List.sublist_of_cons_sublist hsub)
      rcases mem_insert hx with rfl | hx
      · exact hsub.subset List.mem_cons_self
      · exact hmem x hx

end KeyMap

/-- Whether a value is `null`. -/
def Json.Value.isNull : Json.Value → Bool
  | .null => true
  | _ => false

/-- Setting a cell to a value other than `null` inserts it. -/
theorem Row.set_of_not_null (r : Row) (k : Key) {v : Json.Value} (hv : v.isNull = false) :
    r.set k v = { r with cells := r.cells.insert k v } := by
  cases v <;> first | rfl | cases hv

@[simp] theorem Row.key_set (r : Row) (k : Key) (v : Json.Value) : (r.set k v).key = r.key := by
  cases v <;> rfl

/-- A cell after setting is the one set, holding a value other than `null`, or a cell
    from before. -/
theorem Row.mem_cells_set {r : Row} {k : Key} {v : Json.Value} {e : Key × Json.Value}
    (h : e ∈ (r.set k v).cells) : (e = (k, v) ∧ v.isNull = false) ∨ e ∈ r.cells := by
  cases v
  case null => exact .inr (KeyMap.mem_erase.1 h).1
  all_goals
    rcases KeyMap.mem_insert h with h | h
    · exact .inl ⟨h, rfl⟩
    · exact .inr h

/-- Setting a cell keeps the cells sorted. -/
theorem Row.sorted_set {r : Row} (k : Key) (v : Json.Value) (hs : r.cells.Sorted) :
    (r.set k v).cells.Sorted := by
  cases v
  case null => exact hs.erase k
  all_goals exact hs.insert k _

/-- Setting cells that are not `null`, in increasing order of key, appends them. -/
theorem Row.foldl_set {k : Key} :
    ∀ (cells acc : KeyMap Json.Value), (∀ e ∈ cells, e.2.isNull = false) →
      (acc ++ cells).Sorted →
      cells.foldl (fun (r : Row) e => r.set e.1 e.2) ⟨k, acc⟩ = (⟨k, acc ++ cells⟩ : Row)
  | [], acc, _, _ => by simp
  | e :: cells, acc, hnull, hs => by
      rw [List.foldl_cons, Row.set_of_not_null _ _ (hnull e List.mem_cons_self)]
      simp only [KeyMap.insert_of_lt (KeyMap.lt_of_sorted_append hs)]
      rw [Row.foldl_set cells (acc ++ [e]) (fun x hx => hnull x (List.mem_cons_of_mem _ hx))
        (by simpa using hs)]
      simp

end Tabula
