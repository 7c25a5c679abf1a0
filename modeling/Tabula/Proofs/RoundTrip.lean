import Mathlib
import Tabula.Proofs.KeyMap
import Tabula.Proofs.Place
import Tabula.Store.Snapshot
/-! # Reading back a written snapshot

    Writing a document as a snapshot value and reading the value back gives the document
    again, for every document the program can hold whose navigation is repaired, whose
    widths are at least `minColumnWidth` and whose cells hold no `null`
    (`ofSnapshot_toSnapshot`).  The reading normalises on the way: it repairs the
    navigation, raises widths to `minColumnWidth`, drops `null` cells, reads an empty
    pointer or a zero cursor position as unset, and rebuilds maps in key order; each of
    these is the identity on what the writing produces.

    The program's types promise more than the model's: keys are texts that `Key.parse`
    accepts, maps are sorted by key, widths fit 32 bits and cursor positions count from
    one.  `Document.Storable` states these.  Every document that reading a snapshot gives
    has them and the three conditions above (`Document.storable_of_ofSnapshot`), so
    reading back the writing of a read document gives it again (`snapshot_roundTrip`).

    The text layer, printing a value as JSON and parsing it again, is left out: the
    statements are about the values written and read. -/

namespace Tabula

open Json

/-- A key as `Key.parse` accepts it: neither empty nor blank only. -/
def Key.Valid (k : Key) : Prop := k.text.isEmpty = false ∧ Text.isBlankText k.text = false

instance (k : Key) : Decidable k.Valid := inferInstanceAs (Decidable (_ ∧ _))

theorem Key.parse_text {k : Key} (h : k.Valid) : Key.parse k.text = .ok k := by
  simp [Key.parse, h.1, h.2]

/-- What `Key.parse` accepts is a valid key. -/
theorem Key.valid_of_parse {s : String} {k : Key} (h : Key.parse s = .ok k) : k.Valid := by
  unfold Key.parse at h
  split at h
  · cases h
  · split at h
    · cases h
    · cases h
      exact ⟨by simpa using ‹¬s.isEmpty = true›, by simpa using ‹¬Text.isBlankText s = true›⟩

/-- A row as the program's types hold it: valid keys, cells sorted by key. -/
structure Row.Storable (r : Row) : Prop where
  key : r.key.Valid
  cellKeys : ∀ e ∈ r.cells, e.1.Valid
  sorted : r.cells.Sorted

/-- A table as the program's types hold it: valid keys, rows as `Row.Storable` says, and
    widths sorted by key and within 32 bits. -/
structure Table.Storable (t : Table) : Prop where
  key : t.key.Valid
  columns : ∀ c ∈ t.columns, c.key.Valid
  rows : ∀ r ∈ t.rows, r.Storable
  widthKeys : ∀ e ∈ t.widths, e.1.Valid
  widthsFit : ∀ e ∈ t.widths, e.2 ≤ 4294967295
  sorted : t.widths.Sorted

/-- Every stored width is at least `minColumnWidth`. -/
def Table.WidthsAtLeastMin (t : Table) : Prop := ∀ e ∈ t.widths, minColumnWidth ≤ e.2

/-- No cell holds `null`. -/
def Table.NoNullCells (t : Table) : Prop := ∀ r ∈ t.rows, ∀ e ∈ r.cells, e.2.isNull = false

/-- A workspace as the program's types hold it. -/
structure Workspace.Storable (w : Workspace) : Prop where
  key : w.key.Valid
  tables : ∀ t ∈ w.tables, t.Storable

/-- A document as the program's types hold it: valid keys everywhere, and cursor
    positions counted from one. -/
structure Document.Storable (d : Document) : Prop where
  workspaces : ∀ w ∈ d.workspaces, w.Storable
  workspace : ∀ k ∈ d.nav.workspace, k.Valid
  table : ∀ k ∈ d.nav.table, k.Valid
  groupBy : ∀ k ∈ d.nav.groupBy, k.Valid
  row : ∀ p ∈ d.nav.cursor.row, 0 < p
  col : ∀ p ∈ d.nav.cursor.col, 0 < p

instance (r : Row) : Decidable r.Storable :=
  decidable_of_iff (r.key.Valid ∧ (∀ e ∈ r.cells, e.1.Valid) ∧ r.cells.Sorted)
    ⟨fun ⟨a, b, c⟩ => ⟨a, b, c⟩, fun h => ⟨h.1, h.2, h.3⟩⟩

instance (t : Table) : Decidable t.Storable :=
  decidable_of_iff (t.key.Valid ∧ (∀ c ∈ t.columns, c.key.Valid) ∧ (∀ r ∈ t.rows, r.Storable) ∧
      (∀ e ∈ t.widths, e.1.Valid) ∧ (∀ e ∈ t.widths, e.2 ≤ 4294967295) ∧ t.widths.Sorted)
    ⟨fun ⟨a, b, c, d, e, f⟩ => ⟨a, b, c, d, e, f⟩, fun h => ⟨h.1, h.2, h.3, h.4, h.5, h.6⟩⟩

instance (t : Table) : Decidable t.WidthsAtLeastMin :=
  inferInstanceAs (Decidable (∀ e ∈ t.widths, _))

instance (t : Table) : Decidable t.NoNullCells :=
  inferInstanceAs (Decidable (∀ r ∈ t.rows, _))

instance (w : Workspace) : Decidable w.Storable :=
  decidable_of_iff (w.key.Valid ∧ ∀ t ∈ w.tables, t.Storable)
    ⟨fun ⟨a, b⟩ => ⟨a, b⟩, fun h => ⟨h.1, h.2⟩⟩

instance (d : Document) : Decidable d.Storable :=
  decidable_of_iff ((∀ w ∈ d.workspaces, w.Storable) ∧ (∀ k ∈ d.nav.workspace, k.Valid) ∧
      (∀ k ∈ d.nav.table, k.Valid) ∧ (∀ k ∈ d.nav.groupBy, k.Valid) ∧
      (∀ p ∈ d.nav.cursor.row, 0 < p) ∧ (∀ p ∈ d.nav.cursor.col, 0 < p))
    ⟨fun ⟨a, b, c, d, e, f⟩ => ⟨a, b, c, d, e, f⟩, fun h => ⟨h.1, h.2, h.3, h.4, h.5, h.6⟩⟩

/-- The tables of all workspaces. -/
def Document.tables (d : Document) : List Table := d.workspaces.flatMap (·.tables)

theorem Document.mem_tables {d : Document} {t : Table} :
    t ∈ d.tables ↔ ∃ w ∈ d.workspaces, t ∈ w.tables :=
  List.mem_flatMap

theorem ColumnKind.parse_name (k : ColumnKind) : ColumnKind.parse k.name = .ok k := by
  cases k <;> cbv

theorem View.keyword?_name (v : View) : View.keyword? v.name = some v := by
  cases v <;> cbv

theorem Separator.ofChar?_char (s : Separator) : Separator.ofChar? s.char = some s := by
  cases s <;> rfl

/-- The first member of an object is found by its name. -/
theorem Json.Value.get?_obj_cons_self (name : String) (v : Value) (rest : List (String × Value)) :
    (Value.obj ((name, v) :: rest)).get? name = some v :=
  List.lookup_cons_self

/-- A member of another name is passed over. -/
theorem Json.Value.get?_obj_cons_of_ne {name k : String} (v : Value)
    (rest : List (String × Value)) (h : name ≠ k) :
    (Value.obj ((k, v) :: rest)).get? name = (Value.obj rest).get? name := by
  have hb : (name == k) = false := by simpa using h
  simp only [Value.get?, List.lookup_cons, hb]

namespace Snapshot

/-- Collecting the read-backs of written items gives the items. -/
theorem collect_map {α β : Type} {f : α → Except StoreError β} {enc : β → α} :
    ∀ {xs : List β}, (∀ x ∈ xs, f (enc x) = .ok x) → collect f (xs.map enc) = .ok xs
  | [], _ => rfl
  | x :: xs, h => by
      have hx : f (enc x) = .ok x := h x List.mem_cons_self
      have hxs : collect f (xs.map enc) = .ok xs :=
        collect_map fun y hy => h y (List.mem_cons_of_mem _ hy)
      simp only [List.map_cons, collect, hx, hxs]
      rfl

theorem key_text (field : String) {k : Key} (h : k.Valid) : key field k.text = .ok k := by
  simp [key, Key.parse_text h]

/-! ## Reading back what was written, record by record -/

theorem column_toSnapshot {c : Column} (h : c.key.Valid) : column c.toSnapshot = .ok c := by
  have hopts : (items c.toSnapshot "options").filterMap Value.asString? = c.options := by
    by_cases he : c.options.isEmpty
    · have hnil : c.options = [] := List.isEmpty_iff.1 he
      simp [items, Column.toSnapshot, Value.get?, List.lookup, hnil]
    · simp [items, Column.toSnapshot, Value.get?, List.lookup, he, Value.asArray?,
        List.filterMap_map, Function.comp_def, Value.asString?]
  have horder : c.toSnapshot.get? "order" = some (.num (.int c.order)) := by
    simp only [Column.toSnapshot, Value.get?]
    split <;> simp [List.lookup]
  have hid : text c.toSnapshot "id" = c.key.text := by
    simp [text, Column.toSnapshot, Value.get?, List.lookup, Value.asString?, Key.toValue]
  have hname : text c.toSnapshot "name" = c.name := by
    simp [text, Column.toSnapshot, Value.get?, List.lookup, Value.asString?]
  have hkind : text c.toSnapshot "type" = c.kind.name := by
    simp [text, Column.toSnapshot, Value.get?, List.lookup, Value.asString?]
  simp only [column, hid, hname, hkind, key_text _ h, ColumnKind.parse_name, hopts, horder,
    Option.bind_some, Value.asInt?, Option.getD_some]
  rfl

theorem row_toSnapshot {r : Row} (h : r.Storable) (hnull : ∀ e ∈ r.cells, e.2.isNull = false) :
    row r.toSnapshot = .ok r := by
  have hentries : entries r.toSnapshot "values" = r.cells.map fun e => (e.1.text, e.2) := by
    simp [entries, Row.toSnapshot, Value.get?, List.lookup, Value.asObject?]
  have hcollect : collect (fun x => (key "rows[].values" x.1).map fun ck => (ck, x.2))
      (r.cells.map fun e => (e.1.text, e.2)) = .ok r.cells :=
    collect_map fun e he => by
      obtain ⟨k, v⟩ := e
      simp only [key_text _ (h.cellKeys (k, v) he)]
      rfl
  have hid : text r.toSnapshot "id" = r.key.text := by
    simp [text, Row.toSnapshot, Value.get?, List.lookup, Value.asString?, Key.toValue]
  simp only [row, hentries, hcollect, hid, key_text _ h.key]
  have hfold := Row.foldl_set (k := r.key) r.cells [] hnull (by simpa using h.sorted)
  rw [List.nil_append] at hfold
  exact congrArg Except.ok hfold

/-- A width written as a whole number is read back as it was. -/
theorem widthOf_natValue {w : Nat} (hmin : minColumnWidth ≤ w) (hfit : w ≤ 4294967295) :
    widthOf (natValue w) = w := by
  simp only [widthOf, natValue, Int.toNat_natCast]
  omega

theorem table_toSnapshot {t : Table} (h : t.Storable) (hmin : t.WidthsAtLeastMin)
    (hnull : t.NoNullCells) : table t.toSnapshot = .ok t := by
  have hid : text t.toSnapshot "id" = t.key.text := by
    simp [text, Table.toSnapshot, Value.get?, List.lookup, Value.asString?, Key.toValue]
  have hname : text t.toSnapshot "name" = t.name := by
    simp [text, Table.toSnapshot, Value.get?, List.lookup, Value.asString?]
  have hcolumns : collect column (items t.toSnapshot "columns") = .ok t.columns := by
    simp only [items, Table.toSnapshot, Value.get?, List.lookup_append]
    simpa [List.lookup, Value.asArray?] using
      collect_map fun c hc => column_toSnapshot (h.columns c hc)
  have hrows : collect row (items t.toSnapshot "rows") = .ok t.rows := by
    simp only [items, Table.toSnapshot, Value.get?, List.lookup_append]
    simpa [List.lookup, Value.asArray?] using
      collect_map fun r hr => row_toSnapshot (h.rows r hr) (hnull r hr)
  -- the widths come back from the `meta` member, which is there only when there are some
  have hmeta : t.toSnapshot.get? "meta" = if t.widths.isEmpty then none
      else some (.obj [("columnWidths", .obj (t.widths.map fun e => (e.1.text, natValue e.2)))]) := by
    by_cases he : t.widths.isEmpty <;> simp [Table.toSnapshot, Value.get?, List.lookup, he]
  have hwidths : collect (fun x => (key "meta.columnWidths" x.1).map fun ck => (ck, widthOf x.2))
      (t.widths.map fun e => (e.1.text, natValue e.2)) = .ok t.widths :=
    collect_map fun e he => by
      obtain ⟨k, w⟩ := e
      simp only [key_text _ (h.widthKeys (k, w) he)]
      exact congrArg Except.ok (congrArg _ (widthOf_natValue (hmin (k, w) he)
        (h.widthsFit (k, w) he)))
  simp only [table, hid, hname, key_text _ h.key, hcolumns, hrows, hmeta]
  by_cases he : t.widths.isEmpty
  · have hnil : t.widths = [] := List.isEmpty_iff.1 he
    obtain ⟨k, name, columns, rows, widths⟩ := t
    cases hnil
    rfl
  · simp only [he, if_false, Bool.false_eq_true, entries, Value.get?, List.lookup,
      beq_self_eq_true, Option.bind_some, Value.asObject?, Option.getD_some, hwidths]
    show Except.ok ⟨t.key, t.name, t.columns, t.rows, KeyMap.ofList t.widths⟩ = Except.ok t
    rw [KeyMap.ofList_of_sorted h.sorted]

theorem workspace_toSnapshot {w : Workspace} (h : w.Storable)
    (hmin : ∀ t ∈ w.tables, t.WidthsAtLeastMin) (hnull : ∀ t ∈ w.tables, t.NoNullCells) :
    workspace w.toSnapshot = .ok w := by
  have hid : text w.toSnapshot "id" = w.key.text := by
    simp [text, Workspace.toSnapshot, Value.get?, List.lookup, Value.asString?, Key.toValue]
  have hname : text w.toSnapshot "name" = w.name := by
    simp [text, Workspace.toSnapshot, Value.get?, List.lookup, Value.asString?]
  have htables : collect table (items w.toSnapshot "tables") = .ok w.tables := by
    simpa [items, Workspace.toSnapshot, Value.get?, List.lookup, Value.asArray?] using
      collect_map fun t ht => table_toSnapshot (h.tables t ht) (hmin t ht) (hnull t ht)
  simp only [workspace, hid, hname, key_text _ h.key, htables]
  rfl

/-- The members of a written document, as reading looks them up. -/
theorem toSnapshot_get? (d : Document) :
    d.toSnapshot.get? "dbs" = some (.arr (d.workspaces.map Workspace.toSnapshot)) ∧
    d.toSnapshot.get? "currentDBId" = d.nav.workspace.map Key.toValue ∧
    d.toSnapshot.get? "currentTableId" = d.nav.table.map Key.toValue ∧
    d.toSnapshot.get? "view" = some (.str d.nav.view.name) ∧
    d.toSnapshot.get? "kanbanGroupByColumnId" = d.nav.groupBy.map Key.toValue ∧
    d.toSnapshot.get? "cursor" = some (.obj [("row", (d.nav.cursor.row.map natValue).getD .null),
      ("col", (d.nav.cursor.col.map natValue).getD .null)]) ∧
    d.toSnapshot.get? "settings" = some (.obj [("isSidebarOpen", .bool d.settings.sidebarOpen),
      ("commandSeparator", .str d.settings.separator.char.toString)]) := by
  obtain ⟨ws, ⟨w, t, ⟨r, c⟩, v, g⟩, st⟩ := d
  cases w <;> cases t <;> cases g <;> cases r <;> cases c <;>
    simp [Document.toSnapshot, Value.get?, List.lookup]

/-- An optional key written as its text, or left out, is read back. -/
theorem optionalKey_of_get? {field : String} {v : Value} {k : Option Key}
    (hv : v.get? field = k.map Key.toValue) (hk : ∀ x ∈ k, x.Valid) :
    optionalKey field v = .ok k := by
  cases k with
  | none => simp [optionalKey, hv]
  | some x =>
      have hx : x.Valid := hk x rfl
      -- the text is not empty, so it is not read as an unset pointer
      have hne : x.text ≠ "" := by simpa using hx.1
      simp [optionalKey, hv, Key.toValue, Value.asString?, key_text _ hx, Except.map]

/-- A cursor position written as a whole number, or as null when unset, is read back. -/
theorem position_of_get? {name : String} {v : Value} {p : Option Nat}
    (hv : v.get? name = some ((p.map natValue).getD .null)) (hp : ∀ n ∈ p, 0 < n) :
    position v name = p := by
  cases p with
  | none => simp [position, hv, Value.asInt?]
  | some n => simp [position, hv, natValue, Value.asInt?, hp n rfl]

end Snapshot

open Snapshot in
/-- Reading back the snapshot of a storable document with a repaired navigation, widths of
    at least `minColumnWidth` and no `null` cell gives the document. -/
theorem ofSnapshot_toSnapshot (d : Document) (h : d.Storable) (hrep : d.repair = d)
    (hmin : ∀ t ∈ d.tables, t.WidthsAtLeastMin) (hnull : ∀ t ∈ d.tables, t.NoNullCells) :
    Document.ofSnapshot d.toSnapshot = .ok d := by
  obtain ⟨hdbs, hws, htab, hview, hgroup, hcursor, hsettings⟩ := toSnapshot_get? d
  have hworkspaces : collect workspace (items d.toSnapshot "dbs") = .ok d.workspaces := by
    simp only [items, hdbs, Option.bind_some, Value.asArray?, Option.getD_some]
    exact collect_map fun w hw => workspace_toSnapshot (h.workspaces w hw)
      (fun t ht => hmin t (Document.mem_tables.2 ⟨w, hw, ht⟩))
      (fun t ht => hnull t (Document.mem_tables.2 ⟨w, hw, ht⟩))
  simp only [Document.ofSnapshot, hworkspaces, optionalKey_of_get? hws h.workspace,
    optionalKey_of_get? htab h.table, optionalKey_of_get? hgroup h.groupBy]
  have hcursorValue : (d.toSnapshot.get? "cursor").getD (.obj []) =
      .obj [("row", (d.nav.cursor.row.map natValue).getD .null),
        ("col", (d.nav.cursor.col.map natValue).getD .null)] := by
    simp [hcursor]
  have hrow : position ((d.toSnapshot.get? "cursor").getD (.obj [])) "row" = d.nav.cursor.row := by
    rw [hcursorValue]
    exact position_of_get? (by simp [Value.get?, List.lookup]) h.row
  have hcol : position ((d.toSnapshot.get? "cursor").getD (.obj [])) "col" = d.nav.cursor.col := by
    rw [hcursorValue]
    exact position_of_get? (by simp [Value.get?, List.lookup]) h.col
  have hmode : (View.keyword? (text d.toSnapshot "view")).getD .table = d.nav.view := by
    simp [text, hview, Value.asString?, View.keyword?_name]
  have hsidebar : ((((d.toSnapshot.get? "settings").getD (.obj [])).get? "isSidebarOpen").bind
      Value.asBool?).getD true = d.settings.sidebarOpen := by
    rw [hsettings]
    simp only [Option.getD_some, Value.get?_obj_cons_self, Option.bind_some, Value.asBool?]
  have hsep : ((text ((d.toSnapshot.get? "settings").getD (.obj [])) "commandSeparator").toList
      |>.head?.bind Separator.ofChar?).getD .slash = d.settings.separator := by
    -- the separator is the one character of its member
    rw [hsettings, Option.getD_some, text,
      Value.get?_obj_cons_of_ne _ _ (by decide : "commandSeparator" ≠ "isSidebarOpen"),
      Value.get?_obj_cons_self, Option.bind_some, Value.asString?, Option.getD_some, Char.toString,
      String.toList_singleton, List.head?_cons, Option.bind_some, Separator.ofChar?_char,
      Option.getD_some]
  simp only [hrow, hcol, hmode, hsidebar, hsep]
  exact congrArg Except.ok hrep

namespace Snapshot

/-! ## Taking a reading apart -/

/-- A step of reading that succeeds had each of its parts succeed. -/
theorem bind_eq_ok {α β : Type} {x : Except StoreError α} {f : α → Except StoreError β} {b : β}
    (h : x >>= f = .ok b) : ∃ a, x = .ok a ∧ f a = .ok b := by
  cases x with
  | error e => cases h
  | ok a => exact ⟨a, rfl, h⟩

/-- Each item collected is read from an item of the list. -/
theorem mem_of_collect {α β : Type} {f : α → Except StoreError β} :
    ∀ {xs : List α} {ys : List β}, collect f xs = .ok ys → ∀ y ∈ ys, ∃ x ∈ xs, f x = .ok y
  | [], ys, h => by
      cases h
      simp
  | x :: xs, ys, h => by
      obtain ⟨y, hy, h⟩ := bind_eq_ok h
      obtain ⟨ys', hys, h⟩ := bind_eq_ok h
      cases h
      intro z hz
      rcases List.mem_cons.1 hz with rfl | hz
      · exact ⟨x, List.mem_cons_self, hy⟩
      · obtain ⟨x', hx', hfx⟩ := mem_of_collect hys z hz
        exact ⟨x', List.mem_cons_of_mem _ hx', hfx⟩

theorem valid_of_key {field s : String} {k : Key} (h : key field s = .ok k) : k.Valid := by
  unfold key at h
  split at h
  · cases h
    exact Key.valid_of_parse ‹_›
  · cases h

theorem valid_of_optionalKey {field : String} {v : Value} {k : Option Key}
    (h : optionalKey field v = .ok k) : ∀ x ∈ k, x.Valid := by
  intro x hx
  unfold optionalKey at h
  split at h
  · cases h
    cases hx
  · cases h
    cases hx
  · cases hkey : key field ‹String› with
    | error e => simp [hkey, Except.map] at h
    | ok y =>
        simp only [hkey, Except.map, Except.ok.injEq] at h
        subst h
        cases hx
        exact valid_of_key hkey

theorem pos_of_position {v : Value} {name : String} {p : Nat} (h : position v name = some p) :
    0 < p := by
  unfold position at h
  split at h
  · split at h
    · cases h
      omega
    · cases h
  · cases h

theorem widthOf_le (v : Value) : widthOf v ≤ 4294967295 := by
  unfold widthOf
  split
  · simp [minColumnWidth]
  · -- a rounded double is cast to 32 bits, which saturates
    rename_i x
    have := ((if x > 0 then x else 0).round.toUInt32).toNat_lt
    simp only [width, minColumnWidth]
    omega
  · simp [minColumnWidth]

theorem le_widthOf (v : Value) : minColumnWidth ≤ widthOf v := by
  unfold widthOf width
  split <;> simp

/-! ## What reading gives, record by record -/

theorem valid_of_column {v : Value} {c : Column} (h : column v = .ok c) : c.key.Valid := by
  obtain ⟨k, hk, h⟩ := bind_eq_ok h
  cases h
  exact valid_of_key hk

/-- Setting cells of valid keys keeps a row storable and free of `null`. -/
theorem storable_foldl_set {cells : KeyMap Value} (hkeys : ∀ e ∈ cells, e.1.Valid) :
    ∀ {r : Row}, r.Storable → (∀ e ∈ r.cells, e.2.isNull = false) →
      (cells.foldl (fun (r : Row) e => r.set e.1 e.2) r).Storable ∧
        ∀ e ∈ (cells.foldl (fun (r : Row) e => r.set e.1 e.2) r).cells, e.2.isNull = false := by
  induction cells with
  | nil => exact fun hr hnull => ⟨hr, hnull⟩
  | cons c cells ih =>
      intro r hr hnull
      refine ih (fun e he => hkeys e (List.mem_cons_of_mem _ he))
        ⟨by simpa using hr.key, fun e he => ?_, Row.sorted_set _ _ hr.sorted⟩ fun e he => ?_
      · rcases Row.mem_cells_set he with ⟨rfl, -⟩ | he
        · exact hkeys c List.mem_cons_self
        · exact hr.cellKeys e he
      · rcases Row.mem_cells_set he with ⟨rfl, hv⟩ | he
        · exact hv
        · exact hnull e he

/-- A read key that is then used: the key is valid. -/
theorem valid_of_key_map {γ : Type} {field s : String} {g : Key → γ} {y : γ}
    (h : (key field s).map g = .ok y) : ∃ k, k.Valid ∧ g k = y := by
  cases hkey : key field s with
  | error err => simp [hkey, Except.map] at h
  | ok k =>
      simp only [hkey, Except.map, Except.ok.injEq] at h
      exact ⟨k, valid_of_key hkey, h⟩

theorem storable_of_row {v : Value} {r : Row} (h : row v = .ok r) :
    r.Storable ∧ ∀ e ∈ r.cells, e.2.isNull = false := by
  obtain ⟨k, hk, h⟩ := bind_eq_ok h
  obtain ⟨cells, hcells, h⟩ := bind_eq_ok h
  cases h
  have hkeys : ∀ e ∈ cells, e.1.Valid := fun e he => by
    obtain ⟨⟨c, x⟩, -, hx⟩ := mem_of_collect hcells e he
    obtain ⟨ck, hck, rfl⟩ := valid_of_key_map hx
    exact hck
  exact storable_foldl_set hkeys
    ⟨valid_of_key hk, by simp [Row.empty], by simp [Row.empty, KeyMap.Sorted]⟩ (by simp [Row.empty])

theorem storable_of_table {v : Value} {t : Table} (h : table v = .ok t) :
    t.Storable ∧ t.WidthsAtLeastMin ∧ t.NoNullCells := by
  obtain ⟨k, hk, h⟩ := bind_eq_ok h
  obtain ⟨columns, hcolumns, h⟩ := bind_eq_ok h
  obtain ⟨rows, hrows, h⟩ := bind_eq_ok h
  obtain ⟨widths, hwidths, h⟩ := bind_eq_ok h
  cases h
  have hcols : ∀ c ∈ columns, c.key.Valid := fun c hc => by
    obtain ⟨x, -, hx⟩ := mem_of_collect hcolumns c hc
    exact valid_of_column hx
  have hrs : ∀ r ∈ rows, r.Storable ∧ ∀ e ∈ r.cells, e.2.isNull = false := fun r hr => by
    obtain ⟨x, -, hx⟩ := mem_of_collect hrows r hr
    exact storable_of_row hx
  -- every width read has a valid key and a value that `widthOf` gives
  have hws : ∀ e ∈ KeyMap.ofList widths, e.1.Valid ∧ ∃ x, e.2 = widthOf x := fun e he => by
    have he' := (KeyMap.ofList_sorted_of_mem widths).2 e he
    obtain ⟨⟨c, x⟩, -, hx⟩ := mem_of_collect hwidths e he'
    obtain ⟨ck, hck, rfl⟩ := valid_of_key_map hx
    exact ⟨hck, x, rfl⟩
  refine ⟨⟨valid_of_key hk, hcols, fun r hr => (hrs r hr).1, fun e he => (hws e he).1,
    fun e he => ?_, (KeyMap.ofList_sorted_of_mem widths).1⟩, fun e he => ?_,
    fun r hr => (hrs r hr).2⟩
  · obtain ⟨-, x, hx⟩ := hws e he
    exact hx ▸ widthOf_le x
  · obtain ⟨-, x, hx⟩ := hws e he
    exact hx ▸ le_widthOf x

theorem storable_of_workspace {v : Value} {w : Workspace} (h : workspace v = .ok w) :
    w.Storable ∧ ∀ t ∈ w.tables, t.WidthsAtLeastMin ∧ t.NoNullCells := by
  obtain ⟨k, hk, h⟩ := bind_eq_ok h
  obtain ⟨tables, htables, h⟩ := bind_eq_ok h
  cases h
  have hts : ∀ t ∈ tables, t.Storable ∧ t.WidthsAtLeastMin ∧ t.NoNullCells := fun t ht => by
    obtain ⟨x, -, hx⟩ := mem_of_collect htables t ht
    exact storable_of_table hx
  exact ⟨⟨valid_of_key hk, fun t ht => (hts t ht).1⟩, fun t ht => (hts t ht).2⟩

end Snapshot

/-- Repairing keeps a document storable: it only forgets pointers and the cursor. -/
theorem Document.Storable.repair {d : Document} (h : d.Storable) : d.repair.Storable := by
  rcases Document.repair_cases d with he | he | he <;> rw [he]
  · exact h
  · exact ⟨h.workspaces, h.workspace, by simp [Navigation.selectTable], h.groupBy,
      by simp [Navigation.selectTable], by simp [Navigation.selectTable]⟩
  · exact ⟨h.workspaces, by simp [Navigation.selectWorkspace], by simp [Navigation.selectWorkspace],
      h.groupBy, by simp [Navigation.selectWorkspace], by simp [Navigation.selectWorkspace]⟩

open Snapshot in
theorem Document.storable_of_ofSnapshot {v : Value} {d : Document}
    (h : Document.ofSnapshot v = .ok d) :
    d.Storable ∧ d.repair = d ∧ (∀ t ∈ d.tables, t.WidthsAtLeastMin) ∧
      ∀ t ∈ d.tables, t.NoNullCells := by
  obtain ⟨workspaces, hws, h⟩ := bind_eq_ok h
  obtain ⟨w, hw, h⟩ := bind_eq_ok h
  obtain ⟨t, ht, h⟩ := bind_eq_ok h
  obtain ⟨g, hg, h⟩ := bind_eq_ok h
  have hd := Except.ok.inj h
  have hall : ∀ x ∈ workspaces, x.Storable ∧ ∀ t ∈ x.tables, t.WidthsAtLeastMin ∧ t.NoNullCells :=
    fun x hx => by
      obtain ⟨y, -, hy⟩ := mem_of_collect hws x hx
      exact storable_of_workspace hy
  -- repairing changes no workspace, so the tables are those read
  have hwd : d.workspaces = workspaces := by rw [← hd, Document.repair_workspaces]
  have htables : ∀ tb ∈ d.tables, tb.WidthsAtLeastMin ∧ tb.NoNullCells := by
    intro tb htb
    obtain ⟨x, hx, htb⟩ := Document.mem_tables.1 htb
    exact (hall x (hwd ▸ hx)).2 tb htb
  refine ⟨hd ▸ Document.Storable.repair ⟨fun x hx => (hall x hx).1, valid_of_optionalKey hw,
    valid_of_optionalKey ht, valid_of_optionalKey hg, fun p hp => pos_of_position hp,
    fun p hp => pos_of_position hp⟩, hd ▸ Document.repair_repair _,
    fun tb htb => (htables tb htb).1, fun tb htb => (htables tb htb).2⟩

/-- **Saving and loading again.**  Writing a document as a snapshot value and reading it
    back gives the document again, when its navigation is repaired, its widths are at least
    `minColumnWidth` and its cells hold no `null`; every document read from a snapshot text
    is such a document, so saving it and loading it again gives it back.  The text layer,
    printing the value and parsing it again, is taken to give the value back. -/
theorem snapshot_roundTrip :
    (∀ d : Document, d.Storable → d.repair = d → (∀ t ∈ d.tables, t.WidthsAtLeastMin) →
        (∀ t ∈ d.tables, t.NoNullCells) → Document.ofSnapshot d.toSnapshot = .ok d) ∧
      ∀ (path text : String) (d : Document), decodeSnapshot path text = .ok d →
        Document.ofSnapshot d.toSnapshot = .ok d := by
  refine ⟨ofSnapshot_toSnapshot, fun path text d h => ?_⟩
  unfold decodeSnapshot at h
  split at h
  · cases h
  · obtain ⟨hs, hrep, hmin, hnull⟩ := Document.storable_of_ofSnapshot h
    exact ofSnapshot_toSnapshot d hs hrep hmin hnull

/-- A document with a selected table, a cursor, a cell and a width. -/
def Document.stored : Document :=
  { workspaces := [⟨⟨"a"⟩, "A", [⟨⟨"t"⟩, "T", [⟨⟨"c"⟩, "C", .number, [], 0⟩],
      [⟨⟨"r"⟩, [(⟨"c"⟩, .num (.int 5))]⟩], [(⟨"c"⟩, 120)]⟩]⟩],
    nav := ⟨some ⟨"a"⟩, some ⟨"t"⟩, ⟨some 1, some 2⟩, .table, none⟩ }

theorem snapshot_roundTrip_stored :
    (Document.stored.Storable ∧ Document.stored.repair = Document.stored ∧
      (∀ t ∈ Document.stored.tables, t.WidthsAtLeastMin) ∧
      (∀ t ∈ Document.stored.tables, t.NoNullCells) ∧
      Document.ofSnapshot Document.stored.toSnapshot = .ok Document.stored) ∧
    (decodeSnapshot "workspace.todo.json" "\x7b\"dbs\":[\x7b\"id\":\"a\"\x7d],\"currentDBId\":\"a\"\x7d" =
        .ok ⟨[⟨⟨"a"⟩, "", []⟩], ⟨some ⟨"a"⟩, none, {}, .table, none⟩, {}⟩ ∧
      Document.ofSnapshot (Document.toSnapshot ⟨[⟨⟨"a"⟩, "", []⟩], ⟨some ⟨"a"⟩, none, {}, .table, none⟩, {}⟩) =
        .ok ⟨[⟨⟨"a"⟩, "", []⟩], ⟨some ⟨"a"⟩, none, {}, .table, none⟩, {}⟩) := by
  have hread : decodeSnapshot "workspace.todo.json" "\x7b\"dbs\":[\x7b\"id\":\"a\"\x7d],\"currentDBId\":\"a\"\x7d" =
      .ok ⟨[⟨⟨"a"⟩, "", []⟩], ⟨some ⟨"a"⟩, none, {}, .table, none⟩, {}⟩ := by cbv
  exact ⟨⟨by decide, rfl, by decide, by decide,
    snapshot_roundTrip.1 _ (by decide) rfl (by decide) (by decide)⟩,
    ⟨hread, snapshot_roundTrip.2 _ _ _ hread⟩⟩

end Tabula
