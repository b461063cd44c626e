import Mathlib.Data.List.Pairwise
import Rollup.Proofs.Path
import Rollup.Stage.Group
import Rollup.Stage.Regroup

/-!
# Rows as lists of columns

A row is filled column by column: key values, access groups, reduced numbers, the number of records, the
time. A **column** is a place and what is put there, if anything is. Grouped and merged rows are the filling
of a list of columns (`Grouping.row_eq_fill`, `Regroup.row_eq_fill`), and so is what a listing writes of its
keys (`Stage.writeKeys_eq_fill`). Columns **spare** one of them if they stand apart from it, put nothing or are
the same; then its place reads what it put there, whatever the order (`Document.getAt?_fill`).
-/

namespace Rollup

namespace Document

/-- **A column of a row.** -/
structure Column where
  /-- Where it stands. -/
  place : List String
  /-- What is put there, if anything is. -/
  value : Option Json

namespace Column

/-- The column that stands at a path. -/
def ofPath (path : String) (value : Option Json) : Column := ⟨segments path, value⟩

/-- A row with the column put into it. -/
def write (row : Json) (c : Column) : Json :=
  match c.value with
  | some value => setAt c.place value row
  | none => row

/-- A place that parts from the column's reads what it read before. -/
theorem getAt?_write_of_part {p : List String} {c : Column} (h : Part p c.place) (row : Json) :
    getAt? p (c.write row) = getAt? p row := by
  unfold write
  cases c.value with
  | none => rfl
  | some value => exact getAt?_setAt_of_part h value row

/-- At its place a column is read, and what stood before where nothing was put. -/
theorem getAt?_write_self (c : Column) (row : Json) :
    getAt? c.place (c.write row) = c.value.or (getAt? c.place row) := by
  unfold write
  cases c.value with
  | none => rfl
  | some value => exact getAt?_setAt_self c.place value row

end Column

/-- **A row filled with columns**, from the first to the last. -/
def fill (columns : List Column) (row : Json) : Json := columns.foldl Column.write row

/-- Filling goes on with what follows. -/
theorem fill_append (columns others : List Column) (row : Json) :
    fill (columns ++ others) row = fill others (fill columns row) := List.foldl_append

/-- A place that parts from those of all columns reads what it read before. -/
theorem getAt?_fill_of_part {p : List String} {columns : List Column}
    (h : ∀ c ∈ columns, Part p c.place) (row : Json) :
    getAt? p (fill columns row) = getAt? p row := by
  induction columns generalizing row with
  | nil => rfl
  | cons c rest ih =>
    show getAt? p (fill rest (c.write row)) = _
    rw [ih fun d hd => h d (List.mem_cons_of_mem _ hd),
      Column.getAt?_write_of_part (h c List.mem_cons_self)]

/-- **A column spares another one**: it is the same, or puts nothing, or stands apart from it. -/
def Column.Spares (d c : Column) : Prop := d = c ∨ d.value = none ∨ Part c.place d.place

/-- A column that stands apart spares the other one. -/
theorem Column.Spares.of_part {d c : Column} (h : Part c.place d.place) : d.Spares c := .inr (.inr h)

/-- What a column put in its place, over whatever stood there, is left by a column that spares it. -/
theorem Column.Spares.getAt?_write {d c : Column} (h : d.Spares c) {row : Json} {stood : Option Json}
    (hrow : getAt? c.place row = c.value.or stood) : getAt? c.place (d.write row) = c.value.or stood := by
  rcases h with rfl | hnone | hpart
  · rw [Column.getAt?_write_self, hrow]
    cases d.value <;> rfl
  · unfold Column.write
    rw [hnone]
    exact hrow
  · rw [Column.getAt?_write_of_part hpart, hrow]

/-- Columns that all spare one leave what it put in its place. -/
theorem getAt?_fill_of_spares {c : Column} {columns : List Column} (h : ∀ d ∈ columns, d.Spares c) {row : Json}
    {stood : Option Json} (hrow : getAt? c.place row = c.value.or stood) :
    getAt? c.place (fill columns row) = c.value.or stood := by
  induction columns generalizing row with
  | nil => exact hrow
  | cons d rest ih =>
    obtain ⟨hd, hrest⟩ := List.forall_mem_cons.1 h
    exact ih hrest (hd.getAt?_write hrow)

/-- What a column put in its place is left by later columns that spare it. -/
theorem getAt?_fill_append_cons {c : Column} {later : List Column} (h : ∀ d ∈ later, d.Spares c)
    (earlier : List Column) (row : Json) :
    getAt? c.place (fill (earlier ++ c :: later) row) = c.value.or (getAt? c.place (fill earlier row)) := by
  rw [fill_append]
  exact getAt?_fill_of_spares h (c.getAt?_write_self (fill earlier row))

/-- **At the place of a column that is spared stands what it put there**, or what stood before where it put
nothing. -/
theorem getAt?_fill {c : Column} {columns : List Column} (hc : c ∈ columns) (h : ∀ d ∈ columns, d.Spares c)
    (row : Json) : getAt? c.place (fill columns row) = c.value.or (getAt? c.place row) := by
  obtain ⟨earlier, later, rfl⟩ := List.append_of_mem hc
  refine (getAt?_fill_append_cons (fun d hd => h d (List.mem_append_right _ (List.mem_cons_of_mem _ hd)))
    earlier row).trans ?_
  -- where the column put nothing, the earlier ones left its place as it was
  cases hvalue : c.value with
  | some value => rfl
  | none =>
    have hearlier : ∀ d ∈ earlier, d.Spares c := fun d hd => h d (List.mem_append_left _ hd)
    have hrow : getAt? c.place row = c.value.or (getAt? c.place row) := by rw [hvalue]; rfl
    rw [getAt?_fill_of_spares hearlier hrow, hvalue]
    rfl

/-- **A row filled from nothing reads its columns.** -/
theorem get?_fill {c : Column} {columns : List Column} (hc : c ∈ columns) (h : ∀ d ∈ columns, d.Spares c)
    {path : String} (hpath : segments path = c.place) : get? path (fill columns (.object [])) = c.value := by
  unfold get?
  obtain ⟨name, rest, hcons⟩ := List.exists_cons_of_ne_nil (hpath ▸ segments_ne_nil path)
  have hnone : getAt? c.place (.object []) = none := by
    rw [hcons]
    rfl
  rw [hpath, getAt?_fill hc h, hnone, Option.or_none]

/-- **A row filled with columns at independent places reads them all.** -/
theorem get?_fill_of_pairwise {columns : List Column} (h : (columns.map Column.place).Pairwise Part) {c : Column}
    (hc : c ∈ columns) {path : String} (hpath : segments path = c.place) :
    get? path (fill columns (.object [])) = c.value := by
  have hsymm : Std.Symm fun c d : Column => Part c.place d.place := ⟨fun _ _ => Part.symm⟩
  refine get?_fill hc (fun d hd => ?_) hpath
  by_cases hsame : d = c
  · exact .inl hsame
  · exact .of_part ((List.pairwise_map.1 h).forall hc hd (Ne.symm hsame))

/-- Elsewhere it holds nothing. -/
theorem get?_fill_of_part {columns : List Column} {path : String} (h : ∀ c ∈ columns, Part (segments path) c.place) :
    get? path (fill columns (.object [])) = none := by
  unfold get?
  rw [getAt?_fill_of_part h]
  obtain ⟨name, rest, hcons⟩ := List.exists_cons_of_ne_nil (segments_ne_nil path)
  rw [hcons]
  rfl

end Document

open Document (Column fill)

namespace Stage

/-- The column of a key: a missing value leaves the empty cell, or nothing where there is no cell. -/
def keyColumn (source : Json) (key : OutputKey) : Column :=
  let value := Document.get? key.source source
  .ofPath key.target <| match key.wrap with
    | some dataType => some (openCell dataType value)
    | none => value

/-- Writing the value of a key is putting its column. -/
theorem writeKey_eq_write (source row : Json) (key : OutputKey) :
    writeKey key (Document.get? key.source source) row = (keyColumn source key).write row := by
  unfold writeKey keyColumn Column.ofPath Column.write
  cases key.wrap with
  | some dataType => rfl
  | none => cases Document.get? key.source source <;> rfl

/-- **Writing the values of keys is filling in their columns.** -/
theorem writeKeys_eq_fill (keys : List OutputKey) (source row : Json) :
    writeKeys keys source row = fill (keys.map (keyColumn source)) row := by
  unfold writeKeys fill
  rw [List.foldl_map]
  exact congrArg (fun f => keys.foldl f row) <|
    funext fun row => funext fun key => writeKey_eq_write source row key

end Stage

namespace Grouping

/-- The columns of an aggregate: the reduced number, and beside a mean its sum and number. -/
def aggregateColumns (members : List Json) (a : Aggregation) : List Column :=
  let t := tally a members
  [.ofPath (Stage.cellPath a.fieldId) (some (Stage.numberCell (t.reduce a.reduction))),
    .ofPath (Stage.partialsPath a.fieldId) (if a.reduction = .avg then some t.partials else none)]

/-- **The columns of the row of a group.** -/
def columns (g : Grouping) (members : List Json) : List Column :=
  let first := members.headD .null
  g.keys.map (Stage.keyColumn first)
    ++ [.ofPath Stage.ownersPath (Document.get? Stage.ownersPath first)]
    ++ (g.aggregates.flatMap (aggregateColumns members)
      ++ [.ofPath Stage.countPath (if g.showCount then some (.ofCount members.length) else none),
        .ofPath Stage.updateTimePath (some (.string g.updateTime.stored))])

/-- Writing the columns of aggregates one after the other. -/
theorem foldl_writeAggregate (members : List Json) (aggregates : List Aggregation) (row : Json) :
    aggregates.foldl (writeAggregate members) row
      = fill (aggregates.flatMap (aggregateColumns members)) row := by
  induction aggregates generalizing row with
  | nil => rfl
  | cons a rest ih =>
    rw [List.foldl_cons, ih, List.flatMap_cons, Document.fill_append]
    refine congrArg (fill _) ?_
    unfold writeAggregate aggregateColumns
    by_cases h : a.reduction = .avg <;> simp only [h, if_true, if_false] <;> rfl

/-- **The row of a group is the filling of its columns.** -/
theorem row_eq_fill (g : Grouping) (members : List Json) :
    g.row members = fill (g.columns members) (.object []) := by
  have hidentity : g.identity (members.headD .null)
      = fill (g.keys.map (Stage.keyColumn (members.headD .null))
          ++ [.ofPath Stage.ownersPath (Document.get? Stage.ownersPath (members.headD .null))])
        (.object []) := by
    unfold identity
    rw [Document.fill_append, ← Stage.writeKeys_eq_fill]
    cases Document.get? Stage.ownersPath (members.headD .null) <;> rfl
  unfold row columns
  dsimp only
  rw [hidentity, foldl_writeAggregate, Document.fill_append _ (_ ++ [_, _]),
    Document.fill_append (g.aggregates.flatMap _)]
  cases g.showCount <;> rfl

end Grouping

namespace Regroup

/-- The column of an aggregate. -/
def aggregateColumn (members : List Json) (a : MergedAggregate) : Column :=
  .ofPath (Stage.cellPath a.fieldId) (some (Stage.numberCell ((tally a members).reduce a.reduction)))

/-- The column that is copied from a path. -/
def copiedColumn (source : Json) (path : String) : Column := .ofPath path (Document.get? path source)

/-- **The columns of the row of merged rows.** -/
def columns (g : Regroup) (members : List Json) : List Column :=
  (g.keys ++ [Stage.updateTimePath]).map (copiedColumn (members.headD .null))
    ++ (g.aggregates.map (aggregateColumn members)
      ++ [.ofPath Stage.countPath (if g.showCount then some (.ofWord (countOf members)) else none)])

/-- **The row of merged rows is the filling of its columns.** -/
theorem row_eq_fill (g : Regroup) (members : List Json) :
    g.row members = fill (g.columns members) (.object []) := by
  have hcopied : (g.keys ++ [Stage.updateTimePath]).foldl (copyPath (members.headD .null)) (.object [])
      = fill ((g.keys ++ [Stage.updateTimePath]).map (copiedColumn (members.headD .null)))
        (.object []) := by
    unfold fill
    rw [List.foldl_map]
    refine congrArg (fun f => List.foldl f (Json.object []) (g.keys ++ [Stage.updateTimePath])) ?_
    funext row path
    unfold copyPath copiedColumn Column.ofPath Column.write
    cases Document.get? path (members.headD .null) <;> rfl
  have haggregates : ∀ row, g.aggregates.foldl (writeAggregate members) row
      = fill (g.aggregates.map (aggregateColumn members)) row := by
    intro row
    unfold fill
    rw [List.foldl_map]
    rfl
  unfold row columns
  dsimp only
  rw [hcopied, haggregates, Document.fill_append, Document.fill_append]
  cases g.showCount <;> rfl

/-- Rows with the same key values and the same time have the same text. -/
theorem keyOf_congr {g : Regroup} {row other : Json}
    (h : ∀ path ∈ g.keys ++ [Stage.updateTimePath], Document.get? path row = Document.get? path other) :
    g.keyOf row = g.keyOf other := by
  unfold keyOf
  rw [h _ (List.mem_append_right _ List.mem_cons_self),
    List.map_congr_left fun path hpath => h path (List.mem_append_left _ hpath)]

end Regroup

end Rollup
