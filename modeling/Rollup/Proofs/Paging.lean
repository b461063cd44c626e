import Mathlib.Algebra.Order.Floor.Div
import Rollup.Proofs.Answers
import Rollup.Proofs.Conditions
import Rollup.Proofs.Labelling
import Rollup.Service.Reports

/-!
# Pages are a partition

A caller who turns the pages of a query sees all of its rows, each once and in order, and every page tells the
number of all of them. A listing report is cut by the store and labelled page by page, with the users of the page
looked up alone; a grouping report is presented as a whole each time. Either way a page is a part of the answer
without pages (`PreparedQuery.answer_pageRows_of_all`).

Pages are asked for one by one, and between them other queries are. Queries count accesses and make indexes, but
none of that comes back in an answer, so that the pages still belong together (`Service.query_pages`).
-/

namespace Rollup

open TenantAction (Reads answer answer_bind)

/-! ## Parts of lists -/

/-- **Parts of one size, one after the other**, are the beginning of a list. -/
theorem flatMap_range_take_drop {α : Type} (xs : List α) (size n : ℕ) :
    (List.range n).flatMap (fun i => (xs.drop (i * size)).take size) = xs.take (n * size) := by
  induction n with
  | zero => simp
  | succ n ih =>
    rw [List.range_succ, List.flatMap_append, ih, List.flatMap_singleton, Nat.succ_mul, List.take_add]

namespace Store

variable {α β : Type}

/-- What is done to each element may be done before or after cutting. -/
theorem cut_map (f : α → β) (skip : ℕ) (limit : Option ℕ) (xs : List α) :
    cut skip limit (xs.map f) = (cut skip limit xs).map f := by
  cases limit with
  | none => exact List.map_drop.symm
  | some n =>
    show ((xs.map f).drop skip).take n = ((xs.drop skip).take n).map f
    rw [List.map_take, List.map_drop]

/-- A part of nothing but the elements is there. -/
theorem cut_subset (skip : ℕ) (limit : Option ℕ) (xs : List α) : cut skip limit xs ⊆ xs :=
  fun _ h => mem_of_mem_cut h

/-- Nothing is cut off where nothing is skipped and there is no limit. -/
theorem cut_all (xs : List α) : cut 0 none xs = xs := List.drop_zero

end Store

/-! ## Pages of a prepared query -/

namespace PreparedQuery

variable {p : PreparedQuery} {t : Tenant} {skip : ℕ} {limit : Option ℕ}

/-- **What a page of a grouping report answers.** -/
theorem answer_pageRows_of_isGroup (h : p.report.mode.isGroup = true) (skip : ℕ) (limit : Option ℕ) :
    (p.pageRows skip limit).answer t = (p.groupedRows.answer t).bind fun rows =>
      .ok (Store.cut skip limit rows, rows.length) := by
  unfold pageRows
  rw [h, if_pos rfl, answer_bind (reads_groupedRows everywhere (Set.mem_univ _)) fun _ => .pure _ _]
  rfl

/-- **What a page of a listing report answers.** -/
theorem answer_pageRows_of_listing (h : p.report.mode.isGroup = false) (skip : ℕ) (limit : Option ℕ) :
    (p.pageRows skip limit).answer t = ((p.listedPart skip limit).answer t).bind fun rows =>
      (p.count.answer t).bind fun total => ((p.label rows).answer t).bind fun shown =>
        .ok (shown, total) := by
  have hlabel : ∀ rows total, Reads .univ (do return (← p.label rows, total) : TenantAction (List Json × ℕ)) :=
    fun rows _ => (reads_label everywhere p rows).bind fun _ => .pure _ _
  unfold pageRows
  rw [h, if_neg Bool.false_ne_true, answer_bind (reads_listedPart (Set.mem_univ _) _ _)
    fun rows => (reads_count (Set.mem_univ _)).bind fun total => hlabel rows total]
  refine congrArg _ (funext fun rows => ?_)
  rw [answer_bind (reads_count (Set.mem_univ _)) (hlabel rows)]
  refine congrArg _ (funext fun total => ?_)
  rw [answer_bind (reads_label everywhere p rows) fun _ => .pure _ _]
  rfl

/-- What counting rows that can be read answers. -/
theorem answer_count_of_read (h : t.store.unavailable.contains p.collection = false) :
    p.count.answer t = .ok (p.chosen t).length := by
  unfold PreparedQuery.count
  rw [TenantAction.answer_count, h]
  rfl

/-- **A listing report whose rows can be labelled** can be shown. -/
theorem answer_pageRows_of_label (hmode : p.report.mode.isGroup = false)
    (hread : t.store.unavailable.contains p.collection = false) {shown : List Json}
    (h : (p.label (p.ordered t)).answer t = .ok shown) :
    (p.pageRows 0 none).answer t = .ok (shown, (p.ordered t).length) := by
  rw [answer_pageRows_of_listing hmode, answer_listedPart hread, bind_of_ok, answer_count_of_read hread,
    bind_of_ok, Store.cut_all, h, length_ordered]
  rfl

/-- What counting answers tells whether the rows can be read. -/
theorem count_eq_of_answer {total : ℕ} (h : p.count.answer t = .ok total) :
    t.store.unavailable.contains p.collection = false ∧ total = (p.chosen t).length := by
  unfold PreparedQuery.count at h
  rw [TenantAction.answer_count] at h
  split at h
  · exact absurd h nofun
  · next hread => exact ⟨Bool.eq_false_iff.2 hread, (Except.ok.inj h).symm⟩

/-- **A listing report that is shown as a whole** is labelled row by row, as every part of it would be. -/
theorem exists_labelling_of_all (hmode : p.report.mode.isGroup = false) {shown : List Json} {total : ℕ}
    (h : (p.pageRows 0 none).answer t = .ok (shown, total)) :
    t.store.unavailable.contains p.collection = false ∧ total = (p.chosen t).length
      ∧ ∃ f : Json → Json, shown = (p.ordered t).map f
        ∧ ∀ part, part ⊆ p.ordered t → (p.label part).answer t = .ok (part.map f) := by
  rw [answer_pageRows_of_listing hmode] at h
  obtain ⟨rows, hrows, h⟩ := exists_of_bind_eq_ok h
  obtain ⟨count, hcount, h⟩ := exists_of_bind_eq_ok h
  obtain ⟨labelled, hlabelled, h⟩ := exists_of_bind_eq_ok h
  obtain ⟨rfl, rfl⟩ := Prod.mk.inj (Except.ok.inj h)
  obtain ⟨hread, htotal⟩ := count_eq_of_answer hcount
  rw [answer_listedPart hread, Store.cut_all] at hrows
  obtain rfl := Except.ok.inj hrows
  exact ⟨hread, htotal, Stage.exists_labelling hlabelled⟩

/-- **Every page is a part of all rows**, and tells how many these are. Where all rows can be shown, every page
can. -/
theorem answer_pageRows_of_all {shown : List Json} {total : ℕ}
    (h : (p.pageRows 0 none).answer t = .ok (shown, total)) : total = shown.length
      ∧ ∀ skip limit, (p.pageRows skip limit).answer t = .ok (Store.cut skip limit shown, total) := by
  cases hmode : p.report.mode.isGroup with
  | true =>
    rw [answer_pageRows_of_isGroup hmode] at h
    obtain ⟨rows, hrows, h⟩ := exists_of_bind_eq_ok h
    rw [Store.cut_all] at h
    obtain ⟨rfl, rfl⟩ := Prod.mk.inj (Except.ok.inj h)
    refine ⟨rfl, fun skip limit => ?_⟩
    rw [answer_pageRows_of_isGroup hmode, hrows, bind_of_ok]
  | false =>
    obtain ⟨hread, rfl, f, rfl, hlabel⟩ := exists_labelling_of_all hmode h
    refine ⟨?_, fun skip limit => ?_⟩
    · rw [List.length_map, length_ordered]
    · rw [answer_pageRows_of_listing hmode, answer_listedPart hread, bind_of_ok, answer_count_of_read hread,
        bind_of_ok, Store.cut_map]
      exact congrArg (Except.bind · _) (hlabel _ (Store.cut_subset skip limit _))

/-- **A page tells the number of rows that are counted.** -/
theorem answer_total_of_pageRows {shown : List Json} {total : ℕ}
    (h : (p.pageRows skip limit).answer t = .ok (shown, total)) : p.total.answer t = .ok total := by
  unfold PreparedQuery.total
  cases hmode : p.report.mode.isGroup with
  | true =>
    rw [answer_pageRows_of_isGroup hmode] at h
    obtain ⟨rows, hrows, h⟩ := exists_of_bind_eq_ok h
    rw [if_pos rfl, answer_bind (reads_groupedRows everywhere (Set.mem_univ _)) fun _ => .pure _ _, hrows]
    exact congrArg Except.ok (Prod.mk.inj (Except.ok.inj h)).2
  | false =>
    rw [answer_pageRows_of_listing hmode] at h
    obtain ⟨rows, -, h⟩ := exists_of_bind_eq_ok h
    obtain ⟨count, hcount, h⟩ := exists_of_bind_eq_ok h
    obtain ⟨labelled, -, h⟩ := exists_of_bind_eq_ok h
    rw [if_neg Bool.false_ne_true, hcount]
    exact congrArg Except.ok (Prod.mk.inj (Except.ok.inj h)).2

end PreparedQuery

/-! ## Pages of a query -/

/-- Without conditions all rows of the caller are chosen, however nothing is combined. -/
theorem CompiledFilter.predicate_ofQuery_nil {ctx : CompileContext} {combinator : String}
    {owners : List String} {f : CompiledFilter} (h : ofQuery ctx [] combinator owners = .ok f) :
    f.predicate = .allOf [.among ownersPath owners, .everything] := by
  obtain ⟨g, hg, hf⟩ := exists_of_bind_eq_ok h
  obtain ⟨bare, hbare, heverything, -⟩ := exists_ofConditions_nil hg
  obtain rfl := Except.ok.inj (hg.symm.trans hbare)
  rw [← Except.ok.inj hf, heverything]

/-- Nothing can be combined by `and`. -/
theorem CompiledFilter.exists_ofQuery_and (ctx : CompileContext) (owners : List String) :
    ∃ f, ofQuery ctx [] "and" owners = .ok f := by
  have hcombinator : ∀ strictness, ∃ c, combinatorOf strictness "and" = .ok c := by
    intro strictness
    cases strictness with
    | lenient => exact ⟨_, rfl⟩
    | strict => exact ⟨.all, rfl⟩
  obtain ⟨c, hc⟩ := hcombinator ctx.strictness
  unfold ofQuery ofConditions
  rw [hc]
  exact ⟨_, rfl⟩

namespace Query

variable {q : Query} {t : Tenant}

/-- The same query for a page. -/
def onPage (q : Query) (index size : UInt64) : Query := { q with pageIndex := index, pageSize := size }

/-- The same query without pages. -/
def unpaged (q : Query) : Query := { q with pageSize := 0 }

/-- Where the page with an index starts, and how many rows it holds. -/
theorem page_onPage (q : Query) (index : UInt64) {size : UInt64} (hsize : size ≠ 0) : (q.onPage index size).page
    = (min ((index.toNat - 1) * size.toNat) wordMax, some size.toNat) := if_neg hsize

/-- **The pages of a query** are parts of its answer without pages. -/
theorem answer_run_onPage {all : Page} (h : q.unpaged.run.answer t = .ok all) (index size : UInt64) :
    all.total = all.rows.length ∧ (q.onPage index size).run.answer t = .ok
      { all with rows := Store.cut (q.onPage index size).page.1 (q.onPage index size).page.2 all.rows } := by
  rw [answer_run] at h ⊢
  obtain ⟨p, hp, h⟩ := exists_of_bind_eq_ok h
  obtain ⟨⟨shown, total⟩, hshown, h⟩ := exists_of_bind_eq_ok h
  obtain rfl := Except.ok.inj h
  obtain ⟨htotal, hpages⟩ := PreparedQuery.answer_pageRows_of_all hshown
  refine ⟨htotal, ?_⟩
  -- preparing a query does not look at its page
  rw [show (q.onPage index size).prepare.answer t = .ok p from hp, bind_of_ok, hpages]
  rfl

/-- **Counting gives the total of a query without conditions.** -/
theorem answer_count_of_run {page : Page} (hconditions : q.conditions = [])
    (h : q.run.answer t = .ok page) : (count q.reportId q.owners).answer t
      = .ok { fieldInfos := page.fieldInfos, total := page.total } := by
  rw [answer_run] at h
  obtain ⟨p, hp, h⟩ := exists_of_bind_eq_ok h
  obtain ⟨⟨shown, total⟩, hshown, h⟩ := exists_of_bind_eq_ok h
  obtain rfl := Except.ok.inj h
  rw [answer_prepare] at hp
  obtain ⟨id, hid, hp⟩ := exists_of_bind_eq_ok hp
  obtain ⟨report, hreport, hp⟩ := exists_of_bind_eq_ok hp
  obtain ⟨compiled, hcompiled, hp⟩ := exists_of_bind_eq_ok hp
  obtain rfl := Except.ok.inj hp
  rw [answer_compile, hconditions] at hcompiled
  obtain ⟨period, hperiod, hcompiled⟩ := exists_of_bind_eq_ok hcompiled
  obtain ⟨f, hf⟩ := CompiledFilter.exists_ofQuery_and (context t period) q.owners
  have hpredicate : compiled.predicate = f.predicate :=
    (CompiledFilter.predicate_ofQuery_nil (eq_ok_of_mapError hcompiled)).trans
      (CompiledFilter.predicate_ofQuery_nil hf).symm
  have hall : ((all q.reportId q.owners).compile report.appId).answer t = .ok f := by
    rw [answer_compile, hperiod]
    exact congrArg (Except.mapError _) hf
  rw [answer_count, answer_prepare, show ReportId.parse (all q.reportId q.owners).reportId = .ok id from hid,
    bind_of_ok, hreport, bind_of_ok, hall, bind_of_ok, bind_of_ok, ← hpredicate,
    PreparedQuery.answer_total_of_pageRows hshown]
  rfl

end Query

/-! ## Pages that are asked for one by one -/

namespace Service

/-- **A question to a service.** -/
inductive Question where
  /-- For a page. -/
  | page (q : Query)
  /-- For the number of rows. -/
  | count (reportId : String) (owners : List String)
  /-- For a download. -/
  | download (q : Query)

/-- The service behind a question: accesses are counted, indexes and counters change. -/
def Question.ask : Question → Service → Service
  | .page q, s => ((query q).run s).2
  | .count reportId owners, s => ((Service.count reportId owners).run s).2
  | .download q, s => ((Service.download q).run s).2

/-- The service behind some questions. -/
def asked (questions : List Question) (s : Service) : Service :=
  questions.foldl (fun s question => question.ask s) s

/-- **Questions change nothing that can be read.** -/
theorem readable_asked (questions : List Question) (s : Service) :
    (s.asked questions).tenant.readable = s.tenant.readable := by
  induction questions generalizing s with
  | nil => rfl
  | cons question rest ih =>
    refine (ih (question.ask s)).trans ?_
    cases question with
    | page q => exact (Query.reads_run q).keeps s.tenant
    | count reportId owners => exact (Query.reads_count reportId owners).keeps s.tenant
    | download q => exact (Query.reads_download q).keeps s.tenant

/-- What only reads is answered behind any questions as before them. -/
theorem answer_asked {α : Type} {a : TenantAction α} (ha : Reads .univ a) (questions : List Question)
    (s : Service) : a.answer (s.asked questions).tenant = a.answer s.tenant :=
  ha.agrees _ _ (.of_readable (readable_asked questions s) _)

/-- **Pages of one size**, each with its rows, whatever is asked between them. -/
structure PagesOf (s : Service) (q : Query) (all : Page) (size : UInt64) (shown : UInt64 → List Json) :
    Prop where
  /-- Every page succeeds, and tells what the answer without pages tells. -/
  page : ∀ questions index,
    ((query (q.onPage index size)).run (s.asked questions)).1 = .ok { all with rows := shown index }
  /-- No page is larger than asked for. -/
  length_le : ∀ index, (shown index).length ≤ size.toNat
  /-- The pages from one on make up all rows. -/
  pages : (List.range (all.total ⌈/⌉ size.toNat)).flatMap (fun i => shown (UInt64.ofNat (i + 1))) = all.rows
  /-- The page zero is the first one. -/
  zero : shown 0 = shown 1
  /-- Behind the last page all pages are empty. -/
  behind : ∀ index : UInt64, all.total ⌈/⌉ size.toNat < index.toNat → shown index = []

/-- **What the pages and the count of a query have to do with its answer without pages.** -/
structure Pages (s : Service) (q : Query) (all : Page) : Prop where
  /-- The total is the number of rows. -/
  total : all.total = all.rows.length
  /-- There are pages of every size. -/
  exists_pages : ∀ size : UInt64, size ≠ 0 → ∃ shown, PagesOf s q all size shown
  /-- Without conditions the rows are counted, and the columns described, as the answer says. -/
  count : q.conditions = [] → ∀ questions, ((count q.reportId q.owners).run (s.asked questions)).1
    = .ok { fieldInfos := all.fieldInfos, total := all.total }
  /-- One page of as many rows as there are holds them all. -/
  full : ∀ questions,
    ((query (q.onPage 1 (UInt64.ofNat all.total))).run (s.asked questions)).1 = .ok all

/-- Where the page with some index starts, as far as there are rows: the largest word counts as no page. -/
theorem drop_page {α : Type} {rows : List α} (hrows : rows.length < 2 ^ 64) (n : ℕ) :
    rows.drop (min n Query.wordMax) = rows.drop n := by
  rcases Nat.le_total n Query.wordMax with h | h
  · rw [min_eq_left h]
  · have hmax : rows.length ≤ Query.wordMax := Nat.le_pred_of_lt hrows
    rw [min_eq_right h, List.drop_of_length_le hmax, List.drop_of_length_le (hmax.trans h)]

/-- The rows of a page of some rows. -/
def rowsOfPage (rows : List Json) (size index : UInt64) : List Json :=
  (rows.drop ((index.toNat - 1) * size.toNat)).take size.toNat

section Rows

variable {rows : List Json} {size : UInt64}

/-- **Pages make up the rows.** -/
theorem flatMap_rowsOfPage (hsize : 0 < size.toNat) (hrows : rows.length < 2 ^ 64) :
    (List.range (rows.length ⌈/⌉ size.toNat)).flatMap (fun i => rowsOfPage rows size (UInt64.ofNat (i + 1)))
      = rows := by
  have hcount : rows.length ⌈/⌉ size.toNat ≤ rows.length :=
    (ceilDiv_le_iff_le_smul hsize).2 (Nat.le_mul_of_pos_left _ hsize)
  have hindex : ∀ i ∈ List.range (rows.length ⌈/⌉ size.toNat),
      rowsOfPage rows size (UInt64.ofNat (i + 1)) = (rows.drop (i * size.toNat)).take size.toNat := by
    intro i hi
    have hlt : i + 1 < 2 ^ 64 :=
      (Nat.succ_le_of_lt ((List.mem_range.1 hi).trans_le hcount)).trans_lt hrows
    unfold rowsOfPage
    rw [UInt64.toNat_ofNat_of_lt' hlt, Nat.add_sub_cancel]
  have hall : rows.length ≤ rows.length ⌈/⌉ size.toNat * size.toNat :=
    (le_smul_ceilDiv hsize).trans_eq (Nat.mul_comm _ _)
  rw [List.flatMap_congr hindex, flatMap_range_take_drop, List.take_of_length_le hall]

/-- Behind the last page there are no rows. -/
theorem rowsOfPage_eq_nil (hsize : 0 < size.toNat) {index : UInt64}
    (hindex : rows.length ⌈/⌉ size.toNat < index.toNat) : rowsOfPage rows size index = [] := by
  have hskip : rows.length ≤ (index.toNat - 1) * size.toNat :=
    ((ceilDiv_le_iff_le_smul hsize).1 (Nat.le_pred_of_lt hindex)).trans_eq (Nat.mul_comm _ _)
  unfold rowsOfPage
  rw [List.drop_of_length_le hskip, List.take_nil]

end Rows

/-- What a page of a size answers. -/
theorem run_query_onPage {s : Service} {q : Query} {all : Page} (hall : q.unpaged.run.answer s.tenant = .ok all)
    (hrows : all.rows.length < 2 ^ 64) (questions : List Question) (index : UInt64) {size : UInt64}
    (hsize : size ≠ 0) : ((query (q.onPage index size)).run (s.asked questions)).1
      = .ok { all with rows := rowsOfPage all.rows size index } := by
  refine (answer_asked (Query.reads_run _) questions s).trans ?_
  rw [(Query.answer_run_onPage hall index size).2, q.page_onPage index hsize]
  unfold rowsOfPage
  rw [← drop_page hrows]
  rfl

/-- **Paging is a partition, and counts agree with it**: where a query without pages succeeds, its pages of every
size do, make up its rows and tell their number, and so does the count. Totals are words. -/
theorem query_pages {s : Service} {q : Query} {all : Page} (hall : ((query q.unpaged).run s).1 = .ok all)
    (htotal : all.total < 2 ^ 64) : s.Pages q all := by
  replace hall : q.unpaged.run.answer s.tenant = .ok all := hall
  have hlength : all.total = all.rows.length := (Query.answer_run_onPage hall 0 0).1
  have hrows : all.rows.length < 2 ^ 64 := hlength ▸ htotal
  refine ⟨hlength, fun size hsize => ⟨rowsOfPage all.rows size, ?_⟩, fun hconditions questions => ?_,
    fun questions => ?_⟩
  · have hpositive : 0 < size.toNat :=
      Nat.pos_of_ne_zero fun h => hsize (UInt64.toNat_inj.1 h)
    exact {
      page := fun questions index => run_query_onPage hall hrows questions index hsize
      length_le := fun _ => List.length_take_le _ _
      pages := hlength ▸ flatMap_rowsOfPage hpositive hrows
      zero := rfl
      behind := fun _ hindex => rowsOfPage_eq_nil hpositive (hlength ▸ hindex) }
  · exact (answer_asked (Query.reads_count _ _) questions s).trans
      (Query.answer_count_of_run (q := q.unpaged) hconditions hall)
  · by_cases hnone : UInt64.ofNat all.total = 0
    · rw [hnone]
      refine (answer_asked (Query.reads_run _) questions s).trans ?_
      rw [(Query.answer_run_onPage hall 1 0).2]
      rfl
    · have hfull : rowsOfPage all.rows (UInt64.ofNat all.total) 1 = all.rows := by
        unfold rowsOfPage
        rw [UInt64.toNat_ofNat_of_lt' htotal, hlength]
        simp
      rw [run_query_onPage hall hrows questions 1 hnone, hfull]

end Service

/-! ### A guest book -/

/-- A report that lists the guests of visits by their names. -/
def guestsReport : ReportDefinition where
  appId := "house"
  datastoreId := "visits"
  mode := .select [.dynamic "guest" .user]
  reportId := ⟨"guests", by decide⟩

/-- The row of a visit. -/
def visitBy (guest number : String) : Json :=
  .object [("item_id", .string number),
    ("items", .object [("guest", Stage.openCell .user (some (.ofStrings [guest])))]),
    ("owners", .ofStrings ["family"])]

/-- A user with a name. -/
def userNamed (id name : String) : Json :=
  .object [("user_id", .string id), ("user_name", .string name)]

/-- Three visits of two guests. -/
def visits : List Json := [visitBy "u1" "1", visitBy "u1" "2", visitBy "u2" "3"]

/-- A service that holds the rows of the visits, and delivers them in twos. -/
def guestBook : Service where
  tenant :=
    { store := { collections := [(guestsReport.reportId.collection, { documents := visits }),
        ("reports", { documents := [guestsReport.toJson] }),
        ("users", { documents := [userNamed "u1" "Ada", userNamed "u2" "Bela"] })] }
      config := { downloadBatchSize := 2 }
      clock := .epoch
      today := .epoch }

/-- The query for all visits. -/
def allVisits : Query := .all "guests" ["family"]

/-- The texts that a row shows of its guests. -/
def guestsShown (row : Json) : List String := LabelLookup.userIds (Document.get? "items.guest.value" row)

/-- The visits are listed in the order of their numbers, and their guests have names. -/
theorem guestBook_prepared : ∃ p, allVisits.prepare.answer guestBook.tenant = .ok p
    ∧ p.report.mode.isGroup = false ∧ guestBook.tenant.store.unavailable.contains p.collection = false
    ∧ p.ordered guestBook.tenant = visits
    ∧ ∃ shown, (p.label visits).answer guestBook.tenant = .ok shown
      ∧ shown.map guestsShown = [["Ada"], ["Ada"], ["Bela"]] := by
  have hprepared : (allVisits.prepare.answer guestBook.tenant).toOption.map
      (fun p => (p.report.mode.isGroup, p.collection, p.presentation.lookups, p.presentation.sort,
        visits.all p.predicate.holds))
      = some (false, guestsReport.reportId.collection, [⟨"guest", .user, .users⟩], [.ascending "item_id"],
        true) := by
    decide +kernel
  obtain ⟨p, hp, hfacts⟩ := Option.map_eq_some_iff.1 hprepared
  obtain ⟨hmode, hcollection, hlookups, hsort, hall⟩ := by simpa only [Prod.mk.injEq] using hfacts
  have hchosen : p.chosen guestBook.tenant = visits := by
    unfold PreparedQuery.chosen
    rw [hcollection]
    exact List.filter_eq_self.2 (List.all_eq_true.1 hall)
  have hlabelled : ((Stage.runAll [.lookup ⟨"guest", .user, .users⟩] visits).answer guestBook.tenant).toOption.map
      (List.map guestsShown) = some [["Ada"], ["Ada"], ["Bela"]] := by
    decide +kernel
  obtain ⟨shown, hshown, hnames⟩ := Option.map_eq_some_iff.1 hlabelled
  refine ⟨p, eq_ok_of_toOption hp, hmode, by rw [hcollection]; rfl, ?_, shown, ?_, hnames⟩
  · unfold PreparedQuery.ordered
    rw [hchosen, hsort]
    exact Document.sort_of_pairwise (by decide +kernel)
  · unfold PreparedQuery.label Presentation.lookupStages
    rw [hlookups]
    exact eq_ok_of_toOption hshown

/-- **The guest book can be turned page by page.** -/
theorem guestBook_pages : ∃ all, ((Service.query allVisits.unpaged).run guestBook).1 = .ok all
    ∧ all.rows.map guestsShown = [["Ada"], ["Ada"], ["Bela"]] ∧ all.total = 3
    ∧ guestBook.Pages allVisits all := by
  obtain ⟨p, hp, hmode, hread, hordered, shown, hshown, hnames⟩ := guestBook_prepared
  have hpage := PreparedQuery.answer_pageRows_of_label hmode hread (hordered.symm ▸ hshown)
  rw [hordered] at hpage
  have hprepare : allVisits.unpaged.prepare = allVisits.prepare := rfl
  have hwindow : allVisits.unpaged.page = (0, none) := rfl
  have hall := allVisits.unpaged.answer_run guestBook.tenant
  rw [hprepare, hp, hwindow, bind_of_ok, hpage, bind_of_ok] at hall
  have htotal : visits.length < 2 ^ 64 := by decide
  rw [← Service.run_query] at hall
  exact ⟨_, hall, hnames, rfl, Service.query_pages hall htotal⟩

end Rollup
