import Rollup.Proofs.GroupedRows
import Rollup.Proofs.Paging
import Rollup.Proofs.Projecting
import Rollup.Proofs.Running
import Rollup.Proofs.ValueOrder

/-!
# Sorting is stable

A comparison that is a **total preorder** tells of any two things which one comes first or that they are equal, and
never goes round in circles. Sorting by it puts a list in order and leaves things that are equal as they stood to each
other (`stablySorted_mergeSort`). Values and documents are compared in this way, whatever the kinds of the values and
whatever the keys.

A listing report that asks for no order is sorted by its items. Its rows are labelled afterwards, but that changes
nothing outside of their cells (`Stage.exists_labelling_of_items`). So the rows of a page are in the order of their
items, and those of one item in the order in which they are stored (`Query.exists_listsByItem`).
-/

namespace Rollup

open Std (TransCmp)
open TenantAction (answer)

section Comparison

variable {α : Type} (cmp : α → α → Ordering)

/-- **A total preorder**, given as a comparison. -/
structure TotalPreorder : Prop where
  /-- Everything is equal to itself. -/
  refl : ∀ a, cmp a a = .eq
  /-- Turned round, the comparison is the opposite one. -/
  swap : ∀ a b, cmp b a = (cmp a b).swap
  /-- Of any two things one comes no later than the other. -/
  total : ∀ a b, (cmp a b).isLE ∨ (cmp b a).isLE
  /-- What comes no later than a second thing comes no later than what that does not come behind. -/
  trans : ∀ a b c, (cmp a b).isLE → (cmp b c).isLE → (cmp a c).isLE

/-- **A list that was sorted**, with equal things in the order in which they stood. -/
structure StablySorted (xs sorted : List α) : Prop where
  /-- It holds the same things, each as often. -/
  perm : sorted.Perm xs
  /-- Nothing stands before what it comes behind. -/
  pairwise : sorted.Pairwise fun a b => (cmp a b).isLE
  /-- Of things that are equal none has passed another. -/
  stable : ∀ a, sorted.filter (fun b => cmp a b == .eq) = xs.filter fun b => cmp a b == .eq

/-- Not to be compared at all is to stay in order. -/
theorem stablySorted_of_eq {xs : List α} (h : ∀ a b, cmp a b = .eq) : StablySorted cmp xs xs where
  perm := .refl _
  pairwise := List.pairwise_of_forall fun a b => by rw [h a b]; rfl
  stable _ := rfl

variable [TransCmp cmp]

/-- **The laws of comparisons** are those of total preorders. -/
theorem totalPreorder_of_transCmp : TotalPreorder cmp where
  refl _ := Std.ReflCmp.compare_self
  swap _ _ := Std.OrientedCmp.eq_swap
  total a b := by
    have hswap : cmp b a = (cmp a b).swap := Std.OrientedCmp.eq_swap
    rw [hswap]
    cases cmp a b <;> simp
  trans _ _ _ := TransCmp.isLE_trans

/-- **Merging sorts stably**: whatever is in order in a list stays as it is. -/
theorem stablySorted_mergeSort (xs : List α) : StablySorted cmp xs (xs.mergeSort fun a b => (cmp a b).isLE) := by
  have htrans : ∀ a b c, (cmp a b).isLE = true → (cmp b c).isLE = true → (cmp a c).isLE = true :=
    (totalPreorder_of_transCmp cmp).trans
  have htotal : ∀ a b, ((cmp a b).isLE || (cmp b a).isLE) = true := fun a b =>
    Bool.or_eq_true_iff.2 ((totalPreorder_of_transCmp cmp).total a b)
  have hperm := List.mergeSort_perm xs fun a b => (cmp a b).isLE
  refine ⟨hperm, List.pairwise_mergeSort htrans htotal xs, fun a => ?_⟩
  -- things that are equal to one are in order among themselves
  have hequal : (xs.filter fun b => cmp a b == .eq).Pairwise fun b c => (cmp b c).isLE := by
    refine List.pairwise_of_forall_mem_list fun b hb c hc => ?_
    have hba : cmp b a = .eq := Std.OrientedCmp.eq_symm (beq_iff_eq.1 (List.mem_filter.1 hb).2)
    rw [TransCmp.congr_left hba, beq_iff_eq.1 (List.mem_filter.1 hc).2]
    rfl
  have hsublist := (List.sublist_mergeSort htrans htotal hequal List.filter_sublist).filter fun b => cmp a b == .eq
  rw [List.filter_filter, List.filter_congr fun b _ => Bool.and_self _] at hsublist
  exact (hsublist.eq_of_length (hperm.filter _).length_eq.symm).symm

end Comparison

/-- **Documents are sorted stably.** -/
theorem Document.stablySorted_sort (keys : List SortKey) (documents : List Json) :
    StablySorted (order keys) documents (sort keys documents) := by
  unfold sort
  split
  · next hkeys =>
    obtain rfl := List.isEmpty_iff.1 hkeys
    exact stablySorted_of_eq _ fun _ _ => rfl
  · exact stablySorted_mergeSort _ documents

/-! ## Rows in the order of their items -/

/-- A page is a part of the rows in their order. -/
theorem Store.cut_sublist {α : Type} (skip : ℕ) (limit : Option ℕ) (xs : List α) : (cut skip limit xs).Sublist xs := by
  cases limit with
  | none => exact List.drop_sublist _ _
  | some n => exact (List.take_sublist _ _).trans (List.drop_sublist _ _)

/-- A label is written below the items. -/
theorem LabelLookup.member?_apply (l : LabelLookup) (labels : Keyed String) (row : Json) {name : String}
    (hname : name ≠ "items") : (l.apply labels row).member? name = row.member? name := by
  unfold apply Document.set
  rw [Stage.segments_cellPath]
  show Keyed.get? name (Keyed.insert "items" _ row.members) = _
  rw [Keyed.get?_insert_of_ne hname]
  cases row <;> rfl

/-- **Labelling changes nothing outside of the items** of a row. -/
theorem Stage.exists_labelling_of_items {lookups : List LabelLookup} {rows shown : List Json} {t : Tenant}
    (h : (runAll (lookups.map .lookup) rows).answer t = .ok shown) :
    ∃ label : Json → Json, shown = rows.map label
      ∧ ∀ row name, name ≠ "items" → (label row).member? name = row.member? name := by
  induction lookups generalizing rows with
  | nil => exact ⟨id, by rw [List.map_id]; exact (Except.ok.inj h).symm, fun _ _ _ => rfl⟩
  | cons l lookups ih =>
    rw [answer_runAll_lookup_cons] at h
    obtain ⟨labels, -, hrest⟩ := exists_of_bind_eq_ok h
    obtain ⟨label, rfl, hlabel⟩ := ih hrest
    refine ⟨label ∘ l.apply labels, List.map_map, fun row name hname => ?_⟩
    exact (hlabel _ name hname).trans (l.member?_apply labels row hname)

/-- **A page of a listing report** holds a part of the rows in order, labelled one by one. -/
theorem PreparedQuery.exists_labelling_of_pageRows {p : PreparedQuery} {t : Tenant} {skip total : ℕ} {limit : Option ℕ}
    {shown : List Json} (hmode : p.report.mode.isGroup = false)
    (h : (p.pageRows skip limit).answer t = .ok (shown, total)) :
    ∃ label : Json → Json, shown = (Store.cut skip limit (p.ordered t)).map label
      ∧ ∀ row name, name ≠ "items" → (label row).member? name = row.member? name := by
  rw [answer_pageRows_of_listing hmode] at h
  obtain ⟨rows, hrows, h⟩ := exists_of_bind_eq_ok h
  obtain ⟨count, hcount, h⟩ := exists_of_bind_eq_ok h
  obtain ⟨labelled, hlabelled, h⟩ := exists_of_bind_eq_ok h
  obtain ⟨rfl, -⟩ := Prod.mk.inj (Except.ok.inj h)
  rw [answer_listedPart (count_eq_of_answer hcount).1] at hrows
  obtain rfl := Except.ok.inj hrows
  exact Stage.exists_labelling_of_items hlabelled

namespace Query

/-- Smaller items first. -/
def byItem : List SortKey := [.ascending "item_id"]

/-- Listed rows whose keys ask for no order are sorted by their items. -/
theorem sortFor_select {keys : List Key} (h : ∀ k ∈ keys, k.sort = none) :
    Presentation.sortFor (.select keys) = byItem := by
  have hnone : Presentation.sortOf keys = [] := List.filterMap_eq_nil_iff.2 fun k hk => by rw [h k hk]; rfl
  show Presentation.orElse (Presentation.sortOf keys) byItem = byItem
  rw [hnone]
  rfl

/-- Where nothing but the items is changed, the order of the items is the same. -/
theorem order_byItem_congr {label : Json → Json}
    (h : ∀ row name, name ≠ "items" → (label row).member? name = row.member? name) (a b : Json) :
    Document.order byItem (label a) (label b) = Document.order byItem a b := by
  have hitem : ∀ row, Document.get? "item_id" (label row) = Document.get? "item_id" row := fun row => by
    have hname : Document.IsName "item_id" := by decide
    rw [Document.get?_of_isName hname, Document.get?_of_isName hname, h row "item_id" (by decide)]
  simp only [byItem, SortKey.ascending, Document.order, hitem]

/-- **A page that lists chosen rows by their items**, showing each with labels. -/
structure ListsByItem (q : Query) (chosen : List Json) (label : Json → Json) (page : Page) : Prop where
  /-- Labels are nowhere but in the items. -/
  labels : ∀ row name, name ≠ "items" → (label row).member? name = row.member? name
  /-- The rows are sorted, cut and shown. -/
  rows : page.rows = (Store.cut q.page.1 q.page.2 (Document.sort byItem chosen)).map label
  /-- They are in the order of their items. -/
  pairwise : page.rows.Pairwise fun a b => (Document.order byItem a b).isLE
  /-- Those of one item are in the order in which they are stored. -/
  ties : ∀ row, (page.rows.filter fun r => Document.order byItem (label row) r == .eq).Sublist
    ((chosen.filter fun r => Document.order byItem row r == .eq).map label)

/-- Rows that are sorted, cut and shown are listed by their items. -/
theorem listsByItem_of_rows {q : Query} {chosen : List Json} {label : Json → Json} {page : Page}
    (hlabel : ∀ row name, name ≠ "items" → (label row).member? name = row.member? name)
    (hrows : page.rows = (Store.cut q.page.1 q.page.2 (Document.sort byItem chosen)).map label) :
    q.ListsByItem chosen label page where
  labels := hlabel
  rows := hrows
  pairwise := by
    have hsorted := (Document.stablySorted_sort byItem chosen).pairwise.sublist (Store.cut_sublist q.page.1 q.page.2 _)
    rw [hrows, List.pairwise_map]
    exact hsorted.imp fun hle => by rwa [order_byItem_congr hlabel]
  ties row := by
    rw [hrows, List.filter_map, ← (Document.stablySorted_sort byItem chosen).stable row]
    have hsame : (fun r => Document.order byItem (label row) r == .eq) ∘ label
        = fun r => Document.order byItem row r == .eq := by
      funext r
      exact congrArg (· == .eq) (order_byItem_congr hlabel row r)
    rw [hsame]
    exact ((Store.cut_sublist _ _ _).filter _).map label

/-- **A listing report that asks for no order** is listed by its items. -/
theorem exists_listsByItem {q : Query} {t : Tenant} {id : ReportId} {d : ReportDefinition} {keys : List Key}
    {page : Page} (hload : (Registry.load id).answer t = .ok d) (hmode : d.mode = .select keys)
    (hsort : ∀ k ∈ keys, k.sort = none) (hq : q.reportId = id.text) (hpage : q.run.answer t = .ok page) :
    ∃ compiled label, (q.compile d.appId).answer t = .ok compiled
      ∧ q.ListsByItem ((t.store.documents id.collection).filter compiled.predicate.holds) label page := by
  rw [answer_run] at hpage
  obtain ⟨p, hp, hpage⟩ := exists_of_bind_eq_ok hpage
  obtain ⟨⟨shown, total⟩, hshown, hpage⟩ := exists_of_bind_eq_ok hpage
  obtain rfl := Except.ok.inj hpage
  rw [answer_prepare, hq, ReportId.parse_text, bind_of_ok, hload, bind_of_ok] at hp
  obtain ⟨compiled, hcompiled, hp⟩ := exists_of_bind_eq_ok hp
  obtain rfl := Except.ok.inj hp
  have hlisting : d.mode.isGroup = false := by rw [hmode]; rfl
  obtain ⟨label, rfl, hlabel⟩ := PreparedQuery.exists_labelling_of_pageRows hlisting hshown
  refine ⟨compiled, label, hcompiled, listsByItem_of_rows hlabel ?_⟩
  have hbyItem : Presentation.sortFor d.mode = byItem := by
    rw [hmode]
    exact sortFor_select hsort
  rw [← hbyItem]
  rfl

end Query

/-- **Documents are sorted stably by a total preorder.** Values that may be missing are in a total preorder, and so are
documents under any keys in any directions. Sorting documents by the keys puts them in order, and those that are equal
stay in their order. A query for a listing report whose keys ask for no order is answered with the rows that it chooses
in the order of their items, those of one item in the order in which they are stored. -/
theorem Service.documents_stablySorted :
    TotalPreorder Json.order?
      ∧ (∀ keys, TotalPreorder (Document.order keys)
        ∧ ∀ documents, StablySorted (Document.order keys) documents (Document.sort keys documents))
      ∧ ∀ (s : Service) (q : Query) (id : ReportId) (d : ReportDefinition) (keys : List Key) (page : Page),
        (Registry.load id).answer s.tenant = .ok d → d.mode = .select keys → (∀ k ∈ keys, k.sort = none) →
        q.reportId = id.text → ((query q).run s).1 = .ok page →
        ∃ compiled label, (q.compile d.appId).answer s.tenant = .ok compiled
          ∧ q.ListsByItem ((s.tenant.store.documents id.collection).filter compiled.predicate.holds) label page := by
  refine ⟨totalPreorder_of_transCmp _, fun keys => ⟨totalPreorder_of_transCmp _, fun documents => ?_⟩, ?_⟩
  · exact Document.stablySorted_sort keys documents
  · intro s q id d keys page hload hmode hsort hq hpage
    exact Query.exists_listsByItem hload hmode hsort hq hpage

/-! ### A diary -/

/-- A report that lists the notes of a diary. -/
def diaryReport : ReportDefinition where
  appId := "house"
  datastoreId := "notes"
  mode := .select [.dynamic "note" .text]
  reportId := ⟨"diary", by decide⟩

/-- The row of a note on some day. -/
def noteOn (day note : String) : Json :=
  .object [("item_id", .string day),
    ("items", .object [("note", Stage.openCell .text (some (.string note)))]),
    ("owners", .ofStrings ["family"])]

/-- Three notes, the one of the later day first. -/
def notes : List Json := [noteOn "tuesday" "rain", noteOn "monday" "dawn", noteOn "monday" "dusk"]

/-- A service that holds the notes. -/
def diary : Service where
  tenant :=
    { store := { collections := [(diaryReport.reportId.collection, { documents := notes }),
        ("reports", { documents := [diaryReport.toJson] })] }
      clock := .epoch
      today := .epoch }

/-- The query for all notes. -/
def allNotes : Query := .all "diary" ["family"]

/-- The notes are sorted by their days, those of one day as they are stored. -/
theorem sort_notes : Document.sort Query.byItem notes
    = [noteOn "monday" "dawn", noteOn "monday" "dusk", noteOn "tuesday" "rain"] := by
  have hdays : (Document.order Query.byItem (noteOn "monday" "dawn") (noteOn "monday" "dusk")).isLE = true
      ∧ (Document.order Query.byItem (noteOn "tuesday" "rain") (noteOn "monday" "dawn")).isLE = false
      ∧ (Document.order Query.byItem (noteOn "tuesday" "rain") (noteOn "monday" "dusk")).isLE = false := by
    decide +kernel
  show notes.mergeSort (fun a b => (Document.order Query.byItem a b).isLE) = _
  simp [notes, List.mergeSort, hdays]

/-- What a row shows of a note: its day, and the note itself. -/
def noteShown (row : Json) : Option String × Option String :=
  ((Document.get? "item_id" row).bind Json.asString?, (Document.get? "items.note.value" row).bind Json.asString?)

/-- **The diary is answered day by day**, though the later day stands first in it. -/
theorem diary_listsByItem : ∃ page compiled label, ((Service.query allNotes).run diary).1 = .ok page
    ∧ page.rows.map noteShown
      = [(some "monday", some "dawn"), (some "monday", some "dusk"), (some "tuesday", some "rain")]
    ∧ allNotes.ListsByItem (notes.filter (CompiledFilter.predicate compiled).holds) label page := by
  have hprepared : (allNotes.prepare.answer diary.tenant).toOption.map
      (fun p => (p.report.mode.isGroup, p.collection, p.presentation.lookups, p.presentation.sort,
        notes.all p.predicate.holds))
      = some (false, diaryReport.reportId.collection, [], Query.byItem, true) := by
    decide +kernel
  obtain ⟨hloaded, hshown⟩ : ((Registry.load diaryReport.reportId).answer diary.tenant).toOption.map
        (fun d => d.mode) = some diaryReport.mode
      ∧ [noteOn "monday" "dawn", noteOn "monday" "dusk", noteOn "tuesday" "rain"].map noteShown
        = [(some "monday", some "dawn"), (some "monday", some "dusk"), (some "tuesday", some "rain")] := by
    decide +kernel
  obtain ⟨p, hp, hfacts⟩ := Option.map_eq_some_iff.1 hprepared
  obtain ⟨d, hd, hmode⟩ := Option.map_eq_some_iff.1 hloaded
  obtain ⟨hlisting, hcollection, hlookups, hsort, hall⟩ := by simpa only [Prod.mk.injEq] using hfacts
  have hchosen : p.chosen diary.tenant = notes := by
    unfold PreparedQuery.chosen
    rw [hcollection]
    exact List.filter_eq_self.2 (List.all_eq_true.1 hall)
  have hordered : p.ordered diary.tenant = Document.sort Query.byItem notes := by
    unfold PreparedQuery.ordered
    rw [hchosen, hsort]
  have hlabel : (p.label (Document.sort Query.byItem notes)).answer diary.tenant
      = .ok (Document.sort Query.byItem notes) := by
    unfold PreparedQuery.label Presentation.lookupStages
    rw [hlookups]
    rfl
  have hread : diary.tenant.store.unavailable.contains p.collection = false := by rw [hcollection]; rfl
  have hpage := PreparedQuery.answer_pageRows_of_label hlisting hread (hordered.symm ▸ hlabel)
  have hanswer := allNotes.answer_run diary.tenant
  rw [eq_ok_of_toOption hp, bind_of_ok, show allNotes.page = (0, none) from rfl, hpage, bind_of_ok] at hanswer
  rw [← Service.run_query] at hanswer
  obtain ⟨compiled, label, -, hlists⟩ := Service.documents_stablySorted.2.2 diary allNotes diaryReport.reportId d
    [.dynamic "note" .text] _ (eq_ok_of_toOption hd) hmode (by decide) rfl hanswer
  refine ⟨_, compiled, label, hanswer, ?_, hlists⟩
  rw [hordered, sort_notes]
  exact hshown

end Rollup
