import Rollup.Proofs.Paging

/-!
# Downloads stream what queries return

A download delivers the rows of a query in batches. A grouping report is presented once and cut into batches; a
listing report is read batch by batch, each of them sorted, cut and labelled anew. Both deliver full batches, the
last one apart, and end with the first failure (`Batches`). Where the query without pages succeeds, there is no
failure, and the batches hold its rows in its order (`Service.download_streams`).

The loop of a listing report goes on until a batch is not full. The engine bounds it by the number of documents;
`PreparedQuery.Fetching` is the loop without a bound, and counts its steps. The bound is never reached, and there
are no more steps than full batches and one.
-/

namespace Rollup

open TenantAction (Reads answer answer_bind)

/-- **Batches as they are delivered**: full ones, and at the end perhaps one that is smaller but not empty, or a
failure. -/
inductive Batches (size : ℕ) : List (Except ReportError (List Json)) → Prop where
  /-- There are no rows. -/
  | none : Batches size []
  /-- The last batch. -/
  | last {rows : List Json} (nonempty : rows ≠ []) (small : rows.length ≤ size) : Batches size [.ok rows]
  /-- A failure. -/
  | failed (e : ReportError) : Batches size [.error e]
  /-- A batch that is not the last one. -/
  | next {rows : List Json} {rest : List (Except ReportError (List Json))} (full : rows.length = size)
    (more : Batches size rest) : Batches size (.ok rows :: rest)

namespace PreparedQuery

variable {p : PreparedQuery} {size skip fuel : ℕ} {t u : Tenant}

/-! ## Batches of a grouping report -/

section Chunks

variable {α : Type} {xs : List α}

/-- **Chunks make up the list.** -/
theorem flatten_chunks (hsize : 0 < size) (hfuel : xs.length ≤ fuel) : (chunks size fuel xs).flatten = xs := by
  induction fuel generalizing xs with
  | zero => rw [List.length_eq_zero_iff.1 (Nat.le_zero.1 hfuel)]; rfl
  | succ fuel ih =>
    cases xs with
    | nil => rfl
    | cons x xs =>
      have hrest : ((x :: xs).drop size).length ≤ fuel := by
        rw [List.length_drop]
        simp only [List.length_cons] at hfuel ⊢
        omega
      show (x :: xs).take size ++ (chunks size fuel ((x :: xs).drop size)).flatten = x :: xs
      rw [ih hrest, List.take_append_drop]

/-- Of nothing there are no chunks. -/
theorem chunks_nil (size fuel : ℕ) : chunks size fuel ([] : List α) = [] := by
  cases fuel <;> rfl

/-- Chunks are batches. -/
theorem batches_chunks (size fuel : ℕ) (rows : List Json) :
    Batches size ((chunks size fuel rows).map .ok) := by
  induction fuel generalizing rows with
  | zero => exact .none
  | succ fuel ih =>
    cases rows with
    | nil => exact .none
    | cons row rows =>
      show Batches size (.ok ((row :: rows).take size) :: (chunks size fuel ((row :: rows).drop size)).map .ok)
      rcases Nat.le_total (row :: rows).length size with hlast | hmore
      · rw [List.drop_of_length_le hlast, chunks_nil, List.take_of_length_le hlast]
        exact .last (List.cons_ne_nil _ _) hlast
      · exact .next (List.length_take_of_le hmore) (ih _)

end Chunks

/-! ## Batches of a listing report -/

/-- **The loop that reads a listing report**, from some row on: how often it reads, what it delivers and what it
leaves. -/
inductive Fetching (p : PreparedQuery) (size : ℕ) :
    ℕ → Tenant → ℕ → List (Except ReportError (List Json)) → Tenant → Prop where
  /-- A failure ends it. -/
  | failed {skip : ℕ} {t u : Tenant} {e : ReportError}
    (fetched : (p.listedBatch size skip).run t = (.error e, u)) : Fetching p size skip t 1 [.error e] u
  /-- Nothing is left. -/
  | empty {skip : ℕ} {t u : Tenant} {rows : List Json}
    (fetched : (p.listedBatch size skip).run t = (.ok (0, rows), u)) : Fetching p size skip t 1 [] u
  /-- A batch that is not full is the last one. -/
  | last {skip read : ℕ} {t u : Tenant} {rows : List Json}
    (fetched : (p.listedBatch size skip).run t = (.ok (read, rows), u)) (some : read ≠ 0)
    (few : read < size) : Fetching p size skip t 1 [.ok rows] u
  /-- Behind a full batch it goes on. -/
  | next {skip read steps : ℕ} {t u v : Tenant} {rows : List Json}
    {rest : List (Except ReportError (List Json))}
    (fetched : (p.listedBatch size skip).run t = (.ok (read, rows), u)) (some : read ≠ 0)
    (full : ¬ read < size) (more : Fetching p size (skip + read) u steps rest v) :
    Fetching p size skip t (steps + 1) (.ok rows :: rest) v

/-- Labelling keeps the number of rows. -/
theorem length_of_label {rows shown : List Json} (h : (p.label rows).answer t = .ok shown) :
    shown.length = rows.length := by
  obtain ⟨f, rfl, -⟩ := Stage.exists_labelling h
  exact List.length_map f

/-- **What a batch answers.** -/
theorem answer_listedBatch (hread : t.store.unavailable.contains p.collection = false) (size skip : ℕ) :
    (p.listedBatch size skip).answer t = if (Store.cut skip (some size) (p.ordered t)).isEmpty then .ok (0, [])
      else ((p.label (Store.cut skip (some size) (p.ordered t))).answer t).bind fun shown =>
        .ok ((Store.cut skip (some size) (p.ordered t)).length, shown) := by
  unfold listedBatch
  rw [answer_bind (reads_listedPart (Set.mem_univ _) _ _) fun _ =>
    .ite (.pure _ _) ((reads_label everywhere p _).bind fun _ => .pure _ _), answer_listedPart hread, bind_of_ok]
  split
  · rfl
  · rw [answer_bind (reads_label everywhere p _) fun _ => .pure _ _]
    rfl

/-- What a batch answers where its rows can be labelled. -/
theorem answer_listedBatch_of_label (hread : t.store.unavailable.contains p.collection = false) {f : Json → Json}
    (hlabel : ∀ part, part ⊆ p.ordered t → (p.label part).answer t = .ok (part.map f)) (size skip : ℕ) :
    (p.listedBatch size skip).answer t = .ok ((((p.ordered t).drop skip).take size).length,
      (((p.ordered t).drop skip).take size).map f) := by
  rw [answer_listedBatch hread, hlabel _ (Store.cut_subset _ _ _)]
  split
  · next hempty =>
    have hnil : ((p.ordered t).drop skip).take size = [] := List.isEmpty_iff.1 hempty
    rw [hnil]
    rfl
  · rfl

/-- **A batch holds as many rows as were read for it**: a full batch, or what is left. -/
theorem length_of_listedBatch {read : ℕ} {rows : List Json}
    (h : (p.listedBatch size skip).answer t = .ok (read, rows)) :
    rows.length = read ∧ read = min size ((p.chosen t).length - skip) := by
  obtain ⟨found, hfound, -⟩ := exists_of_answer_bind (reads_listedPart (Set.mem_univ _) _ _)
    (fun _ => .ite (.pure _ _) ((reads_label everywhere p _).bind fun _ => .pure _ _)) h
  have hcut : (Store.cut skip (some size) (p.ordered t)).length
      = min size ((p.chosen t).length - skip) := by
    show ((List.drop skip _).take size).length = _
    rw [List.length_take, List.length_drop, length_ordered]
  rw [answer_listedBatch (available_of_read hfound)] at h
  split at h
  · next hempty =>
    obtain ⟨rfl, rfl⟩ := Prod.mk.inj (Except.ok.inj h)
    rw [List.isEmpty_iff.1 hempty] at hcut
    exact ⟨rfl, hcut⟩
  · obtain ⟨shown, hshown, h⟩ := exists_of_bind_eq_ok h
    obtain ⟨rfl, rfl⟩ := Prod.mk.inj (Except.ok.inj h)
    exact ⟨length_of_label hshown, hcut⟩

/-- What a batch leaves can be read as before. -/
theorem readable_of_listedBatch {result : Except ReportError (ℕ × List Json)}
    (h : (p.listedBatch size skip).run t = (result, u)) : u.readable = t.readable := by
  have hkept := (reads_listedBatch everywhere (Set.mem_univ p.collection) size skip).keeps t
  rwa [h] at hkept

/-- What a query chooses depends on what can be read. -/
theorem chosen_of_readable (p : PreparedQuery) (h : u.readable = t.readable) : p.chosen u = p.chosen t := by
  unfold chosen
  rw [(Tenant.AgreeOn.of_readable h .univ).documents p.collection (Set.mem_univ _)]

/-- So does what it lists. -/
theorem ordered_of_readable (p : PreparedQuery) (h : u.readable = t.readable) :
    p.ordered u = p.ordered t := by
  unfold ordered
  rw [chosen_of_readable p h]

namespace Fetching

variable {steps : ℕ} {delivered : List (Except ReportError (List Json))}

/-- **The loop delivers batches.** -/
theorem batches (h : Fetching p size skip t steps delivered u) : Batches size delivered := by
  induction h with
  | failed fetched => exact .failed _
  | empty fetched => exact .none
  | last fetched some few =>
    obtain ⟨hlength, -⟩ := length_of_listedBatch (congrArg Prod.fst fetched)
    refine .last (fun hnil => some ?_) (hlength ▸ few.le)
    rw [← hlength, hnil]
    rfl
  | next fetched some full more ih =>
    obtain ⟨hlength, hread⟩ := length_of_listedBatch (congrArg Prod.fst fetched)
    exact .next (hlength.trans (le_antisymm (hread.trans_le (min_le_left _ _)) (not_lt.1 full))) ih

/-- **The loop delivers the rows that are left**, labelled as all of them are. -/
theorem flatten (hsize : 0 < size) (h : Fetching p size skip t steps delivered u)
    (hread : t.store.unavailable.contains p.collection = false) {f : Json → Json}
    (hlabel : ∀ part, part ⊆ p.ordered t → (p.label part).answer t = .ok (part.map f)) :
    ∃ parts : List (List Json), delivered = parts.map .ok
      ∧ parts.flatten = ((p.ordered t).drop skip).map f := by
  induction h with
  | failed fetched =>
    exact absurd ((congrArg Prod.fst fetched).symm.trans (answer_listedBatch_of_label hread hlabel _ _)) nofun
  | @empty skip t u rows fetched =>
    have hbatch := Except.ok.inj
      ((congrArg Prod.fst fetched).symm.trans (answer_listedBatch_of_label hread hlabel _ _))
    have hlength := (Prod.mk.inj hbatch).1
    rw [List.length_take] at hlength
    have hnone : (p.ordered t).drop skip = [] := List.length_eq_zero_iff.1 (by omega)
    exact ⟨[], rfl, by rw [hnone]; rfl⟩
  | @last skip read t u rows fetched some few =>
    have hbatch := Except.ok.inj
      ((congrArg Prod.fst fetched).symm.trans (answer_listedBatch_of_label hread hlabel _ _))
    obtain ⟨hlength, hrows⟩ := Prod.mk.inj hbatch
    rw [List.length_take] at hlength
    rw [List.take_of_length_le (by omega)] at hrows
    exact ⟨[rows], rfl, by rw [List.flatten_singleton, hrows]⟩
  | @next skip read steps t u v rows rest fetched some full more ih =>
    have hbatch := Except.ok.inj
      ((congrArg Prod.fst fetched).symm.trans (answer_listedBatch_of_label hread hlabel _ _))
    obtain ⟨hlength, hrows⟩ := Prod.mk.inj hbatch
    rw [List.length_take] at hlength
    have hread' : read = size := by omega
    have hkept := readable_of_listedBatch fetched
    have hagree := Tenant.AgreeOn.of_readable hkept .univ
    obtain ⟨parts, rfl, hparts⟩ := ih (hagree.unavailable ▸ hread) fun part hpart => by
      rw [(reads_label everywhere p part).agrees u t hagree]
      exact hlabel part (ordered_of_readable p hkept ▸ hpart)
    refine ⟨rows :: parts, rfl, ?_⟩
    rw [List.flatten_cons, hparts, ordered_of_readable p hkept, hrows, hread', ← List.drop_drop, ← List.map_append,
      List.take_append_drop]

end Fetching

/-- **The bound on the loop is not reached**, and there are no more steps than full batches and one. -/
theorem exists_fetching (hsize : 0 < size) (hskip : skip ≤ (p.chosen t).length)
    (hfuel : (p.chosen t).length < skip + fuel) :
    ∃ steps delivered u, (p.listedBatches size fuel skip).run t = (.ok delivered, u)
      ∧ Fetching p size skip t steps delivered u ∧ steps ≤ ((p.chosen t).length - skip) / size + 1 := by
  induction fuel generalizing skip t with
  | zero => exact absurd hfuel (not_lt.2 hskip)
  | succ fuel ih =>
    rw [listedBatches_succ, run_bind, TenantAction.run_outcome]
    cases hbatch : (p.listedBatch size skip).run t with
    | mk result u =>
      cases result with
      | error e => exact ⟨1, [.error e], u, rfl, .failed hbatch, Nat.le_add_left _ _⟩
      | ok batch =>
        obtain ⟨read, rows⟩ := batch
        obtain ⟨-, hcount⟩ := length_of_listedBatch (congrArg Prod.fst hbatch)
        show ∃ steps delivered u', (afterBatch p size fuel skip (.ok (read, rows))).run u = (.ok delivered, u')
          ∧ _ ∧ _
        unfold afterBatch
        dsimp only
        by_cases hnone : read = 0
        · subst hnone
          exact ⟨1, [], u, rfl, .empty hbatch, Nat.le_add_left _ _⟩
        · rw [if_neg hnone]
          by_cases hfew : read < size
          · rw [if_pos hfew]
            exact ⟨1, [.ok rows], u, rfl, .last hbatch hnone hfew, Nat.le_add_left _ _⟩
          · rw [if_neg hfew]
            have hfull : read = size := le_antisymm (hcount.trans_le (min_le_left _ _)) (not_lt.1 hfew)
            have hleft : size ≤ (p.chosen t).length - skip :=
              (hfull.symm.trans hcount).trans_le (min_le_right _ _)
            have hchosen : (p.chosen u).length = (p.chosen t).length := by
              rw [chosen_of_readable p (readable_of_listedBatch hbatch)]
            obtain ⟨steps, rest, v, hrest, hmore, hsteps⟩ :=
              @ih (skip + size) u (by omega) (by omega)
            refine ⟨steps + 1, .ok rows :: rest, v, ?_, .next hbatch hnone hfew (hfull ▸ hmore), ?_⟩
            · rw [run_bind, hrest]
              rfl
            · rw [hchosen, Nat.sub_add_eq] at hsteps
              have hdivided : ((p.chosen t).length - skip) / size
                  = ((p.chosen t).length - skip - size) / size + 1 := Nat.div_eq_sub_div hsize hleft
              omega

/-! ## All batches -/

/-- The size of batches for a tenant: zero counts as one. -/
def batchSize (t : Tenant) : ℕ := max t.config.downloadBatchSize.toNat 1

/-- Batches are not empty. -/
theorem batchSize_pos (t : Tenant) : 0 < batchSize t := Nat.le_max_right _ _

/-- The batches of a listing report are what the loop delivers. -/
theorem run_batches_of_listing (h : p.report.mode.isGroup = false) (t : Tenant) : p.batches.run t
    = (p.listedBatches (batchSize t) ((t.store.documents p.collection).length + 1) 0).run t := by
  unfold batches
  rw [TenantAction.run_get_bind]
  dsimp only
  rw [h, if_neg Bool.false_ne_true]
  rfl

/-- The batches of a grouping report are its rows in chunks. -/
theorem run_batches_of_isGroup (h : p.report.mode.isGroup = true) (t : Tenant) : p.batches.run t
    = (.ok (match p.groupedRows.answer t with
      | .error e => [.error e]
      | .ok rows => (chunks (batchSize t) rows.length rows).map .ok), (p.groupedRows.run t).2) := by
  unfold batches
  rw [TenantAction.run_get_bind]
  dsimp only
  rw [h, if_pos rfl]
  unfold groupedBatches
  rw [run_bind, TenantAction.run_outcome]
  show (match p.groupedRows.answer t with
    | .error e => return [.error e]
    | .ok rows => return (chunks (batchSize t) rows.length rows).map .ok :
      TenantAction (List (Except ReportError (List Json)))).run (p.groupedRows.run t).2 = _
  cases p.groupedRows.answer t <;> rfl

/-- **A download does not fail as a whole** once it is prepared: a failure is delivered. -/
theorem exists_run_batches (p : PreparedQuery) (t : Tenant) :
    ∃ delivered u, p.batches.run t = (.ok delivered, u) := by
  cases hmode : p.report.mode.isGroup with
  | false =>
    have hchosen : (p.chosen t).length ≤ (t.store.documents p.collection).length := List.length_filter_le _ _
    obtain ⟨steps, delivered, u, hrun, -, -⟩ :=
      @exists_fetching p _ 0 ((t.store.documents p.collection).length + 1) t (batchSize_pos t)
        (Nat.zero_le _) (by omega)
    exact ⟨delivered, u, (run_batches_of_listing hmode t).trans hrun⟩
  | true => exact ⟨_, _, run_batches_of_isGroup hmode t⟩

section Delivered

variable {delivered : List (Except ReportError (List Json))}

/-- **The loop of a listing report** delivers the batches. -/
theorem exists_fetching_of_run (h : p.batches.run t = (.ok delivered, u)) (hmode : p.report.mode.isGroup = false) :
    ∃ steps, Fetching p (batchSize t) 0 t steps delivered u
      ∧ steps ≤ (p.chosen t).length / batchSize t + 1 := by
  have hchosen : (p.chosen t).length ≤ (t.store.documents p.collection).length := List.length_filter_le _ _
  obtain ⟨steps, delivered', u', hrun, hfetching, hsteps⟩ :=
    @exists_fetching p _ 0 ((t.store.documents p.collection).length + 1) t (batchSize_pos t) (Nat.zero_le _)
      (by omega)
  rw [run_batches_of_listing hmode, hrun] at h
  obtain ⟨hdelivered, rfl⟩ := Prod.mk.inj h
  obtain rfl := Except.ok.inj hdelivered
  exact ⟨steps, hfetching, hsteps⟩

/-- **Batches are delivered.** -/
theorem batches_of_run (h : p.batches.run t = (.ok delivered, u)) : Batches (batchSize t) delivered := by
  cases hmode : p.report.mode.isGroup with
  | false =>
    obtain ⟨steps, hfetching, -⟩ := exists_fetching_of_run h hmode
    exact hfetching.batches
  | true =>
    rw [run_batches_of_isGroup hmode] at h
    obtain rfl := Except.ok.inj (Prod.mk.inj h).1
    cases p.groupedRows.answer t with
    | error e => exact .failed e
    | ok rows => exact batches_chunks _ _ _

/-- **Where all rows can be shown, they are delivered.** -/
theorem flatten_of_run (h : p.batches.run t = (.ok delivered, u)) {shown : List Json} {total : ℕ}
    (hshown : (p.pageRows 0 none).answer t = .ok (shown, total)) :
    ∃ parts : List (List Json), delivered = parts.map .ok ∧ parts.flatten = shown := by
  cases hmode : p.report.mode.isGroup with
  | false =>
    obtain ⟨steps, hfetching, -⟩ := exists_fetching_of_run h hmode
    obtain ⟨hread, -, f, rfl, hlabel⟩ := exists_labelling_of_all hmode hshown
    exact hfetching.flatten (batchSize_pos t) hread hlabel
  | true =>
    rw [answer_pageRows_of_isGroup hmode] at hshown
    obtain ⟨rows, hrows, hshown⟩ := exists_of_bind_eq_ok hshown
    rw [Store.cut_all] at hshown
    obtain ⟨rfl, rfl⟩ := Prod.mk.inj (Except.ok.inj hshown)
    rw [run_batches_of_isGroup hmode, hrows] at h
    exact ⟨_, (Except.ok.inj (Prod.mk.inj h).1).symm, flatten_chunks (batchSize_pos t) le_rfl⟩

end Delivered

end PreparedQuery

/-! ## Downloads -/

namespace Query

/-- A query that is not refused is prepared as if refusals were not counted. -/
theorem run_countRefusal_of_ok {α : Type} {a : TenantAction α} {x : α} {t u : Tenant} (h : a.run t = (.ok x, u)) :
    (countRefusal a).run t = (.ok x, u) := by
  unfold countRefusal
  rw [run_bind, TenantAction.run_outcome, h]
  rfl

/-- **A download that begins** delivers the batches of a query that was prepared. -/
theorem exists_of_run_download {q : Query} {t v : Tenant} {d : Download} (h : q.download.run t = (.ok d, v)) :
    ∃ p u, q.prepare.run t = (.ok p, u) ∧ p.batches.run u = (.ok d.batches, v) := by
  have hanswer : q.download.answer t = .ok d := congrArg Prod.fst h
  rw [answer_download] at hanswer
  obtain ⟨p, hp, -⟩ := exists_of_bind_eq_ok hanswer
  have hprepare : q.prepare.run t = (.ok p, (q.prepare.run t).2) := Prod.ext hp rfl
  refine ⟨p, _, hprepare, ?_⟩
  unfold download at h
  rw [run_bind, run_countRefusal_of_ok hprepare] at h
  replace h : (do return ({ fieldInfos := p.presentation.fieldInfos, batches := ← p.batches } : Download) :
    TenantAction Download).run (q.prepare.run t).2 = (.ok d, v) := h
  rw [run_bind] at h
  cases hbatches : p.batches.run (q.prepare.run t).2 with
  | mk result w =>
    rw [hbatches] at h
    cases result with
    | error e => exact absurd (Prod.mk.inj h).1 nofun
    | ok delivered =>
      obtain ⟨hd, rfl⟩ := Prod.mk.inj h
      obtain rfl := Except.ok.inj hd
      rfl

/-- **A query that can be prepared** can be downloaded. -/
theorem exists_download_of_prepare {q : Query} {t : Tenant} {p : PreparedQuery} (h : q.prepare.answer t = .ok p) :
    ∃ d, q.download.answer t = .ok d := by
  obtain ⟨delivered, u, hrun⟩ := p.exists_run_batches t
  have hdelivered : p.batches.answer t = .ok delivered := congrArg Prod.fst hrun
  rw [answer_download, h, bind_of_ok, hdelivered]
  exact ⟨_, rfl⟩

/-- Preparing a query leaves what can be read. -/
theorem readable_of_prepare {q : Query} {t u : Tenant} {p : PreparedQuery} (h : q.prepare.run t = (.ok p, u)) :
    u.readable = t.readable := by
  have hkept := (reads_prepare everywhere (Set.mem_univ _) q).keeps t
  rwa [h] at hkept

/-- What a query without pages returns is shown behind preparing it. -/
theorem answer_pageRows_of_run {q : Query} {t u : Tenant} {p : PreparedQuery}
    (hprepare : q.prepare.run t = (.ok p, u)) {all : Page} (h : q.unpaged.run.answer t = .ok all) :
    (p.pageRows 0 none).answer u = .ok (all.rows, all.total) := by
  rw [answer_run] at h
  obtain ⟨p', hp', h⟩ := exists_of_bind_eq_ok h
  obtain ⟨⟨shown, total⟩, hshown, h⟩ := exists_of_bind_eq_ok h
  obtain rfl := Except.ok.inj h
  obtain rfl : p' = p := Except.ok.inj (hp'.symm.trans (congrArg Prod.fst hprepare))
  rw [(PreparedQuery.reads_pageRows everywhere (Set.mem_univ _) _ _).agrees u t
    (.of_readable (readable_of_prepare hprepare) _)]
  exact hshown

end Query

namespace Service

open PreparedQuery (batchSize Fetching)

/-- **What a download has to do with the query without pages.** -/
structure Streams (s : Service) (q : Query) (d : Download) : Prop where
  /-- It delivers batches. -/
  batches : Batches (batchSize s.tenant) d.batches
  /-- Where the query succeeds, none of them is a failure, and they hold its rows in its order. -/
  rows : ∀ {all}, ((query q.unpaged).run s).1 = .ok all →
    ∃ parts : List (List Json), d.batches = parts.map .ok ∧ parts.flatten = all.rows
  /-- A listing report is read in a loop that ends behind as many steps as there are full batches, and one. -/
  fetching : ∀ {p t}, q.prepare.run s.tenant = (.ok p, t) → p.report.mode.isGroup = false →
    ∃ steps, Fetching p (batchSize s.tenant) 0 t steps d.batches ((download q).run s).2.tenant
      ∧ steps ≤ (p.chosen t).length / batchSize s.tenant + 1
  /-- There are as many rows to read as the query tells. -/
  total : ∀ {p t all}, q.prepare.run s.tenant = (.ok p, t) → p.report.mode.isGroup = false →
    ((query q.unpaged).run s).1 = .ok all → all.total = (p.chosen t).length

/-- **A download streams exactly what the query without pages returns**, whatever the page of the query. -/
theorem download_streams {s : Service} {q : Query} {d : Download} (h : ((download q).run s).1 = .ok d) :
    s.Streams q d := by
  have hrun : q.download.run s.tenant = (.ok d, (q.download.run s.tenant).2) := Prod.ext h rfl
  obtain ⟨p, u, hprepare, hdelivered⟩ := Query.exists_of_run_download hrun
  have hsize : batchSize u = batchSize s.tenant := by
    unfold batchSize
    rw [(Tenant.AgreeOn.of_readable (Query.readable_of_prepare hprepare) .univ).config]
  have hunique : ∀ {p' t}, q.prepare.run s.tenant = (.ok p', t) → p' = p ∧ t = u := by
    intro p' t h'
    obtain ⟨hp, rfl⟩ := Prod.mk.inj (h'.symm.trans hprepare)
    exact ⟨Except.ok.inj hp, rfl⟩
  constructor
  case batches =>
    exact hsize ▸ PreparedQuery.batches_of_run hdelivered
  case rows =>
    intro all hall
    exact PreparedQuery.flatten_of_run hdelivered (Query.answer_pageRows_of_run hprepare hall)
  case fetching =>
    intro p' t hprepare' hmode
    obtain ⟨rfl, rfl⟩ := hunique hprepare'
    exact hsize ▸ PreparedQuery.exists_fetching_of_run hdelivered hmode
  case total =>
    intro p' t all hprepare' hmode hall
    obtain ⟨rfl, rfl⟩ := hunique hprepare'
    exact (PreparedQuery.exists_labelling_of_all hmode
      (Query.answer_pageRows_of_run hprepare hall)).2.1

end Service

/-- **The guest book is delivered**, two visits at a time. -/
theorem guestBook_streams : PreparedQuery.batchSize guestBook.tenant = 2
    ∧ ∃ d, ((Service.download allVisits).run guestBook).1 = .ok d ∧ guestBook.Streams allVisits d := by
  obtain ⟨p, hp, -⟩ := guestBook_prepared
  obtain ⟨d, hd⟩ := Query.exists_download_of_prepare hp
  rw [← Service.run_download] at hd
  exact ⟨by decide, d, hd, Service.download_streams hd⟩

end Rollup
