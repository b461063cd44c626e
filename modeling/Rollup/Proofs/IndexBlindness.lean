import Rollup.Proofs.Paging

/-!
# Indexes never change answers

Every query makes sure of an index first, and every read counts an access on the index that serves it. So two
services with the same documents may come apart in what indexes they have: one creates what another drops for its
budget, refuses for its limit, or fails to create at all. None of that comes back in an answer
(`Service.answersLike_asked`): whatever was asked before, here and there, the next question is answered alike, be
it with rows or with a failure.

Nothing has to be said about indexes for that. The two services stay alike (`Service.alike_asked`), being alike is
blind to indexes, and what a query answers depends on nothing that being alike leaves open.
-/

namespace Rollup

namespace Service

/-- **Two services answer alike**: they show the same pages, count the same rows and deliver the same downloads,
and where one of them fails the other fails for the same reason. -/
structure AnswersLike (s u : Service) : Prop where
  /-- The same pages. -/
  query : ∀ q, ((query q).run s).1 = ((query q).run u).1
  /-- The same numbers of rows. -/
  count : ∀ reportId owners, ((count reportId owners).run s).1 = ((count reportId owners).run u).1
  /-- The same downloads. -/
  download : ∀ q, ((download q).run s).1 = ((download q).run u).1

variable {s u : Service}

/-- Services whose tenants are alike answer alike. -/
theorem answersLike_of_alike (h : s.tenant.Alike .univ u.tenant) : s.AnswersLike u where
  query q := (Query.reads_run q).alike _ _ h
  count reportId owners := (Query.reads_count reportId owners).alike _ _ h
  download q := (Query.reads_download q).alike _ _ h

/-- **Services stay alike**, whatever the one and the other are asked. -/
theorem alike_asked (h : s.tenant.Alike .univ u.tenant) (questions others : List Question) :
    (s.asked questions).tenant.Alike .univ (u.asked others).tenant := by
  have hleft := Tenant.AgreeOn.of_readable (readable_asked questions s) .univ
  have hright := Tenant.AgreeOn.of_readable (readable_asked others u) .univ
  exact hleft.alike.trans (h.trans hright.alike.symm)

/-- **Indexes never change answers.** Services that hold the same documents and cannot reach the same collections
answer alike, however they differ in indexes, counters and limits on indexes, and whatever each of them was asked
before. So a service goes on to answer as it did before it was asked. -/
theorem answersLike_asked (h : s.tenant.Alike .univ u.tenant) (questions others : List Question) :
    (s.asked questions).AnswersLike (u.asked others) ∧ (s.asked questions).AnswersLike s :=
  ⟨answersLike_of_alike (alike_asked h questions others),
    answersLike_of_alike (alike_asked (.refl _ _) questions [])⟩

end Service

/-! ### A guest book with indexes -/

/-- The guest book with an index of its own, and with room for no other one. -/
def indexedBook : Service where
  tenant := { guestBook.tenant with
    store := {
      collections := [(guestsReport.reportId.collection,
          { documents := visits, indexes := [("items.guest_1", ⟨.ascending ["items.guest"], 7⟩)] }),
        ("reports", { documents := [guestsReport.toJson] }),
        ("users", { documents := [userNamed "u1" "Ada", userNamed "u2" "Bela"] })]
      indexLimit := 1 }
    config := { downloadBatchSize := 2, indexBudget := 2, maxIndexKeys := 3 } }

/-- The indexes that a guest book has for its rows. -/
def indexNames (s : Service) : List String :=
  (s.tenant.store.collection guestsReport.reportId.collection).indexes.map Prod.fst

/-- **Guest books answer alike**, though a question makes the one create an index, and the other fail to. -/
theorem guestBook_answersLike_indexedBook :
    let questions := [Service.Question.count "guests" ["family"]]
    indexNames (guestBook.asked questions) = ["owners_1_item_id_1"]
      ∧ indexNames (indexedBook.asked questions) = ["items.guest_1"]
      ∧ (indexedBook.asked questions).tenant.metrics.indexFailures = 1
      ∧ (guestBook.asked questions).AnswersLike (indexedBook.asked questions)
      ∧ (guestBook.asked questions).AnswersLike guestBook := by
  have halike : guestBook.tenant.Alike .univ indexedBook.tenant := by
    refine ⟨rfl, rfl, rfl, fun _ => rfl, fun name _ => ?_⟩
    unfold Store.documents Store.collection guestBook indexedBook
    simp only [Keyed.get?]
    split_ifs <;> rfl
  refine ⟨?_, ?_, ?_, Service.answersLike_asked halike _ _⟩
  · decide +kernel
  · decide +kernel
  · decide +kernel

end Rollup
