import Rollup.Proofs.IndexChoice

/-!
# What a predicate can see

Filters are pushed down, and indexes are chosen, by the paths of a predicate alone: `Predicate.paths` for
what it reads, `Predicate.equalityPaths` for what it fixes. Three recursions over the tree have to fit
together for that, matching and the two collections of paths. Matching depends on nothing but the values at
the paths that are read; what is fixed is read; and a document that matches holds something at every path
that is fixed, so that an index over these paths leaves no match out.

Parts of a disjunction are read but fix nothing, and that is why the last statement holds: a disjunction
matches through one part, and says nothing of the values that the others ask for.
-/

namespace Rollup

namespace Document

/-- **Documents agree on paths** when they hold the same there. -/
def AgreeOn (paths : List String) (document other : Json) : Prop :=
  ∀ path ∈ paths, get? path document = get? path other

/-- **Something is there** at a path, and it is not `null`. -/
def HoldsAt (path : String) (document : Json) : Prop :=
  ∃ value, get? path document = some value ∧ value ≠ .null

/-- Agreeing on more paths is agreeing on fewer. -/
theorem AgreeOn.mono {paths fewer : List String} {document other : Json}
    (h : AgreeOn paths document other) (hfewer : fewer ⊆ paths) : AgreeOn fewer document other :=
  fun path hpath => h path (hfewer hpath)

/-- **What passes a test is there**, if nothing missing and no `null` passes it. -/
theorem HoldsAt.of_test {test : Option Json → Bool} (hmissing : test none = false) (hnull : test (some .null) = false)
    {path : String} {document : Json} (h : test (get? path document) = true) : HoldsAt path document := by
  cases hget : get? path document with
  | none =>
    rw [hget, hmissing] at h
    cases h
  | some value =>
    refine ⟨value, hget, ?_⟩
    rintro rfl
    rw [hget, hnull] at h
    cases h

end Document

namespace Predicate

open Document (AgreeOn HoldsAt)

/-! ## Matching and reading -/

section Reading

variable {document other : Json}

mutual

/-- **Documents that agree on what is read match alike.** -/
theorem holds_congr : ∀ (p : Predicate), AgreeOn p.reads document other →
    p.holds document = p.holds other
  | .everything, _ => rfl
  | .and parts, h => holdsAll_congr parts h
  | .or parts, h => holdsAny_congr parts h
  | .compare path comparison operand, h => by
    rw [holds, holds, h path (List.mem_singleton_self path)]
  | .among path values, h => by rw [holds, holds, h path (List.mem_singleton_self path)]
  | .contains path part, h => by rw [holds, holds, h path (List.mem_singleton_self path)]
  | .filled path expected, h => by rw [holds, holds, h path (List.mem_singleton_self path)]

/-- Documents that agree on what the parts read match all of them alike. -/
theorem holdsAll_congr : ∀ (parts : List Predicate), AgreeOn (readsAll parts) document other →
    holdsAll document parts = holdsAll other parts
  | [], _ => rfl
  | p :: rest, h => by
    have hfirst : AgreeOn p.reads document other := h.mono (List.subset_append_left _ _)
    have hrest : AgreeOn (readsAll rest) document other := h.mono (List.subset_append_right _ _)
    rw [holdsAll, holdsAll, holds_congr p hfirst, holdsAll_congr rest hrest]

/-- Documents that agree on what the parts read match one of them alike. -/
theorem holdsAny_congr : ∀ (parts : List Predicate), AgreeOn (readsAll parts) document other →
    holdsAny document parts = holdsAny other parts
  | [], _ => rfl
  | p :: rest, h => by
    have hfirst : AgreeOn p.reads document other := h.mono (List.subset_append_left _ _)
    have hrest : AgreeOn (readsAll rest) document other := h.mono (List.subset_append_right _ _)
    rw [holdsAny, holdsAny, holds_congr p hfirst, holdsAny_congr rest hrest]

end

end Reading

/-! ## Fixing -/

mutual

/-- **What is fixed is read.** -/
theorem fixes_subset_reads : ∀ (p : Predicate), p.fixes ⊆ p.reads
  | .everything | .or _ | .contains _ _ | .filled _ _ => List.nil_subset _
  | .and parts => fixesAll_subset_readsAll parts
  | .compare _ .eq _ | .among _ _ => List.Subset.refl _
  | .compare _ .ne _ | .compare _ .gt _ | .compare _ .ge _ | .compare _ .lt _ | .compare _ .le _ =>
    List.nil_subset _

/-- What the parts fix they read. -/
theorem fixesAll_subset_readsAll : ∀ (parts : List Predicate), fixesAll parts ⊆ readsAll parts
  | [] => List.nil_subset _
  | p :: rest =>
    List.append_subset.2
      ⟨List.Subset.trans (fixes_subset_reads p) (List.subset_append_left _ _),
        List.Subset.trans (fixesAll_subset_readsAll rest) (List.subset_append_right _ _)⟩

end

mutual

/-- **A match holds something at every path that is fixed.** -/
theorem holdsAt_of_mem_fixes {document : Json} {path : String} : ∀ (p : Predicate),
    p.holds document = true → path ∈ p.fixes → HoldsAt path document
  | .and parts, h, hpath => holdsAt_of_mem_fixesAll parts h hpath
  | .compare _ .eq operand, h, hpath => by
    rw [List.mem_singleton.1 hpath]
    exact .of_test (rfl : Comparison.holdsField .eq operand none = false) rfl h
  | .among _ values, h, hpath => by
    rw [List.mem_singleton.1 hpath]
    exact .of_test (rfl : fieldIsAmong values none = false) rfl h
  | .everything, _, hpath | .or _, _, hpath | .contains _ _, _, hpath | .filled _ _, _, hpath
  | .compare _ .ne _, _, hpath | .compare _ .gt _, _, hpath | .compare _ .ge _, _, hpath
  | .compare _ .lt _, _, hpath | .compare _ .le _, _, hpath => absurd hpath List.not_mem_nil

/-- What matches all parts holds something at every path that one of them fixes. -/
theorem holdsAt_of_mem_fixesAll {document : Json} {path : String} : ∀ (parts : List Predicate),
    holdsAll document parts = true → path ∈ fixesAll parts → HoldsAt path document
  | [], _, hpath => absurd hpath List.not_mem_nil
  | p :: rest, h, hpath => by
    have hboth : p.holds document = true ∧ holdsAll document rest = true := Bool.and_eq_true_iff.1 h
    rcases List.mem_append.1 hpath with hfirst | hrest
    · exact holdsAt_of_mem_fixes p hboth.1 hfirst
    · exact holdsAt_of_mem_fixesAll rest hboth.2 hrest

end

/-- **A predicate sees only the paths it reports.** -/
structure SeesItsPaths (p : Predicate) : Prop where
  /-- Documents that agree on the reported paths match alike. -/
  holds_congr : ∀ document other, AgreeOn p.paths document other → p.holds document = p.holds other
  /-- No path is reported twice. -/
  nodup_paths : p.paths.Nodup
  /-- What is fixed is reported. -/
  equalityPaths_subset : p.equalityPaths ⊆ p.paths
  /-- A match holds something, and not `null`, at every path that is fixed. -/
  holdsAt : ∀ document, p.holds document = true →
    ∀ path ∈ p.equalityPaths, HoldsAt path document

/-- **Every predicate does**, however its conjunctions and disjunctions are nested. -/
theorem seesItsPaths (p : Predicate) : p.SeesItsPaths where
  holds_congr _ _ h := p.holds_congr fun path hpath => h path (List.mem_eraseDups.2 hpath)
  nodup_paths := nodup_eraseDups p.reads
  equalityPaths_subset _ h :=
    List.mem_eraseDups.2 (p.fixes_subset_reads (List.mem_eraseDups.1 h))
  holdsAt _ h _ hpath := holdsAt_of_mem_fixes p h (List.mem_eraseDups.1 hpath)

end Predicate

end Rollup
