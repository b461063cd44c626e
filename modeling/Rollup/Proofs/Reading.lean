import Mathlib.Data.Set.Basic
import Rollup.Index.Budget
import Rollup.Tenant

/-!
# Actions that only read

Most of what the engine does reads documents and writes none: it counts accesses to indexes and keeps other
counters, but those never come back in an answer. Such an action **reads** some collections when it leaves
the documents of every collection as they are and counts no run of materialization, and when its outcome is the same
for all tenants that agree on these collections, on the settings and on the clocks (`TenantAction.Reads`). Limits on indexes are left out
of the settings there: like indexes and their counters they never come back in an answer (`Tenant.Alike`).

Reading is closed under everything that actions are made of, so that it is shown of an action part by part.
It makes actions functions again: the outcome of reading actions that follow each other is that of the
first, handed to the second on the very same tenant (`TenantAction.answer_bind`).
-/

namespace Rollup

/-- **Actions follow each other** as long as they succeed, each from where the one before left off. -/
theorem run_bind {σ ε α β : Type} (a : ExceptT ε (StateM σ) α) (f : α → ExceptT ε (StateM σ) β)
    (s : σ) : (a >>= f).run s = match a.run s with
      | (.ok x, s') => (f x).run s'
      | (.error e, s') => (.error e, s') := by
  show (match a.run s with | (r, s') => ExceptT.bindCont f r s') = _
  rcases a.run s with ⟨r, s'⟩
  cases r <;> rfl

/-- Actions that followed each other and succeeded, both succeeded. -/
theorem exists_of_run_bind {σ ε α β : Type} {a : ExceptT ε (StateM σ) α} {f : α → ExceptT ε (StateM σ) β} {s s' : σ}
    {b : β} (h : (a >>= f).run s = (.ok b, s')) : ∃ x u, a.run s = (.ok x, u) ∧ (f x).run u = (.ok b, s') := by
  rw [run_bind] at h
  generalize a.run s = ran at h ⊢
  obtain ⟨e | x, u⟩ := ran
  · exact absurd (congrArg Prod.fst h) nofun
  · exact ⟨x, u, rfl, h⟩

/-- A result goes on. -/
@[simp] theorem bind_of_ok {ε α β : Type} (x : α) (f : α → Except ε β) :
    (Except.ok x).bind f = f x := rfl

/-- A failure stays. -/
@[simp] theorem bind_of_error {ε α β : Type} (e : ε) (f : α → Except ε β) :
    (Except.error e).bind f = .error e := rfl

section Keeping

variable {σ ε V α β : Type} {view : σ → V}

/-- **An action that leaves a part of the state as it is**, also when it fails. -/
def Keeps (view : σ → V) (a : ExceptT ε (StateM σ) α) : Prop :=
  ∀ s : σ, view (a.run s).2 = view s

namespace Keeps

/-- Doing nothing keeps everything. -/
theorem pure (view : σ → V) (x : α) : Keeps view (Pure.pure x : ExceptT ε (StateM σ) α) :=
  fun _ => rfl

/-- Failing keeps everything. -/
theorem throw (view : σ → V) (e : ε) :
    Keeps view (MonadExcept.throw e : ExceptT ε (StateM σ) α) := fun _ => rfl

/-- What follows a failure does not happen. -/
theorem throw_bind (view : σ → V) (e : ε) (f : α → ExceptT ε (StateM σ) β) :
    Keeps view (MonadExcept.throw e >>= f) := fun _ => rfl

/-- Looking at the state keeps everything. -/
theorem get (view : σ → V) : Keeps view (MonadState.get : ExceptT ε (StateM σ) σ) := fun _ => rfl

/-- **What each of two actions keeps is kept by both of them together.** -/
theorem bind {a : ExceptT ε (StateM σ) α} {f : α → ExceptT ε (StateM σ) β} (ha : Keeps view a)
    (hf : ∀ x, Keeps view (f x)) : Keeps view (a >>= f) := by
  intro s
  have hkept := ha s
  rw [run_bind]
  generalize a.run s = ran at hkept ⊢
  obtain ⟨e | x, s'⟩ := ran
  · exact hkept
  · exact (hf x s').trans hkept

/-- What both ways keep is kept whichever is taken. -/
theorem ite {c : Prop} [Decidable c] {a b : ExceptT ε (StateM σ) α} (ha : Keeps view a)
    (hb : Keeps view b) : Keeps view (if c then a else b) := by
  split
  · exact ha
  · exact hb

/-- What doing something keeps is kept by doing it to each element of a list. -/
theorem mapM {f : β → ExceptT ε (StateM σ) α} (hf : ∀ x, Keeps view (f x)) (xs : List β) :
    Keeps view (xs.mapM f) := by
  induction xs with
  | nil =>
    rw [List.mapM_nil]
    exact .pure _ _
  | cons x xs ih =>
    rw [List.mapM_cons]
    exact (hf x).bind fun _ => ih.bind fun _ => .pure _ _

end Keeps

end Keeping

namespace Store

/-- **What can be read of a store**: which collections cannot be reached, and all documents. -/
def readable (s : Store) : List String × (String → List Json) :=
  (s.unavailable, fun name => s.documents name)

/-- What demanding a collection gives. -/
theorem run_requireAvailable (name : String) (s : Store) : (requireAvailable name).run s
    = (if s.unavailable.contains name then .error (.unavailable name) else .ok (), s) := by
  unfold requireAvailable
  rw [run_bind]
  show (if s.unavailable.contains name then throw _ else pure () : StoreAction Unit).run s = _
  split <;> rfl

/-- **Nothing is done with a collection that cannot be reached.** -/
theorem run_of_unavailable {α : Type} {name : String} {s : Store} (h : s.unavailable.contains name = true)
    (f : Unit → StoreAction α) : (requireAvailable name >>= f).run s = (.error (.unavailable name), s) := by
  rw [run_bind, run_requireAvailable, if_pos h]

/-- A collection that can be reached may be demanded. -/
theorem run_of_available {α : Type} {name : String} {s : Store} (h : s.unavailable.contains name = false)
    (f : Unit → StoreAction α) : (requireAvailable name >>= f).run s = (f ()).run s := by
  rw [run_bind, run_requireAvailable, if_neg (Bool.eq_false_iff.1 h)]

/-- The store with a collection changed, where it exists. -/
def changed (name : String) (f : Collection → Collection) (s : Store) : Store :=
  if s.hasCollection name then s.withCollection name (f (s.collection name)) else s

/-- What changing a collection gives. -/
theorem run_changeExisting (name : String) (f : Collection → Collection) (s : Store) :
    (changeExisting name f).run s = (.ok (), s.changed name f) := by
  unfold changeExisting changed
  rw [run_bind]
  show (if s.hasCollection name then change name f else pure () : StoreAction Unit).run s = _
  split <;> rfl

/-- What changing a collection gives where nothing but a result follows. -/
theorem run_changeExisting_pure {α : Type} (name : String) (f : Collection → Collection) (x : α) (s : Store) :
    (changeExisting name f >>= fun _ => pure x : StoreAction α).run s = (.ok x, s.changed name f) := by
  rw [run_bind, run_changeExisting]
  rfl

/-- A change of one collection leaves the others alone. -/
theorem documents_changed_of_ne {name other : String} (h : other ≠ name)
    (f : Collection → Collection) (s : Store) :
    (s.changed name f).documents other = s.documents other := by
  unfold changed
  split
  · unfold documents collection withCollection
    rw [Keyed.get?_insert_of_ne h]
  · rfl

/-- A change that keeps the documents of a collection keeps all documents. -/
theorem documents_changed {name : String} {f : Collection → Collection}
    (hf : ∀ c, (f c).documents = c.documents) (other : String) (s : Store) :
    (s.changed name f).documents other = s.documents other := by
  by_cases h : other = name
  · unfold changed
    split
    · subst h
      unfold documents collection withCollection
      rw [Keyed.get?_insert_self]
      exact hf _
    · rfl
  · exact documents_changed_of_ne h f s

/-- A change makes no collection unavailable. -/
theorem unavailable_changed (name : String) (f : Collection → Collection) (s : Store) :
    (s.changed name f).unavailable = s.unavailable := by
  unfold changed
  split <;> rfl

/-- **A change that keeps the documents of a collection keeps all that can be read.** -/
theorem readable_changed {name : String} {f : Collection → Collection}
    (hf : ∀ c, (f c).documents = c.documents) (s : Store) :
    (s.changed name f).readable = s.readable :=
  Prod.ext (unavailable_changed name f s) (funext fun other => documents_changed hf other s)

/-- Counting an access changes no document. -/
theorem documents_countAccess (filter : Predicate) (sortPaths : List String) (c : Collection) :
    (countAccess filter sortPaths c).documents = c.documents := by
  unfold countAccess
  split <;> rfl

/-- **What finding documents gives.** -/
theorem run_find (name : String) (filter : Predicate) (window : Window) (s : Store) :
    (find name filter window).run s =
      if s.unavailable.contains name then (.error (.unavailable name), s)
      else (.ok (cut window.skip window.limit
          (Document.sort window.sort ((s.documents name).filter filter.holds))),
        s.changed name (countAccess filter (window.sort.map SortKey.path))) := by
  unfold find
  by_cases h : s.unavailable.contains name
  · rw [run_of_unavailable h, if_pos h]
  · rw [run_of_available (Bool.eq_false_iff.2 h), if_neg h]
    exact run_changeExisting_pure _ _ _ s

/-- Finding documents keeps what can be read. -/
theorem keeps_find (name : String) (filter : Predicate) (window : Window) :
    Keeps readable (find name filter window) := by
  intro s
  rw [run_find]
  split
  · rfl
  · exact readable_changed (documents_countAccess _ _) s

/-- **What counting documents gives.** -/
theorem run_count (name : String) (filter : Predicate) (s : Store) :
    (count name filter).run s =
      if s.unavailable.contains name then (.error (.unavailable name), s)
      else (.ok ((s.documents name).filter filter.holds).length,
        s.changed name (countAccess filter [])) := by
  unfold count
  by_cases h : s.unavailable.contains name
  · rw [run_of_unavailable h, if_pos h]
  · rw [run_of_available (Bool.eq_false_iff.2 h), if_neg h]
    exact run_changeExisting_pure _ _ _ s

/-- Counting documents keeps what can be read. -/
theorem keeps_count (name : String) (filter : Predicate) :
    Keeps readable (count name filter) := by
  intro s
  rw [run_count]
  split
  · rfl
  · exact readable_changed (documents_countAccess _ _) s

end Store

/-- **What was counted of runs of materialization.** Rows are counted in the words in which statuses tell them. -/
structure RunCounts where
  /-- How many published. -/
  published : ℕ
  /-- How many failed. -/
  failed : ℕ
  /-- How many came too late. -/
  superseded : ℕ
  /-- How many had nothing to publish. -/
  skipped : ℕ
  /-- How many rows were published. -/
  rows : UInt64
  deriving DecidableEq

/-- What the counters say of runs. -/
def Metrics.runs (m : Metrics) : RunCounts :=
  ⟨m.published, m.failed, m.superseded, m.skipped, UInt64.ofNat m.rowsPublished⟩

namespace Tenant

/-- What was counted of the runs of a tenant. -/
def runs (t : Tenant) : RunCounts := t.metrics.runs

/-- **What can be read of a tenant**: the settings, the clocks and what can be read of the store. -/
def readable (t : Tenant) : Config × Instant × Instant × List String × (String → List Json) :=
  (t.config, t.clock, t.today, t.store.readable)

/-- **Tenants agree on some collections** when these hold the same documents, and settings, clocks and the
collections that cannot be reached are the same. -/
structure AgreeOn (names : Set String) (t u : Tenant) : Prop where
  /-- The settings are the same. -/
  config : t.config = u.config
  /-- Reports are computed for the same instant. -/
  clock : t.clock = u.clock
  /-- It is the same time of day. -/
  today : t.today = u.today
  /-- The same collections cannot be reached. -/
  unavailable : t.store.unavailable = u.store.unavailable
  /-- The documents are the same. -/
  documents : ∀ name ∈ names, t.store.documents name = u.store.documents name

namespace AgreeOn

variable {names others : Set String} {t u v : Tenant}

/-- Tenants of which the same can be read agree on everything. -/
theorem of_readable (h : t.readable = u.readable) (names : Set String) : t.AgreeOn names u := by
  obtain ⟨hconfig, hclock, htoday, hunavailable, hdocuments⟩ := by
    simpa only [readable, Store.readable, Prod.mk.injEq] using h
  exact ⟨hconfig, hclock, htoday, hunavailable, fun name _ => congrFun hdocuments name⟩

/-- A tenant agrees with itself. -/
theorem refl (names : Set String) (t : Tenant) : t.AgreeOn names t :=
  ⟨rfl, rfl, rfl, rfl, fun _ _ => rfl⟩

/-- Agreeing goes both ways. -/
theorem symm (h : t.AgreeOn names u) : u.AgreeOn names t :=
  ⟨h.config.symm, h.clock.symm, h.today.symm, h.unavailable.symm,
    fun name hname => (h.documents name hname).symm⟩

/-- Agreeing goes on. -/
theorem trans (h : t.AgreeOn names u) (h' : u.AgreeOn names v) : t.AgreeOn names v :=
  ⟨h.config.trans h'.config, h.clock.trans h'.clock, h.today.trans h'.today,
    h.unavailable.trans h'.unavailable,
    fun name hname => (h.documents name hname).trans (h'.documents name hname)⟩

/-- Tenants that agree on some collections agree on fewer. -/
theorem mono (h : t.AgreeOn names u) (hsub : others ⊆ names) : t.AgreeOn others u :=
  ⟨h.config, h.clock, h.today, h.unavailable, fun name hname => h.documents name (hsub hname)⟩

end AgreeOn

end Tenant

/-- The settings without the limits on indexes. -/
def Config.withoutIndexLimits (c : Config) : Config := { c with indexBudget := 0, maxIndexKeys := 0 }

namespace Tenant

/-- **Tenants are alike in some collections** when these hold the same documents, the same collections cannot be
reached, the clocks are the same, and so are the settings but for the limits on indexes. Which indexes there
are, how often they served and how many there may be is left open. -/
structure Alike (names : Set String) (t u : Tenant) : Prop where
  /-- The settings differ in the limits on indexes at most. -/
  config : t.config.withoutIndexLimits = u.config.withoutIndexLimits
  /-- Reports are computed for the same instant. -/
  clock : t.clock = u.clock
  /-- It is the same time of day. -/
  today : t.today = u.today
  /-- The same collections cannot be reached. -/
  unavailable : ∀ name, t.store.unavailable.contains name = u.store.unavailable.contains name
  /-- The documents are the same. -/
  documents : ∀ name ∈ names, t.store.documents name = u.store.documents name

/-- Tenants that agree are alike. -/
theorem AgreeOn.alike {names : Set String} {t u : Tenant} (h : t.AgreeOn names u) : t.Alike names u :=
  ⟨congrArg _ h.config, h.clock, h.today, fun _ => h.unavailable ▸ rfl, h.documents⟩

namespace Alike

variable {names others : Set String} {t u v : Tenant}

/-- A tenant is like itself. -/
theorem refl (names : Set String) (t : Tenant) : t.Alike names t := (AgreeOn.refl names t).alike

/-- Being alike goes both ways. -/
theorem symm (h : t.Alike names u) : u.Alike names t :=
  ⟨h.config.symm, h.clock.symm, h.today.symm, fun name => (h.unavailable name).symm,
    fun name hname => (h.documents name hname).symm⟩

/-- Being alike goes on. -/
theorem trans (h : t.Alike names u) (h' : u.Alike names v) : t.Alike names v :=
  ⟨h.config.trans h'.config, h.clock.trans h'.clock, h.today.trans h'.today,
    fun name => (h.unavailable name).trans (h'.unavailable name),
    fun name hname => (h.documents name hname).trans (h'.documents name hname)⟩

/-- Conditions are read as strictly. -/
theorem strictness (h : t.Alike names u) : t.config.strictness = u.config.strictness :=
  (congrArg Config.strictness h.config :)

/-- Batches are as large. -/
theorem downloadBatchSize (h : t.Alike names u) : t.config.downloadBatchSize = u.config.downloadBatchSize :=
  (congrArg Config.downloadBatchSize h.config :)

end Alike

end Tenant

namespace TenantAction

variable {α β : Type}

/-- An action on the store keeps for the tenant what it keeps there. -/
theorem keeps_onStore (operation : String) {a : StoreAction α} (h : Keeps Store.readable a) :
    Keeps Tenant.readable (onStore operation a) := by
  intro t
  show (t.config, t.clock, t.today, (a.run t.store).2.readable) = _
  rw [h t.store]
  rfl

/-- An action on the store counts no run. -/
theorem counts_onStore (operation : String) (a : StoreAction α) : Keeps Tenant.runs (onStore operation a) :=
  fun _ => rfl

/-- **The outcome of an action** on a tenant. -/
def answer (a : TenantAction α) (t : Tenant) : Except ReportError α := (a.run t).1

/-- **An action that only reads**, and that reads some collections only. -/
structure Reads (names : Set String) (a : TenantAction α) : Prop where
  /-- It leaves all documents as they are. -/
  keeps : Keeps Tenant.readable a
  /-- It counts no run. -/
  counts : Keeps Tenant.runs a
  /-- Its outcome depends on these collections, and not on indexes. -/
  alike : ∀ t u : Tenant, t.Alike names u → a.answer t = a.answer u

namespace Reads

variable {names others : Set String}

/-- Tenants that agree are answered alike. -/
theorem agrees {a : TenantAction α} (h : Reads names a) (t u : Tenant) (htu : t.AgreeOn names u) :
    a.answer t = a.answer u := h.alike t u htu.alike

/-- Doing nothing reads nothing. -/
theorem pure (names : Set String) (x : α) : Reads names (Pure.pure x : TenantAction α) :=
  ⟨.pure _ x, .pure _ x, fun _ _ _ => rfl⟩

/-- Failing reads nothing. -/
theorem throw (names : Set String) (e : ReportError) :
    Reads names (MonadExcept.throw e : TenantAction α) :=
  ⟨.throw _ e, .throw _ e, fun _ _ _ => rfl⟩

/-- A pure step reads nothing. -/
theorem ofExcept {ε : Type} (names : Set String) (wrap : ε → ReportError) (result : Except ε α) :
    Reads names (TenantAction.ofExcept wrap result) := by
  cases result with
  | ok x => exact pure names x
  | error e => exact throw names (wrap e)

/-- Counters are not read, and other counters than those of runs may be changed. -/
theorem meter (names : Set String) (change : Metrics → Metrics)
    (hruns : ∀ m, (change m).runs = m.runs := by exact fun _ => rfl) : Reads names (TenantAction.meter change) :=
  ⟨fun _ => rfl, fun t => hruns t.metrics, fun _ _ _ => rfl⟩

/-- **Actions that follow each other** read what each of them reads. -/
theorem bind {a : TenantAction α} {f : α → TenantAction β} (ha : Reads names a)
    (hf : ∀ x, Reads names (f x)) : Reads names (a >>= f) where
  keeps := ha.keeps.bind fun x => (hf x).keeps
  counts := ha.counts.bind fun x => (hf x).counts
  alike t u htu := by
    have hsame := ha.alike t u htu
    have hleft := ha.keeps t
    have hright := ha.keeps u
    unfold answer at *
    rw [run_bind, run_bind]
    generalize a.run t = ran at hsame hleft ⊢
    generalize a.run u = other at hsame hright ⊢
    obtain ⟨x, t'⟩ := ran
    obtain ⟨y, u'⟩ := other
    obtain rfl : x = y := hsame
    cases x with
    | error e => rfl
    | ok x => exact (hf x).alike t' u' ((Tenant.AgreeOn.of_readable hleft names).alike.trans
        (htu.trans (Tenant.AgreeOn.of_readable hright names).alike.symm))

/-- Looking at an outcome reads what the action reads. -/
theorem outcome {a : TenantAction α} (ha : Reads names a) : Reads names (TenantAction.outcome a) where
  keeps t := ha.keeps t
  counts t := ha.counts t
  alike t u htu := congrArg Except.ok (ha.alike t u htu)

/-- **An action that looks at the tenant** reads some collections when tenants that are alike in them make it do
the same. -/
theorem get {f : Tenant → TenantAction α} (hf : ∀ t, Reads names (f t))
    (hsame : ∀ t u : Tenant, t.Alike names u → f t = f u) :
    Reads names (MonadState.get >>= f) where
  keeps t := (hf t).keeps t
  counts t := (hf t).counts t
  alike t u htu := by
    show (f t).answer t = (f u).answer u
    rw [hsame t u htu]
    exact (hf u).alike t u htu

end Reads

/-- An action that looks at the tenant is run on it. -/
theorem run_get_bind (f : Tenant → TenantAction α) (t : Tenant) :
    (MonadState.get >>= f : TenantAction α).run t = (f t).run t := rfl

/-- An action that looks at the tenant is answered on it. -/
theorem answer_get_bind (f : Tenant → TenantAction α) (t : Tenant) :
    (MonadState.get >>= f : TenantAction α).answer t = (f t).answer t := rfl

/-- **Reading actions are functions of the tenant**: the second one is answered on the tenant on which the
first one was. -/
theorem answer_bind {a : TenantAction α} {f : α → TenantAction β} (ha : Reads .univ a)
    (hf : ∀ x, Reads .univ (f x)) (t : Tenant) :
    (a >>= f).answer t = (a.answer t).bind fun x => (f x).answer t := by
  have hkept := ha.keeps t
  unfold answer
  rw [run_bind]
  generalize a.run t = ran at hkept ⊢
  obtain ⟨e | x, t'⟩ := ran
  · rfl
  · exact (hf x).agrees t' t (.of_readable hkept .univ)

/-- **Actions that are answered alike step by step are answered alike**, be it on different tenants. -/
theorem answer_bind_congr {a a' : TenantAction α} {f f' : α → TenantAction β} (ha : Reads .univ a)
    (hf : ∀ x, Reads .univ (f x)) (ha' : Reads .univ a') (hf' : ∀ x, Reads .univ (f' x)) {t u : Tenant}
    (h : a.answer t = a'.answer u) (hnext : ∀ x, (f x).answer t = (f' x).answer u) :
    (a >>= f).answer t = (a' >>= f').answer u := by
  rw [answer_bind ha hf, answer_bind ha' hf', h]
  exact congrArg _ (funext hnext)

/-- So are results that are made of what they answer. -/
theorem answer_map_congr {a a' : TenantAction α} (ha : Reads .univ a) (ha' : Reads .univ a') {t u : Tenant}
    (h : a.answer t = a'.answer u) (f : α → β) :
    (a >>= fun x => pure (f x)).answer t = (a' >>= fun x => pure (f x)).answer u :=
  answer_bind_congr ha (fun _ => .pure _ _) ha' (fun _ => .pure _ _) h fun _ => rfl

/-- What finding documents answers. -/
def found (operation name : String) (filter : Predicate) (window : Store.Window) (t : Tenant) :
    Except ReportError (List Json) :=
  if t.store.unavailable.contains name then .error (.store operation (.unavailable name))
  else .ok (Store.cut window.skip window.limit
    (Document.sort window.sort ((t.store.documents name).filter filter.holds)))

/-- What was found, unless it was sorted or cut, are all documents that match. -/
theorem eq_of_found {operation name : String} {filter : Predicate} {t : Tenant}
    {documents : List Json} (h : found operation name filter {} t = .ok documents) :
    documents = (t.store.documents name).filter filter.holds := by
  unfold found at h
  split at h
  · exact absurd h nofun
  · exact (Except.ok.inj h).symm

/-- Finding documents answers with those that match. -/
theorem answer_find (operation name : String) (filter : Predicate) (window : Store.Window)
    (t : Tenant) : (onStore operation (Store.find name filter window)).answer t
      = found operation name filter window t := by
  show ((Store.find name filter window).run t.store).1.mapError _ = _
  rw [Store.run_find]
  unfold found
  split <;> rfl

/-- Counting documents answers with the number of those that match. -/
theorem answer_count (operation name : String) (filter : Predicate) (t : Tenant) :
    (onStore operation (Store.count name filter)).answer t
      = if t.store.unavailable.contains name then .error (.store operation (.unavailable name))
        else .ok ((t.store.documents name).filter filter.holds).length := by
  show ((Store.count name filter).run t.store).1.mapError _ = _
  rw [Store.run_count]
  split <;> rfl

namespace Reads

variable {names : Set String}

/-- **Finding documents of a collection reads this collection.** -/
theorem find {name : String} (hname : name ∈ names) (operation : String) (filter : Predicate)
    (window : Store.Window) :
    Reads names (onStore operation (Store.find name filter window)) where
  keeps := keeps_onStore operation (Store.keeps_find name filter window)
  counts := counts_onStore operation _
  alike t u htu := by
    rw [answer_find, answer_find, found, found, htu.unavailable, htu.documents name hname]

/-- Counting documents of a collection reads this collection. -/
theorem count {name : String} (hname : name ∈ names) (operation : String) (filter : Predicate) :
    Reads names (onStore operation (Store.count name filter)) where
  keeps := keeps_onStore operation (Store.keeps_count name filter)
  counts := counts_onStore operation _
  alike t u htu := by
    rw [answer_count, answer_count, htu.unavailable, htu.documents name hname]

/-- Decoding documents reads nothing more. -/
theorem decodeAll (names : Set String) (operation collection : String) (decode? : Json → Option α)
    (documents : List Json) :
    Reads names (TenantAction.decodeAll operation collection decode? documents) := by
  unfold TenantAction.decodeAll
  split
  · exact pure names _
  · exact throw names _

end Reads

end TenantAction

end Rollup
