/-
  RetryControl.Proofs.Scope.Memory
  ────────────────────────────────
  **WHICH SCOPES HOLD MEMORY.**

  Buckets and limiters come into being on the way, in several places and on
  different conditions, and nothing but an eviction drops them.  Whether a
  scope has an entry can nevertheless be told from the uses of the strategy
  alone: it has one exactly if an operation in the scope has needed it since
  the scope was last forgotten.

    • `NameMap.names` — the names that have an entry,
    • `needsBucket`, `needsLimiter` — the operations that need an entry,
    • `EntryStep` — what an operation does to the entries of one kind: it
      drops the one of its scope, puts one there, or keeps them all
      (`Gate.buckets_step`, `AdaptiveStrategy.limiters_step`),
    • `sinceEvicted`, `mem_useAll_iff` — so the uses since the last eviction
      tell who has an entry, after a whole run,
    • `scopes_in_memory` — all of it, for built strategies of both kinds.
-/
import Mathlib.Data.List.DropRight
import RetryControl.Proofs.Scope.Freshness

namespace RetryControl

/-! ## §1. The names in a map. -/

namespace NameMap

variable {α : Type}

/-- The names that something is filed under. -/
def names (m : NameMap α) : List String := m.entries.map Prod.fst

/-- There are as many as there are entries. -/
theorem length_names (m : NameMap α) : m.names.length = m.size := List.length_map _

theorem mem_names_iff {m : NameMap α} {name : String} :
    name ∈ m.names ↔ (m.get? name).isSome = true := by
  unfold names get?
  rw [List.mem_map, List.lookup_isSome_iff]
  constructor
  · rintro ⟨entry, hmem, rfl⟩
    exact ⟨entry, hmem, beq_self_eq_true entry.1⟩
  · rintro ⟨entry, hmem, hname⟩
    exact ⟨entry, hmem, (eq_of_beq hname).symm⟩

theorem mem_names_insert {m : NameMap α} {name other : String} {a : α} :
    other ∈ (m.insert name a).names ↔ other = name ∨ other ∈ m.names := by
  rw [mem_names_iff, mem_names_iff, get?_insert]
  by_cases hname : other = name <;> simp [hname]

theorem mem_names_erase {m : NameMap α} {name other : String} :
    other ∈ (m.erase name).names ↔ other ≠ name ∧ other ∈ m.names := by
  rw [mem_names_iff, mem_names_iff, get?_erase]
  by_cases hname : other = name <;> simp [hname]

/-- No name is there twice, if none was before. -/
theorem nodup_names_erase {m : NameMap α} (hm : m.names.Nodup) (name : String) :
    (m.erase name).names.Nodup :=
  hm.sublist (List.filter_sublist.map Prod.fst)

theorem nodup_names_insert {m : NameMap α} (hm : m.names.Nodup) (name : String) (a : α) :
    (m.insert name a).names.Nodup := by
  show (name :: (m.erase name).names).Nodup
  rw [List.nodup_cons]
  exact ⟨fun hmem => (mem_names_erase.mp hmem).1 rfl, nodup_names_erase hm name⟩

end NameMap

/-! ## §2. Operations that need an entry. -/

/-- The operation takes from the budget of its scope, or would if the budget covered it, or gives to
it: a success while the breaker is on, and a charged request that only the budget can refuse. -/
def GateTerms.needsBucket (t : GateTerms) : Operation → Bool
  | .acquire _ => false
  | .refresh request =>
      t.passes request.token request.failure && decide (0 < t.charge request.failure.errorType)
  | .succeed _ => t.breakerEnabled
  | .evict _ => false

/-- The operation measures a send, or looks at a failure or a success. -/
def Operation.needsLimiter : Operation → Bool
  | .acquire _ => true
  | .refresh _ => true
  | .succeed _ => true
  | .evict _ => false

/-- What an operation does to the entries of one kind. -/
inductive EntryStep {α : Type} (needs : Operation → Bool) (op : Operation) (m : NameMap α) :
    NameMap α → Prop where
  /-- An eviction drops the entry of its scope. -/
  | dropped (hevicts : op = .evict op.scope) : EntryStep needs op m (m.erase op.scope)
  /-- What needs an entry leaves one in its scope. -/
  | put (a : α) (hstays : op ≠ .evict op.scope) (hneeds : needs op = true) :
      EntryStep needs op m (m.insert op.scope a)
  /-- Everything else leaves all entries as they are. -/
  | kept (hstays : op ≠ .evict op.scope) (hidle : needs op = false) : EntryStep needs op m m

namespace EntryStep

variable {α : Type} {needs : Operation → Bool} {op : Operation} {m m' : NameMap α}

theorem nodup_names (h : EntryStep needs op m m') (hm : m.names.Nodup) : m'.names.Nodup := by
  cases h with
  | dropped hevicts => exact NameMap.nodup_names_erase hm op.scope
  | put a hstays hneeds => exact NameMap.nodup_names_insert hm op.scope a
  | kept hstays hidle => exact hm

/-- **Who has an entry after an operation**: nobody that it has just forgotten, and otherwise who had
one before, and its own scope if it needs one. -/
theorem mem_names_iff (h : EntryStep needs op m m') (scope : String) :
    scope ∈ m'.names
      ↔ op ≠ .evict scope ∧ (scope ∈ m.names ∨ op.scope = scope ∧ needs op = true) := by
  have hown : op = .evict scope → op = .evict op.scope := by
    rintro rfl
    rfl
  -- an eviction of another scope is none of this one
  cases h with
  | dropped hevicts =>
      rw [NameMap.mem_names_erase]
      constructor
      · rintro ⟨hother, hmem⟩
        refine ⟨fun heq => hother ?_, .inl hmem⟩
        rw [heq]
        rfl
      · rintro ⟨hkept, hmem⟩
        have hother : scope ≠ op.scope := by
          rintro rfl
          exact hkept hevicts
        exact ⟨hother, hmem.resolve_right fun h => hother h.1.symm⟩
  | put a hstays hneeds =>
      rw [NameMap.mem_names_insert]
      constructor
      · intro hmem
        exact ⟨mt hown hstays, hmem.symm.imp_right fun h => ⟨h.symm, hneeds⟩⟩
      · rintro ⟨_, hmem⟩
        exact hmem.symm.imp_left fun h => h.1.symm
  | kept hstays hidle =>
      rw [hidle]
      constructor
      · intro hmem
        exact ⟨mt hown hstays, .inl hmem⟩
      · rintro ⟨_, hmem⟩
        exact hmem.resolve_right fun h => Bool.false_ne_true h.2

/-- Nothing happens where no entry is needed and none is forgotten. -/
theorem eq_of_idle (h : EntryStep needs op m m') (hstays : op ≠ .evict op.scope)
    (hidle : needs op = false) : m' = m := by
  cases h with
  | dropped hevicts => exact absurd hevicts hstays
  | put a _ hneeds => exact absurd (hneeds.symm.trans hidle) Bool.noConfusion
  | kept _ _ => rfl

end EntryStep

/-! ## §3. Buckets and limiters. -/

/-- **The buckets after an operation.** -/
theorem Gate.buckets_step (g : Gate) (op : Operation) :
    EntryStep g.terms.needsBucket op g.buckets (g.step op).2.buckets := by
  cases op with
  | acquire first => exact .kept nofun rfl
  | evict gone => exact .dropped rfl
  | succeed token =>
      show EntryStep _ _ _ (g.succeed token).2.buckets
      by_cases hbreaker : g.terms.breakerEnabled = true
      · rw [g.succeed_of_breaker hbreaker]
        exact .put _ nofun hbreaker
      · rw [g.succeed_of_no_breaker hbreaker]
        exact .kept nofun (Bool.eq_false_iff.mpr hbreaker)
  | refresh request =>
      obtain ⟨answer, after, hdecides, hstep⟩ := g.exists_decides request
      have hneeds : g.terms.needsBucket (.refresh request) = true
          ↔ g.terms.passes request.token request.failure = true
            ∧ 0 < g.terms.charge request.failure.errorType := by
        show (_ && decide _) = true ↔ _
        rw [Bool.and_eq_true, decide_eq_true_iff]
      rw [hstep]
      -- a request that a check refuses, or that is free, does not come to the buckets
      cases hdecides with
      | nonRetryable hrule =>
          refine .kept nofun (Bool.eq_false_iff.mpr fun h => ?_)
          rw [(GateTerms.passes_iff.mp (hneeds.mp h).1).1] at hrule
          cases hrule
      | exhausted hrule hlimit =>
          refine .kept nofun (Bool.eq_false_iff.mpr fun h => ?_)
          have hbelow := (GateTerms.passes_iff.mp (hneeds.mp h).1).2
          omega
      | free hpass hcharge =>
          refine .kept nofun (Bool.eq_false_iff.mpr fun h => ?_)
          have hpositive := (hneeds.mp h).2
          omega
      | charged left hpass hcharge hcovered hlimit hleft =>
          exact .put left nofun (hneeds.mpr ⟨hpass, hcharge⟩)
      | circuitOpen hpass hshort =>
          exact .put _ nofun (hneeds.mpr ⟨hpass, by omega⟩)

variable {R : Type}

namespace Strategy

/-- The scopes that have a bucket. -/
def bucketScopes (s : Strategy R) : List String := s.gate.buckets.names

/-- The scopes that have a limiter; in a standard strategy none has. -/
def limiterScopes : Strategy R → List String
  | .standard _ => []
  | .adaptive s => s.limiters.names

theorem mem_bucketScopes_iff {s : Strategy R} {scope : String} :
    scope ∈ s.bucketScopes ↔ (s.gate.heldBucket? scope).isSome = true := NameMap.mem_names_iff

theorem mem_limiterScopes_iff {s : Strategy R} {scope : String} :
    scope ∈ s.limiterScopes ↔ (s.heldLimiter? scope).isSome = true := by
  cases s with
  | standard own => exact iff_of_false List.not_mem_nil Bool.false_ne_true
  | adaptive own => exact NameMap.mem_names_iff

/-- A scope without entries is in neither list. -/
theorem HoldsNothing.not_mem {s : Strategy R} {scope : String} (h : s.HoldsNothing scope) :
    scope ∉ s.bucketScopes ∧ scope ∉ s.limiterScopes := by
  rw [mem_bucketScopes_iff, mem_limiterScopes_iff, h.bucket_eq, h.limiter_eq]
  exact ⟨Bool.false_ne_true, Bool.false_ne_true⟩

end Strategy

variable [RateArithmetic R]

/-- **The limiters after an operation.** -/
theorem AdaptiveStrategy.limiters_step (s : AdaptiveStrategy R) (m : Moment) (op : Operation) :
    ∃ after, ((Strategy.adaptive s).step m op).2 = .adaptive after
      ∧ EntryStep Operation.needsLimiter op s.limiters after.limiters := by
  cases op with
  | acquire first => exact ⟨_, rfl, .put _ nofun rfl⟩
  | succeed token => exact ⟨_, rfl, .put _ nofun rfl⟩
  | evict gone => exact ⟨_, rfl, .dropped rfl⟩
  | refresh request =>
      refine ⟨(s.refresh request m.now).2, rfl, ?_⟩
      rcases hdecision : s.gate.decideRetry request.token request.failure with ⟨decision, after⟩
      -- the limiter has looked at the failure before the gate answers
      cases decision with
      | ok token =>
          rw [refresh_of_ok hdecision]
          exact .put _ nofun rfl
      | error error =>
          rw [refresh_of_error hdecision]
          exact .put _ nofun rfl

namespace Strategy

theorem nodup_step {s : Strategy R} (hs : s.bucketScopes.Nodup ∧ s.limiterScopes.Nodup)
    (m : Moment) (op : Operation) :
    (s.step m op).2.bucketScopes.Nodup ∧ (s.step m op).2.limiterScopes.Nodup := by
  constructor
  · show (s.step m op).2.gate.buckets.names.Nodup
    rw [gate_step]
    exact (s.gate.buckets_step op).nodup_names hs.1
  · cases s with
    | standard own =>
        obtain ⟨after, hafter⟩ := standard_step (R := R) own m op
        rw [hafter]
        exact List.nodup_nil
    | adaptive own =>
        obtain ⟨after, hafter, hlimiters⟩ := own.limiters_step m op
        rw [hafter]
        exact hlimiters.nodup_names hs.2

theorem mem_bucketScopes_step (s : Strategy R) (m : Moment) (op : Operation) (scope : String) :
    scope ∈ (s.step m op).2.bucketScopes
      ↔ op ≠ .evict scope
        ∧ (scope ∈ s.bucketScopes ∨ op.scope = scope ∧ s.gate.terms.needsBucket op = true) := by
  show scope ∈ (s.step m op).2.gate.buckets.names ↔ _
  rw [gate_step]
  exact (s.gate.buckets_step op).mem_names_iff scope

theorem mem_limiterScopes_step (own : AdaptiveStrategy R) (m : Moment) (op : Operation)
    (scope : String) :
    scope ∈ ((Strategy.adaptive own).step m op).2.limiterScopes
      ↔ op ≠ .evict scope
        ∧ (scope ∈ (Strategy.adaptive own).limiterScopes
          ∨ op.scope = scope ∧ op.needsLimiter = true) := by
  obtain ⟨after, hafter, hlimiters⟩ := own.limiters_step m op
  rw [hafter]
  exact hlimiters.mem_names_iff scope

/-- **A standard strategy is changed only by evictions and by what needs a bucket.** -/
theorem step_of_idle {own : StandardStrategy} {op : Operation} (m : Moment)
    (hstays : op ≠ .evict op.scope) (hidle : own.gate.terms.needsBucket op = false) :
    ((Strategy.standard own : Strategy R).step m op).2 = .standard own := by
  have hplan := (Strategy.standard own : Strategy R).plan_step m op
  have hgate := (Strategy.standard own : Strategy R).gate_step m op
  have hbuckets := (own.gate.buckets_step op).eq_of_idle hstays hidle
  have hterms := own.gate.terms_step op
  obtain ⟨after, hafter⟩ := standard_step (R := R) own m op
  rw [hafter] at hplan hgate ⊢
  -- its gate and its backoff are all there is to it
  have hbackoff : after.backoff = own.backoff :=
    congrArg StandardPlan.backoff (Plan.standard.inj hplan)
  have hkept : after.gate = own.gate := by
    rw [show after.gate = (own.gate.step op).2 from hgate]
    generalize (own.gate.step op).2 = gate at hbuckets hterms
    obtain ⟨terms, buckets⟩ := gate
    obtain rfl : terms = own.gate.terms := hterms
    obtain rfl : buckets = own.gate.buckets := hbuckets
    rfl
  obtain ⟨gate, backoff⟩ := after
  obtain rfl : gate = own.gate := hkept
  obtain rfl : backoff = own.backoff := hbackoff
  rfl

end Strategy

/-! ## §4. What the uses since the last eviction tell. -/

/-- The use forgets the scope. -/
def Use.evicts (scope : String) : Use → Bool
  | .operate _ (.evict other) => other == scope
  | _ => false

/-- The uses since a scope was last forgotten; all of them if it never was. -/
def sinceEvicted (scope : String) (uses : List Use) : List Use :=
  uses.rtakeWhile fun u => !u.evicts scope

/-- Since the scope was last forgotten, there was an operation in it that needs an entry. -/
def NeededSince (needs : Operation → Bool) (scope : String) (uses : List Use) : Prop :=
  ∃ m op, .operate m op ∈ sinceEvicted scope uses ∧ op.scope = scope ∧ needs op = true

theorem Use.evicts_operate {scope : String} {m : Moment} {op : Operation} :
    (Use.operate m op).evicts scope = true ↔ op = .evict scope := by
  cases op with
  | acquire first => exact iff_of_false Bool.false_ne_true nofun
  | refresh request => exact iff_of_false Bool.false_ne_true nofun
  | succeed token => exact iff_of_false Bool.false_ne_true nofun
  | evict other =>
      show (other == scope) = true ↔ _
      rw [beq_iff_eq, Operation.evict.injEq]

theorem not_neededSince_nil (needs : Operation → Bool) (scope : String) :
    ¬NeededSince needs scope [] := by
  rintro ⟨m, op, hmem, _⟩
  cases hmem

/-- One more use, read from the end. -/
theorem neededSince_concat {needs : Operation → Bool} {scope : String} {uses : List Use} {u : Use} :
    NeededSince needs scope (uses ++ [u])
      ↔ u.evicts scope = false
        ∧ (NeededSince needs scope uses
          ∨ ∃ m op, u = .operate m op ∧ op.scope = scope ∧ needs op = true) := by
  unfold NeededSince sinceEvicted
  rw [List.rtakeWhile_concat]
  cases hevicts : u.evicts scope with
  | true =>
      refine iff_of_false ?_ fun h => Bool.noConfusion h.1
      rintro ⟨m, op, hmem, _⟩
      cases hmem
  | false =>
      -- the last use goes to those since the eviction before it
      rw [if_pos (by rfl)]
      constructor
      · rintro ⟨m, op, hmem, hscope, hneeds⟩
        refine ⟨rfl, ?_⟩
        rcases List.mem_append.mp hmem with hbefore | hlast
        · exact .inl ⟨m, op, hbefore, hscope, hneeds⟩
        · exact .inr ⟨m, op, (List.mem_singleton.mp hlast).symm, hscope, hneeds⟩
      · rintro ⟨_, ⟨m, op, hbefore, hscope, hneeds⟩ | ⟨m, op, rfl, hscope, hneeds⟩⟩
        · exact ⟨m, op, List.mem_append_left _ hbefore, hscope, hneeds⟩
        · exact ⟨m, op, List.mem_append_right _ (List.mem_singleton_self _), hscope, hneeds⟩

namespace Strategy

/-- **Who has an entry after a run**: the scopes that have needed one since they were last
forgotten. -/
theorem mem_useAll_iff {first : Strategy R} {held : Strategy R → List String}
    {needs : Operation → Bool} {scope : String} (hstart : scope ∉ held first)
    (hstep : ∀ s : Strategy R, s.plan = first.plan → ∀ m op, scope ∈ held (s.step m op).2
      ↔ op ≠ .evict scope ∧ (scope ∈ held s ∨ op.scope = scope ∧ needs op = true))
    (uses : List Use) :
    scope ∈ held (first.useAll uses).2 ↔ NeededSince needs scope uses := by
  -- from the end, since the last eviction decides
  induction uses using List.reverseRecOn with
  | nil => exact iff_of_false hstart (not_neededSince_nil needs scope)
  | append_singleton uses u ih =>
      rw [useAll_append, neededSince_concat, ← ih]
      cases u with
      | read seen =>
          -- it needs nothing and changes nothing
          constructor
          · intro hmem
            exact ⟨rfl, .inl hmem⟩
          · rintro ⟨_, hmem | ⟨m, op, hread, _⟩⟩
            · exact hmem
            · cases hread
      | operate m op =>
          have hkept : (Use.operate m op).evicts scope = false ↔ op ≠ .evict scope := by
            rw [← Bool.not_eq_true, Use.evicts_operate]
          have hplan := first.plan_useAll uses
          refine (hstep (first.useAll uses).2 hplan m op).trans ?_
          rw [hkept]
          refine and_congr_right' (or_congr_right ?_)
          constructor
          · rintro ⟨hscope, hneeds⟩
            exact ⟨m, op, rfl, hscope, hneeds⟩
          · rintro ⟨_, _, heq, hscope, hneeds⟩
            cases heq
            exact ⟨hscope, hneeds⟩

theorem nodup_useAll {first : Strategy R}
    (hfirst : first.bucketScopes.Nodup ∧ first.limiterScopes.Nodup) (uses : List Use) :
    (first.useAll uses).2.bucketScopes.Nodup ∧ (first.useAll uses).2.limiterScopes.Nodup := by
  induction uses generalizing first with
  | nil => exact hfirst
  | cons u rest ih =>
      cases u with
      | read seen => exact ih hfirst
      | operate m op => exact ih (nodup_step hfirst m op)

end Strategy

/-! ## §5. Built strategies. -/

/-- Who has an entry in a strategy that was built from the plan and used so, and what that has to do
with the operations. -/
structure EntriesByUse (p : Plan R) (uses : List Use) (s : Strategy R) : Prop where
  /-- No scope has two entries of a kind. -/
  nodup : s.bucketScopes.Nodup ∧ s.limiterScopes.Nodup
  /-- As many scopes are reported as have entries. -/
  counts_eq : s.scopeCounts
    = match p with
      | .standard _ => [s.bucketScopes.length]
      | .adaptive _ => [s.bucketScopes.length, s.limiterScopes.length]
  /-- A bucket is held for the scopes with a success while the breaker is on, or with a charged
  request that only the budget could refuse, since they were last forgotten. -/
  bucket_iff : ∀ scope, scope ∈ s.bucketScopes ↔ NeededSince p.gate.needsBucket scope uses
  /-- An adaptive strategy holds a limiter for the scopes with any other operation than an eviction
  since they were last forgotten. -/
  limiter_iff : ∀ plan, p = .adaptive plan → ∀ scope,
    scope ∈ s.limiterScopes ↔ NeededSince Operation.needsLimiter scope uses
  /-- A standard strategy holds none. -/
  no_limiter : ∀ plan, p = .standard plan → s.limiterScopes = []
  /-- An eviction says whether it found an entry of either kind. -/
  evict_finds : ∀ m scope, ∃ existed, (s.step m (.evict scope)).1 = .evicted existed
    ∧ (existed = true ↔ scope ∈ s.bucketScopes ∨ scope ∈ s.limiterScopes)
  /-- It drops both. -/
  evict_drops : ∀ m scope, scope ∉ (s.step m (.evict scope)).2.bucketScopes
    ∧ scope ∉ (s.step m (.evict scope)).2.limiterScopes
  /-- Reading leaves everything as it is. -/
  read : ∀ seen, (s.use (.read seen)).2 = s
  /-- So does the start of a call in a standard strategy. -/
  acquire_idle : ∀ plan, p = .standard plan → ∀ m scope, (s.step m (.acquire scope)).2 = s
  /-- So does a request that the rule or the attempt limit refuses there. -/
  refused_idle : ∀ plan, p = .standard plan → ∀ m request,
    p.gate.passes request.token request.failure = false → (s.step m (.refresh request)).2 = s
  /-- So does a request that is free there. -/
  free_idle : ∀ plan, p = .standard plan → ∀ m request,
    p.gate.charge request.failure.errorType = 0 → (s.step m (.refresh request)).2 = s

/-- **Who has a bucket** after any uses. -/
theorem Strategy.mem_bucketScopes_iff_needed {p : Plan R} {first : Strategy R}
    (hbuilt : p.build = .ok first) (uses : List Use) (scope : String) :
    scope ∈ (first.useAll uses).2.bucketScopes ↔ NeededSince p.gate.needsBucket scope uses := by
  refine mem_useAll_iff (holdsNothing_of_build hbuilt scope).not_mem.1 (fun s hs m op => ?_) uses
  have hterms : s.gate.terms = p.gate := (terms_of_plan_eq hs).trans (p.terms_of_build hbuilt)
  rw [← hterms]
  exact s.mem_bucketScopes_step m op scope

/-- **Who has a limiter** after any uses of an adaptive strategy. -/
theorem Strategy.mem_limiterScopes_iff_needed {plan : AdaptivePlan R} {first : Strategy R}
    (hbuilt : (Plan.adaptive plan).build = .ok first) (uses : List Use) (scope : String) :
    scope ∈ (first.useAll uses).2.limiterScopes
      ↔ NeededSince Operation.needsLimiter scope uses := by
  refine mem_useAll_iff (holdsNothing_of_build hbuilt scope).not_mem.2 (fun s hs m op => ?_) uses
  cases s with
  | standard own => cases hs.trans (Plan.plan_of_build hbuilt)
  | adaptive own => exact mem_limiterScopes_step own m op scope

/-- A built strategy never has two entries of a kind for a scope. -/
theorem Strategy.nodup_of_build {p : Plan R} {first : Strategy R} (hbuilt : p.build = .ok first)
    (uses : List Use) :
    (first.useAll uses).2.bucketScopes.Nodup ∧ (first.useAll uses).2.limiterScopes.Nodup := by
  have hnone : ∀ scope, scope ∉ first.bucketScopes ∧ scope ∉ first.limiterScopes := fun scope =>
    (holdsNothing_of_build hbuilt scope).not_mem
  refine nodup_useAll ⟨?_, ?_⟩ uses
  · rw [List.eq_nil_iff_forall_not_mem.mpr fun scope => (hnone scope).1]
    exact List.nodup_nil
  · rw [List.eq_nil_iff_forall_not_mem.mpr fun scope => (hnone scope).2]
    exact List.nodup_nil

/-- **WHICH SCOPES HOLD MEMORY.**  However a built strategy was used, it has a bucket for exactly the
scopes in which one was needed since they were last forgotten, and an adaptive one has a limiter for
exactly those in which anything else was done since then.  An eviction says whether it found one and
drops both; reading leaves no trace, and in a standard strategy neither does the start of a call, nor
a request that is refused by the rule or the attempt limit or is free. -/
theorem scopes_in_memory {p : Plan R} {first : Strategy R} (hbuilt : p.build = .ok first)
    (uses : List Use) : EntriesByUse p uses (first.useAll uses).2 := by
  have hplan : (first.useAll uses).2.plan = p :=
    (first.plan_useAll uses).trans (p.plan_of_build hbuilt)
  have hnodup := Strategy.nodup_of_build hbuilt uses
  have hbuckets := Strategy.mem_bucketScopes_iff_needed hbuilt uses
  have hlimiters : ∀ plan, p = .adaptive plan → ∀ scope,
      scope ∈ (first.useAll uses).2.limiterScopes
        ↔ NeededSince Operation.needsLimiter scope uses := by
    rintro plan rfl
    exact Strategy.mem_limiterScopes_iff_needed hbuilt uses
  -- all the rest is about the state that the uses have led to, whatever it is
  generalize (first.useAll uses).2 = s at hplan hnodup hbuckets hlimiters ⊢
  have hidle : ∀ plan, p = .standard plan → ∀ m op, op ≠ .evict op.scope →
      p.gate.needsBucket op = false → (s.step m op).2 = s := by
    intro plan hp m op hstays hneeds
    subst hplan
    cases s with
    | adaptive own => cases hp
    | standard own => exact Strategy.step_of_idle m hstays hneeds
  constructor
  case nodup => exact hnodup
  case counts_eq =>
    subst hplan
    cases s with
    | standard own => exact congrArg ([·]) (NameMap.length_names _).symm
    | adaptive own =>
        show [own.gate.buckets.size, own.limiters.size]
          = [own.gate.buckets.names.length, own.limiters.names.length]
        rw [NameMap.length_names, NameMap.length_names]
  case bucket_iff => exact hbuckets
  case limiter_iff => exact hlimiters
  case no_limiter =>
    intro plan hp
    cases s with
    | standard own => rfl
    | adaptive own => cases hplan.trans hp
  case evict_finds =>
    intro m scope
    refine ⟨_, s.answer_evict m scope, ?_⟩
    rw [Bool.or_eq_true, Strategy.mem_bucketScopes_iff, Strategy.mem_limiterScopes_iff]
  case evict_drops =>
    intro m scope
    exact (s.holdsNothing_evict m scope).not_mem
  case read =>
    intro seen
    rfl
  case acquire_idle =>
    intro plan hp m scope
    exact hidle plan hp m _ nofun rfl
  case refused_idle =>
    intro plan hp m request hpass
    refine hidle plan hp m _ nofun ?_
    show (_ && _) = false
    rw [hpass, Bool.false_and]
  case free_idle =>
    intro plan hp m request hcharge
    refine hidle plan hp m _ nofun ?_
    show (_ && decide (0 < _)) = false
    rw [hcharge]
    exact Bool.and_false _

/-- In an adaptive strategy a scope that only starts a call, or has its request refused for want of
attempts, gets a limiter but no bucket; one that is throttled or succeeds gets both; one that is only
read gets neither; and after an eviction only what comes later counts.  A standard strategy that is
used so has the same buckets and nothing else. -/
theorem scopes_in_memory_forgotten :
    let spent : RetryRequest :=
      { token := { scope := "spent", attemptsMade := 3 }, failure := .ofType .throttling }
    let uses : List Use :=
      [.operate (.atMillis 0) (.acquire "started"), .operate (.atMillis 0) (.refresh spent),
        .operate (.atMillis 0) (throttledRetry "retried"), .read "seen",
        .operate (.atMillis 0) (.succeed (.initial "done")),
        .operate (.atMillis 0) (throttledRetry "forgotten"),
        .operate (.atMillis 0) (.evict "forgotten"), .operate (.atMillis 0) (.evict "done"),
        .operate (.atMillis 0) (.acquire "done")]
    let reached := (plainAdaptiveStrategy.useAll uses).2
    let standard := (scarceStrategy.useAll uses).2
    (Plan.adaptive plainAdaptivePlan).build = .ok plainAdaptiveStrategy
      ∧ reached.bucketScopes = ["retried"]
      ∧ reached.limiterScopes = ["done", "retried", "spent", "started"]
      ∧ (reached.step (.atMillis 0) (.evict "spent")).1 = .evicted true
      ∧ (reached.step (.atMillis 0) (.evict "seen")).1 = .evicted false
      ∧ EntriesByUse (.adaptive plainAdaptivePlan) uses reached
      ∧ scarcePlan.build = .ok scarceStrategy
      ∧ standard.bucketScopes = ["retried"]
      ∧ (standard.step (.atMillis 0) (.evict "started")).1 = .evicted false
      ∧ EntriesByUse scarcePlan uses standard := by
  intro spent uses reached standard
  have hbuilt : (Plan.adaptive plainAdaptivePlan).build = .ok plainAdaptiveStrategy := rfl
  have hstandard : scarcePlan.build = .ok scarceStrategy := rfl
  exact ⟨hbuilt, by decide +kernel, by decide +kernel, by decide +kernel, by decide +kernel,
    scopes_in_memory hbuilt uses, hstandard, by decide +kernel, by decide +kernel,
    scopes_in_memory hstandard uses⟩

end RetryControl
