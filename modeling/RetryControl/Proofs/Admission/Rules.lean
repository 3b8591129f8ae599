/-
  RetryControl.Proofs.Admission.Rules
  ────────────────────────────────
  **RULES MADE FROM ERROR TYPES.**

  A rule made from a list of error types has one matcher for each of them and
  retries the failures whose outermost link is of a listed type, whatever
  their codes and causes are.  A list without any makes the rule without
  matchers, and that one stands for the default policy.

    • `retries_ofErrorTypes` — something is listed: what is listed is retried,
    • `retries_ofErrorTypes_nil` — nothing is listed: the default types are,
    • `retries_listed_iff` — both, and for which failures of which lists the
      two come to the same,
    • `retries_listed_fails_none` — a passing fault is retried although nothing
      is listed.
-/
import RetryControl.RetryRule

namespace RetryControl.RetryRule

/-- A rule with matchers retries what one of them accepts. -/
theorem retries_of_matchers {r : RetryRule} (hsome : r.matchers ≠ []) (f : Failure) :
    r.retries f = true ↔ ∃ m ∈ r.matchers, m.accepts f = true := by
  have hown : ¬r.isDefault = true := mt List.isEmpty_iff.mp hsome
  unfold retries
  rw [if_neg hown, List.any_eq_true]

/-- **Where something is listed, exactly what is listed is retried.** -/
theorem retries_ofErrorTypes {ts : List ErrorType} (hlisted : ts ≠ []) (f : Failure) :
    (ofErrorTypes ts).retries f = true ↔ f.errorType ∈ ts := by
  have hsome : (ofErrorTypes ts).matchers ≠ [] := by
    rw [matchers_ofErrorTypes]
    exact mt List.map_eq_nil_iff.mp hlisted
  rw [retries_of_matchers hsome, matchers_ofErrorTypes]
  constructor
  · rintro ⟨m, hm, haccepts⟩
    obtain ⟨t, ht, rfl⟩ := List.mem_map.mp hm
    rw [eq_of_beq haccepts]
    exact ht
  · intro hmem
    exact ⟨.errorType f.errorType, List.mem_map_of_mem hmem, beq_self_eq_true f.errorType⟩

/-- **Where nothing is listed, the default policy is followed.** -/
theorem retries_ofErrorTypes_nil (f : Failure) :
    (ofErrorTypes []).retries f = true ↔ f.errorType ≠ .clientError := by
  show ErrorType.defaultRetryable.contains f.errorType = true ↔ _
  rw [List.contains_iff_mem, ErrorType.mem_defaultRetryable_iff]

/-- **RULES MADE FROM ERROR TYPES RETRY WHAT IS LISTED, IF ANYTHING IS.**  Of a failure nothing but
the type of its outermost link counts.  It is retried if that type is listed, and if there is
nothing listed at all, unless the request itself was at fault; so the rule goes by its list exactly
for lists that are not empty and for client errors. -/
theorem retries_listed_iff (ts : List ErrorType) (f : Failure) :
    ((ofErrorTypes ts).retries f = true ↔
        f.errorType ∈ ts ∨ ts = [] ∧ f.errorType ≠ .clientError)
      ∧ (((ofErrorTypes ts).retries f = true ↔ f.errorType ∈ ts) ↔
        ts ≠ [] ∨ f.errorType = .clientError) := by
  by_cases hlisted : ts = []
  · subst hlisted
    rw [retries_ofErrorTypes_nil]
    simp
  · rw [retries_ofErrorTypes hlisted]
    simp [hlisted]

/-- **Nothing is listed, and a passing fault is retried.** -/
theorem retries_listed_fails_none :
    (ofErrorTypes []).retries (.ofType .transient) = true
      ∧ (Failure.ofType .transient).errorType ∉ ([] : List ErrorType)
      ∧ ¬∀ (ts : List ErrorType) (f : Failure),
        (ofErrorTypes ts).retries f = true ↔ f.errorType ∈ ts := by
  have hretried : (ofErrorTypes []).retries (.ofType .transient) = true := rfl
  refine ⟨hretried, List.not_mem_nil, fun hlaw => ?_⟩
  exact List.not_mem_nil ((hlaw [] (.ofType .transient)).mp hretried)

end RetryControl.RetryRule
