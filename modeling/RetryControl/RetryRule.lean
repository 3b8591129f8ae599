/-
  RetryControl.RetryRule
  ────────────────────────────────
  **WHICH FAILURES ARE RETRIED.**

  A rule is a list of matchers; a failure is retried if one of them accepts
  it.  The rule without matchers stands for the default policy, which retries
  the default error types.
-/
import RetryControl.Failure

namespace RetryControl

/-- One condition on a failure. -/
inductive Matcher where
  /-- The outermost link has the error type. -/
  | errorType (t : ErrorType)
  /-- Some link has the error type. -/
  | errorTypeOrCause (t : ErrorType)
  /-- The root has the error type. -/
  | rootCause (t : ErrorType)
  /-- The outermost link has the code. -/
  | code (c : String)
  /-- Some link has the code. -/
  | codeOrCause (c : String)
  /-- The root has the code. -/
  | rootCauseCode (c : String)
  /-- A condition of the caller's own. -/
  | custom (accepts : Failure → Bool)

/-- Whether a failure meets the condition. -/
def Matcher.accepts : Matcher → Failure → Bool
  | .errorType t, f => f.errorType == t
  | .errorTypeOrCause t, f => f.anyInChain t
  | .rootCause t, f => f.rootIs t
  | .code c, f => f.code == some c
  | .codeOrCause c, f => f.anyCodeInChain c
  | .rootCauseCode c, f => f.rootHasCode c
  | .custom accepts, f => accepts f

/-- Which failures are retried. -/
structure RetryRule where
  /-- A failure is retried if one of these accepts it. -/
  matchers : List Matcher := []

namespace RetryRule

/-- The default policy: no matchers. -/
def default : RetryRule := {}

/-- The rule has no matchers and stands for the default policy. -/
def isDefault (r : RetryRule) : Bool := r.matchers.isEmpty

/-- The rule with one more matcher. -/
def also (r : RetryRule) (m : Matcher) : RetryRule := ⟨r.matchers ++ [m]⟩

/-- One matcher for the outermost error type per listed type. -/
def ofErrorTypes (ts : List ErrorType) : RetryRule :=
  ts.foldl (fun r t => r.also (.errorType t)) default

/-- Whether a failure is retried. -/
def retries (r : RetryRule) (f : Failure) : Bool :=
  if r.isDefault then ErrorType.defaultRetryable.contains f.errorType
  else r.matchers.any (·.accepts f)

/-- The summary of a rule in log lines. -/
def summary (r : RetryRule) : String :=
  if r.isDefault then "RetryPredicate(default)"
  else "RetryPredicate(" ++ toString r.matchers.length ++ " matchers)"

/-- The matchers of a rule made from error types, in order. -/
theorem matchers_ofErrorTypes (ts : List ErrorType) :
    (ofErrorTypes ts).matchers = ts.map Matcher.errorType := by
  have h : ∀ (r : RetryRule), (ts.foldl (fun r t => r.also (.errorType t)) r).matchers
      = r.matchers ++ ts.map Matcher.errorType := by
    induction ts with
    | nil => intro r; simp
    | cons t ts ih =>
      intro r
      rw [List.foldl_cons, ih]
      simp [also]
  exact (h default).trans (List.nil_append _)

end RetryRule

end RetryControl
