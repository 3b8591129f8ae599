/-
  RetryControl.Proofs.Failure.Chains
  ────────────────────────────────
  **FAILURES AND THEIR CHAINS.**

  A failure is put together from single links, by adding causes and whole
  failures below one another in any nesting.  All that is left of the nesting
  is the chain: its links from left to right.  So putting failures together is
  appending chains, and a matcher that looks at the outermost link, at the
  root or at any link of a whole failure looks into one of its parts or both:

    • `Composition` — how a failure was put together,
    • `chain_failure` — its chain is what is written down, in that order,
    • `ext_chain` — nothing but the chain counts, hence the laws of `append`,
    • `Place`, `has_causedByFailure` — links at a place of a whole failure,
    • `has_anywhere`, `has_of_single` — links at one place and at another,
    • `cause_chains` — all of it, down to the rules with one more matcher.
-/
import Mathlib.Data.List.Induction
import RetryControl.Proofs.Admission.Rules

namespace RetryControl

/-! ## §1. How failures are put together. -/

/-- A failure as it is put together. -/
inductive Composition where
  /-- A failure of one link without a code. -/
  | ofType (t : ErrorType)
  /-- A failure of one link with a code. -/
  | ofCode (t : ErrorType) (code : String)
  /-- A failure with one more cause. -/
  | causedBy (c : Composition) (l : Link)
  /-- A failure with another one as its cause. -/
  | causedByFailure (c d : Composition)

namespace Composition

/-- The failure that comes of it. -/
def failure : Composition → Failure
  | .ofType t => .ofType t
  | .ofCode t code => (Failure.ofType t).withCode code
  | .causedBy c l => c.failure.causedBy l
  | .causedByFailure c d => c.failure.causedByFailure d.failure

/-- The links that were put in, from left to right. -/
def links : Composition → List Link
  | .ofType t => [⟨t, none⟩]
  | .ofCode t code => [⟨t, some code⟩]
  | .causedBy c l => c.links ++ [l]
  | .causedByFailure c d => c.links ++ d.links

/-- **The chain is what was put in, from left to right.** -/
theorem chain_failure (c : Composition) : c.failure.chain = c.links := by
  induction c with
  | ofType t => rfl
  | ofCode t code => rfl
  | causedBy c l ih =>
      show (c.failure.causedBy l).chain = c.links ++ [l]
      rw [Failure.chain_causedBy, ih]
  | causedByFailure c d ihc ihd =>
      show (c.failure.causedByFailure d.failure).chain = c.links ++ d.links
      rw [Failure.chain_causedByFailure, ihc, ihd]

/-- Every failure can be put together, one cause after another. -/
theorem exists_failure_eq (f : Failure) : ∃ c : Composition, c.failure = f := by
  obtain ⟨⟨errorType, code⟩, causes⟩ := f
  induction causes using List.reverseRecOn with
  | nil =>
      cases code with
      | none => exact ⟨.ofType errorType, rfl⟩
      | some code => exact ⟨.ofCode errorType code, rfl⟩
  | append_singleton causes l ih =>
      obtain ⟨c, hc⟩ := ih
      refine ⟨.causedBy c l, ?_⟩
      show c.failure.causedBy l = _
      rw [hc]
      rfl

end Composition

/-! ## §2. Failures by their chains. -/

namespace Failure

/-- **Two failures with one chain are the same.** -/
theorem ext_chain {f g : Failure} (hchain : f.chain = g.chain) : f = g := by
  obtain ⟨outermost, causes⟩ := f
  obtain ⟨outermost', causes'⟩ := g
  obtain ⟨rfl, rfl⟩ := List.cons.inj hchain
  rfl

theorem causedByFailure_assoc (f g h : Failure) :
    (f.causedByFailure g).causedByFailure h = f.causedByFailure (g.causedByFailure h) := by
  apply ext_chain
  rw [chain_causedByFailure, chain_causedByFailure, chain_causedByFailure, chain_causedByFailure,
    List.append_assoc]

/-- A cause is a failure of one link. -/
theorem causedBy_eq_causedByFailure (f : Failure) (l : Link) :
    f.causedBy l = f.causedByFailure (.ofLink l) := by
  apply ext_chain
  rw [chain_causedBy, chain_causedByFailure, chain_ofLink]

/-- The root of the cause is the root of the whole: the chain of a failure is never empty. -/
theorem root_causedByFailure (f g : Failure) : (f.causedByFailure g).root = g.root := by
  have hlast := (f.causedByFailure g).getLast?_chain
  rw [chain_causedByFailure, List.getLast?_append, getLast?_chain] at hlast
  exact (Option.some.inj hlast).symm

/-! ## §3. Links at a place. -/

/-- Where in a failure a link is looked for. -/
inductive Place where
  /-- Nearest to the caller. -/
  | outermost
  /-- All along the chain. -/
  | anywhere
  /-- At the end of the chain. -/
  | root

/-- The failure has a link that meets the condition at the place. -/
def has (f : Failure) (p : Link → Bool) : Place → Bool
  | .outermost => p f.outermost
  | .anywhere => f.chain.any p
  | .root => p f.root

/-- **What the links of a whole failure tell of its parts**: the outermost one is the first part's,
the root is the second one's, and any link is of either. -/
theorem has_causedByFailure (f g : Failure) (p : Link → Bool) (place : Place) :
    (f.causedByFailure g).has p place
      = match place with
        | .outermost => f.has p .outermost
        | .anywhere => f.has p .anywhere || g.has p .anywhere
        | .root => g.has p .root := by
  cases place with
  | outermost => rfl
  | anywhere =>
      show (f.causedByFailure g).chain.any p = (f.chain.any p || g.chain.any p)
      rw [chain_causedByFailure, List.any_append]
  | root =>
      show p (f.causedByFailure g).root = p g.root
      rw [root_causedByFailure]

/-- **A link at some place is a link of the chain.** -/
theorem has_anywhere {f : Failure} {p : Link → Bool} {place : Place}
    (h : f.has p place = true) : f.has p .anywhere = true := by
  cases place with
  | outermost => exact List.any_eq_true.mpr ⟨f.outermost, List.mem_cons_self, h⟩
  | anywhere => exact h
  | root => exact List.any_eq_true.mpr ⟨f.root, List.mem_of_getLast? f.getLast?_chain, h⟩

/-- A failure without causes has one link, and every place is there. -/
theorem has_of_single {f : Failure} (hsingle : f.causes = []) (p : Link → Bool) (place : Place) :
    f.has p place = p f.outermost := by
  obtain ⟨outermost, causes⟩ := f
  obtain rfl : causes = [] := hsingle
  cases place with
  | outermost => rfl
  | anywhere => exact Bool.or_false (p outermost)
  | root => rfl

/-- What holds of a failure that has another one as its cause. -/
structure Joins (f g whole : Failure) : Prop where
  chain_eq : whole.chain = f.chain ++ g.chain
  outermost_eq : whole.outermost = f.outermost
  root_eq : whole.root = g.root
  anyInChain_eq : ∀ t, whole.anyInChain t = (f.anyInChain t || g.anyInChain t)
  anyCodeInChain_eq : ∀ c, whole.anyCodeInChain c = (f.anyCodeInChain c || g.anyCodeInChain c)
  rootIs_eq : ∀ t, whole.rootIs t = g.rootIs t
  rootHasCode_eq : ∀ c, whole.rootHasCode c = g.rootHasCode c

theorem joins_causedByFailure (f g : Failure) : f.Joins g (f.causedByFailure g) := by
  constructor
  case chain_eq => exact chain_causedByFailure f g
  case outermost_eq => rfl
  case root_eq => exact root_causedByFailure f g
  case anyInChain_eq => exact fun t => has_causedByFailure f g (·.errorType == t) .anywhere
  case anyCodeInChain_eq => exact fun c => has_causedByFailure f g (·.code == some c) .anywhere
  case rootIs_eq => exact fun t => has_causedByFailure f g (·.errorType == t) .root
  case rootHasCode_eq => exact fun c => has_causedByFailure f g (·.code == some c) .root

end Failure

/-! ## §4. Matchers of the three places. -/

namespace RetryRule

/-- A rule with one more matcher retries what it retried with its own matchers, and what the new one
accepts. -/
theorem retries_also (r : RetryRule) (m : Matcher) (f : Failure) :
    (r.also m).retries f = (r.matchers.any (·.accepts f) || m.accepts f) := by
  have hsome : (r.also m).matchers ≠ [] :=
    List.append_ne_nil_of_right_ne_nil r.matchers (List.cons_ne_nil m [])
  have hown : ¬(r.also m).isDefault = true := mt List.isEmpty_iff.mp hsome
  unfold retries
  rw [if_neg hown]
  show (r.matchers ++ [m]).any _ = _
  rw [List.any_append, List.any_cons, List.any_nil, Bool.or_false]

/-- How a rule with one more matcher answers, if the matcher asks the same of the outermost link, of
the root, or of any link. -/
structure Nests (r : RetryRule) (outermost root anywhere : Matcher) (f : Failure) : Prop where
  /-- What is retried for its outermost link is retried for any of its links. -/
  of_outermost : (r.also outermost).retries f = true → (r.also anywhere).retries f = true
  /-- So is what is retried for its root. -/
  of_root : (r.also root).retries f = true → (r.also anywhere).retries f = true
  /-- Without causes there is no difference. -/
  of_single : f.causes = [] → (r.also outermost).retries f = (r.also anywhere).retries f
    ∧ (r.also root).retries f = (r.also anywhere).retries f

/-- **Matchers that ask the same of a link at the three places nest.** -/
theorem nests_of_accepts {outermost root anywhere : Matcher} {f : Failure} {p : Link → Bool}
    (houtermost : outermost.accepts f = f.has p .outermost)
    (hroot : root.accepts f = f.has p .root)
    (hanywhere : anywhere.accepts f = f.has p .anywhere) (r : RetryRule) :
    r.Nests outermost root anywhere f := by
  have hnests : ∀ {m : Matcher} {place : Failure.Place}, m.accepts f = f.has p place →
      (r.also m).retries f = true → (r.also anywhere).retries f = true := by
    intro m place hm hretried
    rw [retries_also, Bool.or_eq_true] at hretried ⊢
    refine hretried.imp_right fun haccepts => ?_
    rw [hanywhere]
    exact Failure.has_anywhere (hm.symm.trans haccepts)
  have hsame : ∀ {m : Matcher} {place : Failure.Place}, m.accepts f = f.has p place →
      f.causes = [] → (r.also m).retries f = (r.also anywhere).retries f := by
    intro m place hm hsingle
    rw [retries_also, retries_also, hm, hanywhere, Failure.has_of_single hsingle,
      Failure.has_of_single hsingle]
  exact ⟨hnests houtermost, hnests hroot,
    fun hsingle => ⟨hsame houtermost hsingle, hsame hroot hsingle⟩⟩

end RetryRule

/-- **FAILURES ARE THEIR CHAINS.**  However a failure is put together, its chain is what was put in,
from left to right, and every failure can be put together so.  A failure as the cause of another is
its chain after the other's: this is associative, and a single cause is the failure of one link.  Of
the whole the outermost link is the first part's and the root is the second one's, and it has a link
of a type or with a code where one of the parts has.  Whatever else a rule lists, what it retries
for the outermost link or the root it retries for any link, and without causes all three are one. -/
theorem cause_chains :
    (∀ c : Composition, c.failure.chain = c.links)
      ∧ (∀ f : Failure, ∃ c : Composition, c.failure = f)
      ∧ (∀ f g : Failure, f.Joins g (f.causedByFailure g))
      ∧ (∀ f g h : Failure,
        (f.causedByFailure g).causedByFailure h = f.causedByFailure (g.causedByFailure h))
      ∧ (∀ (f : Failure) (l : Link), f.causedBy l = f.causedByFailure (.ofLink l))
      ∧ ∀ (r : RetryRule) (f : Failure),
        (∀ t, r.Nests (.errorType t) (.rootCause t) (.errorTypeOrCause t) f)
          ∧ ∀ c, r.Nests (.code c) (.rootCauseCode c) (.codeOrCause c) f := by
  refine ⟨Composition.chain_failure, Composition.exists_failure_eq, Failure.joins_causedByFailure,
    Failure.causedByFailure_assoc, Failure.causedBy_eq_causedByFailure, fun r f => ⟨?_, ?_⟩⟩
  · intro t
    exact RetryRule.nests_of_accepts (p := (·.errorType == t)) rfl rfl rfl r
  · intro c
    exact RetryRule.nests_of_accepts (p := (·.code == some c)) rfl rfl rfl r

end RetryControl
