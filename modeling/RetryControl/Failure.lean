/-
  RetryControl.Failure
  ────────────────────────────────
  **CLASSIFIED FAILURES.**

  A failed attempt is described by a chain of links, the outermost link first
  and the root cause last.  Each link carries an error type and perhaps a
  code.  Retry decisions read only this description, never the error itself.
-/
import RetryControl.Duration

namespace RetryControl

/-! ## §1. Error types. -/

/-- What kind of fault a link of a failure reports. -/
inductive ErrorType where
  /-- A fault that is expected to go away by itself. -/
  | transient
  /-- The downstream resource asked for fewer requests. -/
  | throttling
  /-- The downstream resource failed. -/
  | serverError
  /-- The request itself is at fault. -/
  | clientError
  deriving Repr, DecidableEq

namespace ErrorType

/-- Every error type, in declaration order. -/
def all : List ErrorType := [.transient, .throttling, .serverError, .clientError]

/-- The error types that are retried unless a rule says otherwise. -/
def defaultRetryable : List ErrorType := [.transient, .throttling, .serverError]

/-- The name of an error type in messages and documents. -/
def name : ErrorType → String
  | .transient => "transient"
  | .throttling => "throttling"
  | .serverError => "server_error"
  | .clientError => "client_error"

/-- The position of an error type in `all`. -/
def index : ErrorType → Nat
  | .transient => 0
  | .throttling => 1
  | .serverError => 2
  | .clientError => 3

/-- The error type of a name. -/
def ofName? (s : String) : Option ErrorType := all.find? (·.name == s)

theorem mem_all (t : ErrorType) : t ∈ all := by
  cases t <;> decide

theorem all_getElem?_index (t : ErrorType) : all[t.index]? = some t := by
  cases t <;> rfl

/-- Only client errors are left alone by default. -/
theorem mem_defaultRetryable_iff (t : ErrorType) : t ∈ defaultRetryable ↔ t ≠ .clientError := by
  cases t <;> decide

end ErrorType

/-! ## §2. Links and failures. -/

/-- One link of a failure. -/
structure Link where
  /-- The kind of fault. -/
  errorType : ErrorType
  /-- A code that tells faults of one kind apart. -/
  code : Option String := none
  deriving Repr, DecidableEq

/-- A failed attempt: its outermost link and the causes below it. -/
structure Failure where
  /-- The link nearest to the caller. -/
  outermost : Link
  /-- The links below it, the root cause last. -/
  causes : List Link := []
  deriving Repr, DecidableEq

namespace Failure

/-- A failure of one link. -/
def ofLink (l : Link) : Failure := ⟨l, []⟩

/-- A failure of one link without a code. -/
def ofType (t : ErrorType) : Failure := ofLink ⟨t, none⟩

/-- The same failure with a code on its outermost link. -/
def withCode (f : Failure) (code : String) : Failure :=
  { f with outermost := { f.outermost with code := some code } }

/-- The same failure with one more cause at the root. -/
def causedBy (f : Failure) (l : Link) : Failure := { f with causes := f.causes ++ [l] }

/-- All links of a failure, the outermost first. -/
def chain (f : Failure) : List Link := f.outermost :: f.causes

/-- The same failure with a whole other failure as its root cause. -/
def causedByFailure (f g : Failure) : Failure := { f with causes := f.causes ++ g.chain }

/-- The error type of the outermost link. -/
def errorType (f : Failure) : ErrorType := f.outermost.errorType

/-- The code of the outermost link. -/
def code (f : Failure) : Option String := f.outermost.code

/-- The last cause, or the outermost link of a failure without causes. -/
def root (f : Failure) : Link := f.causes.getLast?.getD f.outermost

/-- Some link has the error type. -/
def anyInChain (f : Failure) (t : ErrorType) : Bool := f.chain.any (·.errorType == t)

/-- Some link has the code. -/
def anyCodeInChain (f : Failure) (code : String) : Bool := f.chain.any (·.code == some code)

/-- The root has the error type. -/
def rootIs (f : Failure) (t : ErrorType) : Bool := f.root.errorType == t

/-- The root has the code. -/
def rootHasCode (f : Failure) (code : String) : Bool := f.root.code == some code

/-! ## §3. The chain as the view of a failure. -/

@[simp] theorem chain_ofLink (l : Link) : (ofLink l).chain = [l] := rfl

@[simp] theorem chain_causedBy (f : Failure) (l : Link) :
    (f.causedBy l).chain = f.chain ++ [l] := rfl

@[simp] theorem chain_causedByFailure (f g : Failure) :
    (f.causedByFailure g).chain = f.chain ++ g.chain := rfl

/-- The root is the last link of the chain. -/
theorem getLast?_chain (f : Failure) : f.chain.getLast? = some f.root := by
  cases f with
  | mk o cs => simp [chain, root, List.getLast?_cons]

end Failure

/-! ## §4. Errors that can be classified. -/

/-- An error of the caller's own that says how it counts as a failure. -/
class Classifiable (ε : Type) where
  /-- The failure that the error stands for. -/
  classify : ε → Failure
  /-- The shortest wait that the error itself asks for. -/
  suggestedDelay : ε → Option Duration := fun _ => none

instance : Classifiable Failure where
  classify f := f

instance : Classifiable ErrorType where
  classify := Failure.ofType

end RetryControl
