/-
Origins of this runtime (`construct_runtime!` in runtime/src/lib.rs).

Three pallets contribute an origin: System (`RawOrigin`), and the two collectives, Council (`Instance1`) and
TechnicalCommittee (`Instance2`), declared with `Origin<T>`. `ensureSigned` is `frame_system::ensure_signed`: it
accepts a signed system origin and nothing else, and gives the signer.

The origins that decide for the Council are types of the runtime, `MoreThanHalfCouncil` and `ApproveOrigin`: each is
root, or a motion of the Council with enough of its members behind it (`EnsureOneOf`, `EnsureProportionMoreThan`,
`EnsureProportionAtLeast`). The collectives compare the two products in `u32`; with the hundred members a Council may have
here (`CouncilMaxMembers`) they are the same in the naturals.
-/
import Mathlib.Tactic

namespace NodeTemplate.Runtime

/-- `frame_system::RawOrigin` -/
inductive RawOrigin (AccountId : Type) where
  | root
  | signed (who : AccountId)
  | none
deriving DecidableEq, Repr

/-- `pallet_collective::RawOrigin`: a motion approved by `yes` of `seats` members, or one member alone -/
inductive CollectiveOrigin (AccountId : Type) where
  | members (yes seats : ℕ)
  | member (who : AccountId)
deriving DecidableEq, Repr

/-- the origins this runtime's calls can be dispatched with -/
inductive OriginCaller (AccountId : Type) where
  | system (o : RawOrigin AccountId)
  | council (o : CollectiveOrigin AccountId)
  | technicalCommittee (o : CollectiveOrigin AccountId)
deriving DecidableEq, Repr

/-- the signer of a signed origin -/
def OriginCaller.signer {AccountId : Type} : OriginCaller AccountId → Option AccountId
  | .system (.signed who) => some who
  | _ => none

/-- what a dispatch can fail with: a bad origin, or an error of the called pallet -/
inductive DispatchError (Error : Type) where
  | badOrigin
  | module (e : Error)
deriving DecidableEq, Repr

/-- `frame_system::ensure_signed` -/
def ensureSigned {AccountId E : Type} (origin : OriginCaller AccountId) : Except (DispatchError E) AccountId :=
  match origin.signer with
  | some who => .ok who
  | none => .error .badOrigin

section Council

variable {AccountId : Type}

/-- `EnsureRoot` -/
def ensureRoot : OriginCaller AccountId → Bool
  | .system .root => true
  | _ => false

/-- `EnsureOneOf` -/
def ensureOneOf (l r : OriginCaller AccountId → Bool) (origin : OriginCaller AccountId) : Bool := l origin || r origin

/-- `EnsureProportionMoreThan<n, d, AccountId, CouncilCollective>` -/
def ensureProportionMoreThan (n d : ℕ) : OriginCaller AccountId → Bool
  | .council (.members yes seats) => n * seats < yes * d
  | _ => false

/-- `EnsureProportionAtLeast<n, d, AccountId, CouncilCollective>` -/
def ensureProportionAtLeast (n d : ℕ) : OriginCaller AccountId → Bool
  | .council (.members yes seats) => n * seats ≤ yes * d
  | _ => false

def moreThanHalfCouncil : OriginCaller AccountId → Bool := ensureOneOf ensureRoot (ensureProportionMoreThan 1 2)

def approveOrigin : OriginCaller AccountId → Bool := ensureOneOf ensureRoot (ensureProportionAtLeast 3 5)

end Council

end NodeTemplate.Runtime
