/-
Constants of the runtime: runtime/src/constants.rs (`currency`, `time`), and the `parameter_types!` values of
runtime/src/lib.rs that the modelled pallets read.

Balances are `u128`, block numbers and session indices `u32`. All of them are naturals here; where the code can
overflow, the operation says so (`Core.Profile.fit`). The constants themselves are evaluated at compile time, where an
overflow is an error.
-/
import Mathlib.Tactic

namespace NodeTemplate.Runtime

/-! ## `currency` -/

def bdts : ℕ := 1000000000000

def dollars : ℕ := bdts / 100

def cents : ℕ := dollars / 100

/-! ## `time`: measured in blocks -/

def millisecsPerBlock : ℕ := 6000

def minutes : ℕ := 60000 / millisecsPerBlock

def hours : ℕ := minutes * 60

def days : ℕ := hours * 24

/-! ## `parameter_types!` -/

def existentialDeposit : ℕ := 500

def sessionsPerEra : ℕ := 3

def spendPeriod : ℕ := days

/-- `Permill::from_percent(0)`, in parts per million -/
def burn : ℕ := 0

/-- `Permill::from_percent(5)`, in parts per million -/
def proposalBond : ℕ := 50000

def proposalBondMinimum : ℕ := dollars

def bountyDepositBase : ℕ := dollars

def bountyValueMinimum : ℕ := 5 * dollars

def dataDepositPerByte : ℕ := cents

def maximumReasonLength : ℕ := 16384

end NodeTemplate.Runtime
