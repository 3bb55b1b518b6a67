import IdentityServer.Error

/-!
# Transactions

Statements on a table that take effect together: the table after the last statement, or a fault and no
table at all, so that a statement that fails undoes those before it.
-/

namespace IdentityServer

/-- Statements on a table of type `σ` that answer with a value of type `α`. -/
abbrev Transaction (σ α : Type) := StateT σ (Except StorageFault) α

namespace Transaction
variable {σ α : Type}

/-- What the statements answer and the table they leave, or the failure of the service that their fault
    causes. -/
def execute (transaction : Transaction σ α) (table : σ) : Except ServiceError (α × σ) :=
  match StateT.run transaction table with
  | .ok result => .ok result
  | .error fault => .error (.storage fault)

end Transaction

/-- The row number after the greatest one ever given. None is left once the greatest word is reached. -/
def nextNumber (last : Int64) : Except StorageFault Int64 :=
  if last = Int64.maxValue then .error .numbersExhausted else .ok (last + 1)

end IdentityServer
