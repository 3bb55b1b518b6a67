import IdentityServer.Json.Record

/-!
# Attestations

What this server signs: that an identifier is bound to an account within a span of time, or that it is not
bound to that account any more.
-/

namespace IdentityServer

/-- The signed statement that an identifier is bound. -/
structure BindingAttestation where
  medium : Medium
  address : String
  account : String
  notBefore : Int64
  notAfter : Option Int64
  madeAt : Int64
  deriving DecidableEq, Repr

/-- The signed statement that a binding was removed. -/
structure UnbindingAttestation where
  medium : Medium
  address : String
  account : String
  deletedAt : Int64
  deriving DecidableEq, Repr

/-- The object of a binding; without an end there is no field for it. -/
def BindingAttestation.toJson (a : BindingAttestation) : Json :=
  .ofFields (
    [("address", .str a.address), ("medium", .str a.medium.name), ("mxid", .str a.account)] ++
    Json.optionalField "not_after" (a.notAfter.map .ofInt64) ++
    [("not_before", .ofInt64 a.notBefore), ("ts", .ofInt64 a.madeAt)])

/-- The binding that an object states. -/
def BindingAttestation.ofObject? (v : Json) : Option BindingAttestation := do
  return {
    medium := ← v.required (Json.medium? Json.isNull) "medium"
    address := ← v.required Json.text? "address"
    account := ← v.required Json.text? "mxid"
    notBefore := ← v.required Json.int64? "not_before"
    notAfter := ← v.optionalInt64 "not_after"
    madeAt := ← v.required Json.int64? "ts" }

/-- The names of the fields of a binding in the order of a list. -/
def BindingAttestation.layout : Json.Layout where
  needed := ["medium", "address", "mxid", "not_before", "not_after", "ts"]

/-- The binding that a record states. -/
def BindingAttestation.ofJson? : Json → Option BindingAttestation :=
  layout.read? ofObject?

/-- The object of an unbinding. -/
def UnbindingAttestation.toJson (a : UnbindingAttestation) : Json :=
  .ofFields [("address", .str a.address), ("deleted_ts", .ofInt64 a.deletedAt),
    ("medium", .str a.medium.name), ("mxid", .str a.account)]

/-- The unbinding that an object states. -/
def UnbindingAttestation.ofObject? (v : Json) : Option UnbindingAttestation := do
  return {
    medium := ← v.required (Json.medium? Json.isNull) "medium"
    address := ← v.required Json.text? "address"
    account := ← v.required Json.text? "mxid"
    deletedAt := ← v.required Json.int64? "deleted_ts" }

/-- The names of the fields of an unbinding in the order of a list. -/
def UnbindingAttestation.layout : Json.Layout where
  needed := ["medium", "address", "mxid", "deleted_ts"]

/-- The unbinding that a record states. -/
def UnbindingAttestation.ofJson? : Json → Option UnbindingAttestation :=
  layout.read? ofObject?

end IdentityServer
