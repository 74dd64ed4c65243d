import BitcoinReserve.Refusal
import BitcoinReserve.Table

/-!
# Authority

Who may do what: everyone everything, or each actor the roles granted and not revoked.
-/
namespace BitcoinReserve

inductive Authority where
  | everyone
  | granted (roles : Table Text (List Role))

namespace Authority

def allows (a : Authority) (actor : Text) (role : Role) : Bool :=
  match a with
  | everyone => true
  | granted roles => (roles.getD actor []).contains role

def grant (a : Authority) (actor : Text) (role : Role) : Authority :=
  match a with
  | everyone => everyone
  | granted roles => granted (roles.insert actor ((roles.getD actor []).insert role))

def revoke (a : Authority) (actor : Text) (role : Role) : Authority :=
  match a with
  | everyone => everyone
  | granted roles => granted (roles.modify actor fun held => held.filter (· ≠ role))

def ofGrants (grants : List (Text × List Role)) : Authority :=
  grants.foldl (fun a (actor, roles) => roles.foldl (fun a role => a.grant actor role) a)
    (granted .empty)

/-- The actors with a granted role. -/
def members (a : Authority) (role : Role) : List Text :=
  match a with
  | everyone => []
  | granted roles => (roles.entries.filter fun entry => entry.2.contains role).map Prod.fst

def require (a : Authority) (actor : Text) (role : Role) : Except Refusal Unit :=
  ensure (a.allows actor role) (.lacksRole actor role)

/-- What belongs to the owner needs no role of the owner. -/
def requireOrOwn (a : Authority) (actor owner : Text) (role : Role) : Except Refusal Unit :=
  ensure (actor = owner ∨ a.allows actor role) (.lacksRole actor role)

end Authority

end BitcoinReserve
