import BitcoinReserve.Account
import BitcoinReserve.Authority
import BitcoinReserve.Token

/-!
# The ledger

Backing and minted tokens, reserve by reserve, the owner of every wallet, and the token. An
operation checks all its conditions before it changes anything, so a refusal carries no ledger.
-/
namespace BitcoinReserve

structure Ledger where
  accounts : Table Text Account
  walletOwners : Table Text Text
  totalMinted : Int
  token : Token

namespace Ledger

def empty : Ledger := ⟨.empty, .empty, 0, .empty⟩

def account (l : Ledger) (reserve : Text) : Except Refusal Account :=
  match l.accounts.get? reserve with
  | some a => .ok a
  | none => .error (.reserveUnknown reserve)

def hasReserve (l : Ledger) (reserve : Text) : Bool := l.accounts.contains reserve

def reserves (l : Ledger) : List Text := l.accounts.keys

def put (l : Ledger) (reserve : Text) (a : Account) : Ledger :=
  { l with accounts := l.accounts.insert reserve a }

/-- Registers a reserve holder with its minting cap. -/
def register (l : Ledger) (auth : Authority) (caller reserve : Text) (cap : Int)
    (now : Option Int) : Except Refusal (Account × Ledger) := do
  auth.require caller .registrar
  ensure (reserve ≠ "") .reserveIdMissing
  ensure (0 < cap) (.capNotPositive cap)
  ensure (l.hasReserve reserve = false) (.reserveTaken reserve)
  let a := Account.new reserve cap now
  return (a, l.put reserve a)

def raiseCap (l : Ledger) (auth : Authority) (caller reserve : Text) (cap : Int) :
    Except Refusal Ledger := do
  auth.require caller .registrar
  let a ← l.account reserve
  ensure (a.mintingCap < cap) (.capNotHigher cap a.mintingCap)
  return l.put reserve { a with mintingCap := cap }

/-- Mints against a reserve's backing and gives what is now minted against it. Where a time is
given, old backing is refused. -/
def mint (l : Ledger) (auth : Authority) (p : Parameters) (caller reserve holder : Text)
    (amount : Int) (now : Option Int) : Except Refusal (Int × Ledger) := do
  auth.require caller .minter
  ensure (0 < amount) .tokenMintNotPositive
  let a ← l.account reserve
  ensure (a.frozen = false) (.reserveFrozen reserve)
  ensure (a.status = .active) (.reserveNotActive reserve a.status)
  ensure (now.any (a.backingIsOld p) = false) (.backingOld reserve p.maxStaleness)
  let minted := a.minted + amount
  ensure (minted ≤ a.mintingCap) (.capExceeded amount minted a.mintingCap)
  ensure (minted ≤ a.backing) (.backingExceeded amount minted a.backing)
  let token ← l.token.mint holder amount
  return (minted, { l.put reserve { a with minted } with
    token, totalMinted := l.totalMinted + amount })

/-- Burns the holder's tokens against a reserve and gives what is still minted against it. -/
def redeem (l : Ledger) (auth : Authority) (caller reserve holder : Text) (amount : Int) :
    Except Refusal (Int × Ledger) := do
  auth.requireOrOwn caller holder .minter
  ensure (0 < amount) .redeemNotPositive
  let a ← l.account reserve
  ensure (a.frozen = false) (.reserveFrozen reserve)
  ensure (a.canRedeem = true) (.reserveNotActive reserve a.status)
  ensure (amount ≤ a.minted) (.mintedLacking reserve a.minted amount)
  let token ← l.token.burn holder amount
  let minted := a.minted - amount
  return (minted, { l.put reserve { a with minted } with
    token, totalMinted := l.totalMinted - amount })

/-- Records attested backing, even one below what is minted. -/
def setBacking (l : Ledger) (reserve : Text) (backing : Int) (now : Option Int) :
    Except Refusal Ledger := do
  ensure (0 ≤ backing) .backingNegative
  let a ← l.account reserve
  return l.put reserve { a with backing, backingUpdatedAt := now }

def setStatus (l : Ledger) (reserve : Text) (status : ReserveStatus) (reason : Text)
    (now : Option Int) : Except Refusal Ledger := do
  ensure (status ≠ .emergencyPaused) .freezeAsStatus
  let a ← l.account reserve
  ensure (a.status.mayBecome status) (.moveNotAllowed a.status status)
  return l.put reserve (a.moveTo status reason now)

/-- A reserve holder pauses its own minting. -/
def selfPause (l : Ledger) (caller reserve : Text) (now : Option Int) : Except Refusal Ledger := do
  ensure (caller = reserve) .pausedByOther
  l.setStatus reserve .selfPaused "self_pause" now

def resume (l : Ledger) (caller reserve : Text) (now : Option Int) : Except Refusal Ledger := do
  ensure (caller = reserve) .resumedByOther
  let a ← l.account reserve
  ensure (a.status = .selfPaused) (.notSelfPaused reserve)
  l.setStatus reserve .active "resume" now

/-- Freezes a reserve, or thaws one that is frozen. -/
def setFrozen (l : Ledger) (reserve : Text) (frozen : Bool) : Except Refusal Ledger := do
  let a ← l.account reserve
  ensure (frozen = true ∨ a.frozen = true) (.reserveNotFrozen reserve)
  return l.put reserve { a with frozen }

def isOperational (l : Ledger) (reserve : Text) : Except Refusal Bool := do
  return (← l.account reserve).canMint

/-- Attaches a wallet to a reserve. A wallet is known by its address as written. -/
def attachWallet (l : Ledger) (auth : Authority) (p : Parameters) (caller reserve wallet : Text) :
    Except Refusal Ledger := do
  auth.requireOrOwn caller reserve .registrar
  let _ ← (Address.decode p.network wallet).mapError Refusal.address
  let a ← l.account reserve
  match l.walletOwners.get? wallet with
  | some owner => throw (.walletTaken wallet owner)
  | none =>
    return { l.put reserve { a with wallets := KeySet.add a.wallets wallet } with
      walletOwners := l.walletOwners.insert wallet reserve }

def detachWallet (l : Ledger) (auth : Authority) (caller reserve wallet : Text) :
    Except Refusal Ledger := do
  auth.requireOrOwn caller reserve .registrar
  let a ← l.account reserve
  ensure (a.wallets.contains wallet = true) (.walletNotOwned wallet reserve)
  return { l.put reserve { a with wallets := a.wallets.erase wallet } with
    walletOwners := l.walletOwners.erase wallet }

def ownsWallet (l : Ledger) (reserve wallet : Text) : Bool :=
  l.walletOwners.get? wallet = some reserve

/-- A breach of the rules of accounting. -/
inductive Breach where
  | underBacked (reserve : Text) (backing minted : Int)
  | overCap (reserve : Text) (minted cap : Int)
  | totalOff (recorded sum : Int)
  deriving DecidableEq, Repr

def Breach.text : Breach → Text
  | .underBacked reserve backing minted => reserve ++ s!": backing {backing} < minted {minted}"
  | .overCap reserve minted cap => reserve ++ s!": minted {minted} > cap {cap}"
  | .totalOff recorded sum => s!"total minted {recorded} != sum of reserves {sum}"

def mintedSum (l : Ledger) : Int := l.accounts.values.foldr (fun a sum => a.minted + sum) 0

def accountBreaches (a : Account) : List Breach :=
  (if a.underBacked then [.underBacked a.reserve a.backing a.minted] else []) ++
    if a.mintingCap < a.minted then [.overCap a.reserve a.minted a.mintingCap] else []

/-- The breaches in order of registration, that of the total last. -/
def breaches (l : Ledger) : List Breach :=
  l.accounts.values.flatMap accountBreaches ++
    if l.mintedSum ≠ l.totalMinted then [.totalOff l.totalMinted l.mintedSum] else []

end Ledger

end BitcoinReserve
