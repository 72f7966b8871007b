/-
Module: MarketX.Wallets.WalletService
Purpose: The keys of the wallets (`wallet/wallet.service.ts`): a wallet for a
  new user, and the rotation of a wallet's keys with the record of the old
  ones.
Trusted boundary: human-reviewed model of the source
Main exports: Wallet, WalletKeyAudit, World, Op
-/
import MarketX.Common.Service
import MarketX.Effects.Table

namespace MarketX.Wallets

open Effects

/-! ### The rows -/

/-- The secret key is stored encrypted. -/
structure Wallet where
  id : Id
  publicKey : String
  secretKey : String
  userId : Id
deriving DecidableEq

instance : Keyed Wallet := ⟨Wallet.id⟩

structure WalletKeyAudit where
  userId : Id
  oldPublicKey : String
  oldSecretKey : String
deriving DecidableEq

/-- The tables, and the random bytes that are drawn, in hexadecimal digits.
`stored` lists every row that has been saved, for the statements only. -/
structure World where
  wallets : Table Wallet
  audits : List WalletKeyAudit
  random : ℕ → String
  drawn : ℕ
  stored : List Wallet

namespace World

variable (world : World)

def withWallet (wallet : Wallet) : World :=
  { world with
    wallets := world.wallets.save wallet
    stored := world.stored ++ [wallet] }

def withAudit (audit : WalletKeyAudit) : World :=
  { world with audits := world.audits ++ [audit] }

def ofUser (userId : Id) : Option Wallet :=
  world.wallets.rows.find? fun wallet => wallet.userId = userId

end World

/-! ### The effects -/

/-- An inserted wallet has no key yet: its `id` is ignored and generated. -/
inductive Op where
  | findWallet (userId : Id)
  | insertWallet (wallet : Wallet)
  | saveWallet (wallet : Wallet)
  | saveAudit (audit : WalletKeyAudit)
  | randomBytes

@[reducible] def Reply : Op → Type
  | .findWallet _ => Option Wallet
  | .insertWallet _ => Option Wallet
  | .randomBytes => String
  | _ => Unit

/-- The user of a wallet is unique: no second one is inserted. -/
def act : (op : Op) → World → Reply op × World
  | .findWallet userId, world => (world.ofUser userId, world)
  | .insertWallet wallet, world =>
    if (world.ofUser wallet.userId).isSome then (none, world)
    else
      let stored := { wallet with id := world.wallets.next }
      (some stored, world.withWallet stored)
  | .saveWallet wallet, world => ((), world.withWallet wallet)
  | .saveAudit audit, world => ((), world.withAudit audit)
  | .randomBytes, world =>
    (world.random world.drawn, { world with drawn := world.drawn + 1 })

def mayFail : Op → Bool
  | .randomBytes => false
  | _ => true

abbrev signature : Signature := ⟨Op, Reply⟩

def wallets : Handler signature World := ⟨act, mayFail⟩

abbrev Service (α : Type) := Program signature HttpException α

def await (op : Op) : Service (Reply op) := Program.perform (S := signature) op

abbrev walletRepository.save (wallet : Wallet) : Service Unit := await (.saveWallet wallet)

/-- `save` of an entity that `create` just made. -/
def walletRepository.insert (wallet : Wallet) : Service Wallet := do
  match ← await (.insertWallet wallet) with
  | some stored => pure stored
  | none => throw (.error "duplicate key value violates unique constraint")

abbrev walletKeyAuditRepository.save (audit : WalletKeyAudit) :
    Service Unit := await (.saveAudit audit)

/-! ### The service -/

structure KeyPair where
  publicKey : String
  secretKey : String
deriving DecidableEq

/-- The environment, and the functions of the runtime's `crypto`: the SHA-256
digest, and AES-256 in counter mode from zero under the first 32 characters
of a key, which throws where these are not 32 bytes. -/
structure Runtime where
  secretKey : Option String
  sha256 : String → String
  cipher : String → String → Option String

namespace WalletService

variable (runtime : Runtime)

def generateKeyPair : Service KeyPair := do
  let secretKey ← await .randomBytes
  pure { publicKey := runtime.sha256 secretKey, secretKey }

def encrypt (text : String) : Except HttpException String :=
  match runtime.secretKey.filter (· ≠ "") with
  | none => .error (.error "SECRET_KEY is not defined in environment variables")
  | some key =>
    match runtime.cipher key text with
    | none => .error (.error "Invalid key length")
    | some encrypted => .ok encrypted

def createWalletForUser (userId : Id) : Service Wallet := do
  let pair ← generateKeyPair runtime
  let encryptedSecret ← ofExcept (encrypt runtime pair.secretKey)
  walletRepository.insert
    { id := 0, publicKey := pair.publicKey, secretKey := encryptedSecret
      userId }

def findByUserId (userId : Id) : Service (Option Wallet) := await (.findWallet userId)

def regenerateWalletKeys (userId : Id) : Service Wallet := do
  match ← findByUserId userId with
  | none => throw (.error "Wallet not found for user")
  | some wallet =>
    walletKeyAuditRepository.save
      { userId
        oldPublicKey := wallet.publicKey
        oldSecretKey := wallet.secretKey }
    let pair ← generateKeyPair runtime
    let encryptedSecret ← ofExcept (encrypt runtime pair.secretKey)
    let wallet :=
      { wallet with
        publicKey := pair.publicKey
        secretKey := encryptedSecret }
    walletRepository.save wallet
    pure wallet

end WalletService

/-! ### The calls -/

inductive WalletCall where
  | createWalletForUser (userId : Id)
  | regenerateWalletKeys (userId : Id)
deriving DecidableEq

def WalletCall.program (runtime : Runtime) : WalletCall → Service Unit
  | .createWalletForUser userId => do
      let _ ← WalletService.createWalletForUser runtime userId
      pure ()
  | .regenerateWalletKeys userId => do
      let _ ← WalletService.regenerateWalletKeys runtime userId
      pure ()

end MarketX.Wallets
