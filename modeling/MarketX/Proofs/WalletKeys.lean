/-
Module: MarketX.Proofs.WalletKeys
Purpose: Secret keys under the one keystream of their counter mode, and
  rotations of wallet keys in any interleaving, with any failures.
Trusted boundary: the runtime's AES in counter mode is a keystream that is a
  function of the key and the first counter block; the definitions under
  review are counterMode, counterRuntime, MadeWith, Confidential, stores,
  Recoverable, AuditsStored, lastRead and upToDate
Main exports: Keystream, counterMode, secrets_confidential_iff, wallet_keys_recoverable
-/
import MarketX.Effects.Dialogues
import MarketX.Effects.Schedules
import MarketX.Numerals.Digest
import MarketX.Wallets.WalletService

namespace MarketX.Wallets

open Effects Handler Numerals WalletService

/-! ### Counter mode -/

abbrev Block := List ℕ

/-- The bytes that encrypting the counters from a block on gives. -/
abbrev Keystream := List ℕ → Block → ℕ → UInt8

/-- `createCipheriv('aes-256-ctr', key, block)` on a text, in hexadecimal
digits.  It throws where the key is not of 32 bytes. -/
def counterMode (keystream : Keystream) (key : String) (block : Block)
    (text : String) : Option String :=
  if (utf8 key).length = 32 then
    some (String.ofList (hexText (masked (keystream (utf8 key) block) (utf8 text))))
  else none

def cipherKey (key : String) : String := String.ofList (key.toList.take 32)

def zeroBlock : Block := List.replicate 16 0

/-- The environment and the `crypto` of the service. -/
def counterRuntime (secretKey : Option String) (sha256 : String → String)
    (keystream : Keystream) : Runtime where
  secretKey
  sha256
  cipher key text := counterMode keystream (cipherKey key) zeroBlock text

section

variable (secretKey : Option String) (sha256 : String → String) (keystream : Keystream)

/-- Calls one at a time, each with the failures of its effects. -/
def keep (world : World) (input : WalletCall × List Fault) : World :=
  (wallets.play (input.1.program (counterRuntime secretKey sha256 keystream)) input.2 world).2.2

/-! ### The property -/

/-- The wallet's secret is this one, which has been drawn, masked with the
stream from the block on. -/
def MadeWith (world : World) (block : Block) (wallet : Wallet) (secret : String) : Prop :=
  (∃ place < world.drawn, world.random place = secret) ∧ wallet.publicKey = sha256 secret ∧
      ∃ key, secretKey = some key ∧ counterMode keystream (cipherKey key) block secret =
          some wallet.secretKey

/-- The bytes of a ciphertext. -/
def Wallet.bytes (wallet : Wallet) : List ℕ := hexBytes wallet.secretKey.toList

/-- Of all that has been stored, and so of all that is recorded, no two
ciphertexts are made with one keystream; so that together they do not tell
how their secrets differ, nor the one secret with the other. -/
structure Confidential (world : World) : Prop where
  streams : world.stored.Pairwise fun first second => ∀ block secret other,
    ¬ (MadeWith secretKey sha256 keystream world block first secret ∧
      MadeWith secretKey sha256 keystream world block second other)
  differences : world.stored.Pairwise fun first second =>
    ∀ block block' secret other, MadeWith secretKey sha256 keystream world block first secret →
        MadeWith secretKey sha256 keystream world block' second other →
          xorBytes first.bytes second.bytes ≠ xorBytes (utf8 secret) (utf8 other)
  leaks : world.stored.Pairwise fun first second =>
    ∀ block block' secret other, MadeWith secretKey sha256 keystream world block first secret →
        MadeWith secretKey sha256 keystream world block' second other →
          xorBytes (xorBytes first.bytes second.bytes) (utf8 secret) ≠ utf8 other

/-! ### The condition -/

/-- There is a key, and its first characters are 32 bytes. -/
def usable : Bool :=
  (secretKey.filter (· ≠ "")).any fun key => (utf8 (cipherKey key)).length = 32

/-- The call comes to store a secret: it can be met, and none of its calls
throws. -/
def stores (world : World) : WalletCall × List Fault → Bool
  | (.createWalletForUser userId, script) =>
    usable secretKey && (world.ofUser userId).isNone && answeredUpTo 1 script
  | (.regenerateWalletKeys userId, script) =>
    usable secretKey && (world.ofUser userId).isSome && answeredUpTo 3 script

/-- A secret is stored only if none has been. -/
def OnlySecret (world : World) (input : WalletCall × List Fault) : Prop :=
  stores secretKey world input = true → world.stored = []

/-! ### One call -/

inductive KeyStored (world : World) (input : WalletCall × List Fault) :
    World → Prop where
  | nothing {after : World} (unmet : stores secretKey world input = false)
      (stored : after.stored = world.stored) (random : after.random = world.random)
      (drawn : world.drawn ≤ after.drawn) : KeyStored world input after
  | secret {after : World} {wallet : Wallet} {secret : String}
      (met : stores secretKey world input = true) (stored : after.stored = world.stored ++ [wallet])
      (random : after.random = world.random) (drawn : world.drawn ≤ after.drawn)
      (made : MadeWith secretKey sha256 keystream after zeroBlock wallet
        secret) : KeyStored world input after

theorem usable_iff : usable secretKey = true ↔ ∃ key, secretKey = some key ∧ key ≠ "" ∧
      (utf8 (cipherKey key)).length = 32 := by
  unfold usable
  cases secretKey <;> simp

theorem encrypt_of_usable (able : usable secretKey = true) (text : String) :
    ∃ key encrypted, secretKey = some key ∧
      counterMode keystream (cipherKey key) zeroBlock text = some encrypted ∧
      encrypt (counterRuntime secretKey sha256 keystream) text =
        .ok encrypted := by
  obtain ⟨key, rfl, present, long⟩ := (usable_iff secretKey).mp able
  simp_all [counterMode, encrypt, counterRuntime, Option.filter]

theorem encrypt_of_not_usable (unable : usable secretKey = false) (text : String) :
    ∃ error, encrypt (counterRuntime secretKey sha256 keystream) text =
      .error error := by
  unfold encrypt counterRuntime
  cases secretKey with
  | none => exact ⟨_, rfl⟩
  | some key =>
    by_cases missing : key = ""
    · exact ⟨_, by simp [Option.filter, missing]; rfl⟩
    · simp_all [utf8, usable, Option.filter, counterMode]

variable {secretKey sha256 keystream}

variable {world after : World} {wallet : Wallet} {block : Block} {secret : String}
  {input : WalletCall × List Fault}

theorem madeWith_encrypted {place : ℕ}
    {key encrypted : String} (drawn : place < world.drawn) (named : secretKey = some key)
    (ciphered : counterMode keystream (cipherKey key) zeroBlock
      (world.random place) = some encrypted)
    (isPublic : wallet.publicKey = sha256 (world.random place))
    (isSecret : wallet.secretKey = encrypted) :
    MadeWith secretKey sha256 keystream world zeroBlock wallet (world.random place) :=
  ⟨⟨place, drawn, rfl⟩, isPublic, key, named, isSecret ▸ ciphered⟩

theorem play_generateKeyPair {α : Type} {runtime : Runtime}
    {rest : KeyPair → Service α} {script : List Fault} (world : World) :
    wallets.play (generateKeyPair runtime >>= rest) script world = wallets.play
        (rest ⟨runtime.sha256 (world.random world.drawn), world.random world.drawn⟩) script
        { world with drawn := world.drawn + 1 } := by
  unfold generateKeyPair
  rw [Program.bind_assoc]
  exact play_bind_ok (play_safe rfl script world)

theorem wallets_act (op : Op) (world : World) :
    wallets.act op world = act op world := rfl

theorem keyStored_create (world : World) (userId : Id) (script : List Fault) :
    KeyStored secretKey sha256 keystream world (.createWalletForUser userId, script)
      (wallets.play (createWalletForUser (counterRuntime secretKey sha256 keystream) userId) script
        world).2.2 := by
  unfold createWalletForUser
  rw [play_generateKeyPair]
  cases able : usable secretKey with
  | false =>
    obtain ⟨error, refused⟩ := encrypt_of_not_usable secretKey sha256
      keystream able (world.random world.drawn)
    rw [refused]
    exact .nothing (by simp [stores, able]) rfl rfl (Nat.le_succ _)
  | true =>
    obtain ⟨key, encrypted, named, ciphered, returned⟩ :=
      encrypt_of_usable secretKey sha256 keystream able (world.random world.drawn)
    rw [returned]
    show KeyStored _ _ _ _ _ (wallets.play (await _ >>= _) _ _).2.2
    refine play_ask rfl (fun ending => KeyStored _ _ _ world _ ending.2.2) ?_ ?_
    · intro error throws
      have unanswered : answeredUpTo 1 script = false := by
        rw [answeredUpTo_succ, throws]
        rfl
      exact .nothing (by simp [stores, unanswered]) rfl rfl (Nat.le_succ _)
    · intro acts
      have answered : answeredUpTo 1 script = true := by
        rw [answeredUpTo_succ, acts]
        simp [answeredUpTo]
      rw [wallets_act]
      simp only [act]
      rw [show ({ world with drawn := world.drawn + 1 } : World).ofUser
        userId = world.ofUser userId from rfl]
      cases taken : (world.ofUser userId).isSome with
      | true =>
        have unmet : stores secretKey world (.createWalletForUser userId, script) = false := by
          simp [stores, Option.isNone_eq_false_iff.mpr taken]
        exact .nothing unmet rfl rfl (Nat.le_succ _)
      | false =>
        have met : stores secretKey world (.createWalletForUser userId, script) = true := by
          simp_all [stores]
        exact .secret met rfl rfl (Nat.le_succ _)
          (madeWith_encrypted (Nat.lt_succ_self world.drawn) named ciphered rfl rfl)

theorem keyStored_regenerate (world : World) (userId : Id) (script : List Fault) :
    KeyStored secretKey sha256 keystream world (.regenerateWalletKeys userId, script)
      (wallets.play (regenerateWalletKeys (counterRuntime secretKey sha256 keystream) userId) script
        world).2.2 := by
  have unanswered : answeredUpTo 3 script = false →
      stores secretKey world (.regenerateWalletKeys userId, script) =
        false := fun answers => by simp [stores, answers]
  refine play_ask rfl (fun ending => KeyStored _ _ _ world _ ending.2.2) ?_ ?_
  · intro error throws
    refine .nothing (unanswered ?_) rfl rfl (Nat.le_refl _)
    rw [answeredUpTo_succ, throws]
    rfl
  intro first
  rw [wallets_act]
  simp only [act]
  cases found : world.ofUser userId with
  | none => exact .nothing (by simp [stores, found]) rfl rfl (Nat.le_refl _)
  | some wallet =>
    refine play_ask rfl (fun ending => KeyStored _ _ _ world _ ending.2.2) ?_ ?_
    · intro error throws
      refine .nothing (unanswered ?_) rfl rfl (Nat.le_refl _)
      simp_all [answeredUpTo_succ]
    intro second
    rw [wallets_act]
    simp only [act]
    rw [play_generateKeyPair]
    simp only [World.withAudit]
    cases able : usable secretKey with
    | false =>
      obtain ⟨error, refused⟩ := encrypt_of_not_usable secretKey sha256
        keystream able (world.random world.drawn)
      rw [refused]
      exact .nothing (by simp [stores, able]) rfl rfl (Nat.le_succ _)
    | true =>
      obtain ⟨key, encrypted, named, ciphered, returned⟩ :=
        encrypt_of_usable secretKey sha256 keystream able (world.random world.drawn)
      rw [returned]
      refine play_ask rfl (fun ending => KeyStored _ _ _ world _ ending.2.2) ?_ ?_
      · intro error throws
        refine .nothing (unanswered ?_) rfl rfl (Nat.le_succ _)
        simp_all [answeredUpTo_succ]
      · intro third
        have answered : answeredUpTo 3 script = true := by
          rw [answeredUpTo_succ, first, answeredUpTo_succ, second, answeredUpTo_succ, third]
          simp [answeredUpTo]
        have met : stores secretKey world (.regenerateWalletKeys userId, script) = true := by
          simp [stores, able, found, answered]
        exact .secret met rfl rfl (Nat.le_succ _)
          (madeWith_encrypted (Nat.lt_succ_self world.drawn) named ciphered rfl rfl)

theorem keyStored (world : World) (input : WalletCall × List Fault) :
    KeyStored secretKey sha256 keystream world input
      (keep secretKey sha256 keystream world input) := by
  obtain ⟨call, script⟩ := input
  cases call with
  | createWalletForUser userId =>
    show KeyStored _ _ _ _ _ (wallets.play (createWalletForUser _ _ >>= fun _ => pure ()) _ _).2.2
    rw [play_discard]
    exact keyStored_create world userId script
  | regenerateWalletKeys userId =>
    show KeyStored _ _ _ _ _ (wallets.play (regenerateWalletKeys _ _ >>= fun _ => pure ()) _ _).2.2
    grind [play_discard, keyStored_regenerate]

/-! ### Every run -/

/-- Every secret that was stored is masked from the zero block on. -/
def Masked (secretKey : Option String) (sha256 : String → String)
    (keystream : Keystream) (world : World) : Prop := ∀ wallet ∈ world.stored, ∃ secret,
    MadeWith secretKey sha256 keystream world zeroBlock wallet secret

theorem MadeWith.later (made : MadeWith secretKey sha256 keystream world block wallet secret)
    (random : after.random = world.random) (drawn : world.drawn ≤ after.drawn) :
    MadeWith secretKey sha256 keystream after block wallet secret := by
  obtain ⟨⟨place, below, same⟩, named⟩ := made
  exact ⟨⟨place, below.trans_le drawn, random ▸ same⟩, named⟩

theorem KeyStored.masked (step : KeyStored secretKey sha256 keystream world input after)
    (masked : Masked secretKey sha256 keystream world) :
    Masked secretKey sha256 keystream after := by
  intro wallet member
  cases step with
  | nothing unmet stored random drawn =>
    rw [stored] at member
    obtain ⟨secret, made⟩ := masked wallet member
    exact ⟨secret, made.later random drawn⟩
  | secret met stored random drawn made =>
    rw [stored] at member
    rcases List.mem_append.mp member with old | new
    · obtain ⟨secret, made⟩ := masked wallet old
      exact ⟨secret, made.later random drawn⟩
    · cases List.mem_singleton.mp new
      exact ⟨_, made⟩

theorem KeyStored.one_iff (step : KeyStored secretKey sha256 keystream world input after)
    (one : world.stored.length ≤ 1) :
    after.stored.length ≤ 1 ↔ OnlySecret secretKey world input := by
  unfold OnlySecret
  cases step <;> simp_all

theorem confidential_of_one (one : world.stored.length ≤ 1) :
    Confidential secretKey sha256 keystream world := by
  have pairwise : ∀ related : Wallet → Wallet → Prop,
      world.stored.Pairwise related := by
    intro related
    match stored : world.stored, one with
    | [], _ => exact .nil
    | [wallet], _ => exact List.pairwise_singleton related wallet
  exact ⟨pairwise _, pairwise _, pairwise _⟩

theorem one_of_confidential (masked : Masked secretKey sha256 keystream world)
    (confidential : Confidential secretKey sha256 keystream world) :
    world.stored.length ≤ 1 := by
  have streams := confidential.streams
  match stored : world.stored with
  | [] | [_] => simp
  | first :: second :: rest =>
    rw [stored] at streams
    have apart := List.rel_of_pairwise_cons streams List.mem_cons_self
    obtain ⟨secret, made⟩ := masked first (by rw [stored]; simp)
    obtain ⟨other, madeToo⟩ := masked second (by rw [stored]; simp)
    exact absurd ⟨made, madeToo⟩ (apart zeroBlock secret other)

/-- The secrets stay confidential in every state of a history, iff no call
stores a second one. -/
theorem secrets_confidential_iff (secretKey : Option String)
    (sha256 : String → String) (keystream : Keystream) {start : World}
    (fresh : start.stored = []) (inputs : List (WalletCall × List Fault)) :
    (∀ front back, inputs = front ++ back → Confidential secretKey sha256 keystream
        (run (keep secretKey sha256 keystream) start front)) ↔
      Along (keep secretKey sha256 keystream) (OnlySecret secretKey) start
        inputs := by
  have initially : Masked secretKey sha256 keystream start ∧ start.stored.length ≤ 1 := by
    unfold Masked
    rw [fresh]
    exact ⟨List.forall_mem_nil _, Nat.zero_le _⟩
  have implies : ∀ world : World, Masked secretKey sha256 keystream world ∧
      world.stored.length ≤ 1 →
        Confidential secretKey sha256 keystream world :=
    fun _ invariant => confidential_of_one invariant.2
  have step : ∀ world input, KeyStored secretKey sha256 keystream world input
      (keep secretKey sha256 keystream world input) := keyStored
  refine reached_iff_along_of_invariant implies ?_ ?_ initially
  · intro world input invariant confidential
    have masked := (step world input).masked invariant.1
    exact ((step world input).one_iff invariant.2).mp (one_of_confidential masked confidential)
  · intro world input invariant only
    exact ⟨(step world input).masked invariant.1, ((step world input).one_iff invariant.2).mpr only⟩

end

/-! ### Two users -/

/-- A keystream that does not repeat itself, for one. -/
def countingStream : Keystream := fun key _ place => UInt8.ofNat (key.length + place)

def noWallets : World where
  wallets := .empty
  audits := []
  random drawn := s!"random {drawn}"
  drawn := 0
  stored := []

def serverKey : Option String := some "0123456789abcdef0123456789abcdef"

/-- A second wallet of the same user is refused. -/
theorem one_user_confidential :
    Confidential serverKey id countingStream (run (keep serverKey id countingStream) noWallets
        [(.createWalletForUser 1, []), (.createWalletForUser 1, [])]) := by
  have fresh : noWallets.stored = [] := rfl
  have one : Along (keep serverKey id countingStream) (OnlySecret serverKey)
      noWallets [(.createWalletForUser 1, []), (.createWalletForUser 1, [])] := by
    refine ⟨fun _ => fresh, fun met => absurd met ?_, trivial⟩
    decide
  exact (secrets_confidential_iff serverKey id countingStream fresh _).mpr one
    _ [] (List.append_nil _).symm

/-- What is in the database after two users have come. -/
def twoUsers : World := run (keep serverKey id countingStream) noWallets
    [(.createWalletForUser 1, []), (.createWalletForUser 2, [])]

/-- The keys of two users are masked with one keystream: the two ciphertexts
and the first key make the second key. -/
theorem two_users_exposed :
    ¬ Confidential serverKey id countingStream twoUsers ∧
      (twoUsers.stored.map Wallet.bytes).foldr xorBytes (utf8 "random 0") = utf8 "random 1" := by
  have stored : twoUsers.stored.length = 2 := by decide
  refine ⟨fun confidential => ?_, by decide⟩
  have masked : Masked serverKey id countingStream twoUsers :=
    (keyStored _ _).masked ((keyStored _ _).masked (List.forall_mem_nil _))
  have one := one_of_confidential masked confidential
  rw [stored] at one
  exact absurd one (by decide)

open Effects

/-! ### Keys -/

/-- The keys a wallet holds, the secret one encrypted. -/
def Wallet.keys (wallet : Wallet) : KeyPair :=
  ⟨wallet.publicKey, wallet.secretKey⟩

def auditOf (wallet : Wallet) : WalletKeyAudit where
  userId := wallet.userId
  oldPublicKey := wallet.publicKey
  oldSecretKey := wallet.secretKey

def Holds (world : World) (stored : Wallet) : Prop :=
  (world.wallets.row stored.id).map Wallet.keys = some stored.keys

/-- All keys that have been stored are held or recorded. -/
def Recoverable (world : World) : Prop :=
  ∀ stored ∈ world.stored, Holds world stored ∨ auditOf stored ∈ world.audits

instance (world : World) : DecidablePred (Holds world) := fun stored =>
  inferInstanceAs (Decidable (_ = some stored.keys))

instance (world : World) : Decidable (Recoverable world) :=
  inferInstanceAs (Decidable (∀ stored ∈ world.stored, _))

/-- All keys that are recorded have been stored, the secret one with its
public one. -/
def AuditsStored (world : World) : Prop :=
  ∀ audit ∈ world.audits, ∃ stored ∈ world.stored, auditOf stored = audit

/-- The rows have been stored, and a wallet stays its user's. -/
structure Consistent (world : World) : Prop where
  stored : ∀ id wallet, world.wallets.row id = some wallet → wallet ∈ world.stored
  owner : ∀ wallet ∈ world.stored, ∃ current, world.wallets.row wallet.id = some current ∧
      current.userId = wallet.userId

/-! ### Rotations -/

abbrev WalletPool := Pool signature World HttpException WalletCall

abbrev WalletTurn := Turn HttpException WalletCall Unit

/-- Nothing else touches the wallets. -/
def besidesWallets (_ : Unit) (world : World) : World := world

/-- The keys of the wallet a rotation has read. -/
def lastRead : Past signature World → Option KeyPair
  | [] => none
  | (.findWallet userId, met) :: _ => (met.ofUser userId).map Wallet.keys
  | _ :: past => lastRead past

/-- A save that acts finds the keys that its rotation has read, or others that
are in the audit. -/
def upToDate (pool : WalletPool) (turn : WalletTurn) : Bool :=
  match pool.mover? turn with
  | some (thread, .saveWallet wallet) =>
    turn.fault?.isSome || (pool.state.wallets.row wallet.id).all fun current =>
        decide (lastRead thread.past = some current.keys ∨ auditOf current ∈ pool.state.audits)
  | _ => true

/-! ### The dialogue of a call -/

/-- A rotation reads a wallet, records its keys and replaces them. -/
inductive KeyPhase where
  | fresh
  | read (wallet : Wallet)
  | recorded (wallet : Wallet)
deriving DecidableEq

inductive KeyAllows (past : Past signature World) : KeyPhase → Op → Prop where
  | finds {phase : KeyPhase} {userId : Id} :
      KeyAllows past phase (.findWallet userId)
  | draws {phase : KeyPhase} : KeyAllows past phase .randomBytes
  | inserts {phase : KeyPhase} {wallet : Wallet} :
      KeyAllows past phase (.insertWallet wallet)
  | records {wallet : Wallet} :
      KeyAllows past (.read wallet) (.saveAudit (auditOf wallet))
  | saves {wallet rekeyed : Wallet} (same : rekeyed.id = wallet.id)
      (owner : rekeyed.userId = wallet.userId) (read : lastRead past = some wallet.keys) :
      KeyAllows past (.recorded wallet) (.saveWallet rekeyed)

def keyActed (phase : KeyPhase) (op : Op) (met : World) : KeyPhase :=
  match op, phase with
  | .findWallet userId, phase =>
    (met.ofUser userId).elim phase KeyPhase.read
  | .saveAudit _, .read wallet => .recorded wallet
  | _, phase => phase

def keyDialogue (_ : WalletCall) : Dialogue signature World KeyPhase where
  start := .fresh
  allows := KeyAllows
  acted := keyActed
  failed phase _ _ := phase
  ends _ := True

variable {phase : KeyPhase} {world after : World}

theorem speaks_await_bind {call : WalletCall} {op : Op} {α : Type}
    {rest : Reply op → Service α} {past : Past signature World}
    {post : Except HttpException α → Past signature World → KeyPhase → Prop}
    (allowed : KeyAllows past phase op)
    (acted : ∀ met, (rest (act op met).1).Speaks wallets (keyDialogue call)
      post ((op, met) :: past) (keyActed phase op met)) (failed : mayFail op = true → ∀ met error,
      post (.error error) ((op, met) :: past) phase) :
    (await op >>= rest).Speaks wallets (keyDialogue call) post past phase :=
  speaks_perform_bind allowed acted failed

section

variable (runtime : Runtime)

theorem ofUser_userId {world : World} {userId : Id} {wallet : Wallet}
    (found : world.ofUser userId = some wallet) : wallet.userId = userId := by
  simpa using List.find?_some found

theorem speaks_rekey {call : WalletCall} {past : Past signature World}
    {phase : KeyPhase} (rest : String → String → Service Wallet)
    (continues : ∀ met publicKey encryptedSecret,
      (rest publicKey encryptedSecret).Speaks wallets (keyDialogue call)
        (fun _ _ _ => True) ((.randomBytes, met) :: past) phase) :
    (do
      let pair ← WalletService.generateKeyPair runtime
      let encryptedSecret ←
        ofExcept (WalletService.encrypt runtime pair.secretKey)
      rest pair.publicKey encryptedSecret : Service Wallet).Speaks wallets
      (keyDialogue call) (fun _ _ _ => True) past phase := by
  unfold WalletService.generateKeyPair
  rw [Effects.Program.bind_assoc]
  apply speaks_await_bind .draws _ nofun
  intro met
  show (ofExcept (WalletService.encrypt runtime _) >>= fun encryptedSecret =>
    rest _ encryptedSecret : Service Wallet).Speaks _ _ _ _ _
  have unchanged : keyActed phase .randomBytes met = phase := by
    cases phase <;> rfl
  cases WalletService.encrypt runtime (act .randomBytes met).1 with
  | error error => trivial
  | ok encryptedSecret => exact continues met _ encryptedSecret

theorem speaks_regenerateWalletKeys (call : WalletCall) (userId : Id) :
    (WalletService.regenerateWalletKeys runtime userId).Speaks wallets
      (keyDialogue call) (fun _ _ _ => True) [] .fresh := by
  apply speaks_await_bind .finds _ fun _ _ _ => trivial
  intro met
  rw [keyActed]
  simp only [act]
  cases found : met.ofUser userId with
  | none => trivial
  | some wallet =>
    have owner : wallet.userId = userId := ofUser_userId found
    subst owner
    apply speaks_await_bind .records _ fun _ _ _ => trivial
    intro later
    apply speaks_rekey runtime fun publicKey secretKey => do
      walletRepository.save { wallet with publicKey, secretKey }
      pure { wallet with publicKey, secretKey }
    intro drawn publicKey secretKey
    have read : lastRead [(.randomBytes, drawn), (.saveAudit (auditOf wallet), later),
        (.findWallet wallet.userId, met)] = some wallet.keys := by
      show (met.ofUser wallet.userId).map Wallet.keys = _
      rw [found, Option.map_some]
    have saves : KeyAllows _ (.recorded wallet)
        (.saveWallet { wallet with publicKey, secretKey }) := .saves rfl rfl read
    exact speaks_await_bind saves (fun _ => trivial) fun _ _ _ => trivial

theorem speaks_createWalletForUser (call : WalletCall) (userId : Id) :
    (WalletService.createWalletForUser runtime userId).Speaks wallets
      (keyDialogue call) (fun _ _ _ => True) [] .fresh := by
  apply speaks_rekey runtime fun publicKey secretKey =>
    walletRepository.insert { id := 0, publicKey, secretKey, userId }
  intro drawn publicKey encryptedSecret
  apply speaks_await_bind .inserts _ fun _ _ _ => trivial
  intro met
  cases (act (.insertWallet _) met).1 <;> trivial

theorem speaks_program (call : WalletCall) :
    (call.program runtime).Speaks wallets (keyDialogue call)
      (fun _ _ => (keyDialogue call).ends) [] (keyDialogue call).start := by
  have discards {α : Type} {service : Service α}
      (speaks : service.Speaks wallets (keyDialogue call) (fun _ _ _ => True) [] .fresh) :
      (do let _ ← service; pure () : Service Unit).Speaks wallets
        (keyDialogue call) (fun _ _ => (keyDialogue call).ends) [] (keyDialogue call).start := by
    refine speaks_bind (speaks.mono fun result past phase _ => ?_)
    cases result <;> trivial
  cases call with
  | createWalletForUser userId => exact discards (speaks_createWalletForUser runtime _ userId)
  | regenerateWalletKeys userId => exact discards (speaks_regenerateWalletKeys runtime _ userId)

end

/-! ### What the rows keep -/

section

variable {world : World} {wallet : Wallet}

theorem auditOf_eq_iff {other : Wallet} :
    auditOf wallet = auditOf other ↔ wallet.userId = other.userId ∧ wallet.keys = other.keys := by
  simp [auditOf, Wallet.keys]

theorem Consistent.owned (consistent : Consistent world)
    (stored : wallet ∈ world.stored) {current : Wallet}
    (found : world.wallets.row wallet.id = some current) :
    current.userId = wallet.userId := by grind [owner]

theorem Consistent.withWallet (consistent : Consistent world)
    (owner : ∀ old ∈ world.stored, old.id = wallet.id → wallet.userId = old.userId) :
    Consistent (world.withWallet wallet) := by
  constructor
  · intro id other found
    change (world.wallets.save wallet).row id = some other at found
    rw [Table.row_save] at found
    split at found
    next same =>
      cases found
      exact List.mem_concat_self
    next different => exact List.mem_append_left _ (consistent.stored id other found)
  · intro other member
    show ∃ current, (world.wallets.save wallet).row other.id = some current ∧ _
    rcases List.mem_append.mp member with old | new
    · rw [Table.row_save]
      split
      next same => exact ⟨wallet, rfl, owner other old same⟩
      next different => exact consistent.owner other old
    · rw [List.mem_singleton.mp new]
      exact ⟨wallet, Table.row_save_self _ wallet, rfl⟩

theorem Recoverable.withWallet (recoverable : Recoverable world) (consistent : Consistent world)
    (recorded : ∀ current, world.wallets.row wallet.id = some current →
      auditOf current ∈ world.audits) :
    Recoverable (world.withWallet wallet) := by
  intro other member
  rcases List.mem_append.mp member with old | new
  · by_cases same : other.id = wallet.id
    · refine .inr ?_
      show auditOf other ∈ world.audits
      rcases recoverable other old with held | audited
      · obtain ⟨current, found, keys⟩ := Option.map_eq_some_iff.mp held
        have entry : auditOf current = auditOf other :=
          auditOf_eq_iff.mpr ⟨consistent.owned old found, keys⟩
        simp_all
      · exact audited
    · rcases recoverable other old with held | audited
      · refine .inl ?_
        show ((world.wallets.save wallet).row other.id).map _ = _
        rw [Table.row_save_of_ne _ _ same]
        exact held
      · exact .inr audited
  · rw [List.mem_singleton.mp new]
    refine .inl ?_
    show ((world.wallets.save wallet).row (Keyed.key wallet)).map _ = _
    rw [Table.row_save_self, Option.map_some]

theorem Recoverable.withAudit {audit : WalletKeyAudit} (recoverable : Recoverable world) :
    Recoverable (world.withAudit audit) := by
  intro other member
  rcases recoverable other member with held | audited
  · exact .inl held
  · exact .inr (List.mem_append_left _ audited)

end

/-! ### Runs -/

abbrev WalletCast := Cast signature World HttpException WalletCall KeyPhase

/-- What a call has read was stored, and what it has recorded is in the
audit. -/
def PhaseKept (world : World) : KeyPhase → Prop
  | .fresh => True
  | .read wallet => wallet ∈ world.stored
  | .recorded wallet => wallet ∈ world.stored ∧ auditOf wallet ∈ world.audits

theorem PhaseKept.mono (kept : PhaseKept world phase)
    (stored : ∀ wallet ∈ world.stored, wallet ∈ after.stored)
    (audits : ∀ audit ∈ world.audits, audit ∈ after.audits) :
    PhaseKept after phase := by
  cases phase with
  | fresh => trivial
  | read wallet => exact stored wallet kept
  | recorded wallet => exact ⟨stored wallet kept.1, audits _ kept.2⟩

structure Kept (world : World) (cast : WalletCast) : Prop where
  consistent : Consistent world
  audits : AuditsStored world
  roles : ∀ role ∈ cast, PhaseKept world role.2

theorem Kept.move {front back : WalletCast}
    {role moved : Thread signature World HttpException WalletCall × KeyPhase}
    (kept : Kept world (front ++ role :: back)) (consistent : Consistent after)
    (audits : AuditsStored after) (grown : ∀ wallet ∈ world.stored, wallet ∈ after.stored)
    (recorded : ∀ audit ∈ world.audits, audit ∈ after.audits) (new : PhaseKept after moved.2) :
    Kept after (front ++ moved :: back) := by
  refine ⟨consistent, audits, fun other member => ?_⟩
  rcases mem_replaced member with rfl | others
  · exact new
  · exact (kept.roles other (mem_of_others others role)).mono grown recorded

theorem AuditsStored.withWallet {wallet : Wallet} (audits : AuditsStored world) :
    AuditsStored (world.withWallet wallet) := by
  intro audit member
  obtain ⟨stored, old, entry⟩ := audits audit member
  exact ⟨stored, List.mem_append_left _ old, entry⟩

theorem kept_spoke {runtime : Runtime} {pool : WalletPool}
    {cast later : WalletCast} {turn : WalletTurn} (kept : Kept pool.state cast)
    (spoke : Pool.Spoke wallets (WalletCall.program runtime) besidesWallets
      keyDialogue pool cast turn after later) :
    Kept after later ∧ (upToDate pool turn = true → Recoverable pool.state →
        Recoverable after) := by
  cases spoke with
  | stays => exact ⟨kept, fun _ recoverable => recoverable⟩
  | changes => exact ⟨kept, fun _ recoverable => recoverable⟩
  | spawns =>
    refine ⟨⟨kept.consistent, kept.audits, fun role member => ?_⟩, fun _ recoverable => recoverable⟩
    rcases List.mem_append.mp member with old | new
    · exact kept.roles role old
    · rw [List.mem_singleton.mp new]
      trivial
  | @fails _ front back thread phase op error rest split moves allowed exposed throws =>
    subst split
    have role := kept.roles (thread, phase) (by simp)
    exact ⟨kept.move kept.consistent kept.audits (fun _ => id)
      (fun _ => id) role, fun _ recoverable => recoverable⟩
  | @acts _ front back thread phase op rest split moves allowed acts =>
    subst split
    have role := kept.roles (thread, phase) (by simp)
    cases allowed with
    | @finds _ userId =>
      have read : PhaseKept pool.state (keyActed phase (.findWallet userId) pool.state) := by
        rw [keyActed]
        cases found : pool.state.ofUser userId with
        | none => exact role
        | some wallet =>
          exact kept.consistent.stored wallet.id wallet
            (Table.mem_rows.mp (List.mem_of_find?_eq_some found))
      exact ⟨kept.move kept.consistent kept.audits (fun _ => id)
        (fun _ => id) read, fun _ recoverable => recoverable⟩
    | draws =>
      have unchanged : keyActed phase .randomBytes pool.state = phase := by
        cases phase <;> rfl
      refine ⟨kept.move ?_ kept.audits (fun _ => id) (fun _ => id) ?_,
        fun _ recoverable => recoverable⟩
      · exact ⟨kept.consistent.stored, kept.consistent.owner⟩
      · rw [show (keyDialogue thread.name).acted = keyActed from rfl, unchanged]
        exact role.mono (fun _ => id) fun _ => id
    | @inserts _ wallet =>
      have unchanged :
          keyActed phase (.insertWallet wallet) pool.state = phase := by
        cases phase <;> rfl
      show Kept (act (.insertWallet wallet) pool.state).2 _ ∧
        (_ → _ → Recoverable (act (.insertWallet wallet) pool.state).2)
      rw [act]
      split
      next taken =>
        exact ⟨kept.move kept.consistent kept.audits (fun _ => id)
          (fun _ => id) role, fun _ recoverable => recoverable⟩
      next free =>
        -- no row has been stored under the key that is generated
        have unused : ∀ old ∈ pool.state.stored, old.id ≠ pool.state.wallets.next := by
          intro old stored same
          obtain ⟨current, found, -⟩ := kept.consistent.owner old stored
          rw [same, Table.row_next] at found
          cases found
        refine ⟨kept.move (kept.consistent.withWallet fun old stored same =>
            absurd same (unused old stored)) kept.audits.withWallet
          (fun _ => List.mem_append_left _) (fun _ => id)
          (role.mono (fun _ => List.mem_append_left _) fun _ => id),
          fun _ recoverable => recoverable.withWallet kept.consistent ?_⟩
        simp_all
    | @records wallet =>
      refine ⟨kept.move ?_ ?_ (fun _ => id) (fun _ => List.mem_append_left _) ?_,
        fun _ recoverable => recoverable.withAudit⟩
      · exact ⟨kept.consistent.stored, kept.consistent.owner⟩
      · intro audit member
        rcases List.mem_append.mp member with old | new
        · exact kept.audits audit old
        · rw [List.mem_singleton.mp new]
          exact ⟨wallet, role, rfl⟩
      · exact ⟨role, List.mem_concat_self⟩
    | @saves wallet rekeyed same owner read =>
      obtain ⟨stored, recorded⟩ := role
      refine ⟨kept.move (kept.consistent.withWallet ?_)
        kept.audits.withWallet (fun _ => List.mem_append_left _)
        (fun _ => id) ⟨List.mem_append_left _ stored, recorded⟩, fun current recoverable =>
          recoverable.withWallet kept.consistent ?_⟩
      · intro old storedOld sameOld
        obtain ⟨row, found, ownerRow⟩ := kept.consistent.owner old storedOld
        rw [sameOld, same] at found
        rw [owner, ← kept.consistent.owned stored found, ownerRow]
      · intro row found
        have unfailing : turn.fault? = none := by
          rcases Handler.acts_cases acts with none | total
          · exact none
          · cases total
        rw [upToDate, moves] at current
        simp only [unfailing, Option.isSome_none, Bool.false_or, found,
          Option.all_some, decide_eq_true_eq, read, Option.some.injEq] at current
        rcases current with asRead | audited
        · rw [same] at found
          have entry : auditOf row = auditOf wallet := auditOf_eq_iff.mpr
              ⟨kept.consistent.owned stored found, asRead.symm⟩
          rw [entry]
          exact recorded
        · exact audited

/-- In every run of any number of calls, in any order of steps and with any
failures, what the audit records has been stored; and as long as every save
finds the keys its rotation has read, or others that are in the audit, all
keys ever stored are held by their wallet or in the audit. -/
theorem wallet_keys_recoverable (runtime : Runtime) {start : World}
    (consistent : Consistent start) (recoverable : Recoverable start)
    (audits : AuditsStored start) (turns : List WalletTurn) :
    AuditsStored (run (Pool.step wallets (WalletCall.program runtime)
        besidesWallets) ⟨start, []⟩ turns).state ∧
      (Along (Pool.step wallets (WalletCall.program runtime) besidesWallets)
          (fun pool turn => upToDate pool turn = true) ⟨start, []⟩ turns →
        Recoverable (run (Pool.step wallets (WalletCall.program runtime)
          besidesWallets) ⟨start, []⟩ turns).state) := by
  have initially : Kept start [] :=
    ⟨consistent, audits, List.forall_mem_nil _⟩
  constructor
  · have along : Along (Pool.step wallets (WalletCall.program runtime)
        besidesWallets) (fun _ _ => True) ⟨start, []⟩ turns := along_of_forall fun _ _ => trivial
    obtain ⟨cast, -, kept⟩ := Pool.spoken_invariant Kept (speaks_program runtime)
      (fun pool cast turn state after _ kept _ spoke =>
        (kept_spoke kept spoke).1) initially along
    exact kept.audits
  · intro along
    obtain ⟨cast, -, -, recoverable⟩ := Pool.spoken_invariant
      (fun world cast => Kept world cast ∧ Recoverable world) (speaks_program runtime)
      (fun pool cast turn state after _ both current spoke =>
        have ⟨kept, keeps⟩ := kept_spoke both.1 spoke
        ⟨kept, keeps current both.2⟩) ⟨initially, recoverable⟩ along
    exact recoverable

/-! ### One wallet -/

/-- Digests and ciphers that only mark what they are of. -/
def plainRuntime : Runtime where
  secretKey := some "0123456789abcdef0123456789abcdef"
  sha256 text := "digest of " ++ text
  cipher _ text := some ("cipher of " ++ text)

def firstWallet : Wallet where
  id := 0
  publicKey := "digest of first"
  secretKey := "cipher of first"
  userId := 7

def oneWallet : World where
  wallets := .save .empty firstWallet
  audits := []
  random drawn := s!"random {drawn}"
  drawn := 0
  stored := [firstWallet]

theorem oneWallet_consistent : Consistent oneWallet where
  stored id wallet found := by simp_all [oneWallet, Table.row_save]
  owner wallet member := by
    rw [List.mem_singleton.mp member]
    exact ⟨firstWallet, rfl, rfl⟩

def rotation : WalletTurn := .spawn (.regenerateWalletKeys 7)

def goesOn (index : ℕ) : WalletTurn := .perform index none

/-- Two rotations, one after the other. -/
theorem second_rotation_recorded :
    let turns := rotation :: rotation ::
      (List.replicate 4 (goesOn 0) ++ List.replicate 4 (goesOn 1))
    AuditsStored (run (Pool.step wallets (WalletCall.program plainRuntime)
        besidesWallets) ⟨oneWallet, []⟩ turns).state ∧
      Recoverable (run (Pool.step wallets (WalletCall.program plainRuntime)
        besidesWallets) ⟨oneWallet, []⟩ turns).state := by
  intro turns
  have kept := wallet_keys_recoverable plainRuntime oneWallet_consistent
    (by decide) (List.forall_mem_nil _) turns
  exact ⟨kept.1, kept.2 (by decide)⟩

/-- Both rotations read and record the first keys, and the second one
overwrites the keys of the first. -/
theorem rotated_key_lost :
    let after := (run (Pool.step wallets (WalletCall.program plainRuntime)
      besidesWallets) ⟨oneWallet, []⟩
        [rotation, rotation, goesOn 0, goesOn 1, goesOn 0, goesOn 1, goesOn 0,
          goesOn 0, goesOn 1, goesOn 1]).state
    Recoverable oneWallet ∧ after.stored.length = 3 ∧ ¬ Recoverable after := by decide

end MarketX.Wallets
