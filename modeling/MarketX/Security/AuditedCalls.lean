/-
Module: MarketX.Security.AuditedCalls
Purpose: The calls that leave an audit event (`wallet/wallet.service.ts`,
  `auth/auth.service.ts`), and when each of them leaves exactly the one that
  tells how it ended.
Trusted boundary: human-reviewed model of the source
Main exports: AuditEvent, Op, World, told_iff
-/
import MarketX.Authentication.UsersService
import MarketX.Effects.Schedules
import MarketX.Numerals.Json

namespace MarketX.AuditedCalls

open Effects Handler Numerals
open Authentication (AuthError)

/-! ### Events -/

inductive EventName where
  | walletWithdrawalRequested
  | walletWithdrawalCompleted
  | walletDepositRequested
  | userPasswordChanged
deriving DecidableEq

inductive ActionType where
  | withdrawal
  | deposit
  | passwordChange
deriving DecidableEq

inductive AuditStatus where
  | success
  | failure
deriving DecidableEq

/-- The events of `common/events.ts` that are audited, under their names.
States and metadata are objects; a date in one stands as its
milliseconds. -/
structure AuditEvent where
  name : EventName
  actionType : ActionType
  userId : String
  ipAddress : String
  userAgent : Option String
  status : AuditStatus
  errorMessage : Option String
  resourceType : String
  resourceId : String
  statePreviousValue : Option Json := none
  stateNewValue : Option Json := none
  metadata : Option Json := none

/-- Who calls, from where. -/
structure Caller where
  userId : String
  ipAddress : String
  userAgent : Option String := none

/-! ### The effects -/

/-- A row of the wallets. -/
structure Wallet where
  id : String
  publicKey : String

/-- A line of an account on the Stellar network. -/
structure BalanceLine where
  assetType : String
  balance : String

/-- What the Stellar server throws, and the status of its response, if there
was one. -/
structure StellarError where
  message : String
  status : Option ℕ

/-- A row of the users, as far as a change of the password reads it. -/
structure Users where
  password : Option String

/-- What `loadAccount` throws is part of its answer. -/
inductive Op where
  | findWallet (userId : String)
  | loadAccount (publicKey : String)
  | findUser (id : Option ℤ)
  | compare (password : String) (hash : Option String)
  | hash (password : String)
  | updatePassword (id : Option ℤ) (hash : String)
  | randomText
  | dateNow
  | emit (event : AuditEvent)

@[reducible] def Reply : Op → Type
  | .findWallet _ => Option Wallet
  | .loadAccount _ => Except StellarError (List BalanceLine)
  | .findUser _ => Users
  | .compare _ _ => Bool
  | .hash _ | .randomText => String
  | .dateNow => Date
  | _ => Unit

/-- What each call is answered, in turn, whatever it is; and the events that
have been emitted. -/
structure World where
  answers : ℕ → (op : Op) → Reply op
  turn : ℕ
  events : List AuditEvent

def act (op : Op) (world : World) : Reply op × World :=
  (world.answers world.turn op,
    { world with
      turn := world.turn + 1
      events := match op with
        | .emit event => world.events ++ [event]
        | _ => world.events })

def mayFail : Op → Bool
  | .loadAccount _ | .randomText | .dateNow | .emit _ => false
  | _ => true

abbrev signature : Signature := ⟨Op, Reply⟩

def outside : Handler signature World := ⟨act, mayFail⟩

abbrev Service (α : Type) := Program signature AuthError α

def await (op : Op) : Service (Reply op) := Program.perform (S := signature) op

abbrev emit (event : AuditEvent) : Service Unit := await (.emit event)

abbrev dateNow : Service Date := await .dateNow

/-- `try { body } catch (error) { emit(failure(error)); throw error; }`. -/
def audited {α : Type} (failure : AuthError → AuditEvent) (body : Service α) : Service α := do
  match ← body.attempt with
  | .ok value => pure value
  | .error error =>
    emit (failure error)
    throw error

/-! ### The wallet service -/

namespace WalletService

structure Receipt where
  success : Bool
  transactionId : String
deriving DecidableEq

abbrev findByUserId (userId : String) : Service (Option Wallet) := await (.findWallet userId)

structure WalletBalance where
  balance : String
  currency : String
  publicKey : String

/-- The error that is thrown inside is caught like those of the server. -/
def getWalletBalance (userId : String) : Service WalletBalance := do
  match ← findByUserId userId with
  | none => throw (.error "Wallet not found for user")
  | some wallet =>
    match ← await (.loadAccount wallet.publicKey) with
    | .error error =>
      if error.status = some 404 then
        throw (.error "Wallet not found on Stellar network")
      else
        throw (.error s!"Failed to fetch wallet balance: {error.message}")
    | .ok balances =>
      match balances.find? fun line => line.assetType = "native" with
      | none => throw (.error ("Failed to fetch wallet balance: " ++ "No balance found for wallet"))
      | some nativeBalance =>
        pure
          { balance := nativeBalance.balance
            currency := "XLM"
            publicKey := wallet.publicKey }

/-- `/^G[A-Z2-7]{55}$/`. -/
def isValidStellarAddress (address : String) : Bool :=
  match address.toList with
  | 'G' :: rest => rest.length = 55 && rest.all fun c => 'A' ≤ c && c ≤ 'Z' || '2' ≤ c && c ≤ '7'
  | _ => false

/-- `parseFloat` of a text. -/
def parseFloat (text : String) : Number := parseFloatText text.toList

/-- An event of this service. -/
def walletEvent (name : EventName) (actionType : ActionType) (caller : Caller)
    (status : AuditStatus) (errorMessage : Option String) (resourceId : String) : AuditEvent where
  name
  actionType
  userId := caller.userId
  ipAddress := caller.ipAddress
  userAgent := caller.userAgent
  status
  errorMessage
  resourceType := "wallet"
  resourceId

/-- The identifier of a transaction: the time, and nine random digits. -/
def transactionId (kind : String) : Service String := do
  let now ← dateNow
  let random ← await .randomText
  pure s!"{kind}_{now}_{random}"

def date (now : Date) : Json := .number (.finite now)

def requestWithdrawal (caller : Caller) (amount : Number)
    (destination : String) : Service Receipt :=
  let event := walletEvent .walletWithdrawalRequested .withdrawal caller
  audited (fun error =>
      { event .failure (some error.message) caller.userId with
        metadata := some (.object
          [("amount", .number amount), ("destination", .string destination),
            ("reason", .string "system_error")]) })
    do
      if amount.le (.finite 0) then
        throw (.badRequest "Withdrawal amount must be positive")
      match ← findByUserId caller.userId with
      | none => throw (.badRequest "Wallet not found for user")
      | some wallet =>
        if !isValidStellarAddress destination then
          throw (.badRequest "Invalid destination address")
        let ⟨balance, _, _⟩ ← getWalletBalance caller.userId
        let before := parseFloat balance
        if before.lt amount then
          emit
            { event .failure (some "Insufficient balance") wallet.id with
              statePreviousValue := some (.object
                [("balance", .number before)])
              stateNewValue := some (.object
                [("balance", .number (before.sub amount))])
              metadata := some (.object
                [("amount", .number amount),
                  ("destination", .string destination),
                  ("currency", .string "XLM"),
                  ("reason", .string "insufficient_balance")]) }
          throw (.badRequest "Insufficient balance for withdrawal")
        let transactionId ← transactionId "withdrawal"
        let requestedAt ← dateNow
        emit
          { event .success none wallet.id with
            statePreviousValue := some (.object
              [("balance", .number before), ("withdrawn", .bool false)])
            stateNewValue := some (.object
              [("balance", .number (before.sub amount)),
                ("withdrawn", .bool true)])
            metadata := some (.object
              [("amount", .number amount),
                ("destination", .string destination),
                ("currency", .string "XLM"),
                ("transactionId", .string transactionId),
                ("requestedAt", date requestedAt)]) }
        pure { success := true, transactionId }

def completeWithdrawal (caller : Caller) (transactionHash : String)
    (amount : Number) (destination : String) : Service Bool :=
  let event := walletEvent .walletWithdrawalCompleted .withdrawal caller
  audited (fun error =>
      { event .failure (some error.message) caller.userId with
        metadata := some (.object
          [("amount", .number amount), ("destination", .string destination),
            ("transactionHash", .string transactionHash)]) })
    do
      if transactionHash = "" then
        throw (.badRequest "Transaction hash is required")
      match ← findByUserId caller.userId with
      | none => throw (.badRequest "Wallet not found for user")
      | some wallet =>
        let completedAt ← dateNow
        emit
          { event .success none wallet.id with
            metadata := some (.object
              [("amount", .number amount),
                ("destination", .string destination),
                ("transactionHash", .string transactionHash),
                ("currency", .string "XLM"),
                ("completedAt", date completedAt)]) }
        pure true

def requestDeposit (caller : Caller) (amount : Number) : Service Receipt :=
  let event := walletEvent .walletDepositRequested .deposit caller
  audited (fun error =>
      { event .failure (some error.message) caller.userId with
        metadata := some (.object
          [("amount", .number amount),
            ("reason", .string "system_error")]) })
    do
      if amount.le (.finite 0) then
        throw (.badRequest "Deposit amount must be positive")
      match ← findByUserId caller.userId with
      | none => throw (.badRequest "Wallet not found for user")
      | some wallet =>
        let balanceBefore ← getWalletBalance caller.userId
        let transactionId ← transactionId "deposit"
        let requestedAt ← dateNow
        let before := parseFloat balanceBefore.balance
        emit
          { event .success none wallet.id with
            statePreviousValue := some (.object
              [("balance", .number before)])
            stateNewValue := some (.object
              [("balance", .number (before.add amount))])
            metadata := some (.object
              [("amount", .number amount), ("currency", .string "XLM"),
                ("transactionId", .string transactionId),
                ("requestedAt", date requestedAt)]) }
        pure { success := true, transactionId }

end WalletService

/-! ### The auth service -/

namespace AuthService

/-- An event of this service; there is no reason where all went well. -/
def passwordEvent (caller : Caller) (status : AuditStatus)
    (errorMessage reason : Option String) : AuditEvent where
  name := .userPasswordChanged
  actionType := .passwordChange
  userId := caller.userId
  ipAddress := caller.ipAddress
  userAgent := caller.userAgent
  status
  errorMessage
  resourceType := "user"
  resourceId := caller.userId
  metadata := reason.map fun reason => .object [("reason", .string reason)]

/-- The event of a change that was made. -/
def changedEvent (caller : Caller) (key reason : String) (now : Date) :
    AuditEvent :=
  { passwordEvent caller .success none none with
    statePreviousValue := some (.object [(key, .bool false)])
    stateNewValue := some (.object [(key, .bool true)])
    metadata := some (.object
      [("changedAt", .number (.finite now)), ("reason", .string reason)]) }

/-- The catch block of both methods. -/
def systemError (caller : Caller) (error : AuthError) : AuditEvent :=
  passwordEvent caller .failure (some error.message) (some "system_error")

/-- Whatever the look-up of the user throws, the user was not found. -/
def findUser (id : Option ℤ) : Service Users := do
  match ← (await (.findUser id) : Service Users).attempt with
  | .ok user => pure user
  | .error _ => throw (.unauthorized "User not found")

def changePassword (caller : Caller) (oldPassword newPassword : String) :
    Service Bool := audited (systemError caller) do
    let user ← findUser (parseInt? caller.userId.toList)
    let isPasswordValid ← await (.compare oldPassword user.password)
    if !isPasswordValid then
      emit (passwordEvent caller .failure (some "Invalid current password")
        (some "invalid_current_password"))
      throw (.badRequest "Invalid current password")
    let hashedPassword ← await (.hash newPassword)
    await (.updatePassword (parseInt? caller.userId.toList) hashedPassword)
    let now ← dateNow
    emit (changedEvent caller "passwordChanged" "user_initiated" now)
    pure true

def resetPassword (caller : Caller) (newPassword : String) : Service Bool :=
  audited (systemError caller) do
    let hashedPassword ← await (.hash newPassword)
    await (.updatePassword (parseInt? caller.userId.toList) hashedPassword)
    let now ← dateNow
    emit (changedEvent caller "passwordReset" "password_reset" now)
    pure true

end AuthService

/-! ### One event for a call -/

/-- A call that is audited, with what it is given. -/
inductive AuditedCall where
  | requestWithdrawal (caller : Caller) (amount : Number) (destination : String)
  | completeWithdrawal (caller : Caller) (transactionHash : String)
      (amount : Number) (destination : String)
  | requestDeposit (caller : Caller) (amount : Number)
  | changePassword (caller : Caller) (oldPassword newPassword : String)
  | resetPassword (caller : Caller) (newPassword : String)

def AuditedCall.program : AuditedCall → Service Unit
  | .requestWithdrawal caller amount destination => do
      let _ ← WalletService.requestWithdrawal caller amount destination
  | .completeWithdrawal caller transactionHash amount destination => do
      let _ ← WalletService.completeWithdrawal caller transactionHash amount destination
  | .requestDeposit caller amount => do
      let _ ← WalletService.requestDeposit caller amount
  | .changePassword caller oldPassword newPassword => do
      let _ ← AuthService.changePassword caller oldPassword newPassword
  | .resetPassword caller newPassword => do
      let _ ← AuthService.resetPassword caller newPassword

/-- Where a call ends: the one event that was added says how. -/
def ToldBy {α : Type} (world : World)
    (ending : Except AuthError α × List (Option AuthError) × World) : Prop :=
  ∃ event, ending.2.2.events = world.events ++ [event] ∧
    match ending.1 with
    | .ok _ => event.status = .success
    | .error error => event.status = .failure ∧ event.errorMessage = some error.message

def Told (call : AuditedCall) (script : List (Option AuthError)) (world : World) : Prop :=
  ToldBy world (outside.play call.program script world)

/-- The balance that the network tells of the wallet of a user, looked up at
a turn. -/
def toldBalance (userId : String) (answers : ℕ → (op : Op) → Reply op) (turn : ℕ) : Option String :=
  match answers turn (.findWallet userId) with
  | none => none
  | some wallet =>
    match answers (turn + 1) (.loadAccount wallet.publicKey) with
    | .error _ => none
    | .ok balances =>
      (balances.find? fun line => line.assetType = "native").map BalanceLine.balance

/-- The call comes to the branch that reports what it then throws: the balance
is fetched and too small, or the password is compared and wrong. -/
def reportedBefore (call : AuditedCall) (script : List (Option AuthError)) (world : World) : Bool :=
  match call with
  | .requestWithdrawal caller amount destination =>
    !amount.le (.finite 0) && answeredUpTo 2 script &&
      (world.answers world.turn (.findWallet caller.userId)).isSome &&
      WalletService.isValidStellarAddress destination &&
      match toldBalance caller.userId world.answers (world.turn + 1) with
      | none => false
      | some balance => (WalletService.parseFloat balance).lt amount
  | .changePassword caller oldPassword _ =>
    let user := world.answers world.turn (.findUser (parseInt? caller.userId.toList))
    answeredUpTo 2 script && !world.answers (world.turn + 1) (.compare oldPassword user.password)
  | _ => false

/-! ### What the body of a call leaves -/

/-- A body that returns has added one event; one that throws has added none,
or has reported. -/
def Leaves {α : Type} (reported : Bool) (world : World) :
    Except AuthError α × List (Option AuthError) × World → Prop
  | (.ok _, _, after) => reported = false ∧ ∃ event,
      after.events = world.events ++ [event] ∧ event.status = .success
  | (.error _, _, after) => ∃ events,
      after.events = world.events ++ events ∧ (events = [] ↔ reported = false)

section

variable {α : Type} {op : Op} {rest : Reply op → Service α}
  {script : List (Option AuthError)} {world before : World} {reported : Bool}

theorem play_free (safe : mayFail op = false) (script : List (Option AuthError)) (world : World) :
    outside.play (await op >>= rest) script world =
      outside.play (rest (act op world).1) script (act op world).2 :=
  play_safe_bind safe script world

theorem play_caught (event : AuditEvent) (error : AuthError)
    (script : List (Option AuthError)) (world : World) :
    outside.play (do emit event; throw error : Service α) script world =
      (.error error, script, (act (.emit event) world).2) := by
  rw [play_free rfl]
  rfl

theorem leaves_error {after : World} {error : AuthError}
    {left : List (Option AuthError)} (same : after.events = before.events) :
    Leaves (α := α) false before (.error error, left, after) :=
  ⟨[], by rw [same, List.append_nil], iff_of_true rfl rfl⟩

theorem leaves_reported {after : World} {error : AuthError}
    {event : AuditEvent} {left : List (Option AuthError)}
    (added : after.events = before.events ++ [event]) :
    Leaves (α := α) true before (.error error, left, after) :=
  ⟨[event], added, iff_of_false (List.cons_ne_nil _ _) Bool.noConfusion⟩

theorem leaves_success {event : AuditEvent} (value : α) (succeeds : event.status = .success)
    (same : world.events = before.events) :
    Leaves false before (outside.play (do emit event; pure value) script world) := by
  rw [play_free rfl]
  exact ⟨rfl, event, congrArg (· ++ [event]) same, succeeds⟩

theorem leaves_ask (fails : mayFail op = true) (same : world.events = before.events)
    (stops : (script.headD none).isNone = false → reported = false)
    (acts : script.headD none = none → Leaves reported before
      (outside.play (rest (act op world).1) script.tail (act op world).2)) :
    Leaves reported before (outside.play (await op >>= rest) script world) := by
  refine play_ask (S := signature) fails (Leaves reported before) ?_ acts
  simp_all [leaves_error]

/-- A look-up of a balance adds no event, and returns what there is. -/
structure Fetched (balance : Option String) (world : World)
    (ending : Except AuthError WalletService.WalletBalance ×
      List (Option AuthError) × World) : Prop where
  quiet : ending.2.2.events = world.events
  told : ending.1.toOption.map WalletService.WalletBalance.balance = balance

theorem fetched_getWalletBalance (userId : String)
    (script : List (Option AuthError)) (world : World) :
    Fetched (if script.headD none = none then
        toldBalance userId world.answers world.turn
      else none)
      world (outside.play (WalletService.getWalletBalance userId) script world) := by
  have fails : outside.mayFail (.findWallet userId) = true := rfl
  refine play_ask fails (Fetched _ world) ?_ ?_
  · intro error entry
    rw [if_neg (by rw [entry]; exact Option.some_ne_none error)]
    exact ⟨rfl, rfl⟩
  · intro entry
    rw [if_pos entry, toldBalance]
    generalize found : world.answers world.turn (.findWallet userId) = wallet
    have answer : (outside.act (.findWallet userId) world).1 = wallet := found
    rw [answer]
    cases wallet with
    | none => exact ⟨rfl, rfl⟩
    | some wallet =>
      dsimp only
      rw [play_free rfl]
      generalize answered : world.answers (world.turn + 1) (.loadAccount wallet.publicKey) = account
      have reply : (act (.loadAccount wallet.publicKey)
          (outside.act (.findWallet userId) world).2).1 = account := answered
      rw [reply]
      cases account with
      | error error =>
        dsimp only
        split <;> exact ⟨rfl, rfl⟩
      | ok balances =>
        dsimp only
        cases balances.find? fun line => line.assetType = "native" with
        | none => exact ⟨rfl, rfl⟩
        | some line => exact ⟨rfl, rfl⟩

theorem leaves_balance {userId : String} {rest : WalletService.WalletBalance → Service α}
    (same : world.events = before.events) (stops : (if script.headD none = none then
      toldBalance userId world.answers world.turn else none) = none → reported = false)
    (goes : ∀ balance left after, script.headD none = none →
      toldBalance userId world.answers world.turn =
        some balance.balance → after.events = before.events →
      Leaves reported before (outside.play (rest balance) left after)) :
    Leaves reported before (outside.play
      (WalletService.getWalletBalance userId >>= rest) script world) := by
  have fetched := fetched_getWalletBalance userId script world
  rcases ends : outside.play (WalletService.getWalletBalance userId) script
    world with ⟨outcome, left, after⟩
  rw [ends] at fetched
  have kept : after.events = before.events := fetched.quiet.trans same
  cases outcome with
  | error error =>
    rw [play_bind_error ends, stops fetched.told.symm]
    exact leaves_error kept
  | ok balance =>
    rw [play_bind_ok ends]
    have told := fetched.told
    by_cases answered : script.headD none = none
    · rw [if_pos answered] at told
      exact goes balance left after answered told.symm kept
    · rw [if_neg answered] at told
      cases told

/-- The look-up of the user throws what the method throws, or returns the
user. -/
theorem leaves_findUser {id : Option ℤ} {rest : Users → Service α}
    (same : world.events = before.events)
    (stops : (script.headD none).isNone = false → reported = false)
    (finds : script.headD none = none → Leaves reported before
      (outside.play (rest (act (.findUser id) world).1) script.tail (act (.findUser id) world).2)) :
    Leaves reported before (outside.play (AuthService.findUser id >>= rest) script world) := by
  cases entry : script.headD none with
  | some error =>
    have ends : outside.play (AuthService.findUser id) script world =
        (.error (.unauthorized "User not found"), script.tail, world) :=
      play_attempt_bind (play_throws rfl entry world)
    grind [play_bind_error, leaves_error]
  | none =>
    have ends : outside.play (AuthService.findUser id) script world =
        (.ok (act (.findUser id) world).1, script.tail, (act (.findUser id) world).2) :=
      play_attempt_bind (play_acts rfl entry world)
    rw [play_bind_ok ends]
    exact finds entry

theorem play_transactionId (kind : String) (script : List (Option AuthError))
    (world : World) : ∃ id after, outside.play (WalletService.transactionId kind) script world =
        (.ok id, script, after) ∧ after.events = world.events := by
  rw [WalletService.transactionId, play_free rfl, play_free rfl]
  exact ⟨_, _, rfl, rfl⟩

end

variable {α : Type} {script : List (Option AuthError)} {world : World}

theorem audited_toldBy_iff {failure : AuthError → AuditEvent}
    (describes : ∀ error, (failure error).status = .failure ∧
      (failure error).errorMessage = some error.message) {body : Service α} {reported : Bool}
    (leaves : Leaves reported world (outside.play body script world)) :
    ToldBy world (outside.play (audited failure body) script world) ↔ reported = false := by
  rcases ends : outside.play body script world with ⟨outcome, left, after⟩
  rw [ends] at leaves
  rw [audited, play_attempt_bind ends]
  cases outcome with
  | ok value =>
    obtain ⟨unreported, event, added, succeeds⟩ := leaves
    exact iff_of_true ⟨event, added, succeeds⟩ unreported
  | error error =>
    obtain ⟨events, added, quiet⟩ := leaves
    rw [← quiet, play_caught]
    constructor
    · rintro ⟨event, one, -⟩
      have same : after.events ++ [failure error] = world.events ++ [event] := one
      rw [added, List.append_assoc, List.append_cancel_left_eq] at same
      have lengths := congrArg List.length same
      rw [List.length_append] at lengths
      exact List.length_eq_zero_iff.mp (Nat.succ_inj.mp lengths)
    · rintro rfl
      rw [List.append_nil] at added
      exact ⟨failure error, congrArg (· ++ [failure error]) added, describes error⟩

theorem toldBy_discard_iff {program : Service α} :
    ToldBy world (outside.play (program >>= fun _ => pure ()) script world) ↔
      ToldBy world (outside.play program script world) := by
  rw [play_bind]
  rcases outside.play program script world with ⟨outcome, left, after⟩
  cases outcome <;> exact Iff.rfl

theorem completeWithdrawal_toldBy (caller : Caller) (transactionHash : String)
    (amount : Number) (destination : String) (script : List (Option AuthError)) (world : World) :
    ToldBy world (outside.play (WalletService.completeWithdrawal caller
      transactionHash amount destination) script world) := by
  refine (audited_toldBy_iff (fun _ => ⟨rfl, rfl⟩) (?_ : Leaves false world _)).mpr rfl
  by_cases blank : transactionHash = ""
  · rw [if_pos blank]
    exact leaves_error rfl
  rw [if_neg blank]
  refine leaves_ask rfl rfl (fun _ => rfl) fun _ => ?_
  cases (act (.findWallet caller.userId) world).1 with
  | none => exact leaves_error rfl
  | some wallet =>
    rw [play_free rfl]
    exact leaves_success true rfl rfl

theorem requestDeposit_toldBy (caller : Caller) (amount : Number)
    (script : List (Option AuthError)) (world : World) :
    ToldBy world (outside.play (WalletService.requestDeposit caller amount)
      script world) := by
  refine (audited_toldBy_iff (fun _ => ⟨rfl, rfl⟩) (?_ : Leaves false world _)).mpr rfl
  by_cases low : amount.le (.finite 0)
  · rw [if_pos low]
    exact leaves_error rfl
  rw [if_neg low]
  refine leaves_ask rfl rfl (fun _ => rfl) fun _ => ?_
  cases (act (.findWallet caller.userId) world).1 with
  | none => exact leaves_error rfl
  | some wallet =>
    refine leaves_balance rfl (fun _ => rfl) fun balance left after _ _ same => ?_
    obtain ⟨id, later, drawn, quiet⟩ := play_transactionId "deposit" left after
    rw [play_bind_ok drawn, play_free rfl]
    exact leaves_success _ rfl (quiet.trans same)

theorem resetPassword_toldBy (caller : Caller) (newPassword : String)
    (script : List (Option AuthError)) (world : World) :
    ToldBy world (outside.play (AuthService.resetPassword caller newPassword)
      script world) := by
  refine (audited_toldBy_iff (fun _ => ⟨rfl, rfl⟩) (?_ : Leaves false world _)).mpr rfl
  refine leaves_ask rfl rfl (fun _ => rfl) fun _ => ?_
  refine leaves_ask rfl rfl (fun _ => rfl) fun _ => ?_
  rw [play_free rfl]
  exact leaves_success true rfl rfl

theorem requestWithdrawal_toldBy_iff (caller : Caller) (amount : Number)
    (destination : String) (script : List (Option AuthError)) (world : World) :
    ToldBy world (outside.play (WalletService.requestWithdrawal caller amount
      destination) script world) ↔
      reportedBefore (.requestWithdrawal caller amount destination) script world = false := by
  refine audited_toldBy_iff (fun _ => ⟨rfl, rfl⟩) ?_
  rw [reportedBefore, answeredUpTo_succ, answeredUpTo_succ]
  by_cases low : amount.le (.finite 0)
  · rw [if_pos low, low]
    exact leaves_error rfl
  rw [if_neg low, Bool.eq_false_iff.mpr low]
  refine leaves_ask rfl rfl ?_ fun first => ?_
  · grind
  generalize found : world.answers world.turn (.findWallet caller.userId) = wallet
  have answer : (act (.findWallet caller.userId) world).1 = wallet := found
  rw [answer, first]
  cases wallet with
  | none =>
    simp only [Option.isSome_none, Bool.and_false, Bool.false_and]
    exact leaves_error rfl
  | some wallet =>
    cases valid : WalletService.isValidStellarAddress destination with
    | false =>
      simp only [Bool.and_false, Bool.false_and]
      exact leaves_error rfl
    | true =>
      refine leaves_balance rfl ?_ ?_
      · intro stopped
        by_cases second : script.tail.headD none = none
        · rw [if_pos second] at stopped
          have untold : toldBalance caller.userId world.answers (world.turn + 1) = none := stopped
          rw [untold, Bool.and_false]
        · simp_all
      · intro balance left after second told same
        have here : toldBalance caller.userId world.answers
            (world.turn + 1) = some balance.balance := told
        rw [here, second]
        dsimp only
        cases short :
            (WalletService.parseFloat balance.balance).lt amount with
        | true =>
          rw [if_pos rfl, play_free rfl]
          exact leaves_reported (congrArg (· ++ [_]) same)
        | false =>
          rw [if_neg Bool.false_ne_true]
          obtain ⟨id, later, drawn, quiet⟩ := play_transactionId "withdrawal" left after
          rw [Bool.and_false, play_bind_ok drawn, play_free rfl]
          exact leaves_success _ rfl (quiet.trans same)

theorem changePassword_toldBy_iff (caller : Caller)
    (oldPassword newPassword : String) (script : List (Option AuthError)) (world : World) :
    ToldBy world (outside.play (AuthService.changePassword caller oldPassword
      newPassword) script world) ↔
      reportedBefore (.changePassword caller oldPassword newPassword) script world = false := by
  refine audited_toldBy_iff (fun _ => ⟨rfl, rfl⟩) ?_
  rw [reportedBefore, answeredUpTo_succ, answeredUpTo_succ]
  refine leaves_findUser rfl ?_ fun first => ?_
  · intro stopped
    rw [stopped]
    rfl
  rw [first]
  refine leaves_ask rfl rfl ?_ fun second => ?_
  · intro stopped
    rw [stopped]
    rfl
  rw [second]
  generalize asked : world.answers (world.turn + 1) _ = isPasswordValid
  have answer : (act (.compare oldPassword (act (.findUser (parseInt?
      caller.userId.toList)) world).1.password) (act (.findUser (parseInt?
      caller.userId.toList)) world).2).1 = isPasswordValid := asked
  rw [answer]
  cases isPasswordValid with
  | false =>
    rw [Bool.not_false, if_pos rfl, play_free rfl]
    exact leaves_reported rfl
  | true =>
    refine leaves_ask rfl rfl (fun _ => rfl) fun _ => ?_
    refine leaves_ask rfl rfl (fun _ => rfl) fun _ => ?_
    rw [play_free rfl]
    exact leaves_success true rfl rfl

/-- A call leaves the one event that tells how it ended, unless it comes to a
branch that reports before it throws. -/
theorem told_iff (call : AuditedCall) (script : List (Option AuthError)) (world : World) :
    Told call script world ↔ reportedBefore call script world = false := by
  rw [Told]
  cases call with
  | requestWithdrawal caller amount destination =>
    exact toldBy_discard_iff.trans
      (requestWithdrawal_toldBy_iff caller amount destination script world)
  | completeWithdrawal caller transactionHash amount destination =>
    exact toldBy_discard_iff.trans (iff_of_true
      (completeWithdrawal_toldBy caller transactionHash amount destination script world) rfl)
  | requestDeposit caller amount =>
    exact toldBy_discard_iff.trans (iff_of_true
      (requestDeposit_toldBy caller amount script world) rfl)
  | changePassword caller oldPassword newPassword =>
    exact toldBy_discard_iff.trans (changePassword_toldBy_iff caller oldPassword newPassword script
        world)
  | resetPassword caller newPassword =>
    exact toldBy_discard_iff.trans (iff_of_true
      (resetPassword_toldBy caller newPassword script world) rfl)

/-- One user, with five lumens and a password that is not the one asked. -/
def answered (_ : ℕ) : (op : Op) → Reply op
  | .findWallet _ => some ⟨"w1", "G1"⟩
  | .loadAccount _ => .ok [⟨"native", "5"⟩]
  | .findUser _ => ⟨some "hash"⟩
  | .compare _ _ => false
  | .hash _ | .randomText => "x"
  | .dateNow => 0
  | .updatePassword _ _ | .emit _ => ()

def asked : World := ⟨answered, 0, []⟩

def overdrawing : AuditedCall := .requestWithdrawal ⟨"1", "10.0.0.1", none⟩ (.finite 8)
    (String.ofList ('G' :: List.replicate 55 'A'))

def guessing : AuditedCall := .changePassword ⟨"1", "10.0.0.1", none⟩ "guess" "secret"

theorem not_toldBy {first second : Option String}
    {ending : Except AuthError α × List (Option AuthError) × World} (fresh : world.events = [])
    (two : ending.2.2.events.map AuditEvent.errorMessage = [first, second]) :
    ¬ ToldBy world ending := by
  rintro ⟨event, added, -⟩
  rw [added, fresh] at two
  cases two

/-- What is refused for its balance, or for its password, is told twice. -/
theorem refused_calls_told_twice :
    ((outside.play overdrawing.program [] asked).2.2.events.map AuditEvent.errorMessage =
      [some "Insufficient balance", some "Insufficient balance for withdrawal"] ∧
      ¬ Told overdrawing [] asked) ∧ ((outside.play guessing.program [] asked).2.2.events.map
        AuditEvent.errorMessage =
      [some "Invalid current password", some "Invalid current password"] ∧
      ¬ Told guessing [] asked) := by
  have overdrawn : (outside.play overdrawing.program [] asked).2.2.events.map
      AuditEvent.errorMessage = [some "Insufficient balance",
        some "Insufficient balance for withdrawal"] := by decide +kernel
  have guessed : (outside.play guessing.program [] asked).2.2.events.map
      AuditEvent.errorMessage = [some "Invalid current password",
        some "Invalid current password"] := by decide
  exact ⟨⟨overdrawn, not_toldBy rfl overdrawn⟩, guessed, not_toldBy rfl guessed⟩

end MarketX.AuditedCalls
