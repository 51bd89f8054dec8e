import ZcashPayment.Service

/-!
The wallet identity.

The app database stores which wallet it belongs to: a key, a network and a birthday, written
once and compared at every start and in every sync iteration. The configuration may name them,
and so may the wallet database once it holds an account. The comparison is not one
transaction: it reads, and then touches the row, inserts it, or finds that another start was
faster. A `Check` is one call between two of these steps.
-/

namespace ZcashPayment

/-- The settings a start reads; `Config` holds those of the scanner and the ledger. -/
structure StartupConfig extends Config where
  network : String
  startupUivk : Option String
  birthdayHeight : Option ℕ
  walletDbPath : String
  lightwalletdUrl : Option String
  devSimulatedPayments : Bool
  publicBaseUrl : Option String
  returnUrlAllowedOrigins : List String
  deriving DecidableEq, Repr

/-- The first account of the wallet database. -/
structure WalletDbIdentity where
  uivk : String
  birthdayHeight : ℕ
  deriving DecidableEq, Repr

/-- The single row of `wallet_identity`. -/
structure WalletIdentity where
  canonicalUivk : String
  uivkFingerprint : String
  network : String
  birthdayHeight : ℕ
  walletDbPath : String
  initializedAt : Timestamp
  lastValidatedAt : Timestamp
  deriving DecidableEq, Repr

def lowerHexDigit (n : ℕ) : Char := "0123456789abcdef".toList.getD n '0'

/-- Sixteen hexadecimal digits. -/
def hex16 (n : ℕ) : String :=
  String.ofList ((List.range 16).map fun i => lowerHexDigit (n / 16 ^ (15 - i) % 16))

/-- The FNV-1a hash of the text. -/
def fingerprint (value : String) : String :=
  hex16 (value.toUTF8.toList.foldl
    (fun a byte => (a ^^^ byte.toNat) * 0x100000001b3 % 2 ^ 64) 0xcbf29ce484222325)

/-! ### ensure_wallet_identity -/

/-- The comparisons of a later start. -/
def checkExisting (config : StartupConfig) (wallet : Option WalletDbIdentity)
    (existing : WalletIdentity) : Except AppError Unit :=
  if wallet.any fun account => account.uivk ≠ existing.canonicalUivk then
    .error (.startupIntegrity "wallet DB UIVK does not match stored wallet identity")
  else if wallet.any fun account => account.birthdayHeight ≠ existing.birthdayHeight then
    .error (.startupIntegrity "wallet DB birthday height does not match stored wallet identity")
  else if config.startupUivk.any fun uivk => uivk ≠ existing.canonicalUivk then
    .error (.startupIntegrity "provided ZCASH_UIVK does not match stored wallet identity")
  else if existing.network ≠ config.network then
    .error (.startupIntegrity "configured ZCASH_NETWORK does not match stored wallet identity")
  else if config.birthdayHeight.any fun height => height ≠ existing.birthdayHeight then
    .error (.startupIntegrity
      "provided ZCASH_BIRTHDAY_HEIGHT does not match stored wallet identity")
  else .ok ()

def uivkMissing : AppError := .startupIntegrity
  ("first startup requires ZCASH_UIVK unless the wallet DB already contains a canonical account")

def birthdayMissing : AppError := .startupIntegrity
  ("first startup requires ZCASH_BIRTHDAY_HEIGHT unless the wallet DB already contains " ++
    "a canonical account")

/-- The row a first start inserts. The two birthdays are not compared. -/
def firstIdentity (config : StartupConfig) (wallet : Option WalletDbIdentity) (now : Timestamp) :
    Except AppError WalletIdentity :=
  if config.startupUivk.any fun uivk => wallet.any fun account => uivk ≠ account.uivk then
    .error (.startupIntegrity
      "provided ZCASH_UIVK does not match the existing wallet DB identity")
  else match config.startupUivk.or (wallet.map (·.uivk)) with
    | none => .error uivkMissing
    | some uivk => match config.birthdayHeight.or (wallet.map (·.birthdayHeight)) with
      | none => .error birthdayMissing
      | some birthdayHeight =>
        .ok {
          canonicalUivk := uivk
          uivkFingerprint := fingerprint uivk
          network := config.network
          birthdayHeight
          walletDbPath := config.walletDbPath
          initializedAt := now
          lastValidatedAt := now }

/-- The comparison of a first start that another one has overtaken. -/
def checkRace (existing identity : WalletIdentity) : Except AppError WalletIdentity :=
  if existing.canonicalUivk ≠ identity.canonicalUivk ∨ existing.network ≠ identity.network ∨
      existing.birthdayHeight ≠ identity.birthdayHeight ∨
      existing.walletDbPath ≠ identity.walletDbPath then
    .error (.startupIntegrity
      "concurrent wallet identity initialization produced conflicting singleton data")
  else .ok existing

/-- `UPDATE wallet_identity SET last_validated_at = ?` -/
def touched (now : Timestamp) (identity : WalletIdentity) : WalletIdentity :=
  { identity with lastValidatedAt := now }

/-- A call that runs alone. -/
def ensureWalletIdentity (config : StartupConfig) (wallet : Option WalletDbIdentity)
    (now : Timestamp) (stored : Option WalletIdentity) :
    Except AppError (WalletIdentity × Option WalletIdentity) :=
  match stored with
  | some existing =>
    (checkExisting config wallet existing).map fun _ =>
      (touched now existing, some (touched now existing))
  | none => (firstIdentity config wallet now).map fun identity => (identity, some identity)

/-! ### Calls side by side -/

/-- Where a call is. -/
inductive Phase where
  | start
  | touching
  | reloading
  | inserting (identity : WalletIdentity)
  | comparing (identity : WalletIdentity)
  | done (result : Except AppError WalletIdentity)

structure Check where
  config : StartupConfig
  now : Timestamp
  phase : Phase

def insertConflict : AppError := .database "UNIQUE constraint failed: wallet_identity.singleton_id"

/-- The next step of a call: one query or one statement, and what the code does with it. -/
def Check.step (wallet : Option WalletDbIdentity) (stored : Option WalletIdentity) (c : Check) :
    Option WalletIdentity × Phase :=
  match c.phase with
  | .start =>
    match stored with
    | some existing =>
      (stored, match checkExisting c.config wallet existing with
        | .ok () => .touching
        | .error e => .done (.error e))
    | none =>
      (stored, match firstIdentity c.config wallet c.now with
        | .ok identity => .inserting identity
        | .error e => .done (.error e))
  | .touching => (stored.map (touched c.now), .reloading)
  | .reloading =>
    (stored, match stored with
      | some existing => .done (.ok existing)
      -- The code expects the row; no statement deletes it.
      | none => .reloading)
  | .inserting identity =>
    match stored with
    | none => (some identity, .done (.ok identity))
    | some _ => (stored, .comparing identity)
  | .comparing identity =>
    (stored, match stored with
      | some existing => .done (checkRace existing identity)
      | none => .done (.error insertConflict))
  | .done result => (stored, .done result)

/-- The stored row and the calls made so far. -/
structure Startups where
  stored : Option WalletIdentity
  checks : List Check

inductive StartupAct where
  | call (config : StartupConfig) (now : Timestamp)
  | step (i : ℕ)

def Startups.act (wallet : Option WalletDbIdentity) (s : Startups) : StartupAct → Startups
  | .call config now => { s with checks := s.checks ++ [⟨config, now, .start⟩] }
  | .step i =>
    match s.checks[i]? with
    | none => s
    | some c =>
      let r := c.step wallet s.stored
      { stored := r.1, checks := s.checks.set i { c with phase := r.2 } }

def Startups.run (wallet : Option WalletDbIdentity) (s : Startups) (acts : List StartupAct) :
    Startups :=
  acts.foldl (Startups.act wallet) s

end ZcashPayment
