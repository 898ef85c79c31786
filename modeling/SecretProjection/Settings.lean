import SecretProjection.Duration
import SecretProjection.Table
import SecretProjection.Url.Parser

/-!
# Settings

The program is set up by named texts.  Only the address of Vault has to be given.
-/

namespace SecretProjection

structure Settings where
  vaultAddress : Url
  /-- Whether certificates of Vault go unchecked. -/
  skipVerify : Bool
  /-- The one namespace to watch, if not all. -/
  watchNamespace : Option String
  syncTimeout : Duration
  retryInterval : Duration
  deriving DecidableEq

namespace Settings

/-! ## Faults -/

/-- Why a text is no whole number of 64 bits. -/
inductive NumberFault where
  | empty
  | badDigit
  | tooLarge
  deriving DecidableEq, Repr

def NumberFault.message : NumberFault -> String
  | .empty => "cannot parse integer from empty string"
  | .badDigit => "invalid digit found in string"
  | .tooLarge => "number too large to fit in target type"

inductive Fault where
  | noAddress
  | badAddress (text : String) (fault : Url.Fault)
  | badSeconds (name : String) (fault : NumberFault)
  deriving DecidableEq, Repr

/-- The wording of a fault and of its causes, the fault first. -/
def Fault.chain : Fault -> List String
  | .noAddress => ["VAULT_ADDR environment variable not set"]
  | .badAddress text fault => ["VAULT_ADDR is not a valid URL: " ++ text, fault.message]
  | .badSeconds name fault => [name ++ " must be a whole number of seconds", fault.message]

/-! ## Numbers -/

def readDigits (value : Nat) : List Char -> Except NumberFault Nat
  | [] => .ok value
  | c :: rest =>
      if Text.isDigit c then
        let value := 10 * value + (c.toNat - 48)
        if Nat.pow 2 64 ≤ value then .error .tooLarge else readDigits value rest
      else .error .badDigit

/-- The number that a text spells, with a plus sign or without. -/
def readNumber (text : List Char) : Except NumberFault Nat :=
  match text with
  | [] => .error .empty
  | ['+'] => .error .badDigit
  | '+' :: digits => readDigits 0 digits
  | digits => readDigits 0 digits

/-! ## Reading -/

/-- The seconds that are used when none are given. -/
def defaultSeconds : Nat := 30

def secondsOf (texts : Table String) (name : String) : Except Fault Duration :=
  match texts.get? name with
  | none => .ok (.ofSeconds defaultSeconds)
  | some text =>
      match readNumber text.toList with
      | .error fault => .error (.badSeconds name fault)
      | .ok n => .ok (.ofSeconds n)

def addressOf (texts : Table String) : Except Fault Url :=
  match texts.get? "VAULT_ADDR" with
  | none => .error .noAddress
  | some text =>
      match Url.parse text with
      | .error fault => .error (.badAddress text fault)
      | .ok url => .ok url

def ofTexts (texts : Table String) : Except Fault Settings := do
  let vaultAddress <- addressOf texts
  let syncTimeout <- secondsOf texts "SYNC_TIMEOUT_SECS"
  let retryInterval <- secondsOf texts "RETRY_INTERVAL_SECS"
  return {
    vaultAddress
    skipVerify := texts.get? "VAULT_SKIP_VERIFY" == some "true"
    watchNamespace := (texts.get? "WATCH_NAMESPACE").filter fun name => !name.isEmpty
    syncTimeout
    retryInterval }

end Settings

end SecretProjection
