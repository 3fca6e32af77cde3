import AcademicCredential.Lib.Hex
import Mathlib.Logic.Function.Basic

/-!
# The certificate registry contract

The storage and the entry points of `CertificateRegistry.sol`. A transaction is one
external call with its sender and block timestamp; `execute` either reverts with the
contract's own error or returns the new storage and the emitted event. Checks stand
in the order of the source's modifiers and bodies. Mappings are total functions, as
in Solidity: an absent key reads as the zero value of its type.

Counters are natural numbers with the overflow check of Solidity 0.8.
-/

namespace AcademicCredential.Contract

open AcademicCredential.Lib

/-- A Solidity `bytes32`. -/
abbrev Bytes32 := SizedBytes 32

/-- A Solidity `address`. -/
abbrev Address := SizedBytes 20

/-- A Solidity `string`, as the bytes the contract sees and measures. -/
abbrev SolidityString := List UInt8

/-- `address(0)`. -/
abbrev zeroAddress : Address := SizedBytes.zero 20

/-- `bytes32(0)`. -/
abbrev zeroHash : Bytes32 := SizedBytes.zero 32

/-- `CertificateStatus` of the contract. -/
inductive CertificateStatus where
  | ACTIVE
  | REVOKED
  deriving DecidableEq, Repr

/-- `CertificateRecord` of the contract. -/
structure CertificateRecord where
  certificateHash : Bytes32
  issuingUniversity : Address
  status : CertificateStatus
  «exists» : Bool
  issuedAt : Nat
  revokedAt : Nat
  deriving DecidableEq, Repr

/-- What an absent key of the mapping reads as. -/
def CertificateRecord.empty : CertificateRecord where
  certificateHash := zeroHash
  issuingUniversity := zeroAddress
  status := .ACTIVE
  «exists» := false
  issuedAt := 0
  revokedAt := 0

/-- The contract's custom errors, and the checked arithmetic panic. -/
inductive RevertError where
  | NotContractOwner (caller owner : Address)
  | NotAuthorizedIssuer (caller : Address)
  | NotOriginalIssuer (caller originalIssuer : Address)
  | CertificateAlreadyExists (certUid : SolidityString)
  | CertificateNotFound (certUid : SolidityString)
  | CertificateAlreadyRevoked (certUid : SolidityString) (originalRevokedAt : Nat)
  | InvalidCertificateHash
  | InvalidCertificateUid (certUid : SolidityString) (length : Nat)
  | IssuerAlreadyAuthorized (issuer : Address)
  | IssuerNotAuthorized (issuer : Address)
  | CannotTransferToZeroAddress
  | CannotAuthorizeZeroAddress
  | CannotAuthorizeOwner (ownerAddress : Address)
  | AlreadyOwner
  | Overflow
  deriving DecidableEq, Repr

/-- The events of the contract. -/
inductive Event where
  | CertificateStored (certUid : SolidityString) (certificateHash : Bytes32)
      (issuingUniversity : Address) (issuedAt totalCertificatesOnChain : Nat)
  | CertificateRevoked (certUid : SolidityString) (revokedByUniversity : Address)
      (revokedAt totalRevocationsOnChain : Nat)
  | IssuerAuthorized (issuerAddress authorizedBy : Address) (authorizedAt : Nat)
  | IssuerDeauthorized (issuerAddress deauthorizedBy : Address) (deauthorizedAt : Nat)
      (reason : SolidityString)
  | OwnershipTransferred (previousOwner newOwner : Address) (transferredAt : Nat)
  deriving DecidableEq, Repr

/-- The contract's storage. -/
structure Registry where
  owner : Address
  totalCertificates : Nat
  totalRevocations : Nat
  authorizedIssuers : Address → Bool
  certificates : SolidityString → CertificateRecord

/-- `msg.sender` and `block.timestamp` of a transaction. -/
structure Message where
  sender : Address
  timestamp : Nat
  deriving DecidableEq, Repr

/-- The state-changing external functions with their arguments. -/
inductive Call where
  | authorizeIssuer (issuerAddress : Address)
  | deauthorizeIssuer (issuerAddress : Address) (reason : SolidityString)
  | transferOwnership (newOwner : Address)
  | storeCertificate (certUid : SolidityString) (certHash : Bytes32)
  | revokeCertificate (certUid : SolidityString)
  deriving DecidableEq, Repr

/-- A call with the message that carries it. -/
structure Transaction where
  message : Message
  call : Call
  deriving DecidableEq, Repr

/-- `revert error` unless `condition` holds. -/
def require (condition : Bool) (error : RevertError) : Except RevertError Unit :=
  if condition then .ok () else .error error

/-- A guarded computation succeeds when the guard holds and the rest succeeds. -/
@[simp] theorem require_bind_ok {Result : Type} {condition : Bool} {error : RevertError}
    {rest : Unit → Except RevertError Result} {result : Result} :
    (require condition error >>= rest) = .ok result ↔
      condition = true ∧ rest () = .ok result := by
  cases condition <;> simp [require, bind, Except.bind]

/-- `value + 1` in 256-bit checked arithmetic. -/
def checkedIncrement (value : Nat) : Except RevertError Nat :=
  if value + 1 < 2 ^ 256 then .ok (value + 1) else .error .Overflow

/-- A checked increment goes on below 2^256. -/
theorem checkedIncrement_bind_ok {Result : Type} {value : Nat}
    {rest : Nat → Except RevertError Result} {result : Result} :
    (checkedIncrement value >>= rest) = .ok result ↔
      value + 1 < 2 ^ 256 ∧ rest (value + 1) = .ok result := by
  by_cases fits : value + 1 < 2 ^ 256
  · rw [checkedIncrement, if_pos fits]
    exact ⟨fun done => ⟨fits, done⟩, fun both => both.2⟩
  · rw [checkedIncrement, if_neg fits]
    refine ⟨fun done => ?_, fun both => absurd both.1 fits⟩
    cases done

namespace Registry

/-- The constructor: the deployer becomes the owner and no issuer is authorized. -/
def deploy (deployer : Address) : Registry where
  owner := deployer
  totalCertificates := 0
  totalRevocations := 0
  authorizedIssuers := fun _ => false
  certificates := fun _ => .empty

variable (registry : Registry) (message : Message)

/-- The modifier `onlyOwner`. -/
def onlyOwner : Except RevertError Unit :=
  require (message.sender = registry.owner) (.NotContractOwner message.sender registry.owner)

/-- The modifier `onlyAuthorizedIssuer`. -/
def onlyAuthorizedIssuer : Except RevertError Unit :=
  require (registry.authorizedIssuers message.sender) (.NotAuthorizedIssuer message.sender)

/-- The modifier `certificateMustExist`. -/
def certificateMustExist (certUid : SolidityString) : Except RevertError Unit :=
  require (registry.certificates certUid).exists (.CertificateNotFound certUid)

/-- The modifier `certificateMustBeActive`. -/
def certificateMustBeActive (certUid : SolidityString) : Except RevertError Unit :=
  require ((registry.certificates certUid).status = .ACTIVE)
    (.CertificateAlreadyRevoked certUid (registry.certificates certUid).revokedAt)

/-- The modifier `onlyOriginalIssuer`. -/
def onlyOriginalIssuer (certUid : SolidityString) : Except RevertError Unit :=
  require ((registry.certificates certUid).issuingUniversity = message.sender)
    (.NotOriginalIssuer message.sender (registry.certificates certUid).issuingUniversity)

/-- The modifier `validCertHash`. -/
def validCertHash (certHash : Bytes32) : Except RevertError Unit :=
  require (certHash ≠ zeroHash) .InvalidCertificateHash

/-- The modifier `validCertUid`. -/
def validCertUid (certUid : SolidityString) : Except RevertError Unit :=
  require (certUid.length ≠ 0 ∧ certUid.length ≤ 50)
    (.InvalidCertificateUid certUid certUid.length)

/-- `authorizeIssuer`. -/
def authorizeIssuer (issuerAddress : Address) : Except RevertError (Registry × Event) := do
  registry.onlyOwner message
  require (issuerAddress ≠ zeroAddress) .CannotAuthorizeZeroAddress
  require (issuerAddress ≠ registry.owner) (.CannotAuthorizeOwner registry.owner)
  require (!registry.authorizedIssuers issuerAddress) (.IssuerAlreadyAuthorized issuerAddress)
  return ({ registry with
      authorizedIssuers := Function.update registry.authorizedIssuers issuerAddress true },
    .IssuerAuthorized issuerAddress message.sender message.timestamp)

/-- `deauthorizeIssuer`. -/
def deauthorizeIssuer (issuerAddress : Address) (reason : SolidityString) :
    Except RevertError (Registry × Event) := do
  registry.onlyOwner message
  require (registry.authorizedIssuers issuerAddress) (.IssuerNotAuthorized issuerAddress)
  return ({ registry with
      authorizedIssuers := Function.update registry.authorizedIssuers issuerAddress false },
    .IssuerDeauthorized issuerAddress message.sender message.timestamp reason)

/-- `transferOwnership`. -/
def transferOwnership (newOwner : Address) : Except RevertError (Registry × Event) := do
  registry.onlyOwner message
  require (newOwner ≠ zeroAddress) .CannotTransferToZeroAddress
  require (newOwner ≠ registry.owner) .AlreadyOwner
  return ({ registry with owner := newOwner },
    .OwnershipTransferred registry.owner newOwner message.timestamp)

/-- The record `storeCertificate` writes. -/
def freshRecord (certHash : Bytes32) : CertificateRecord where
  certificateHash := certHash
  issuingUniversity := message.sender
  status := .ACTIVE
  «exists» := true
  issuedAt := message.timestamp
  revokedAt := 0

/-- `storeCertificate`. -/
def storeCertificate (certUid : SolidityString) (certHash : Bytes32) :
    Except RevertError (Registry × Event) := do
  registry.onlyAuthorizedIssuer message
  validCertUid certUid
  validCertHash certHash
  require (!(registry.certificates certUid).exists) (.CertificateAlreadyExists certUid)
  let totalCertificates ← checkedIncrement registry.totalCertificates
  return ({ registry with
      certificates :=
        Function.update registry.certificates certUid (freshRecord message certHash)
      totalCertificates },
    .CertificateStored certUid certHash message.sender message.timestamp totalCertificates)

/-- `revokeCertificate`. -/
def revokeCertificate (certUid : SolidityString) : Except RevertError (Registry × Event) := do
  registry.onlyAuthorizedIssuer message
  registry.certificateMustExist certUid
  registry.certificateMustBeActive certUid
  registry.onlyOriginalIssuer message certUid
  let totalRevocations ← checkedIncrement registry.totalRevocations
  return ({ registry with
      certificates := Function.update registry.certificates certUid
        { registry.certificates certUid with
          status := .REVOKED, revokedAt := message.timestamp }
      totalRevocations },
    .CertificateRevoked certUid message.sender message.timestamp totalRevocations)

/-- `verifyCertificate`: the verdict and the status, and ACTIVE with `false` for an absent
record. -/
def verifyCertificate (certUid : SolidityString) (submittedHash : Bytes32) :
    Bool × CertificateStatus :=
  let record := registry.certificates certUid
  if !record.exists then
    (false, .ACTIVE)
  else if record.status = .REVOKED then
    (false, .REVOKED)
  else
    (record.certificateHash = submittedHash, .ACTIVE)

/-- `getCertificateRecord`. -/
def getCertificateRecord (certUid : SolidityString) : CertificateRecord :=
  registry.certificates certUid

/-- `isAuthorizedIssuer`. -/
def isAuthorizedIssuer (wallet : Address) : Bool :=
  registry.authorizedIssuers wallet

/-- `getCertificateCount`. -/
def getCertificateCount : Nat :=
  registry.totalCertificates

/-- The external call a transaction makes. -/
def execute (transaction : Transaction) : Except RevertError (Registry × Event) :=
  match transaction.call with
  | .authorizeIssuer issuerAddress => registry.authorizeIssuer transaction.message issuerAddress
  | .deauthorizeIssuer issuerAddress reason =>
      registry.deauthorizeIssuer transaction.message issuerAddress reason
  | .transferOwnership newOwner => registry.transferOwnership transaction.message newOwner
  | .storeCertificate certUid certHash =>
      registry.storeCertificate transaction.message certUid certHash
  | .revokeCertificate certUid => registry.revokeCertificate transaction.message certUid

/-- The storage after a transaction; a revert undoes every effect. -/
def apply (transaction : Transaction) : Registry :=
  match registry.execute transaction with
  | .ok (next, _) => next
  | .error _ => registry

/-- The transaction does not revert. -/
def Accepts (transaction : Transaction) : Prop :=
  ∃ result, registry.execute transaction = .ok result

end Registry
end AcademicCredential.Contract
