import AcademicCredential.Database.Decide
import AcademicCredential.Database.Updates
import AcademicCredential.ServiceFootprints

/-!
# Confirmations side by side

`confirm_blockchain_storage` and `confirm_revocation`, any number of them at the same time,
statement by statement. The first checks the status of the row it has read, asks the chain, and
then updates the status without asking what it is by then. `confirmations_forward`: in every run
in which no such UPDATE finds a status that the check turns away, no status moves backwards.
-/

namespace AcademicCredential

open AcademicCredential.Lib

/-- The two confirmations. -/
inductive ConfirmationCall where
  | storage (certId : Uuid) (blockchainTxHash : String) (currentUser : User)
  | revocation (certId : Uuid) (blockchainTxHash : String) (currentUser : User)

/-- The answers of the two confirmations. -/
inductive ConfirmationAnswer where
  | storage (response : CertificateIssuanceService.StorageResponse)
  | revocation (response : CertificateRevocationService.RevocationResponse)

/-- What a confirmation runs. -/
def ConfirmationCall.action (runtime : Runtime) : ConfirmationCall → Action ConfirmationAnswer
  | .storage certId blockchainTxHash currentUser =>
      .storage <$> CertificateIssuanceService.confirmBlockchainStorage runtime certId
        blockchainTxHash currentUser
  | .revocation certId blockchainTxHash currentUser =>
      .revocation <$> CertificateRevocationService.confirmRevocation runtime certId
        blockchainTxHash currentUser

/-- The confirmations side by side, with the store they share. -/
abbrev ConfirmationWorld := Lib.World Op Exception ConfirmationAnswer ConfirmationCall Store Session

/-- One turn of the confirmations side by side. -/
abbrev ConfirmationTurn := Turn ConfirmationCall Inputs (List MinedTransaction)

/-- The confirmations side by side, over the operations of a session. -/
def confirmationSystem (runtime : Runtime) :
    System Op Exception ConfirmationAnswer ConfirmationCall Inputs (List MinedTransaction) Store
      Session :=
  readCommitted (ConfirmationCall.action runtime)

/-- A CONFIRMED row may only become REVOKED, and a REVOKED one stays so. -/
structure Forward (old new : Certificate) : Prop where
  confirmed : old.blockchainStatus = .CONFIRMED →
    new.blockchainStatus = .CONFIRMED ∨ new.blockchainStatus = .REVOKED
  revoked : old.blockchainStatus = .REVOKED → new.blockchainStatus = .REVOKED

/-- A row that stays as it is has not gone back. -/
theorem Forward.refl (row : Certificate) : Forward row row := ⟨.inl, id⟩

/-- Two steps forward are a step forward. -/
theorem Forward.trans (first middle last : Certificate) (earlier : Forward first middle)
    (later : Forward middle last) : Forward first last := by
  refine ⟨fun confirmed => ?_, fun revoked => later.revoked (earlier.revoked revoked)⟩
  rcases earlier.confirmed confirmed with still | revoked
  · exact later.confirmed still
  · exact .inr (later.revoked revoked)

/-- The status that `confirm_blockchain_storage` goes on with. -/
def BlockchainStatus.isConfirmable (status : BlockchainStatus) : Bool :=
  status = .PENDING || status = .SUBMITTED

/-- The turn is an UPDATE of `confirm_blockchain_storage`, and the status it finds is not one that
the call goes on with. -/
def ConfirmsTooLate (world : ConfirmationWorld) (turn : ConfirmationTurn) : Prop :=
  ∃ index thread id assignments, turn = .operate index ∧
    (∃ certId blockchainTxHash currentUser,
      thread.call = .storage certId blockchainTxHash currentUser) ∧
    Writes world index thread (.update .certificates id assignments) ∧
    ∃ row : Certificate,
      (visible world.shared thread.own).find? .certificates id = some row ∧
        row.blockchainStatus.isConfirmable = false

/-- A revocation sets the status REVOKED, if it sets it. -/
theorem status_assignAll_revocation {reason : String} {revokedBy : Uuid} {now : Timestamp}
    {assignments : List CertificateAssignment}
    (among : ∀ assignment ∈ assignments,
      assignment ∈ CertificateRepository.revocation reason revokedBy now) (row : Certificate) :
    (@assignAll .certificates row assignments).blockchainStatus = row.blockchainStatus ∨
      (@assignAll .certificates row assignments).blockchainStatus = .REVOKED := by
  induction assignments generalizing row with
  | nil => exact .inl rfl
  | cons first rest inductionHypothesis =>
      have isSet : (first.assign row).blockchainStatus = row.blockchainStatus ∨
          (first.assign row).blockchainStatus = .REVOKED := by
        have isOne := among first List.mem_cons_self
        simp only [CertificateRepository.revocation, List.mem_cons, List.not_mem_nil, or_false]
          at isOne
        rcases isOne with rfl | rfl | rfl | rfl | rfl
        · exact .inl rfl
        · exact .inl rfl
        · exact .inl rfl
        · exact .inl rfl
        · exact .inr rfl
      rcases inductionHypothesis (fun assignment member =>
        among assignment (List.mem_cons_of_mem first member)) (first.assign row) with kept | revoked
      · exact isSet.imp kept.trans kept.trans
      · exact .inr revoked

/-- What a call writes to certificates, where that matters. -/
def ConfirmationCall.MayWrite : ConfirmationCall → Write → Prop
  | .revocation _ _ _, .update .certificates _ assignments => ∃ reason revokedBy now,
      ∀ assignment ∈ assignments, assignment ∈ CertificateRepository.revocation reason revokedBy now
  | _, _ => True

/-- A confirmation writes only what it may write. -/
theorem ConfirmationCall.every_action (runtime : Runtime) (call : ConfirmationCall) :
    (call.action runtime).Every fun _ op => op.WritesOnly call.MayWrite := by
  cases call with
  | storage certId blockchainTxHash currentUser =>
      exact Program.Every.mono (fun _ _ _ _ _ _ _ => trivial) (Program.every_true _)
  | revocation certId blockchainTxHash currentUser =>
      rw [ConfirmationCall.action, ← bind_pure_comp]
      refine Program.every_bind (every_transaction ?_ (Op.writesOnly_of_unwritten rfl)
        (Op.writesOnly_of_unwritten rfl) (Op.writesOnly_of_unwritten rfl)) fun _ => trivial
      refine CertificateRevocationService.every_confirmBlock
        (fun _ op isReading => Op.writesOnly_of_unwritten (op.unwritten_of_isReading _ isReading))
        runtime certId blockchainTxHash currentUser ?_ ?_
      · exact fun id assignments => Op.writesOnly_flush fun _ _ _ => trivial
      · intro id reason user now
        refine Op.writesOnly_flush fun changes _ among => ?_
        exact ⟨reason, user, now, fun assignment member => among.subset member⟩

/-- What every transaction sees is not behind the committed rows, and revocations write nothing
but REVOKED to a status. -/
structure Progressing (world : ConfirmationWorld) : Prop where
  rows : @RowsFollow .certificates _ _ Forward world
  confined : Confined ConfirmationCall.MayWrite world

namespace Progressing

variable {runtime : Runtime} {world : ConfirmationWorld}

/-- An UPDATE that is in time does not move a status backwards. -/
theorem respects (progressing : Progressing world) {turn : ConfirmationTurn}
    (inTime : ¬ ConfirmsTooLate world turn) {index : Nat}
    {thread : Thread Op Exception ConfirmationAnswer ConfirmationCall Session} {write : Write}
    (isTurn : turn = .operate index) (writes : Writes world index thread write) :
    @Write.Respects .certificates Forward
      (applyWrites world.shared.database (pendingOf world index)) write := by
  intro id assignments isUpdate row found
  subst isUpdate
  have may := progressing.confined.writes writes
  cases isCall : thread.call with
  | storage certId blockchainTxHash currentUser =>
      rw [pendingOf_of_found writes.found] at found
      have confirmable : row.blockchainStatus.isConfirmable = true := by
        by_contra refused
        exact inTime ⟨index, thread, id, assignments, isTurn, ⟨_, _, _, isCall⟩, writes, row, found,
          Bool.eq_false_iff.mpr refused⟩
      constructor
      · intro confirmed
        rw [confirmed] at confirmable
        cases confirmable
      · intro revoked
        rw [revoked] at confirmable
        cases confirmable
  | revocation certId blockchainTxHash currentUser =>
      rw [isCall] at may
      obtain ⟨reason, revokedBy, now, among⟩ := may
      have status := status_assignAll_revocation among row
      constructor
      · intro confirmed
        exact status.imp (fun kept => kept.trans confirmed) fun revoked => revoked
      · intro revoked
        exact status.elim (fun kept => kept.trans revoked) fun stays => stays

/-- A turn that confirms in time keeps the invariant and moves no row back. -/
theorem apply (progressing : Progressing world) {turn : ConfirmationTurn}
    (inTime : ¬ ConfirmsTooLate world turn) :
    Progressing ((confirmationSystem runtime).apply world turn) ∧
      @DatabaseFollows .certificates Forward world.shared.database
        ((confirmationSystem runtime).apply world turn).shared.database := by
  obtain ⟨rows, follows⟩ := progressing.rows.apply Forward.refl Forward.trans
    fun index thread write isTurn writes => progressing.respects inTime isTurn writes
  exact ⟨⟨rows, progressing.confined.apply (ConfirmationCall.every_action runtime) turn⟩, follows⟩

end Progressing

/-- In every run in which no UPDATE of `confirm_blockchain_storage` comes too late, every later
status is one that the earlier may become. -/
theorem confirmations_forward (runtime : Runtime) (store : ValidStore)
    (earlier later : List ConfirmationTurn)
    (inTime : ∀ index, ¬ OccursAt (confirmationSystem runtime).apply ⟨store.toStore, []⟩
      (earlier ++ later) ConfirmsTooLate index) :
    @DatabaseFollows .certificates Forward
      (stateAfter (confirmationSystem runtime).apply ⟨store.toStore, []⟩ earlier).shared.database
      (stateAfter (confirmationSystem runtime).apply ⟨store.toStore, []⟩
        (earlier ++ later)).shared.database := by
  induction later using List.reverseRecOn with
  | nil =>
      rw [List.append_nil]
      exact .refl Forward.refl _
  | append_singleton later turn inductionHypothesis =>
      rw [← List.append_assoc] at inTime ⊢
      obtain ⟨before, last⟩ := (never_occursAt_snoc ..).mp inTime
      have progressing : Progressing (stateAfter (confirmationSystem runtime).apply
          ⟨store.toStore, []⟩ (earlier ++ later)) :=
        @stateAfter_invariant_of_never _ _ (confirmationSystem runtime).apply Progressing
          ConfirmsTooLate (fun _ _ progressing inTime => (progressing.apply inTime).1) _
          ⟨.idle Forward.refl store.valid, .idle _⟩ _ before
      rw [stateAfter_snoc]
      exact DatabaseFollows.trans Forward.trans (inductionHypothesis before)
        (progressing.apply last).2

/-- Whether the thread asks, in a call of `confirm_blockchain_storage`, to update a certificate
that it sees in another status. -/
def mayConfirmTooLate (world : ConfirmationWorld) : ConfirmationTurn → Bool
  | .operate index =>
      match world.threads[index]? with
      | none => false
      | some thread =>
          match thread.program with
          | .step op _ =>
              match thread.call, thread.own.statement? world.shared op with
              | .storage _ _ _, some (.update .certificates id _) =>
                  ((visible world.shared thread.own).find? .certificates id).any fun row =>
                    !(Certificate.blockchainStatus row).isConfirmable
              | _, _ => false
          | _ => false
  | _ => false

/-- A turn that passes the check confirms in time. -/
theorem not_confirmsTooLate {world : ConfirmationWorld} {turn : ConfirmationTurn}
    (checked : mayConfirmTooLate world turn = false) : ¬ ConfirmsTooLate world turn := by
  rintro ⟨index, thread, id, assignments, rfl, ⟨certId, blockchainTxHash, currentUser, isCall⟩,
    writes, row, found, refused⟩
  obtain ⟨Reply, op, next, reaches, asked⟩ := writes.asked
  simp only [mayConfirmTooLate, writes.found, reaches.program, asked, isCall, found,
    Option.any_some, refused, Bool.not_false] at checked
  cases checked

namespace ConfirmationRaces.Sample

open AcademicCredential.Sample

/-- A certificate that was uploaded, by a university that is authorized on chain. -/
def uploaded : ValidStore where
  database := database .PENDING [Sample.transaction 5 .STORE_HASH .PENDING none]
  chain := chain [authorization]
  files := []
  valid := valid_uploaded

/-- The confirmation of the submission starts. -/
def confirmStorage : ConfirmationTurn :=
  .start (.storage 3 txHash administrator) (inputs answered)

/-- The confirmation of the revocation starts. -/
def confirmRevocation : ConfirmationTurn :=
  .start (.revocation 3 revocationTxHash administrator) (inputs answered)

/-- So many turns of one call. -/
def operations (thread count : Nat) : List ConfirmationTurn :=
  List.replicate count (.operate thread)

/-- The certificate is stored on chain and confirmed. -/
def confirmed : List ConfirmationTurn :=
  [confirmStorage, .change [storage "UNI-2024-00001"]] ++ operations 0 13

/-- It is revoked on chain, and that is confirmed. -/
def revoked : List ConfirmationTurn :=
  [confirmRevocation, .change [revocation "UNI-2024-00001"]] ++ operations 1 10

/-- The first of two confirmations asks for the receipt before the transaction is mined, the
second afterwards; the second commits. -/
def confirmedMeanwhile : List ConfirmationTurn :=
  [confirmStorage, confirmStorage] ++ operations 0 5 ++ [.change [storage "UNI-2024-00001"]] ++
    operations 1 13

/-- Every turn of the two confirmations is in time. -/
theorem inTime_checked : ∀ index < 27, ∀ turn ∈ (confirmed ++ revoked)[index]?,
    mayConfirmTooLate (stateAfter (confirmationSystem Runtime.sample).apply ⟨uploaded.toStore, []⟩
      ((confirmed ++ revoked).take index)) turn = false := by
  decide +kernel

end ConfirmationRaces.Sample

/-- A certificate that is confirmed, and then revoked. -/
theorem confirmations_forward_revoked :
    @DatabaseFollows .certificates Forward
      (stateAfter (confirmationSystem Runtime.sample).apply
        ⟨ConfirmationRaces.Sample.uploaded.toStore, []⟩
          ConfirmationRaces.Sample.confirmed).shared.database
      (stateAfter (confirmationSystem Runtime.sample).apply
        ⟨ConfirmationRaces.Sample.uploaded.toStore, []⟩ (ConfirmationRaces.Sample.confirmed ++
          ConfirmationRaces.Sample.revoked)).shared.database := by
  refine confirmations_forward Runtime.sample ConfirmationRaces.Sample.uploaded _ _ ?_
  intro index occurred
  have bound : index < 27 := occurred.lt_length
  obtain ⟨turn, isTurn, tooLate⟩ := occurred
  exact not_confirmsTooLate (ConfirmationRaces.Sample.inTime_checked index bound turn isTurn) tooLate

/-- The first of two confirmations finds no receipt and sets the certificate SUBMITTED, after the
second has confirmed it. -/
theorem confirmed_certificate_set_back :
    ¬ @DatabaseFollows .certificates Forward
      (stateAfter (confirmationSystem Runtime.sample).apply
        ⟨ConfirmationRaces.Sample.uploaded.toStore, []⟩
          ConfirmationRaces.Sample.confirmedMeanwhile).shared.database
      (stateAfter (confirmationSystem Runtime.sample).apply
        ⟨ConfirmationRaces.Sample.uploaded.toStore, []⟩
          (ConfirmationRaces.Sample.confirmedMeanwhile ++
            ConfirmationRaces.Sample.operations 0 7)).shared.database := by
  intro follows
  have confirmed : ((stateAfter (confirmationSystem Runtime.sample).apply
      ⟨ConfirmationRaces.Sample.uploaded.toStore, []⟩
        ConfirmationRaces.Sample.confirmedMeanwhile).shared.database.find? .certificates 3).map
          Certificate.blockchainStatus = some .CONFIRMED := by decide +kernel
  have submitted : ((stateAfter (confirmationSystem Runtime.sample).apply
      ⟨ConfirmationRaces.Sample.uploaded.toStore, []⟩
        (ConfirmationRaces.Sample.confirmedMeanwhile ++
          ConfirmationRaces.Sample.operations 0 7)).shared.database.find? .certificates 3).map
            Certificate.blockchainStatus = some .SUBMITTED := by decide +kernel
  obtain ⟨row, found, isConfirmed⟩ := Option.map_eq_some_iff.mp confirmed
  obtain ⟨later, isLater, forward⟩ := follows 3 row found
  rw [isLater] at submitted
  rcases forward.confirmed isConfirmed with still | revoked
  · exact absurd (still.symm.trans (Option.some.inj submitted)) (by decide)
  · exact absurd (revoked.symm.trans (Option.some.inj submitted)) (by decide)

end AcademicCredential
