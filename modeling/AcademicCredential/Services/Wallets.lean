import AcademicCredential.Database.Concurrency
import AcademicCredential.Database.Decide
import AcademicCredential.Footprints

/-!
# One wallet, one university

`update_wallet_address` of `university_service.py`, by any universities at the same time.
The service looks the address up, and the column is UNIQUE, by the text; every other
service compares the addresses that texts denote. `one_wallet_kept`: no two universities
hold one address as long as no call writes an address that another university has, or is
being given, in another spelling.
-/

namespace AcademicCredential

open AcademicCredential.Lib
open AcademicCredential.Contract

/-- `WalletUpdateRequest`, as its validator lets it pass. -/
structure WalletUpdateRequest where
  walletAddress : String
  validated : walletAddressRegex walletAddress = true

namespace UniversityService

/-- The transaction block of `update_wallet_address`. -/
def walletBlock (universityId : Uuid) (walletAddress : String) : Action (Option University) := do
  match ← UniversityRepository.getById universityId with
  | none => Program.raise ErrorClass.UniversityNotFoundError.default
  | some university =>
      if !university.isVerified then
        Program.raise ErrorClass.UnverifiedUniversityError.default
      else
        let existing ← UniversityRepository.getByWalletAddress walletAddress
        if existing.any fun other => other.id ≠ universityId then
          Program.raise (.app .ConflictError
            "This wallet address is already used by another university")
        else
          UniversityRepository.updateWalletAddress universityId walletAddress

/-- `update_wallet_address`. -/
def updateWalletAddress (universityId : Uuid) (walletAddress : String) (currentUser : User) :
    Action (Option University) :=
  if currentUser.universityId ≠ some universityId then
    Program.raise ErrorClass.OwnershipViolationError.default
  else
    transaction (walletBlock universityId walletAddress)

end UniversityService

/-- The university's wallet is the address. -/
def University.Holds (university : University) (address : Address) : Prop :=
  ∃ text, university.walletAddress = some text ∧ addressBytes? text = some address

/-- No two universities hold the same address. -/
def OneWallet (database : Database) : Prop :=
  ∀ left ∈ database .universities, ∀ right ∈ database .universities, ∀ address,
    University.Holds left address → University.Holds right address → left.id = right.id

/-- A digit in lower case is a lower digit. -/
theorem isLowerDigit_toLower {char : Char} (digit : Hex.isDigit char = true) :
    Hex.isLowerDigit char.toLower = true := by
  have listed : char ∈ Hex.lowerDigits ++ Hex.upperDigits := by simpa [Hex.isDigit] using digit
  have checked : (Hex.lowerDigits ++ Hex.upperDigits).all
      (fun char => Hex.isLowerDigit char.toLower) = true := by decide
  exact List.all_eq_true.mp checked char listed

/-- A text in the format of an address denotes the one that its lowercase digits encode. -/
theorem exists_addressBytes {text : String} (format : isAddressText text = true) :
    ∃ address : Address, addressBytes? text = some address ∧
      lower text = String.ofList ('0' :: 'x' :: Hex.encode address.1) := by
  have lowered := lower_of_ascii (ascii_of_prefixedHex format)
  unfold isAddressText prefixedHex at format
  split at format
  · rename_i digits isText
    simp only [exactly, Bool.and_eq_true, beq_iff_eq, List.all_eq_true] at format
    obtain ⟨length, areDigits⟩ := format
    have areLower : ∀ char ∈ digits.map Char.toLower, Hex.isLowerDigit char = true := by
      simp only [List.mem_map, forall_exists_index, and_imp, forall_apply_eq_imp_iff₂]
      exact fun char member => isLowerDigit_toLower (areDigits char member)
    obtain ⟨bytes, sized, decoded, encoded⟩ :=
      Hex.encode_decode 20 (digits.map Char.toLower) (by simpa using length) areLower
    rw [Hex.decode_toLower digits areDigits] at decoded
    refine ⟨⟨bytes, sized⟩, ?_, ?_⟩
    · simp [addressBytes?, isText, sizedBytes?, decoded, sized]
    · rw [lowered, isText, List.map_cons, List.map_cons, encoded]
      rfl
  · cases format

/-- Comparing addresses in lowercase is comparing what they denote. -/
theorem addressBytes?_eq_iff {left right : String} (leftFormat : isAddressText left = true)
    (rightFormat : isAddressText right = true) :
    addressBytes? left = addressBytes? right ↔ lower left = lower right := by
  obtain ⟨leftAddress, leftBytes, leftText⟩ := exists_addressBytes leftFormat
  obtain ⟨rightAddress, rightBytes, rightText⟩ := exists_addressBytes rightFormat
  rw [leftBytes, rightBytes, leftText, rightText]
  constructor
  · rintro same
    rw [Option.some.inj same]
  · intro same
    have sameDigits := String.ofList_injective same
    simp only [List.cons.injEq, true_and] at sameDigits
    rw [Subtype.ext (Hex.encode_injective sameDigits)]

/-- A request to change a wallet, by a user of a university. -/
structure WalletCall where
  universityId : Uuid
  request : WalletUpdateRequest
  currentUser : User

namespace WalletCall

/-- What a request runs. -/
def action (call : WalletCall) : Action (Option University) :=
  UniversityService.updateWalletAddress call.universityId call.request.walletAddress
    call.currentUser

/-- The one write a call makes. -/
def write (call : WalletCall) : Write :=
  .update .universities call.universityId [.walletAddress (some call.request.walletAddress)]

/-- A call writes nothing else. -/
theorem every_action (call : WalletCall) :
    call.action.Every fun _ op => op.WritesOnly (· = call.write) := by
  have reading : ∀ (Reply : Type) (op : Op Reply), op.isReading = true →
      op.WritesOnly (· = call.write) :=
    fun Reply op isReading => Op.writesOnly_of_unwritten (op.unwritten_of_isReading Reply isReading)
  have flush : (Op.flush .universities call.universityId
      [.walletAddress (some call.request.walletAddress)]).WritesOnly (· = call.write) := by
    refine Op.writesOnly_flush fun changes nonempty sublist => ?_
    rcases List.sublist_singleton.mp sublist with empty | all
    · exact absurd empty nonempty
    · rw [all]
      rfl
  unfold action UniversityService.updateWalletAddress
  split
  · exact Program.every_raise _
  · refine every_transaction ?_ (Op.writesOnly_of_unwritten rfl) (Op.writesOnly_of_unwritten rfl)
      (Op.writesOnly_of_unwritten rfl)
    refine Program.every_bind (BaseRepository.every_getById reading _ _) fun university => ?_
    cases university with
    | none => exact Program.every_raise _
    | some university =>
        dsimp only
        split
        · exact Program.every_raise _
        · refine Program.every_bind (BaseRepository.every_findOne reading _ _) fun existing => ?_
          split
          · exact Program.every_raise _
          · exact BaseRepository.every_modify_return reading flush

end WalletCall

/-- The requests side by side, with the store they share. -/
abbrev WalletWorld := Lib.World Op Exception (Option University) WalletCall Store Session

/-- One turn of the requests side by side. -/
abbrev WalletTurn := Turn WalletCall Inputs (List MinedTransaction)

/-- The requests side by side, over the operations of a session. -/
def walletSystem : System Op Exception (Option University) WalletCall Inputs
    (List MinedTransaction) Store Session :=
  readCommitted WalletCall.action

/-- A call writes an address that another university has, committed or in a transaction
that is still open, in another spelling. -/
def Respells (world : WalletWorld) (turn : WalletTurn) : Prop :=
  ∃ index thread, turn = .operate index ∧ Writes world index thread thread.call.write ∧
    ∃ other : University,
      @Version world.shared.database (pendingOf world) .universities other ∧
      other.id ≠ thread.call.universityId ∧
      ∃ text address, other.walletAddress = some text ∧
        text ≠ thread.call.request.walletAddress ∧ addressBytes? text = some address ∧
        addressBytes? thread.call.request.walletAddress = some address

/-- Whatever transactions see, no two universities hold the same address. -/
structure Separate (world : WalletWorld) : Prop where
  isolated : Isolated world.shared.database (pendingOf world)
  confined : Confined (fun call write => write = call.write) world
  apart : ∀ left right : University,
    @Version world.shared.database (pendingOf world) .universities left →
    @Version world.shared.database (pendingOf world) .universities right →
    ∀ address, left.Holds address → right.Holds address → left.id = right.id

namespace Separate

variable {world : WalletWorld}

/-- A valid database without calls is separate. -/
theorem idle {store : Store} (valid : store.database.Valid) (initially : OneWallet store.database) :
    Separate ⟨store, []⟩ := by
  have nothing : pendingOf (⟨store, []⟩ : WalletWorld) = fun _ => [] := by
    ext1 index
    simp [pendingOf]
  have committed : ∀ university : University,
      @Version store.database (fun _ => []) .universities university →
      university ∈ store.database .universities := by
    rintro university (committed | ⟨_, sees⟩)
    · exact committed
    · exact sees
  refine ⟨?_, .idle store, ?_⟩
  · rw [nothing]
    exact .idle valid
  · rw [nothing]
    intro left right leftVersion rightVersion
    exact initially left (committed left leftVersion) right (committed right rightVersion)

/-- A thread touches its own university only. -/
theorem touches (separate : Separate world) {index : Nat} {thread : Thread Op Exception _ _ Session}
    (found : world.threads[index]? = some thread) {id : Uuid}
    (touches : Touches (pendingOf world index) .universities id) :
    id = thread.call.universityId := by
  obtain ⟨write, member, -, rfl⟩ := touches
  rw [separate.confined.pending found member]
  rfl

/-- A university whose wallet a call writes shares its address with no version of another
university. -/
theorem written_apart (separate : Separate world) {index : Nat}
    {thread : Thread Op Exception (Option University) WalletCall Session}
    (writes : Writes world index thread thread.call.write)
    (clear : ¬ Respells world (.operate index)) {new other : University}
    (isNew : new ∈ thread.call.write.apply
      (applyWrites world.shared.database (pendingOf world index)) .universities)
    (newId : new.id = thread.call.universityId)
    (version : @Version world.shared.database (pendingOf world) .universities other)
    {address : Address} (newHolds : new.Holds address) (otherHolds : other.Holds address) :
    other.id = new.id := by
  by_contra different
  obtain ⟨row, found, -⟩ := writes.accepted
  have stillValid := writes.accepted.valid (separate.isolated.valid index)
  have isRow : new = @assignAll .universities row
      [.walletAddress (some thread.call.request.walletAddress)] := by
    have foundNew := stillValid.keyed.find? isNew
    rw [WalletCall.write, Database.find?_update_of_found found] at foundNew
    have isHere : @rowId .universities new = thread.call.universityId := newId
    rw [if_pos isHere] at foundNew
    exact (Option.some.inj foundNew).symm
  have newText : new.walletAddress = some thread.call.request.walletAddress := by
    rw [isRow]
    rfl
  obtain ⟨text, hasText, denotes⟩ := otherHolds
  obtain ⟨newText', hasNewText, newDenotes⟩ := newHolds
  obtain rfl : thread.call.request.walletAddress = newText' :=
    Option.some.inj (newText.symm.trans hasNewText)
  by_cases same : text = thread.call.request.walletAddress
  · have untouched : ¬ Touches (pendingOf world index) .universities other.id := by
      intro touched
      exact different ((separate.touches writes.found touched).trans newId.symm)
    have apart : @Apart .universities new other :=
      writes.apart separate.isolated rfl newId.symm isNew version different untouched
    refine apart ⟨"wallet_address", .text text⟩ ?_ ?_
    · simp [uniqueKeys, newText, same]
    · simp [uniqueKeys, hasText]
  · exact clear ⟨index, thread, rfl, writes, other, version, fun sameId =>
      different (sameId.trans newId.symm), text, address, hasText, same, denotes, newDenotes⟩

/-- A turn that writes no other spelling keeps universities apart. -/
theorem apply (separate : Separate world) {turn : WalletTurn} (clear : ¬ Respells world turn) :
    Separate (walletSystem.apply world turn) := by
  refine ⟨isolated_apply separate.isolated turn,
    separate.confined.apply WalletCall.every_action turn, ?_⟩
  intro left right leftVersion rightVersion address leftHolds rightHolds
  cases @moves_apply _ _ WalletCall.action world turn with
  | quiet database pending =>
      simp only [walletSystem, database, pending] at leftVersion rightVersion
      exact separate.apart left right leftVersion rightVersion address leftHolds rightHolds
  | committed index isTurn database pending =>
      simp only [walletSystem, database, pending] at leftVersion rightVersion
      exact separate.apart left right (.of_commit separate.isolated leftVersion)
        (.of_commit separate.isolated rightVersion) address leftHolds rightHolds
  | rolledBack index isTurn database pending =>
      simp only [walletSystem, database, pending] at leftVersion rightVersion
      exact separate.apart left right (.of_rollback leftVersion) (.of_rollback rightVersion)
        address leftHolds rightHolds
  | wrote index isTurn thread write writes database pending =>
      simp only [walletSystem, database, pending] at leftVersion rightVersion
      obtain rfl : write = thread.call.write := separate.confined.writes writes
      subst isTurn
      rcases Version.of_write leftVersion with leftOld | ⟨-, isLeft, leftNew⟩
      · rcases Version.of_write rightVersion with rightOld | ⟨-, isRight, rightNew⟩
        · exact separate.apart left right leftOld rightOld address leftHolds rightHolds
        · exact separate.written_apart writes clear rightNew isRight.symm leftOld rightHolds
            leftHolds
      · rcases Version.of_write rightVersion with rightOld | ⟨-, isRight, rightNew⟩
        · exact (separate.written_apart writes clear leftNew isLeft.symm rightOld leftHolds
            rightHolds).symm
        · exact isLeft.symm.trans isRight

end Separate

/-- Whether a turn may respell an address: the thread is at its UPDATE, and some version of
another university has the address in another spelling. -/
def mayRespell (world : WalletWorld) : WalletTurn → Bool
  | .operate index =>
      match world.threads[index]? with
      | none => false
      | some thread =>
          let asks := match thread.program with
            | .step op _ => (thread.own.statement? world.shared op).isSome
            | _ => false
          asks && (world.shared.database .universities ++ world.threads.flatMap fun other =>
            applyWrites world.shared.database other.own.pending .universities).any fun other =>
              other.walletAddress.any fun text =>
                other.id ≠ thread.call.universityId && text ≠ thread.call.request.walletAddress &&
                  addressBytes? text = addressBytes? thread.call.request.walletAddress
  | _ => false

/-- A turn that passes the check respells nothing. -/
theorem not_respells {world : WalletWorld} {turn : WalletTurn}
    (checked : mayRespell world turn = false) : ¬ Respells world turn := by
  rintro ⟨index, thread, rfl, writes, other, version, different, text, address, hasText, apart,
    denotes, newDenotes⟩
  obtain ⟨Reply, op, next, reaches, asked⟩ := writes.asked
  have listed : other ∈ world.shared.database .universities ++ world.threads.flatMap fun thread =>
      applyWrites world.shared.database thread.own.pending .universities := by
    rw [List.mem_append, List.mem_flatMap]
    exact version_iff.mp version
  simp only [mayRespell, writes.found, reaches.program, asked, Option.isSome_some, Bool.true_and,
    List.any_eq_false] at checked
  have unlike := checked other listed
  simp [hasText, different, apart, denotes, newDenotes] at unlike

namespace Sample

/-- A second university. -/
def college : University where
  id := 2
  shortCode := "COLLEGE"
  walletAddress := none
  isVerified := true
  verifiedAt := some 1

/-- The administrator of the second university. -/
def collegeAdministrator : User where
  id := 3
  email := "admin@college.example"
  passwordHash := passwordHash
  role := .UNIVERSITY_ADMIN
  universityId := some 2
  firstName := "Given"
  lastName := "Graduate"
  isActive := true
  lastLoginAt := none
  lastLoginIp := none
  failedLoginAttempts := 0
  lockedUntil := none
  createdAt := 1

/-- Two universities, one with a wallet. -/
def universities : ValidStore where
  database := Function.update (Function.update Database.empty .universities [university, college])
    .users [administrator, collegeAdministrator]
  chain := Chain.deployed deployer
  files := []
  valid := by decide +kernel

/-- The administrator of the college asks for a wallet. -/
def collegeCall (request : WalletUpdateRequest) : WalletCall where
  universityId := 2
  request
  currentUser := collegeAdministrator

/-- A call and the seven operations of its transaction. -/
def walletRun (request : WalletUpdateRequest) : List WalletTurn :=
  .start (collegeCall request) (inputs answered) :: List.replicate 7 (.operate 0)

/-- The wallet of the other university, all in lowercase. -/
def lowercaseWallet : WalletUpdateRequest :=
  ⟨"0x5aaeb6053f3e94c9b9a09f33669435e7ef1beaed", by decide +kernel⟩

/-- A request for another wallet. -/
def otherWallet : WalletUpdateRequest :=
  ⟨"0x70997970C51812dc3A010C7d01b50e0d17dc79C8", by decide +kernel⟩

/-- The wallets of the two universities differ. -/
theorem universities_oneWallet : OneWallet universities.database := by
  intro left isLeft right isRight address leftHolds rightHolds
  have stored : universities.database .universities = [university, college] := rfl
  rw [stored] at isLeft isRight
  simp only [List.mem_cons, List.not_mem_nil, or_false] at isLeft isRight
  rcases isLeft with rfl | rfl
  · rcases isRight with rfl | rfl
    · rfl
    · obtain ⟨text, hasText, -⟩ := rightHolds
      cases hasText
  · obtain ⟨text, hasText, -⟩ := leftHolds
    cases hasText

/-- No turn of the run respells a wallet. -/
theorem otherWallet_clear (index : Nat) :
    ¬ OccursAt walletSystem.apply ⟨universities.toStore, []⟩ (walletRun otherWallet) Respells
      index := by
  rintro ⟨turn, found, respells⟩
  have checked : ((List.range 8).all fun index => ((walletRun otherWallet)[index]?.all fun turn =>
      !mayRespell (stateAfter walletSystem.apply ⟨universities.toStore, []⟩
        ((walletRun otherWallet).take index)) turn)) = true := by decide +kernel
  have inside : index < 8 := (List.getElem?_eq_some_iff.mp found).1
  have here := List.all_eq_true.mp checked index (List.mem_range.mpr inside)
  rw [found] at here
  exact not_respells (by simpa using here) respells

end Sample

/-- In a run of `update_wallet_address` calls in which no call writes an address that another
university has in another spelling, no two universities ever hold the same address. -/
theorem one_wallet_kept (store : ValidStore) (initially : OneWallet store.database)
    (run : List WalletTurn)
    (clear : ∀ index,
      ¬ OccursAt walletSystem.apply ⟨store.toStore, []⟩ run Respells index) :
    OneWallet (stateAfter walletSystem.apply ⟨store.toStore, []⟩ run).shared.database := by
  have separate : Separate (stateAfter walletSystem.apply ⟨store.toStore, []⟩ run) :=
    stateAfter_invariant_of_never walletSystem.apply (fun _ _ holds => holds.apply)
      (.idle store.valid initially) clear
  intro left isLeft right isRight address leftHolds rightHolds
  exact separate.apart left right (.inl isLeft) (.inl isRight) address leftHolds rightHolds

/-- The college gets a wallet of its own, and both universities keep apart. -/
theorem one_wallet_kept_sample :
    OneWallet (stateAfter walletSystem.apply ⟨Sample.universities.toStore, []⟩
      (Sample.walletRun Sample.otherWallet)).shared.database :=
  one_wallet_kept Sample.universities Sample.universities_oneWallet _ Sample.otherWallet_clear

/-- Another university is given the same wallet, in lowercase. -/
theorem wallet_given_twice :
    OneWallet Sample.universities.database ∧
      ¬ OneWallet (stateAfter walletSystem.apply ⟨Sample.universities.toStore, []⟩
        (Sample.walletRun Sample.lowercaseWallet)).shared.database := by
  refine ⟨Sample.universities_oneWallet, fun oneWallet => ?_⟩
  have both : (stateAfter walletSystem.apply ⟨Sample.universities.toStore, []⟩
      (Sample.walletRun Sample.lowercaseWallet)).shared.database .universities =
        [Sample.university,
          { Sample.college with walletAddress := some Sample.lowercaseWallet.walletAddress }] := by
    decide +kernel
  have same := oneWallet Sample.university (by simp [both])
    { Sample.college with walletAddress := some Sample.lowercaseWallet.walletAddress }
    (by simp [both]) Sample.issuer ⟨_, rfl, by decide +kernel⟩ ⟨_, rfl, by decide +kernel⟩
  cases same

end AcademicCredential
