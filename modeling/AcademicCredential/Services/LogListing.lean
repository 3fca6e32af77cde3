import AcademicCredential.Services.CertificateListing
import AcademicCredential.Services.Dashboards
import Mathlib

/-!
# The listing of verification logs

`list_logs` fetches at most 10000 certificates of the university and at most 10000 logs of each,
merges the logs in memory and cuts the page from them. `logs_complete_iff` says when that is the
page of all logs: `total` counts logs that are never fetched.
-/

namespace AcademicCredential

open AcademicCredential.Lib
open AcademicCredential.Lib.Paging

namespace LogRouter

/-- The `limit` of the queries behind `list_logs`. -/
def fetchLimit : Nat := 10000

/-- How the queries of one request order ties. -/
structure Orders where
  certificates : RowOrder Certificate.issueDate
  logs : Uuid → RowOrder VerificationLog.verifiedAt

/-- The loop over the certificates. -/
def collectLogs (orders : Orders) :
    List Uuid → List VerificationLog → Nat → Action (List VerificationLog × Nat)
  | [], allLogs, total => return (allLogs, total)
  | certId :: certIds, allLogs, total => do
      let (logs, count) ←
        VerificationLogRepository.getByCertificate (orders.logs certId) certId 0 fetchLimit
      collectLogs orders certIds (allLogs ++ logs) (total + count)

/-- `list_logs`: the logs of each of the university's certificates, merged. -/
def listLogs (orders : Orders) (page limit : Nat) (currentUser : User) :
    Action (List VerificationLog × PaginationMeta) := do
  let skip := (page - 1) * limit
  let (certs, _) ← CertificateRepository.getByUniversity orders.certificates
    currentUser.universityId 0 fetchLimit fun _ => true
  let (allLogs, total) ← collectLogs orders (certs.map Certificate.id) [] 0
  let pageLogs := BaseRepository.page skip limit
    (sortDescending VerificationLog.verifiedAt allLogs)
  return (pageLogs, PaginationMeta.build total page limit)

/-- The certificates of the user's university. -/
def universityCertificates (database : Database) (currentUser : User) : List Certificate :=
  (database .certificates).filter fun row => some row.universityId = currentUser.universityId

/-- The logs of a certificate. -/
def certificateLogs (database : Database) (certId : Uuid) : List VerificationLog :=
  (database .verificationLogs).filter fun row => row.certificateId = some certId

/-- The logs of all certificates of the university. -/
def universityLogs (database : Database) (currentUser : User) : List VerificationLog :=
  (database .verificationLogs).filter fun log =>
    (universityCertificates database currentUser).any fun certificate =>
      log.certificateId = some certificate.id

/-- The certificates one request looks at. -/
def fetchedCertificates (database : Database) (currentUser : User) (orders : Orders) :
    List Certificate :=
  (orders.certificates.arrange (universityCertificates database currentUser)).take fetchLimit

/-- The logs of a certificate that one request fetches. -/
def fetchedLogs (database : Database) (orders : Orders) (certId : Uuid) : List VerificationLog :=
  ((orders.logs certId).arrange (certificateLogs database certId)).take fetchLimit

/-- All logs of a request, in the order in which the pages are cut from them. -/
def merged (database : Database) (currentUser : User) (orders : Orders) : List VerificationLog :=
  sortDescending VerificationLog.verifiedAt
    ((fetchedCertificates database currentUser orders).flatMap fun certificate =>
      fetchedLogs database orders certificate.id)

/-- The total a request counts. -/
def countedTotal (database : Database) (currentUser : User) (orders : Orders) : Nat :=
  ((fetchedCertificates database currentUser orders).map fun certificate =>
    (certificateLogs database certificate.id).length).sum

/-- `get_by_certificate` answers with the first logs in the order, and their number. -/
theorem run_getByCertificate (direct : Direct) (order : RowOrder VerificationLog.verifiedAt)
    (certId : Uuid) (limit : Nat) :
    (VerificationLogRepository.getByCertificate order certId 0 limit).run directHandler direct =
      (.ok ((order.arrange (certificateLogs direct.working certId)).take limit,
        (certificateLogs direct.working certId).length), direct.touch) := by
  simp [VerificationLogRepository.getByCertificate, Program.run_bind, Program.run_map,
    Except.map, directHandler, certificateLogs, BaseRepository.page, List.countP_eq_length_filter,
    Direct.touch]

/-- The loop appends the logs of each certificate and adds up their numbers. -/
theorem run_collectLogs (orders : Orders) (certIds : List Uuid) (allLogs : List VerificationLog)
    (total : Nat) (direct : Direct) :
    ((collectLogs orders certIds allLogs total).run directHandler direct).1 =
      .ok (allLogs ++ certIds.flatMap (fetchedLogs direct.working orders),
        total + (certIds.map fun certId => (certificateLogs direct.working certId).length).sum) := by
  induction certIds generalizing allLogs total direct with
  | nil => simp [collectLogs]
  | cons certId certIds inductionHypothesis =>
      simp only [collectLogs, Program.run_bind, run_getByCertificate]
      rw [inductionHypothesis]
      simp [fetchedLogs, Direct.touch, Nat.add_assoc]

/-- A listing answers with its page of the merged logs and the counted total. -/
theorem run_listLogs (direct : Direct) (orders : Orders) (page limit : Nat) (currentUser : User) :
    ((listLogs orders page limit currentUser).run directHandler direct).1 =
      .ok (pageAt limit (page - 1) (merged direct.working currentUser orders),
        PaginationMeta.build (countedTotal direct.working currentUser orders) page limit) := by
  have certificates : (CertificateRepository.getByUniversity orders.certificates
      currentUser.universityId 0 fetchLimit fun _ => true).run directHandler direct =
        (.ok (fetchedCertificates direct.working currentUser orders,
          (universityCertificates direct.working currentUser).length), direct.touch) := by
    simp [CertificateRepository.getByUniversity, Program.run_bind, Program.run_map, Except.map,
      directHandler, fetchedCertificates, universityCertificates, BaseRepository.page,
      List.countP_eq_length_filter, Direct.touch]
  have collected := run_collectLogs orders
    ((fetchedCertificates direct.working currentUser orders).map Certificate.id) [] 0 direct.touch
  simp only [listLogs, Program.run_bind, certificates]
  generalize (collectLogs orders _ [] 0).run directHandler direct.touch = ended at collected
  obtain ⟨outcome, after⟩ := ended
  simp only at collected
  subst collected
  simp [merged, countedTotal, pageAt, BaseRepository.page, Direct.touch, List.flatMap_map,
    Function.comp_def]

/-- What a request for a page answers, on a session of its own. -/
def answer (store : Store) (inputs : Inputs) (currentUser : User) (limit : Nat) :
    PageAnswer Orders VerificationLog := fun orders page =>
  ((listLogs orders page limit currentUser).run sessionHandler (store, .fresh inputs)).1

/-- The answer to a request for a page. -/
theorem answer_eq {store : ValidStore} {inputs : Inputs} {currentUser : User} {limit : Nat}
    (orders : Orders) (page : Nat) :
    answer store.toStore inputs currentUser limit orders page =
      .ok (pageAt limit (page - 1) (merged store.database currentUser orders),
        PaginationMeta.build (countedTotal store.database currentUser orders) page limit) := by
  rw [answer, (store.run_eq inputs _).1, run_listLogs]
  rfl

/-- The queries' limits cut off no log: a certificate with logs comes among the first whatever
the order of ties, and no certificate has more logs than are fetched. -/
structure WithinLimits (database : Database) (currentUser : User) : Prop where
  certificates : ∀ certificate ∈ universityCertificates database currentUser,
    certificateLogs database certificate.id ≠ [] →
      (universityCertificates database currentUser).countP
        (fun other => certificate.issueDate ≤ other.issueDate) ≤ fetchLimit
  logs : ∀ certificate ∈ universityCertificates database currentUser,
    (certificateLogs database certificate.id).length ≤ fetchLimit

/-- Numbers that are cut off at a limit have the same sum when none exceeds it. -/
theorem sum_min_eq_iff {Item : Type} (limit : Nat) (size : Item → Nat) (items : List Item) :
    (items.map fun item => min limit (size item)).sum ≤ (items.map size).sum ∧
      ((items.map fun item => min limit (size item)).sum = (items.map size).sum ↔
        ∀ item ∈ items, size item ≤ limit) := by
  induction items with
  | nil => simp
  | cons item items inductionHypothesis =>
      obtain ⟨below, same⟩ := inductionHypothesis
      have first := Nat.min_le_right limit (size item)
      simp only [List.map_cons, List.sum_cons, List.forall_mem_cons, ← same]
      omega

/-- Pages of every size tell how many rows there are. -/
theorem eq_of_page_lengths {limit left right : Nat} (positive : 0 < limit)
    (same : ∀ index, min limit (left - index * limit) = min limit (right - index * limit)) :
    left = right := by
  have atLeft := same (left / limit)
  have atRight := same (right / limit)
  have leftSplit := Nat.div_add_mod' left limit
  have rightSplit := Nat.div_add_mod' right limit
  have leftRest := Nat.mod_lt left positive
  have rightRest := Nat.mod_lt right positive
  omega

section counts

variable {store : ValidStore} {currentUser : User}

/-- No certificate of the university is listed twice. -/
theorem nodup_universityCertificates (store : ValidStore) (currentUser : User) :
    (universityCertificates store.database currentUser).Nodup :=
  (List.Nodup.of_map _ (store.valid.keyed .certificates)).filter _

/-- No log of the university is listed twice. -/
theorem nodup_universityLogs (store : ValidStore) (currentUser : User) :
    (universityLogs store.database currentUser).Nodup :=
  (List.Nodup.of_map _ (store.valid.keyed .verificationLogs)).filter _

/-- A certificate is told by its id. -/
theorem eq_of_id {left right : Certificate} (isLeft : left ∈ store.database .certificates)
    (isRight : right ∈ store.database .certificates) (same : left.id = right.id) : left = right :=
  List.inj_on_of_nodup_map (store.valid.keyed .certificates) isLeft isRight same

/-- The logs of the university are those of its certificates, one certificate after the other. -/
theorem flatMap_certificateLogs (store : ValidStore) (currentUser : User) :
    ((universityCertificates store.database currentUser).flatMap fun certificate =>
      certificateLogs store.database certificate.id).Perm
        (universityLogs store.database currentUser) := by
  have distinct : ((universityCertificates store.database currentUser).flatMap fun certificate =>
      certificateLogs store.database certificate.id).Nodup := by
    rw [List.nodup_flatMap]
    refine ⟨fun certificate _ => (List.Nodup.of_map _
      (store.valid.keyed .verificationLogs)).filter _, ?_⟩
    refine (nodup_universityCertificates store currentUser).imp_of_mem ?_
    intro left right isLeft isRight different log inLeft inRight
    have ofLeft := (List.mem_filter.mp inLeft).2
    have ofRight := (List.mem_filter.mp inRight).2
    rw [decide_eq_true_eq] at ofLeft ofRight
    exact different (eq_of_id (List.mem_filter.mp isLeft).1 (List.mem_filter.mp isRight).1
      (Option.some.inj (ofLeft.symm.trans ofRight)))
  rw [List.perm_ext_iff_of_nodup distinct (nodup_universityLogs store currentUser)]
  intro log
  simp only [List.mem_flatMap, certificateLogs, universityLogs, List.mem_filter, List.any_eq_true,
    decide_eq_true_eq]
  constructor
  · rintro ⟨certificate, isCertificate, isLog, ofCertificate⟩
    exact ⟨isLog, certificate, isCertificate, ofCertificate⟩
  · rintro ⟨isLog, certificate, isCertificate, ofCertificate⟩
    exact ⟨certificate, isCertificate, isLog, ofCertificate⟩

/-- The number of logs of a certificate. -/
def logCount (database : Database) (certificate : Certificate) : Nat :=
  (certificateLogs database certificate.id).length

/-- The logs of the university are those of its certificates, counted one by one. -/
theorem length_universityLogs (store : ValidStore) (currentUser : User) :
    (universityLogs store.database currentUser).length =
      ((universityCertificates store.database currentUser).map (logCount store.database)).sum := by
  rw [← (flatMap_certificateLogs store currentUser).length_eq, List.length_flatMap]
  rfl

/-- The merged logs are those fetched for each certificate. -/
theorem length_merged (database : Database) (currentUser : User) (orders : Orders) :
    (merged database currentUser orders).length =
      ((fetchedCertificates database currentUser orders).map fun certificate =>
        min fetchLimit (logCount database certificate)).sum := by
  rw [merged, (sortDescending_perm _ _).length_eq, List.length_flatMap]
  refine congrArg List.sum (List.map_congr_left fun certificate _ => ?_)
  rw [fetchedLogs, List.length_take, ((orders.logs certificate.id).perm _).length_eq, logCount]

/-- One request fetches all logs exactly if the certificates it leaves out have none and no
other has more than it fetches. -/
theorem length_merged_eq_iff (store : ValidStore) (currentUser : User) (orders : Orders) :
    (merged store.database currentUser orders).length =
        (universityLogs store.database currentUser).length ↔
      (∀ certificate ∈ (orders.certificates.arrange
          (universityCertificates store.database currentUser)).drop fetchLimit,
        logCount store.database certificate = 0) ∧
      ∀ certificate ∈ fetchedCertificates store.database currentUser orders,
        logCount store.database certificate ≤ fetchLimit := by
  have arranged := orders.certificates.perm (universityCertificates store.database currentUser)
  have total := (arranged.map (logCount store.database)).sum_nat
  rw [← List.take_append_drop fetchLimit (orders.certificates.arrange _), List.map_append,
    List.sum_append] at total
  have cut := sum_min_eq_iff fetchLimit (logCount store.database)
    (fetchedCertificates store.database currentUser orders)
  rw [length_merged, length_universityLogs, ← total, ← cut.2]
  have zero : ((orders.certificates.arrange (universityCertificates store.database
      currentUser)).drop fetchLimit |>.map (logCount store.database)).sum = 0 ↔
        ∀ certificate ∈ (orders.certificates.arrange
          (universityCertificates store.database currentUser)).drop fetchLimit,
            logCount store.database certificate = 0 := by
    rw [List.sum_eq_zero_iff_forall_eq_nat, List.forall_mem_map]
  rw [← zero]
  have below := cut.1
  simp only [fetchedCertificates] at below ⊢
  omega

/-- All requests fetch all logs exactly if the limits cut off none. -/
theorem all_fetched_iff (store : ValidStore) (currentUser : User) :
    (∀ orders, (merged store.database currentUser orders).length =
        (universityLogs store.database currentUser).length) ↔
      WithinLimits store.database currentUser := by
  simp only [length_merged_eq_iff]
  constructor
  · intro fetched
    constructor
    · intro certificate member some
      by_contra outnumbered
      have behind := RowOrder.mem_drop_last member (Nat.lt_of_not_le outnumbered)
      have none := (fetched ⟨.last _ certificate, fun _ => .stable _⟩).1 certificate behind
      exact some (List.length_eq_zero_iff.mp none)
    · intro certificate member
      let orders : Orders := ⟨.stable _, fun _ => .stable _⟩
      have arranged := (orders.certificates.perm _).mem_iff.mpr member
      rw [← List.take_append_drop fetchLimit (orders.certificates.arrange _),
        List.mem_append] at arranged
      rcases arranged with first | later
      · exact (fetched orders).2 certificate first
      · exact ((fetched orders).1 certificate later).trans_le (Nat.zero_le _)
  · intro limits orders
    constructor
    · intro certificate behind
      have outnumbered := (orders.certificates.descending _).lt_countP behind
      rw [(orders.certificates.perm _).countP_eq] at outnumbered
      have member := (orders.certificates.perm _).mem_iff.mp (List.mem_of_mem_drop behind)
      by_contra some
      have few := limits.certificates certificate member fun none =>
        some (List.length_eq_zero_iff.mpr none)
      exact absurd outnumbered (Nat.not_lt.mpr few)
    · intro certificate first
      exact limits.logs certificate
        ((orders.certificates.perm _).mem_iff.mp (List.mem_of_mem_take first))

end counts

/-- The issue date of the certificate of a log. -/
def issueDateOf (database : Database) (log : VerificationLog) : Date :=
  (((database .certificates).find? fun row => log.certificateId = some row.id).map
    Certificate.issueDate).getD 0

/-- Newest first; among logs of one instant those of the latest certificates first. -/
def mergeKey (database : Database) (log : VerificationLog) : Timestamp ×ₗ Date :=
  toLex (log.verifiedAt, issueDateOf database log)

section order

variable {store : ValidStore} {currentUser : User} {orders : Orders}

/-- The logs of a certificate are the stored ones that name it. -/
theorem mem_certificateLogs {database : Database} {certId : Uuid} {log : VerificationLog} :
    log ∈ certificateLogs database certId ↔
      log ∈ database .verificationLogs ∧ log.certificateId = some certId := by
  rw [certificateLogs, List.mem_filter, decide_eq_true_eq]

/-- A log fetched for a certificate is one of its logs. -/
theorem mem_fetchedLogs {database : Database} {certId : Uuid} {log : VerificationLog}
    (fetched : log ∈ fetchedLogs database orders certId) :
    log ∈ certificateLogs database certId :=
  ((orders.logs certId).perm _).mem_iff.mp (List.mem_of_mem_take fetched)

/-- The day of issue of a log is that of its certificate. -/
theorem issueDateOf_eq {certificate : Certificate} {log : VerificationLog}
    (stored : certificate ∈ store.database .certificates)
    (isLog : log ∈ certificateLogs store.database certificate.id) :
    issueDateOf store.database log = certificate.issueDate := by
  obtain ⟨-, ofCertificate⟩ := mem_certificateLogs.mp isLog
  cases found : (store.database .certificates).find? fun row =>
      log.certificateId = some row.id with
  | none =>
      have absent := List.find?_eq_none.mp found certificate stored
      simp [ofCertificate] at absent
  | some other =>
      have sameId := List.find?_some found
      rw [decide_eq_true_eq, ofCertificate, Option.some.injEq] at sameId
      obtain rfl := eq_of_id stored (List.mem_of_find?_eq_some found) sameId
      simp [issueDateOf, found]

/-- A fetched certificate is stored. -/
theorem mem_fetchedCertificates {certificate : Certificate}
    (fetched : certificate ∈ fetchedCertificates store.database currentUser orders) :
    certificate ∈ store.database .certificates := by
  have member := (orders.certificates.perm _).mem_iff.mp (List.mem_of_mem_take fetched)
  exact (List.mem_filter.mp member).1

/-- The merged logs are sorted by both keys at once. -/
theorem merged_eq (store : ValidStore) (currentUser : User) (orders : Orders) :
    merged store.database currentUser orders = sortDescending (mergeKey store.database)
      ((fetchedCertificates store.database currentUser orders).flatMap fun certificate =>
        fetchedLogs store.database orders certificate.id) := by
  refine sortDescending_lex (List.pairwise_flatMap.mpr ⟨?_, ?_⟩)
  · intro certificate fetched
    refine List.pairwise_of_forall_mem_list fun earlier isEarlier later isLater => ?_
    have stored := mem_fetchedCertificates fetched
    rw [issueDateOf_eq stored (mem_fetchedLogs isEarlier),
      issueDateOf_eq stored (mem_fetchedLogs isLater)]
  · have sorted : Descending Certificate.issueDate
        (fetchedCertificates store.database currentUser orders) :=
      (orders.certificates.descending _).sublist (List.take_sublist _ _)
    refine List.Pairwise.imp_of_mem ?_ sorted
    intro earlier later isEarlier isLater ordered log inEarlier other inLater
    rw [issueDateOf_eq (mem_fetchedCertificates isEarlier) (mem_fetchedLogs inEarlier),
      issueDateOf_eq (mem_fetchedCertificates isLater) (mem_fetchedLogs inLater)]
    exact ordered

/-- The merged logs are in descending order. -/
theorem merged_descending (store : ValidStore) (currentUser : User) (orders : Orders) :
    Descending (mergeKey store.database) (merged store.database currentUser orders) := by
  rw [merged_eq]
  exact sortDescending_descending _ _

/-- The ties among the logs of one certificate. -/
theorem ties_certificateLogs {certificate : Certificate}
    (stored : certificate ∈ store.database .certificates) (orders : Orders) (instant : Timestamp)
    (day : Date) :
    ties (mergeKey store.database) (toLex (instant, day)) ((orders.logs certificate.id).arrange
        (certificateLogs store.database certificate.id)) =
      if certificate.issueDate = day then
        ties VerificationLog.verifiedAt instant ((orders.logs certificate.id).arrange
          (certificateLogs store.database certificate.id))
      else [] := by
  have keys : ∀ log ∈ (orders.logs certificate.id).arrange
      (certificateLogs store.database certificate.id),
        mergeKey store.database log = toLex (log.verifiedAt, certificate.issueDate) := by
    intro log member
    rw [mergeKey, issueDateOf_eq stored (((orders.logs _).perm _).mem_iff.mp member)]
  split
  · rename_i sameDay
    refine List.filter_congr fun log member => ?_
    rw [keys log member, sameDay]
    simp
  · rename_i otherDay
    refine List.filter_eq_nil_iff.mpr fun log member => ?_
    rw [keys log member]
    simp [otherDay]

/-- The ties among the logs of several certificates come from those of one day. -/
theorem ties_flatMap {certificates : List Certificate}
    (stored : ∀ certificate ∈ certificates, certificate ∈ store.database .certificates)
    (instant : Timestamp) (day : Date) :
    ties (mergeKey store.database) (toLex (instant, day)) (certificates.flatMap fun certificate =>
        (orders.logs certificate.id).arrange (certificateLogs store.database certificate.id)) =
      (ties Certificate.issueDate day certificates).flatMap fun certificate =>
        ties VerificationLog.verifiedAt instant ((orders.logs certificate.id).arrange
          (certificateLogs store.database certificate.id)) := by
  induction certificates with
  | nil => rfl
  | cons certificate certificates inductionHypothesis =>
      have rest := inductionHypothesis fun other member =>
        stored other (List.mem_cons_of_mem _ member)
      have first := ties_certificateLogs (stored certificate List.mem_cons_self) orders instant day
      rw [List.flatMap_cons, ties, List.filter_append, ← ties, ← ties, first, rest]
      by_cases sameDay : certificate.issueDate = day
      · rw [if_pos sameDay]
        conv_rhs => rw [ties, List.filter_cons_of_pos (by simpa using sameDay), ← ties]
        rw [List.flatMap_cons]
      · rw [if_neg sameDay, List.nil_append]
        conv_rhs => rw [ties, List.filter_cons_of_neg (by simpa using sameDay), ← ties]

variable (limits : WithinLimits store.database currentUser)

include limits

/-- Within the limits a request goes over all logs, certificate by certificate. -/
theorem fetched_eq (orders : Orders) :
    ((fetchedCertificates store.database currentUser orders).flatMap fun certificate =>
        fetchedLogs store.database orders certificate.id) =
      (orders.certificates.arrange (universityCertificates store.database currentUser)).flatMap
        fun certificate =>
          (orders.logs certificate.id).arrange (certificateLogs store.database certificate.id) := by
  have fetched := (length_merged_eq_iff store currentUser orders).mp
    ((all_fetched_iff store currentUser).mpr limits orders)
  have arranged : ∀ certificate,
      ((orders.logs certificate.id).arrange (certificateLogs store.database certificate.id)).length =
        logCount store.database certificate := fun certificate =>
    ((orders.logs certificate.id).perm _).length_eq
  conv_rhs =>
    rw [← List.take_append_drop fetchLimit
      (orders.certificates.arrange (universityCertificates store.database currentUser))]
  rw [List.flatMap_append]
  have rest : ((orders.certificates.arrange (universityCertificates store.database
      currentUser)).drop fetchLimit).flatMap (fun certificate =>
        (orders.logs certificate.id).arrange (certificateLogs store.database certificate.id)) =
      [] := by
    rw [List.flatMap_eq_nil_iff]
    intro certificate behind
    rw [← List.length_eq_zero_iff, arranged]
    exact fetched.1 certificate behind
  rw [rest, List.append_nil, fetchedCertificates]
  refine List.flatMap_congr fun certificate first => ?_
  exact List.take_of_length_le ((arranged certificate).trans_le (fetched.2 certificate first))

/-- Within the limits the merged logs are those of the university. -/
theorem merged_perm (orders : Orders) : (merged store.database currentUser orders).Perm
    (universityLogs store.database currentUser) := by
  refine (sortDescending_perm _ _).trans ?_
  rw [fetched_eq limits]
  refine List.Perm.trans ?_ (flatMap_certificateLogs store currentUser)
  exact (orders.certificates.perm _).flatMap fun certificate _ => (orders.logs _).perm _

/-- Within the limits the total is the number of the university's logs. -/
theorem countedTotal_eq (orders : Orders) : countedTotal store.database currentUser orders =
    (universityLogs store.database currentUser).length := by
  have fetched := (all_fetched_iff store currentUser).mpr limits orders
  have few := ((length_merged_eq_iff store currentUser orders).mp fetched).2
  rw [← fetched, length_merged]
  exact ((sum_min_eq_iff fetchLimit (logCount store.database) _).2.mpr few).symm

/-- Requests that break all ties the other way merge logs of one instant and of certificates of
one day in the opposite order. -/
theorem ties_merged_turned (bound : Timestamp ×ₗ Date) :
    ties (mergeKey store.database) bound (merged store.database currentUser
        ⟨.turned _, fun _ => .turned _⟩) =
      (ties (mergeKey store.database) bound (merged store.database currentUser
        ⟨.stable _, fun _ => .stable _⟩)).reverse := by
  obtain ⟨instant, day⟩ := bound
  change ties _ (toLex (instant, day)) _ = (ties _ (toLex (instant, day)) _).reverse
  have stored : ∀ orders : Orders, ∀ certificate ∈ orders.certificates.arrange
      (universityCertificates store.database currentUser),
        certificate ∈ store.database .certificates := fun orders certificate member =>
    (List.mem_filter.mp ((orders.certificates.perm _).mem_iff.mp member)).1
  rw [merged_eq, merged_eq, ties_sortDescending, ties_sortDescending, fetched_eq limits,
    fetched_eq limits, ties_flatMap (stored _), ties_flatMap (stored _), RowOrder.ties_turned,
    List.reverse_flatMap]
  refine List.flatMap_congr fun certificate _ => ?_
  exact RowOrder.ties_turned _ _ _

end order

/-- The number of rows on a page. -/
theorem length_pageAt {Row : Type} (size index : Nat) (rows : List Row) :
    (pageAt size index rows).length = min size (rows.length - index * size) := by
  rw [pageAt, List.length_take, List.length_drop]

/-- Every page has as many logs as its place among all logs of the university leaves for it, and
the pages a client reads are together these logs, each once, newest first: exactly if the limits
cut off no log and every page but the last ends between two instants, or, within one instant,
between the issue dates of two certificates. -/
theorem logs_complete_iff (store : ValidStore) (inputs : Inputs) (currentUser : User)
    (limit : Nat) (positive : 0 < limit) :
    (∀ orders page, 0 < page → ∃ items,
        answer store.toStore inputs currentUser limit orders page = .ok (items,
          PaginationMeta.build (universityLogs store.database currentUser).length page limit) ∧
        items.length =
          min limit ((universityLogs store.database currentUser).length - (page - 1) * limit)) ∧
      (∃ listing, Listing (answer store.toStore inputs currentUser limit) 1 listing) ∧
      (∀ listing, Listing (answer store.toStore inputs currentUser limit) 1 listing →
        listing.flatten.Perm (universityLogs store.database currentUser) ∧
          Descending VerificationLog.verifiedAt listing.flatten) ↔
    WithinLimits store.database currentUser ∧
      ∀ index, 0 < index * limit →
        index * limit < (universityLogs store.database currentUser).length →
          CleanCut (mergeKey store.database) (universityLogs store.database currentUser)
            (index * limit) := by
  let logs := universityLogs store.database currentUser
  let arrange := merged store.database currentUser
  have reads := fun limits : WithinLimits store.database currentUser => fun listing =>
    @listing_iff _ _ (answer store.toStore inputs currentUser limit) arrange logs.length limit
      (fun orders page => by rw [answer_eq, countedTotal_eq limits]) listing
  have partition := fun limits : WithinLimits store.database currentUser =>
    partition_iff_cleanCuts (merged_perm limits) (merged_descending store currentUser)
      (nodup_universityLogs store currentUser) (ties_merged_turned limits)
      (total_le_pageCount positive logs.length)
  constructor
  · rintro ⟨paged, -, complete⟩
    have limits : WithinLimits store.database currentUser := by
      rw [← all_fetched_iff]
      intro orders
      refine eq_of_page_lengths positive fun index => ?_
      obtain ⟨items, isAnswer, length⟩ := paged orders (index + 1) (Nat.succ_pos index)
      rw [answer_eq] at isAnswer
      obtain ⟨rfl, -⟩ := Prod.mk.inj (Except.ok.inj isAnswer)
      rw [length_pageAt] at length
      exact length
    refine ⟨limits, (partition limits).mp fun choices => ?_⟩
    exact (complete _ ((reads limits _).mpr ⟨choices, rfl⟩)).1
  · rintro ⟨limits, clean⟩
    refine ⟨fun orders page isPage => ?_, ?_, fun listing isListing => ?_⟩
    · refine ⟨pageAt limit (page - 1) (arrange orders), ?_, ?_⟩
      · rw [answer_eq, countedTotal_eq limits]
      · rw [length_pageAt, (merged_perm limits orders).length_eq]
    · exact ⟨_, (reads limits _).mpr ⟨fun _ => ⟨.stable _, fun _ => .stable _⟩, rfl⟩⟩
    · obtain ⟨choices, rfl⟩ := (reads limits listing).mp isListing
      refine ⟨(partition limits).mpr clean choices, ?_⟩
      exact flatten_pages_descending (merged_perm limits)
        (fun orders => sortDescending_descending _ _) _ _ choices

namespace Sample

open AcademicCredential.Sample

/-- A verification of the sample certificate. -/
def certificateLog (id : Uuid) : VerificationLog :=
  { authenticLog id with certificateId := some 3 }

/-- A database in which one certificate was verified so many times. -/
def checked (count : Nat) : Database
  | .verificationLogs => (List.range count).map certificateLog
  | table => verifications 0 table

/-- The database of verifications is valid. -/
theorem checked_valid (count : Nat) : (checked count).Valid := by
  refine ⟨fun table row member => ?_, fun table => ?_⟩
  · cases table with
    | verificationLogs =>
        obtain ⟨id, -, rfl⟩ := List.mem_map.mp member
        exact authenticLog_admissible id
    | _ => exact (verifications_valid 0).admissible _ row member
  · cases table with
    | verificationLogs =>
        refine List.pairwise_map.mpr (List.nodup_range.imp fun different => ?_)
        intro key inLeft inRight
        simp only [uniqueKeys, certificateLog, authenticLog, List.mem_singleton] at inLeft inRight
        rw [inLeft] at inRight
        exact different (by simpa using inRight)
    | _ => exact (verifications_valid 0).apart _

/-- A store with verifications of one certificate. -/
def checkedStore (count : Nat) : ValidStore where
  database := checked count
  chain := .deployed deployer
  files := []
  valid := checked_valid count

/-- The university has the one certificate. -/
theorem universityCertificates_checked (count : Nat) :
    universityCertificates (checkedStore count).database administrator =
      [certificate .PENDING] := rfl

/-- The logs of the certificate are those of the verifications. -/
theorem certificateLogs_checked (count : Nat) :
    certificateLogs (checkedStore count).database 3 = (List.range count).map certificateLog := by
  refine List.filter_eq_self.mpr fun log member => ?_
  obtain ⟨id, -, rfl⟩ := List.mem_map.mp member
  rfl

/-- The certificate has as many logs as there were verifications. -/
theorem logCount_checked (count : Nat) :
    logCount (checkedStore count).database (certificate .PENDING) = count := by
  have logs := congrArg List.length (certificateLogs_checked count)
  rw [List.length_map, List.length_range] at logs
  exact logs

/-- The university has as many logs as there were verifications. -/
theorem length_universityLogs_checked (count : Nat) :
    (universityLogs (checkedStore count).database administrator).length = count := by
  rw [length_universityLogs, universityCertificates_checked, List.map_singleton, List.sum_singleton,
    logCount_checked]

/-- Whatever the order, a request looks at the one certificate. -/
theorem fetchedCertificates_checked (count : Nat) (orders : Orders) :
    fetchedCertificates (checkedStore count).database administrator orders =
      [certificate .PENDING] := by
  rw [fetchedCertificates, universityCertificates_checked,
    List.perm_singleton.mp (orders.certificates.perm [certificate .PENDING])]
  rfl

/-- Few verifications are within the limits. -/
theorem withinLimits_checked {count : Nat} (few : count ≤ fetchLimit) :
    WithinLimits (checkedStore count).database administrator := by
  rw [← all_fetched_iff]
  intro orders
  rw [length_merged, fetchedCertificates_checked, length_universityLogs_checked,
    List.map_singleton, List.sum_singleton, logCount_checked, Nat.min_eq_right few]

end Sample

/-- Two logs on one page. -/
theorem logs_complete_two :
    0 < 2 ∧ ∀ listing, Listing (answer (Sample.checkedStore 2).toStore
        (AcademicCredential.Sample.inputs AcademicCredential.Sample.answered)
        AcademicCredential.Sample.administrator 2) 1 listing →
      listing.flatten.Perm (universityLogs (Sample.checkedStore 2).database
          AcademicCredential.Sample.administrator) ∧
        Descending VerificationLog.verifiedAt listing.flatten := by
  refine ⟨by decide, ((logs_complete_iff (Sample.checkedStore 2) _
    AcademicCredential.Sample.administrator 2
    (by decide)).mpr ⟨Sample.withinLimits_checked (by decide), ?_⟩).2.2⟩
  intro index positive inside
  rw [Sample.length_universityLogs_checked] at inside
  omega

/-- The logs of a certificate beyond the limit are counted but never shown. -/
theorem Sample.answer_beyond_limit (count page limit : Nat) (many : fetchLimit ≤ count)
    (beyond : fetchLimit ≤ (page - 1) * limit) (orders : Orders) :
    answer (checkedStore count).toStore
        (AcademicCredential.Sample.inputs AcademicCredential.Sample.answered)
        AcademicCredential.Sample.administrator limit orders page =
      .ok ([], PaginationMeta.build count page limit) := by
  have fetched : (merged (checkedStore count).database
      AcademicCredential.Sample.administrator orders).length = fetchLimit := by
    rw [length_merged, fetchedCertificates_checked, List.map_singleton, List.sum_singleton,
      logCount_checked, Nat.min_eq_left many]
  have total : countedTotal (checkedStore count).database
      AcademicCredential.Sample.administrator orders = count := by
    rw [countedTotal, fetchedCertificates_checked, List.map_singleton, List.sum_singleton]
    exact logCount_checked count
  rw [answer_eq, total, pageAt, List.drop_of_length_le (by rw [fetched]; exact beyond),
    List.take_nil]

/-- Of 10001 logs, page 101 should show the last one; it is empty, and says that there are 10001. -/
theorem last_log_missing :
    (universityLogs (Sample.checkedStore 10001).database
        AcademicCredential.Sample.administrator).length = 10001 ∧
      answer (Sample.checkedStore 10001).toStore
          (AcademicCredential.Sample.inputs AcademicCredential.Sample.answered)
          AcademicCredential.Sample.administrator 100 ⟨.stable _, fun _ => .stable _⟩ 101 =
        .ok ([], PaginationMeta.build 10001 101 100) :=
  ⟨Sample.length_universityLogs_checked 10001,
    Sample.answer_beyond_limit 10001 101 100 (by decide) (by decide) _⟩

end LogRouter
end AcademicCredential
