import AcademicCredential.Database.Decide
import AcademicCredential.RepositoryRuns
import AcademicCredential.Services.Pagination

/-!
# The pages of a listing

`list_certificates` reads one page a request, each with a query of its own. The query sorts by
issue date only, so every request may find certificates of one day in another order.
`pages_partition_iff` says when the pages together are the certificates all the same.
-/

namespace AcademicCredential

open AcademicCredential.Lib
open AcademicCredential.Lib.Paging

namespace CertificateRouter

/-- The condition `if status:` adds. -/
def statusFilter (status : Option BlockchainStatus) (row : Certificate) : Bool :=
  status.all fun status => row.blockchainStatus = status

/-- `list_certificates`. -/
def listCertificates (order : RowOrder Certificate.issueDate) (page limit : Nat)
    (status : Option BlockchainStatus) (currentUser : User) :
    Action (List Certificate × PaginationMeta) := do
  let skip := (page - 1) * limit
  let (certs, total) ← CertificateRepository.getByUniversity order currentUser.universityId skip
    limit (statusFilter status)
  return (certs, PaginationMeta.build total page limit)

/-- The certificates the listing is about. -/
def listed (database : Database) (currentUser : User) (status : Option BlockchainStatus) :
    List Certificate :=
  (database .certificates).filter fun row =>
    some row.universityId = currentUser.universityId && statusFilter status row

section listings

variable (store : Store) (inputs : Inputs) (currentUser : User) (limit : Nat)
  (status : Option BlockchainStatus)

/-- What a request for a page answers, on a session of its own. -/
def answer : PageAnswer (RowOrder Certificate.issueDate) Certificate := fun order page =>
  ((listCertificates order page limit status currentUser).run sessionHandler
    (store, .fresh inputs)).1

end listings

/-- A listing answers with the page of the certificates it selects, and their number. -/
theorem run_listCertificates (direct : Direct) (order : RowOrder Certificate.issueDate)
    (page limit : Nat) (status : Option BlockchainStatus) (currentUser : User) :
    (listCertificates order page limit status currentUser).run directHandler direct =
      (.ok (pageAt limit (page - 1) (order.arrange (listed direct.working currentUser status)),
        PaginationMeta.build (listed direct.working currentUser status).length page limit),
        direct.touch) := by
  simp [listCertificates, CertificateRepository.getByUniversity, Program.run_bind,
    Program.run_map, Except.map, directHandler, listed, BaseRepository.page, pageAt,
    List.countP_eq_length_filter, Direct.touch]

variable {store : ValidStore} {inputs : Inputs} {currentUser : User} {limit : Nat}
  {status : Option BlockchainStatus}

/-- The answer to a request for a page. -/
theorem answer_eq (order : RowOrder Certificate.issueDate) (page : Nat) :
    answer store.toStore inputs currentUser limit status order page =
      .ok (pageAt limit (page - 1) (order.arrange (listed store.database currentUser status)),
        PaginationMeta.build (listed store.database currentUser status).length page limit) := by
  rw [answer, (store.run_eq inputs _).1, run_listCertificates]
  rfl

/-- No certificate is listed twice by one query. -/
theorem nodup_listed (store : ValidStore) (currentUser : User)
    (status : Option BlockchainStatus) : (listed store.database currentUser status).Nodup := by
  have ids := store.valid.keyed .certificates
  exact (List.Nodup.of_map _ ids).filter _

/-- Reading page after page ends, and every reading has each certificate of the university once,
exactly if every page but the last ends between two issue dates. -/
theorem pages_partition_iff (store : ValidStore) (inputs : Inputs) (currentUser : User)
    (limit : Nat) (status : Option BlockchainStatus) (positive : 0 < limit) :
    (∃ listing, Listing (answer store.toStore inputs currentUser limit status) 1 listing) ∧
      (∀ listing, Listing (answer store.toStore inputs currentUser limit status) 1 listing →
        listing.flatten.Perm (listed store.database currentUser status)) ↔
    ∀ index, 0 < index * limit →
      index * limit < (listed store.database currentUser status).length →
        CleanCut Certificate.issueDate (listed store.database currentUser status)
          (index * limit) := by
  let rows := listed store.database currentUser status
  have reads := fun listing => @listing_iff _ _
    (answer store.toStore inputs currentUser limit status)
    (fun order => order.arrange rows) rows.length limit answer_eq listing
  have partition := partition_iff_cleanCuts (fun order => RowOrder.perm order rows)
    (fun order => RowOrder.descending order rows) (nodup_listed store currentUser status)
    (fun bound => RowOrder.ties_turned Certificate.issueDate bound rows)
    (total_le_pageCount positive rows.length)
  rw [← partition]
  constructor
  · rintro ⟨-, all⟩ choices
    exact all _ ((reads _).mpr ⟨choices, rfl⟩)
  · intro all
    refine ⟨⟨_, (reads _).mpr ⟨fun _ => .stable _, rfl⟩⟩, fun listing isListing => ?_⟩
    obtain ⟨choices, rfl⟩ := (reads listing).mp isListing
    exact all choices

namespace Sample

open AcademicCredential.Sample

/-- A second certificate of the same day. -/
def twin : Certificate :=
  { certificate .PENDING with
    id := 30
    certificateUid := "UNI-2024-00002"
    sha256Hash := "cb8379ac2098aa165029e3938a51da0bcecfc008fd6795f401178647f96c5b34"
    filePath := "certificates/1/30.pdf" }

/-- Two certificates of one day of issue. -/
def twinStore : ValidStore where
  database := Function.update (database .PENDING []) .certificates [certificate .PENDING, twin]
  chain := .deployed deployer
  files := []
  valid := by decide +kernel

/-- Both certificates are listed. -/
theorem length_twins : (listed twinStore.database administrator none).length = 2 := by
  decide +kernel

end Sample

/-- Both certificates fit on one page of two. -/
theorem pages_partition_twins :
    0 < 2 ∧ ∀ listing, Listing (answer Sample.twinStore.toStore
        (AcademicCredential.Sample.inputs AcademicCredential.Sample.answered)
        AcademicCredential.Sample.administrator 2 none) 1 listing →
      listing.flatten.Perm
        (listed Sample.twinStore.database AcademicCredential.Sample.administrator none) := by
  refine ⟨by decide, ((pages_partition_iff Sample.twinStore _
    AcademicCredential.Sample.administrator 2 none (by decide)).mpr ?_).2⟩
  intro index positive inside
  rw [Sample.length_twins] at inside
  omega

/-- On pages of one, the second request may find the certificates in the other order and answer
the first one again. -/
theorem twin_listed_twice :
    ∃ listing, Listing (answer Sample.twinStore.toStore
        (AcademicCredential.Sample.inputs AcademicCredential.Sample.answered)
        AcademicCredential.Sample.administrator 1 none) 1 listing ∧
      listing.flatten = [AcademicCredential.Sample.certificate .PENDING,
        AcademicCredential.Sample.certificate .PENDING] ∧
      Sample.twin ∈ listed Sample.twinStore.database AcademicCredential.Sample.administrator none := by
  let rows := listed Sample.twinStore.database AcademicCredential.Sample.administrator none
  let listing := [pageAt 1 0 ((RowOrder.stable Certificate.issueDate).arrange rows),
    pageAt 1 1 ((RowOrder.turned Certificate.issueDate).arrange rows)]
  have reads : Listing (answer Sample.twinStore.toStore
      (AcademicCredential.Sample.inputs AcademicCredential.Sample.answered)
      AcademicCredential.Sample.administrator 1 none) 1 listing := by
    refine .next (.stable _) (answer_eq _ _) (by decide +kernel) ?_
    exact .last (.turned _) (answer_eq _ _) (by decide +kernel)
  exact ⟨listing, reads, by decide +kernel, by decide +kernel⟩

end CertificateRouter
end AcademicCredential
