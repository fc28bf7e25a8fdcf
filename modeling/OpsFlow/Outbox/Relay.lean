import OpsFlow.Library.RowStore
import OpsFlow.Library.Transition
import OpsFlow.Outbox.Message

namespace OpsFlow.Outbox
open RowStore Transition

/-! ## `relay_one`: one transaction around one `relay_once` -/

structure Record (M : Type) where
  message : M
  publishAttempts : ℕ

/-- How far a relay has come. `candidates` are the rows that the statement has yet to try, as its
snapshot has ordered them; `now` is the clock that the relay read before. -/
inductive Relay (M : Type)
  | idle
  | scanning (now : Timestamp) (candidates : List Uuid)
  | selected (record : Record M)
  | delivered (record : Record M)
  | accepted (record : Record M)
  | refused (record : Record M) (error : String)
  | marked (p : Publication)

variable {M ι : Type}

/-- One outbox and its relays; `sent` are the messages that the queue has accepted, and `log` the
attempts that have committed. -/
structure State (M ι : Type) where
  rows : Table ι Uuid (Row M)
  relays : ι → Relay M
  sent : List SqsMessage
  log : List Publication

def State.start : State M ι := ⟨.of fun _ => none, fun _ => .idle, [], []⟩

def retryBefore (retrySeconds : ℕ) (now : Timestamp) : Timestamp :=
  now - (retrySeconds : ℤ) * 1000000

inductive Label (M ι : Type)
  | create (message : M)
  | scan (i : ι) (now : Timestamp)
  | skip (i : ι)
  | lock (i : ι) (k : Uuid)
  | finish (i : ι)
  | deliver (i : ι)
  | acknowledge (i : ι)
  | refuse (i : ι) (error : String)
  | mark (i : ι) (markedAt : Timestamp)
  | commit (i : ι)
  | abort (i : ι)

variable [DecidableEq ι]

def State.advance (s : State M ι) (i : ι) (relay : Relay M) : State M ι :=
  { s with relays := Function.update s.relays i relay }

def State.close (s : State M ι) (i : ι) : State M ι :=
  { s.advance i .idle with rows := s.rows.rollback i }

/-- The write of `mark_published` or `mark_publish_failed`, on the row that the session loaded. -/
def State.mark (s : State M ι) (i : ι) (row : Row M) (p : Publication) : State M ι :=
  { s.advance i (.marked p) with rows := s.rows.write i p.key (some (row.mark p)) }

/-- A step of one relay, or the commit of a transaction that creates a message. -/
inductive Step (outbox : Kind M) (retrySeconds : ι → ℕ) :
    State M ι → Label M ι → State M ι → Prop
  | create {s : State M ι} {message : M} :
      s.rows.committed (outbox.id message) = none → s.rows.holder (outbox.id message) = none →
      Step outbox retrySeconds s (.create message)
        { s with
          rows := { s.rows with
            committed := Function.update s.rows.committed (outbox.id message)
              (some (.new outbox message)) } }
  | scan {s : State M ι} {i : ι} {now : Timestamp} {candidates : List Uuid} :
      s.relays i = .idle →
      (∀ k, k ∈ candidates ↔ ∃ row, s.rows.committed k = some row ∧
        row.publishable (retryBefore (retrySeconds i) now) = true) →
      candidates.Pairwise (fun k k' => ∀ row ∈ s.rows.committed k, ∀ row' ∈ s.rows.committed k',
        row.createdAt ≤ row'.createdAt) →
      Step outbox retrySeconds s (.scan i now) (s.advance i (.scanning now candidates))
  -- a row that somebody has locked is skipped, and a lock is followed by a second look at the row
  | skipLocked {s : State M ι} {i j : ι} {now : Timestamp} {k : Uuid} {candidates : List Uuid} :
      s.relays i = .scanning now (k :: candidates) → s.rows.holder k = some j →
      Step outbox retrySeconds s (.skip i) (s.advance i (.scanning now candidates))
  | skipChanged {s : State M ι} {i : ι} {now : Timestamp} {k : Uuid} {candidates : List Uuid} :
      s.relays i = .scanning now (k :: candidates) → s.rows.holder k = none →
      (∀ row, s.rows.committed k = some row →
        row.publishable (retryBefore (retrySeconds i) now) = false) →
      Step outbox retrySeconds s (.skip i) (s.advance i (.scanning now candidates))
  | lock {s : State M ι} {i : ι} {now : Timestamp} {k : Uuid} {candidates : List Uuid}
      {row : Row M} :
      s.relays i = .scanning now (k :: candidates) → s.rows.holder k = none →
      s.rows.committed k = some row →
      row.publishable (retryBefore (retrySeconds i) now) = true →
      Step outbox retrySeconds s (.lock i k)
        { s.advance i (.selected ⟨row.message, row.publishAttempts⟩) with
          rows := s.rows.acquire i k }
  | finish {s : State M ι} {i : ι} {now : Timestamp} :
      s.relays i = .scanning now [] →
      Step outbox retrySeconds s (.finish i) (s.advance i .idle)
  | deliver {s : State M ι} {i : ι} {record : Record M} :
      s.relays i = .selected record →
      Step outbox retrySeconds s (.deliver i)
        { s.advance i (.delivered record) with
          sent := s.sent ++ [outbox.publication record.message] }
  | acknowledge {s : State M ι} {i : ι} {record : Record M} :
      s.relays i = .delivered record →
      Step outbox retrySeconds s (.acknowledge i) (s.advance i (.accepted record))
  -- the publication error, for a message that the queue has rejected or that it has taken unheard
  | refuse {s : State M ι} {i : ι} {record : Record M} {error : String} :
      s.relays i = .selected record ∨ s.relays i = .delivered record →
      Step outbox retrySeconds s (.refuse i error) (s.advance i (.refused record error))
  | markPublished {s : State M ι} {i : ι} {record : Record M} {row : Row M}
      {publishedAt : Timestamp} :
      s.relays i = .accepted record → s.rows.view i (outbox.id record.message) = some row →
      Step outbox retrySeconds s (.mark i publishedAt)
        (s.mark i row ⟨outbox.id record.message, publishedAt, .published⟩)
  | markPublishFailed {s : State M ι} {i : ι} {record : Record M} {error : String} {row : Row M}
      {failedAt : Timestamp} :
      s.relays i = .refused record error → s.rows.view i (outbox.id record.message) = some row →
      Step outbox retrySeconds s (.mark i failedAt)
        (s.mark i row ⟨outbox.id record.message, failedAt, .failed error⟩)
  | commit {s : State M ι} {i : ι} {p : Publication} :
      s.relays i = .marked p →
      Step outbox retrySeconds s (.commit i)
        { s.advance i .idle with rows := s.rows.commit i, log := s.log ++ [p] }
  -- every other exception, wherever it is raised, and every loss of the connection
  | abort {s : State M ι} {i : ι} :
      Step outbox retrySeconds s (.abort i) (s.close i)

end OpsFlow.Outbox
