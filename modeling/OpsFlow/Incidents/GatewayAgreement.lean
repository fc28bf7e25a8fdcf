import OpsFlow.Incidents.HttpTransparency

namespace OpsFlow.Incidents

/-! ## Agreement of the two gateways -/

inductive ErrorKind
  | incidentNotFound
  | serviceReference
  | unavailable
  | protocol
  | dataError
  deriving DecidableEq

def GatewayError.kind : GatewayError → ErrorKind
  | .incidentNotFound _ => .incidentNotFound
  | .serviceReference _ => .serviceReference
  | .unavailable _ => .unavailable
  | .protocol _ => .protocol
  | .dataError => .dataError

structure Call (wire : Wire) where
  operation : Operation
  admitted : operation.Admitted wire
  draw : Draw
  requestId : RequestId

section

variable {serviceExists : Uuid → Bool}

variable {driver : Driver} {rows : Rows} {existing incident : Incident}

variable {db : Database} {requestId : RequestId} {draw : Draw}

end

/-! ## Every sequence of operations -/

def parseDigits (digits : List Char) : Option ℕ :=
  if digits.all Char.isDigit then some (Nat.ofDigitChars 10 digits 0) else none

theorem parseDigits_repr (n : ℕ) : parseDigits n.repr.toList = some n := by
  have hdigits : (Nat.toDigits 10 n).all Char.isDigit = true := by
    rw [List.all_eq_true]
    exact fun c hc => Nat.isDigit_of_mem_toDigits (by omega) (by omega) hc
  rw [parseDigits, Nat.toList_repr, if_pos hdigits, Nat.ofDigitChars_toDigits (by omega) (by omega)]

def epoch : String := "1970-01-01T00:00:00Z"

/-- The epoch is written as pydantic writes it, any other time as its number. -/
def dumpTime (t : Timestamp) : String :=
  if t = 0 then epoch else if 0 < t then t.toNat.repr else "-" ++ (-t).toNat.repr

def parseTime (text : String) : Option Timestamp :=
  match parseDigits text.toList with
  | some n => some (n : ℤ)
  | none =>
    if text = epoch then some 0
    else (parseDigits text.toList.tail).map fun n : ℕ => -(n : ℤ)

theorem parseTime_dumpTime (t : Timestamp) : parseTime (dumpTime t) = some t := by
  unfold dumpTime
  split_ifs with hzero hpos
  · subst hzero
    decide
  · have ht : (t.toNat : ℤ) = t := Int.toNat_of_nonneg hpos.le
    rw [parseTime, parseDigits_repr]
    simp [ht]
  · have hneg : t < 0 := lt_of_le_of_ne (not_lt.mp hpos) hzero
    have ht : ((-t).toNat : ℤ) = -t := Int.toNat_of_nonneg (neg_nonneg.mpr hneg.le)
    have htail := parseDigits_repr (-t).toNat
    have hlist : ("-" ++ (-t).toNat.repr).toList = '-' :: (-t).toNat.repr.toList := by
      simp
    have hminus : parseDigits ('-' :: (-t).toNat.repr.toList) = none := by
      simp [parseDigits]
    have hepoch : "-" ++ (-t).toNat.repr ≠ epoch := by
      intro h
      have hhead := congrArg (fun s => s.toList.head?) h
      simp [epoch] at hhead
    rw [parseTime, hlist, hminus]
    simp only [hepoch, if_false, List.tail_cons, htail, Option.map_some, ht, neg_neg]

def plainWire : Wire where
  parseUuid := Uuid.parse?
  dumpDatetime := dumpTime
  parseDatetime := parseTime
  parseInt text := (parseDigits text.toList).map fun n : ℕ => (n : ℤ)
  parseEmail text := if '@' ∈ text.toList then some text else none
  parseUuid_str := parse?_str
  parseDatetime_dump := parseTime_dumpTime
  parseInt_repr n := by rw [parseDigits_repr]; rfl
  parseEmail_normalised raw email h := by
    split_ifs at h with hat
    obtain rfl := Option.some.inj h
    simp [hat]

def report (source : String) (customerImpacting : Bool) : IncidentCreate :=
  { title := "Checkout fails"
    serviceId := 7
    severity := .sev1
    status := .opened
    summary := "Payments time out."
    assignee := "Dana"
    startedAt := none
    source := source
    customerImpacting := customerImpacting
    acknowledgedAt := none
    reportedByEmail := some "dana@example.com" }

end OpsFlow.Incidents
