import OpsFlow.Library.Separated
import OpsFlow.Messaging.TaskPublication

namespace OpsFlow.Messaging
open Separated

/-! ## Keys of idempotency -/

variable {n m : ℕ} {s r o s' r' o' : String}
  {scope resourceId operation scope' resourceId' operation' key key' : String}
  {version version' : ℤ}

theorem repr_inj : n.repr = m.repr ↔ n = m := by
  constructor
  · intro h
    have hdigits : Nat.toDigits 10 n = Nat.toDigits 10 m := by
      rw [← Nat.toList_repr, h, Nat.toList_repr]
    rw [← Nat.ofDigitChars_ten_toDigits (n := n), hdigits, Nat.ofDigitChars_ten_toDigits]
  · rintro rfl
    rfl

/-- The segments have no colon, so that the key has exactly the three that separate them. -/
theorem key_inj (hs : ':' ∉ s.toList) (hs' : ':' ∉ s'.toList) (hr : ':' ∉ r.toList)
    (hr' : ':' ∉ r'.toList) (ho : ':' ∉ o.toList) (ho' : ':' ∉ o'.toList) :
    s ++ ":" ++ r ++ ":" ++ o ++ ":v" ++ n.repr = s' ++ ":" ++ r' ++ ":" ++ o' ++ ":v" ++ m.repr ↔
      s = s' ∧ r = r' ∧ o = o' ∧ n = m := by
  have hend : ":v" = ":" ++ "v" := rfl
  have hkey (s r o : String) (n : ℕ) : s ++ ":" ++ r ++ ":" ++ o ++ ":v" ++ n.repr =
      s ++ ":" ++ (r ++ ":" ++ (o ++ ":" ++ ("v" ++ n.repr))) := by
    simp only [hend, String.append_assoc]
  rw [hkey, hkey, string_append_inj rfl hs hs', string_append_inj rfl hr hr',
    string_append_inj rfl ho ho', String.append_right_inj, repr_inj]

/-- Two calls have one key if and only if they are about one operation, whatever they are padded
with. -/
theorem idempotency_keys_injective
    (h : buildIdempotencyKey scope resourceId operation version = .ok key)
    (h' : buildIdempotencyKey scope' resourceId' operation' version' = .ok key') :
    key = key' ↔ stripped pythonSpace scope = stripped pythonSpace scope' ∧
      stripped pythonSpace resourceId = stripped pythonSpace resourceId' ∧
      stripped pythonSpace operation = stripped pythonSpace operation' ∧ version = version' := by
  obtain ⟨s, r, o, hs, hr, ho, hversion, rfl⟩ := buildIdempotencyKey_eq_ok.mp h
  obtain ⟨s', r', o', hs', hr', ho', hversion', rfl⟩ := buildIdempotencyKey_eq_ok.mp h'
  rw [normalizeIdentitySegment_eq_ok] at hs hr ho hs' hr' ho'
  have hversions : version.toNat = version'.toNat ↔ version = version' := by omega
  rw [key_inj hs.2.2 hs'.2.2 hr.2.2 hr'.2.2 ho.2.2 ho'.2.2, hversions, hs.1, hr.1, ho.1, hs'.1,
    hr'.1, ho'.1]

/-- Blanks around the scope make no other key, and another version does. -/
theorem idempotency_keys_injective_padded : ∃ key padded later,
    buildIdempotencyKey "incident" "42" "notification-requested" 1 = .ok key ∧
    buildIdempotencyKey " incident\t" "42" "notification-requested" 1 = .ok padded ∧
    buildIdempotencyKey "incident" "42" "notification-requested" 2 = .ok later ∧
    key = padded ∧ key ≠ later := by
  have hkey : buildIdempotencyKey "incident" "42" "notification-requested" 1 =
      .ok "incident:42:notification-requested:v1" := by decide +kernel
  have hpadded : buildIdempotencyKey " incident\t" "42" "notification-requested" 1 =
      .ok "incident:42:notification-requested:v1" := by decide +kernel
  have hlater : buildIdempotencyKey "incident" "42" "notification-requested" 2 =
      .ok "incident:42:notification-requested:v2" := by decide +kernel
  refine ⟨_, _, _, hkey, hpadded, hlater, ?_, ?_⟩
  · exact (idempotency_keys_injective hkey hpadded).mpr (by decide +kernel)
  · intro hsame
    have hversion := ((idempotency_keys_injective hkey hlater).mp hsame).2.2.2
    exact absurd hversion (by decide)

end OpsFlow.Messaging
