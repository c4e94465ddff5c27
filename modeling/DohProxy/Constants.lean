import Mathlib.Data.Nat.Notation

/-!
# Constants

The constants of `constants.rs`. Times are in seconds and lengths in bytes.
-/

namespace DohProxy

/-- `DNS_QUERY_PARAM`. -/
def dnsQueryParam : List Char := "dns".toList

/-- `MAX_DNS_QUESTION_LEN`. -/
abbrev maxDnsQuestionLen : ℕ := 512

/-- `MAX_DNS_RESPONSE_LEN`. -/
abbrev maxDnsResponseLen : ℕ := 4096

/-- `MIN_DNS_PACKET_LEN`. -/
abbrev minDnsPacketLen : ℕ := 17

/-- `STALE_IF_ERROR_SECS`. -/
abbrev staleIfErrorSecs : ℕ := 86400

/-- `STALE_WHILE_REVALIDATE_SECS`. -/
abbrev staleWhileRevalidateSecs : ℕ := 60

/-- `ODOH_KEY_ROTATION_SECS`. -/
abbrev odohKeyRotationSecs : ℕ := 86400

/-- `UDP_TCP_RATIO`. -/
abbrev udpTcpRatio : ℕ := 8

end DohProxy
