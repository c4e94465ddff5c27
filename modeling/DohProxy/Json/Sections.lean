import DohProxy.Json.Termination

/-!
# The JSON answer and the message

The JSON answer for a reply is made by a second parser, `parse_dns_to_json`, which has a reader of
names of its own and leaves some records out. The upstream layer's parser, `Msg::unpack`, has accepted
the reply before.

## What is proved

`parseDnsToJson_sections` — **the JSON answer has the message's questions, and of each of its sections
just the records of class IN that are no OPT records**, in order.
-/

namespace DohProxy.Json

open Lib Outcome Dns Upstream

/-- The record is one to report. -/
def Reportable (rr : ResourceRecord) : Prop :=
  rr.rrClass = classIn ∧ rr.rrType.toU16 ≠ dnsTypeOpt

instance : DecidablePred Reportable := fun _ => inferInstanceAs (Decidable (_ ∧ _))

/-- A reported record but for its data: the name, the type and the TTL. -/
def DnsAnswer.head (answer : DnsAnswer) : String × UInt16 × UInt32 :=
  (answer.name, answer.rtype, answer.ttl)

/-- What is reported of a record but for its data. -/
def headOf (rr : ResourceRecord) : String × UInt16 × UInt32 :=
  (lossyName rr.name.labels, rr.rrType.toU16, rr.ttl)

/-- The question as it is reported. -/
def questionOf (question : Upstream.Question) : DnsQuestion :=
  ⟨lossyName question.name.labels, question.qtype.toU16⟩

/-- A section of the JSON answer has the records to report of a section of the message. -/
structure Shows (records : List ResourceRecord) (answers : Option (List DnsAnswer)) : Prop where
  /-- These, in order. -/
  head : (answers.getD []).map DnsAnswer.head = (records.filter Reportable).map headOf
  /-- It is absent if there are none. -/
  absent : answers ≠ some []

section

variable {packet : List UInt8} {off next : ℕ}

/-- The reader of names of the JSON answer reads what the parser does, however much fuel there is. -/
theorem parseName_of_fromWire {name : Name} {fuel : ℕ} {r : String × ℕ}
    (hn : Name.fromWire packet off = .ok (name, next)) (h : parseName fuel packet off = .ok r) :
    r = (lossyName name.labels, next) := by
  rcases (settles_of_fromWire hn).only fuel with hok | htimeout
  · exact Outcome.ok.inj (h.symm.trans hok)
  · exact absurd (h.symm.trans htimeout) (by simp)

variable {base64 : List UInt8 → String} {fuel : ℕ}

/-- **A record** is reported, or left out. -/
theorem parseRr_of_unpackRr {rr : ResourceRecord} {answer : Option DnsAnswer} {next' : ℕ}
    (hrr : unpackRr packet off = .ok (rr, next))
    (h : parseRr base64 fuel packet off = .ok (answer, next')) :
    next' = next ∧ answer.toList.map DnsAnswer.head = ([rr].filter Reportable).map headOf := by
  obtain ⟨fields, hname, htype, hclass, httl, hlen, -, rfl, hle⟩ := unpackRr_at hrr
  simp only [parseRr, bind_eq_ok, Prod.exists, ensure_eq_ok, readU16_eq_ok] at h
  obtain ⟨name, e, hr, _, -, _, ⟨-, rfl⟩, _, ⟨-, rfl⟩, ttl, hread, _, ⟨-, rfl⟩, _, -, h⟩ := h
  obtain ⟨rfl, rfl⟩ := Prod.mk.inj (parseName_of_fromWire hname hr)
  rw [readU32_pos (by omega), ← httl] at hread
  obtain rfl := Outcome.ok.inj hread
  have hreport : Reportable rr ↔
      ¬ (be16At packet (e + 2) ≠ classIn ∨ be16At packet e = dnsTypeOpt) := by
    rw [Reportable, hclass, htype, RrType.toU16_fromU16, not_or, not_not]
  split at h
  · next hout =>
    cases h
    refine ⟨by rw [hlen], ?_⟩
    rw [List.filter_cons_of_neg (by rw [decide_eq_true_iff, hreport, not_not]; exact hout)]
    rfl
  · next hin =>
    simp only [bind_eq_ok] at h
    obtain ⟨data, -, h⟩ := h
    cases h
    refine ⟨by rw [hlen], ?_⟩
    rw [List.filter_cons_of_pos (by rw [decide_eq_true_iff, hreport]; exact hin)]
    simp [DnsAnswer.head, headOf, htype, httl, RrType.toU16_fromU16]

/-- **The records of a section**, in order. -/
theorem parseRrs_of_unpackRrSection : ∀ {n off stop stop' : ℕ} {rrs : List ResourceRecord}
    {answers : List DnsAnswer}, unpackRrSection packet n off = .ok (rrs, stop) →
    parseRrs base64 fuel packet n off = .ok (answers, stop') →
    stop' = stop ∧ answers.map DnsAnswer.head = (rrs.filter Reportable).map headOf := by
  intro n
  induction n with
  | zero =>
    intro off stop stop' rrs answers hrrs h
    cases hrrs
    cases h
    exact ⟨rfl, rfl⟩
  | succ n ih =>
    intro off stop stop' rrs answers hrrs h
    obtain ⟨rr, e, rest, hrr, hrest, rfl⟩ := unpackRrSection_succ hrrs
    simp only [parseRrs, bind_eq_ok, Prod.exists] at h
    obtain ⟨answer, e', hanswer, more, _, hmore, h⟩ := h
    cases h
    obtain ⟨rfl, hhead⟩ := parseRr_of_unpackRr hrr hanswer
    obtain ⟨rfl, htail⟩ := ih hrest hmore
    refine ⟨rfl, ?_⟩
    rw [List.map_append, hhead, htail, ← List.map_append, ← List.filter_append,
      List.singleton_append]

/-- **The questions**, in order. -/
theorem parseQuestions_of_unpackQuestions : ∀ {n off stop stop' : ℕ} {qs : List Upstream.Question}
    {questions : List DnsQuestion}, Msg.unpackQuestions packet n off = .ok (qs, stop) →
    parseQuestions fuel packet n off = .ok (questions, stop') →
    stop' = stop ∧ questions = qs.map questionOf ∧ qs.length = n := by
  intro n
  induction n with
  | zero =>
    intro off stop stop' qs questions hqs h
    cases hqs
    cases h
    exact ⟨rfl, rfl, rfl⟩
  | succ n ih =>
    intro off stop stop' qs questions hqs h
    obtain ⟨name, e, rest, hname, -, hfour, hrest, rfl⟩ := Msg.unpackQuestions_succ hqs
    simp only [parseQuestions, bind_eq_ok, Prod.exists, ensure_eq_ok, readU16_eq_ok] at h
    obtain ⟨_, _, hr, _, -, _, ⟨-, rfl⟩, more, _, hmore, h⟩ := h
    obtain ⟨rfl, rfl⟩ := Prod.mk.inj (parseName_of_fromWire hname hr)
    cases h
    obtain ⟨rfl, rfl, hlen⟩ := ih hrest hmore
    exact ⟨rfl, by simp [questionOf, RrType.toU16_fromU16], by rw [List.length_cons, hlen]⟩

/-- A section of the JSON answer is read where the upstream layer reads the message's section. -/
def ReadAlike (base64 : List UInt8 → String) (fuel : ℕ) (packet : List UInt8)
    (rrs : List ResourceRecord) (part : Option (List DnsAnswer)) : Prop :=
  ∃ n off stop stop' answers, unpackRrSection packet n off = .ok (rrs, stop) ∧
    parseRrs base64 fuel packet n off = .ok (answers, stop') ∧ part = nonEmpty answers

/-- **The parts of the JSON answer**, each read where its part of the message is. -/
theorem parts_of_parseDnsToJson {m : Msg} {r : DnsJsonResponse}
    (h : Msg.unpack packet = .ok m) (hr : parseDnsToJson base64 fuel packet = .ok r) :
    r.question = (if m.questions = [] then none else some (m.questions.map questionOf)) ∧
      ReadAlike base64 fuel packet m.answers r.answer ∧
      ReadAlike base64 fuel packet m.authorities r.authority ∧
      ReadAlike base64 fuel packet m.additionals r.additional := by
  obtain ⟨hlen, -, -, o₁, o₂, o₃, hqs, h₁, h₂, h₃⟩ := Msg.unpack_eq_ok.mp h
  have hlen : 12 ≤ packet.length := hlen
  simp only [parseDnsToJson, bind_eq_ok, Prod.exists, qdcount, ancount, arcount,
    readU16_pos (show 4 + 2 ≤ packet.length by omega),
    readU16_pos (show 6 + 2 ≤ packet.length by omega),
    readU16_pos (show 8 + 2 ≤ packet.length by omega),
    readU16_pos (show 10 + 2 ≤ packet.length by omega), Outcome.ok.injEq] at hr
  obtain ⟨_, -, flags, -, _, rfl, _, rfl, _, rfl, _, rfl, status, -, questions, p₁, hq, answers, p₂,
    ha, authority, p₃, hu, additional, p₄, hd, hr⟩ := hr
  cases hr
  obtain ⟨rfl, rfl, hcount⟩ := parseQuestions_of_unpackQuestions hqs hq
  obtain ⟨rfl, -⟩ := parseRrs_of_unpackRrSection h₁ ha
  obtain ⟨rfl, -⟩ := parseRrs_of_unpackRrSection h₂ hu
  refine ⟨?_, ⟨_, _, _, _, _, h₁, ha, rfl⟩, ⟨_, _, _, _, _, h₂, hu, rfl⟩,
    ⟨_, _, _, _, _, h₃, hd, rfl⟩⟩
  dsimp only
  by_cases hzero : m.questions = []
  · rw [hzero, List.length_nil] at hcount
    rw [if_pos hzero, if_neg (by rw [gt_iff_lt, UInt16.lt_iff_toNat_lt, ← hcount]; decide)]
  · have hpos := List.length_pos_of_ne_nil hzero
    rw [if_neg hzero, if_pos (by rw [gt_iff_lt, UInt16.lt_iff_toNat_lt, ← hcount]; exact hpos)]

theorem shows_of_readAlike {rrs : List ResourceRecord} {part : Option (List DnsAnswer)}
    (h : ReadAlike base64 fuel packet rrs part) : Shows rrs part := by
  obtain ⟨n, off, stop, stop', answers, hrrs, hanswers, rfl⟩ := h
  have hheads := (parseRrs_of_unpackRrSection hrrs hanswers).2
  unfold nonEmpty
  cases answers with
  | nil => exact ⟨hheads, by simp⟩
  | cons answer answers => exact ⟨hheads, by simp⟩

/-- **The JSON answer has the questions of the message**, none if there are none, **and of each of
its sections the records of class IN that are no OPT records**, with the same names, types and
TTLs. -/
theorem parseDnsToJson_sections {m : Msg} {r : DnsJsonResponse}
    (h : Msg.unpack packet = .ok m) (hr : parseDnsToJson base64 fuel packet = .ok r) :
    r.question = (if m.questions = [] then none else some (m.questions.map questionOf)) ∧
      Shows m.answers r.answer ∧ Shows m.authorities r.authority ∧
      Shows m.additionals r.additional := by
  obtain ⟨hquestion, hanswer, hauthority, hadditional⟩ := parts_of_parseDnsToJson h hr
  exact ⟨hquestion, shows_of_readAlike hanswer, shows_of_readAlike hauthority,
    shows_of_readAlike hadditional⟩

end

/-- A reply with one address and an OPT record. -/
def optReply : List UInt8 :=
  [0, 0, 0x81, 0x80, 0, 1, 0, 1, 0, 0, 0, 1] ++ [1, 0x61, 0, 0, 1, 0, 1] ++
    [0xc0, 12, 0, 1, 0, 1, 0, 0, 0, 60, 0, 4, 192, 0, 2, 1] ++ [0, 0, 41, 4, 208, 0, 0, 0, 0, 0, 0]

theorem parseDnsToJson_sections_optReply :
    ∃ m r, Msg.unpack optReply = .ok m ∧ parseDnsToJson (fun _ => "") 3 optReply = .ok r ∧
      r.question = (if m.questions = [] then none else some (m.questions.map questionOf)) ∧
      Shows m.answers r.answer ∧ Shows m.authorities r.authority ∧
      Shows m.additionals r.additional := by
  obtain ⟨m, hm⟩ : ∃ m, Msg.unpack optReply = .ok m := ⟨_, rfl⟩
  obtain ⟨r, hr⟩ : ∃ r, parseDnsToJson (fun _ => "") 3 optReply = .ok r := ⟨_, rfl⟩
  exact ⟨m, r, hm, hr, parseDnsToJson_sections hm hr⟩

end DohProxy.Json
