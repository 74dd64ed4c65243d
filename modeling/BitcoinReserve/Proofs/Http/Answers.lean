import BitcoinReserve.Proofs.Bank.Judgements
import BitcoinReserve.Proofs.Bank.Replays
import BitcoinReserve.Proofs.Http.Reading

/-!
# How requests are answered

An answer tells by its status whether the bank did what it was asked for, whether a role is lacking,
whether a reserve or a redemption is unknown, or whether something else is wrong. Only for what a
handler does not expect is there no such answer.
-/
namespace BitcoinReserve

/-- No registered reserve has the value for its name. -/
inductive Bank.LacksReserve (s : Bank) : Json → Prop
  | text {reserve : Text} (unregistered : s.ledger.accounts.get? reserve = none) :
      LacksReserve s (.text reserve)
  | scalar {j : Json} (scalar : j.isScalar = true) : LacksReserve s j

namespace Http

open Bank

variable (depth : Nat)

namespace Request

/-- The attestation that a request posts. -/
abbrev attestation (r : Request) : Reading SignedAttestation :=
  ((bodyOf depth r).bind Attest.form).bind Attest.attestation

/-- The amount, the transaction and the evidence that a request posts. -/
abbrev fulfillment (r : Request) : Reading (Int × Transaction × Evidence) :=
  (bodyOf depth r).bind Fulfill.form

/-- The reserve and the reason of a report. -/
abbrev report (r : Request) : Reading (Json × Json) :=
  (bodyOf depth r).bind fun j => twoMembers j "reserve_id" "reason"

/-- The reserve and the code of a violation. -/
abbrev violation (r : Request) : Reading (Json × Json) :=
  (bodyOf depth r).bind fun j => twoMembers j "reserve_id" "reason_code"

end Request

/-- The operation that a request asks for. -/
inductive Asks (r : Request) : Route → Operation → Prop
  | reserve (id : Text) : Asks r (.reserve id) (.summarize id r.now)
  | attestation {a : SignedAttestation} (reads : r.attestation depth = .ok a) :
      Asks r .attestations (.attestSigned a r.now)
  | fulfillment {id : Text} {claimed : Int} {tx : Transaction} {e : Evidence}
      (reads : r.fulfillment depth = .ok (claimed, tx, e)) :
      Asks r (.fulfillment id) (.fulfill (actorOf r) id claimed tx e r.now)
  | report {reserve : Text} {reason : Json} (reads : r.report depth = .ok (.text reserve, reason))
      (reasoned : reason.isSubstantial = true) :
      Asks r .reports (.report (actorOf r) reserve reason.describe r.now)
  | violation {reserve code : Text} {v : Violation}
      (reads : r.violation depth = .ok (.text reserve, .text code))
      (objective : Violation.named? code = some v) :
      Asks r .violations (.enforce reserve v.name r.now)

/-- The bank does what it is asked for, or knows the redemption that it is asked about. -/
inductive Served (s : Bank) (r : Request) : Route → Prop
  | asked {route : Route} {op : Operation} {answer : Answer} (asks : Asks depth r route op)
      (done : (s.step op).1 = .ok answer) : Served s r route
  | redemption {id : Text} {record : Redemption}
      (known : s.redemptions.records.get? id = some record) : Served s r (.redemption id)

/-- A genuine attester, a relayer or a watchdog lacks the role. -/
inductive Forbidden (s : Bank) (r : Request) : Route → Prop
  | attestation {a : SignedAttestation} (reads : r.attestation depth = .ok a)
      (genuine : a.verify = .ok true) (lacks : s.authority.allows a.key .attester = false) :
      Forbidden s r .attestations
  | fulfillment {id : Text} {form : Int × Transaction × Evidence}
      (reads : r.fulfillment depth = .ok form) (lacks : ¬ s.MayFulfill (actorOf r)) :
      Forbidden s r (.fulfillment id)
  | report {named : Json × Json} (reads : r.report depth = .ok named)
      (lacks : s.authority.allows (actorOf r) .watchdog = false) : Forbidden s r .reports

/-- A reserve or a redemption is unknown, and nothing was wrong before it was looked up. -/
inductive Missing (s : Bank) (r : Request) : Route → Prop
  | reserve {id : Text} (unregistered : s.ledger.accounts.get? id = none) :
      Missing s r (.reserve id)
  | redemption {id : Text} (unknown : s.redemptions.records.get? id = none) :
      Missing s r (.redemption id)
  | attestation {a : SignedAttestation} (reads : r.attestation depth = .ok a)
      (genuine : a.verify = .ok true) (holds : s.authority.allows a.key .attester = true)
      (unregistered : s.ledger.accounts.get? a.reserve = none) : Missing s r .attestations
  | fulfillment {id : Text} {form : Int × Transaction × Evidence}
      (reads : r.fulfillment depth = .ok form) (may : s.MayFulfill (actorOf r))
      (unknown : s.redemptions.records.get? id = none) : Missing s r (.fulfillment id)
  | report {reserve reason : Json} (reads : r.report depth = .ok (reserve, reason))
      (holds : s.authority.allows (actorOf r) .watchdog = true)
      (reasoned : reason.isSubstantial = true) (lacks : s.LacksReserve reserve) :
      Missing s r .reports
  | violation {reserve : Json} {code : Text} {v : Violation}
      (reads : r.violation depth = .ok (reserve, .text code))
      (objective : Violation.named? code = some v) (lacks : s.LacksReserve reserve) :
      Missing s r .violations

/-- No handler expects the request: its body lies too deep, is not expected, or has an array or an
object for the name of a reserve that is looked up. -/
inductive Unforeseen (s : Bank) (r : Request) : Route → Prop
  | deep {route : Route} (posts : ("POST" : Text) ∈ route.methods) (deep : r.TooDeep depth) :
      Unforeseen s r route
  | attestation {j : Json} (reads : bodyOf depth r = .ok j) (strange : Attest.Unforeseen j) :
      Unforeseen s r .attestations
  | fulfillment {id : Text} {j : Json} (reads : bodyOf depth r = .ok j)
      (strange : Fulfill.Unforeseen j) : Unforeseen s r (.fulfillment id)
  | mistakenReport {j : Json} (reads : bodyOf depth r = .ok j)
      (strange : Mistaken "reserve_id" "reason" j) : Unforeseen s r .reports
  | mistakenViolation {j : Json} (reads : bodyOf depth r = .ok j)
      (strange : Mistaken "reserve_id" "reason_code" j) : Unforeseen s r .violations
  | report {reserve reason : Json} (reads : r.report depth = .ok (reserve, reason))
      (holds : s.authority.allows (actorOf r) .watchdog = true)
      (reasoned : reason.isSubstantial = true) (container : reserve.isContainer = true) :
      Unforeseen s r .reports
  | violation {reserve : Json} {code : Text} {v : Violation}
      (reads : r.violation depth = .ok (reserve, .text code))
      (objective : Violation.named? code = some v) (container : reserve.isContainer = true) :
      Unforeseen s r .violations

/-- An answer of a status with an object for its body. -/
structure Response.Answers (x : Response) (status : Nat) : Prop where
  status_eq : x.status = status
  object : ∃ members, x.body = some (.object members)

theorem answers_refused (refusal : Refusal) : (Response.refused refusal).Answers refusal.status :=
  ⟨rfl, _, rfl⟩

theorem answers_success (members : List (Text × Json)) : (Response.success members).Answers 200 :=
  ⟨rfl, _, rfl⟩

section

variable {α : Type} {x : Action α} {view : α → Response} {s t : Bank} {forbidden missing : Prop}

theorem respond_served {a : α} (shows : ∀ a, (view a).Answers 200) (done : x s = .ok a t) :
    (respond x view s).1.Answers 200 := by
  simp only [respond, done]
  exact shows a

theorem respond_judged (view : α → Response) (judged : x.Yields s (Judged forbidden missing)) :
    (forbidden ∧ (respond x view s).1.Answers 403) ∨
      (¬ forbidden ∧ missing ∧ (respond x view s).1.Answers 404) ∨
      (¬ forbidden ∧ ¬ missing ∧ ((∃ a t, x s = .ok a t) ∨ (respond x view s).1.Answers 400)) := by
  unfold respond
  unfold Action.Yields at judged
  generalize x s = result at judged
  cases judged with
  | forbidden denied status => exact .inl ⟨denied, status ▸ answers_refused _⟩
  | missing allowed unknown status =>
    exact .inr (.inl ⟨allowed, unknown, status ▸ answers_refused _⟩)
  | rejected allowed known status =>
    exact .inr (.inr ⟨allowed, known, .inr (status ▸ answers_refused _)⟩)
  | served allowed known => exact .inr (.inr ⟨allowed, known, .inl ⟨_, _, rfl⟩⟩)

theorem respond_forbidden (judged : x.Yields s (Judged forbidden missing)) (denied : forbidden) :
    (respond x view s).1.Answers 403 := by
  rcases respond_judged view judged with ⟨-, answers⟩ | ⟨allowed, -⟩ | ⟨allowed, -⟩
  · exact answers
  · exact absurd denied allowed
  · exact absurd denied allowed

theorem respond_missing (judged : x.Yields s (Judged forbidden missing)) (allowed : ¬ forbidden)
    (unknown : missing) : (respond x view s).1.Answers 404 := by
  rcases respond_judged view judged with ⟨denied, -⟩ | ⟨-, -, answers⟩ | ⟨-, known, -⟩
  · exact absurd denied allowed
  · exact answers
  · exact absurd unknown known

end

theorem answers_strangeReserve {j : Json} (scalar : j.isScalar = true) :
    (strangeReserve j).Answers 404 := by
  cases j with
  | text | array | object => cases scalar
  | _ => exact ⟨rfl, _, rfl⟩

theorem strangeReserve_eq_internal {j : Json} (container : j.isContainer = true) :
    strangeReserve j = .internal := by
  cases j with
  | array | object => rfl
  | _ => cases container

variable {depth} {s : Bank} {r : Request} {route : Route} {id : Text}

section

variable {a : SignedAttestation} {reserve reason code : Json} {v : Violation}

/-- What a request is read as. -/
def Request.read (depth : Nat) (r : Request) : Route → Reading Unit
  | .attestations => (r.attestation depth).map fun _ => ()
  | .fulfillment _ => (r.fulfillment depth).map fun _ => ()
  | .reports => (r.report depth).map fun _ => ()
  | .violations => (r.violation depth).map fun _ => ()
  | .reserve _ | .redemption _ | .file _ => .ok ()

theorem Request.read_of_bodyOf {x : Response} (posts : ("POST" : Text) ∈ route.methods)
    (unread : bodyOf depth r = .error x) : r.read depth route = .error x := by
  have getting : ("POST" : Text) ∉ (["GET", "HEAD", "OPTIONS"] : List Text) := by decide
  cases route with
  | reserve | redemption | file => exact absurd posts getting
  | _ =>
    simp [Request.read, Request.attestation, Request.fulfillment, Request.report,
      Request.violation, unread, Except.bind, Except.map]

theorem dispatch_unread {x : Response} (unread : r.read depth route = .error x) :
    (dispatch depth route r s).1 = x := by
  cases route with
  | attestations =>
    have posted : dispatch depth .attestations r s = postAttestation depth r s := rfl
    have failed := Check.map_eq_error_iff.mp unread
    simp only [posted, postAttestation, failed]
  | fulfillment id =>
    have posted : dispatch depth (.fulfillment id) r s = postFulfillment depth id r s := rfl
    have failed := Check.map_eq_error_iff.mp unread
    simp only [posted, postFulfillment, failed]
  | reports =>
    have posted : dispatch depth .reports r s = postReport depth r s := rfl
    have failed := Check.map_eq_error_iff.mp unread
    simp only [posted, postReport, failed]
  | violations =>
    have posted : dispatch depth .violations r s = postViolation depth r s := rfl
    have failed := Check.map_eq_error_iff.mp unread
    simp only [posted, postViolation, failed]
  | reserve | redemption | file => cases unread

theorem dispatch_attestation {genuine : Bool} (reads : r.attestation depth = .ok a)
    (judged : a.verify = .ok genuine) :
    dispatch depth .attestations r s = respond (attestSigned a genuine r.now) Attest.view s := by
  have posted : dispatch depth .attestations r s = postAttestation depth r s := rfl
  simp only [posted, postAttestation, reads, judged]

theorem dispatch_fulfillment {claimed : Int} {tx : Transaction} {e : Evidence}
    (reads : r.fulfillment depth = .ok (claimed, tx, e)) :
    dispatch depth (.fulfillment id) r s = respond (fulfill (actorOf r) id claimed tx e r.now)
      (fun redemption => .success [("redemption", redemption.view)]) s := by
  have posted : dispatch depth (.fulfillment id) r s = postFulfillment depth id r s := rfl
  simp only [posted, postFulfillment, reads]

/-- The reason of a report in words, of which a reason without substance has none. -/
def reasonOf (reason : Json) : Text := if reason.isSubstantial then reason.describe else .empty

theorem reasonOf_ne_empty_iff : reasonOf reason ≠ "" ↔ reason.isSubstantial = true := by
  unfold reasonOf
  split_ifs with substantial
  · simp only [substantial, iff_true]
    exact Json.describe_ne_empty substantial
  · exact iff_of_false (not_not.mpr rfl) substantial

theorem dispatch_report {name : Text} (reads : r.report depth = .ok (.text name, reason)) :
    dispatch depth .reports r s = respond (Bank.report (actorOf r) name (reasonOf reason) r.now)
      (fun frozen => .success [("emergency_paused", .bool frozen)]) s := by
  have posted : dispatch depth .reports r s = postReport depth r s := rfl
  simp only [posted, postReport, reads]
  rfl

theorem dispatch_report_strange (reads : r.report depth = .ok (reserve, reason))
    (strange : reserve.text? = none) :
    (dispatch depth .reports r s).1 = match s.checkReport (actorOf r) reason.isSubstantial with
      | .error refusal => .refused refusal
      | .ok () => strangeReserve reserve := by
  have posted : dispatch depth .reports r s = postReport depth r s := rfl
  simp only [posted, postReport, reads]
  cases reserve with
  | text => cases strange
  | _ =>
    simp only
    cases s.checkReport (actorOf r) reason.isSubstantial with
    | error refusal => rfl
    | ok u => rfl

/-- A report that passes the checks before its reserve is looked up. -/
theorem dispatch_report_checked (reads : r.report depth = .ok (reserve, reason))
    (strange : reserve.text? = none) (holds : s.authority.allows (actorOf r) .watchdog = true)
    (reasoned : reason.isSubstantial = true) :
    (dispatch depth .reports r s).1 = strangeReserve reserve := by
  have passed : s.checkReport (actorOf r) reason.isSubstantial = .ok () := by
    simp [checkReport, holds, reasoned]
  rw [dispatch_report_strange reads strange, passed]

theorem dispatch_violation {name : Text} (reads : r.violation depth = .ok (.text name, code))
    (objective : code.text?.bind Violation.named? = some v) :
    dispatch depth .violations r s = respond (enforce name v.name r.now)
      (fun due => .success [("escalation_deadline", .ofOption .int due)]) s := by
  have posted : dispatch depth .violations r s = postViolation depth r s := rfl
  simp only [posted, postViolation, reads, objective]

theorem dispatch_violation_strange (reads : r.violation depth = .ok (reserve, code))
    (objective : code.text?.bind Violation.named? = some v) (strange : reserve.text? = none) :
    (dispatch depth .violations r s).1 = strangeReserve reserve := by
  have posted : dispatch depth .violations r s = postViolation depth r s := rfl
  simp only [posted, postViolation, reads, objective]
  cases reserve with
  | text => cases strange
  | _ => rfl

theorem dispatch_violation_other (reads : r.violation depth = .ok (reserve, code))
    (other : code.text?.bind Violation.named? = none) :
    (dispatch depth .violations r s).1 = .refused (.notObjective code.describe) := by
  have posted : dispatch depth .violations r s = postViolation depth r s := rfl
  simp only [posted, postViolation, reads, other]

end

theorem Served.answers (served : Served depth s r route) :
    (dispatch depth route r s).1.Answers 200 := by
  cases served with
  | @asked _ op answer asks done =>
    have step {α : Type} {x : Action α} {f : α → Answer} (performs : perform op s = orFail x f s) :
        ∃ a t, x s = .ok a t :=
      (step_ok_iff performs).mp ⟨answer, done⟩
    cases asks with
    | reserve id =>
      obtain ⟨a, t, done⟩ := step (x := summarize id r.now) rfl
      exact respond_served (fun _ => ⟨rfl, _, rfl⟩) done
    | @attestation a reads =>
      cases judged : a.verify with
      | error fault =>
        rw [step_attestSigned_unjudged judged] at done
        cases done
      | ok genuine =>
        obtain ⟨a, t, done⟩ := step (perform_attestSigned judged r.now)
        rw [dispatch_attestation reads judged]
        exact respond_served (fun _ => answers_success _) done
    | fulfillment reads =>
      obtain ⟨a, t, done⟩ := step (f := .redemption) rfl
      rw [dispatch_fulfillment reads]
      exact respond_served (fun _ => answers_success _) done
    | report reads reasoned =>
      obtain ⟨a, t, done⟩ := step (f := .flag) rfl
      rw [dispatch_report reads, reasonOf, if_pos reasoned]
      exact respond_served (fun _ => answers_success _) done
    | violation reads objective =>
      obtain ⟨a, t, done⟩ := step (f := .due) rfl
      rw [dispatch_violation reads objective]
      exact respond_served (fun _ => answers_success _) done
  | @redemption id record known =>
    have found : Action.decide (·.redemption id) s = .ok record s := by
      simp [Bank.redemption, known]
    exact respond_served (fun _ => ⟨rfl, _, rfl⟩) found

theorem Forbidden.answers (coherent : s.oracle.Coherent s.params)
    (forbidden : Forbidden depth s r route) :
    (dispatch depth route r s).1.Answers 403 := by
  cases forbidden with
  | attestation reads genuine lacks =>
    rw [dispatch_attestation reads genuine]
    exact respond_forbidden (attest_judged coherent (nonneg_of_verify genuine)) lacks
  | fulfillment reads lacks =>
    rw [dispatch_fulfillment reads]
    exact respond_forbidden fulfill_judged lacks
  | @report named reads lacks =>
    obtain ⟨reserve, reason⟩ := named
    cases strange : reserve.text? with
    | none =>
      rw [dispatch_report_strange reads strange]
      rcases s.checkReport_cases (actorOf r) reason.isSubstantial with ⟨-, refused⟩ | ⟨holds, -⟩
      · rw [refused]
        exact answers_refused _
      · cases holds.symm.trans lacks
    | some name =>
      cases Json.text?_eq_some_iff.mp strange
      rw [dispatch_report reads]
      exact respond_forbidden report_judged lacks

theorem Missing.answers (coherent : s.oracle.Coherent s.params)
    (missing : Missing depth s r route) :
    (dispatch depth route r s).1.Answers 404 := by
  cases missing with
  | reserve unregistered => exact respond_missing summarize_judged not_false unregistered
  | redemption unknown => exact respond_missing redemption_judged not_false unknown
  | attestation reads genuine holds unregistered =>
    rw [dispatch_attestation reads genuine]
    exact respond_missing (attest_judged coherent (nonneg_of_verify genuine)) (by simp [holds])
      unregistered
  | fulfillment reads may unknown =>
    rw [dispatch_fulfillment reads]
    exact respond_missing fulfill_judged (not_not.mpr may) unknown
  | report reads holds reasoned lacks =>
    cases lacks with
    | text unregistered =>
      rw [dispatch_report reads]
      exact respond_missing report_judged (by simp [holds])
        ⟨reasonOf_ne_empty_iff.mpr reasoned, unregistered⟩
    | scalar scalar =>
      rw [dispatch_report_checked reads (Json.text?_eq_none_of_isScalar scalar) holds reasoned]
      exact answers_strangeReserve scalar
  | violation reads objective lacks =>
    cases lacks with
    | text unregistered =>
      rw [dispatch_violation reads objective]
      exact respond_missing enforce_judged not_false unregistered
    | scalar scalar =>
      rw [dispatch_violation_strange reads objective (Json.text?_eq_none_of_isScalar scalar)]
      exact answers_strangeReserve scalar

section

variable {j : Json}

theorem Request.attestation_eq (reads : bodyOf depth r = .ok j) :
    r.attestation depth = (Attest.form j).bind Attest.attestation := by
  rw [Request.attestation, reads]
  rfl

theorem Request.fulfillment_eq (reads : bodyOf depth r = .ok j) :
    r.fulfillment depth = Fulfill.form j := by
  rw [Request.fulfillment, reads]
  rfl

theorem Request.report_eq (reads : bodyOf depth r = .ok j) :
    r.report depth = twoMembers j "reserve_id" "reason" := by
  rw [Request.report, reads]
  rfl

theorem Request.violation_eq (reads : bodyOf depth r = .ok j) :
    r.violation depth = twoMembers j "reserve_id" "reason_code" := by
  rw [Request.violation, reads]
  rfl

end

theorem Unforeseen.internal (unforeseen : Unforeseen depth s r route) :
    (dispatch depth route r s).1 = .internal := by
  have unread (failed : r.read depth route = .error .internal) :
      (dispatch depth route r s).1 = .internal :=
    dispatch_unread failed
  cases unforeseen with
  | deep posts deep =>
    exact unread (Request.read_of_bodyOf posts (bodyOf_eq_error_iff.mpr ⟨deep, rfl⟩))
  | attestation reads strange =>
    have reading := Request.attestation_eq reads
    rcases strange.fails with failed | ⟨a, fault, attests, failed⟩
    · exact unread (Check.map_eq_error_iff.mpr (reading.trans failed))
    · have posted : dispatch depth .attestations r s = postAttestation depth r s := rfl
      simp only [posted, postAttestation, reading.trans attests, failed]
  | fulfillment reads strange =>
    have failed := Fulfill.form_eq_internal_iff.mpr strange
    exact unread (Check.map_eq_error_iff.mpr ((Request.fulfillment_eq reads).trans failed))
  | mistakenReport reads strange =>
    have failed := twoMembers_eq_internal_iff.mpr strange
    exact unread (Check.map_eq_error_iff.mpr ((Request.report_eq reads).trans failed))
  | mistakenViolation reads strange =>
    have failed := twoMembers_eq_internal_iff.mpr strange
    exact unread (Check.map_eq_error_iff.mpr ((Request.violation_eq reads).trans failed))
  | report reads holds reasoned container =>
    rw [dispatch_report_checked reads (Json.text?_eq_none_of_isContainer container) holds reasoned]
    exact strangeReserve_eq_internal container
  | violation reads objective container =>
    rw [dispatch_violation_strange reads objective (Json.text?_eq_none_of_isContainer container)]
    exact strangeReserve_eq_internal container

/-- What becomes of a request. -/
inductive Accounted (depth : Nat) (s : Bank) (r : Request) (route : Route) : Prop
  | served (served : Served depth s r route)
  | forbidden (forbidden : Forbidden depth s r route)
  | missing (missing : Missing depth s r route)
  | unforeseen (unforeseen : Unforeseen depth s r route)
  | rejected (answers : (dispatch depth route r s).1.Answers 400)

/-- A body that is no attestation, no fulfilment, or names no two members. -/
theorem Accounted.of_unread {x : Response} (unread : r.read depth route = .error x)
    (malformed : ∃ message, x = .malformed message) : Accounted depth s r route := by
  obtain ⟨message, rfl⟩ := malformed
  refine .rejected ?_
  rw [dispatch_unread unread]
  exact ⟨rfl, _, rfl⟩

theorem Accounted.of_deep {x : Response} (posts : ("POST" : Text) ∈ route.methods)
    (unread : bodyOf depth r = .error x) : Accounted depth s r route :=
  .unforeseen (.deep posts (bodyOf_eq_error_iff.mp unread).1)

theorem Served.of_asks {α : Type} {x : Action α} {f : α → Answer} {op : Operation} {a : α}
    {t : Bank} (asks : Asks depth r route op) (performs : perform op s = orFail x f s)
    (done : x s = .ok a t) : Served depth s r route := by
  obtain ⟨answer, done⟩ := (step_ok_iff performs).mpr ⟨a, t, done⟩
  exact .asked asks done

theorem Accounted.of_respond {α : Type} {x : Action α} {view : α → Response}
    {forbidden missing : Prop} (responds : dispatch depth route r s = respond x view s)
    (judged : x.Yields s (Judged forbidden missing))
    (denied : forbidden → Forbidden depth s r route)
    (unknown : ¬ forbidden → missing → Missing depth s r route)
    (served : ∀ a t, x s = .ok a t → Served depth s r route) : Accounted depth s r route := by
  rcases respond_judged view judged with
    ⟨lacks, -⟩ | ⟨allowed, lacks, -⟩ | ⟨-, -, ⟨a, t, done⟩ | rejected⟩
  · exact .forbidden (denied lacks)
  · exact .missing (unknown allowed lacks)
  · exact .served (served a t done)
  · rw [← responds] at rejected
    exact .rejected rejected

theorem accounted_reserve (id : Text) : Accounted depth s r (.reserve id) :=
  .of_respond rfl summarize_judged False.elim (fun _ => .reserve) fun _ _ =>
    .of_asks (.reserve id) rfl

theorem accounted_redemption (id : Text) : Accounted depth s r (.redemption id) := by
  cases found : s.redemptions.records.get? id with
  | none => exact .missing (.redemption found)
  | some record => exact .served (.redemption found)

theorem accounted_attestations (coherent : s.oracle.Coherent s.params) :
    Accounted depth s r .attestations := by
  cases reads : bodyOf depth r with
  | error x => exact .of_deep (by decide) reads
  | ok j =>
    have reading := Request.attestation_eq reads
    rcases Attest.judged_or_unforeseen j with malformed | ⟨a, genuine, attests, judged⟩ | strange
    · have unread : r.attestation depth = .error Attest.malformed := by
        rw [reading, malformed]
        rfl
      exact .of_unread (Check.map_eq_error_iff.mpr unread) ⟨_, rfl⟩
    · have attests := reading.trans attests
      cases genuine with
      | false =>
        refine .rejected ?_
        rw [dispatch_attestation attests judged]
        exact answers_refused (.badSignature a.key)
      | true =>
        refine .of_respond (dispatch_attestation attests judged)
          (attest_judged coherent (nonneg_of_verify judged)) (.attestation attests judged) ?_ ?_
        · intro allowed unregistered
          exact .attestation attests judged (by simpa using allowed) unregistered
        · exact fun _ _ => .of_asks (.attestation attests) (perform_attestSigned judged r.now)
    · exact .unforeseen (.attestation reads strange)

theorem accounted_fulfillment (id : Text) : Accounted depth s r (.fulfillment id) := by
  cases reads : bodyOf depth r with
  | error x => exact .of_deep (List.mem_cons_self ..) reads
  | ok j =>
    have reading := Request.fulfillment_eq reads
    cases form : Fulfill.form j with
    | error x =>
      rcases Fulfill.malformed_or_internal_of_form form with rfl | rfl
      · exact .of_unread (Check.map_eq_error_iff.mpr (reading.trans form)) ⟨_, rfl⟩
      · exact .unforeseen (.fulfillment reads (Fulfill.form_eq_internal_iff.mp form))
    | ok parts =>
      obtain ⟨claimed, tx, e⟩ := parts
      have asked := reading.trans form
      refine .of_respond (dispatch_fulfillment asked) fulfill_judged (.fulfillment asked) ?_ ?_
      · exact fun may unknown => .fulfillment asked (not_not.mp may) unknown
      · exact fun _ _ => .of_asks (.fulfillment asked) rfl

/-- Two members that cannot be read are malformed or not expected. -/
theorem Accounted.of_unread_members {j : Json} {first second : String} {x : Response}
    (failed : twoMembers j first second = .error x) (unread : r.read depth route = .error x)
    (unforeseen : Mistaken first second j → Unforeseen depth s r route) :
    Accounted depth s r route := by
  rcases malformed_or_internal_of_twoMembers failed with malformed | rfl
  · exact .of_unread unread malformed
  · exact .unforeseen (unforeseen (twoMembers_eq_internal_iff.mp failed))

theorem accounted_reports : Accounted depth s r .reports := by
  cases reads : bodyOf depth r with
  | error x => exact .of_deep (by decide) reads
  | ok j =>
    have reading := Request.report_eq reads
    cases members : twoMembers j "reserve_id" "reason" with
    | error x =>
      exact .of_unread_members members (Check.map_eq_error_iff.mpr (reading.trans members))
        (.mistakenReport reads)
    | ok named =>
      obtain ⟨reserve, reason⟩ := named
      have asked := reading.trans members
      cases strange : reserve.text? with
      | none =>
        rcases s.checkReport_cases (actorOf r) reason.isSubstantial with
          ⟨lacks, -⟩ | ⟨holds, ⟨-, refused⟩ | ⟨reasoned, -⟩⟩
        · exact .forbidden (.report asked lacks)
        · refine .rejected ?_
          rw [dispatch_report_strange asked strange, refused]
          exact answers_refused .reportReasonMissing
        · rcases Json.isScalar_or_isContainer strange with scalar | container
          · exact .missing (.report asked holds reasoned (.scalar scalar))
          · exact .unforeseen (.report asked holds reasoned container)
      | some name =>
        cases Json.text?_eq_some_iff.mp strange
        refine .of_respond (dispatch_report asked) report_judged (.report asked) ?_ ?_
        · rintro holds ⟨reasoned, unregistered⟩
          exact .report asked (by simpa using holds) (reasonOf_ne_empty_iff.mp reasoned)
            (.text unregistered)
        · intro frozen t done
          have reasoned := reasonOf_ne_empty_iff.mp (reasoned_of_report done)
          rw [reasonOf, if_pos reasoned] at done
          exact .of_asks (.report asked reasoned) rfl done

theorem accounted_violations : Accounted depth s r .violations := by
  cases reads : bodyOf depth r with
  | error x => exact .of_deep (by decide) reads
  | ok j =>
    have reading := Request.violation_eq reads
    cases members : twoMembers j "reserve_id" "reason_code" with
    | error x =>
      exact .of_unread_members members (Check.map_eq_error_iff.mpr (reading.trans members))
        (.mistakenViolation reads)
    | ok named =>
      obtain ⟨reserve, code⟩ := named
      have asked := reading.trans members
      cases objective : code.text?.bind Violation.named? with
      | none =>
        refine .rejected ?_
        rw [dispatch_violation_other asked objective]
        exact answers_refused (.notObjective code.describe)
      | some v =>
        obtain ⟨words, text, named⟩ := Option.bind_eq_some_iff.mp objective
        cases Json.text?_eq_some_iff.mp text
        cases strange : reserve.text? with
        | none =>
          rcases Json.isScalar_or_isContainer strange with scalar | container
          · exact .missing (.violation asked named (.scalar scalar))
          · exact .unforeseen (.violation asked named container)
        | some name =>
          cases Json.text?_eq_some_iff.mp strange
          refine .of_respond (dispatch_violation asked objective) enforce_judged False.elim ?_ ?_
          · exact fun _ unregistered => .violation asked named (.text unregistered)
          · exact fun _ _ => .of_asks (.violation asked named) rfl

theorem accounted (coherent : s.oracle.Coherent s.params) (api : ∀ name, route ≠ .file name) :
    Accounted depth s r route := by
  cases route with
  | reserve id => exact accounted_reserve id
  | attestations => exact accounted_attestations coherent
  | redemption id => exact accounted_redemption id
  | fulfillment id => exact accounted_fulfillment id
  | reports => exact accounted_reports
  | violations => exact accounted_violations
  | file name => exact absurd rfl (api name)

/-- The status of an answer tells exactly whether the request is served, a role is lacking or what is
named is unknown, and its body is an object, in which NaN and the infinities count as numbers. Only
the requests that no handler expects have no such answer. -/
theorem run_answers (authority : Authority) (relay : Relay) (params : Parameters)
    (ops : List Operation) (depth : Nat) (r : Request) (route : Route)
    (api : ∀ name, route ≠ .file name) :
    let s := (Bank.new authority relay params).run ops
    let response := (dispatch depth route r s).1
    (response.status = 200 ↔ Served depth s r route) ∧
      (response.status = 403 ↔ Forbidden depth s r route) ∧
      (response.status = 404 ↔ Missing depth s r route) ∧
      (response.status = 500 ↔ Unforeseen depth s r route) ∧
      (¬ Unforeseen depth s r route → response.status ∈ [200, 400, 403, 404] ∧
        ∃ members, response.body = some (.object members)) := by
  intro s response
  obtain ⟨coherent, -⟩ : s.oracle.Coherent s.params ∧ _ :=
    run_keeps ops (Oracle.coherent_empty params)
  have served (h : Served depth s r route) : response.Answers 200 := h.answers
  have forbidden (h : Forbidden depth s r route) : response.Answers 403 := h.answers coherent
  have missing (h : Missing depth s r route) : response.Answers 404 := h.answers coherent
  have unforeseen (h : Unforeseen depth s r route) : response.status = 500 :=
    congrArg Response.status h.internal
  have known : Accounted depth s r route := accounted coherent api
  have decided : Served depth s r route ∨ Forbidden depth s r route ∨ Missing depth s r route ∨
      Unforeseen depth s r route ∨ response.status = 400 := by
    cases known with
    | served h => exact .inl h
    | forbidden h => exact .inr (.inl h)
    | missing h => exact .inr (.inr (.inl h))
    | unforeseen h => exact .inr (.inr (.inr (.inl h)))
    | rejected answers => exact .inr (.inr (.inr (.inr answers.status_eq)))
  refine ⟨?_, ?_, ?_, ?_, fun foreseen => ?_⟩
  · grind [Response.Answers.status_eq]
  · grind [Response.Answers.status_eq]
  · grind [Response.Answers.status_eq]
  · grind [Response.Answers.status_eq]
  · cases known with
    | served h => exact ⟨by simp [(served h).status_eq], (served h).object⟩
    | forbidden h => exact ⟨by simp [(forbidden h).status_eq], (forbidden h).object⟩
    | missing h => exact ⟨by simp [(missing h).status_eq], (missing h).object⟩
    | unforeseen h => exact absurd h foreseen
    | rejected answers =>
      have status : response.status = 400 := answers.status_eq
      exact ⟨by simp [status], answers.object⟩

theorem run_answers_unwatched :
    let s := Bank.new (.ofGrants []) ⟨1, 1⟩ .testing
    let body : Text := "\x7b\"reserve_id\": \"bank-1\", \"reason\": \"theft\"\x7d"
    let r : Request := ⟨"POST", "/api/reports", some "anyone", some body, 0⟩
    (∀ name, Route.reports ≠ .file name) ∧ Forbidden 100 s r .reports ∧
      ¬ Missing 100 s r .reports := by
  intro s body r
  have answers := run_answers (.ofGrants []) ⟨1, 1⟩ .testing [] 100 r .reports nofun
  refine ⟨nofun, answers.2.1.mp (by decide +kernel), fun missing => ?_⟩
  exact absurd (answers.2.2.1.mpr missing) (by decide +kernel)

/-- An attestation whose key is a number has no answer, although a fulfilment with such fields is
answered as malformed. -/
theorem unanswered_attestation :
    let s := (Bank.new .everyone ⟨1, 1⟩ .testing).run
      [.register "registrar" "reserve" 1000 (some 0)]
    let body : Text := "\x7b\"attester_pubkey\": 5, \"reserve_id\": \"reserve\", " ++
      "\"amount\": 1, \"proof_hash\": \"00\", \"signature\": \"00\"\x7d"
    let r : Request := ⟨"POST", "/api/attestations", none, some body, 0⟩
    let response := (dispatch 100 .attestations r s).1
    response.status ∉ [200, 400, 403, 404] ∧ response.body.isNone = true := by
  decide +kernel

end Http

end BitcoinReserve
