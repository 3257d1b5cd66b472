import Dockermock.Library.Dict
import Dockermock.Library.Transition
import Dockermock.Dns.Registry

/-!
The forwarders of `DynamicResolver.resolve`. All calls share one UDP socket, and
nothing reads it between two calls: a reply that comes after its call has timed
out stays in front of the replies to the next one. Calls of several threads may
overlap. The upstream servers answer requests they were sent, any number of
times and at any later moment, and a datagram may be no DNS message at all.
-/

namespace Dockermock.Dns

open Library

structure Question where
  qname : String
  qtype : String
  deriving DecidableEq, Repr

/-- `DNSRecord`: a request has no answers yet. -/
structure Record where
  id : Nat
  question : Question
  answers : List RR
  deriving DecidableEq, Repr

namespace Record

def reply (request : Record) : Record := ⟨request.id, request.question, []⟩

/-- A response to the request, by transaction id and question. -/
def Answers (record request : Record) : Prop :=
  record.id = request.id ∧ record.question = request.question

instance (record request : Record) : Decidable (record.Answers request) :=
  inferInstanceAs (Decidable (_ ∧ _))

end Record

/-- A datagram as `DNSRecord.parse` takes it; `none` is one on which it raises. -/
abbrev Datagram := Option Record

/-- A call of resolve in its loop: before sendto, or in recvfrom. -/
structure Forward where
  request : Record
  forwarders : List String
  waiting : Bool
  deriving DecidableEq

structure Resolver where
  sock : List Datagram
  sent : List Record
  calls : Dict Nat Forward
  returned : List (Record × Record)

inductive Event where
  | forwards (call : Nat) (request : Record)
  | sendto (call : Nat)
  | sendtoRaises (call : Nat)
  | recvfrom (call : Nat)
  | timeout (call : Nat)
  | exhausted (call : Nat)
  | arrives (request : Record) (data : Datagram)
  deriving DecidableEq

namespace Resolver

def initial : Resolver := ⟨[], [], .empty, []⟩

def next (resolver : Resolver) (call : Nat) (held : Forward) : Resolver :=
  { resolver with calls := resolver.calls.set call ⟨held.request, held.forwarders.tail, false⟩ }

def await (resolver : Resolver) (call : Nat) (held : Forward) : Resolver :=
  { resolver with
    sent := resolver.sent ++ [held.request]
    calls := resolver.calls.set call { held with waiting := true } }

def finish (resolver : Resolver) (call : Nat) (held : Forward) (record : Record) : Resolver :=
  { resolver with
    calls := resolver.calls.pop call
    returned := resolver.returned ++ [(held.request, record)] }

/-- recvfrom takes the oldest datagram, whoever it is for. -/
def receive (resolver : Resolver) (call : Nat) (held : Forward) : Option Resolver :=
  match resolver.sock with
  | [] => none
  | data :: rest =>
      match data with
      | none => some ({ resolver with sock := rest }.next call held)
      | some record => some ({ resolver with sock := rest }.finish call held record)

def step (systemResolvers : List String) (resolver : Resolver) : Event → Option Resolver
  | .forwards call request =>
      if resolver.calls.get call = none then
        some { resolver with calls := resolver.calls.set call ⟨request, systemResolvers, false⟩ }
      else none
  | .sendto call =>
      (resolver.calls.get call).bind fun held =>
        if held.waiting = false ∧ held.forwarders ≠ [] then
          some (resolver.await call held)
        else none
  | .sendtoRaises call =>
      (resolver.calls.get call).bind fun held =>
        if held.waiting = false ∧ held.forwarders ≠ [] then some (resolver.next call held) else none
  | .recvfrom call =>
      (resolver.calls.get call).bind fun held =>
        if held.waiting then resolver.receive call held else none
  | .timeout call =>
      (resolver.calls.get call).bind fun held =>
        if held.waiting = true ∧ resolver.sock = [] then some (resolver.next call held) else none
  | .exhausted call =>
      (resolver.calls.get call).bind fun held =>
        if held.waiting = false ∧ held.forwarders = [] then
          some (resolver.finish call held held.request.reply)
        else none
  | .arrives request data =>
      if request ∈ resolver.sent ∧ ∀ record ∈ data, record.Answers request then
        some { resolver with sock := resolver.sock ++ [data] }
      else none

/-- What each event does where it is possible. -/
inductive Effect (systemResolvers : List String) (resolver : Resolver) :
    Event → Resolver → Prop where
  | forwards (call : Nat) (request : Record) (absent : resolver.calls.get call = none) :
      Effect systemResolvers resolver (.forwards call request)
        { resolver with calls := resolver.calls.set call ⟨request, systemResolvers, false⟩ }
  | sendto (call : Nat) (held : Forward) (open' : resolver.calls.get call = some held)
      (ready : held.waiting = false) :
      Effect systemResolvers resolver (.sendto call) (resolver.await call held)
  | sendtoRaises (call : Nat) (held : Forward) (open' : resolver.calls.get call = some held) :
      Effect systemResolvers resolver (.sendtoRaises call) (resolver.next call held)
  | received (call : Nat) (held : Forward) (record : Record) (rest : List Datagram)
      (open' : resolver.calls.get call = some held) (waiting : held.waiting = true)
      (oldest : resolver.sock = some record :: rest) :
      Effect systemResolvers resolver (.recvfrom call)
        ({ resolver with sock := rest }.finish call held record)
  | unreadable (call : Nat) (held : Forward) (rest : List Datagram)
      (open' : resolver.calls.get call = some held) (waiting : held.waiting = true)
      (oldest : resolver.sock = none :: rest) :
      Effect systemResolvers resolver (.recvfrom call)
        ({ resolver with sock := rest }.next call held)
  | timeout (call : Nat) (held : Forward) (open' : resolver.calls.get call = some held)
      (waiting : held.waiting = true) :
      Effect systemResolvers resolver (.timeout call) (resolver.next call held)
  | exhausted (call : Nat) (held : Forward) (open' : resolver.calls.get call = some held)
      (idle : held.waiting = false) :
      Effect systemResolvers resolver (.exhausted call)
        (resolver.finish call held held.request.reply)
  | arrives (request : Record) (data : Datagram) (sent : request ∈ resolver.sent)
      (answers : ∀ record ∈ data, record.Answers request) :
      Effect systemResolvers resolver
        (.arrives request data) { resolver with sock := resolver.sock ++ [data] }

theorem step_effect {systemResolvers : List String} {resolver after : Resolver} {event : Event}
    (taken : step systemResolvers resolver event = some after) :
    Effect systemResolvers resolver event after := by
  cases event with
  | forwards call request =>
      simp only [step, Option.ite_none_right_eq_some, Option.some.injEq] at taken
      rcases taken with ⟨absent, rfl⟩
      exact .forwards call request absent
  | arrives request data =>
      simp only [step, Option.ite_none_right_eq_some, Option.some.injEq] at taken
      rcases taken with ⟨⟨sent, answers⟩, rfl⟩
      exact .arrives request data sent answers
  | sendto call =>
      rcases Option.bind_eq_some_iff.mp taken with ⟨held, open', rest⟩
      simp only [Option.ite_none_right_eq_some, Option.some.injEq] at rest
      rcases rest with ⟨⟨ready, _⟩, rfl⟩
      exact .sendto call held open' ready
  | sendtoRaises call =>
      rcases Option.bind_eq_some_iff.mp taken with ⟨held, open', rest⟩
      simp only [Option.ite_none_right_eq_some, Option.some.injEq] at rest
      exact rest.2 ▸ .sendtoRaises call held open'
  | timeout call =>
      rcases Option.bind_eq_some_iff.mp taken with ⟨held, open', rest⟩
      simp only [Option.ite_none_right_eq_some, Option.some.injEq] at rest
      rcases rest with ⟨⟨waiting, _⟩, rfl⟩
      exact .timeout call held open' waiting
  | exhausted call =>
      rcases Option.bind_eq_some_iff.mp taken with ⟨held, open', rest⟩
      simp only [Option.ite_none_right_eq_some, Option.some.injEq] at rest
      rcases rest with ⟨⟨idle, _⟩, rfl⟩
      exact .exhausted call held open' idle
  | recvfrom call =>
      -- recvfrom gives the oldest datagram; one that does not parse goes to the next forwarder.
      rcases Option.bind_eq_some_iff.mp taken with ⟨held, open', rest⟩
      rw [Option.ite_none_right_eq_some] at rest
      rcases rest with ⟨waiting, read⟩
      unfold receive at read
      split at read
      · cases read
      · split at read <;> cases read
        · exact .unreadable call held _ open' waiting ‹_›
        · exact .received call held _ _ open' waiting ‹_›

end Resolver

section Property

/-- What resolve returns for a request: its own empty reply, or a response to it. -/
def Own (request record : Record) : Prop := record = request.reply ∨ record.Answers request

def ReturnsOwn (resolver : Resolver) : Prop := ∀ entry ∈ resolver.returned, Own entry.1 entry.2

/-- The oldest unread datagram, if it is a DNS message, answers the request. -/
def headFits (sock : List Datagram) (request : Record) : Prop :=
  ∀ record ∈ sock.head?.join, record.Answers request

instance (sock : List Datagram) (request : Record) : Decidable (headFits sock request) :=
  inferInstanceAs (Decidable (∀ _ ∈ _, _))

/-- A request is sent while no other call waits and nothing older than its replies would be read
first, and whatever comes first while a call waits is for this call. -/
def timely (resolver : Resolver) : Event → Prop
  | .sendto call => ∀ held ∈ resolver.calls.get call,
      (∀ entry ∈ resolver.calls.entries, entry.2.waiting = false) ∧
        headFits resolver.sock held.request
  | .arrives _ data => resolver.sock = [] →
      ∀ entry ∈ resolver.calls.entries, entry.2.waiting = true → headFits [data] entry.2.request
  | _ => True

instance (resolver : Resolver) : (event : Event) → Decidable (timely resolver event)
  | .sendto _ => inferInstanceAs (Decidable (∀ _ ∈ _, _ ∧ _))
  | .arrives _ _ => inferInstanceAs (Decidable (_ → ∀ _ ∈ _, _ → _))
  | .forwards _ _ | .sendtoRaises _ | .recvfrom _ | .timeout _ | .exhausted _ =>
      inferInstanceAs (Decidable True)

end Property

section Invariant

/-- At most one call waits, and the oldest datagram is for it. -/
structure Tidy (resolver : Resolver) : Prop where
  single : ∀ left right leftHeld rightHeld, resolver.calls.get left = some leftHeld →
    resolver.calls.get right = some rightHeld → leftHeld.waiting = true →
      rightHeld.waiting = true → left = right
  fits : ∀ call held, resolver.calls.get call = some held → held.waiting = true →
    headFits resolver.sock held.request
  own : ReturnsOwn resolver

theorem Tidy.fewer {resolver after : Resolver} (tidy : Tidy resolver)
    (before : ∀ probe probed, after.calls.get probe = some probed → probed.waiting = true →
      resolver.calls.get probe = some probed ∧ after.sock = resolver.sock)
    (own : ReturnsOwn after) : Tidy after := by
  refine ⟨?_, ?_, own⟩
  · intro left right leftHeld rightHeld leftOpen rightOpen leftWaits rightWaits
    have leftBefore := (before left leftHeld leftOpen leftWaits).1
    have rightBefore := (before right rightHeld rightOpen rightWaits).1
    exact tidy.single left right leftHeld rightHeld leftBefore rightBefore leftWaits rightWaits
  · intro probe probed probedOpen waits
    rcases before probe probed probedOpen waits with ⟨held, same⟩
    rw [same]
    exact tidy.fits probe probed held waits

/-- While another call waits, a call takes no datagram. -/
theorem Tidy.unread {resolver : Resolver} (tidy : Tidy resolver) {call probe : Nat}
    {held probed : Forward} (open' : resolver.calls.get call = some held)
    (found : resolver.calls.get probe = some probed) (waits : probed.waiting = true)
    (different : probe ≠ call) {sock : List Datagram}
    (kept : sock = resolver.sock ∨ held.waiting = true) : sock = resolver.sock := by
  rcases kept with same | waiting
  · exact same
  · exact absurd (tidy.single probe call probed held found open' waits waiting) different

theorem Tidy.next {resolver : Resolver} (tidy : Tidy resolver) {call : Nat} {held : Forward}
    (open' : resolver.calls.get call = some held) (sock : List Datagram)
    (kept : sock = resolver.sock ∨ held.waiting = true) :
    Tidy ({ resolver with sock := sock }.next call held) := by
  refine tidy.fewer (fun probe probed found waits => ?_) tidy.own
  rw [Resolver.next, Dict.get_set] at found
  split at found
  · cases found
    cases waits
  · rename_i different
    exact ⟨found, tidy.unread open' found waits different kept⟩

theorem Tidy.finish {resolver : Resolver} (tidy : Tidy resolver) {call : Nat} {held : Forward}
    (open' : resolver.calls.get call = some held) (sock : List Datagram)
    (kept : sock = resolver.sock ∨ held.waiting = true) (record : Record)
    (own : Own held.request record) :
    Tidy ({ resolver with sock := sock }.finish call held record) := by
  refine tidy.fewer (fun probe probed found waits => ?_) ?_
  · rw [Resolver.finish, Dict.get_pop] at found
    split at found
    · cases found
    · rename_i different
      exact ⟨found, tidy.unread open' found waits different kept⟩
  · intro entry member
    rcases List.mem_append.mp member with earlier | last
    · exact tidy.own entry earlier
    · rw [List.mem_singleton.mp last]
      exact own

theorem Tidy.await {resolver : Resolver} (tidy : Tidy resolver) {call : Nat} {held : Forward}
    (quiet : ∀ entry ∈ resolver.calls.entries, entry.2.waiting = false)
    (fits : headFits resolver.sock held.request) : Tidy (resolver.await call held) := by
  -- Nobody waited, so the call is the only one that does now.
  have only : ∀ probe probed, (resolver.await call held).calls.get probe = some probed →
    probed.waiting = true →
      probe = call ∧ probed.request = held.request := by
    intro probe probed found waits
    rw [Resolver.await, Dict.get_set] at found
    split at found
    · cases found
      exact ⟨by assumption, rfl⟩
    · have idle := quiet _ ((Dict.get_eq_some_iff _ _ _).mp found)
      rw [waits] at idle
      cases idle
  refine ⟨?_, ?_, tidy.own⟩
  · intro left right leftHeld rightHeld leftOpen rightOpen leftWaits rightWaits
    have leftOnly := (only left leftHeld leftOpen leftWaits).1
    exact leftOnly.trans (only right rightHeld rightOpen rightWaits).1.symm
  · intro probe probed found waits
    rw [(only probe probed found waits).2]
    exact fits

theorem Tidy.arrives {resolver : Resolver} (tidy : Tidy resolver) (data : Datagram)
    (timely : resolver.sock = [] →
      ∀ entry ∈ resolver.calls.entries, entry.2.waiting = true → headFits [data] entry.2.request) :
    Tidy { resolver with sock := resolver.sock ++ [data] } := by
  refine ⟨tidy.single, ?_, tidy.own⟩
  intro call held open' waits
  cases unread : resolver.sock with
  | nil => exact timely unread _ ((Dict.get_eq_some_iff _ _ _).mp open') waits
  | cons oldest rest =>
      have before := tidy.fits call held open' waits
      rw [unread] at before
      exact before

theorem step_tidy (systemResolvers : List String) (resolver : Resolver) (event : Event)
    (after : Resolver) (tidy : Tidy resolver) (condition : timely resolver event)
    (taken : Resolver.step systemResolvers resolver event = some after) : Tidy after := by
  cases Resolver.step_effect taken with
  | forwards call request absent =>
      refine tidy.fewer (fun probe probed found waits => ?_) tidy.own
      rw [Dict.get_set] at found
      split at found
      · cases found
        cases waits
      · exact ⟨found, rfl⟩
  | sendto call held open' ready =>
      exact tidy.await (condition held open').1 (condition held open').2
  | sendtoRaises call held open' => exact tidy.next open' resolver.sock (.inl rfl)
  | received call held record rest open' waiting oldest =>
      have answers : record.Answers held.request := by
        have fits := tidy.fits call held open' waiting
        rw [oldest] at fits
        exact fits record rfl
      exact tidy.finish open' rest (.inr waiting) record (.inr answers)
  | unreadable call held rest open' waiting oldest => exact tidy.next open' rest (.inr waiting)
  | timeout call held open' waiting => exact tidy.next open' resolver.sock (.inl rfl)
  | exhausted call held open' idle => exact tidy.finish open' resolver.sock (.inl rfl) _ (.inl rfl)
  | arrives request data sent answers => exact tidy.arrives data condition

end Invariant

/-- Over every behaviour of the network in which no request is sent behind a stale reply and no
stale reply comes first to a waiting call, each call returns its own empty reply or a response to
its request. -/
theorem returns_own (systemResolvers : List String) (events : List Event) (after : Resolver)
    (run : Run (Resolver.step systemResolvers) timely .initial events after) :
    ReturnsOwn after := by
  have start : Tidy .initial := ⟨nofun, nofun, nofun⟩
  exact (run_invariant Tidy (step_tidy systemResolvers) run start).own

section Example

def wwwRequest : Record := ⟨1, ⟨"www.example.org.", "A"⟩, []⟩

def mailRequest : Record := ⟨2, ⟨"mail.example.org.", "A"⟩, []⟩

def answerWith (request : Record) (address : String) : Record :=
  ⟨request.id, request.question, [⟨request.question.qname, address, 60⟩]⟩

def unhurried : List Event :=
  [.forwards 0 wwwRequest, .sendto 0, .timeout 0, .sendto 0,
    .arrives wwwRequest (answerWith wwwRequest "192.0.2.1"),
    .recvfrom 0, .forwards 1 mailRequest, .sendto 1, .arrives mailRequest none,
      .recvfrom 1, .sendto 1,
    .arrives mailRequest (answerWith mailRequest "192.0.2.2"), .recvfrom 1]

theorem returns_own_unhurried : ∃ after,
    Run (Resolver.step ["9.9.9.9", "1.1.1.1"]) timely .initial unhurried after ∧
      after.returned = [(wwwRequest, answerWith wwwRequest "192.0.2.1"),
        (mailRequest, answerWith mailRequest "192.0.2.2")] ∧ ReturnsOwn after :=
  (run_of_replay (Resolver.step ["9.9.9.9", "1.1.1.1"]) timely Resolver.returned .initial unhurried
    _ (by decide)).imp
    fun after reached => ⟨reached.1, reached.2, returns_own _ unhurried after reached.1⟩

def belated : List Event :=
  [.forwards 0 wwwRequest, .sendto 0, .timeout 0, .exhausted 0,
    .arrives wwwRequest (answerWith wwwRequest "192.0.2.1"), .forwards 1 mailRequest,
      .sendto 1, .recvfrom 1]

theorem late_answer_returned :
    ¬ ∀ systemResolvers events after,
      Run (Resolver.step systemResolvers) anyAction .initial events after → ReturnsOwn after := by
  intro claimed
  rcases run_of_replay (Resolver.step ["9.9.9.9"]) anyAction Resolver.returned .initial belated
    [(wwwRequest, wwwRequest.reply), (mailRequest, answerWith wwwRequest "192.0.2.1")] (by decide)
    with ⟨after, run, read⟩
  have own :=
    claimed _ _ _ run (mailRequest, answerWith wwwRequest "192.0.2.1") (by rw [read]; simp)
  rcases own with empty | answers
  · exact absurd empty (by decide)
  · exact absurd answers (by decide)

end Example

end Dockermock.Dns
