import Woml.Remote.Sessions

/-!
# Messages that arrive again

An identifier is forgotten 300 seconds after it was received, and a message is fresh as long as its
sending is less than 301 seconds away. A message that was sent a second before it was received (to
the nanosecond) is therefore stale by the time its identifier is forgotten, and is accepted once; a
message that was younger is accepted again as soon as its identifier is forgotten.

`Remembers` is the invariant: as long as a received message can be in the window, its identifier is
stored with the time of its reception.
-/

namespace Woml

open Checked RemoteSessionAuthorityV1

/-- 300 seconds. -/
def remoteSkew : Int := remoteMessageClockSkewSeconds * 1000000000

/-- The two are one message. -/
def ReceivedMessage.Repeats (r r' : ReceivedMessage) : Prop :=
  r.message.messageId = r'.message.messageId ∧ r.message.sentAt = r'.message.sentAt

/-- The message was sent a second before it is received, to the nanosecond. -/
def ReceivedMessage.Old (r : ReceivedMessage) : Prop := r.message.sentAt + 999999999 ≤ r.now

namespace RemoteSessionAuthorityV1

variable {a a' : RemoteSessionAuthorityV1} {r : ReceivedMessage} {log : List ReceivedMessage}
  {last : DateTime}

/-! ## What one message does -/

/-- The message passes the window and the memory of the authority. -/
structure Fresh (a : RemoteSessionAuthorityV1) (messageId : String) (sentAt now : DateTime) :
    Prop where
  near : secondsBetween now sentAt ≤ remoteMessageClockSkewSeconds
  room : (a.remembered now).replayIds.size < remoteMaxReplayIds
  unseen : (a.remembered now).replayIds.get? messageId = none

/-- The authority with an identifier noted. -/
def note (a : RemoteSessionAuthorityV1) (messageId : String) (now : DateTime) :
    RemoteSessionAuthorityV1 :=
  { a.remembered now with replayIds := (a.remembered now).replayIds.insert messageId now }

theorem acceptMessage_cases (a : RemoteSessionAuthorityV1) (mi : String) (sa now : DateTime) :
    (a.Fresh mi sa now ∧
      a.acceptMessage mi sa now = (a.note mi now, .ok ())) ∨
    (¬a.Fresh mi sa now ∧
      a.acceptMessage mi sa now = (a.remembered now, .error .replayOrConflict)) := by
  by_cases h : remoteMessageClockSkewSeconds < secondsBetween now sa ∨
      remoteMaxReplayIds ≤ (a.remembered now).replayIds.size ∨
      (a.remembered now).replayIds.contains mi = true
  · refine .inr ⟨fun hf => ?_, if_pos h⟩
    rcases h with h | h | h
    · exact absurd hf.near (by omega)
    · exact absurd hf.room (by omega)
    · rw [SortedMap.contains, hf.unseen] at h
      cases h
  · refine .inl ⟨?_, if_neg h⟩
    simp only [not_or, not_lt, not_le] at h
    exact ⟨h.1, h.2.1, by simpa [SortedMap.contains] using h.2.2⟩

/-- What one message can do. Sessions only go, or are renewed; the message is refused before or by
the window, or it is noted. -/
structure Received (a : RemoteSessionAuthorityV1) (r : ReceivedMessage)
    (a' : RemoteSessionAuthorityV1) (isAccepted : Bool) : Prop where
  registry : a'.registry = a.registry
  trust : a'.trust = a.trust
  supported : a'.supportedCapabilities = a.supportedCapabilities
  sessions : ∀ id session, a'.sessions.get? id = some session →
    a.sessions.get? id = some session ∨ session.expiresAt = r.now + remoteSessionLifetime
  ids : isAccepted = false ∧ (a'.replayIds = a.replayIds ∨
      a'.replayIds = (a.remembered r.now).replayIds) ∨
    a.Fresh r.message.messageId r.message.sentAt r.now ∧
      a'.replayIds = (a.note r.message.messageId r.now).replayIds

variable {now : DateTime}

theorem get?_expire {id : String} {session : RemoteSessionRecordV1}
    (h : (a.expire now).sessions.get? id = some session) :
    a.sessions.get? id = some session ∧ now < session.expiresAt := by
  simpa [expire, SortedMap.get?_filter] using h

theorem get?_setSession {id si : String} {session r : RemoteSessionRecordV1}
    (h : (a.setSession si r).sessions.get? id = some session) :
    session = r ∨ a.sessions.get? id = some session := by
  rcases SortedMap.of_get?_insert h with ⟨-, rfl⟩ | ⟨-, h⟩
  · exact .inl rfl
  · exact .inr h

theorem fresh_expire {mi : String} {sa : DateTime} :
    (a.expire now).Fresh mi sa now ↔ a.Fresh mi sa now :=
  ⟨fun h => ⟨h.near, h.room, h.unseen⟩, fun h => ⟨h.near, h.room, h.unseen⟩⟩

section
variable (a r)

theorem Received.same : Received a r a false :=
  ⟨rfl, rfl, rfl, fun _ _ => .inl, .inl ⟨rfl, .inl rfl⟩⟩

theorem Received.expired : Received a r (a.expire r.now) false :=
  ⟨rfl, rfl, rfl, fun _ _ h => .inl (get?_expire h).1, .inl ⟨rfl, .inl rfl⟩⟩

theorem Received.refused : Received a r ((a.expire r.now).remembered r.now) false :=
  ⟨rfl, rfl, rfl, fun _ _ h => .inl (get?_expire h).1, .inl ⟨rfl, .inr rfl⟩⟩

end

/-- A message of a session that passes the window is noted, and the session renewed. -/
theorem Received.renewed {s : RemoteSessionRecordV1} {si : String} {isAccepted : Bool}
    (hf : a.Fresh r.message.messageId r.message.sentAt r.now) :
    Received a r (((a.expire r.now).note r.message.messageId r.now).renewSession s si
      r.message.sentAt r.now) isAccepted := by
  refine ⟨rfl, rfl, rfl, fun id s h => ?_, .inr ⟨hf, rfl⟩⟩
  rcases get?_setSession h with rfl | h
  · exact .inr rfl
  · exact .inl (get?_expire h).1

theorem receive_spec (a : RemoteSessionAuthorityV1) (r : ReceivedMessage) :
    Received a r (a.receive r).1 (a.receive r).2 := by
  obtain ⟨message, cd, now, si⟩ := r
  cases message with
  | hello message =>
    simp only [receive, establish]
    split
    · exact .expired a _
    split
    · exact .expired a _
    rcases acceptMessage_cases (a.expire now) message.messageId message.sentAt now with
      ⟨hf, he⟩ | ⟨-, he⟩ <;> simp only [he]
    · have hf := fresh_expire.1 hf
      split
      · exact ⟨rfl, rfl, rfl, fun _ _ h => .inl (get?_expire h).1, .inr ⟨hf, rfl⟩⟩
      · refine ⟨rfl, rfl, rfl, fun id s h => ?_, .inr ⟨hf, rfl⟩⟩
        rcases get?_setSession h with rfl | h
        · exact .inr rfl
        · exact .inl (get?_expire h).1
    · exact .refused a _
  | poll message =>
    simp only [receive, poll]
    split
    · exact .expired a _
    split
    · exact .expired a _
    · split
      · exact .expired a _
      · rcases acceptMessage_cases (a.expire now) message.messageId message.sentAt now with
          ⟨hf, he⟩ | ⟨-, he⟩ <;> simp only [he]
        · exact .renewed (fresh_expire.1 hf)
        · exact .refused a _
  | shutdown message =>
    simp only [receive, shutdown]
    split
    · exact .same a _
    split
    · exact .same a _
    split
    · exact .same a _
    rcases acceptMessage_cases a message.messageId message.sentAt now with
      ⟨hf, he⟩ | ⟨-, he⟩ <;> simp only [he]
    · refine ⟨rfl, rfl, rfl, fun id s h => .inl ?_, .inr ⟨hf, rfl⟩⟩
      by_cases hi : id = message.sessionId
      · rw [hi] at h
        exact absurd h (by simp)
      · exact (SortedMap.get?_erase_ne _ hi).symm.trans h
    · exact ⟨rfl, rfl, rfl, fun _ _ => .inl, .inl ⟨rfl, .inr rfl⟩⟩
  | fact message =>
    simp only [receive, authorizeDispatchFact]
    split
    · exact .expired a _
    · split
      · exact .expired a _
      · rcases acceptMessage_cases (a.expire now) message.messageId message.sentAt now with
          ⟨hf, he⟩ | ⟨-, he⟩ <;> simp only [he]
        · exact .renewed (fresh_expire.1 hf)
        · exact .refused a _

/-! ## The memory -/

/-- As long as a message of the log can be in the window, its identifier is stored. -/
def Remembers (log : List ReceivedMessage) (last : DateTime) (ids : SortedMap String DateTime) :
    Prop :=
  ∀ r ∈ log, r.now ≤ last ∧ (last ≤ r.now + remoteSkew → ids.get? r.message.messageId = some r.now)

theorem get?_remembered {id : String} {now seenAt : DateTime} :
    (a.remembered now).replayIds.get? id = some seenAt ↔
      a.replayIds.get? id = some seenAt ∧ now - remoteSkew ≤ seenAt := by
  simp [remembered, SortedMap.get?_filter, remoteSkew]

theorem Remembers.later {last now : DateTime} {ids : SortedMap String DateTime}
    (h : Remembers log last ids) (hl : last ≤ now) : Remembers log now ids := fun r hr =>
  ⟨(h r hr).1.trans hl, fun hn => (h r hr).2 (hl.trans hn)⟩

theorem Remembers.remembered (h : Remembers log now a.replayIds) :
    Remembers log now (a.remembered now).replayIds :=
  fun r hr => ⟨(h r hr).1, fun hn => get?_remembered.2 ⟨(h r hr).2 hn, by
    unfold DateTime at *
    omega⟩⟩

theorem Remembers.note (h : Remembers log r.now a.replayIds)
    (hf : a.Fresh r.message.messageId r.message.sentAt r.now) :
    Remembers (r :: log) r.now (a.note r.message.messageId r.now).replayIds := by
  intro r' hr'
  rcases List.mem_cons.1 hr' with rfl | hr'
  · exact ⟨le_rfl, fun _ => SortedMap.get?_insert_self _ _ _⟩
  refine ⟨(h r' hr').1, fun hn => ?_⟩
  have hs := (h.remembered r' hr').2 hn
  -- the identifier is not the one that is noted: that one was not stored
  have hne : r'.message.messageId ≠ r.message.messageId := by
    intro he
    rw [he, hf.unseen] at hs
    cases hs
  exact (SortedMap.get?_insert_ne _ hne _).trans hs

theorem Remembers.receive (h : Remembers log last a.replayIds) (hle : last ≤ r.now) :
    Remembers log r.now (a.receive r).1.replayIds := by
  have hl := h.later hle
  rcases (receive_spec a r).ids with ⟨-, he | he⟩ | ⟨hf, he⟩ <;> rw [he]
  · exact hl
  · exact hl.remembered
  · exact fun r' hr' => (hl.note hf) r' (List.mem_cons_of_mem _ hr')

/-- A message that was old when it was received is not fresh again: its identifier is stored until
the window has passed it. -/
theorem Remembers.not_fresh {r' : ReceivedMessage} (h : Remembers log r.now a.replayIds)
    (hr' : r' ∈ log) (ho : r'.Old) (hr : r'.Repeats r) :
    ¬a.Fresh r.message.messageId r.message.sentAt r.now := by
  intro hf
  obtain ⟨hi, hs⟩ := hr
  by_cases hno : r.now ≤ r'.now + remoteSkew
  · have hst := (h.remembered r' hr').2 hno
    rw [hi, hf.unseen] at hst
    cases hst
  · have hn := hf.near
    have hs' : r.message.sentAt + 999999999 ≤ r'.now := hs ▸ ho
    unfold secondsBetween remoteMessageClockSkewSeconds at hn
    unfold remoteSkew remoteMessageClockSkewSeconds DateTime at *
    omega

/-! ## Every sequence of messages -/

/-- Messages after the log: none repeats one of the log, and none another one. -/
theorem accepted_once_from (ms : List ReceivedMessage) :
    ∀ (a : RemoteSessionAuthorityV1) (log : List ReceivedMessage) (last : DateTime),
      Remembers log last a.replayIds → (last :: ms.map (·.now)).Pairwise (· ≤ ·) →
      (∀ r ∈ log ++ ms, r.Old) →
      (∀ r ∈ log, ∀ r' ∈ a.accepted ms, ¬r.Repeats r') ∧
        (a.accepted ms).Pairwise fun r r' => ¬r.Repeats r' := by
  induction ms with
  | nil => exact fun _ _ _ _ _ _ => ⟨fun _ _ _ h => absurd h List.not_mem_nil, .nil⟩
  | cons r rest ih =>
    intro a log last hlo hc ho
    have hle : last ≤ r.now := (List.pairwise_cons.1 hc).1 r.now (by simp)
    have hl := hlo.later hle
    have hr : (r.now :: rest.map (·.now)).Pairwise (· ≤ ·) := (List.pairwise_cons.1 hc).2
    rcases (receive_spec a r).ids with ⟨hre, -⟩ | ⟨hf, he⟩
    · simp only [accepted, hre]
      refine ih _ log r.now (hlo.receive hle) hr fun r' hr' => ho r' ?_
      simp only [List.mem_append] at hr' ⊢
      tauto
    · have hn : Remembers (r :: log) r.now (a.receive r).1.replayIds := he ▸ hl.note hf
      obtain ⟨hs, hp⟩ := ih _ (r :: log) r.now hn hr fun r' hr' => ho r' (by
        simp only [List.mem_append, List.mem_cons] at hr' ⊢
        tauto)
      have hne : ∀ r' ∈ log, ¬r'.Repeats r := fun r' hr' hrp =>
        hl.not_fresh hr' (ho r' (List.mem_append_left _ hr')) hrp hf
      simp only [accepted]
      split
      · refine ⟨fun r' hr' r'' hr'' => ?_, List.pairwise_cons.2
          ⟨fun r' hr' => hs r List.mem_cons_self r' hr', hp⟩⟩
        rcases List.mem_cons.1 hr'' with rfl | hr''
        · exact hne r' hr'
        · exact hs r' (List.mem_cons_of_mem _ hr') r'' hr''
      · exact ⟨fun r' hr' => hs r' (List.mem_cons_of_mem _ hr'), hp⟩

/-! ## A hello that arrives again -/

/-- What a hello declares is compared with the configuration only. -/
theorem admitHello_congr (hello : WorkerHelloV1) (hr : a'.registry = a.registry)
    (hs : a'.supportedCapabilities = a.supportedCapabilities) :
    a'.admitHello hello = a.admitHello hello := by
  have ht : a'.admitTarget = a.admitTarget := by
    funext hello capabilities maximum targetId
    simp only [admitTarget, hr]
  simp only [admitHello, hs, ht]

theorem hello_accepted_iff {hello : WorkerHelloV1} (hr : r.message = .hello hello) :
    (a.receive r).2 = true ↔ (a.expire r.now).sessions.size < remoteMaxSessions ∧
      a.trust.get? hello.workerId = some r.certificateDigest ∧
      a.Fresh hello.messageId hello.sentAt r.now ∧ a.admitHello hello = .ok () := by
  have ha : ((a.expire r.now).note hello.messageId r.now).admitHello hello =
      a.admitHello hello := admitHello_congr hello rfl rfl
  have ht : (a.expire r.now).trust = a.trust := rfl
  simp only [receive, hr, establish, Prod.map, ht]
  by_cases hs : remoteMaxSessions ≤ (a.expire r.now).sessions.size
  · simp [hs, Except.toBool]
  by_cases hk : a.trust.get? hello.workerId = some r.certificateDigest
  · rcases acceptMessage_cases (a.expire r.now) hello.messageId hello.sentAt r.now with
      ⟨hf, he⟩ | ⟨hst, he⟩
    · rw [fresh_expire] at hf
      simp only [hs, hk, he, ha]
      cases had : a.admitHello hello with
      | error error => simp [Except.toBool]
      | ok u => simpa [Except.toBool, hf] using Nat.lt_of_not_le hs
    · rw [fresh_expire] at hst
      simp [hs, hk, he, hst, Except.toBool]
  · simp [hs, hk, Except.isOk, Except.toBool]

/-- Nothing in the authority is later than its last message, but for the lifetime of a session. -/
structure Recent (a : RemoteSessionAuthorityV1) (last : DateTime) : Prop where
  sessions : ∀ id session, a.sessions.get? id = some session →
    session.expiresAt ≤ last + remoteSessionLifetime
  ids : ∀ id seenAt, a.replayIds.get? id = some seenAt → seenAt ≤ last

theorem Recent.receive (h : Recent a last) (hl : r.now ≤ last) : Recent (a.receive r).1 last := by
  have hsp := receive_spec a r
  refine ⟨fun id s hse => ?_, fun id sa hs => ?_⟩
  · rcases hsp.sessions id s hse with ho | hn
    · exact h.sessions id s ho
    · exact hn ▸ Int.add_le_add_right hl _
  · rcases hsp.ids with ⟨-, he | he⟩ | ⟨-, he⟩ <;> rw [he] at hs
    · exact h.ids id sa hs
    · exact h.ids id sa (get?_remembered.1 hs).1
    · rcases SortedMap.of_get?_insert hs with ⟨-, rfl⟩ | ⟨-, hs⟩
      · exact hl
      · exact h.ids id sa (get?_remembered.1 hs).1

theorem Recent.run {ms : List ReceivedMessage} (h : Recent a last)
    (hl : ∀ r ∈ ms, r.now ≤ last) : Recent (a.run ms) last :=
  List.foldlRecOn (motive := (Recent · last)) ms _ h fun _ h r hr => h.receive (hl r hr)

/-- As soon as the identifier is forgotten the hello is accepted again, unless it was old. -/
theorem hello_accepted_again {hello : WorkerHelloV1} (hr : r.message = .hello hello)
    (hre : Recent a r.now) (hac : (a.receive r).2 = true) (hy : ¬r.Old) (si : String) :
    ((a.receive r).1.receive { r with now := r.now + remoteSkew + 1, sessionId := si }).2 = true := by
  have hs := receive_spec a r
  have haf := hre.receive (le_refl r.now)
  obtain ⟨-, ht, hfr, ha⟩ := (hello_accepted_iff hr).1 hac
  have hsn : r.message.sentAt = hello.sentAt := by rw [hr, WorkerMessage.sentAt]
  have hn := hfr.near
  unfold ReceivedMessage.Old at hy
  have he : ((a.receive r).1.expire (r.now + remoteSkew + 1)).sessions = .empty := by
    simp only [expire]
    refine SortedMap.filter_eq_empty fun id s hss => ?_
    have hl := haf.sessions id s hss
    simp only [decide_eq_false_iff_not]
    unfold remoteSkew remoteMessageClockSkewSeconds
    unfold remoteSessionLifetime DateTime at *
    omega
  have hf : ((a.receive r).1.remembered (r.now + remoteSkew + 1)).replayIds = .empty := by
    simp only [remembered]
    refine SortedMap.filter_eq_empty fun id sa hse => ?_
    have hl := haf.ids id sa hse
    simp only [decide_eq_false_iff_not]
    unfold remoteSkew
    unfold remoteMessageClockSkewSeconds DateTime at *
    omega
  refine (hello_accepted_iff (r := { r with now := r.now + remoteSkew + 1, sessionId := si }) hr).2
    ⟨?_, hs.trust ▸ ht, ⟨?_, ?_, ?_⟩, (admitHello_congr hello hs.registry hs.supported).trans ha⟩
  · rw [he]
    decide
  · show secondsBetween (r.now + remoteSkew + 1) hello.sentAt ≤ _
    unfold secondsBetween remoteMessageClockSkewSeconds at hn ⊢
    unfold remoteSkew remoteMessageClockSkewSeconds
    unfold DateTime at *
    omega
  · rw [hf]
    decide
  · rw [hf]
    rfl

theorem recent_of_build {r : List TargetRegistryEntryV1} {t : List (String × String)}
    {s : List (String × Nat)} {de : Bool} (h : build r t s de = .ok a) :
    Recent a last ∧ a.replayIds = .empty := by
  simp only [build, eq_ok_iff] at h
  obtain ⟨tr, -, rfl⟩ := h
  exact ⟨⟨nofun, nofun⟩, rfl⟩

/-- **Replay protection.** In every sequence of messages that a coordinator receives by a clock
that does not go backwards, no message is accepted twice if every message was sent a second (to the
nanosecond) before it is received. That is needed: a hello that is accepted and is younger is
accepted once more when it arrives again 300 seconds and a nanosecond later. -/
theorem message_accepted_once {registry : List TargetRegistryEntryV1}
    {trust : List (String × String)} {supported : List (String × Nat)} {dispatchEnabled : Bool}
    (hbuild : build registry trust supported dispatchEnabled = .ok a)
    (messages : List ReceivedMessage) (hclock : (messages.map (·.now)).Pairwise (· ≤ ·)) :
    ((∀ r ∈ messages, r.Old) →
      (a.accepted messages).Pairwise fun r r' => ¬r.Repeats r') ∧
    ∀ hello r sessionId, r.message = .hello hello → (∀ r' ∈ messages, r'.now ≤ r.now) →
      ((a.run messages).receive r).2 = true → ¬r.Old →
      (((a.run messages).receive r).1.receive
        { r with now := r.now + remoteSkew + 1, sessionId }).2 = true := by
  refine ⟨fun ho => ?_, fun hello r sessionId hr hl ha hy => ?_⟩
  · cases messages with
    | nil => exact .nil
    | cons r rest =>
      refine (accepted_once_from (r :: rest) a [] r.now nofun ?_ (by simpa using ho)).2
      refine List.pairwise_cons.2 ⟨fun now hn => ?_, hclock⟩
      rcases List.mem_cons.1 hn with rfl | hn
      · exact le_refl _
      · exact (List.pairwise_cons.1 hclock).1 now hn
  · exact hello_accepted_again hr ((recent_of_build hbuild).1.run hl) ha hy sessionId

end RemoteSessionAuthorityV1

/-! ## A worker that says hello -/

namespace GreetingWorker

def registry : List TargetRegistryEntryV1 :=
  [{ id := "gpu", allowedWorkerIdentities := ["worker"], requiredCapabilities := ["runtime.script"]
     minimumWorkerVersion := "1.0.0", maximumInFlight := 4 }]

def trust : List (String × String) := [("worker", "sha256:certificate")]

def authority : RemoteSessionAuthorityV1 :=
  { registry
    trust := SortedMap.empty.insert "worker" "sha256:certificate"
    supportedCapabilities := SortedMap.empty.insert "runtime.script" 1
    dispatchEnabled := true }

theorem build_eq :
    build registry trust [("runtime.script", 1)] true = .ok authority :=
  rfl

def hello (sentAt : DateTime) : WorkerHelloV1 :=
  { messageId := "hello_01", workerId := "worker", sentAt, workerVersion := "1.2.0"
    targets := ["gpu"], capacity := 2, capabilities := [⟨"runtime.script", 1⟩] }

def received (sentAt now : DateTime) (sessionId : String) : ReceivedMessage :=
  { message := .hello (hello sentAt), certificateDigest := "sha256:certificate", now, sessionId }

/-- A hello that is received when it is sent, and once more 300 and a half seconds later. -/
def messages : List ReceivedMessage :=
  [received 0 0 "session_1", received 0 300500000000 "session_2"]

/-- Both are accepted. -/
theorem hello_accepted_twice :
    build registry trust [("runtime.script", 1)] true = .ok authority ∧
      (messages.map (·.now)).Pairwise (· ≤ ·) ∧
      ((authority.accepted messages).map fun r =>
        (r.message.messageId, r.message.sentAt, r.now)) =
        [("hello_01", 0, 0), ("hello_01", 0, 300500000000)] :=
  ⟨rfl, by decide +kernel, by decide +kernel⟩

/-- One that takes a second to arrive is accepted once. -/
def slow : List ReceivedMessage :=
  [received 0 1000000000 "session_1", received 0 301500000000 "session_2"]

theorem slow_hello_accepted_once :
    (authority.accepted slow).length = 1 ∧
      (authority.accepted slow).Pairwise fun r r' => ¬r.Repeats r' := by
  refine ⟨by decide +kernel, (message_accepted_once build_eq slow
    (by decide +kernel)).1 fun r hr => ?_⟩
  unfold ReceivedMessage.Old
  revert r
  decide +kernel

end GreetingWorker

end Woml
