import AtLeastOnce.Proofs.Http.Transition
import Mathlib.Data.List.Count
import Mathlib.Data.List.Nodup
import Mathlib.Data.List.Range

/-!
# Requests and their answers

When a request comes in, it is settled when it will be answered and how: by its handler
or, if that does not end before the timeout, in its place.  A request that was accepted
is open until then and answered from then on, once.
-/

namespace AtLeastOnce

/-- A timer waits for more than some whole milliseconds when the duration is longer. -/
theorem Duration.lt_timerMilliseconds_iff {duration : Duration} {milliseconds : Nat} :
    milliseconds < duration.timerMilliseconds ↔
      (ofMilliseconds milliseconds).nanoseconds < duration.nanoseconds := by
  unfold timerMilliseconds ofMilliseconds nanosecondsPerMillisecond
  dsimp only
  omega

theorem Duration.timerMilliseconds_le {shorter longer : Duration}
    (less : shorter.nanoseconds ≤ longer.nanoseconds) :
    shorter.timerMilliseconds ≤ longer.timerMilliseconds :=
  Nat.div_le_div_right (Nat.sub_le_sub_right (Nat.add_le_add_right less _) 1)

namespace Http

/-! ## The timeout of a request -/

/-- The milliseconds until an answer is there, or what stands in its place. -/
def answerDelay (timeout : Duration) (delay : Option Nat) : Nat :=
  match delay with
  | some delay => min delay timeout.timerMilliseconds
  | none => timeout.timerMilliseconds

theorem answerDelay_le (timeout : Duration) (delay : Option Nat) :
    answerDelay timeout delay ≤ timeout.timerMilliseconds := by
  cases delay with
  | none => exact Nat.le_refl _
  | some delay => exact Nat.min_le_right _ _

section

variable {timeout : Duration} {answer : Timed Response}

theorem withTimeout_of_early {delay : Nat} (own : answer.delay = some delay)
    (early : delay < timeout.timerMilliseconds) : withTimeout timeout answer = answer := by
  simp [withTimeout, endsBefore, own, early]

theorem withTimeout_of_late
    (late : ∀ delay, answer.delay = some delay → timeout.timerMilliseconds ≤ delay) :
    withTimeout timeout answer = ⟨some timeout.timerMilliseconds, .timedOut⟩ := by
  unfold withTimeout endsBefore
  cases own : answer.delay with
  | none => rfl
  | some delay => simp [late delay own]

theorem withTimeout_delay :
    (withTimeout timeout answer).delay = some (answerDelay timeout answer.delay) := by
  cases own : answer.delay with
  | none =>
      rw [withTimeout_of_late (by simp [own])]
      rfl
  | some delay =>
      rcases Nat.lt_or_ge delay timeout.timerMilliseconds with early | late
      · rw [withTimeout_of_early own early, own, answerDelay, Nat.min_eq_left (Nat.le_of_lt early)]
      · rw [withTimeout_of_late (by simpa [own] using late), answerDelay, Nat.min_eq_right late]

end

namespace Server

/-! ## What a request comes to -/

section

variable (options : Options)

/-- What the routes have for a request that comes in before the shutdown. -/
def ownAnswer (number : Nat) (request : Request) : Timed Response :=
  (options.routerFor number).answer .idle request

/-- When a request is answered. -/
def due (number : Nat) (arrival : Arrival) : Nat :=
  arrival.time + answerDelay options.timeout (ownAnswer options number arrival.request).delay

def exchangeOf (number : Nat) (arrival : Arrival) : Exchange :=
  ⟨number, some (due options number arrival),
    (withTimeout options.timeout (ownAnswer options number arrival.request)).result⟩

def replyOf (number : Nat) (arrival : Arrival) : Reply :=
  ⟨due options number arrival, number,
    (withTimeout options.timeout (ownAnswer options number arrival.request)).result⟩

/-- Some requests that were accepted are open until they are due, and then answered. -/
structure Accounted (requests : List Arrival) (state : State) : Prop where
  count : state.accepted = requests.length
  opened : ∀ exchange ∈ state.opened, ∃ arrival,
    requests[exchange.number]? = some arrival ∧
      exchange = exchangeOf options exchange.number arrival ∧
      state.now ≤ due options exchange.number arrival
  answered : ∀ reply ∈ state.replies, ∃ arrival,
    requests[reply.number]? = some arrival ∧
      reply = replyOf options reply.number arrival ∧
      due options reply.number arrival ≤ state.now
  numbers : (state.opened.map Exchange.number ++ state.replies.map Reply.number).Perm
    (List.range requests.length)

end

variable {options : Options} {shutdown : Shutdown} {state next : State} {deeds : List Deed}
  {requests : List Arrival} {arrival : Arrival} {number : Nat}

theorem due_le (options : Options) (number : Nat) (arrival : Arrival) :
    due options number arrival ≤ arrival.time + options.timeout.timerMilliseconds :=
  Nat.add_le_add_left (answerDelay_le _ _) _

/-! ## Every step keeps account -/

theorem opened_accept (request : Request) (untriggered : state.shutdown.triggered = false) :
    (accept options state request).opened =
      state.opened ++ [exchangeOf options state.accepted ⟨state.now, request⟩] := by
  have idle : state.shutdown = .idle := congrArg Shutdown.mk untriggered
  simp [accept, exchangeOf, due, ownAnswer, Timed.endFrom, withTimeout_delay, idle]

/-- A request keeps its number. -/
theorem found_append (found : requests[number]? = some arrival) (more : List Arrival) :
    (requests ++ more)[number]? = some arrival := by
  rw [List.getElem?_append_left (List.getElem?_eq_some_iff.mp found).1]
  exact found

/-- Without the one that is answered, the others stay open. -/
theorem numbers_sendReply (distinct : (state.opened.map Exchange.number).Nodup)
    {exchange : Exchange} (member : exchange ∈ state.opened) :
    (state.opened.map Exchange.number).Perm
      (exchange.number :: (sendReply state exchange).opened.map Exchange.number) := by
  have rest : (sendReply state exchange).opened.map Exchange.number =
      (state.opened.map Exchange.number).erase exchange.number := by
    rw [distinct.erase_eq_filter, List.filter_map]
    refine congrArg (List.map Exchange.number) (List.filter_congr ?_)
    intro other _
    by_cases same : other.number = exchange.number
    · simp [same]
    · simp [same]
  rw [rest]
  exact List.perm_cons_erase (List.mem_map_of_mem member)

namespace Accounted

theorem of_same (account : Accounted options requests state)
    (count : next.accepted = state.accepted) (opened : next.opened = state.opened)
    (replies : next.replies = state.replies) (now : next.now = state.now) :
    Accounted options requests next where
  count := count.trans account.count
  opened := by
    rw [opened, now]
    exact account.opened
  answered := by
    rw [replies, now]
    exact account.answered
  numbers := by
    rw [opened, replies]
    exact account.numbers

theorem nodup_opened (account : Accounted options requests state) :
    (state.opened.map Exchange.number).Nodup :=
  List.Nodup.of_append_left (account.numbers.nodup_iff.mpr List.nodup_range)

theorem accept (account : Accounted options requests state) (request : Request)
    (untriggered : state.shutdown.triggered = false) :
    Accounted options (requests ++ [⟨state.now, request⟩])
      (Server.accept options state request) where
  count := by
    rw [List.length_append, ← account.count]
    rfl
  opened := by
    rw [opened_accept request untriggered]
    intro exchange member
    rcases List.mem_append.mp member with before | new
    · obtain ⟨arrival, found, rest⟩ := account.opened exchange before
      exact ⟨arrival, found_append found _, rest⟩
    · obtain rfl := List.mem_singleton.mp new
      refine ⟨⟨state.now, request⟩, ?_, rfl, Nat.le_add_right _ _⟩
      rw [exchangeOf, account.count]
      exact List.getElem?_concat_length
  answered := by
    intro reply member
    obtain ⟨arrival, found, rest⟩ := account.answered reply member
    exact ⟨arrival, found_append found _, rest⟩
  numbers := by
    have numbers := (account.numbers.append_right [requests.length])
    rw [List.append_assoc] at numbers
    rw [opened_accept request untriggered, List.map_append, List.length_append,
      List.length_singleton, List.range_succ, List.append_assoc, account.count]
    exact (List.perm_append_comm.append_left _).trans numbers

theorem sendReply (account : Accounted options requests state) {exchange : Exchange}
    (member : exchange ∈ state.opened) (come : isDue state.now exchange.endsAt = true) :
    Accounted options requests (Server.sendReply state exchange) where
  count := account.count
  opened := by
    intro other inside
    exact account.opened other (List.mem_of_mem_filter inside)
  answered := by
    intro reply inside
    rcases List.mem_append.mp inside with before | new
    · exact account.answered reply before
    · obtain rfl := List.mem_singleton.mp new
      obtain ⟨arrival, found, same, ahead⟩ := account.opened exchange member
      have passed : due options exchange.number arrival ≤ state.now := by
        rw [same] at come
        exact of_decide_eq_true come
      refine ⟨arrival, found, ?_, passed⟩
      rw [same, Nat.le_antisymm ahead passed]
      rfl
  numbers := by
    have answered := (numbers_sendReply account.nodup_opened member).append_right
      (state.replies.map Reply.number)
    have last : (Server.sendReply state exchange).replies.map Reply.number =
        state.replies.map Reply.number ++ [exchange.number] := List.map_append
    rw [last, ← List.append_assoc]
    exact (List.perm_append_singleton _ _).trans (answered.symm.trans account.numbers)

theorem advance (account : Accounted options requests state) {time : Nat}
    (later : state.now ≤ time)
    (within : ∀ moment, some moment ∈ moments state → time ≤ moment) :
    Accounted options requests { state with now := time } where
  count := account.count
  opened := by
    intro exchange member
    obtain ⟨arrival, found, same, _⟩ := account.opened exchange member
    refine ⟨arrival, found, same, within _ (List.mem_cons_of_mem _ ?_)⟩
    refine List.mem_map.mpr ⟨exchange, member, ?_⟩
    rw [same]
    rfl
  answered := by
    intro reply member
    obtain ⟨arrival, found, same, passed⟩ := account.answered reply member
    exact ⟨arrival, found, same, Nat.le_trans passed later⟩
  numbers := account.numbers

end Accounted

theorem Runs.account (runs : Runs options shutdown state deeds) :
    Accounted options (arrivals deeds) state := by
  induction runs with
  | start => exact ⟨rfl, by simp [Server.start], by simp [Server.start], .refl _⟩
  | step _ stepped account =>
      cases step?_cases stepped with
      | accept _ untriggered =>
          rw [arrivals_snoc_of_some rfl]
          exact account.accept _ untriggered
      | reply _ member come =>
          rw [arrivals_snoc_of_none rfl]
          exact account.sendReply member come
      | trigger | fail =>
          rw [arrivals_snoc_of_none rfl]
          exact account.of_same rfl rfl rfl rfl
      | loop move =>
          rw [arrivals_snoc_of_none rfl]
          cases move with
          | overtaken | close | conclude | force => exact account.of_same rfl rfl rfl rfl
      | advance later _ _ within =>
          rw [arrivals_snoc_of_none rfl]
          exact account.advance (Nat.le_of_lt later) within

/-! ## What becomes of a request -/

/-- A request has been answered once: by its handler when that has ended before the
timeout, and at the timeout if it had not. -/
structure Answered (options : Options) (replies : List Reply) (number : Nat)
    (arrival : Arrival) : Prop where
  once : (replies.map Reply.number).count number = 1
  own : ∀ delay, (ownAnswer options number arrival.request).delay = some delay →
    (Duration.ofMilliseconds delay).nanoseconds < options.timeout.nanoseconds →
    ⟨arrival.time + delay, number, (ownAnswer options number arrival.request).result⟩ ∈ replies
  timedOut : (∀ delay, (ownAnswer options number arrival.request).delay = some delay →
      options.timeout.nanoseconds ≤ (Duration.ofMilliseconds delay).nanoseconds) →
    ⟨arrival.time + options.timeout.timerMilliseconds, number, .timedOut⟩ ∈ replies

theorem replyOf_of_early {delay : Nat}
    (own : (ownAnswer options number arrival.request).delay = some delay)
    (early : delay < options.timeout.timerMilliseconds) :
    replyOf options number arrival =
      ⟨arrival.time + delay, number, (ownAnswer options number arrival.request).result⟩ := by
  rw [replyOf, due, withTimeout_of_early own early, own, answerDelay,
    Nat.min_eq_left (Nat.le_of_lt early)]

theorem replyOf_of_late
    (late : ∀ delay, (ownAnswer options number arrival.request).delay = some delay →
      options.timeout.timerMilliseconds ≤ delay) :
    replyOf options number arrival =
      ⟨arrival.time + options.timeout.timerMilliseconds, number, .timedOut⟩ := by
  rw [replyOf, due, withTimeout_of_late late]
  cases own : (ownAnswer options number arrival.request).delay with
  | none => rfl
  | some delay => rw [answerDelay, Nat.min_eq_right (late delay own)]

namespace Accounted

/-- When none is open, all are answered. -/
theorem replyOf_mem (account : Accounted options requests state) (none_open : state.opened = [])
    (found : requests[number]? = some arrival) :
    replyOf options number arrival ∈ state.replies := by
  have known : number ∈ List.range requests.length :=
    List.mem_range.mpr (List.getElem?_eq_some_iff.mp found).1
  have answered := account.numbers.mem_iff.mpr known
  rw [none_open] at answered
  obtain ⟨reply, member, rfl⟩ := List.mem_map.mp answered
  obtain ⟨other, same, rest, _⟩ := account.answered reply member
  rw [found, Option.some.injEq] at same
  rw [same, ← rest]
  exact member

theorem due_le_now (account : Accounted options requests state) (none_open : state.opened = [])
    (found : requests[number]? = some arrival) : due options number arrival ≤ state.now := by
  obtain ⟨_, _, same, passed⟩ := account.answered _ (account.replyOf_mem none_open found)
  exact Nat.le_trans (Nat.le_of_eq (congrArg Reply.time same)) passed

/-- Whoever waits for an answer has not been kept waiting beyond the moment due. -/
theorem exists_now_le_due (account : Accounted options requests state)
    (some_open : state.opened ≠ []) :
    ∃ number arrival, requests[number]? = some arrival ∧
      state.now ≤ due options number arrival := by
  obtain ⟨exchange, member⟩ := List.exists_mem_of_ne_nil _ some_open
  obtain ⟨arrival, found, _, ahead⟩ := account.opened exchange member
  exact ⟨exchange.number, arrival, found, ahead⟩

theorem replied (account : Accounted options requests state) (none_open : state.opened = [])
    (found : requests[number]? = some arrival) :
    Answered options state.replies number arrival where
  once := by
    have numbers := account.numbers
    rw [none_open, List.map_nil, List.nil_append] at numbers
    rw [numbers.count_eq]
    exact List.count_eq_one_of_mem List.nodup_range
      (List.mem_range.mpr (List.getElem?_eq_some_iff.mp found).1)
  own := by
    intro delay own early
    rw [← replyOf_of_early own (Duration.lt_timerMilliseconds_iff.mpr early)]
    exact account.replyOf_mem none_open found
  timedOut := by
    intro late
    rw [← replyOf_of_late]
    · exact account.replyOf_mem none_open found
    · intro delay own
      refine Nat.le_of_not_lt fun early => ?_
      exact Nat.not_lt.mpr (late delay own) (Duration.lt_timerMilliseconds_iff.mp early)

end Accounted

end Server

end Http

end AtLeastOnce
