import AtLeastOnce.Proofs.Handling.Timing
import AtLeastOnce.Proofs.Http.Exchanges
import AtLeastOnce.Proofs.Inevitably

/-!
# The listener stops in time

A server does not stop before the shutdown.  From then on it waits for the answers that
are still to come, for the grace period at most, and whether that is long enough is
settled by when the last of them is due.  Since no answer takes longer than the timeout,
a longer grace period is always long enough.
-/

namespace AtLeastOnce.Http.Server

variable {options : Options} {shutdown : Shutdown} {state next : State} {deeds : List Deed}
  {requests : List Arrival} {moment : Nat}

/-! ## The last answer -/

/-- When the last request is answered, or the shutdown begins if that is later. -/
def lastAnswer (options : Options) (moment : Nat) (requests : List Arrival) : Nat :=
  (requests.zipIdx.map fun (arrival, number) => due options number arrival).foldr max moment

theorem lastAnswer_le_iff {bound : Nat} :
    lastAnswer options moment requests ≤ bound ↔
      moment ≤ bound ∧ ∀ number arrival, requests[number]? = some arrival →
        due options number arrival ≤ bound := by
  have highest : ∀ moments : List Nat,
      moments.foldr max moment ≤ bound ↔ moment ≤ bound ∧ ∀ time ∈ moments, time ≤ bound := by
    intro moments
    induction moments with
    | nil => simp
    | cons first rest induction =>
        rw [List.foldr_cons, Nat.max_le, induction, List.forall_mem_cons]
        exact and_left_comm
  rw [lastAnswer, highest, List.forall_mem_map]
  simp only [Prod.forall, List.mk_mem_zipIdx_iff_getElem?]
  exact and_congr_right fun _ => forall_comm

theorem le_lastAnswer : moment ≤ lastAnswer options moment requests :=
  (lastAnswer_le_iff.mp (Nat.le_refl _)).1

theorem due_le_lastAnswer {number : Nat} {arrival : Arrival}
    (found : requests[number]? = some arrival) :
    due options number arrival ≤ lastAnswer options moment requests :=
  (lastAnswer_le_iff.mp (Nat.le_refl _)).2 number arrival found

/-! ## The task of a server without a fault -/

theorem of_taskEnd? {result : Except Failure Unit} (sound : state.fault = none)
    (ended : taskEnd? state = some result) :
    state.shutdown.triggered = true ∧ state.opened = [] ∧ result = .ok () := by
  simp only [taskEnd?, sound, Option.ite_none_right_eq_some, Bool.and_eq_true,
    List.isEmpty_iff, Option.some.injEq] at ended
  obtain ⟨⟨triggered, none_open⟩, same⟩ := ended
  exact ⟨triggered, none_open, same.symm⟩

theorem opened_ne_nil (sound : state.fault = none) (triggered : state.shutdown.triggered = true)
    (unended : taskEnd? state = none) : state.opened ≠ [] := by
  intro none_open
  simp [taskEnd?, sound, triggered, none_open] at unended

theorem Move.sound {action : Action} (move : Move options state action next)
    (sound : next.fault = none) : state.fault = none := by
  cases move with
  | accept | reply | trigger | advance => exact sound
  | fail => cases sound
  | loop move =>
      cases move with
      | overtaken | close | conclude | force => exact sound

/-- Nothing but the shutdown stops a server without a fault. -/
theorem Runs.serving (runs : Runs options shutdown state deeds) (sound : state.fault = none)
    (untold : shutdownAt? shutdown deeds = none) : state.phase = .serving := by
  induction runs with
  | start => rfl
  | @step state next deeds action runs stepped induction =>
      have move := step?_cases stepped
      have before : shutdownAt? shutdown deeds = none := by
        refine Option.eq_none_iff_forall_ne_some.mpr ?_
        intro moment told
        rw [shutdownAt?_append told] at untold
        cases untold
      have serving := induction (move.sound sound) before
      have untriggered : state.shutdown.triggered = false := by
        rw [runs.triggered, before]
        rfl
      cases move with
      | accept | reply | trigger | fail | advance => exact serving
      | loop move =>
          cases move with
          | overtaken _ ended =>
              rw [(of_taskEnd? sound ended).1] at untriggered
              cases untriggered
          | close _ triggered =>
              rw [triggered] at untriggered
              cases untriggered
          | conclude phase | force phase =>
              rw [serving] at phase
              cases phase

/-! ## The clock after the shutdown -/

/-- Where a server stands that was told to stop at a moment. -/
inductive Standing (options : Options) (moment : Nat) (state : State) : Prop where
  | serving (phase : state.phase = .serving) (now : state.now = moment)
  | closing (phase : state.phase = .closing (moment + options.grace.timerMilliseconds))
      (within : state.now ≤ moment + options.grace.timerMilliseconds)
  | answered (phase : state.phase = .stopped (.ok ())) (none_open : state.opened = [])
      (within : state.now ≤ moment + options.grace.timerMilliseconds)
  | forced (phase : state.phase = .stopped (.error (.shutdown (graceError options))))
      (some_open : state.opened ≠ [])
      (now : state.now = moment + options.grace.timerMilliseconds)

/-- The clock goes on only to the next answer, and not beyond the grace period. -/
structure Timely (options : Options) (moment : Nat) (requests : List Arrival) (state : State) :
    Prop where
  since : moment ≤ state.now
  ahead : state.now ≤ lastAnswer options moment requests
  standing : Standing options moment state

theorem Standing.of_loopMove (standing : Standing options moment state)
    (sound : state.fault = none) (triggered : state.shutdown.triggered = true)
    (move : LoopMove options state next) : Standing options moment next := by
  cases move with
  | overtaken phase ended =>
      obtain ⟨_, none_open, rfl⟩ := of_taskEnd? sound ended
      cases standing with
      | serving _ now => exact .answered rfl none_open (now ▸ Nat.le_add_right _ _)
      | closing other | answered other | forced other =>
          rw [phase] at other
          cases other
  | close phase =>
      cases standing with
      | serving _ now =>
          refine .closing ?_ (now ▸ Nat.le_add_right _ _)
          rw [← now]
          rfl
      | closing other | answered other | forced other =>
          rw [phase] at other
          cases other
  | conclude phase ended =>
      obtain ⟨_, none_open, rfl⟩ := of_taskEnd? sound ended
      cases standing with
      | closing _ within => exact .answered rfl none_open within
      | serving other | answered other | forced other =>
          rw [phase] at other
          cases other
  | force phase unended late =>
      cases standing with
      | closing same within =>
          rw [phase] at same
          cases same
          exact .forced rfl (opened_ne_nil sound triggered unended) (Nat.le_antisymm within late)
      | serving other | answered other | forced other =>
          rw [phase] at other
          cases other

theorem Standing.of_running (standing : Standing options moment state)
    (running : isStopped state = false) (phase : next.phase = state.phase)
    (now : next.now = state.now) : Standing options moment next := by
  cases standing with
  | serving same here => exact .serving (phase.trans same) (now.trans here)
  | closing same within => exact .closing (phase.trans same) (now ▸ within)
  | answered same | forced same => simp [isStopped, same] at running

namespace Timely

theorem step {action : Action} (timely : Timely options moment requests state)
    (account : Accounted options requests state) (triggered : state.shutdown.triggered = true)
    (move : Move options state action next) (sound : next.fault = none) :
    Timely options moment requests next := by
  have before := move.sound sound
  obtain ⟨since, ahead, standing⟩ := timely
  cases move with
  | accept _ untriggered =>
      rw [triggered] at untriggered
      cases untriggered
  | reply running => exact ⟨since, ahead, standing.of_running running rfl rfl⟩
  | trigger =>
      refine ⟨since, ahead, ?_⟩
      cases standing with
      | serving phase now => exact .serving phase now
      | closing phase within => exact .closing phase within
      | answered phase none_open within => exact .answered phase none_open within
      | forced phase some_open now => exact .forced phase some_open now
  | fail => cases sound
  | loop move =>
      have standing := standing.of_loopMove before triggered move
      cases move with
      | overtaken | close | conclude | force => exact ⟨since, ahead, standing⟩
  | advance later running waits within =>
      cases waits with
      | serving _ untriggered =>
          rw [triggered] at untriggered
          cases untriggered
      | stopped stopped =>
          rw [running] at stopped
          cases stopped
      -- Somebody still waits for an answer, which is due at this moment or later.
      | closing phase unended =>
          obtain ⟨number, arrival, found, due⟩ :=
            (account.advance (Nat.le_of_lt later) within).exists_now_le_due
              (opened_ne_nil before triggered unended)
          refine
            { since := Nat.le_trans since (Nat.le_of_lt later)
              ahead := Nat.le_trans due (due_le_lastAnswer found)
              standing := ?_ }
          cases standing with
          | closing same =>
              refine .closing same (within _ ?_)
              simp [moments, same]
          | serving other | answered other | forced other =>
              rw [phase] at other
              cases other

end Timely

theorem Runs.timely (runs : Runs options shutdown state deeds) (sound : state.fault = none)
    (told : shutdownAt? shutdown deeds = some moment) :
    Timely options moment (arrivals deeds) state := by
  induction runs with
  | start =>
      obtain rfl : 0 = moment := by
        unfold shutdownAt? at told
        split at told
        · exact Option.some.inj told
        · cases told
      exact ⟨Nat.le_refl _, Nat.zero_le _, .serving rfl rfl⟩
  | @step state next deeds action runs stepped induction =>
      have move := step?_cases stepped
      cases before : shutdownAt? shutdown deeds with
      | some earlier =>
          obtain rfl : earlier = moment := by
            rw [shutdownAt?_append before] at told
            exact Option.some.inj told
          have triggered := runs.triggered_of_told before
          have timely :=
            (induction (move.sound sound) before).step runs.account triggered move sound
          cases move with
          | accept _ untriggered =>
              rw [triggered] at untriggered
              cases untriggered
          | reply | trigger | loop | fail | advance =>
              rwa [arrivals_snoc_of_none rfl]
      | none =>
          cases move with
          | trigger =>
              rw [shutdownAt?_snoc_trigger before] at told
              obtain rfl := Option.some.inj told
              exact ⟨Nat.le_refl _, le_lastAnswer, .serving (runs.serving sound before) rfl⟩
          | accept | reply | loop | fail | advance =>
              rw [shutdownAt?_snoc_of_other rfl, before] at told
              cases told

/-! ## How it stops -/

/-- How a server stops that was told to at a moment, having accepted some requests. -/
structure Stops (options : Options) (moment : Nat) (requests : List Arrival) (state : State) :
    Prop where
  stopped : isStopped state = true
  within : moment ≤ state.now ∧ state.now ≤ moment + options.grace.timerMilliseconds
  /-- With the last answer, if the grace period has not ended by then; -/
  clean : (∀ number arrival, requests[number]? = some arrival →
      due options number arrival < moment + options.grace.timerMilliseconds) →
    state.phase = .stopped (.ok ()) ∧ state.now = lastAnswer options moment requests
  /-- at the end of the grace period, if an answer would come later. -/
  forced : (∃ number arrival, requests[number]? = some arrival ∧
      moment + options.grace.timerMilliseconds < due options number arrival) →
    state.phase = .stopped (.error (.shutdown (.timeout "http server" options.grace))) ∧
      state.now = moment + options.grace.timerMilliseconds
  answered : state.phase = .stopped (.ok ()) → ∀ number arrival,
    requests[number]? = some arrival → Answered options state.replies number arrival
  /-- A grace period beyond the timeout of a request is long enough. -/
  lenient : options.timeout.nanoseconds < options.grace.nanoseconds →
    (∀ arrival ∈ requests, arrival.time < moment) → state.phase = .stopped (.ok ())

theorem due_lt_of_shorter (shorter : options.timeout.nanoseconds < options.grace.nanoseconds)
    {arrival : Arrival} (before : arrival.time < moment) (number : Nat) :
    due options number arrival < moment + options.grace.timerMilliseconds :=
  calc
    due options number arrival ≤ arrival.time + options.timeout.timerMilliseconds :=
      due_le options number arrival
    _ ≤ arrival.time + options.grace.timerMilliseconds :=
      Nat.add_le_add_left (Duration.timerMilliseconds_le (Nat.le_of_lt shorter)) _
    _ < moment + options.grace.timerMilliseconds := Nat.add_lt_add_right before _

namespace Timely

theorem clean (timely : Timely options moment requests state)
    (account : Accounted options requests state) (stopped : isStopped state = true)
    (early : ∀ number arrival, requests[number]? = some arrival →
      due options number arrival < moment + options.grace.timerMilliseconds) :
    state.phase = .stopped (.ok ()) ∧ state.now = lastAnswer options moment requests := by
  cases timely.standing with
  | serving phase | closing phase => simp [isStopped, phase] at stopped
  | answered phase none_open =>
      refine ⟨phase, Nat.le_antisymm timely.ahead (lastAnswer_le_iff.mpr ⟨timely.since, ?_⟩)⟩
      intro number arrival found
      exact account.due_le_now none_open found
  | forced _ some_open now =>
      obtain ⟨number, arrival, found, ahead⟩ := account.exists_now_le_due some_open
      rw [now] at ahead
      exact absurd (early number arrival found) (Nat.not_lt.mpr ahead)

theorem stops (timely : Timely options moment requests state)
    (account : Accounted options requests state) (stopped : isStopped state = true) :
    Stops options moment requests state where
  stopped := stopped
  within := by
    refine ⟨timely.since, ?_⟩
    cases timely.standing with
    | serving _ now => exact now ▸ Nat.le_add_right _ _
    | closing _ within | answered _ _ within => exact within
    | forced _ _ now => exact Nat.le_of_eq now
  clean := timely.clean account stopped
  forced := by
    rintro ⟨number, arrival, found, late⟩
    cases timely.standing with
    | serving phase | closing phase => simp [isStopped, phase] at stopped
    | answered _ none_open within =>
        have passed := account.due_le_now none_open found
        exact absurd (Nat.le_trans passed within) (Nat.not_le.mpr late)
    | forced phase _ now => exact ⟨phase, now⟩
  answered := by
    intro phase number arrival found
    cases timely.standing with
    | serving other | closing other | forced other =>
        rw [phase] at other
        cases other
    | answered _ none_open => exact account.replied none_open found
  lenient := by
    intro shorter before
    refine (timely.clean account stopped ?_).1
    intro number arrival found
    exact due_lt_of_shorter shorter (before arrival (List.mem_of_getElem? found)) number

end Timely

/-! ## That it stops -/

/-- Whether an action is taken by the server, by its task, or by the clock. -/
def Action.isOwn : Action → Bool
  | .reply _ => true
  | .loop _ => true
  | .advance _ => true
  | _ => false

/-- A step that nobody takes from outside. -/
def Own (options : Options) (state next : State) : Prop :=
  ∃ action : Action, action.isOwn = true ∧ step? options state action = some next

/-- A server without a fault that was told to stop. -/
structure Told (options : Options) (shutdown : Shutdown) (moment : Nat)
    (requests : List Arrival) (state : State) : Prop where
  sound : state.fault = none
  run : ∃ deeds, Runs options shutdown state deeds ∧ shutdownAt? shutdown deeds = some moment ∧
    arrivals deeds = requests

namespace Told

theorem timely (told : Told options shutdown moment requests state) :
    Timely options moment requests state := by
  obtain ⟨sound, deeds, runs, since, rfl⟩ := told
  exact runs.timely sound since

theorem account (told : Told options shutdown moment requests state) :
    Accounted options requests state := by
  obtain ⟨sound, deeds, runs, since, rfl⟩ := told
  exact runs.account

theorem triggered (told : Told options shutdown moment requests state) :
    state.shutdown.triggered = true := by
  obtain ⟨sound, deeds, runs, since, rfl⟩ := told
  exact runs.triggered_of_told since

theorem own (told : Told options shutdown moment requests state)
    (own : Own options state next) : Told options shutdown moment requests next := by
  obtain ⟨sound, deeds, runs, since, rfl⟩ := told
  obtain ⟨action, own, stepped⟩ := own
  refine ⟨?_, _, .step runs stepped, shutdownAt?_append since _, ?_⟩
  · cases step?_cases stepped with
    | accept | fail => cases own
    | trigger | reply | advance => exact sound
    | loop move =>
        cases move with
        | overtaken | close | conclude | force => exact sound
  · cases action with
    | accept | fail | trigger => cases own
    | reply | loop | advance => exact arrivals_snoc_of_none rfl

end Told

/-- What is left to be done: the answers, the time to the deadline, and the way there. -/
def left (options : Options) (state : State) : Nat :=
  state.opened.length +
    match state.phase with
    | .serving => options.grace.timerMilliseconds + 2
    | .closing deadline => deadline - state.now + 1
    | .stopped _ => 0

/-- Whoever waits under the flag waits for an answer, or for the deadline. -/
theorem exists_own_of_waits {deadline : Nat} (phase : state.phase = .closing deadline)
    (idle : loopStep? options false state = none) (early : state.now < deadline) :
    ∃ next, Own options state next := by
  have running : isStopped state = false := by simp [isStopped, phase]
  by_cases come : ∃ exchange ∈ state.opened, isDue state.now exchange.endsAt = true
  · obtain ⟨exchange, member, due⟩ := come
    have found : (state.opened.find? fun other => other.number = exchange.number &&
        isDue state.now other.endsAt).isSome = true := by
      rw [List.find?_isSome]
      exact ⟨exchange, member, by simp [due]⟩
    obtain ⟨first, found⟩ := Option.isSome_iff_exists.mp found
    exact ⟨_, .reply exchange.number, rfl, by simp [step?, running, found]; rfl⟩
  · have inside : some deadline ∈ moments state := by simp [moments, phase]
    obtain ⟨time, earliest⟩ : ∃ time, earliest? (moments state) = some time := by
      refine Option.ne_none_iff_exists'.mp ?_
      intro none_waits
      cases eq_none_of_earliest? none_waits inside
    have later : state.now < time := by
      rcases List.mem_cons.mp (mem_of_earliest? earliest) with same | waited
      · rw [phase] at same
        exact Option.some.inj same ▸ early
      · obtain ⟨exchange, member, ends⟩ := List.mem_map.mp waited
        refine Nat.lt_of_not_le fun passed => come ⟨exchange, member, ?_⟩
        rw [ends]
        exact decide_eq_true passed
    refine ⟨_, .advance time, rfl, if_pos ?_⟩
    simp only [mayAdvance, later, running, idle, decide_true, Bool.not_false,
      Option.isNone_none, Bool.and_self, Bool.true_and, List.all_eq_true]
    intro waited member
    cases waited with
    | none => rfl
    | some waited => exact decide_eq_true (le_of_earliest? earliest member)

theorem Told.exists_own (told : Told options shutdown moment requests state)
    (running : isStopped state = false) : ∃ next, Own options state next := by
  cases stepped : loopStep? options false state with
  | some next => exact ⟨next, .loop false, rfl, stepped⟩
  | none =>
      cases waits_of_loopStep? stepped with
      | serving _ untriggered =>
          rw [told.triggered] at untriggered
          cases untriggered
      | closing phase _ early => exact exists_own_of_waits phase stepped early
      | stopped stopped =>
          rw [running] at stopped
          cases stopped

theorem Told.left_lt (told : Told options shutdown moment requests state)
    (own : Own options state next) : left options next < left options state := by
  obtain ⟨action, own, stepped⟩ := own
  unfold left
  cases step?_cases stepped with
  | accept | trigger | fail => cases own
  | @reply exchange running member =>
      refine Nat.add_lt_add_right ?_ _
      exact List.length_filter_lt_length_iff_exists.mpr ⟨exchange, member, by simp⟩
  | loop move =>
      cases move with
      | overtaken phase | conclude phase | force phase =>
          simp only [phase, conclude, force]
          omega
      | close phase =>
          simp only [phase, close]
          omega
  | advance later running waits within =>
      cases waits with
      | serving _ untriggered =>
          rw [told.triggered] at untriggered
          cases untriggered
      | stopped stopped =>
          rw [running] at stopped
          cases stopped
      | @closing deadline phase _ early =>
          have reached := within deadline (by simp [moments, phase])
          simp only [phase]
          omega

theorem Told.inevitable (told : Told options shutdown moment requests state) :
    Inevitably (Own options) (Stops options moment requests) state := by
  have running : ∀ {here}, Told options shutdown moment requests here →
      ¬ Stops options moment requests here → isStopped here = false := by
    intro here told unstopped
    refine eq_false_of_ne_true fun stopped => unstopped ?_
    exact told.timely.stops told.account stopped
  refine Inevitably.of_measure (Told options shutdown moment requests) (left options) ?_ ?_ told
  · intro here told unstopped
    exact told.exists_own (running told unstopped)
  · intro here next told _ own
    exact .inr ⟨told.own own, told.left_lt own⟩

/-- What is promised to a run of the listener: as long as its task lives, it does not stop
before the shutdown, and once it was told, it cannot but stop in time. -/
structure StopsInTime (options : Options) (shutdown : Shutdown) (deeds : List Deed)
    (state : State) : Prop where
  patient : state.fault = none → isStopped state = true →
    ∃ moment, shutdownAt? shutdown deeds = some moment ∧ moment ≤ state.now
  inevitable : state.fault = none → ∀ moment, shutdownAt? shutdown deeds = some moment →
    Inevitably (Own options) (Stops options moment (arrivals deeds)) state

theorem Runs.stopsInTime (runs : Runs options shutdown state deeds) :
    StopsInTime options shutdown deeds state where
  patient := by
    intro sound stopped
    cases told : shutdownAt? shutdown deeds with
    | none =>
        have serving := runs.serving sound told
        simp [isStopped, serving] at stopped
    | some moment => exact ⟨moment, rfl, (runs.timely sound told).since⟩
  inevitable := by
    intro sound moment told
    exact Told.inevitable ⟨sound, deeds, runs, told, rfl⟩

/-- A route that answers after a delay, or never. -/
def workRoute (delay : Option Nat) : Router :=
  [⟨[.literal "work"], fun _ _ => ⟨delay, .text 200 "done"⟩⟩]

/-- The first request takes a while, and the others never come to an end. -/
def slowOptions : Options :=
  { router := workRoute none
    timeout := .ofMilliseconds 1000
    grace := .ofMilliseconds 2000
    address := "127.0.0.1:8080"
    routerFor := fun number => workRoute (if number = 0 then some 200 else none) }

/-- Two requests are open when the server is told to stop. -/
def slowDeeds : List Deed :=
  [⟨0, .advance 10⟩, ⟨10, .accept ⟨"GET", "/work"⟩⟩, ⟨10, .accept ⟨"GET", "/work"⟩⟩,
    ⟨10, .advance 50⟩, ⟨50, .trigger⟩]

def slowState : State :=
  { start slowOptions ⟨true⟩ with
    now := 50
    accepted := 2
    opened := [⟨0, some 210, .text 200 "done"⟩, ⟨1, some 1010, .timedOut⟩] }

theorem slow_runs : Runs slowOptions .idle slowState slowDeeds := by
  have ready := @Runs.step slowOptions .idle _ _ _ (.advance 10) .start rfl
  have first := @Runs.step _ _ _ _ _ (.accept ⟨"GET", "/work"⟩) ready rfl
  have second := @Runs.step _ _ _ _ _ (.accept ⟨"GET", "/work"⟩) first rfl
  have waiting := @Runs.step _ _ _ _ _ (.advance 50) second rfl
  have told := @Runs.step _ _ _ slowState _ .trigger waiting rfl
  exact told

theorem stopsInTime_slow :
    Runs slowOptions .idle slowState slowDeeds ∧
      Inevitably (Own slowOptions)
        (fun final => final.phase = .stopped (.ok ()) ∧ final.now = 1010 ∧
          ⟨210, 0, .text 200 "done"⟩ ∈ final.replies ∧ ⟨1010, 1, .timedOut⟩ ∈ final.replies)
        slowState := by
  refine ⟨slow_runs, ?_⟩
  have stops := slow_runs.stopsInTime.inevitable rfl 50 rfl
  refine stops.imp_of_kept (fun _ => True) (fun _ _ _ => trivial) ?_ trivial
  intro final _ stops
  have before : ∀ arrival ∈ arrivals slowDeeds, arrival.time < 50 := by decide
  obtain ⟨phase, now⟩ := stops.clean fun number arrival found =>
    due_lt_of_shorter (by decide) (before arrival (List.mem_of_getElem? found)) number
  have answered := stops.answered phase
  exact ⟨phase, now, (answered 0 _ rfl).own 200 rfl (by decide),
    (answered 1 _ rfl).timedOut (by decide)⟩

end AtLeastOnce.Http.Server
