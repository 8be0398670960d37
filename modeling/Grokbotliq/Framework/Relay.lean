import Grokbotliq.Framework.Runs

/-!
# A relay between two bounded channels

A supplier puts events into a bounded channel; a task takes one after another out of it, notes
it in a state it shares with others, and sends it on into a second bounded channel, which a
consumer reads.  The supplier may close its end and the consumer may hang up, each at any time;
the task leaves when either has happened and it gets to see it, and settles the shared state on
its way out.  A send into a full channel waits, and so does a receive from an empty one.  The
channels are tokio's bounded `mpsc`: first in, first out, what was sent before the sender closed
is still received, and a send fails once the receiver is gone.

`Relay` is the state of all four, with what has been sent, noted and received so far, and a
run is any interleaving of their moves with those of whoever else touches the shared state.
`InOrder` is the invariant of every run: what has been received, what is in flight and what
has not been taken yet are, in this order, what was sent.  `delivered_of_rounds` is its
counterpart: once nothing more is sent, a consumer that keeps reading gets all of it.

The steps are total: a move that would have to wait leaves the state as it is, and `step_cases`
gives the moves that do something with the guard under which they do.  The measure of the liveness
proof is `work`, the moves left before the supplier's next.  A quiet move lowers it or has nothing
to do (`work_step`), and where neither the task nor the consumer has anything to do everything has
been delivered (`delivered_of_waits`).
-/

namespace Grokbotliq

/-- What the task of a relay is doing. -/
inductive RelayPhase (ε : Type*)
  | receiving
  | noting (ev : ε)
  | sending (ev : ε)
  | leaving
  | ended
  deriving DecidableEq

namespace RelayPhase

variable {ε : Type*}

/-- Taken and not noted yet. -/
def fresh : RelayPhase ε → List ε
  | .noting ev => [ev]
  | _ => []

/-- Noted and not sent on yet. -/
def held : RelayPhase ε → List ε
  | .sending ev => [ev]
  | _ => []

/-- Past the loop. -/
def past : RelayPhase ε → Bool
  | .leaving => true
  | .ended => true
  | _ => false

def isEnded : RelayPhase ε → Bool
  | .ended => true
  | _ => false

/-- The moves the task has to make before it waits or ends. -/
def toGo : RelayPhase ε → ℕ
  | .receiving => 2
  | .noting _ => 5
  | .sending _ => 4
  | .leaving => 1
  | .ended => 0

end RelayPhase

structure Relay (ε τ : Type*) where
  /-- All the supplier has put into its channel. -/
  sent : List ε
  closed : Bool
  inbox : List ε
  phase : RelayPhase ε
  /-- All the task has noted. -/
  noted : List ε
  outbox : List ε
  listening : Bool
  /-- All the consumer has read. -/
  received : List ε
  side : τ

/-- The capacities of the two channels, what the task does to the shared state at a reading of
its clock, and what others do to it. -/
structure RelayPlan (ε τ κ β : Type*) where
  inRoom : ℕ
  outRoom : ℕ
  note : κ → ε → τ → τ
  finish : τ → τ
  meddle : β → τ → τ

/-- A move of one of the parties, or of somebody else who holds the shared state. -/
inductive RelayMove (ε κ β : Type*)
  | supply (ev : ε)
  | close
  | task (now : κ)
  | read
  | hangUp
  | meddle (call : β)

namespace Relay

variable {ε τ κ β : Type*}

/-- Some events already supplied. -/
def start (events : List ε) (closed : Bool) (side : τ) : Relay ε τ where
  sent := events
  closed := closed
  inbox := events
  phase := .receiving
  noted := []
  outbox := []
  listening := true
  received := []
  side := side

/-- One move of the task; where it would have to wait it stays as it is. -/
def advance (plan : RelayPlan ε τ κ β) (now : κ) (s : Relay ε τ) : Relay ε τ :=
  match s.phase with
  | .receiving =>
    match s.inbox with
    | ev :: rest => { s with inbox := rest, phase := .noting ev }
    | [] => if s.closed then { s with phase := .leaving } else s
  | .noting ev =>
    { s with side := plan.note now ev s.side, noted := s.noted ++ [ev], phase := .sending ev }
  | .sending ev =>
    if s.listening = false then { s with phase := .leaving }
    else if s.outbox.length < plan.outRoom then
      { s with outbox := s.outbox ++ [ev], phase := .receiving }
    else s
  | .leaving => { s with side := plan.finish s.side, phase := .ended }
  | .ended => s

/-- One receive of the consumer. -/
def readOne (s : Relay ε τ) : Relay ε τ :=
  match s.outbox with
  | ev :: rest =>
    if s.listening then { s with outbox := rest, received := s.received ++ [ev] } else s
  | [] => s

def step (plan : RelayPlan ε τ κ β) (s : Relay ε τ) : RelayMove ε κ β → Relay ε τ
  | .supply ev =>
    if s.closed = false ∧ s.phase.isEnded = false ∧ s.inbox.length < plan.inRoom then
      { s with sent := s.sent ++ [ev], inbox := s.inbox ++ [ev] }
    else s
  | .close => { s with closed := true }
  | .task now => s.advance plan now
  | .read => s.readOne
  | .hangUp => { s with listening := false, outbox := [] }
  | .meddle call => { s with side := plan.meddle call s.side }

/-! ## What one move can do -/

/-- The moves that do something, with the guard each was made under. -/
inductive Moves (plan : RelayPlan ε τ κ β) (s : Relay ε τ) :
    RelayMove ε κ β → Relay ε τ → Prop
  | supplied {ev : ε} (hopen : s.closed = false) (hroom : s.inbox.length < plan.inRoom) :
      Moves plan s (.supply ev) { s with sent := s.sent ++ [ev], inbox := s.inbox ++ [ev] }
  | closed (hopen : s.closed = false) : Moves plan s .close { s with closed := true }
  | took {now : κ} {ev : ε} {rest : List ε} (hphase : s.phase = .receiving)
      (hinbox : s.inbox = ev :: rest) :
      Moves plan s (.task now) { s with inbox := rest, phase := .noting ev }
  | drained {now : κ} (hphase : s.phase = .receiving) (hinbox : s.inbox = [])
      (hclosed : s.closed = true) : Moves plan s (.task now) { s with phase := .leaving }
  | wrote {now : κ} {ev : ε} (hphase : s.phase = .noting ev) :
      Moves plan s (.task now)
        { s with side := plan.note now ev s.side, noted := s.noted ++ [ev], phase := .sending ev }
  | sentOn {now : κ} {ev : ε} (hphase : s.phase = .sending ev) (hears : s.listening = true)
      (hroom : s.outbox.length < plan.outRoom) :
      Moves plan s (.task now) { s with outbox := s.outbox ++ [ev], phase := .receiving }
  | refused {now : κ} {ev : ε} (hphase : s.phase = .sending ev) (hgone : s.listening = false) :
      Moves plan s (.task now) { s with phase := .leaving }
  | settled {now : κ} (hphase : s.phase = .leaving) :
      Moves plan s (.task now) { s with side := plan.finish s.side, phase := .ended }
  | gotOne {ev : ε} {rest : List ε} (hears : s.listening = true) (houtbox : s.outbox = ev :: rest) :
      Moves plan s .read { s with outbox := rest, received := s.received ++ [ev] }
  | hungUp : Moves plan s .hangUp { s with listening := false, outbox := [] }
  | meddled {call : β} : Moves plan s (.meddle call) { s with side := plan.meddle call s.side }

/-- A move either waits or is one of these. -/
lemma step_cases (plan : RelayPlan ε τ κ β) (s : Relay ε τ) (m : RelayMove ε κ β) :
    s.step plan m = s ∨ Moves plan s m (s.step plan m) := by
  cases m with
  | supply ev =>
      rw [step]
      split_ifs with h
      · exact Or.inr (.supplied h.1 h.2.2)
      · exact Or.inl rfl
  | close =>
      rw [step]
      by_cases hclosed : s.closed = true
      · exact Or.inl (by rw [← hclosed])
      · exact Or.inr (.closed (by simpa using hclosed))
  | task now =>
      rw [step]
      unfold advance
      split
      · next hphase =>
          split
          · next ev rest hinbox => exact Or.inr (.took hphase hinbox)
          · next hinbox =>
              split_ifs with hclosed
              · exact Or.inr (.drained hphase hinbox hclosed)
              · exact Or.inl rfl
      · next ev hphase => exact Or.inr (.wrote hphase)
      · next ev hphase =>
          split_ifs with hgone hroom
          · exact Or.inr (.refused hphase hgone)
          · exact Or.inr (.sentOn hphase (by simpa using hgone) hroom)
          · exact Or.inl rfl
      · next hphase => exact Or.inr (.settled hphase)
      · exact Or.inl rfl
  | read =>
      rw [step]
      unfold readOne
      split
      · next ev rest houtbox =>
          split_ifs with hears
          · exact Or.inr (.gotOne hears houtbox)
          · exact Or.inl rfl
      · exact Or.inl rfl
  | hangUp => exact Or.inr .hungUp
  | meddle call => exact Or.inr .meddled

/-! ## Order, and nothing lost -/

/-- What has been received, what is on its way and what has not been taken yet are, in this
order, what was sent; only hanging up takes anything away. -/
structure InOrder (plan : RelayPlan ε τ κ β) (s : Relay ε τ) : Prop where
  taken : s.noted ++ s.phase.fresh ++ s.inbox = s.sent
  passed : s.listening = true → s.received ++ s.outbox ++ s.phase.held = s.noted
  kept : s.received <+: s.noted
  silent : s.listening = false → s.outbox = []
  left : s.phase.past = true → s.listening = true → s.closed = true ∧ s.inbox = []
  inRoom : s.inbox.length ≤ plan.inRoom
  outRoom : s.outbox.length ≤ plan.outRoom

lemma inOrder_start (plan : RelayPlan ε τ κ β) {events : List ε} (closed : Bool) (side : τ)
    (h : events.length ≤ plan.inRoom) : InOrder plan (start events closed side) where
  taken := by simp [start, RelayPhase.fresh]
  passed := by simp [start, RelayPhase.held]
  kept := List.nil_prefix
  silent := fun _ => rfl
  left := by simp [start, RelayPhase.past]
  inRoom := h
  outRoom := Nat.zero_le _

/-- **One move keeps the order.** -/
lemma InOrder.step {plan : RelayPlan ε τ κ β} {s : Relay ε τ} (h : InOrder plan s)
    (m : RelayMove ε κ β) : InOrder plan (s.step plan m) := by
  rcases step_cases plan s m with hsame | hmove
  · rwa [hsame]
  · generalize s.step plan m = s' at hmove
    obtain ⟨htaken, hpassed, hkept, hsilent, hleft, hin, hout⟩ := h
    -- A move shifts the event between two neighbouring places of the chain and leaves the rest.
    cases hmove with
    | supplied hopen hroom =>
        refine ⟨?_, hpassed, hkept, hsilent, fun hpast hears => ?_, ?_, hout⟩
        · simp only [← htaken, List.append_assoc]
        · exact absurd (hleft hpast hears).1 (by simp [hopen])
        · simpa using hroom
    | closed hopen =>
        exact ⟨htaken, hpassed, hkept, hsilent, fun hpast hears => ⟨rfl, (hleft hpast hears).2⟩,
          hin, hout⟩
    | took hphase hinbox =>
        refine ⟨?_, fun hears => ?_, hkept, hsilent, by simp [RelayPhase.past], ?_, hout⟩
        · simpa [hphase, hinbox, RelayPhase.fresh] using htaken
        · simpa [hphase, RelayPhase.held] using hpassed hears
        · rw [hinbox, List.length_cons] at hin
          exact Nat.le_of_succ_le hin
    | drained hphase hinbox hclosed =>
        refine ⟨?_, fun hears => ?_, hkept, hsilent, fun _ _ => ⟨hclosed, hinbox⟩, hin, hout⟩
        · simpa [hphase, RelayPhase.fresh] using htaken
        · simpa [hphase, RelayPhase.held] using hpassed hears
    | wrote hphase =>
        refine ⟨?_, fun hears => ?_, hkept.trans (List.prefix_append _ _), hsilent,
          by simp [RelayPhase.past], hin, hout⟩
        · simpa [hphase, RelayPhase.fresh] using htaken
        -- The event is noted now and held: all that was noted before it has been sent on.
        · have hall : s.received ++ s.outbox = s.noted := by
            simpa [hphase, RelayPhase.held] using hpassed hears
          simp [← hall, RelayPhase.held]
    | sentOn hphase hears hroom =>
        refine ⟨?_, fun _ => ?_, hkept, fun hgone => ?_, by simp [RelayPhase.past], hin, ?_⟩
        · simpa [hphase, RelayPhase.fresh] using htaken
        · simpa [hphase, RelayPhase.held] using hpassed hears
        · exact absurd hears (Bool.eq_false_iff.1 hgone)
        · simpa using hroom
    | refused hphase hgone =>
        refine ⟨?_, fun hears => ?_, hkept, hsilent, fun _ hears => ?_, hin, hout⟩
        · simpa [hphase, RelayPhase.fresh] using htaken
        · exact absurd hears (Bool.eq_false_iff.1 hgone)
        · exact absurd hears (Bool.eq_false_iff.1 hgone)
    | settled hphase =>
        refine ⟨?_, fun hears => ?_, hkept, hsilent, fun _ => hleft (by rw [hphase]; rfl), hin,
          hout⟩
        · simpa [hphase, RelayPhase.fresh] using htaken
        · simpa [hphase, RelayPhase.held] using hpassed hears
    | gotOne hears houtbox =>
        have hall := hpassed hears
        rw [houtbox] at hall hout
        refine ⟨htaken, fun _ => by simpa using hall, ?_, fun hgone => ?_, hleft, hin, ?_⟩
        · exact ⟨_, by simpa using hall⟩
        · exact absurd hears (Bool.eq_false_iff.1 hgone)
        · exact Nat.le_of_succ_le hout
    | hungUp =>
        exact ⟨htaken, by simp, hkept, fun _ => rfl, by simp, hin, Nat.zero_le _⟩
    | meddled => exact ⟨htaken, hpassed, hkept, hsilent, hleft, hin, hout⟩

lemma inOrder_exec {plan : RelayPlan ε τ κ β} {s : Relay ε τ} (h : InOrder plan s)
    (run : List (RelayMove ε κ β)) : InOrder plan (Runs.exec (step plan) s run) :=
  Runs.exec_invariant (InOrder plan) (fun _ m hs => hs.step m) run h

/-! ## Delivery

How long it takes is counted in rounds, in each of which every party but the supplier gets a turn;
in between anybody may move. -/

/-- The moves left before the supplier's next. -/
def work (s : Relay ε τ) : ℕ :=
  4 * s.inbox.length + s.phase.toGo + s.outbox.length + if s.closed then 0 else 1

/-- Neither a new event nor the consumer leaving. -/
def Quiet : RelayMove ε κ β → Prop
  | .supply _ => False
  | .hangUp => False
  | _ => True

/-- Where a quiet move has nothing to do. -/
def Waits (plan : RelayPlan ε τ κ β) (s : Relay ε τ) : RelayMove ε κ β → Prop
  | .task _ =>
    s.phase = .receiving ∧ s.inbox = [] ∧ s.closed = false ∨
      (s.phase.held ≠ [] ∧ plan.outRoom ≤ s.outbox.length) ∨ s.phase = .ended
  | .read => s.outbox = []
  | _ => True

lemma waits_task_of_eq {plan : RelayPlan ε τ κ β} {s : Relay ε τ} {now : κ}
    (h : s.advance plan now = s) : Waits plan s (.task now) := by
  have hphase : (s.advance plan now).phase = s.phase := congrArg Relay.phase h
  cases hcase : s.phase with
  | receiving =>
      simp only [advance, hcase] at hphase
      cases hinbox : s.inbox with
      | nil =>
          cases hclosed : s.closed with
          | false => exact Or.inl ⟨hcase, hinbox, hclosed⟩
          | true => simp [hinbox, hclosed] at hphase
      | cons ev rest => simp [hinbox] at hphase
  | noting ev => simp [advance, hcase] at hphase
  | sending ev =>
      refine Or.inr (Or.inl ⟨by simp [hcase, RelayPhase.held], not_lt.1 fun hroom => ?_⟩)
      cases hears : s.listening <;> simp [advance, hcase, hears, hroom] at hphase
  | leaving => simp [advance, hcase] at hphase
  | ended => exact Or.inr (Or.inr hcase)

/-- A quiet move does some of the work, or has nothing to do and leaves all but the shared
state as it is. -/
lemma work_step (plan : RelayPlan ε τ κ β) {s : Relay ε τ} (hears : s.listening = true)
    {m : RelayMove ε κ β} (hm : Quiet m) :
    (s.step plan m).work < s.work ∨
      (∃ side, s.step plan m = { s with side := side }) ∧ Waits plan s m := by
  rcases step_cases plan s m with hsame | hmove
  · refine Or.inr ⟨⟨s.side, hsame⟩, ?_⟩
    cases m with
    | task now => exact waits_task_of_eq hsame
    | read =>
        have hout : s.readOne.outbox = s.outbox := congrArg Relay.outbox hsame
        cases houtbox : s.outbox with
        | nil => exact houtbox
        | cons ev rest => simp [readOne, houtbox, hears] at hout
    | _ => trivial
  · generalize s.step plan m = s' at hmove
    -- Every move forward uses up work; the two that do not are not quiet.
    cases hmove with
    | supplied => exact absurd hm id
    | closed hopen => exact Or.inl (by simp [work, hopen])
    | took hphase hinbox =>
        refine Or.inl ?_
        simp only [work, hphase, hinbox, RelayPhase.toGo, List.length_cons]
        omega
    | drained hphase => exact Or.inl (by simp [work, hphase, RelayPhase.toGo])
    | wrote hphase => exact Or.inl (by simp [work, hphase, RelayPhase.toGo])
    | sentOn hphase =>
        refine Or.inl ?_
        simp only [work, hphase, RelayPhase.toGo, List.length_append, List.length_singleton]
        omega
    | refused hphase => exact Or.inl (by simp [work, hphase, RelayPhase.toGo])
    | settled hphase => exact Or.inl (by simp [work, hphase, RelayPhase.toGo])
    | gotOne _ houtbox => exact Or.inl (by simp [work, houtbox])
    | hungUp => exact absurd hm id
    | meddled => exact Or.inr ⟨⟨_, rfl⟩, trivial⟩

/-- What quiet moves keep. -/
structure Follows (s s' : Relay ε τ) : Prop where
  listening : s.listening = true → s'.listening = true
  sent : s'.sent = s.sent
  closed : s.closed = true → s'.closed = true
  received : s.received <+: s'.received
  ended : s.phase = .ended → s'.phase = .ended

lemma Follows.refl (s : Relay ε τ) : Follows s s :=
  ⟨id, rfl, id, List.prefix_rfl, id⟩

lemma Follows.trans {s s' s'' : Relay ε τ} (h : Follows s s') (h' : Follows s' s'') :
    Follows s s'' where
  listening := h'.listening ∘ h.listening
  sent := h'.sent.trans h.sent
  closed := h'.closed ∘ h.closed
  received := h.received.trans h'.received
  ended := h'.ended ∘ h.ended

lemma follows_step (plan : RelayPlan ε τ κ β) (s : Relay ε τ) {m : RelayMove ε κ β}
    (hm : Quiet m) : Follows s (s.step plan m) := by
  rcases step_cases plan s m with hsame | hmove
  · rw [hsame]
    exact Follows.refl s
  · generalize s.step plan m = s' at hmove
    cases hmove with
    | supplied => exact absurd hm id
    | closed => exact ⟨id, rfl, fun _ => rfl, List.prefix_rfl, id⟩
    | took hphase => exact ⟨id, rfl, id, List.prefix_rfl, by simp [hphase]⟩
    | drained hphase => exact ⟨id, rfl, id, List.prefix_rfl, by simp [hphase]⟩
    | wrote hphase => exact ⟨id, rfl, id, List.prefix_rfl, by simp [hphase]⟩
    | sentOn hphase => exact ⟨id, rfl, id, List.prefix_rfl, by simp [hphase]⟩
    | refused hphase => exact ⟨id, rfl, id, List.prefix_rfl, by simp [hphase]⟩
    | settled => exact ⟨id, rfl, id, List.prefix_rfl, fun _ => rfl⟩
    | gotOne => exact ⟨id, rfl, id, List.prefix_append _ _, id⟩
    | hungUp => exact absurd hm id
    | meddled => exact ⟨id, rfl, id, List.prefix_rfl, id⟩

lemma follows_exec (plan : RelayPlan ε τ κ β) :
    ∀ (ms : List (RelayMove ε κ β)) (s : Relay ε τ), (∀ m ∈ ms, Quiet m) →
      Follows s (Runs.exec (step plan) s ms)
  | [], s, _ => Follows.refl s
  | m :: ms, s, hms =>
      (follows_step plan s (hms m List.mem_cons_self)).trans
        (follows_exec plan ms _ fun m' hm' => hms m' (List.mem_cons_of_mem _ hm'))

lemma work_exec (plan : RelayPlan ε τ κ β) :
    ∀ (ms : List (RelayMove ε κ β)) (s : Relay ε τ), s.listening = true → (∀ m ∈ ms, Quiet m) →
      (Runs.exec (step plan) s ms).work < s.work ∨
        (∃ side, Runs.exec (step plan) s ms = { s with side := side }) ∧ ∀ m ∈ ms, Waits plan s m
  | [], s, _, _ => Or.inr ⟨⟨s.side, rfl⟩, by simp⟩
  | m :: ms, s, hears, hms => by
      have hm : Quiet m := hms m List.mem_cons_self
      have hears' : (s.step plan m).listening = true := (follows_step plan s hm).listening hears
      have hrest := work_exec plan ms (s.step plan m) hears'
        fun m' hm' => hms m' (List.mem_cons_of_mem _ hm')
      rw [Runs.exec_cons]
      -- One move that does something is enough; otherwise all wait at the state they started from.
      rcases work_step plan hears hm with hless | ⟨⟨side, hsame⟩, hwaits⟩
      · refine Or.inl ?_
        rcases hrest with hless' | ⟨⟨side, hsame⟩, -⟩
        · exact hless'.trans hless
        · rw [hsame]
          exact hless
      · rw [hsame] at hrest ⊢
        refine hrest.imp id ?_
        rintro ⟨hend, hall⟩
        exact ⟨hend, List.forall_mem_cons.2 ⟨hwaits, hall⟩⟩

/-- Every party but the supplier gets a turn, and the consumer stays. -/
def Round (ms : List (RelayMove ε κ β)) : Prop :=
  (∃ now, .task now ∈ ms) ∧ .read ∈ ms ∧ ∀ m ∈ ms, Quiet m

/-- Everything sent by `s₀` has been received, and the task has ended if the supplier had. -/
def Delivered (s₀ s : Relay ε τ) : Prop :=
  s.received = s₀.sent ∧ (s₀.closed = true → s.phase = .ended)

/-- A relay in which neither the task nor the consumer has anything to do. -/
lemma delivered_of_waits {plan : RelayPlan ε τ κ β} {s₀ s : Relay ε τ} {now : κ}
    (h : InOrder plan s) (hroom : 0 < plan.outRoom) (hears : s.listening = true)
    (hsent : s.sent = s₀.sent) (hclosed : s₀.closed = true → s.closed = true)
    (htask : Waits plan s (.task now)) (hread : Waits plan s .read) : Delivered s₀ s := by
  have houtbox : s.outbox = [] := hread
  have hall := h.passed hears
  rw [houtbox, List.append_nil] at hall
  rcases htask with ⟨hphase, hinbox, hopen⟩ | ⟨-, hfull⟩ | hended
  · refine ⟨?_, fun hc => absurd (hclosed hc) (by simp [hopen])⟩
    rw [← hsent, ← h.taken, ← hall, hphase, hinbox]
    simp [RelayPhase.fresh, RelayPhase.held]
  · rw [houtbox, List.length_nil] at hfull
    omega
  · refine ⟨?_, fun _ => hended⟩
    have hinbox : s.inbox = [] := (h.left (by rw [hended]; rfl) hears).2
    rw [← hsent, ← h.taken, ← hall, hended, hinbox]
    simp [RelayPhase.fresh, RelayPhase.held]

/-- **Delivery.**  From any state in order with the consumer listening, once the supplier sends
nothing more, any schedule that gives the task and the consumer a turn in each of more rounds
than there is work has the consumer receive everything sent; and if the supplier has closed,
the task has ended. -/
theorem delivered_of_rounds {plan : RelayPlan ε τ κ β} {s : Relay ε τ} (h : InOrder plan s)
    (hroom : 0 < plan.outRoom) (hears : s.listening = true)
    (rounds : List (List (RelayMove ε κ β))) (hrounds : ∀ ms ∈ rounds, Round ms)
    (hlength : s.work < rounds.length) :
    Delivered s (Runs.exec (step plan) s rounds.flatten) := by
  refine Runs.exec_rounds (fun s' => InOrder plan s' ∧ Follows s s') Round work ?_ ?_ ?_ rounds
    ⟨h, Follows.refl s⟩ hrounds (Or.inr hlength)
  · rintro s' ms ⟨horder, hfollows⟩ ⟨-, -, hquiet⟩
    exact ⟨inOrder_exec horder ms, hfollows.trans (follows_exec plan ms s' hquiet)⟩
  · rintro s' ms ⟨horder, hfollows⟩ ⟨-, -, hquiet⟩ ⟨hall, hended⟩
    have hnext := follows_exec plan ms s' hquiet
    have horder' := inOrder_exec horder ms
    refine ⟨?_, fun hclosed => hnext.ended (hended hclosed)⟩
    -- all of it had been received, and no more than was sent ever is
    have hmost : (Runs.exec (step plan) s' ms).received <+: s.sent := by
      rw [← hfollows.sent, ← hnext.sent, ← horder'.taken, List.append_assoc]
      exact horder'.kept.trans (List.prefix_append _ _)
    refine (hmost.eq_of_length_le ?_)
    rw [← hall]
    exact hnext.received.length_le
  · rintro s' ms ⟨horder, hfollows⟩ ⟨⟨now, htask⟩, hread, hquiet⟩
    rcases work_exec plan ms s' (hfollows.listening hears) hquiet with hless | ⟨⟨side, hend⟩, hall⟩
    · exact Or.inr hless
    · refine Or.inl ?_
      have hdelivered : Delivered s s' := delivered_of_waits horder hroom
        (hfollows.listening hears) hfollows.sent hfollows.closed (hall _ htask) (hall _ hread)
      rw [hend]
      exact hdelivered

/-! ## The shared state

What others do to it is part of the run, so an invariant has to be kept by their moves as well. -/

/-- A relation between what has been noted, whether the task has ended, and the shared state
holds in every run if noting, ending and what others do each keep it. -/
theorem side_exec {plan : RelayPlan ε τ κ β} {P : List ε → Bool → τ → Prop} {C : β → Prop}
    (hnote : ∀ now ev evs x, P evs false x → P (evs ++ [ev]) false (plan.note now ev x))
    (hfinish : ∀ evs x, P evs false x → P evs true (plan.finish x))
    (hmeddle : ∀ call evs ended x, C call → P evs ended x → P evs ended (plan.meddle call x)) :
    ∀ (run : List (RelayMove ε κ β)) {s : Relay ε τ}, (∀ call, .meddle call ∈ run → C call) →
      P s.noted s.phase.isEnded s.side →
      P (Runs.exec (step plan) s run).noted (Runs.exec (step plan) s run).phase.isEnded
        (Runs.exec (step plan) s run).side
  | [], _, _, h => h
  | m :: run, s, hothers, h => by
      refine side_exec hnote hfinish hmeddle run
        (fun call hcall => hothers call (List.mem_cons_of_mem _ hcall)) ?_
      rcases step_cases plan s m with hsame | hmove
      · rwa [hsame]
      · generalize s.step plan m = s' at hmove
        -- Only noting an event, finishing and a call from outside touch the side state.
        cases hmove with
        | supplied => exact h
        | closed => exact h
        | took hphase => exact (by simpa [hphase, RelayPhase.isEnded] using h)
        | drained hphase => exact (by simpa [hphase, RelayPhase.isEnded] using h)
        | wrote hphase =>
            rw [hphase] at h
            exact hnote _ _ _ _ h
        | sentOn hphase => exact (by simpa [hphase, RelayPhase.isEnded] using h)
        | refused hphase => exact (by simpa [hphase, RelayPhase.isEnded] using h)
        | settled hphase =>
            rw [hphase] at h
            exact hfinish _ _ h
        | gotOne => exact h
        | hungUp => exact h
        | meddled => exact hmeddle _ _ _ _ (hothers _ List.mem_cons_self) h

end Relay

end Grokbotliq
